import ApiCompiler.Api
import ApiCompiler.Text.Classes
import ApiCompiler.Text.Letters

/-!
# Method names

A method is named by the identifier of its operation, or, where that is missing, by its HTTP
method and whether its path has a parameter.  A command may be given that names operations; what
it prints comes first.
-/

namespace ApiCompiler
namespace MethodName

/-- What ends the part of an identifier that names a controller. -/
def controllerMark : List Char := "Controller_".toList

/-- The characters after the first occurrence of a mark. -/
def afterFirst? (mark : List Char) : List Char → Option (List Char)
  | [] => if mark.isEmpty then some [] else none
  | c :: cs =>
    if mark.isPrefixOf (c :: cs) then some ((c :: cs).drop mark.length) else afterFirst? mark cs

/-- The name in the identifier of an operation: what follows the controller, if one is named. -/
def ofOperationId (id : Option String) : String :=
  match id with
  | none => ""
  | some s => String.ofList ((afterFirst? controllerMark s.toList).getD s.toList)

/-- Whether a path has a parameter. -/
def hasParameter (path : String) : Bool := path.toList.contains '\x7b' && path.toList.contains '\x7d'

/-- The name by HTTP method and path. -/
def derived (op : Operation) : String :=
  let method := String.ofList (Text.upper op.method.toList)
  if method = "GET" then if hasParameter op.path then "get" else "list"
  else if method = "POST" then "create"
  else if method = "PUT" then "update"
  else if method = "PATCH" then "update"
  else if method = "DELETE" then "delete"
  else String.ofList (Text.lower method.toList)

/-- The name of an operation without a naming command. -/
def builtIn (op : Operation) : String :=
  if (ofOperationId op.operationId).isEmpty then derived op else ofOperationId op.operationId

end MethodName
end ApiCompiler
