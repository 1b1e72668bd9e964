import ApiCompiler.Name.Words

/-!
# Cases

Four ways to write the words of a text as one name.  They all start from the same words, so one
text is split alike wherever a name is made from it.
-/

namespace ApiCompiler
namespace Name

/-- A word with its first letter in upper case and the others in lower case. -/
def capitalize : List Char → List Char
  | [] => []
  | c :: cs => c.toUpper :: cs.map Char.toLower

/-- A word in lower case. -/
def lower (word : List Char) : List Char := word.map Char.toLower

/-- The same characters, the first one in lower case. -/
def lowerFirst : List Char → List Char
  | [] => []
  | c :: cs => c.toLower :: cs

/-- Capitalized words, joined: `ListPets`. -/
def pascal (text : List Char) : List Char := ((words text).map capitalize).flatten

/-- Pascal case with a small first letter: `listPets`. -/
def camel (text : List Char) : List Char := lowerFirst (pascal text)

/-- Lower-case words between separators. -/
def separated (separator : Char) (text : List Char) : List Char :=
  [separator].intercalate ((words text).map lower)

/-- Lower-case words joined by underscores: `list_pets`. -/
def snake (text : List Char) : List Char := separated '_' text

/-- Lower-case words joined by hyphens: `list-pets`. -/
def kebab (text : List Char) : List Char := separated '-' text

/-- The ways to write a name. -/
inductive Case where
  | pascal
  | camel
  | snake
  | kebab
  deriving DecidableEq

/-- A text written in a case. -/
def Case.apply : Case → List Char → List Char
  | .pascal => Name.pascal
  | .camel => Name.camel
  | .snake => Name.snake
  | .kebab => Name.kebab

/-- A string written in a case. -/
def Case.write (c : Case) (s : String) : String := String.ofList (c.apply s.toList)

end Name
end ApiCompiler
