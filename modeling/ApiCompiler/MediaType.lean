import ApiCompiler.Text.Classes
import ApiCompiler.Text.CodePoints

/-!
# Media types

A media type carries JSON if it is one of two types, or has the suffix `+json`, whatever the
letter case and whatever parameters follow a semicolon.  One of the parameters names the character
set of a text.
-/

namespace ApiCompiler
namespace MediaType

/-- The type without its parameters, in lower case. -/
def base (text : String) : List Char :=
  (Text.strip (text.toList.takeWhile (· ≠ ';'))).map Char.toLower

/-- Whether a media type carries JSON. -/
def isJson (text : String) : Bool :=
  let b := base text
  b = "application/json".toList || b = "text/json".toList || "+json".toList.isSuffixOf b

/-! ## Parameters -/

/-- The number of double quotes in a text, those behind a backslash apart. -/
def quotes : List Char → Nat
  | '\\' :: '"' :: rest => quotes rest
  | '"' :: rest => quotes rest + 1
  | _ :: rest => quotes rest
  | [] => 0

/-- Joins the parts between semicolons while a quote is open. -/
def joinQuoted : List (List Char) → List (List Char)
  | part :: next :: rest =>
    if quotes part % 2 = 0 then part :: joinQuoted (next :: rest)
    else joinQuoted ((part ++ ';' :: next) :: rest)
  | parts => parts
termination_by parts => parts.length

/-- A text without the quotes or angle brackets around it. -/
def withoutQuotes (cs : List Char) : List Char :=
  let rec plain : List Char → List Char
    | '\\' :: c :: rest =>
      if c = '\\' || c = '"' then c :: plain rest else '\\' :: plain (c :: rest)
    | c :: rest => c :: plain rest
    | [] => []
  if cs.length > 1 && cs.head? = some '"' && cs.getLast? = some '"' then plain (cs.drop 1).dropLast
  else if cs.length > 1 && cs.head? = some '<' && cs.getLast? = some '>' then (cs.drop 1).dropLast
  else cs

/-- The name and the value of a parameter. -/
def parameter (cs : List Char) : List Char × List Char :=
  let name := cs.takeWhile (· ≠ '=')
  ((Text.strip name).map Char.toLower, withoutQuotes (Text.strip (cs.drop (name.length + 1))))

/-- The character set that a media type names; only ASCII characters name one. -/
def charset? (text : String) : Option String :=
  let parameters := (joinQuoted (CodePoints.cut ';' text.toList)).map parameter
  match parameters.find? (·.1 = "charset".toList) with
  | some p => if p.2.all fun c => c.toNat < 128 then some (String.ofList p.2) else none
  | none => none

/-! ## Bodies -/

/-- The media type of bodies that are preferred to all others. -/
def json : String := "application/json"

/-- The media type of submitted forms. -/
def form : String := "application/x-www-form-urlencoded"

/-- The media types of bodies whose content is not described. -/
def opaqueTypes : List String := ["multipart/form-data", "application/octet-stream"]

/-- The entry of a content map that a request is sent with: JSON before forms before bodies whose
content is not described, and else the first one. -/
def preferred? {α : Type} (content : List (String × α)) :
    Option (String × α) :=
  content.find? (fun e => e.1 = json)
    |>.or (content.find? fun e => isJson e.1)
    |>.or (content.find? fun e => e.1 = form)
    |>.or (opaqueTypes.findSome? fun t => content.find? fun e => e.1 = t)
    |>.or content.head?

end MediaType
end ApiCompiler
