import ApiCompiler.Yaml.Cursor

/-!
# Tokens

A YAML text is first cut into tokens.  Besides what is written there are tokens for the starts and
the ends of collections of lines, and one in front of every key, which show in columns and colons
only.  A list of tokens ends with `finish`, or with the fault that kept the text from being read
on.
-/

namespace ApiCompiler
namespace Yaml

/-- The smallest parts of a YAML text. -/
inductive Token where
  /-- The directive that names the version of the language; its first number counts. -/
  | version (major : Nat)
  /-- The directive that says what a handle in front of tags stands for. -/
  | handle (name meaning : String)
  /-- A directive that means nothing. -/
  | remark
  | documentStart
  | documentEnd
  | blockSequence
  | blockMapping
  | blockEnd
  | flowSequence
  | flowSequenceEnd
  | flowMapping
  | flowMappingEnd
  | item
  | comma
  | key
  | value
  | alias (name : String)
  | anchor (name : String)
  /-- A tag; without a handle its name is the whole of it. -/
  | tag (handle : Option String) (name : String)
  /-- A scalar; `plain` says that it stands without quotes and is no block. -/
  | scalar (text : List Char) (plain : Bool)
  | finish
  | fault (why : ReadFault)

namespace Token

/-- The fault of a text in which a token stands where it must not. -/
def refused : Token → ReadFault
  | .fault why => why
  | _ => .malformed

end Token

/-- The fault of a text in which the first of some tokens must not stand. -/
def refusedAt : List Token → ReadFault
  | t :: _ => t.refused
  | [] => .malformed

end Yaml
end ApiCompiler
