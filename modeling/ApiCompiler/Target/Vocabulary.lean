import ApiCompiler.Json.Writer
import ApiCompiler.Name.Case
import ApiCompiler.Target.TypeExpr
import ApiCompiler.Value.Writing

/-!
# Targets

A target is what types are written for.  Its vocabulary says what it can express and how it
spells it.  `Target.render` spells a type; it breaks down at a scalar of a kind that is none, and at
a literal with a value that JSON cannot have.
-/

namespace ApiCompiler

/-- A spelling around a part. -/
structure Template where
  before : String
  after : String

namespace Template

/-- The part alone. -/
def bare : Template := ⟨"", ""⟩

/-- The spelling around a text. -/
def fill (t : Template) (text : String) : String := t.before ++ text ++ t.after

end Template

/-- Which enumerations are written as literals. -/
inductive LiteralUse where
  | all
  | strings
  | none
  deriving DecidableEq

/-- What a target can express and how it spells it. -/
structure Target where
  name : String
  scalar : Scalar → String
  bytes : String
  null : String
  unknown : String
  sequence : Template
  /-- Whether a compound item of a sequence stands in parentheses. -/
  groupsItems : Bool
  mapping : Template
  named : Template
  optional : Template
  /-- The spelling of unions, if there are any. -/
  union : Option Template
  unionSeparator : String
  /-- What stands between the members of an intersection, if there are any. -/
  intersectionSeparator : Option String
  literalUse : LiteralUse
  literal : Template
  inlineObjects : Bool
  modelCase : Option Name.Case
  methodCase : Name.Case

namespace Target

/-! ## The known targets -/

/-- TypeScript, with all models in a namespace `Schema`. -/
def typescript : Target where
  name := "typescript"
  scalar
    | .string => "string"
    | .number => "number"
    | .integer => "number"
    | .boolean => "boolean"
  bytes := "Blob"
  null := "null"
  unknown := "unknown"
  sequence := ⟨"Array<", ">"⟩
  groupsItems := true
  mapping := ⟨"Record<string, ", ">"⟩
  named := ⟨"Schema.", ""⟩
  optional := ⟨"", " | null"⟩
  union := some .bare
  unionSeparator := " | "
  intersectionSeparator := some " & "
  literalUse := .all
  literal := .bare
  inlineObjects := true
  modelCase := none
  methodCase := .camel

/-- TypeScript, with models under their bare names. -/
def typescriptTypes : Target :=
  { typescript with name := "typescript-types", named := .bare }

/-- Python. -/
def python : Target where
  name := "python"
  scalar
    | .string => "str"
    | .number => "float"
    | .integer => "int"
    | .boolean => "bool"
  bytes := "bytes"
  null := "None"
  unknown := "Any"
  sequence := ⟨"List[", "]"⟩
  groupsItems := false
  mapping := ⟨"Dict[str, ", "]"⟩
  named := .bare
  optional := ⟨"Optional[", "]"⟩
  union := some ⟨"Union[", "]"⟩
  unionSeparator := ", "
  intersectionSeparator := none
  literalUse := .strings
  literal := ⟨"Literal[", "]"⟩
  inlineObjects := false
  modelCase := none
  methodCase := .snake

/-- Go. -/
def go : Target where
  name := "go"
  scalar
    | .string => "string"
    | .number => "float64"
    | .integer => "int64"
    | .boolean => "bool"
  bytes := "[]byte"
  null := "interface\x7b\x7d"
  unknown := "interface\x7b\x7d"
  sequence := ⟨"[]", ""⟩
  groupsItems := false
  mapping := ⟨"map[string]", ""⟩
  named := .bare
  optional := ⟨"*", ""⟩
  union := none
  unionSeparator := ", "
  intersectionSeparator := none
  literalUse := .none
  literal := .bare
  inlineObjects := false
  modelCase := some .pascal
  methodCase := .pascal

/-- The known targets. -/
def all : List Target := [typescript, typescriptTypes, python, go]

/-- The target of a name. -/
def ofName? (name : String) : Option Target := all.find? fun t => t.name = name

/-! ## Names and literals -/

/-- Whether unions can be written. -/
def hasUnions (t : Target) : Bool := t.union.isSome

/-- Whether intersections can be written. -/
def hasIntersections (t : Target) : Bool := t.intersectionSeparator.isSome

/-- Whether an enumeration is written as a literal. -/
def writesLiterals (t : Target) (l : Literals) : Bool :=
  match t.literalUse with
  | .all => true
  | .strings => l.base = .scalar .string
  | .none => false

/-- The name of a model. -/
def modelName (t : Target) (name : String) : String :=
  match t.modelCase with
  | some c => c.write name
  | none => name

/-- The name of a method. -/
def methodName (t : Target) (name : String) : String := t.methodCase.write name

/-! ## Rendering -/

/-- A kind as a message shows it. -/
def kindShown (k : Kind) : String :=
  let name := k.name.toList.flatMap fun c => if c.isUpper then ['_', c] else [c.toUpper]
  s!"<SchemaKind.{String.ofList name}: '{k.name}'>"

/-- The spelling of a literal value. -/
def literalText (v : Value) : Except Breakdown String := v.written.map Json.text

/-- One field of an object written in place. -/
def fieldText (name type : String) (required : Bool) : String :=
  name ++ (if required then "" else "?") ++ ": " ++ type

mutual

/-- The spelling of a type. -/
def render (t : Target) : TypeExpr → Except Breakdown String
  | .scalar (.scalar k) => .ok (t.scalar k)
  | .scalar kind => .error (.noSpelling (kindShown kind))
  | .bytes => .ok t.bytes
  | .null => .ok t.null
  | .unknown => .ok t.unknown
  | .approximated e _ => render t e
  | .named name => .ok (t.named.fill (t.modelName name))
  | .sequence e => do
    let item ← render t e
    pure (t.sequence.fill (if e.isCompound && t.groupsItems then s!"({item})" else item))
  | .mapping e => do
    let value ← render t e
    pure (t.mapping.fill value)
  | .optional e => do
    let inner ← render t e
    pure (t.optional.fill inner)
  | .union es => do
    let members ← renderAll t es
    pure ((t.union.getD .bare).fill (t.unionSeparator.intercalate members))
  | .intersection es =>
    match t.intersectionSeparator with
    | some separator => do
      let members ← renderAll t es
      pure (separator.intercalate members)
    | none =>
      match es with
      | [] => .ok t.unknown
      | e :: _ => render t e
  | .literal values => do
    let texts ← values.mapM literalText
    pure (t.literal.fill (t.unionSeparator.intercalate texts))
  | .object fields => do
    let parts ← renderFields t fields
    pure ("\x7b" ++ "; ".intercalate parts ++ "\x7d")

/-- The spellings of types in order. -/
def renderAll (t : Target) : List TypeExpr → Except Breakdown (List String)
  | [] => .ok []
  | e :: es => do
    let first ← render t e
    let rest ← renderAll t es
    pure (first :: rest)

/-- The spellings of fields in order. -/
def renderFields (t : Target) : List (String × TypeExpr × Bool) → Except Breakdown (List String)
  | [] => .ok []
  | (name, e, required) :: fields => do
    let type ← render t e
    let rest ← renderFields t fields
    pure (fieldText name type required :: rest)

end

end Target
end ApiCompiler
