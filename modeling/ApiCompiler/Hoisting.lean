import ApiCompiler.Registry
import ApiCompiler.Name.Case
import ApiCompiler.Schema
import ApiCompiler.Value.Order

/-!
# Compiling schemas

`Schema.compile` turns a schema into a shape.  An object or an enumeration that stands below
another schema has no name of its own, so it is hoisted: registered as a model under the name of
its owner, the property it stands under and, for the items of an array, the word `Item`, and
replaced by a reference.  A hoisted object owns what stands below it, so the address of a
customer of an order becomes `Order_Customer_Address`.

A shape at the top stays in place, and so do the members of a composition at the top: members are
compiled under the owner and the property of the composition itself.

The properties of an object are compiled in the order of their names.  `Schema.pendingFields`
turns each property into a field that is still to be compiled once the name of its owner is
known; these are then sorted and run one after the other.
-/

namespace ApiCompiler
namespace Schema

/-! ## Parts that need no recursion -/

/-- What a schema says for documentation. -/
def annotations : Schema → Annotations
  | .reference r => { Annotations.none with description := r.description }
  | .inline k _ =>
    { title := k.title
      description := k.description
      deprecated := k.deprecated.getD false
      readOnly := k.readOnly.getD false
      writeOnly := k.writeOnly.getD false
      default := k.default.getD (.scalar .null)
      samples := k.sample.toList ++ k.samples.getD [] }

/-- What an optional schema says for documentation. -/
def annotationsOf (s : Option Schema) : Annotations :=
  match s with
  | none => .none
  | some s => s.annotations

/-- A discriminator, its mapping sorted and its targets reduced to names. -/
def Discriminator.compile (d : Schema.Discriminator) : ApiCompiler.Discriminator :=
  ⟨d.propertyName, (sortedByKey (d.mapping.getD [])).map fun e => (e.1, Reference.nameOf e.2)⟩

namespace Keywords

/-- The traits of a composition, which has no format. -/
def compositionTraits (k : Keywords) : Traits :=
  ⟨k.declaresNull, none, k.discriminator.map (·.compile)⟩

/-- The traits of any other shape. -/
def traits (k : Keywords) : Traits :=
  ⟨k.declaresNull, k.format, k.discriminator.map (·.compile)⟩

/-- The values of an enumeration; a constant is an enumeration of one value. -/
def literals (k : Keywords) : List Value :=
  match k.enum with
  | some (v :: vs) => v :: vs
  | _ => k.const.toList

/-- The first declared type other than null.  Without one, a schema with properties is an
object. -/
def mainType (k : Keywords) (hasProperties : Bool) : Option DataType :=
  match k.types.find? (· ≠ .null) with
  | some t => some t
  | none => if hasProperties then some .object else none

end Keywords

/-- The scalar kind of a declared type. -/
def scalarKind? : DataType → Option Scalar
  | .string => some .string
  | .integer => some .integer
  | .number => some .number
  | .boolean => some .boolean
  | _ => none

/-- The text of an enumerated value: a text as it is, any other value as JSON with sorted keys. -/
def literalText : Value → Except Breakdown String
  | .scalar (.text s) => .ok s
  | v => v.ordered.map Json.text

/-- The texts of enumerated values. -/
def literalTexts : List Value → Except Breakdown (List String)
  | [] => .ok []
  | v :: vs => do
    let text ← literalText v
    let texts ← literalTexts vs
    pure (text :: texts)

/-- The kind of an enumerated value. -/
def literalKind : Value → Kind
  | .scalar (.bool _) => .scalar .boolean
  | .scalar (.int _) => .scalar .integer
  | .scalar (.float _) => .scalar .number
  | .scalar (.text _) => .scalar .string
  | _ => .unknown

/-- Whether a value is null. -/
def isNull : Value → Bool
  | .scalar .null => true
  | _ => false

/-- The kind that enumerated values share: the first declared scalar type, else the kind of the
first value. -/
def baseKind (k : Keywords) (values : List Value) : Kind :=
  match k.types.findSome? scalarKind? with
  | some s => .scalar s
  | none => (values.head?.map literalKind).getD .unknown

/-- An enumeration.  Null among the values makes it nullable and is not a value itself. -/
def enumeration (k : Keywords) : Except Breakdown Shape := do
  let values := k.literals.filter fun v => !isNull v
  let texts ← literalTexts values
  pure (.enum { k.traits with nullable := k.declaresNull || k.literals.any isNull }
    ⟨texts, values, baseKind k values⟩)

/-- The name of what is hoisted: that of its owner, the property and the word for items. -/
def syntheticName (owner property : String) (isItem : Bool) : String :=
  owner ++ (if property.isEmpty then "" else "_" ++ Name.Case.pascal.write property) ++
    (if isItem then "_Item" else "")

/-- Whether a schema stands below another one. -/
def isNested (property : String) (isItem : Bool) : Bool := !property.isEmpty || isItem

/-- A reference. -/
def compileReference (r : Reference) : Build Shape := do
  if r.name.isEmpty then
    Build.report (.namelessReference r.target)
    pure .anything
  else pure (.ref .none r.name)

/-- An enumeration, hoisted if it is nested. -/
def compileEnum (k : Keywords) (notes : Annotations) (owner property : String) (isItem : Bool) :
    Build Shape := do
  let shape ← Build.lift ((enumeration k).mapError .breakdown)
  if isNested property isItem then
    let name ← Build.register (syntheticName owner property isItem) shape notes
    pure (.ref ⟨shape.nullable, none, none⟩ name)
  else pure shape

/-- A schema without any type. -/
def compileUntyped (k : Keywords) (owner property : String) (isItem : Bool) : Build Shape := do
  if k.types.isEmpty then
    if !k.unrecognized.isEmpty || !(k.format.getD "").isEmpty then
      Build.report (.unrecognizedSchema (syntheticName owner property isItem) k.unrecognized)
    pure (.unknown k.traits)
  else pure (.null ⟨false, none, k.discriminator.map (·.compile)⟩)

/-! ## Fields -/

/-- A field whose type is compiled once the name of its owner is known. -/
structure PendingField where
  annotations : Annotations
  compile : String → Build Shape

/-- Compiles fields in order. -/
def runFields (required : List String) (owner : String) :
    List (String × PendingField) → Build (List (Field Shape))
  | [] => pure []
  | (name, p) :: rest => do
    let type ← p.compile owner
    let fields ← runFields required owner rest
    pure (⟨name, type, required.contains name, p.annotations⟩ :: fields)

/-- What an object does with the properties it does not declare: nothing is known of them, they
are declared by a schema that is merged into the object, or they have a shape. -/
inductive Rest where
  | closed
  | merged (required : List String) (fields : List (String × PendingField))
  | shaped (compile : String → Build Shape)

/-- Compiles the parts of an object whose name is known.  Declared fields take precedence over
merged ones. -/
def objectFrom (k : Keywords) (fields : List (String × PendingField)) (rest : Rest)
    (owner : String) : Build Shape := do
  let own ← runFields (k.required.getD []) owner (sortedByKey fields)
  match rest with
  | .closed => pure (.object k.traits own none)
  | .merged required more => do
    let taken := own.map (·.name)
    let others ← runFields required owner
      ((sortedByKey more).filter fun e => !taken.contains e.1)
    pure (.object k.traits ((own ++ others).mergeSort fun f g => f.name ≤ g.name) none)
  | .shaped compile => do
    let shape ← compile owner
    pure (.object k.traits own (some shape))

/-- An object, hoisted if it is nested. -/
def compileObject (k : Keywords) (notes : Annotations) (fields : List (String × PendingField))
    (rest : Rest) (owner property : String) (isItem : Bool) : Build Shape := do
  if isNested property isItem then
    let name ← Build.registerShape (syntheticName owner property isItem)
      (objectFrom k fields rest) notes
    pure (.ref ⟨k.declaresNull, none, none⟩ name)
  else objectFrom k fields rest (syntheticName owner property isItem)

/-! ## The recursion -/

mutual

/-- Compiles a schema.  `owner` is the name of the enclosing model, `property` the property the
schema stands under, and `isItem` says whether it describes the items of an array. -/
def compile : Schema → String → String → Bool → Build Shape
  | .reference r, _, _, _ => compileReference r
  | .inline k ⟨oneOf, anyOf, allOf, negated, items, properties, additional⟩,
      owner, property, isItem =>
    match oneOf, anyOf, allOf, negated with
    | some (s :: ss), _, _, _ => do
      let first ← compile s owner property isItem
      let more ← compileAll ss owner property isItem
      pure (.composition k.compositionTraits .oneOf (first :: more))
    | _, some (s :: ss), _, _ => do
      let first ← compile s owner property isItem
      let more ← compileAll ss owner property isItem
      pure (.composition k.compositionTraits .anyOf (first :: more))
    | _, _, some (s :: ss), _ => do
      let first ← compile s owner property isItem
      let more ← compileAll ss owner property isItem
      pure (.composition k.compositionTraits .allOf (first :: more))
    | _, _, _, some s => do
      let inner ← compile s owner property isItem
      pure (.negation k.compositionTraits inner)
    | _, _, _, _ =>
      let notes := annotations (.inline k ⟨oneOf, anyOf, allOf, negated, items, properties,
        additional⟩)
      if !k.literals.isEmpty then compileEnum k notes owner property isItem
      else
        let fields := match properties with
          | some ps => pendingFields ps
          | none => []
        let rest : Rest := match additional with
          | .absent => .closed
          | .flag false => .closed
          | .flag true => .shaped fun _ => pure .anything
          | .schema s =>
            match mergedFields s with
            | some (required, fields) => .merged required fields
            | none => .shaped fun owner => compile s owner "Properties" false
        let hasProperties := properties.isSome || match additional with
          | .absent => false
          | .flag b => b
          | .schema _ => true
        match k.mainType hasProperties with
        | some .object => compileObject k notes fields rest owner property isItem
        | some .array => do
          let inner ← match items with
            | some s => compile s owner property true
            | none => pure .anything
          pure (.array k.traits inner)
        | some .string => pure (.scalar k.traits .string)
        | some .integer => pure (.scalar k.traits .integer)
        | some .number => pure (.scalar k.traits .number)
        | some .boolean => pure (.scalar k.traits .boolean)
        | _ => compileUntyped k owner property isItem

/-- Compiles schemas one after the other. -/
def compileAll : List Schema → String → String → Bool → Build (List Shape)
  | [], _, _, _ => pure []
  | s :: ss, owner, property, isItem => do
    let first ← compile s owner property isItem
    let more ← compileAll ss owner property isItem
    pure (first :: more)

/-- The properties of an object, each still to be compiled. -/
def pendingFields : List (String × Schema) → List (String × PendingField)
  | [] => []
  | (name, s) :: rest =>
    (name, ⟨annotations s, fun owner => compile s owner name false⟩) :: pendingFields rest

/-- The fields of a schema for further properties, if they are to be merged: it declares
properties itself, and no type or the type of objects. -/
def mergedFields : Schema → Option (List String × List (String × PendingField))
  | .inline k ⟨_, _, _, _, _, some ps, _⟩ =>
    if !ps.isEmpty && (k.types.isEmpty || k.types.contains .object) then
      some (k.required.getD [], pendingFields ps)
    else none
  | _ => none

end

/-- Compiles an optional schema; nothing is known where there is none. -/
def compileOptional (s : Option Schema) (owner property : String) (isItem : Bool) :
    Build Shape :=
  match s with
  | none => pure .anything
  | some s => s.compile owner property isItem

end Schema
end ApiCompiler
