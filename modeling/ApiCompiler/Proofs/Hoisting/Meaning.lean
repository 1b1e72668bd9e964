import ApiCompiler.Proofs.Hoisting.Equations
import ApiCompiler.Proofs.Registry.Growth

/-!
# What a shape means

`Schema.Represents r s nested shape` says that a shape stands for an optional schema, read with
the models of the registry `r`.  It follows the forms of schemas.  Most of them have one shape,
whose parts stand for the parts of the schema.  Only objects and enumerations depend on where
they stand: in place they are shapes of their own, and below another schema they are a reference
to the first model of some name, whose shape stands for them in place.

Two shapes may share a model if they are the same to the program, which is `Shape.Same`; so the
shape of the model is only the same as one that stands for the schema.

Registries that find the same models give the same meaning (`Represents.mono`), so what has been
compiled keeps its meaning while more models are registered.
-/

namespace ApiCompiler

/-- Two shapes are one, or are taken for one where models are shared. -/
def Shape.Same (a b : Shape) : Prop := a = b ∨ a.like b = true

/-- What a field says apart from its type. -/
def Field.label {σ : Type} (f : Field σ) : String × Bool × Annotations :=
  (f.name, f.required, f.annotations)

namespace Schema

/-- Whether an inline schema is an object or an enumeration. -/
def Form.isModel : Form → Prop
  | .literals => True
  | .object => True
  | _ => False

/-- The shape stands for the schema, read with the models of a registry.  `nested` says whether
the schema stands below another one, where objects and enumerations are replaced by references. -/
inductive Represents (r : Registry) : Option Schema → Bool → Shape → Prop
  /-- Nothing is known where there is no schema. -/
  | missing {nested : Bool} : Represents r none nested .anything
  /-- A reference keeps its name. -/
  | reference {ref : Reference} {nested : Bool} (named : ref.name ≠ "") :
      Represents r (some (.reference ref)) nested (.ref .none ref.name)
  /-- Nothing is known of a reference without a name. -/
  | nameless {ref : Reference} {nested : Bool} (unnamed : ref.name = "") :
      Represents r (some (.reference ref)) nested .anything
  /-- The members of a composition stand where the composition stands. -/
  | composition {k : Keywords} {c : Children Schema} {how : Composition} {ms : List Schema}
      {as : List Shape} {nested : Bool} (form : k.form c = .composition how ms)
      (length : ms.length = as.length)
      (members : ∀ p ∈ ms.zip as, Represents r (some p.1) nested p.2) :
      Represents r (some (.inline k c)) nested (.composition k.compositionTraits how as)
  /-- What is negated stands where the negation stands. -/
  | negation {k : Keywords} {c : Children Schema} {s : Schema} {a : Shape} {nested : Bool}
      (form : k.form c = .negation s) (inner : Represents r (some s) nested a) :
      Represents r (some (.inline k c)) nested (.negation k.compositionTraits a)
  /-- An enumeration in place lists its values and their texts. -/
  | literals {k : Keywords} {c : Children Schema} {texts : List String}
      (form : k.form c = .literals) (written : literalTexts k.values = .ok texts) :
      Represents r (some (.inline k c)) false
        (.enum k.literalTraits ⟨texts, k.values, baseKind k k.values⟩)
  /-- An object in place has its fields in the order of their names, each with a type that stands
  for what it is declared to be, and further properties if the schema allows them. -/
  | object {k : Keywords} {c : Children Schema} {fields : List (Field Shape)}
      {extra : Option Shape} (form : k.form c = .object)
      (labels : fields.map (·.label) = (sortFields (k.declaredFields c)).map (·.label))
      (types : ∀ p ∈ (sortFields (k.declaredFields c)).zip fields,
        Represents r (some p.1.type) (isNested p.1.name false) p.2.type)
      (open_iff : extra.isSome = c.remaining.isSome)
      (further : ∀ s ∈ c.remaining, ∀ a ∈ extra, Represents r s true a) :
      Represents r (some (.inline k c)) false (.object k.traits fields extra)
  /-- Below another schema, an object or an enumeration is a reference to the first model of a
  name, and the shape of this model is the same as one that stands for the schema in place. -/
  | hoisted {k : Keywords} {c : Children Schema} {m : Model} {body : Shape} {n : String}
      (form : (k.form c).isModel) (found : r.model? n = some m) (same : m.shape.Same body)
      (inPlace : Represents r (some (.inline k c)) false body) :
      Represents r (some (.inline k c)) true (.ref ⟨body.nullable, none, none⟩ n)
  /-- The items of an array stand below it. -/
  | array {k : Keywords} {c : Children Schema} {a : Shape} {nested : Bool}
      (form : k.form c = .array) (items : Represents r c.items true a) :
      Represents r (some (.inline k c)) nested (.array k.traits a)
  | scalar {k : Keywords} {c : Children Schema} {kind : Scalar} {nested : Bool}
      (form : k.form c = .scalar kind) :
      Represents r (some (.inline k c)) nested (.scalar k.traits kind)
  /-- A schema that declares no type but null. -/
  | null {k : Keywords} {c : Children Schema} {nested : Bool} (form : k.form c = .untyped)
      (typed : k.types ≠ []) :
      Represents r (some (.inline k c)) nested
        (.null ⟨false, none, k.discriminator.map (·.compile)⟩)
  /-- A schema that declares no type. -/
  | unknown {k : Keywords} {c : Children Schema} {nested : Bool} (form : k.form c = .untyped)
      (untyped : k.types = []) :
      Represents r (some (.inline k c)) nested (.unknown k.traits)

/-- What a shape stands for does not change when more models are found. -/
theorem Represents.mono {r r' : Registry} {s : Option Schema} {nested : Bool} {a : Shape}
    (hr : ∀ n m, r.model? n = some m → r'.model? n = some m) (h : Represents r s nested a) :
    Represents r' s nested a := by
  induction h with
  | missing => exact .missing
  | reference named => exact .reference named
  | nameless unnamed => exact .nameless unnamed
  | composition form length _ ih => exact .composition form length ih
  | negation form _ ih => exact .negation form ih
  | literals form written => exact .literals form written
  | object form labels _ open_iff _ ihTypes ihFurther =>
    exact .object form labels ihTypes open_iff ihFurther
  | hoisted form found same _ ih => exact .hoisted form (hr _ _ found) same ih
  | array form _ ih => exact .array form ih
  | scalar form => exact .scalar form
  | null form typed => exact .null form typed
  | unknown form untyped => exact .unknown form untyped

/-- A registry that has grown gives every shape the meaning it had. -/
theorem Represents.grows {ok : Registry → Model → Prop} {r r' : Registry} {s : Option Schema}
    {nested : Bool} {a : Shape} (h : Represents r s nested a) (hr : r.Grows ok r') :
    Represents r' s nested a :=
  h.mono fun _ _ hm => hr.model?_eq_some hm

/-- A model hoisted out of a schema, as it is registered: its name hangs from the owner's, and it
stands in place for an object or an enumeration that occurs in the schema. -/
structure Hoists (owner : String) (s : Schema) (r : Registry) (m : Model) : Prop where
  name : Registry.HangsFrom owner m.name
  source : ∃ k c, (Schema.inline k c).Occurs s ∧ (k.form c).isModel ∧
    Represents r (some (.inline k c)) false m.shape ∧
    m.annotations = (Schema.inline k c).annotations

/-- What is hoisted out of a part, under the name of something that hangs from the owner, is
hoisted out of the whole. -/
theorem Hoists.of_part {owner owner' : String} {part s : Schema} {r : Registry} {m : Model}
    (h : Hoists owner part r m) (hpart : part.Occurs s)
    (howner : ∀ n, Registry.HangsFrom owner n → Registry.HangsFrom owner' n) :
    Hoists owner' s r m := by
  obtain ⟨k, c, hocc, hsource⟩ := h.source
  exact ⟨howner _ h.name, k, c, hocc.trans hpart, hsource⟩

end Schema
end ApiCompiler
