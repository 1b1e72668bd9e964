import ApiCompiler.Proofs.Hoisting.Completeness
import ApiCompiler.Proofs.Target.Parts
import ApiCompiler.Proofs.Value.Writing

/-!
# Projection stays within the target

`Target.Expresses` says, constructor by constructor, what a type may hold if a target is to express
it: unions and intersections only where the target has them, objects in place only where it writes
them, scalars only of a scalar kind, models only if they are known, and literals only where the
target writes them, which may be for enumerations of texts alone.

`Target.Spells` is the spelling of types without any of the ways out: no union without a frame of
its own, no intersection without a separator, no scalar without a name.  Everything inside the type
of a shape the target can express (`expresses_project`), and what it can express it spells so,
unless there is a literal with a value that JSON does not have (`render_ends`).

An enumeration may have such values: a day, a moment, a time, or a mapping with one of them as a
key.  So the type of a shape is spelled exactly if every value of a literal in it can be written
(`exists_render_iff`), and in particular if every value that the shape enumerates can.  This is the
one condition under which the files on the spelling of types speak of texts.
-/

namespace ApiCompiler

/-! ## Literals that can be written -/

namespace TypeExpr

/-- Every value of a literal in the type can be written. -/
def Writable (e : TypeExpr) : Prop :=
  ∀ vs, (TypeExpr.literal vs).Within e → ∀ v ∈ vs, v.Writable

/-- A value of a literal in the type cannot be written, for the given reason. -/
def BreaksDown (e : TypeExpr) (reason : Breakdown) : Prop :=
  ∃ vs, (TypeExpr.literal vs).Within e ∧ ∃ v ∈ vs, v.written = .error reason

variable {c e : TypeExpr} {reason : Breakdown}

theorem BreaksDown.of_child (h : c.BreaksDown reason) (hc : c ∈ e.children) :
    e.BreaksDown reason := by
  obtain ⟨vs, hvs, hv⟩ := h
  exact ⟨vs, .child hc hvs, hv⟩

theorem Writable.not_breaksDown (h : e.Writable) : ¬ e.BreaksDown reason := by
  rintro ⟨vs, hvs, v, hv, herror⟩
  rw [(h vs hvs v hv).written_eq] at herror
  cases herror

/-- A literal breaks down at what has no form in JSON. -/
theorem BreaksDown.isUnwritable (h : e.BreaksDown reason) : reason.IsUnwritable := by
  obtain ⟨vs, -, v, -, herror⟩ := h
  exact Value.isUnwritable_of_written herror

end TypeExpr

/-- Every value that is enumerated in the shape can be written. -/
def Shape.Writable (s : Shape) : Prop := s.AllEnums fun l => ∀ v ∈ l.raw, v.Writable

namespace Target

variable {t : Target} {known : Option (List String)}

/-- The target expresses a type, as a part of the type of a shape, if the outermost constructor of
the type is one that it has; what is inside is not looked at.  A literal is the type of an
enumeration of the shape; where only enumerations of texts are literals, of such an enumeration. -/
def Expresses (t : Target) (known : Option (List String)) (s : Shape) : TypeExpr → Prop
  | .scalar kind => ∃ k, kind = .scalar k
  | .named name => ∀ names, known = some names → name ∈ names
  | .union _ => t.hasUnions = true
  | .intersection _ => t.hasIntersections = true
  | .literal values => ∃ u l, (Shape.enum u l).Within s ∧ t.projectEnum l = .literal values ∧
      (t.literalUse = .all ∨ t.literalUse = .strings ∧ l.base = .scalar .string)
  | .object _ => t.inlineObjects = true
  | _ => True

/-- The spelling of a type where every construct has its own. -/
inductive Spells (t : Target) : TypeExpr → String → Prop
  | scalar (k : Scalar) : Spells t (.scalar (.scalar k)) (t.scalar k)
  | bytes : Spells t .bytes t.bytes
  | null : Spells t .null t.null
  | unknown : Spells t .unknown t.unknown
  | approximated {e : TypeExpr} {text : String} (lost : Construct) (h : Spells t e text) :
      Spells t (.approximated e lost) text
  | named (name : String) : Spells t (.named name) (t.named.fill (t.modelName name))
  | sequence {e : TypeExpr} {item : String} (h : Spells t e item) :
      Spells t (.sequence e)
        (t.sequence.fill (if e.isCompound && t.groupsItems then s!"({item})" else item))
  | mapping {e : TypeExpr} {value : String} (h : Spells t e value) :
      Spells t (.mapping e) (t.mapping.fill value)
  | optional {e : TypeExpr} {inner : String} (h : Spells t e inner) :
      Spells t (.optional e) (t.optional.fill inner)
  | union {es : List TypeExpr} {members : List String} {frame : Template}
      (hframe : t.union = some frame) (h : List.Forall₂ (Spells t) es members) :
      Spells t (.union es) (frame.fill (t.unionSeparator.intercalate members))
  | intersection {es : List TypeExpr} {members : List String} {separator : String}
      (hseparator : t.intersectionSeparator = some separator)
      (h : List.Forall₂ (Spells t) es members) :
      Spells t (.intersection es) (separator.intercalate members)
  | literal {values : List Value} (h : ∀ v ∈ values, v.Writable) :
      Spells t (.literal values)
        (t.literal.fill (t.unionSeparator.intercalate (values.map fun v => v.toJson.text)))
  | object {fields : List (String × TypeExpr × Bool)} {types : List String}
      (h : List.Forall₂ (Spells t) (fields.map (·.2.1)) types) :
      Spells t (.object fields)
        ("\x7b" ++ "; ".intercalate (List.zipWith (fun f type => fieldText f.1 type f.2.2)
          fields types) ++ "\x7d")

/-- What stands directly below a type that is spelled is spelled. -/
theorem Spells.child {c e : TypeExpr} {text : String} (h : t.Spells e text) (hc : c ∈ e.children) :
    ∃ text, t.Spells c text := by
  cases h with
  | scalar k | bytes | null | unknown | named name | literal hvalues => cases hc
  | sequence h | mapping h | optional h | approximated lost h =>
    obtain rfl := List.mem_singleton.mp hc
    exact ⟨_, h⟩
  | union _ h | intersection _ h | object h => exact exists_forall₂_iff.mp ⟨_, h⟩ c hc

/-- The values of the literals in a type that is spelled can be written. -/
theorem Spells.writable {e : TypeExpr} {text : String} (h : t.Spells e text) : e.Writable := by
  intro vs hvs
  induction e using TypeExpr.rec_children generalizing text with
  | step e ih =>
    rcases TypeExpr.within_iff.mp hvs with rfl | ⟨c, hc, hvs⟩
    · cases h with
      | literal hvalues => exact hvalues
    · obtain ⟨text, hspells⟩ := h.child hc
      exact ih c hc hspells hvs

/-! ## What can be expressed is spelled -/

/-- Where intersections have a separator, their members are joined by it. -/
theorem render_intersection {separator : String} (h : t.intersectionSeparator = some separator)
    (es : List TypeExpr) :
    t.render (.intersection es) = (do
      let members ← t.renderAll es
      pure (separator.intercalate members)) := by
  cases es with
  | nil => simp only [render, h]
  | cons e es => simp only [render, h]

/-- Types are spelled one by one. -/
theorem renderAll_eq_mapM (es : List TypeExpr) : t.renderAll es = es.mapM t.render := by
  induction es with
  | nil => rfl
  | cons e es ih => rw [renderAll, List.mapM_cons, ih]

/-- The types of fields are spelled one by one, and put behind the names of the fields. -/
theorem renderFields_eq_mapM (fields : List (String × TypeExpr × Bool)) :
    t.renderFields fields = (do
      let types ← (fields.map (·.2.1)).mapM t.render
      pure (List.zipWith (fun f type => fieldText f.1 type f.2.2) fields types)) := by
  induction fields with
  | nil => rfl
  | cons f fields ih =>
    obtain ⟨name, e, required⟩ := f
    rw [renderFields, ih, List.map_cons, List.mapM_cons]
    simp only [bind_assoc, pure_bind, List.zipWith_cons_cons]

/-- A value is spelled as JSON, if it can be written. -/
theorem literalText_ends (v : Value) :
    EndsWith (fun text => text = v.toJson.text ∧ v.Writable)
      (fun reason => v.written = .error reason) (literalText v) := by
  rw [literalText]
  cases hv : v.written with
  | error reason => exact .error rfl
  | ok j => exact .ok ⟨by rw [Value.written_eq_toJson hv], j, hv⟩

/-- Values are spelled one by one, up to the first one that cannot be written. -/
theorem literalTexts_ends (values : List Value) :
    EndsWith
      (fun texts => texts = values.map (fun v => v.toJson.text) ∧ ∀ v ∈ values, v.Writable)
      (fun reason => ∃ v ∈ values, v.written = .error reason) (values.mapM literalText) := by
  have hvalues : EndsWith
      (List.Forall₂ (fun v text => text = v.toJson.text ∧ v.Writable) values)
      (fun reason => ∃ v ∈ values, v.written = .error reason) (values.mapM literalText) :=
    EndsWith.mapM fun v hv => (literalText_ends v).imp (fun _ h => h) fun _ h => ⟨v, hv, h⟩
  refine hvalues.imp (fun texts htexts => ⟨?_, ?_⟩) fun _ h => h
  · exact eq_map_of_forall₂ htexts fun _ _ _ h => h.1
  · intro v hv
    obtain ⟨text, -, hwritable⟩ := exists_forall₂_iff.mp ⟨texts, htexts⟩ v hv
    exact hwritable

/-- A literal whose values can be written lists them as JSON. -/
theorem render_literal {values : List Value} (h : ∀ v ∈ values, v.Writable) :
    t.render (.literal values) =
      .ok (t.literal.fill (t.unionSeparator.intercalate (values.map fun v => v.toJson.text))) := by
  have hnever : ∀ reason, ¬ ∃ v ∈ values, v.written = .error reason := by
    rintro reason ⟨v, hv, herror⟩
    rw [(h v hv).written_eq] at herror
    cases herror
  obtain ⟨texts, htexts, heq, -⟩ := (literalTexts_ends values).exists_ok hnever
  rw [render, htexts, heq]
  rfl

/-- A type is spelled if the target expresses everything inside it, unless there is a value of a
literal that cannot be written. -/
theorem render_ends {s : Shape} (e : TypeExpr)
    (h : ∀ n, n.Within e → t.Expresses known s n) :
    EndsWith (t.Spells e) e.BreaksDown (t.render e) := by
  induction e using TypeExpr.rec_children with
  | step e ih =>
    have hhere : t.Expresses known s e := h e (.refl e)
    have hparts : ∀ c ∈ e.children, EndsWith (t.Spells c) e.BreaksDown (t.render c) :=
      fun c hc => (ih c hc fun n hn => h n (.child hc hn)).imp (fun _ h => h)
        fun _ hreason => hreason.of_child hc
    clear ih h
    cases e with
    | scalar kind =>
      obtain ⟨k, rfl⟩ := hhere
      exact .ok (.scalar k)
    | bytes => exact .ok .bytes
    | null => exact .ok .null
    | unknown => exact .ok .unknown
    | named name => exact .ok (.named name)
    | literal values =>
      have hvalues := (literalTexts_ends values).imp (fun _ h => h) fun reason h =>
        (⟨values, .refl _, h⟩ : (TypeExpr.literal values).BreaksDown reason)
      rw [render]
      refine hvalues.bind fun texts h => ?_
      rw [h.1]
      exact .ok (.literal h.2)
    | sequence item =>
      rw [render]
      exact (hparts item (List.mem_singleton_self item)).bind fun _ h => .ok (.sequence h)
    | mapping value =>
      rw [render]
      exact (hparts value (List.mem_singleton_self value)).bind fun _ h => .ok (.mapping h)
    | optional inner =>
      rw [render]
      exact (hparts inner (List.mem_singleton_self inner)).bind fun _ h => .ok (.optional h)
    | approximated inner lost =>
      rw [render]
      exact (hparts inner (List.mem_singleton_self inner)).imp
        (fun _ h => .approximated lost h) fun _ h => h
    | union members =>
      obtain ⟨frame, hframe⟩ := Option.isSome_iff_exists.mp hhere
      rw [render, hframe, renderAll_eq_mapM]
      exact (EndsWith.mapM hparts).bind fun _ h => .ok (.union hframe h)
    | intersection members =>
      obtain ⟨separator, hseparator⟩ := Option.isSome_iff_exists.mp hhere
      rw [render_intersection hseparator, renderAll_eq_mapM]
      exact (EndsWith.mapM hparts).bind fun _ h => .ok (.intersection hseparator h)
    | object fields =>
      rw [render, renderFields_eq_mapM, bind_assoc]
      refine (EndsWith.mapM hparts).bind fun types h => ?_
      rw [pure_bind]
      exact .ok (.object h)

/-! ## Everything in the type of a shape can be expressed -/

/-- What is expressed as a part of the type of a shape directly below is expressed as a part of the
type of the shape. -/
theorem Expresses.of_child {s c : Shape} {e : TypeExpr} (h : t.Expresses known c e)
    (hc : c ∈ s.children) : t.Expresses known s e := by
  cases e with
  | literal values =>
    obtain ⟨u, l, hwithin, hl⟩ := h
    exact ⟨u, l, .child hc hwithin, hl⟩
  | _ => exact h

/-- A reference becomes a known model or the unknown type. -/
theorem expresses_reference {s : Shape} (name : String) :
    t.Expresses known s (projectReference known name) := by
  unfold projectReference
  split
  · intro names hnames
    cases hnames
  · split
    · rename_i hmem
      intro names hnames
      cases hnames
      exact List.contains_iff_mem.mp hmem
    · trivial

/-- The type of an enumeration is a literal if there are values and the target writes it. -/
theorem projectEnum_eq_literal_iff {l : Literals} {vs : List Value} :
    t.projectEnum l = .literal vs ↔
      l.values ≠ [] ∧ t.writesLiterals l = true ∧
        vs = if l.raw.isEmpty then l.values.map fun s => .scalar (.text s) else l.raw := by
  rw [projectEnum]
  split
  · case isTrue hempty =>
    rw [List.isEmpty_iff] at hempty
    simp [hempty]
  · case isFalse hne =>
    have hvalues : l.values ≠ [] := fun h => hne (List.isEmpty_iff.mpr h)
    split
    · case isTrue hwrites =>
      rw [TypeExpr.literal.injEq]
      exact ⟨fun h => ⟨hvalues, hwrites, h.symm⟩, fun h => h.2.2.symm⟩
    · case isFalse hwrites =>
      refine ⟨fun h => ?_, fun h => absurd h.2.1 hwrites⟩
      split at h <;> cases h

/-- An enumeration becomes a literal where the target writes it as one, and a scalar otherwise. -/
theorem expresses_enum (u : Traits) (l : Literals) :
    t.Expresses known (.enum u l) (t.projectEnum l) := by
  by_cases hliteral : ∃ vs, t.projectEnum l = .literal vs
  · obtain ⟨vs, hvs⟩ := hliteral
    obtain ⟨-, hwrites, -⟩ := projectEnum_eq_literal_iff.mp hvs
    rw [hvs]
    refine ⟨u, l, .refl _, hvs, ?_⟩
    cases huse : t.literalUse with
    | all => exact Or.inl rfl
    | strings => exact Or.inr ⟨rfl, by simpa [writesLiterals, huse] using hwrites⟩
    | none => simp [writesLiterals, huse] at hwrites
  · rw [projectEnum] at hliteral ⊢
    split
    · trivial
    · case isFalse hvalues =>
      rw [if_neg hvalues] at hliteral
      split
      · case isTrue hwrites =>
        rw [if_pos hwrites] at hliteral
        exact absurd ⟨_, rfl⟩ hliteral
      · split
        · exact ⟨_, rfl⟩
        · exact ⟨_, rfl⟩

/-- A composition becomes a union or an intersection where the target has it, and an approximation
otherwise. -/
theorem expresses_composition (u : Traits) (how : Composition) (ms : List Shape) :
    t.Expresses known (.composition u how ms)
      (t.projectComposition how (ms.map (t.project known))) := by
  cases how with
  | allOf =>
    by_cases hhas : t.hasIntersections = true
    · rw [projectComposition, if_pos hhas]
      exact hhas
    · rw [projectComposition, if_neg hhas]
      trivial
  | oneOf | anyOf =>
    by_cases hhas : t.hasUnions = true
    · simp only [projectComposition, if_pos hhas]
      exact hhas
    · simp only [projectComposition, if_neg hhas]
      trivial

/-- The target expresses the type that is formed for a shape. -/
theorem expresses_projectBase (s : Shape) : t.Expresses known s (t.projectBase known s) := by
  cases s with
  | scalar u k =>
    rw [projectBase]
    split
    · trivial
    · exact ⟨k, rfl⟩
  | ref u name => exact expresses_reference name
  | enum u l => exact expresses_enum u l
  | composition u how ms => exact expresses_composition u how ms
  | object u fields additional =>
    simp only [projectBase]
    split
    · rename_i hobject
      rw [Bool.and_eq_true] at hobject
      exact hobject.2
    · split
      · split <;> trivial
      · trivial
  | _ => trivial

/-- The target expresses everything inside the type of a shape. -/
theorem expresses_project (s : Shape) {n : TypeExpr} (h : n.Within (t.project known s)) :
    t.Expresses known s n := by
  induction s using Shape.rec_children generalizing n with
  | step s ih =>
    rcases within_project h with rfl | hbase
    · trivial
    · rcases TypeExpr.within_iff.mp hbase with rfl | ⟨c, hc, hn⟩
      · exact expresses_projectBase s
      · rcases mem_children_projectBase hc with ⟨child, hchild, rfl⟩ | rfl
        · exact (ih child hchild hn).of_child hchild
        · rcases TypeExpr.within_iff.mp hn with rfl | ⟨c, hc, -⟩
          · trivial
          · cases hc

/-! ## When the type of a shape is spelled -/

/-- A part of the type of a shape is spelled without any way out, or a value of a literal in it
cannot be written. -/
theorem render_part_ends {s : Shape} {e : TypeExpr} (h : e.Within (t.project known s)) :
    EndsWith (t.Spells e) e.BreaksDown (t.render e) :=
  render_ends e fun _ hn => expresses_project s (hn.trans h)

/-- **When a type is spelled.**  The type of a shape, or a part of it, is spelled exactly if every
value of a literal in it can be written. -/
theorem exists_render_iff {s : Shape} {e : TypeExpr} (h : e.Within (t.project known s)) :
    (∃ text, t.render e = .ok text) ↔ e.Writable := by
  constructor
  · rintro ⟨text, htext⟩
    exact ((render_part_ends h).of_eq_ok htext).writable
  · intro hwritable
    obtain ⟨text, htext, -⟩ := (render_part_ends h).exists_ok fun _ => hwritable.not_breaksDown
    exact ⟨text, htext⟩

/-- If what a shape enumerates can be written, so can the literals in its type: they have the values
of an enumeration, or the texts of one without values. -/
theorem writable_project {s : Shape} (h : s.Writable) : (t.project known s).Writable := by
  intro vs hvs v hv
  obtain ⟨u, l, hwithin, hliteral, -⟩ := expresses_project s hvs
  obtain ⟨-, -, rfl⟩ := projectEnum_eq_literal_iff.mp hliteral
  split at hv
  · obtain ⟨text, -, rfl⟩ := List.mem_map.mp hv
    exact ⟨.str text, rfl⟩
  · exact h u l hwithin v hv

/-- The type of a shape is spelled if what the shape enumerates can be written. -/
theorem exists_typeText {s : Shape} (h : s.Writable) : ∃ text, t.typeText known s = .ok text :=
  (exists_render_iff (.refl _)).mpr (writable_project h)

/-- **Projection stays within the target.**  Everything inside the type of a shape is expressed by
the target.  The type is spelled exactly if the values of its literals can be written, and so
whenever those can that the shape enumerates; it is spelled without any way out.  If it is not
spelled, the breakdown is that of a value of a literal in it, which has no form in JSON. -/
theorem project_spelled (t : Target) (known : Option (List String)) (s : Shape) :
    (∀ n, n.Within (t.project known s) → t.Expresses known s n) ∧
      ((∃ text, t.render (t.project known s) = .ok text) ↔ (t.project known s).Writable) ∧
      (s.Writable → (t.project known s).Writable) ∧
      (∀ text, t.render (t.project known s) = .ok text → t.Spells (t.project known s) text) ∧
      ∀ reason, t.render (t.project known s) = .error reason →
        (t.project known s).BreaksDown reason ∧ reason.IsUnwritable := by
  have hends : EndsWith (t.Spells (t.project known s)) (t.project known s).BreaksDown
      (t.render (t.project known s)) := render_part_ends (.refl _)
  refine ⟨fun n => expresses_project s, exists_render_iff (.refl _), writable_project,
    fun text htext => hends.of_eq_ok htext, fun reason hreason => ?_⟩
  have hbreaks := hends.of_eq_error hreason
  exact ⟨hbreaks, hbreaks.isUnwritable⟩

namespace Openings

/-- The first of January 2024. -/
def newYear : Value := .scalar (.day ⟨2024, 1, 1⟩)

/-- An enumeration of a day, declared to be one of texts. -/
def opening : Shape := .enum .none ⟨["2024-01-01"], [newYear], .scalar .string⟩

/-- The type of a day is a literal in TypeScript and in Python, and cannot be spelled there. -/
theorem opening_unspelled :
    (¬ ∀ t ∈ all, ∀ known s, (∀ n, n.Within (t.project known s) → t.Expresses known s n) ∧
      ∃ text, t.render (t.project known s) = .ok text ∧ t.Spells (t.project known s) text) ∧
      typescript.project none opening = .literal [newYear] ∧
      typescript.render (typescript.project none opening) = .error (.unwritable "date") ∧
      python.render (python.project none opening) = .error (.unwritable "date") ∧
      go.render (go.project none opening) = .ok "string" := by
  have htypescript : typescript.render (typescript.project none opening) =
      .error (.unwritable "date") := by
    cbv
  refine ⟨fun h => ?_, rfl, htypescript, by cbv, by cbv⟩
  obtain ⟨-, text, htext, -⟩ := h typescript (by simp [all]) none opening
  rw [htypescript] at htext
  cases htext

end Openings
end Target
end ApiCompiler
