import ApiCompiler.Proofs.Hoisting.Meaning
import ApiCompiler.Proofs.Shape.Mentions

/-!
# Where the names in a shape come from

A name gets into a shape in two ways, and `Represents.mentions` tells them apart: it was written
in the schema that the shape stands for, in a reference or in a discriminator somewhere inside it,
or it is the name of a hoisted model, which the registry then has.
-/

namespace ApiCompiler
namespace Schema

/-! ## The names a schema writes -/

/-- The component names that a schema itself refers to: that of a reference, or those that the
values of a discriminator select. -/
def targets : Schema → List String
  | .reference r => [r.name]
  | .inline k _ =>
    match k.discriminator with
    | some d => (d.mapping.getD []).map fun e => Reference.nameOf e.2
    | none => []

/-- What a compiled discriminator selects was written in the schema. -/
theorem mem_targets_of_discriminator {k : Keywords} {c : Children Schema}
    {d : ApiCompiler.Discriminator} (hd : k.discriminator.map (·.compile) = some d)
    {e : String × String} (he : e ∈ d.mapping) : e.2 ∈ (Schema.inline k c).targets := by
  obtain ⟨written, hwritten, rfl⟩ := Option.map_eq_some_iff.mp hd
  obtain ⟨w, hw, rfl⟩ := List.mem_map.mp he
  rw [targets, hwritten]
  exact List.mem_map.mpr ⟨w, List.mem_mergeSort.mp hw, rfl⟩

/-- A shape other than a reference refers itself to what its discriminator selects. -/
theorem mem_targets_of_ownReferences {k : Keywords} {c : Children Schema} {a : Shape} {n : String}
    (hkind : a.kind ≠ .ref) (htraits : a.traits.discriminator = k.discriminator.map (·.compile))
    (h : n ∈ a.ownReferences) : n ∈ (Schema.inline k c).targets := by
  rcases List.mem_append.mp h with h | h
  · split at h
    · exact absurd rfl hkind
    · cases h
  · split at h
    · case h_1 d hd =>
      rw [htraits] at hd
      obtain ⟨e, he, rfl⟩ := List.mem_map.mp h
      exact mem_targets_of_discriminator hd he
    · cases h

/-- The name was written in a schema that occurs in the given one. -/
def Names (s : Option Schema) (n : String) : Prop :=
  ∃ p ∈ s, ∃ c : Schema, c.Occurs p ∧ n ∈ c.targets

theorem Names.of_part {part : Option Schema} {s : Schema} {n : String}
    (hpart : ∀ p ∈ part, p.Occurs s) (h : Names part n) : Names (some s) n := by
  obtain ⟨p, hp, c, hocc, hn⟩ := h
  exact ⟨s, rfl, c, hocc.trans (hpart p hp), hn⟩

theorem names_self {s : Schema} {n : String} (h : n ∈ s.targets) : Names (some s) n :=
  ⟨s, rfl, s, .refl s, h⟩

/-- The second of two lists of one length has a partner in the first for each of its members. -/
theorem exists_mem_zip {α β : Type} {as : List α} {bs : List β} (h : as.length = bs.length)
    {b : β} (hb : b ∈ bs) : ∃ a, (a, b) ∈ as.zip bs := by
  have hsnd : (as.zip bs).map Prod.snd = bs := List.map_snd_zip (Nat.le_of_eq h.symm)
  rw [← hsnd] at hb
  obtain ⟨⟨a, b'⟩, hmem, rfl⟩ := List.mem_map.mp hb
  exact ⟨a, hmem⟩

theorem not_mentions_anything {n : String} : ¬ Shape.anything.Mentions n := by
  intro h
  rcases Shape.mentions_iff.mp h with hown | ⟨c, hc, -⟩
  · cases hown
  · cases hc

/-- A shape other than a reference mentions the targets of its schema and what is mentioned below
it. -/
theorem mentions_inline {k : Keywords} {c : Children Schema} {a : Shape} {n : String} {P : Prop}
    (hkind : a.kind ≠ .ref) (htraits : a.traits.discriminator = k.discriminator.map (·.compile))
    (hchildren : ∀ b ∈ a.children, b.Mentions n → Names (some (.inline k c)) n ∨ P)
    (hn : a.Mentions n) : Names (some (.inline k c)) n ∨ P := by
  rcases Shape.mentions_iff.mp hn with hown | ⟨b, hb, hmentions⟩
  · exact Or.inl (names_self (mem_targets_of_ownReferences hkind htraits hown))
  · exact hchildren b hb hmentions

/-- Every name that a shape mentions was written in the schema it stands for, or is the name of a
model of the registry. -/
theorem Represents.mentions {r : Registry} {s : Option Schema} {nested : Bool} {a : Shape}
    (h : Represents r s nested a) {n : String} (hn : a.Mentions n) :
    Names s n ∨ ∃ m, r.model? n = some m := by
  induction h with
  | missing => exact absurd hn not_mentions_anything
  | nameless => exact absurd hn not_mentions_anything
  | @reference ref nested named =>
    rcases Shape.mentions_iff.mp hn with hown | ⟨c, hc, -⟩
    · exact Or.inl (names_self (s := .reference ref) hown)
    · cases hc
  | @composition k c how ms as nested form length _ ih =>
    refine mentions_inline Kind.noConfusion rfl (fun a ha hmentions => ?_) hn
    obtain ⟨m, hmem⟩ := exists_mem_zip length ha
    refine (ih _ hmem hmentions).imp_left (Names.of_part fun p hp => ?_)
    obtain rfl := Option.some.inj hp
    exact .of_mem_parts (mem_parts_of_composition form (List.of_mem_zip hmem).1)
  | negation form _ ih =>
    refine mentions_inline Kind.noConfusion rfl (fun a ha hmentions => ?_) hn
    rw [Shape.children, List.mem_singleton] at ha
    subst ha
    refine (ih hmentions).imp_left (Names.of_part fun p hp => ?_)
    obtain rfl := Option.some.inj hp
    exact .of_mem_parts (mem_parts_of_negation form)
  | @object k c fields extra form labels types open_iff further ihTypes ihFurther =>
    refine mentions_inline Kind.noConfusion rfl (fun a ha hmentions => ?_) hn
    rcases List.mem_append.mp ha with ha | ha
    · -- the field stands at the place of a declared field, whose type occurs in the schema
      obtain ⟨g, hg, rfl⟩ := List.mem_map.mp ha
      have hlength := congrArg List.length labels
      rw [List.length_map, List.length_map] at hlength
      obtain ⟨f, hmem⟩ := exists_mem_zip hlength.symm hg
      refine (ihTypes _ hmem hmentions).imp_left (Names.of_part fun p hp => ?_)
      obtain rfl := Option.some.inj hp
      obtain ⟨part, hpart, hocc⟩ :=
        occurs_of_mem_declaredFields (List.mem_mergeSort.mp (List.of_mem_zip hmem).1)
      exact hocc.trans (.of_mem_parts hpart)
    · rw [Option.mem_toList] at ha
      have hopen : c.remaining.isSome = true := by
        rw [← open_iff, Option.mem_def.mp ha]
        rfl
      obtain ⟨s, hs⟩ := Option.isSome_iff_exists.mp hopen
      refine (ihFurther s hs a ha hmentions).imp_left (Names.of_part fun p hp => ?_)
      exact .of_mem_parts (mem_parts_of_remaining (by rw [hs, Option.mem_def.mp hp]))
  | @hoisted k c m body n' form found same _ _ =>
    rcases Shape.mentions_iff.mp hn with hown | ⟨a, ha, -⟩
    · have hname : n = n' := by simpa [Shape.ownReferences, Shape.traits] using hown
      rw [hname]
      exact Or.inr ⟨m, found⟩
    · cases ha
  | array form _ ih =>
    refine mentions_inline Kind.noConfusion rfl (fun a ha hmentions => ?_) hn
    rw [Shape.children, List.mem_singleton] at ha
    subst ha
    exact (ih hmentions).imp_left
      (Names.of_part fun p hp => .of_mem_parts (mem_parts_of_items hp))
  | literals => exact mentions_inline Kind.noConfusion rfl (fun _ ha => by cases ha) hn
  | scalar => exact mentions_inline Kind.noConfusion rfl (fun _ ha => by cases ha) hn
  | null => exact mentions_inline Kind.noConfusion rfl (fun _ ha => by cases ha) hn
  | unknown => exact mentions_inline Kind.noConfusion rfl (fun _ ha => by cases ha) hn

end Schema

end ApiCompiler
