import ApiCompiler.Proofs.Compilation.Completeness
import ApiCompiler.Proofs.Derivation.Narrowing
import ApiCompiler.Proofs.Target.Expressible

/-!
# What is compiled can be spelled

The type of a shape is spelled unless the shape enumerates a value that JSON does not have.  Such
values do not get past the compiler: an enumeration has a text for each of its values, and the text
of a value is made by writing it, with sorted keys (`Schema.Represents.writable`).  So every shape
of a compiled document is spelled in every target, whichever models are known, and so is every
shape of a client (`Document.exists_typeText`).
-/

namespace ApiCompiler

/-- A shape that stands for a schema enumerates only values that can be written. -/
theorem Schema.Represents.writable {r : Registry} {s : Option Schema} {nested : Bool} {a : Shape}
    (h : Represents r s nested a) : a.Writable := by
  induction h with
  | composition form length _ ih =>
    refine Shape.allEnums_of_children rfl fun b hb => ?_
    obtain ⟨m, hmem⟩ := exists_mem_zip length hb
    exact ih _ hmem
  | negation form _ ih => exact Shape.allEnums_of_child rfl rfl ih
  | literals form written =>
    intro u l hl
    cases hl.eq_of_children_eq_nil rfl
    exact Value.writable_of_literalTexts written
  | object form labels _ open_iff _ ihTypes ihFurther =>
    refine Shape.allEnums_of_children rfl fun b hb => ?_
    rcases List.mem_append.mp hb with hb | hb
    · obtain ⟨g, hg, rfl⟩ := List.mem_map.mp hb
      obtain ⟨f, hmem, -, -⟩ := exists_declaredField labels hg
      exact ihTypes _ hmem
    · rw [Option.mem_toList] at hb
      obtain ⟨s, hs⟩ := Option.isSome_iff_exists.mp (open_iff ▸ Option.isSome_of_mem hb)
      exact ihFurther s hs b hb
  | array form _ ih => exact Shape.allEnums_of_child rfl rfl ih
  | _ => exact Shape.allEnums_of_children_eq_nil rfl rfl

/-- The shapes of a derived description are shapes of the description. -/
theorem Api.mem_shapes_of_derive {api derived : Api} {strict : Bool} {f : TagFilter}
    {notices : List Notice} (h : api.derive strict f = .ok (derived, notices)) {s : Shape}
    (hs : s ∈ derived.shapes) : s ∈ api.shapes := by
  rcases List.mem_append.mp hs with hs | hs
  · obtain ⟨m, hm, rfl⟩ := List.mem_map.mp hs
    have hmodel : m ∈ api.models := mem_of_mem_definitions (mem_definitions_of_derive h hm)
    exact List.mem_append_left _ (List.mem_map_of_mem hmodel)
  · obtain ⟨op, hop, hs⟩ := List.mem_flatMap.mp hs
    exact List.mem_append_right _
      (List.mem_flatMap.mpr ⟨op, mem_operations_of_derive h hop, hs⟩)

/-- The shapes of a compiled description enumerate only values that can be written. -/
theorem Document.writable_of_mem_shapes {d : Document} {strict : Bool} {api : Api}
    {notices : List Notice} (hcompile : d.compile strict = (.ok api, notices)) {s : Shape}
    (hs : s ∈ api.shapes) : s.Writable := by
  obtain ⟨r, hmeant⟩ := meant_of_mem_shapes hcompile
  obtain ⟨_, -, hrep⟩ := hmeant s hs
  exact hrep.writable

/-- **What is compiled can be spelled.**  Every shape of a description compiled from a document, or
of the part of it that a client gets, has a type that is spelled, in every target and whichever
models are known. -/
theorem Document.exists_typeText {d : Document} {strict : Bool} {api : Api}
    {notices : List Notice} (hcompile : d.compile strict = (.ok api, notices)) {part : Api}
    (hpart : part = api ∨ ∃ strictly f ns, api.derive strictly f = .ok (part, ns)) (t : Target)
    (known : Option (List String)) :
    ∀ s ∈ part.shapes, ∃ text, t.typeText known s = .ok text := by
  intro s hs
  have hshape : s ∈ api.shapes := by
    rcases hpart with rfl | ⟨strictly, f, ns, hderive⟩
    · exact hs
    · exact Api.mem_shapes_of_derive hderive hs
  exact Target.exists_typeText (writable_of_mem_shapes hcompile hshape)

end ApiCompiler
