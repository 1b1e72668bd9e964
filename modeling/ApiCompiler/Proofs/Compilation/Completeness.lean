import ApiCompiler.Proofs.Compilation.Ledger
import ApiCompiler.Proofs.Hoisting.Completeness
import Mathlib

/-!
# Nothing is left to hoist

In a compiled description an object or an enumeration stands on the spine of a model or of a shape
of an operation: everything below has been hoisted and is referred to by name.  This holds of every
document that gives its properties names (`compile_hoists`).

A property may have the empty name, and it is then taken for none: the parcels at the end have an
object under such a property, and it stays inside its model (`parcels_unhoisted`).
-/

namespace ApiCompiler

/-- The shapes of a description: those of its models, and those of its operations. -/
def Api.shapes (api : Api) : List Shape :=
  api.models.map (·.shape) ++ api.operations.flatMap (·.shapes)

/-- A property without a name is declared somewhere in the components or the operations. -/
def Document.DeclaresNameless (d : Document) : Prop :=
  ∃ k c, d.Writes (.inline k c) ∧ "" ∈ (c.properties.getD []).map (·.1)

/-- Every shape of a compiled description stands in place for a schema of the document. -/
theorem Document.meant_of_mem_shapes {d : Document} {strict : Bool} {api : Api}
    {notices : List Notice} (hcompile : d.compile strict = (.ok api, notices)) :
    ∃ r, ∀ root ∈ api.shapes, d.Meant r root := by
  obtain ⟨after, hbuild, -⟩ := Document.build_returns_of_compile hcompile
  obtain ⟨es, hes, hmodels, -, -, hoperations⟩ := Document.build_records hbuild
  refine ⟨after.registry, fun root hroot => ?_⟩
  rcases List.mem_append.mp hroot with hroot | hroot
  · obtain ⟨m, hm, rfl⟩ := List.mem_map.mp hroot
    rw [hmodels] at hm
    obtain ⟨e, he, rfl⟩ := List.mem_map.mp hm
    exact hes.models_meant e he
  · obtain ⟨op, hop, hshape⟩ := List.mem_flatMap.mp hroot
    obtain ⟨service, hservice, hop⟩ := List.mem_flatMap.mp hop
    exact hoperations service hservice op hop root hshape

/-- **Nothing is left to hoist.**  Every object and every enumeration in a model or in a shape of
an operation stands on its spine, unless it stands under a field without a name; and then the
document declares a property without a name. -/
theorem compile_hoists (d : Document) {strict : Bool} {api : Api} {notices : List Notice}
    (hcompile : d.compile strict = (.ok api, notices)) :
    ∀ root ∈ api.shapes, ∀ n : Shape, n.Within root → n.isModel →
      n.OnSpine root ∨ n.UnderNameless root ∧ d.DeclaresNameless := by
  obtain ⟨r, hmeant⟩ := Document.meant_of_mem_shapes hcompile
  intro root hroot n hn hmodel
  obtain ⟨s, hwritten, hrep⟩ := hmeant root hroot
  obtain ⟨-, hplace⟩ := hrep.onSpine hn hmodel
  refine hplace.imp_right ?_
  rintro ⟨hunder, p, hp, k, c, hocc, hname⟩
  exact ⟨hunder, k, c, (hwritten p hp).occurs hocc, hname⟩

/-! ## Parcels -/

namespace Parcels

open Schema (Keywords Children)

def box : Schema := .inline { Keywords.blank with type := some (.one .object) } .blank

/-- A parcel has an object under the name of a property, and another one under no name. -/
def parcel : Schema :=
  .inline { Keywords.blank with type := some (.one .object) }
    { Children.blank with properties := some [("", box), ("size", box)] }

def document : Document :=
  { openapi := "3.0.0"
    info := ⟨"Parcels", "1", none, [], []⟩
    paths := some []
    components := some { Document.Components.empty with schemas := some [("Parcel", parcel)] }
    tags := none
    extra := []
    nulls := [] }

def boxShape : Shape := .object .none [] none

/-- One of the objects is hoisted, and the other one stays. -/
def parcelShape : Shape :=
  .object .none [⟨"", boxShape, false, .none⟩, ⟨"size", .ref .none "Parcel_Size", false, .none⟩]
    none

def api : Api :=
  ⟨[], [⟨"Parcel_Size", boxShape, .none⟩, ⟨"Parcel", parcelShape, .none⟩], []⟩

theorem compile_document : document.compile false = (.ok api, []) := by
  cbv

theorem parcelShape_mem : parcelShape ∈ api.shapes :=
  List.mem_append_left _ (List.mem_cons_of_mem _ List.mem_cons_self)

theorem box_within : boxShape.Within parcelShape :=
  .child List.mem_cons_self (.refl _)

/-- The box is no parcel, and nothing else is on the spine of an object. -/
theorem box_not_onSpine : ¬ boxShape.OnSpine parcelShape := by
  intro h
  cases h

/-- An object that stands under a property without a name is not hoisted. -/
theorem parcels_unhoisted :
    ¬ ∀ (d : Document) (strict : Bool) (api : Api) (notices : List Notice),
      d.compile strict = (.ok api, notices) →
        ∀ root ∈ api.shapes, ∀ n : Shape, n.Within root → n.isModel → n.OnSpine root := by
  intro h
  exact box_not_onSpine
    (h document false api [] compile_document parcelShape parcelShape_mem boxShape box_within
      trivial)

/-- The object that stays in a parcel stands under a field without a name. -/
theorem parcels_hoisted :
    document.compile false = (.ok api, []) ∧ parcelShape ∈ api.shapes ∧
      boxShape.Within parcelShape ∧ boxShape.isModel ∧
      boxShape.UnderNameless parcelShape ∧ document.DeclaresNameless := by
  refine ⟨compile_document, parcelShape_mem, box_within, trivial, ?_⟩
  exact (compile_hoists document compile_document parcelShape parcelShape_mem boxShape box_within
    trivial).resolve_left box_not_onSpine

end Parcels
end ApiCompiler
