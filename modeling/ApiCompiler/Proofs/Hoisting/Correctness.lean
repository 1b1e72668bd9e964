import ApiCompiler.Proofs.Hoisting.Safety
import ApiCompiler.Proofs.Hoisting.Soundness
import Mathlib

/-!
# Hoisting preserves meaning

A build that is not strict compiles every schema, unless one of its enumerated values cannot be
written, and the shape it returns stands for the schema: in place where the schema stands in
place, and through the models of the registry where parts of it were hoisted.  This puts together
what a run does (`sound`) and how it can end (`compile_endsIn`).

The example below the theorem is the case the search for a name is about: the name is taken, so
the shape is built again under the next candidate, and the reference leads to the second model.
-/

namespace ApiCompiler
namespace Schema

/-- **Hoisting preserves meaning.**  Wherever a lenient build stands, whatever schema it compiles
and under whatever owner and property, it returns a shape that stands for the schema in the
registry it leaves behind.  The one way to fail is an enumeration with a value that cannot be
written. -/
theorem compileOptional_represents (s : Option Schema) (owner property : String) (isItem : Bool)
    {before : BuildState} (hbefore : Build.Lenient before) :
    (∃ shape after, (compileOptional s owner property isItem).Returns before shape after ∧
      Represents after.registry s (isNested property isItem) shape) ∨
    ∃ p ∈ s, ∃ e after,
      (compileOptional s owner property isItem).outcome before = (.error e, after) ∧
        p.Unwritable e := by
  cases s with
  | none => exact Or.inl ⟨.anything, before, rfl, .missing⟩
  | some p =>
    have hends := compile_endsIn Build.lenient_tolerates p owner property isItem before hbefore
    rcases hends.returns_or with ⟨shape, after, hrun, -⟩ | ⟨e, after, hrun, he⟩
    · exact Or.inl ⟨shape, after, hrun, (p.sound hrun).2⟩
    · exact Or.inr ⟨p, rfl, e, after, hrun, he.resolve_right id⟩

/-- A list of orders, none of whose parts is known. -/
def orders : Schema :=
  .inline { Keywords.blank with type := some (.one .array) }
    { Children.blank with
      items := some (.inline { Keywords.blank with type := some (.one .object) } .blank) }

/-- A build in which the name that an order would have is taken by something else. -/
def orderTaken : BuildState :=
  ⟨(Registry.empty false).addModel ⟨"Orders_Item", .anything, .none⟩, []⟩

/-- The orders are hoisted under the second candidate, and it is this model they stand for. -/
theorem orders_represented :
    Build.Lenient orderTaken ∧ ∃ after,
      (compileOptional (some orders) "Orders" "" false).Returns orderTaken
        (.array .none (.ref .none "Orders_Item2")) after ∧
      Represents after.registry (some orders) false
        (.array .none (.ref .none "Orders_Item2")) := by
  have hlenient : Build.Lenient orderTaken := rfl
  refine ⟨hlenient, ?_⟩
  have hrun : ((compileOptional (some orders) "Orders" "" false).outcome orderTaken).1 =
      .ok (.array .none (.ref .none "Orders_Item2")) := by
    cbv
  rcases compileOptional_represents (some orders) "Orders" "" false hlenient with
    ⟨shape, after, h, hrep⟩ | ⟨p, -, e, after, h, -⟩
  · obtain rfl : .array .none (.ref .none "Orders_Item2") = shape := by
      rw [Build.Returns] at h
      rw [h] at hrun
      exact (Except.ok.inj hrun).symm
    exact ⟨after, h, hrep⟩
  · rw [h] at hrun
    cases hrun

end Schema
end ApiCompiler
