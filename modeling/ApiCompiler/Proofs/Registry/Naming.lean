import ApiCompiler.Proofs.Build.Returning
import ApiCompiler.Proofs.Registry.Growth
import Mathlib.Data.List.Nodup
import Mathlib.Data.List.Perm.Subperm
import Mathlib.Data.List.Range

/-!
# Naming a shape

`Build.registerShape` builds a shape under one candidate after the other until a candidate is
free or stands for a shape that says the same.  A `Registration` is one such call, and this file
says what the call does without speaking of the bound that the program puts on its search:
`Registration.Tries r k u` says that the candidate of number `k` is tried, in the state `u`, and
`Registration.Ends r k result t` that the search is over with it.

`Registration.exists_ends` joins the two.  It needs that no build takes the name it is built under
(`Registration.Spares`).  A candidate is then rejected only for a model that was registered before
the search began; the candidates are all different, so no more of them are rejected than there are
models, and what happens at the bound is never seen.

Every candidate is tried with the models there were at the start (`Registration.Tries.registry_eq`):
a rejected candidate leaves nothing but its notices.
-/

namespace ApiCompiler
namespace Build

/-! ## Candidates -/

theorem candidate_of_lt {k : Nat} (name : String) (hk : 1 < k) :
    candidate name k = name ++ toString k := by
  rw [candidate, if_neg (Nat.not_le.mpr hk)]

/-- A candidate starts with the name it is a candidate for. -/
theorem exists_candidate_eq (name : String) (k : Nat) :
    ∃ suffix, candidate name k = name ++ suffix := by
  unfold candidate
  split
  · exact ⟨"", (String.append_empty).symm⟩
  · exact ⟨_, rfl⟩

/-- The decimal digits of a number determine it. -/
theorem toString_nat_injective {j k : Nat} (h : toString j = toString k) : j = k := by
  have hd : Nat.toDigits 10 j = Nat.toDigits 10 k := by
    simpa only [Nat.toString_eq_repr, Nat.toList_repr] using congrArg String.toList h
  rw [← Nat.ofDigitChars_ten_toDigits (n := j), hd, Nat.ofDigitChars_ten_toDigits]

theorem toString_nat_ne_empty (k : Nat) : toString k ≠ "" := by
  intro h
  have hpos : 0 < k.repr.length := Nat.length_repr_pos
  rw [← Nat.toString_eq_repr, h] at hpos
  exact absurd hpos (by decide)

/-- Different numbers give different candidates. -/
theorem candidate_injective {name : String} {j k : Nat} (hj : 1 ≤ j) (hk : 1 ≤ k)
    (h : candidate name j = candidate name k) : j = k := by
  -- the plain name is no candidate with digits, since digits are not empty
  have hplain : ∀ {i : Nat}, 1 < i → candidate name i ≠ name := by
    intro i hi heq
    rw [candidate_of_lt name hi] at heq
    have hempty : name ++ toString i = name ++ "" := heq.trans String.append_empty.symm
    exact toString_nat_ne_empty i ((String.append_right_inj name).mp hempty)
  rcases Nat.lt_or_eq_of_le hj with hj | rfl
  · rcases Nat.lt_or_eq_of_le hk with hk | rfl
    · rw [candidate_of_lt name hj, candidate_of_lt name hk] at h
      exact toString_nat_injective ((String.append_right_inj name).mp h)
    · exact absurd h (hplain hj)
  · rcases Nat.lt_or_eq_of_le hk with hk | rfl
    · exact absurd h.symm (hplain hk)
    · rfl

/-- Candidates that all are names of models are no more than there are models. -/
theorem le_length_of_candidates {k : Nat} {names : List String}
    (h : ∀ j, 1 ≤ j → j < k → candidate name j ∈ names) : k ≤ names.length + 1 := by
  have hnodup : ((List.range' 1 (k - 1)).map (candidate name)).Nodup := by
    refine List.Nodup.map_on (fun i hi j hj hij => ?_) List.nodup_range'
    rw [List.mem_range'_1] at hi hj
    exact candidate_injective hi.1 hj.1 hij
  have hsub : (List.range' 1 (k - 1)).map (candidate name) ⊆ names := by
    intro c hc
    obtain ⟨j, hj, rfl⟩ := List.mem_map.mp hc
    rw [List.mem_range'_1] at hj
    exact h j hj.1 (by omega)
  have hlen := (List.subperm_of_subset hnodup hsub).length_le
  rw [List.length_map, List.length_range'] at hlen
  omega

/-! ## Storing a shape -/

variable {name : String} {notes : Annotations}

/-- What becomes of the shape of the chosen candidate: a free name is given to it, and a name
whose shape says the same is shared. -/
inductive Stored (name c : String) (shape : Shape) (notes : Annotations) (v : BuildState) :
    BuildState → Prop
  | fresh (free : v.registry.model? c = none) :
      Stored name c shape notes v
        ⟨v.registry.addModel ⟨c, shape, notes⟩,
          v.notices ++ if c = name then [] else [.renamedModel name c]⟩
  | shared {existing : Model} (found : v.registry.model? c = some existing)
      (like : existing.shape.like shape = true) : Stored name c shape notes v v

/-- Storing a shape appends a model, and reports a name that is not the one wanted. -/
theorem store_outcome (name c : String) (shape : Shape) (notes : Annotations) (s : BuildState) :
    (store name c shape notes).outcome s =
      (.ok c, ⟨s.registry.addModel ⟨c, shape, notes⟩,
        s.notices ++ if c = name then [] else [.renamedModel name c]⟩) := by
  unfold store
  by_cases hc : c = name
  · rw [if_neg (by simpa using hc), if_pos hc, List.append_nil]
    rfl
  · rw [if_pos (by simpa using hc), if_neg hc]
    rfl

end Build

/-! ## The search without its bound -/

/-- A call for a name: the name that is wanted, how the shape depends on the name it gets, and the
state in which the call is made. -/
structure Registration where
  name : String
  build : String → Build Shape
  notes : Annotations
  start : BuildState

namespace Registration

variable {r : Registration} {j k : Nat} {u v w t : BuildState}
  {result : Except CompileError String}

/-- How the call ends, and the state it leaves. -/
def outcome (r : Registration) : Except CompileError String × BuildState :=
  (Build.registerShape r.name r.build r.notes).outcome r.start

/-- The candidates of a call, counted from one. -/
abbrev candidate (r : Registration) (k : Nat) : String := Build.candidate r.name k

/-- The candidate of some number is tried in a state.  After the first one, a candidate is tried if
the one before it is rejected in a build that is not strict: another shape has its name.  What the
rejected candidate registered is dropped. -/
inductive Tries (r : Registration) : Nat → BuildState → Prop
  | first : Tries r 1 r.start
  | next {k : Nat} {u v : BuildState} {shape : Shape} {existing : Model} (tried : Tries r k u)
      (built : (r.build (r.candidate k)).Returns u shape v)
      (found : v.registry.model? (r.candidate k) = some existing)
      (unlike : existing.shape.like shape = false) (lenient : u.registry.strict = false) :
      Tries r (k + 1) { v with registry := u.registry }

/-- The search is over with the candidate of some number: its shape cannot be built, it is chosen,
or it is refused. -/
inductive Ends (r : Registration) (k : Nat) : Except CompileError String → BuildState → Prop
  | failed {u v : BuildState} {e : CompileError} (tried : r.Tries k u)
      (fails : (r.build (r.candidate k)).Fails u e v) : Ends r k (.error e) v
  | chosen {u v t : BuildState} {shape : Shape} (tried : r.Tries k u)
      (built : (r.build (r.candidate k)).Returns u shape v)
      (stored : Build.Stored r.name (r.candidate k) shape r.notes v t) :
      Ends r k (.ok (r.candidate k)) t
  | refused {u v : BuildState} {shape : Shape} {existing : Model} (tried : r.Tries k u)
      (built : (r.build (r.candidate k)).Returns u shape v)
      (found : v.registry.model? (r.candidate k) = some existing)
      (unlike : existing.shape.like shape = false) (strict : u.registry.strict = true) :
      Ends r k (.error (.nameCollision r.name)) { v with registry := u.registry }

/-- No build takes the name it is built under. -/
def Spares (r : Registration) : Prop :=
  ∀ c u shape v, (r.build c).Returns u shape v →
    u.registry.Grows (fun _ m => m.name ≠ c) v.registry

/-- The candidate is rejected: its name belonged to a model at the start, and the first such model
is unlike the shape built under the candidate. -/
def Rejects (r : Registration) (k : Nat) : Prop :=
  ∃ u shape v existing, r.Tries k u ∧ (r.build (r.candidate k)).Returns u shape v ∧
    r.start.registry.model? (r.candidate k) = some existing ∧
    existing.shape.like shape = false

/-- The candidate is acceptable: its name was free at the start, or the first model of the name is
like the shape built under the candidate. -/
def Accepts (r : Registration) (k : Nat) : Prop :=
  ∃ u shape v, r.Tries k u ∧ (r.build (r.candidate k)).Returns u shape v ∧
    ∀ existing ∈ r.start.registry.model? (r.candidate k), existing.shape.like shape = true

/-- The call returns the name of the model, and has added the model last. -/
def Stores (r : Registration) (m : Model) : Prop :=
  ∃ (q : Registry) (notices : List Notice), r.outcome = (.ok m.name, ⟨q.addModel m, notices⟩)

/-! ### The candidates that are tried -/

namespace Tries

theorem one_le (h : r.Tries k u) : 1 ≤ k := by
  cases h with
  | first => exact Nat.le_refl 1
  | next tried => exact Nat.le_add_left 1 _

/-- Every candidate is tried with the models there were at the start. -/
theorem registry_eq (h : r.Tries k u) : u.registry = r.start.registry := by
  induction h with
  | first => rfl
  | next _ _ _ _ _ ih => exact ih

/-- What is known when a candidate after the first one is tried. -/
theorem of_succ (h : r.Tries (k + 1) w) (hk : 1 ≤ k) :
    ∃ u v shape existing, r.Tries k u ∧ (r.build (r.candidate k)).Returns u shape v ∧
      v.registry.model? (r.candidate k) = some existing ∧ existing.shape.like shape = false ∧
      u.registry.strict = false ∧ w = { v with registry := u.registry } := by
  generalize hsucc : k + 1 = i at h
  cases h with
  | first => omega
  | next tried built found unlike lenient =>
    obtain rfl := Nat.succ.inj hsucc
    exact ⟨_, _, _, _, tried, built, found, unlike, lenient, rfl⟩

/-- The first candidate is tried in the state in which the call is made. -/
theorem of_one (h : r.Tries 1 u) : u = r.start := by
  generalize hone : 1 = i at h
  cases h with
  | first => rfl
  | next tried =>
    have hpos := tried.one_le
    omega

/-- A candidate is tried in one state only. -/
theorem unique (h : r.Tries k u) (h' : r.Tries k w) : u = w := by
  induction h generalizing w with
  | first => exact h'.of_one.symm
  | next tried built _ _ _ ih =>
    obtain ⟨u', v', shape', existing', tried', built', -, -, -, rfl⟩ := h'.of_succ tried.one_le
    obtain rfl := ih tried'
    obtain ⟨-, rfl⟩ := Prod.mk.inj (built.symm.trans built')
    rfl

/-- Before a candidate is tried, every earlier one is. -/
theorem of_le (h : r.Tries k u) (hj : 1 ≤ j) (hjk : j ≤ k) : ∃ w, r.Tries j w := by
  induction h with
  | first =>
    obtain rfl : j = 1 := by omega
    exact ⟨_, .first⟩
  | next tried built found unlike lenient ih =>
    rcases Nat.lt_or_eq_of_le hjk with hlt | rfl
    · exact ih (by omega)
    · exact ⟨_, .next tried built found unlike lenient⟩

/-- A strict build tries the first candidate only. -/
theorem of_strict (h : r.Tries k u) (hstrict : r.start.registry.strict = true) :
    k = 1 ∧ u = r.start := by
  cases h with
  | first => exact ⟨rfl, rfl⟩
  | next tried _ _ _ lenient =>
    rw [tried.registry_eq, hstrict] at lenient
    cases lenient

end Tries

/-- Building the shape does not change what its candidate finds. -/
theorem Spares.model?_eq (hspares : r.Spares) {shape : Shape} (tried : r.Tries k u)
    (built : (r.build (r.candidate k)).Returns u shape v) :
    v.registry.model? (r.candidate k) = r.start.registry.model? (r.candidate k) := by
  rw [← tried.registry_eq]
  exact (hspares _ _ _ _ built).model?_eq fun _ _ hne => hne

/-- All candidates before one that is tried are rejected. -/
theorem Tries.rejects (h : r.Tries k u) (hspares : r.Spares) (hj : 1 ≤ j) (hjk : j < k) :
    r.Rejects j := by
  obtain ⟨w, hw⟩ := h.of_le (j := j + 1) (by omega) hjk
  obtain ⟨u', v', shape, existing, tried, built, found, unlike, -, -⟩ := hw.of_succ hj
  rw [hspares.model?_eq tried built] at found
  exact ⟨u', shape, v', existing, tried, built, found, unlike⟩

/-- At most one more candidate is tried than there are models. -/
theorem Tries.le_models (h : r.Tries k u) (hspares : r.Spares) :
    k ≤ r.start.registry.models.length + 1 := by
  have hmem : ∀ j, 1 ≤ j → j < k →
      Build.candidate r.name j ∈ r.start.registry.models.map (·.name) := by
    intro j hj hjk
    obtain ⟨-, -, -, existing, -, -, found, -⟩ := h.rejects hspares hj hjk
    exact List.mem_map.mpr ⟨existing, Registry.mem_of_model? found, Registry.name_of_model? found⟩
  have hle := Build.le_length_of_candidates hmem
  rwa [List.length_map] at hle

/-! ### The end of the search -/

/-- The search goes on from any candidate that is tried, and if it stops before its bound, it has
ended. -/
theorem Tries.search (h : r.Tries k u) (bound : Nat) :
    ∃ i w, r.Tries i w ∧ (i < k + bound →
      r.Ends i ((Build.registerFrom r.name r.build r.notes bound k).outcome u).1
        ((Build.registerFrom r.name r.build r.notes bound k).outcome u).2) := by
  induction bound generalizing k u with
  | zero => exact ⟨k, u, h, fun hlt => absurd hlt (by omega)⟩
  | succ bound ih =>
    rw [Build.registerFrom, Build.registry_bind_outcome, Build.outcome_bind]
    rcases hbuild : (r.build (r.candidate k)).outcome u with ⟨e | shape, v⟩
    · exact ⟨k, u, h, fun _ => .failed h hbuild⟩
    · dsimp only
      rw [Build.registry_bind_outcome]
      cases hfound : v.registry.model? (r.candidate k) with
      | none =>
        dsimp only
        rw [Build.store_outcome]
        exact ⟨k, u, h, fun _ => .chosen h hbuild (.fresh hfound)⟩
      | some existing =>
        dsimp only
        split
        · case isTrue hlike =>
          exact ⟨k, u, h, fun _ => .chosen h hbuild (.shared hfound hlike)⟩
        · case isFalse hunlike =>
          rw [Bool.not_eq_true] at hunlike
          rw [Build.setRegistry_bind_outcome]
          split
          · case isTrue hstrict =>
            exact ⟨k, u, h, fun _ => .refused h hbuild hfound hunlike hstrict⟩
          · case isFalse hlenient =>
            -- the search goes on from the models there were before the rejected candidate
            rw [Bool.not_eq_true] at hlenient
            obtain ⟨i, w, hw, hends⟩ := ih (h.next hbuild hfound hunlike hlenient)
            exact ⟨i, w, hw, fun hlt => hends (by omega)⟩

/-- **The search for a name ends.**  If no build takes the name it is built under, the search is
over with some candidate, and at most one more of them than there are models is tried. -/
theorem exists_ends (hspares : r.Spares) :
    ∃ k ≤ r.start.registry.models.length + 1, r.Ends k r.outcome.1 r.outcome.2 := by
  rw [outcome, Build.registerShape, Build.registry_bind_outcome]
  obtain ⟨k, u, tried, hends⟩ := (Tries.first (r := r)).search (r.start.registry.models.length + 1)
  have hle := tried.le_models hspares
  exact ⟨k, hle, hends (by omega)⟩

namespace Ends

/-- The candidate with which the search is over is tried. -/
theorem tries (h : r.Ends k result t) : ∃ u, r.Tries k u := by
  cases h with
  | failed tried => exact ⟨_, tried⟩
  | chosen tried => exact ⟨_, tried⟩
  | refused tried => exact ⟨_, tried⟩

/-- No candidate is tried after the search is over. -/
theorem last (h : r.Ends k result t) (hj : r.Tries j w) : j ≤ k := by
  by_contra hlt
  obtain ⟨u, htried⟩ := h.tries
  obtain ⟨w', hnext⟩ := hj.of_le (j := k + 1) (by omega) (by omega)
  obtain ⟨u', v', shape', existing', tried', built', found', unlike', lenient', -⟩ :=
    hnext.of_succ htried.one_le
  cases h with
  | failed tried fails =>
    obtain rfl := tried.unique tried'
    cases fails.symm.trans built'
  | chosen tried built stored =>
    obtain rfl := tried.unique tried'
    cases built.symm.trans built'
    cases stored with
    | fresh free =>
      rw [free] at found'
      cases found'
    | shared found like =>
      obtain rfl := Option.some.inj (found.symm.trans found')
      rw [like] at unlike'
      cases unlike'
  | refused tried built found unlike strict =>
    obtain rfl := tried.unique tried'
    rw [strict] at lenient'
    cases lenient'

/-- The candidate that is chosen is acceptable. -/
theorem accepts {n : String} (h : r.Ends k (.ok n) t) (hspares : r.Spares) :
    n = r.candidate k ∧ r.Accepts k := by
  cases h with
  | @chosen u v t shape tried built stored =>
    refine ⟨rfl, u, shape, v, tried, built, fun existing hexisting => ?_⟩
    rw [← hspares.model?_eq tried built] at hexisting
    cases stored with
    | fresh free =>
      rw [free] at hexisting
      cases hexisting
    | shared found like =>
      obtain rfl := Option.some.inj (found.symm.trans hexisting)
      exact like

end Ends

/-- What the search of a call comes to, if it is over with the candidate of number `k`. -/
structure SearchedUpTo (r : Registration) (k : Nat) : Prop where
  one_le : 1 ≤ k
  le_models : k ≤ r.start.registry.models.length + 1
  ends : r.Ends k r.outcome.1 r.outcome.2
  /-- No later candidate is tried, and each with the models there were at the start. -/
  tried : ∀ i u, r.Tries i u → i ≤ k ∧ u.registry = r.start.registry
  rejected : ∀ i, 1 ≤ i → i < k → r.Rejects i

/-- Every search is over with some candidate, and all candidates before it are rejected. -/
theorem exists_searchedUpTo (hspares : r.Spares) : ∃ k, r.SearchedUpTo k := by
  obtain ⟨k, hle, hends⟩ := exists_ends hspares
  obtain ⟨u, htried⟩ := hends.tries
  exact ⟨k, htried.one_le, hle, hends, fun i w hi => ⟨hends.last hi, hi.registry_eq⟩,
    fun i hi hik => htried.rejects hspares hi hik⟩

end Registration
end ApiCompiler
