import ApiCompiler.Operation.Compile
import ApiCompiler.Proofs.Repetitions
import Mathlib.Data.List.TakeWhile

/-!
# The names in a path

A path names its parameters in braces.  A name is not empty and has no braces in it, so it is told
apart by the position of its first brace.  The scanner looks for a name at one position after the
other, and of the names it finds the first appearances are kept.  `PathTemplate.Lists` says without
the scanner what is kept, and `PathTemplate.params_lists` that the scanner keeps it.
-/

namespace ApiCompiler
namespace PathTemplate

/-- The name stands in braces behind the first `i` characters of a path. -/
def NamedAt (path : String) (i : Nat) (name : String) : Prop :=
  ∃ front rest, path.toList = front ++ '\x7b' :: (name.toList ++ '\x7d' :: rest) ∧
    front.length = i ∧ name ≠ "" ∧ ∀ c ∈ name.toList, c ≠ '\x7b' ∧ c ≠ '\x7d'

/-- The names are those that stand in braces, each once, in the order of their first appearance. -/
structure Lists (path : String) (names : List String) : Prop where
  once : names.Nodup
  complete : ∀ n, n ∈ names ↔ ∃ i, NamedAt path i n
  ordered : names.Pairwise fun a b => ∃ i, NamedAt path i a ∧ ∀ j, NamedAt path j b → i < j

/-! ## One position -/

/-- The name in braces that a text starts with. -/
def first? : List Char → Option (List Char)
  | [] => none
  | c :: cs =>
    if c = '\x7b' then
      match cs.takeWhile fun d => d ≠ '\x7b' && d ≠ '\x7d',
        cs.dropWhile fun d => d ≠ '\x7b' && d ≠ '\x7d' with
      | d :: ds, '\x7d' :: _ => some (d :: ds)
      | _, _ => none
    else none

theorem first?_eq_some_iff {cs name : List Char} :
    first? cs = some name ↔ ∃ rest, cs = '\x7b' :: (name ++ '\x7d' :: rest) ∧ name ≠ [] ∧
      ∀ c ∈ name, c ≠ '\x7b' ∧ c ≠ '\x7d' := by
  constructor
  · intro h
    cases cs with
    | nil => cases h
    | cons c cs =>
      rw [first?] at h
      split at h
      · case isTrue hc =>
        split at h
        · case h_1 d ds rest hname hrest =>
          obtain rfl := Option.some.inj h
          refine ⟨rest, ?_, List.cons_ne_nil _ _, fun c hc => ?_⟩
          · rw [hc, ← hname, ← hrest, List.takeWhile_append_dropWhile]
          · rw [← hname] at hc
            simpa using List.mem_takeWhile_imp hc
        · cases h
      · cases h
  · rintro ⟨rest, rfl, hname, hplain⟩
    have htest : ∀ c ∈ name, (c ≠ '\x7b' && c ≠ '\x7d') = true := fun c hc => by
      simpa using hplain c hc
    rw [first?, if_pos rfl, List.takeWhile_append_of_pos htest, List.dropWhile_append_of_pos htest]
    cases name with
    | nil => exact absurd rfl hname
    | cons d ds => simp

theorem names_cons (c : Char) (cs : List Char) :
    names (c :: cs) = (first? (c :: cs)).toList ++ names cs := by
  rw [names, first?]
  split
  · case isTrue =>
    generalize (cs.takeWhile fun d => d ≠ '\x7b' && d ≠ '\x7d') = inner
    generalize (cs.dropWhile fun d => d ≠ '\x7b' && d ≠ '\x7d') = behind
    cases inner with
    | nil => rfl
    | cons d ds =>
      cases behind with
      | nil => rfl
      | cons b rest => by_cases hb : b = '\x7d' <;> simp [hb]
  · rfl

/-- The names are found at one position after the other. -/
theorem names_eq (cs : List Char) :
    names cs = (List.range cs.length).filterMap fun i => first? (cs.drop i) := by
  induction cs with
  | nil => rfl
  | cons c cs ih =>
    rw [names_cons, ih, List.length_cons, List.range_succ_eq_map, List.filterMap_cons,
      List.filterMap_map, List.drop_zero]
    cases first? (c :: cs) <;> rfl

/-! ## All positions -/

/-- The names, each with its position. -/
def located (path : String) : List (Nat × String) :=
  (List.range path.toList.length).filterMap fun i =>
    (first? (path.toList.drop i)).map fun name => (i, String.ofList name)

theorem mem_located_iff {path name : String} {i : Nat} :
    (i, name) ∈ located path ↔ NamedAt path i name := by
  simp only [located, List.mem_filterMap, List.mem_range, Option.map_eq_some_iff,
    first?_eq_some_iff, NamedAt]
  constructor
  · rintro ⟨j, hj, n, ⟨rest, hdrop, hn, hplain⟩, heq⟩
    obtain ⟨rfl, rfl⟩ := Prod.mk.inj heq
    rw [String.toList_ofList]
    refine ⟨path.toList.take j, rest, ?_, ?_, ?_, hplain⟩
    · rw [← hdrop, List.take_append_drop]
    · rw [List.length_take, Nat.min_eq_left (Nat.le_of_lt hj)]
    · rwa [Ne, ← String.toList_eq_nil_iff, String.toList_ofList]
  · rintro ⟨front, rest, hpath, rfl, hname, hplain⟩
    refine ⟨front.length, ?_, name.toList, ⟨rest, ?_, ?_, hplain⟩, ?_⟩
    · rw [hpath, List.length_append, List.length_cons]
      omega
    · rw [hpath, List.drop_left]
    · rwa [Ne, String.toList_eq_nil_iff]
    · rw [String.ofList_toList]

theorem map_snd_located (path : String) :
    (located path).map (·.2) = (names path.toList).map String.ofList := by
  rw [located, names_eq, List.map_filterMap, List.map_filterMap]
  refine List.filterMap_congr fun i _ => ?_
  rw [Option.map_map]
  rfl

theorem pairwise_located (path : String) : ((located path).map (·.1)).Pairwise (· < ·) := by
  rw [List.pairwise_map, located, List.pairwise_filterMap]
  refine List.pairwise_lt_range.imp fun hij e he e' he' => ?_
  obtain ⟨-, -, rfl⟩ := Option.map_eq_some_iff.mp he
  obtain ⟨-, -, rfl⟩ := Option.map_eq_some_iff.mp he'
  exact hij

/-- The parameters that are computed for a path are the names that stand in braces in it. -/
theorem params_lists (path : String) : Lists path (params path) := by
  have hparams : params path = ((located path).map (·.2)).eraseDups := by
    rw [map_snd_located, params]
  rw [hparams]
  refine ⟨nodup_eraseDups _, fun n => ?_, ?_⟩
  · simp only [List.mem_eraseDups, List.mem_map, Prod.exists, mem_located_iff]
    exact ⟨fun ⟨i, _, h, heq⟩ => ⟨i, heq ▸ h⟩, fun ⟨i, h⟩ => ⟨i, n, h, rfl⟩⟩
  · refine (pairwise_eraseDups (pairwise_located path)).imp ?_
    simp only [mem_located_iff]
    exact fun h => h

end PathTemplate
end ApiCompiler
