import ApiCompiler.Proofs.Json.Values
import ApiCompiler.Value

/-!
# JSON values among values

A document holds values that JSON does not have: days, moments and times, and mappings whose keys are
no texts.  The values that JSON has are the images of JSON values (`Value.IsJson`), and a description
writes such a value as the JSON value that it is the image of (`inDescription_ofJson`).
-/

namespace ApiCompiler
namespace Value

/-- A value is looked up in the image of an object as it is in the object. -/
theorem entry?_ofMembers (key : String) (ms : List (String × Json)) :
    entry? key (ofMembers ms) = (lookup? key ms).map ofJson := by
  induction ms with
  | nil => rfl
  | cons m ms ih =>
    obtain ⟨k, v⟩ := m
    rw [ofMembers, entry?, lookup?, ih]
    by_cases hk : k = key
    · rw [if_pos hk, if_pos (by rw [hk]), Option.map_some]
    · rw [if_neg hk, if_neg fun h => hk (Scalar.text.inj h)]

theorem toItems_ofItems {key : Scalar → String} {xs : List Json}
    (h : ∀ x ∈ xs, (ofJson x).toJsonWith key = x) : toItems key (ofItems xs) = xs := by
  induction xs with
  | nil => rfl
  | cons x xs ih =>
    rw [ofItems, toItems, h x List.mem_cons_self, ih fun y hy => h y (List.mem_cons_of_mem _ hy)]

theorem toMembers_ofMembers {key : Scalar → String} (hkey : ∀ s, key (.text s) = s)
    {ms : List (String × Json)} (h : ∀ m ∈ ms, (ofJson m.2).toJsonWith key = m.2) :
    toMembers key (ofMembers ms) = ms := by
  induction ms with
  | nil => rfl
  | cons m ms ih =>
    rw [ofMembers, toMembers, hkey, h m List.mem_cons_self,
      ih fun e he => h e (List.mem_cons_of_mem _ he)]

/-- The image of a JSON value is written as this JSON value, however other keys are spelled. -/
theorem toJsonWith_ofJson {key : Scalar → String} (hkey : ∀ s, key (.text s) = s) {j : Json}
    (hj : j.Distinct) : (ofJson j).toJsonWith key = j := by
  induction hj with
  | null => rfl
  | bool b => rfl
  | int n => rfl
  | float x => rfl
  | str s => rfl
  | arr items ih => rw [ofJson, toJsonWith, toItems_ofItems ih]
  | obj keys members ih => rw [ofJson, toJsonWith, toMembers_ofMembers hkey ih]

theorem inDescription_ofJson {j : Json} (hj : j.Distinct) : (ofJson j).inDescription = j :=
  toJsonWith_ofJson (fun _ => rfl) hj

/-- A value that JSON has: the image of a JSON value in which no object has a key twice. -/
def IsJson (v : Value) : Prop := ∃ j : Json, j.Distinct ∧ ofJson j = v

theorem IsJson.null : IsJson (.scalar .null) := ⟨.null, .null, rfl⟩

theorem IsJson.distinct {v : Value} (h : v.IsJson) : v.inDescription.Distinct := by
  obtain ⟨j, hj, rfl⟩ := h
  rw [inDescription_ofJson hj]
  exact hj

/-- A value that JSON has is read back from a description as itself. -/
theorem IsJson.ofJson_inDescription {v : Value} (h : v.IsJson) : ofJson v.inDescription = v := by
  obtain ⟨j, hj, rfl⟩ := h
  rw [inDescription_ofJson hj]

end Value
end ApiCompiler
