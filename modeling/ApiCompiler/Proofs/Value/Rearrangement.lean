import ApiCompiler.Hoisting
import ApiCompiler.Proofs.Value.SortedEntries

/-!
# Values with mappings in another order

`Value.Rearranged v v'` says that `v` and `v'` are the same value but for the order of the keys in
their mappings, at any depth.  What the program does with a value does not depend on this order:
comparing it (`Rearranged.like_eq`), and writing it as the text of an enumerated value
(`Rearranged.literalText`).  Only the two keys that are named when a mapping cannot be written may
be others.
-/

namespace ApiCompiler
namespace Value

open Breakdown (SameKind)

/-! ## The parts of a value -/

/-- The values directly inside a value. -/
def parts : Value → List Value
  | .scalar _ => []
  | .seq xs => xs
  | .map es => es.map (·.2)

theorem sizeOf_lt_of_mem_parts {v w : Value} (h : w ∈ v.parts) : sizeOf w < sizeOf v := by
  cases v with
  | scalar s => cases h
  | seq xs =>
    have hlt : sizeOf w < sizeOf xs := List.sizeOf_lt_of_mem h
    rw [Value.seq.sizeOf_spec]
    omega
  | map es =>
    obtain ⟨⟨k, w⟩, he, rfl⟩ := List.mem_map.mp h
    have hlt := List.sizeOf_lt_of_mem he
    rw [Prod.mk.sizeOf_spec] at hlt
    rw [Value.map.sizeOf_spec]
    dsimp only
    omega

/-- Induction over values: what holds of a value as soon as it holds of its parts holds of every
value. -/
theorem rec_parts {P : Value → Prop} (step : ∀ v, (∀ w ∈ v.parts, P w) → P v) (v : Value) : P v := by
  induction hn : sizeOf v using Nat.strongRecOn generalizing v with
  | ind n ih =>
    subst hn
    exact step v fun w hw => ih (sizeOf w) (sizeOf_lt_of_mem_parts hw) w rfl

/-! ## Rearranged values -/

/-- The same value, the keys of its mappings in any order. -/
inductive Rearranged : Value → Value → Prop
  | scalar (s : Scalar) : Rearranged (.scalar s) (.scalar s)
  | seq {xs ys : List Value} (items : List.Forall₂ Rearranged xs ys) :
      Rearranged (.seq xs) (.seq ys)
  | map {es fs : List (Scalar × Value)} (distinct : Distinct es)
      (entries : Reordered (SameKey Rearranged) es fs) : Rearranged (.map es) (.map fs)

/-! ## Likeness -/

theorem likeItems_iff {xs ys : List Value} :
    likeItems xs ys = true ↔ List.Forall₂ (fun x y => x.like y = true) xs ys := by
  induction xs generalizing ys with
  | nil => cases ys <;> simp [likeItems]
  | cons x xs ih => cases ys <;> simp [likeItems, ih]

theorem likeEntry?_eq_some {key : Scalar} {fs : List (Scalar × Value)} {w : Value}
    (h : likeEntry? key fs = some w) : ∃ f ∈ fs, f.1.like key = true ∧ f.2 = w := by
  induction fs with
  | nil => cases h
  | cons f fs ih =>
    rw [ likeEntry?] at h
    split at h
    · case isTrue hkey =>
      cases h
      exact ⟨f, List.mem_cons_self, hkey, rfl⟩
    · obtain ⟨f', hf', hlike⟩ := ih h
      exact ⟨f', List.mem_cons_of_mem _ hf', hlike⟩

/-- A mapping has every entry under the keys that are like its key. -/
theorem likeEntry?_of_mem {key : Scalar} {fs : List (Scalar × Value)} (hd : Distinct fs)
    {f : Scalar × Value} (hf : f ∈ fs) (hkey : f.1.like key = true) :
    likeEntry? key fs = some f.2 := by
  induction fs with
  | nil => cases hf
  | cons g fs ih =>
    rw [ likeEntry?]
    rcases List.mem_cons.mp hf with rfl | hf
    · rw [if_pos hkey]
    · have hne : ¬ g.1.like key = true := by
        intro hg
        rw [Scalar.like_comm] at hkey
        have hgf := Scalar.like_trans hg hkey
        rw [List.rel_of_pairwise_cons hd hf] at hgf
        cases hgf
      rw [if_neg hne]
      exact ih (List.Pairwise.of_cons hd) hf

theorem likeEntries_iff {es fs : List (Scalar × Value)} (hd : Distinct fs) :
    likeEntries es fs = true ↔
      ∀ e ∈ es, ∃ f ∈ fs, f.1.like e.1 = true ∧ e.2.like f.2 = true := by
  induction es with
  | nil => simp [likeEntries]
  | cons e es ih =>
    rw [likeEntries, Bool.and_eq_true, ih, List.forall_mem_cons]
    refine and_congr_left fun _ => ?_
    constructor
    · intro h
      split at h
      · case h_1 w hw =>
        obtain ⟨f, hf, hkey, rfl⟩ := likeEntry?_eq_some hw
        exact ⟨f, hf, hkey, h⟩
      · cases h
    · rintro ⟨f, hf, hkey, hlike⟩
      rw [likeEntry?_of_mem hd hf hkey]
      exact hlike

theorem like_map_iff {es fs : List (Scalar × Value)} (hd : Distinct fs) :
    (Value.map es).like (.map fs) = true ↔ es.length = fs.length ∧
      ∀ e ∈ es, ∃ f ∈ fs, f.1.like e.1 = true ∧ e.2.like f.2 = true := by
  rw [like, Bool.and_eq_true, decide_eq_true_eq, likeEntries_iff hd]

variable {v v' w w' : Value}

/-- A value is like itself, in whatever order its keys are. -/
theorem Rearranged.like (h : v.Rearranged v') : v.like v' = true := by
  induction v using rec_parts generalizing v' with
  | step v ih =>
    cases h with
    | scalar s => exact Scalar.like_self s
    | seq items => exact likeItems_iff.mpr (forall₂_imp_of_mem items fun x hx _ => ih x hx)
    | map distinct entries =>
      refine (like_map_iff (distinct.of_keys_perm entries.keys_perm)).mpr
        ⟨entries.length_eq, fun e he => ?_⟩
      obtain ⟨f, hf, hef⟩ := entries.exists_right e he
      refine ⟨f, hf, ?_, ih e.2 (List.mem_map_of_mem he) hef.value⟩
      rw [hef.key_eq]
      exact Scalar.like_self f.1

/-- Whether two values are like does not depend on the order of their keys. -/
theorem Rearranged.like_eq (hv : v.Rearranged v') (hw : w.Rearranged w') :
    v.like w = v'.like w' := by
  induction v using rec_parts generalizing v' w w' with
  | step v ih =>
    cases hv with
    | scalar s => cases hw <;> rfl
    | seq items =>
      cases hw with
      | scalar t => rfl
      | map => rfl
      | seq items' =>
        rw [Bool.eq_iff_iff, Value.like, Value.like, likeItems_iff, likeItems_iff]
        refine forall₂_iff_of_rel items items' fun x hx x' y y' hx' hy => ?_
        rw [ih x hx hx' hy]
    | map distinct entries =>
      cases hw with
      | scalar t => rfl
      | seq => rfl
      | map distinct' entries' =>
        rw [Bool.eq_iff_iff, like_map_iff distinct',
          like_map_iff (distinct'.of_keys_perm entries'.keys_perm), entries.length_eq,
          entries'.length_eq]
        refine and_congr_right fun _ => ⟨fun h e' he' => ?_, fun h e he => ?_⟩
        · obtain ⟨e, he, hee⟩ := entries.exists_left e' he'
          obtain ⟨f, hf, hkey, hlike⟩ := h e he
          obtain ⟨f', hf', hff⟩ := entries'.exists_right f hf
          refine ⟨f', hf', ?_, ?_⟩
          · rwa [← hee.key_eq, ← hff.key_eq]
          · rwa [← ih e.2 (List.mem_map_of_mem he) hee.value hff.value]
        · obtain ⟨e', he', hee⟩ := entries.exists_right e he
          obtain ⟨f', hf', hkey, hlike⟩ := h e' he'
          obtain ⟨f, hf, hff⟩ := entries'.exists_left f' hf'
          refine ⟨f, hf, ?_, ?_⟩
          · rwa [hee.key_eq, hff.key_eq]
          · rwa [ih e.2 (List.mem_map_of_mem he) hee.value hff.value]

/-! ## Texts -/

section Arranged

variable {arrange : Arrangement}

theorem writtenEntries_eq (es : List (Scalar × Value)) :
    writtenEntries arrange es = es.map fun e => (e.1, e.2.writtenBy arrange) := by
  induction es with
  | nil => rw [writtenEntries, List.map_nil]
  | cons e es ih => rw [writtenEntries, ih, List.map_cons]

theorem writtenItems_endsAlike {xs ys : List Value}
    (h : List.Forall₂
      (fun x y => EndsAlike SameKind Eq (x.writtenBy arrange) (y.writtenBy arrange)) xs ys) :
    EndsAlike SameKind Eq (writtenItems arrange xs) (writtenItems arrange ys) := by
  induction h with
  | nil => exact .ok rfl
  | cons hxy _ ih =>
    rw [writtenItems, writtenItems]
    refine hxy.bind fun a b hab => ih.bind fun as bs habs => ?_
    rw [hab, habs]
    exact .ok rfl

end Arranged

theorem writtenMembers_endsAlike {es fs : List (Scalar × Except Breakdown Json)}
    (h : List.Forall₂ (SameKey (EndsAlike SameKind Eq)) es fs) :
    EndsAlike SameKind Eq (writtenMembers es) (writtenMembers fs) := by
  induction h with
  | nil => exact .ok rfl
  | cons hef _ ih =>
    obtain ⟨key, hvalue⟩ := hef
    rw [writtenMembers, writtenMembers]
    have hkey : EndsAlike SameKind Eq key.writtenKey key.writtenKey := .refl SameKind.refl _
    refine hkey.bind fun k k' hk => hvalue.bind fun a b hab => ih.bind fun as bs habs => ?_
    rw [hk, hab, habs]
    exact .ok rfl

/-- A value is written with sorted keys, so it is written the same. -/
theorem Rearranged.ordered (h : v.Rearranged v') :
    EndsAlike SameKind Eq v.ordered v'.ordered := by
  unfold Value.ordered
  induction v using rec_parts generalizing v' with
  | step v ih =>
    cases h with
    | scalar s => exact .refl SameKind.refl _
    | seq items =>
      rw [writtenBy, writtenBy]
      refine (writtenItems_endsAlike ?_).bind fun a b hab => .ok (by rw [hab])
      exact forall₂_imp_of_mem items fun x hx y hxy => ih x hx hxy
    | @map es fs distinct entries =>
      have hentries : Reordered (SameKey (EndsAlike SameKind Eq)) (writtenEntries sortEntries es)
          (writtenEntries sortEntries fs) := by
        rw [writtenEntries_eq, writtenEntries_eq]
        refine entries.map fun e he f hef => ?_
        rw [hef.key_eq]
        exact .mk f.1 (ih e.2 (List.mem_map_of_mem he) hef.value)
      have hdistinct : Distinct (writtenEntries sortEntries es) := by
        refine distinct.of_keys_perm ?_
        rw [writtenEntries_eq, List.map_map]
        exact List.Perm.refl _
      rw [writtenBy, writtenBy]
      refine (sortEntries_endsAlike hentries hdistinct).bind fun sorted sorted' hsorted => ?_
      exact (writtenMembers_endsAlike hsorted).bind fun a b hab => .ok (by rw [hab])

theorem Rearranged.literalText (h : v.Rearranged v') :
    EndsAlike SameKind Eq (Schema.literalText v) (Schema.literalText v') := by
  have hordered : EndsAlike SameKind Eq (v.ordered.map Json.text) (v'.ordered.map Json.text) :=
    h.ordered.map fun a b hab => by rw [hab]
  cases h with
  | scalar s => exact .refl SameKind.refl _
  | seq => exact hordered
  | map => exact hordered

theorem literalTexts_endsAlike {xs ys : List Value} (h : List.Forall₂ Rearranged xs ys) :
    EndsAlike SameKind Eq (Schema.literalTexts xs) (Schema.literalTexts ys) := by
  induction h with
  | nil => exact .ok rfl
  | cons hxy _ ih =>
    rw [Schema.literalTexts, Schema.literalTexts]
    refine hxy.literalText.bind fun a b hab => ih.bind fun as bs habs => ?_
    rw [hab, habs]
    exact .ok rfl

theorem Rearranged.isNull_eq (h : v.Rearranged v') : Schema.isNull v = Schema.isNull v' := by
  cases h <;> rfl

theorem Rearranged.literalKind_eq (h : v.Rearranged v') :
    Schema.literalKind v = Schema.literalKind v' := by
  cases h <;> rfl

end Value
end ApiCompiler
