import ApiCompiler.Proofs.Repetitions
import ApiCompiler.Proofs.Sorting
import Mathlib.Data.List.Perm.Basic

/-!
# Maps

A map is a list of entries, and a lookup finds an entry of the list (`mem_of_lookup?`).  Where a key
is written more than once, its last entry wins (`mem_lastWins_iff`), at the place of its first one
(`keys_lastWins`).

The order of the entries is not part of what a map says.  Two maps say the same up to a relation
`R` of their values if the first one can be rearranged so that its entries correspond to those of
the second one, key by key: `Reordered (SameKey R)`.  Where the keys are distinct, nothing that
reads a map by its keys can tell the two apart.  Looking a key up finds values that are related
(`Reordered.lookup?_rel`), and the entries in the order of their keys correspond place by place
(`Reordered.sortedByKey`).

`Reordered` is an inductive predicate, though it comes down to a permutation and a correspondence
(`Reordered.exists_perm`), because values that are trees are related by recursion through it.
-/

namespace ApiCompiler

/-! ## Entries -/

/-- Putting a value under a key adds the key behind the others, if it is not among them. -/
theorem keys_put {κ α : Type} [DecidableEq κ] (key : κ) (value : α) (l : List (κ × α)) :
    (put key value l).map (·.1) =
      if key ∈ l.map (·.1) then l.map (·.1) else l.map (·.1) ++ [key] := by
  induction l with
  | nil => rfl
  | cons d l ih =>
    rw [put]
    by_cases hkey : d.1 = key
    · rw [if_pos hkey, if_pos (by rw [List.map_cons, hkey]; exact List.mem_cons_self)]
      rfl
    · have hmem : key ∈ (d :: l).map (·.1) ↔ key ∈ l.map (·.1) := by
        rw [List.map_cons, List.mem_cons, or_iff_right (Ne.symm hkey)]
      rw [if_neg hkey, List.map_cons, ih]
      simp only [hmem]
      split <;> rfl

theorem nodup_keys_put {κ α : Type} [DecidableEq κ] {key : κ} {value : α} {l : List (κ × α)}
    (h : (l.map (·.1)).Nodup) : ((put key value l).map (·.1)).Nodup := by
  rw [keys_put]
  split
  · exact h
  · case isFalse hnew =>
    rw [List.nodup_append]
    refine ⟨h, List.nodup_singleton _, fun a ha b hb hab => hnew ?_⟩
    rw [← List.mem_singleton.mp hb, ← hab]
    exact ha

/-- A map has the value that was put under a key, and all else that it had under other keys. -/
theorem mem_put_iff {κ α : Type} [DecidableEq κ] {key : κ} {value : α} {l : List (κ × α)}
    (h : (l.map (·.1)).Nodup) {e : κ × α} :
    e ∈ put key value l ↔ e = (key, value) ∨ e ∈ l ∧ e.1 ≠ key := by
  induction l with
  | nil => simp [put]
  | cons d l ih =>
    rw [List.map_cons, List.nodup_cons] at h
    rw [put]
    by_cases hkey : d.1 = key
    · -- the key stands here and nowhere else
      have hrest : ∀ f ∈ l, f.1 ≠ key := fun f hf heq =>
        h.1 (List.mem_map.mpr ⟨f, hf, heq.trans hkey.symm⟩)
      rw [if_pos hkey, List.mem_cons, List.mem_cons, hkey]
      constructor
      · exact Or.imp_right fun he => ⟨Or.inr he, hrest e he⟩
      · rintro (he | ⟨rfl | he, hne⟩)
        · exact Or.inl he
        · exact absurd hkey hne
        · exact Or.inr he
    · rw [if_neg hkey, List.mem_cons, List.mem_cons, ih h.2]
      constructor
      · rintro (rfl | he | ⟨he, hne⟩)
        · exact Or.inr ⟨Or.inl rfl, hkey⟩
        · exact Or.inl he
        · exact Or.inr ⟨Or.inr he, hne⟩
      · rintro (he | ⟨rfl | he, hne⟩)
        · exact Or.inr (Or.inl he)
        · exact Or.inl rfl
        · exact Or.inr (Or.inr ⟨he, hne⟩)

theorem lastWins_append_singleton {κ α : Type} [DecidableEq κ] (l : List (κ × α)) (d : κ × α) :
    lastWins (l ++ [d]) = put d.1 d.2 (lastWins l) := by
  rw [lastWins, List.foldl_append]
  rfl

theorem nodup_keys_lastWins {κ α : Type} [DecidableEq κ] (l : List (κ × α)) :
    ((lastWins l).map (·.1)).Nodup := by
  induction l using List.reverseRecOn with
  | nil => exact List.nodup_nil
  | append_singleton l d ih =>
    rw [lastWins_append_singleton]
    exact nodup_keys_put ih

/-- The keys of the winners are all keys, each where it comes first. -/
theorem keys_lastWins {κ α : Type} [DecidableEq κ] [BEq κ] [LawfulBEq κ] (l : List (κ × α)) :
    (lastWins l).map (·.1) = (l.map (·.1)).eraseDups := by
  induction l using List.reverseRecOn with
  | nil => rfl
  | append_singleton l d ih =>
    rw [lastWins_append_singleton, keys_put, ih, List.map_append, List.map_singleton,
      eraseDups_append_singleton]
    simp only [List.mem_eraseDups]

/-- An entry wins exactly if it is the last one of its key. -/
theorem mem_lastWins_iff {κ α : Type} [DecidableEq κ] {l : List (κ × α)} {e : κ × α} :
    e ∈ lastWins l ↔
      ∃ earlier later, l = earlier ++ e :: later ∧ e.1 ∉ later.map (·.1) := by
  induction l using List.reverseRecOn with
  | nil => simp [lastWins]
  | append_singleton l d ih =>
    rw [lastWins_append_singleton, mem_put_iff (nodup_keys_lastWins l), ih]
    constructor
    · rintro (rfl | ⟨⟨earlier, later, rfl, hlast⟩, hne⟩)
      · exact ⟨l, [], rfl, List.not_mem_nil⟩
      · refine ⟨earlier, later ++ [d], by simp, ?_⟩
        rw [List.map_append, List.mem_append, not_or]
        exact ⟨hlast, fun h => hne (List.mem_singleton.mp h)⟩
    · rintro ⟨earlier, later, hl, hlast⟩
      induction later using List.reverseRecOn with
      | nil =>
        obtain ⟨-, hd⟩ := List.append_inj' hl rfl
        exact Or.inl (List.cons.inj hd).1.symm
      | append_singleton later f _ =>
        rw [← List.cons_append, ← List.append_assoc] at hl
        obtain ⟨hfront, hd⟩ := List.append_inj' hl rfl
        obtain rfl := (List.cons.inj hd).1
        rw [List.map_append, List.mem_append, not_or] at hlast
        refine Or.inr ⟨⟨earlier, later, hfront, hlast.1⟩, fun heq => hlast.2 ?_⟩
        exact List.mem_singleton.mpr heq

/-- Where the last entry of a key wins, only entries of the list can win. -/
theorem mem_of_mem_lastWins {κ α : Type} [DecidableEq κ] {l : List (κ × α)} {e : κ × α}
    (h : e ∈ lastWins l) : e ∈ l := by
  obtain ⟨earlier, later, rfl, -⟩ := mem_lastWins_iff.mp h
  exact List.mem_append_right _ List.mem_cons_self

theorem put_of_notMem {κ α : Type} [DecidableEq κ] {key : κ} (value : α) {l : List (κ × α)}
    (h : key ∉ l.map (·.1)) : put key value l = l ++ [(key, value)] := by
  induction l with
  | nil => rfl
  | cons d l ih =>
    rw [List.map_cons, List.mem_cons, not_or] at h
    rw [put, if_neg (Ne.symm h.1), ih h.2, List.cons_append]

/-- Where no key comes twice, the last entries of the keys are the entries. -/
theorem lastWins_of_nodup {κ α : Type} [DecidableEq κ] {l : List (κ × α)}
    (h : (l.map (·.1)).Nodup) : lastWins l = l := by
  induction l using List.reverseRecOn with
  | nil => rfl
  | append_singleton l d ih =>
    rw [List.map_append, List.nodup_append] at h
    obtain ⟨hl, -, hdisjoint⟩ := h
    have hnew : d.1 ∉ l.map (·.1) := fun hd => hdisjoint _ hd _ (List.mem_singleton.mpr rfl) rfl
    rw [lastWins_append_singleton, ih hl, put_of_notMem _ hnew]

theorem mem_of_lookup? {κ α : Type} [DecidableEq κ] {key : κ} {l : List (κ × α)} {a : α}
    (h : lookup? key l = some a) : (key, a) ∈ l := by
  induction l with
  | nil => cases h
  | cons e l ih =>
    rw [lookup?] at h
    split at h
    · case isTrue hkey =>
      cases h
      rw [← hkey]
      exact List.mem_cons_self
    · exact List.mem_cons_of_mem _ (ih h)

/-- A map has every entry under its key. -/
theorem lookup?_of_mem {κ α : Type} [DecidableEq κ] {l : List (κ × α)} {e : κ × α}
    (hkeys : (l.map (·.1)).Nodup) (he : e ∈ l) : lookup? e.1 l = some e.2 := by
  induction l with
  | nil => cases he
  | cons d l ih =>
    rw [List.map_cons, List.nodup_cons] at hkeys
    rcases List.mem_cons.mp he with rfl | he
    · rw [lookup?, if_pos rfl]
    · have hne : d.1 ≠ e.1 := fun heq => hkeys.1 (heq ▸ List.mem_map_of_mem he)
      rw [lookup?, if_neg hne, ih hkeys.2 he]

/-- A map has nothing under a key exactly if no entry has that key. -/
theorem lookup?_eq_none {κ α : Type} [DecidableEq κ] {key : κ} {l : List (κ × α)} :
    lookup? key l = none ↔ key ∉ l.map (·.1) := by
  induction l with
  | nil => exact iff_of_true rfl List.not_mem_nil
  | cons e l ih =>
    rw [lookup?, List.map_cons, List.mem_cons, not_or]
    by_cases hkey : e.1 = key
    · rw [if_pos hkey]
      exact iff_of_false (Option.some_ne_none _) fun h => h.1 hkey.symm
    · rw [if_neg hkey, ih]
      exact (and_iff_right (Ne.symm hkey)).symm

theorem lookup?_eq_of_perm {κ α : Type} [DecidableEq κ] {l l' : List (κ × α)} (hperm : l.Perm l')
    (hkeys : (l.map (·.1)).Nodup) (key : κ) : lookup? key l = lookup? key l' := by
  have hkeys' : (l'.map (·.1)).Nodup := (hperm.map _).nodup_iff.mp hkeys
  refine Option.ext fun a => ⟨fun h => ?_, fun h => ?_⟩
  · exact lookup?_of_mem hkeys' (hperm.subset (mem_of_lookup? h))
  · exact lookup?_of_mem hkeys (hperm.symm.subset (mem_of_lookup? h))

/-! ## Maps in another order -/

variable {α β κ : Type} {R S : α → β → Prop}

/-- The first list can be rearranged so that its items correspond to those of the second one. -/
inductive Reordered (R : α → β → Prop) : List α → List β → Prop
  | nil : Reordered R [] []
  | insert {a : α} {b : β} {as as' : List α} {bs : List β} (h : R a b)
      (order : as'.Perm (a :: as)) (rest : Reordered R as bs) : Reordered R as' (b :: bs)

/-- Two entries of one key, with related values. -/
inductive SameKey (R : α → β → Prop) : κ × α → κ × β → Prop
  | mk (key : κ) {a : α} {b : β} (h : R a b) : SameKey R (key, a) (key, b)

theorem SameKey.key_eq {e : κ × α} {f : κ × β} (h : SameKey R e f) : e.1 = f.1 := by
  cases h
  rfl

theorem SameKey.value {e : κ × α} {f : κ × β} (h : SameKey R e f) : R e.2 f.2 := by
  cases h
  assumption

theorem isEmpty_eq_of_length_eq {as : List α} {bs : List β} (h : as.length = bs.length) :
    as.isEmpty = bs.isEmpty := by
  rw [Bool.eq_iff_iff, List.isEmpty_iff_length_eq_zero, List.isEmpty_iff_length_eq_zero, h]

/-- What is the same for related items is the same for lists of them. -/
theorem map_eq_of_forall₂ {γ : Type} {f : α → γ} {g : β → γ} {as : List α} {bs : List β}
    (h : List.Forall₂ R as bs) (hfg : ∀ a b, R a b → f a = g b) : as.map f = bs.map g := by
  induction h with
  | nil => rfl
  | cons hab _ ih => rw [List.map_cons, List.map_cons, hfg _ _ hab, ih]

/-- Maps that correspond place by place have the same keys. -/
theorem keys_eq_of_forall₂ {es : List (κ × α)} {fs : List (κ × β)}
    (h : List.Forall₂ (SameKey R) es fs) : es.map (·.1) = fs.map (·.1) :=
  map_eq_of_forall₂ h fun _ _ hef => hef.key_eq

theorem lookup?_rel_of_forall₂ [DecidableEq κ] {es : List (κ × α)} {fs : List (κ × β)}
    (h : List.Forall₂ (SameKey R) es fs) (key : κ) :
    Option.Rel R (lookup? key es) (lookup? key fs) := by
  induction h with
  | nil => exact .none
  | cons hef _ ih =>
    obtain ⟨k, hab⟩ := hef
    rw [lookup?, lookup?]
    split
    · exact .some hab
    · exact ih

/-! ## Optional values that correspond -/

/-- What is done with an optional value is done alike for related ones. -/
@[elab_as_elim]
theorem optionRel_elim {motive : Option α → Option β → Prop} {a : Option α} {b : Option β}
    (h : Option.Rel R a b) (none : motive none none)
    (some : ∀ x y, R x y → motive (some x) (some y)) : motive a b := by
  cases h with
  | none => exact none
  | some hxy => exact some _ _ hxy

theorem or_rel {a a' : Option α} {b b' : Option β} (h : Option.Rel R a b)
    (h' : Option.Rel R a' b') : Option.Rel R (a.or a') (b.or b') :=
  optionRel_elim h h' fun _ _ hxy => .some hxy

theorem getD_rel {a : Option α} {b : Option β} {x : α} {y : β} (h : Option.Rel R a b)
    (hxy : R x y) : R (a.getD x) (b.getD y) :=
  optionRel_elim h hxy fun _ _ hab => hab

theorem toList_rel {a : Option α} {b : Option β} (h : Option.Rel R a b) :
    List.Forall₂ R a.toList b.toList :=
  optionRel_elim h .nil fun _ _ hxy => .cons hxy .nil

theorem map_eq_of_optionRel {γ : Type} {f : α → γ} {g : β → γ} {a : Option α} {b : Option β}
    (h : Option.Rel R a b) (hfg : ∀ a b, R a b → f a = g b) : a.map f = b.map g :=
  optionRel_elim h rfl fun _ _ hxy => congrArg some (hfg _ _ hxy)

/-! ## Lists that correspond -/

theorem forall₂_imp_of_mem {as : List α} {bs : List β} (h : List.Forall₂ R as bs)
    (hRS : ∀ a ∈ as, ∀ b, R a b → S a b) : List.Forall₂ S as bs := by
  induction h with
  | nil => exact .nil
  | cons hab _ ih =>
    rw [List.forall_mem_cons] at hRS
    exact .cons (hRS.1 _ hab) (ih hRS.2)

/-- A list corresponds to another one if each of its items corresponds to something. -/
theorem exists_forall₂_iff {as : List α} : (∃ bs, List.Forall₂ R as bs) ↔ ∀ a ∈ as, ∃ b, R a b := by
  induction as with
  | nil => simp
  | cons a as ih =>
    rw [List.forall_mem_cons, ← ih]
    constructor
    · rintro ⟨_, h⟩
      cases h with
      | cons hab hrest => exact ⟨⟨_, hab⟩, _, hrest⟩
    · rintro ⟨⟨b, hab⟩, bs, hrest⟩
      exact ⟨b :: bs, .cons hab hrest⟩

/-- Where the second list can only have the values of a function, it is made by that function. -/
theorem eq_map_of_forall₂ {f : α → β} {as : List α} {bs : List β} (h : List.Forall₂ R as bs)
    (hf : ∀ a ∈ as, ∀ b, R a b → b = f a) : bs = as.map f := by
  induction h with
  | nil => rfl
  | cons hab _ ih =>
    rw [List.forall_mem_cons] at hf
    rw [List.map_cons, ← hf.1 _ hab, ← ih hf.2]

/-- A search finds items that correspond, if it cannot tell corresponding items apart. -/
theorem find?_rel {p : α → Bool} {q : β → Bool} {as : List α} {bs : List β}
    (h : List.Forall₂ R as bs) (hpq : ∀ a b, R a b → p a = q b) :
    Option.Rel R (as.find? p) (bs.find? q) := by
  induction h with
  | nil => exact .none
  | cons hab _ ih =>
    rw [List.find?_cons, List.find?_cons, hpq _ _ hab]
    split
    · exact .some hab
    · exact ih

theorem head?_rel {as : List α} {bs : List β} (h : List.Forall₂ R as bs) :
    Option.Rel R as.head? bs.head? := by
  cases h with
  | nil => exact .none
  | cons hab _ => exact .some hab

theorem findSome?_rel {γ : Type} {f : γ → Option α} {g : γ → Option β} (cs : List γ)
    (h : ∀ c, Option.Rel R (f c) (g c)) : Option.Rel R (cs.findSome? f) (cs.findSome? g) := by
  induction cs with
  | nil => exact .none
  | cons c cs ih =>
    rw [List.findSome?_cons, List.findSome?_cons]
    exact optionRel_elim (h c) ih fun _ _ hxy => .some hxy

/-- Whether two lists correspond does not change if both are replaced by lists whose items cannot be
told apart. -/
theorem forall₂_iff_of_rel {α' β' : Type} {R : α → α' → Prop} {S : β → β' → Prop}
    {T : α → β → Prop} {T' : α' → β' → Prop} {as : List α} {as' : List α'} {bs : List β}
    {bs' : List β'} (has : List.Forall₂ R as as') (hbs : List.Forall₂ S bs bs')
    (hT : ∀ a ∈ as, ∀ a' b b', R a a' → S b b' → (T a b ↔ T' a' b')) :
    List.Forall₂ T as bs ↔ List.Forall₂ T' as' bs' := by
  induction has generalizing bs bs' with
  | nil => cases hbs <;> simp
  | cons ha _ ih =>
    cases hbs with
    | nil => simp
    | cons hb hbs =>
      rw [List.forall_mem_cons] at hT
      rw [List.forall₂_cons, List.forall₂_cons, hT.1 _ _ _ ha hb, ih hbs hT.2]

theorem put_rel [DecidableEq κ] {key : κ} {a : α} {b : β} {es : List (κ × α)} {fs : List (κ × β)}
    (h : List.Forall₂ (SameKey R) es fs) (hab : R a b) :
    List.Forall₂ (SameKey R) (put key a es) (put key b fs) := by
  induction h with
  | nil => exact .cons (.mk key hab) .nil
  | @cons e f es fs hef hrest ih =>
    obtain ⟨k, hvalue⟩ := hef
    rw [put, put]
    split
    · exact .cons (.mk k hab) hrest
    · exact .cons (.mk k hvalue) ih

/-- Where the last entry of a key wins, entries that correspond win. -/
theorem lastWins_rel [DecidableEq κ] {es : List (κ × α)} {fs : List (κ × β)}
    (h : List.Forall₂ (SameKey R) es fs) :
    List.Forall₂ (SameKey R) (lastWins es) (lastWins fs) := by
  refine List.rel_foldl ?_ .nil h
  rintro acc acc' hacc e f ⟨key, hvalue⟩
  exact put_rel hacc hvalue

/-! ## Lists that correspond in another order -/

namespace Reordered

variable {as : List α} {bs : List β} {es : List (κ × α)} {fs : List (κ × β)}

theorem of_perm_of_forall₂ {as' : List α} (hperm : as'.Perm as) (h : List.Forall₂ R as bs) :
    Reordered R as' bs := by
  induction h generalizing as' with
  | nil =>
    rw [List.perm_nil] at hperm
    subst hperm
    exact .nil
  | cons hab _ ih => exact .insert hab hperm (ih (List.Perm.refl _))

theorem singleton {a : α} {b : β} (h : R a b) : Reordered R [a] [b] :=
  .insert h (.refl _) .nil

/-- The first item of the one list corresponds to the last one of the other list. -/
theorem swapped {a₁ a₂ : α} {b₁ b₂ : β} (h₁ : R a₁ b₁) (h₂ : R a₂ b₂) :
    Reordered R [a₁, a₂] [b₂, b₁] :=
  .insert h₂ (.swap _ _ _) (singleton h₁)

theorem exists_perm (h : Reordered R as bs) : ∃ cs, as.Perm cs ∧ List.Forall₂ R cs bs := by
  induction h with
  | nil => exact ⟨[], List.Perm.refl _, .nil⟩
  | insert hab order _ ih =>
    obtain ⟨cs, hperm, hall⟩ := ih
    exact ⟨_ :: cs, order.trans (hperm.cons _), .cons hab hall⟩

/-- Both lists may be given in any order. -/
theorem perm {as' : List α} {bs' : List β} (h : Reordered R as bs) (has : as'.Perm as)
    (hbs : bs'.Perm bs) : Reordered R as' bs' := by
  obtain ⟨cs, hperm, hall⟩ := h.exists_perm
  obtain ⟨cs', hall', hperm'⟩ := List.perm_comp_forall₂ hbs hall.flip
  exact of_perm_of_forall₂ ((has.trans hperm).trans hperm'.symm) hall'.flip

theorem map {γ δ : Type} {T : γ → δ → Prop} {f : α → γ} {g : β → δ} (h : Reordered R as bs)
    (hT : ∀ a ∈ as, ∀ b, R a b → T (f a) (g b)) : Reordered T (as.map f) (bs.map g) := by
  obtain ⟨cs, hperm, hall⟩ := h.exists_perm
  refine of_perm_of_forall₂ (hperm.map f) ?_
  rw [List.forall₂_map_left_iff, List.forall₂_map_right_iff]
  exact forall₂_imp_of_mem hall fun a ha => hT a (hperm.symm.subset ha)

theorem flip (h : Reordered R as bs) : Reordered (fun b a => R a b) bs as := by
  obtain ⟨cs, hperm, hall⟩ := h.exists_perm
  exact perm (of_perm_of_forall₂ (List.Perm.refl _) hall.flip) (List.Perm.refl _) hperm

theorem exists_right (h : Reordered R as bs) : ∀ a ∈ as, ∃ b ∈ bs, R a b := by
  induction h with
  | nil => intro a ha; cases ha
  | insert hab order _ ih =>
    intro a ha
    rcases List.mem_cons.mp (order.subset ha) with rfl | ha
    · exact ⟨_, List.mem_cons_self, hab⟩
    · obtain ⟨b, hb, hR⟩ := ih a ha
      exact ⟨b, List.mem_cons_of_mem _ hb, hR⟩

theorem exists_left (h : Reordered R as bs) : ∀ b ∈ bs, ∃ a ∈ as, R a b := h.flip.exists_right

theorem length_eq (h : Reordered R as bs) : as.length = bs.length := by
  obtain ⟨cs, hperm, hall⟩ := h.exists_perm
  exact hperm.length_eq.trans hall.length_eq

theorem keys_perm (h : Reordered (SameKey R) es fs) : (es.map (·.1)).Perm (fs.map (·.1)) := by
  obtain ⟨gs, hperm, hall⟩ := h.exists_perm
  rw [← keys_eq_of_forall₂ hall]
  exact hperm.map _

/-- The values found under a key are related. -/
theorem lookup?_rel [DecidableEq κ] (h : Reordered (SameKey R) es fs)
    (hkeys : (es.map (·.1)).Nodup) (key : κ) :
    Option.Rel R (lookup? key es) (lookup? key fs) := by
  obtain ⟨gs, hperm, hall⟩ := h.exists_perm
  rw [lookup?_eq_of_perm hperm hkeys]
  exact lookup?_rel_of_forall₂ hall key

/-- The entries in the order of their keys correspond place by place. -/
theorem sortedByKey {es : List (String × α)} {fs : List (String × β)}
    (h : Reordered (SameKey R) es fs) (hkeys : (es.map (·.1)).Nodup) :
    List.Forall₂ (SameKey R) (sortedByKey es) (sortedByKey fs) := by
  obtain ⟨gs, hperm, hall⟩ := h.exists_perm
  rw [Sorting.sortedByKey_eq_of_perm hperm hkeys]
  exact Sorting.forall₂_mergeSort (fun _ _ hef => hef.key_eq) hall

end Reordered
end ApiCompiler
