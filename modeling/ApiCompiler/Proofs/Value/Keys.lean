import ApiCompiler.Proofs.Value.Numbers

/-!
# Keys of mappings

Two keys are like when they are one key: numbers when they have the same value, moments when they
are the same moment, anything else when it is equal (`Scalar.like_iff`).  This is an equivalence.

Texts can be compared with each other, and so can days, times and numbers, and moments whose distance
from universal time is known of both or of neither (`Scalar.Comparable`).  Of two such keys that are
not like, one comes before the other.  So keys that can all be compared have one order only.
-/

namespace ApiCompiler
namespace Value
namespace Scalar

/-! ## Likeness -/

/-- What a key that is no number is compared by: where a moment stands in time, and whether that is
universal time, or else the key itself. -/
def place : Scalar → (Bool × Int) ⊕ Scalar
  | .moment m => .inl (m.offset.isSome, m.instant)
  | a => .inr a

/-- What a key is compared by: the integer of a number, or the place of another key. -/
def identity (a : Scalar) : Int ⊕ (Bool × Int) ⊕ Scalar :=
  match a.number? with
  | some n => .inl n.scaled
  | none => .inr a.place

theorem moment_same_iff (m n : Moment) :
    m.same n = true ↔ m.offset.isSome = n.offset.isSome ∧ m.instant = n.instant := by
  rw [Moment.same, Moment.comparable, Bool.and_eq_true, decide_eq_true_eq, decide_eq_true_eq]

theorem same_iff (a b : Scalar) : a.same b = true ↔ a.place = b.place := by
  cases a with
  | moment m =>
    cases b with
    | moment n => simp [same, place, moment_same_iff]
    | _ => simp [same, place]
  | _ => cases b <;> simp [same, place]

theorem like_iff (a b : Scalar) : a.like b = true ↔ a.identity = b.identity := by
  unfold like identity
  cases a.number? with
  | none =>
    cases b.number? with
    | none => simp [same_iff]
    | some n => simp
  | some m =>
    cases b.number? with
    | none => simp
    | some n => simp [Number.same_iff]

theorem like_self (a : Scalar) : a.like a = true := (like_iff a a).mpr rfl

theorem like_comm (a b : Scalar) : a.like b = b.like a := by
  rw [Bool.eq_iff_iff, like_iff, like_iff, eq_comm]

theorem like_trans {a b c : Scalar} (hab : a.like b = true) (hbc : b.like c = true) :
    a.like c = true :=
  (like_iff a c).mpr (((like_iff a b).mp hab).trans ((like_iff b c).mp hbc))

/-! ## Order -/

/-- Two keys can be compared: both are texts, days, times, numbers, or moments in or not in universal
time. -/
inductive Comparable : Scalar → Scalar → Prop
  | texts (s t : String) : Comparable (.text s) (.text t)
  | days (d e : Day) : Comparable (.day d) (.day e)
  | times (s t : Time) : Comparable (.time s) (.time t)
  | moments {m n : Moment} (h : m.offset.isSome = n.offset.isSome) :
      Comparable (.moment m) (.moment n)
  | numbers {a b : Scalar} {m n : Number} (ha : a.number? = some m) (hb : b.number? = some n) :
      Comparable a b

variable {a b c : Scalar}

theorem before_number {m n : Number} (ha : a.number? = some m) (hb : b.number? = some n) :
    a.before b = .ok (m.below n) := by
  unfold before
  split
  · cases ha
  · cases ha
  · cases ha
  · cases ha
  · rw [ha, hb]

theorem before_moments {m n : Moment} (h : m.offset.isSome = n.offset.isSome) :
    (moment m).before (.moment n) = .ok (m.instant < n.instant) := by
  show (if m.comparable n then _ else _) = _
  rw [Moment.comparable, decide_eq_true h, if_pos rfl]

theorem Comparable.exists_before (h : Comparable a b) : ∃ r, a.before b = .ok r := by
  cases h with
  | texts s t => exact ⟨_, rfl⟩
  | days d e => exact ⟨_, rfl⟩
  | times s t => exact ⟨_, rfl⟩
  | moments h => exact ⟨_, before_moments h⟩
  | numbers ha hb => exact ⟨_, before_number ha hb⟩

theorem comparable_of_before {r : Bool} (h : a.before b = .ok r) : Comparable a b := by
  unfold before at h
  split at h
  · exact .texts _ _
  · exact .days _ _
  · exact .times _ _
  · split at h
    · case isTrue hoffset => exact .moments (of_decide_eq_true hoffset)
    · cases h
  · split at h
    · case h_1 ha hb => exact .numbers ha hb
    · cases h

/-- Keys that cannot be compared are named in the breakdown. -/
theorem eq_unordered_of_before {reason : Breakdown} (h : a.before b = .error reason) :
    reason = .unordered a.kind b.kind := by
  unfold before at h
  split at h
  · cases h
  · cases h
  · cases h
  · split at h
    · cases h
    · cases h
      rfl
  · split at h
    · cases h
    · cases h
      rfl

theorem Comparable.symm (h : Comparable a b) : Comparable b a := by
  cases h with
  | texts s t => exact .texts t s
  | days d e => exact .days e d
  | times s t => exact .times t s
  | moments h => exact .moments h.symm
  | numbers ha hb => exact .numbers hb ha

/-- What can be compared with a number is one. -/
theorem Comparable.number {n : Number} (h : Comparable a b) (ha : a.number? = some n) :
    ∃ k, b.number? = some k := by
  cases h with
  | numbers _ hb => exact ⟨_, hb⟩
  | _ => cases ha

theorem Comparable.trans (hab : Comparable a b) (hbc : Comparable b c) : Comparable a c := by
  cases hab with
  | texts s t =>
    cases hbc with
    | texts _ u => exact .texts s u
    | numbers hb => cases hb
  | days d e =>
    cases hbc with
    | days _ g => exact .days d g
    | numbers hb => cases hb
  | times s t =>
    cases hbc with
    | times _ u => exact .times s u
    | numbers hb => cases hb
  | moments h =>
    cases hbc with
    | moments h' => exact .moments (h.trans h')
    | numbers hb => cases hb
  | numbers ha hb =>
    obtain ⟨k, hc⟩ := hbc.number hb
    exact .numbers ha hc

/-- The first key comes before the second one. -/
def Precedes (a b : Scalar) : Prop := a.before b = .ok true

theorem Precedes.comparable (h : Precedes a b) : Comparable a b := comparable_of_before h

theorem precedes_texts {s t : String} : Precedes (.text s) (.text t) ↔ s < t := by
  show Except.ok (decide (s < t)) = .ok true ↔ _
  rw [Except.ok.injEq, decide_eq_true_eq]

theorem precedes_days {d e : Day} :
    Precedes (.day d) (.day e) ↔ d.year < e.year ∨ d.year = e.year ∧
      (d.month < e.month ∨ d.month = e.month ∧ d.day < e.day) := by
  show Except.ok (d.before e) = .ok true ↔ _
  simp [Day.before]

theorem precedes_times {s t : Time} :
    Precedes (.time s) (.time t) ↔ s.hour < t.hour ∨ s.hour = t.hour ∧
      (s.minute < t.minute ∨ s.minute = t.minute ∧
        (s.second < t.second ∨ s.second = t.second ∧ s.micro < t.micro)) := by
  show Except.ok (s.before t) = .ok true ↔ _
  simp [Time.before]

theorem precedes_moments {m n : Moment} (h : m.offset.isSome = n.offset.isSome) :
    Precedes (.moment m) (.moment n) ↔ m.instant < n.instant := by
  rw [Precedes, before_moments h, Except.ok.injEq, decide_eq_true_eq]

theorem precedes_numbers {m n : Number} (ha : a.number? = some m) (hb : b.number? = some n) :
    Precedes a b ↔ m.scaled < n.scaled := by
  rw [Precedes, before_number ha hb, Except.ok.injEq, Number.below_iff]

theorem Precedes.trans (hab : Precedes a b) (hbc : Precedes b c) : Precedes a c := by
  cases hab.comparable with
  | texts s t =>
    cases hbc.comparable with
    | texts _ u =>
      rw [precedes_texts] at *
      exact String.lt_trans hab hbc
    | numbers hb => cases hb
  | days d e =>
    cases hbc.comparable with
    | days _ g =>
      rw [precedes_days] at *
      omega
    | numbers hb => cases hb
  | times s t =>
    cases hbc.comparable with
    | times _ u =>
      rw [precedes_times] at *
      omega
    | numbers hb => cases hb
  | moments h =>
    cases hbc.comparable with
    | moments h' =>
      rw [precedes_moments h] at hab
      rw [precedes_moments h'] at hbc
      exact (precedes_moments (h.trans h')).mpr (lt_trans hab hbc)
    | numbers hb => cases hb
  | numbers ha hb =>
    obtain ⟨k, hc⟩ := hbc.comparable.number hb
    rw [precedes_numbers ha hb] at hab
    rw [precedes_numbers hb hc] at hbc
    exact (precedes_numbers ha hc).mpr (lt_trans hab hbc)

theorem Precedes.irrefl : ¬ Precedes a a := by
  intro h
  cases h.comparable with
  | texts s => exact String.lt_irrefl s (precedes_texts.mp h)
  | days d =>
    rw [precedes_days] at h
    omega
  | times t =>
    rw [precedes_times] at h
    omega
  | moments heq => exact lt_irrefl _ ((precedes_moments heq).mp h)
  | numbers ha hb => exact lt_irrefl _ ((precedes_numbers ha ha).mp h)

/-- Of two keys that are compared and not like, one comes before the other. -/
theorem Comparable.precedes_or (h : Comparable a b) (hne : a.like b = false) :
    Precedes a b ∨ Precedes b a := by
  have hidentity : a.identity ≠ b.identity := by
    intro heq
    rw [(like_iff a b).mpr heq] at hne
    cases hne
  cases h with
  | texts s t =>
    rw [precedes_texts, precedes_texts]
    by_contra hneither
    obtain ⟨hst, hts⟩ := not_or.mp hneither
    exact hidentity (by rw [String.le_antisymm (String.not_lt.mp hts) (String.not_lt.mp hst)])
  | days d e =>
    have hne' : d ≠ e := fun heq => hidentity (by rw [heq])
    obtain ⟨y, m, n⟩ := d
    obtain ⟨y', m', n'⟩ := e
    rw [precedes_days, precedes_days]
    simp only [ne_eq, Day.mk.injEq] at hne' ⊢
    omega
  | times s t =>
    have hne' : s ≠ t := fun heq => hidentity (by rw [heq])
    obtain ⟨h, m, s, u⟩ := s
    obtain ⟨h', m', s', u'⟩ := t
    rw [precedes_times, precedes_times]
    simp only [ne_eq, Time.mk.injEq] at hne' ⊢
    omega
  | @moments m n hoffset =>
    have hne' : m.instant ≠ n.instant := by
      intro heq
      refine hidentity ?_
      simp only [identity, number?, place, hoffset, heq]
    rw [precedes_moments hoffset, precedes_moments hoffset.symm]
    exact lt_or_gt_of_ne hne'
  | numbers ha hb =>
    rw [precedes_numbers ha hb, precedes_numbers hb ha]
    refine lt_or_gt_of_ne fun heq => hidentity ?_
    simp only [identity, ha, hb, heq]

/-- Where a key does not come before another one, the other one comes before it. -/
theorem precedes_of_before (h : a.before b = .ok false) (hne : a.like b = false) :
    Precedes b a := by
  refine ((comparable_of_before h).precedes_or hne).resolve_left fun hab => ?_
  rw [Precedes, h] at hab
  cases hab

end Scalar
end Value
end ApiCompiler
