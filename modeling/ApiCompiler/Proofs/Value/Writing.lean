import ApiCompiler.Proofs.Value.Rearrangement

/-!
# Values that can be written

A value is writable if writing it as JSON succeeds.  What it is written as is then no question
(`written_eq_toJson`): a scalar has one form in JSON, and lists and mappings are written part by
part.  A sequence is writable if its items are, and a mapping if its keys and its values are
(`writable_seq_iff`, `writable_map_iff`).  Otherwise writing breaks down at a day, a moment or a
time (`isUnwritable_of_written`).

An enumerated value is written with sorted keys when a schema is compiled, and in the order of its
keys when its type is spelled.  Sorting is one more thing that can fail, so a value that the first
accepts is one that the second accepts (`writable_of_ordered`).
-/

namespace ApiCompiler

/-- A value or a key has no form in JSON. -/
def Breakdown.IsUnwritable : Breakdown → Prop
  | .unwritable _ => True
  | .unwritableKey _ => True
  | _ => False

namespace Value

/-- The value can be written. -/
def Writable (v : Value) : Prop := ∃ j, v.written = .ok j

/-- The key can be written. -/
def Scalar.WritableKey (s : Scalar) : Prop := ∃ key, s.writtenKey = .ok key

/-! ## Scalars -/

theorem Scalar.written_eq_toJson {s : Scalar} {j : Json} (h : s.written = .ok j) :
    j = s.toJson := by
  cases s with
  | day d | moment m | time t => cases h
  | null | bool b | int n | float x | text t =>
    cases h
    rfl

theorem Scalar.writtenKey_eq_key {s : Scalar} {key : String} (h : s.writtenKey = .ok key) :
    key = s.key := by
  cases s with
  | day d | moment m | time t => cases h
  | null | bool b | int n | float x | text t =>
    cases h
    rfl

theorem Scalar.isUnwritable_of_written {s : Scalar} {reason : Breakdown}
    (h : s.written = .error reason) : reason.IsUnwritable := by
  cases s with
  | null | bool b | int n | float x | text t => cases h
  | day d | moment m | time t =>
    cases h
    trivial

theorem Scalar.isUnwritable_of_writtenKey {s : Scalar} {reason : Breakdown}
    (h : s.writtenKey = .error reason) : reason.IsUnwritable := by
  cases s with
  | null | bool b | int n | float x | text t => cases h
  | day d | moment m | time t =>
    cases h
    trivial

/-! ## Items and members -/

variable {arrange : Arrangement} {xs : List Value} {es : List (Scalar × Value)}
  {entries : List (Scalar × Except Breakdown Json)} {reason : Breakdown}

/-- Items are written one by one. -/
theorem writtenItems_eq_ok_iff {js : List Json} :
    writtenItems arrange xs = .ok js ↔
      List.Forall₂ (fun x j => x.writtenBy arrange = .ok j) xs js := by
  induction xs generalizing js with
  | nil => simp [writtenItems, eq_comm]
  | cons x xs ih =>
    rw [writtenItems, bind_eq_ok, List.forall₂_cons_left_iff]
    refine exists_congr fun j => ?_
    rw [bind_eq_ok]
    constructor
    · rintro ⟨hx, js', hxs, heq⟩
      cases heq
      exact ⟨js', hx, ih.mp hxs, rfl⟩
    · rintro ⟨js', hx, hxs, rfl⟩
      exact ⟨hx, js', ih.mpr hxs, rfl⟩

/-- Entries are written one by one, the key before the value. -/
theorem writtenMembers_eq_ok_iff {ms : List (String × Json)} :
    writtenMembers entries = .ok ms ↔
      List.Forall₂ (fun e m => e.1.writtenKey = .ok m.1 ∧ e.2 = .ok m.2) entries ms := by
  induction entries generalizing ms with
  | nil => simp [writtenMembers, eq_comm]
  | cons e entries ih =>
    rw [writtenMembers, bind_eq_ok, List.forall₂_cons_left_iff]
    constructor
    · rintro ⟨key, hkey, h⟩
      rw [bind_eq_ok] at h
      obtain ⟨j, hj, h⟩ := h
      rw [bind_eq_ok] at h
      obtain ⟨ms', hms, heq⟩ := h
      cases heq
      exact ⟨(key, j), ms', ⟨hkey, hj⟩, ih.mp hms, rfl⟩
    · rintro ⟨⟨key, j⟩, ms', ⟨hkey, hj⟩, hms, rfl⟩
      refine ⟨key, hkey, bind_eq_ok.mpr ⟨j, hj, bind_eq_ok.mpr ⟨ms', ih.mpr hms, rfl⟩⟩⟩

theorem exists_writtenItems_iff :
    (∃ js, writtenItems arrange xs = .ok js) ↔ ∀ x ∈ xs, ∃ j, x.writtenBy arrange = .ok j := by
  simp only [writtenItems_eq_ok_iff, exists_forall₂_iff]

theorem exists_writtenMembers_iff :
    (∃ ms, writtenMembers entries = .ok ms) ↔
      ∀ e ∈ entries, e.1.WritableKey ∧ ∃ j, e.2 = .ok j := by
  simp only [writtenMembers_eq_ok_iff, exists_forall₂_iff, Scalar.WritableKey, Prod.exists,
    exists_and_left, exists_and_right]

/-! ## Writable values -/

theorem writable_seq_iff : (Value.seq xs).Writable ↔ ∀ x ∈ xs, x.Writable := by
  refine Iff.trans ?_ exists_writtenItems_iff
  simp only [Writable, written, writtenBy, bind_eq_ok]
  constructor
  · rintro ⟨_, js, hjs, -⟩
    exact ⟨js, hjs⟩
  · rintro ⟨js, hjs⟩
    exact ⟨_, js, hjs, rfl⟩

theorem writable_map_iff :
    (Value.map es).Writable ↔ ∀ e ∈ es, e.1.WritableKey ∧ e.2.Writable := by
  have hentries : (∀ e ∈ writtenEntries .ok es, e.1.WritableKey ∧ ∃ j, e.2 = .ok j) ↔
      ∀ e ∈ es, e.1.WritableKey ∧ e.2.Writable := by
    rw [writtenEntries_eq, List.forall_mem_map]
    rfl
  rw [← hentries, ← exists_writtenMembers_iff]
  simp only [Writable, written, writtenBy, bind_eq_ok]
  constructor
  · rintro ⟨_, entries, heq, ms, hms, -⟩
    obtain rfl := Except.ok.inj heq
    exact ⟨ms, hms⟩
  · rintro ⟨ms, hms⟩
    exact ⟨_, _, rfl, ms, hms, rfl⟩

/-! ## What is written -/

theorem toItems_eq_map (key : Scalar → String) (xs : List Value) :
    toItems key xs = xs.map (toJsonWith key) := by
  induction xs with
  | nil => rfl
  | cons x xs ih => rw [toItems, List.map_cons, ih]

theorem toMembers_eq_map (key : Scalar → String) (es : List (Scalar × Value)) :
    toMembers key es = es.map fun e => (key e.1, e.2.toJsonWith key) := by
  induction es with
  | nil => rfl
  | cons e es ih => rw [toMembers, List.map_cons, ih]

/-- What a value is written as. -/
theorem written_eq_toJson {v : Value} {j : Json} (h : v.written = .ok j) : j = v.toJson := by
  unfold written at h
  induction v using rec_parts generalizing j with
  | step v ih =>
    cases v with
    | scalar s =>
      rw [writtenBy] at h
      exact Scalar.written_eq_toJson h
    | seq xs =>
      rw [writtenBy, bind_eq_ok] at h
      obtain ⟨js, hjs, heq⟩ := h
      obtain rfl := Except.ok.inj heq
      rw [writtenItems_eq_ok_iff] at hjs
      have hitems : js = xs.map (toJsonWith Scalar.key) :=
        eq_map_of_forall₂ hjs fun x hx _ hwritten => ih x hx hwritten
      rw [hitems, toJson, toJsonWith, toItems_eq_map]
    | map es =>
      rw [writtenBy, bind_eq_ok] at h
      obtain ⟨entries, hentries, h⟩ := h
      obtain rfl := Except.ok.inj hentries
      rw [bind_eq_ok] at h
      obtain ⟨ms, hms, heq⟩ := h
      obtain rfl := Except.ok.inj heq
      rw [writtenMembers_eq_ok_iff, writtenEntries_eq, List.forall₂_map_left_iff] at hms
      have hmembers : ms = es.map fun e => (e.1.key, e.2.toJsonWith Scalar.key) := by
        refine eq_map_of_forall₂ hms fun e he m hm => Prod.ext ?_ ?_
        · exact Scalar.writtenKey_eq_key hm.1
        · exact ih e.2 (List.mem_map_of_mem he) hm.2
      rw [hmembers, toJson, toJsonWith, toMembers_eq_map]

theorem Writable.written_eq {v : Value} (h : v.Writable) : v.written = .ok v.toJson := by
  obtain ⟨j, hj⟩ := h
  rw [hj, written_eq_toJson hj]

/-- A value that can be written with sorted keys can be written. -/
theorem writable_of_ordered {v : Value} {j : Json} (h : v.ordered = .ok j) : v.Writable := by
  unfold ordered at h
  induction v using rec_parts generalizing j with
  | step v ih =>
    cases v with
    | scalar s =>
      rw [writtenBy] at h
      exact ⟨j, by rw [written, writtenBy, h]⟩
    | seq xs =>
      rw [writtenBy, bind_eq_ok] at h
      obtain ⟨js, hjs, -⟩ := h
      refine writable_seq_iff.mpr fun x hx => ?_
      obtain ⟨j, hj⟩ := exists_writtenItems_iff.mp ⟨js, hjs⟩ x hx
      exact ih x hx hj
    | map es =>
      rw [writtenBy, bind_eq_ok] at h
      obtain ⟨sorted, hsorted, h⟩ := h
      rw [bind_eq_ok] at h
      obtain ⟨ms, hms, -⟩ := h
      have hall := exists_writtenMembers_iff.mp ⟨ms, hms⟩
      refine writable_map_iff.mpr fun e he => ?_
      have hmem : (e.1, e.2.writtenBy sortEntries) ∈ sorted := by
        rw [(sortEntries_perm hsorted).mem_iff, writtenEntries_eq]
        exact List.mem_map_of_mem he
      obtain ⟨hkey, j, hj⟩ := hall _ hmem
      exact ⟨hkey, ih e.2 (List.mem_map_of_mem he) hj⟩

/-- A value that has a text as an enumerated value can be written. -/
theorem writable_of_literalText {v : Value} {text : String} (h : Schema.literalText v = .ok text) :
    v.Writable := by
  unfold Schema.literalText at h
  split at h
  · case h_1 s => exact ⟨.str s, rfl⟩
  · cases hordered : v.ordered with
    | error reason =>
      rw [hordered] at h
      cases h
    | ok j => exact writable_of_ordered hordered

theorem literalTexts_eq_mapM (vs : List Value) :
    Schema.literalTexts vs = vs.mapM Schema.literalText := by
  induction vs with
  | nil => rfl
  | cons v vs ih => rw [Schema.literalTexts, List.mapM_cons, ih]

/-- The texts of values are one for each. -/
theorem length_of_literalTexts {vs : List Value} {texts : List String}
    (h : Schema.literalTexts vs = .ok texts) :
    texts.length = vs.length ∧ ∀ v ∈ vs, ∃ written, Schema.literalText v = .ok written := by
  rw [literalTexts_eq_mapM, mapM_eq_ok_iff] at h
  exact ⟨h.length_eq.symm, exists_forall₂_iff.mp ⟨texts, h⟩⟩

theorem writable_of_literalTexts {vs : List Value} {texts : List String}
    (h : Schema.literalTexts vs = .ok texts) : ∀ v ∈ vs, v.Writable := by
  intro v hv
  obtain ⟨text, htext⟩ := (length_of_literalTexts h).2 v hv
  exact writable_of_literalText htext

/-! ## Values that cannot be written -/

theorem exists_of_writtenItems_eq_error (h : writtenItems arrange xs = .error reason) :
    ∃ x ∈ xs, x.writtenBy arrange = .error reason := by
  induction xs with
  | nil => cases h
  | cons x xs ih =>
    rw [writtenItems, bind_eq_error] at h
    rcases h with hx | ⟨j, -, h⟩
    · exact ⟨x, List.mem_cons_self, hx⟩
    · rw [bind_eq_error] at h
      rcases h with hxs | ⟨js, -, h⟩
      · obtain ⟨y, hy, hreason⟩ := ih hxs
        exact ⟨y, List.mem_cons_of_mem _ hy, hreason⟩
      · cases h

theorem exists_of_writtenMembers_eq_error (h : writtenMembers entries = .error reason) :
    ∃ e ∈ entries, e.1.writtenKey = .error reason ∨ e.2 = .error reason := by
  induction entries with
  | nil => cases h
  | cons e entries ih =>
    rw [writtenMembers, bind_eq_error] at h
    rcases h with hkey | ⟨key, -, h⟩
    · exact ⟨e, List.mem_cons_self, Or.inl hkey⟩
    · rw [bind_eq_error] at h
      rcases h with hvalue | ⟨j, -, h⟩
      · exact ⟨e, List.mem_cons_self, Or.inr hvalue⟩
      · rw [bind_eq_error] at h
        rcases h with hrest | ⟨ms, -, h⟩
        · obtain ⟨f, hf, hreason⟩ := ih hrest
          exact ⟨f, List.mem_cons_of_mem _ hf, hreason⟩
        · cases h

/-- Writing breaks down only at what has no form in JSON. -/
theorem isUnwritable_of_written {v : Value} (h : v.written = .error reason) :
    reason.IsUnwritable := by
  unfold written at h
  induction v using rec_parts with
  | step v ih =>
    cases v with
    | scalar s =>
      rw [writtenBy] at h
      exact Scalar.isUnwritable_of_written h
    | seq xs =>
      rw [writtenBy, bind_eq_error] at h
      rcases h with hxs | ⟨js, -, h⟩
      · obtain ⟨x, hx, hreason⟩ := exists_of_writtenItems_eq_error hxs
        exact ih x hx hreason
      · cases h
    | map es =>
      rw [writtenBy, bind_eq_error] at h
      rcases h with h | ⟨entries, hentries, h⟩
      · cases h
      · obtain rfl := Except.ok.inj hentries
        rw [bind_eq_error] at h
        rcases h with hms | ⟨ms, -, h⟩
        · obtain ⟨e, he, hreason⟩ := exists_of_writtenMembers_eq_error hms
          rw [writtenEntries_eq] at he
          obtain ⟨⟨k, w⟩, hmem, rfl⟩ := List.mem_map.mp he
          rcases hreason with hkey | hvalue
          · exact Scalar.isUnwritable_of_writtenKey hkey
          · exact ih w (List.mem_map_of_mem hmem) hvalue
        · cases h

end Value
end ApiCompiler
