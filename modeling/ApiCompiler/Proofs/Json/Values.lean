import ApiCompiler.Proofs.Json.Numbers
import ApiCompiler.Proofs.Json.Texts
import ApiCompiler.Proofs.Maps

/-!
# Values read back

A JSON value that is spread over lines is read back as the value, if no object has a key twice and the
limits of the reader are not below what the value needs (`Json.demand`).  What follows the value has to
end a number, which every comma, line end and end of text does.

The reader counts its steps, and the proofs count the characters of the text: two steps for every
character are enough for a value, as they are for the items of an array and for the members of an object
after the first of them is taken (`readItems_spread`, `readMembers_spread`).
-/

namespace ApiCompiler
namespace Json

/-! ## What a value needs -/

/-- One level more. -/
def Limits.deeper (a : Limits) : Limits := ⟨a.depth + 1, a.digits⟩

/-- What two values need together. -/
def Limits.join (a b : Limits) : Limits := ⟨max a.depth b.depth, max a.digits b.digits⟩

instance : LE Limits := ⟨fun a b => a.depth ≤ b.depth ∧ a.digits ≤ b.digits⟩

mutual

/-- The least limits of a reader that reads a value. -/
def demand : Json → Limits
  | .int n => ⟨0, (Nat.toDigits 10 n.natAbs).length⟩
  | .arr xs => (demandItems xs).deeper
  | .obj ms => (demandMembers ms).deeper
  | _ => ⟨0, 0⟩

/-- The least limits for the items of an array. -/
def demandItems : List Json → Limits
  | [] => ⟨0, 0⟩
  | x :: xs => (demand x).join (demandItems xs)

/-- The least limits for the members of an object. -/
def demandMembers : List (String × Json) → Limits
  | [] => ⟨0, 0⟩
  | (_, v) :: rest => (demand v).join (demandMembers rest)

end

theorem Limits.join_le {a b c : Limits} (h : a.join b ≤ c) : a ≤ c ∧ b ≤ c :=
  ⟨⟨(Nat.le_max_left _ _).trans h.1, (Nat.le_max_left _ _).trans h.2⟩,
    ⟨(Nat.le_max_right _ _).trans h.1, (Nat.le_max_right _ _).trans h.2⟩⟩

theorem Limits.deeper_le {a : Limits} {room digits : Nat} (h : a.deeper ≤ ⟨room, digits⟩) :
    room ≠ 0 ∧ a ≤ ⟨room - 1, digits⟩ := by
  obtain ⟨hdepth, hdigits⟩ := h
  simp only [deeper] at hdepth
  exact ⟨by omega, ⟨Nat.le_sub_one_of_lt hdepth, hdigits⟩⟩

theorem demand_le_of_mem {xs : List Json} {limits : Limits} (h : demandItems xs ≤ limits) :
    ∀ x ∈ xs, demand x ≤ limits := by
  induction xs with
  | nil => intro x hx; cases hx
  | cons y ys ih =>
    rw [demandItems] at h
    obtain ⟨hy, hys⟩ := Limits.join_le h
    intro x hx
    rcases List.mem_cons.mp hx with rfl | hx
    · exact hy
    · exact ih hys x hx

theorem demand_le_of_mem_members {ms : List (String × Json)} {limits : Limits}
    (h : demandMembers ms ≤ limits) : ∀ m ∈ ms, demand m.2 ≤ limits := by
  induction ms with
  | nil => intro m hm; cases hm
  | cons e es ih =>
    rw [demandMembers] at h
    obtain ⟨he, hes⟩ := Limits.join_le h
    intro m hm
    rcases List.mem_cons.mp hm with rfl | hm
    · exact he
    · exact ih hes m hm

/-- No object has a key twice. -/
inductive Distinct : Json → Prop
  | null : Distinct .null
  | bool (b : Bool) : Distinct (.bool b)
  | int (n : Int) : Distinct (.int n)
  | float (x : Double) : Distinct (.float x)
  | str (s : String) : Distinct (.str s)
  | arr {xs : List Json} (items : ∀ x ∈ xs, Distinct x) : Distinct (.arr xs)
  | obj {ms : List (String × Json)} (keys : (ms.map (·.1)).Nodup)
      (members : ∀ m ∈ ms, Distinct m.2) : Distinct (.obj ms)

/-! ## Blanks -/

/-- The characters that are passed over between values. -/
def isBlank (c : Char) : Bool := c = ' ' || c = '\t' || c = '\n' || c = '\r'

theorem skipBlank_newline (level : Nat) (cs : List Char) :
    skipBlank (newline level ++ cs) = skipBlank cs := by
  have hblank : ∀ c ∈ newline level, isBlank c = true := by
    intro c hc
    rcases List.mem_cons.mp hc with rfl | hc
    · rfl
    · rw [List.eq_of_mem_replicate hc]
      rfl
  exact List.dropWhile_append_of_pos hblank

theorem skipBlank_cons {c : Char} (h : isBlank c = false) (cs : List Char) :
    skipBlank (c :: cs) = c :: cs := List.dropWhile_cons_of_neg (by rw [← Bool.not_eq_true] at h; exact h)

theorem numberEnds_newline (level : Nat) (rest : List Char) : NumberEnds (newline level ++ rest) := by
  intro c hc
  obtain rfl : '\n' = c := Option.some.inj hc
  decide

theorem numberEnds_comma (rest : List Char) : NumberEnds (',' :: rest) := by
  intro c hc
  obtain rfl : ',' = c := Option.some.inj hc
  decide

/-! ## Where values begin -/

/-- A value may begin here: neither a blank nor the end of an array stands here, nor the mark of a
byte order. -/
def ValueBegins (cs : List Char) : Prop :=
  ∃ c r, cs = c :: r ∧ isBlank c = false ∧ c ∉ [']', '\uFEFF']

theorem ValueBegins.skipBlank {cs : List Char} (h : ValueBegins cs) : skipBlank cs = cs := by
  obtain ⟨c, r, rfl, hc, -⟩ := h
  exact skipBlank_cons hc r

theorem ValueBegins.append {cs : List Char} (h : ValueBegins cs) (rest : List Char) :
    ValueBegins (cs ++ rest) := by
  obtain ⟨c, r, rfl, hc⟩ := h
  exact ⟨c, r ++ rest, rfl, hc⟩

theorem valueBegins_of_number {digits : Nat} {cs : List Char} {p : Json × List Char}
    (h : readNumber digits cs = .ok p) : ValueBegins cs := by
  obtain ⟨c, hc, hnumber⟩ := head?_of_readNumber h
  cases cs with
  | nil => cases hc
  | cons d r =>
    obtain rfl : d = c := Option.some.inj hc
    refine ⟨d, r, rfl, ?_, ?_⟩
    · by_contra hblank
      simp only [isBlank, Bool.not_eq_false, Bool.or_eq_true, decide_eq_true_eq] at hblank
      rcases hblank with ((rfl | rfl) | rfl) | rfl <;> exact absurd hnumber (by decide)
    · intro hother
      simp only [List.mem_cons, List.not_mem_nil, or_false] at hother
      rcases hother with rfl | rfl <;> exact absurd hnumber (by decide)

/-- A number is read as a value. -/
theorem readValue_of_readNumber {digits : Nat} {cs : List Char} {p : Json × List Char}
    (h : readNumber digits cs = .ok p) (room fuel : Nat) :
    readValue digits room (fuel + 1) cs = .ok p := by
  obtain ⟨c, hc, hnumber⟩ := head?_of_readNumber h
  have hother : ∀ d, d ∈ ['"', '[', '\x7b', 'n', 't', 'f'] → ∀ r, cs = d :: r → False := by
    rintro d hd r rfl
    obtain rfl : d = c := Option.some.inj hc
    have hnone : ∀ d ∈ ['"', '[', '\x7b', 'n', 't', 'f'], ¬ (d = '-' ∨ isDigit d = true) := by
      simp only [List.forall_mem_cons]
      exact ⟨by decide, by decide, by decide, by decide, by decide, by decide, List.forall_mem_nil _⟩
    exact hnone d hd hnumber
  rw [readValue, readScalar]
  · exact h
  · exact fun r hr => hother 'n' (by decide) _ hr
  · exact fun r hr => hother 't' (by decide) _ hr
  · exact fun r hr => hother 'f' (by decide) _ hr
  · exact hother '"' (by decide)
  · exact hother '[' (by decide)
  · exact hother '\x7b' (by decide)

/-- An array is read as its items once it is open. -/
theorem readValue_bracket {digits room fuel : Nat} {cs cs' rest : List Char} {xs : List Json}
    (hroom : room ≠ 0) (hopen : skipBlank cs = cs') (hitem : ∀ r, cs' = ']' :: r → False)
    (h : readItems digits (room - 1) fuel cs' = .ok (xs, rest)) :
    readValue digits room (fuel + 1) ('[' :: cs) = .ok (.arr xs, rest) := by
  simp only [readValue, hroom, if_false, hopen, h, bind, Except.bind]
  rfl

/-- An object is read as its members once it is open. -/
theorem readValue_brace {digits room fuel : Nat} {cs cs' rest : List Char} {ms : List (String × Json)}
    (hroom : room ≠ 0) (hopen : skipBlank cs = cs') (hmember : ∀ r, cs' = '\x7d' :: r → False)
    (h : readMembers digits (room - 1) fuel cs' = .ok (ms, rest)) :
    readValue digits room (fuel + 1) ('\x7b' :: cs) = .ok (.obj (lastWins ms), rest) := by
  simp only [readValue, hroom, if_false, hopen, h, bind, Except.bind]
  rfl

/-- A value that is written begins with a character of its own. -/
theorem valueBegins_spread (style : Style) (level : Nat) (v : Json) :
    ValueBegins (v.spread style level) := by
  have hends : NumberEnds [] := by intro c hc; cases hc
  cases v with
  | null => exact ⟨'n', _, rfl, rfl, by decide⟩
  | bool b => cases b <;> exact ⟨_, _, rfl, rfl, by decide⟩
  | int n =>
    have hread := readNumber_writeInt (n := n) hends (Nat.le_refl _)
    rw [List.append_nil] at hread
    exact valueBegins_of_number hread
  | float x =>
    have hread := readNumber_write style.layout x hends 0
    rw [List.append_nil] at hread
    exact valueBegins_of_number hread
  | str s => exact ⟨'"', _, rfl, rfl, by decide⟩
  | arr xs => cases xs <;> exact ⟨'[', _, rfl, rfl, by decide⟩
  | obj ms =>
    cases ms with
    | nil => exact ⟨'\x7b', _, rfl, rfl, by decide⟩
    | cons m ms => exact ⟨'\x7b', _, rfl, rfl, by decide⟩

/-! ## Values -/

/-- A value is read back by a reader with enough steps. -/
def ReadsBack (style : Style) (limits : Limits) (level : Nat) (v : Json) : Prop :=
  ∀ fuel rest, 2 * (v.spread style level).length ≤ fuel → NumberEnds rest →
    readValue limits.digits limits.depth fuel (v.spread style level ++ rest) = .ok (v, rest)

section

variable {style : Style} {limits : Limits} {level : Nat}

theorem spreadItems_ends (xs : List Json) (rest : List Char) :
    NumberEnds (spreadItems style level xs ++ rest) := by
  cases xs with
  | nil =>
    rw [spreadItems, List.append_assoc]
    exact numberEnds_newline _ _
  | cons x xs => exact numberEnds_comma _

theorem spreadMembers_ends (ms : List (String × Json)) (rest : List Char) :
    NumberEnds (spreadMembers style level ms ++ rest) := by
  cases ms with
  | nil =>
    rw [spreadMembers, List.append_assoc]
    exact numberEnds_newline _ _
  | cons m ms => exact numberEnds_comma _

/-- A reader that has enough steps has one. -/
theorem ReadsBack.of_step {v : Json}
    (h : ∀ fuel rest, 2 * (v.spread style level).length ≤ fuel + 1 → NumberEnds rest →
      readValue limits.digits limits.depth (fuel + 1) (v.spread style level ++ rest) =
        .ok (v, rest)) : ReadsBack style limits level v := by
  intro fuel rest hfuel hrest
  cases fuel with
  | zero =>
    obtain ⟨c, r, hv, -⟩ := valueBegins_spread style level v
    rw [hv, List.length_cons] at hfuel
    omega
  | succ fuel => exact h fuel rest hfuel hrest

/-- The items of an array are read back up to its closing bracket. -/
theorem readItems_spread {x : Json} {xs : List Json}
    (hread : ∀ y ∈ x :: xs, ReadsBack style limits (level + 1) y) (fuel : Nat) (rest : List Char)
    (hfuel : 2 * ((x.spread style (level + 1)).length + (spreadItems style level xs).length) ≤ fuel) :
    readItems limits.digits limits.depth fuel
      (x.spread style (level + 1) ++ (spreadItems style level xs ++ rest)) = .ok (x :: xs, rest) := by
  induction xs generalizing x fuel with
  | nil =>
    rw [spreadItems, newline] at hfuel
    simp only [List.length_append, List.length_cons] at hfuel
    obtain ⟨fuel, rfl⟩ := Nat.exists_eq_succ_of_ne_zero (show fuel ≠ 0 by omega)
    have hx := hread x List.mem_cons_self fuel (spreadItems style level [] ++ rest) (by omega)
      (spreadItems_ends [] rest)
    have hclose : skipBlank (spreadItems style level [] ++ rest) = ']' :: rest := by
      rw [spreadItems, List.append_assoc, skipBlank_newline]
      exact skipBlank_cons rfl rest
    simp only [readItems, hx, bind, Except.bind, hclose]
    rfl
  | cons y ys ih =>
    rw [spreadItems, newline] at hfuel
    simp only [List.length_append, List.length_cons] at hfuel
    obtain ⟨fuel, rfl⟩ := Nat.exists_eq_succ_of_ne_zero (show fuel ≠ 0 by omega)
    have hx := hread x List.mem_cons_self fuel (spreadItems style level (y :: ys) ++ rest) (by omega)
      (spreadItems_ends (y :: ys) rest)
    have hys := ih (x := y) (fun z hz => hread z (List.mem_cons_of_mem _ hz)) fuel (by omega)
    have hcomma : skipBlank (spreadItems style level (y :: ys) ++ rest) =
        ',' :: (newline (level + 1) ++ (y.spread style (level + 1) ++
          (spreadItems style level ys ++ rest))) := by
      rw [spreadItems, List.append_assoc, List.append_assoc, List.cons_append]
      exact skipBlank_cons rfl _
    have hnext : skipBlank (newline (level + 1) ++ (y.spread style (level + 1) ++
        (spreadItems style level ys ++ rest))) =
        y.spread style (level + 1) ++ (spreadItems style level ys ++ rest) := by
      rw [skipBlank_newline]
      exact ((valueBegins_spread style (level + 1) y).append _).skipBlank
    simp only [readItems, hx, bind, Except.bind, hcomma, hnext, hys]
    rfl

/-- The first member of an object is read up to what follows its value. -/
theorem readMembers_member {k : String} {v : Json} (hv : ReadsBack style limits (level + 1) v)
    {fuel : Nat} (hfuel : 2 * (v.spread style (level + 1)).length ≤ fuel) {rest : List Char}
    (hrest : NumberEnds rest) :
    readMembers limits.digits limits.depth (fuel + 1)
        (writeText style k ++ ':' :: ' ' :: (v.spread style (level + 1) ++ rest)) =
      match skipBlank rest with
      | '\x7d' :: rest => .ok ([(k, v)], rest)
      | ',' :: rest => do
        let (members, rest) ← readMembers limits.digits limits.depth fuel (skipBlank rest)
        pure ((k, v) :: members, rest)
      | rest => .error ⟨.comma, rest⟩ := by
  have hkey := readText_writeText style k (':' :: ' ' :: (v.spread style (level + 1) ++ rest))
  have hcolon : skipBlank (':' :: ' ' :: (v.spread style (level + 1) ++ rest)) =
      ':' :: ' ' :: (v.spread style (level + 1) ++ rest) := skipBlank_cons rfl _
  have hvalue : skipBlank (' ' :: (v.spread style (level + 1) ++ rest)) =
      v.spread style (level + 1) ++ rest := by
    rw [skipBlank, List.dropWhile_cons_of_pos (by decide)]
    exact ((valueBegins_spread style (level + 1) v).append _).skipBlank
  have hread := hv fuel rest hfuel hrest
  rw [writeText, List.cons_append, List.cons_append] at hkey ⊢
  simp only [readMembers, hkey, bind, Except.bind, hcolon, hvalue, hread]
  rfl

/-- The members of an object are read back up to its closing brace. -/
theorem readMembers_spread {k : String} {v : Json} {ms : List (String × Json)}
    (hread : ∀ m ∈ (k, v) :: ms, ReadsBack style limits (level + 1) m.2) (fuel : Nat)
    (rest : List Char)
    (hfuel : 2 * ((v.spread style (level + 1)).length + (spreadMembers style level ms).length) ≤ fuel) :
    readMembers limits.digits limits.depth fuel
      (writeText style k ++ ':' :: ' ' :: (v.spread style (level + 1) ++
        (spreadMembers style level ms ++ rest))) = .ok ((k, v) :: ms, rest) := by
  induction ms generalizing k v fuel with
  | nil =>
    rw [spreadMembers, newline] at hfuel
    simp only [List.length_append, List.length_cons] at hfuel
    obtain ⟨fuel, rfl⟩ := Nat.exists_eq_succ_of_ne_zero (show fuel ≠ 0 by omega)
    have hclose : skipBlank (spreadMembers style level [] ++ rest) = '\x7d' :: rest := by
      rw [spreadMembers, List.append_assoc, skipBlank_newline]
      exact skipBlank_cons rfl rest
    have hv : ReadsBack style limits (level + 1) v := hread (k, v) List.mem_cons_self
    rw [readMembers_member hv (by omega) (spreadMembers_ends [] rest), hclose]
    rfl
  | cons m ms ih =>
    rw [spreadMembers, newline] at hfuel
    simp only [List.length_append, List.length_cons] at hfuel
    obtain ⟨fuel, rfl⟩ := Nat.exists_eq_succ_of_ne_zero (show fuel ≠ 0 by omega)
    have hmembers : ∀ e ∈ m :: ms, ReadsBack style limits (level + 1) e.2 :=
      fun e he => hread e (List.mem_cons_of_mem _ he)
    have hms := ih (k := m.1) (v := m.2) hmembers fuel (by omega)
    have hcomma : skipBlank (spreadMembers style level (m :: ms) ++ rest) =
        ',' :: (newline (level + 1) ++ (writeText style m.1 ++ ':' :: ' ' ::
          (m.2.spread style (level + 1) ++ (spreadMembers style level ms ++ rest)))) := by
      rw [spreadMembers]
      simp only [List.append_assoc, List.cons_append]
      exact skipBlank_cons rfl _
    have hnext : skipBlank (newline (level + 1) ++ (writeText style m.1 ++ ':' :: ' ' ::
        (m.2.spread style (level + 1) ++ (spreadMembers style level ms ++ rest)))) =
        writeText style m.1 ++ ':' :: ' ' ::
          (m.2.spread style (level + 1) ++ (spreadMembers style level ms ++ rest)) := by
      rw [skipBlank_newline]
      exact skipBlank_cons rfl _
    have hv : ReadsBack style limits (level + 1) v := hread (k, v) List.mem_cons_self
    rw [readMembers_member hv (by omega) (spreadMembers_ends (m :: ms) rest), hcomma]
    simp only [hnext, hms, bind, Except.bind]
    rfl

end

/-- A value that is spread over lines is read back as itself. -/
theorem readsBack_of_distinct {v : Json} (hv : v.Distinct) {style : Style} {limits : Limits}
    (hdemand : v.demand ≤ limits) (level : Nat) : ReadsBack style limits level v := by
  induction hv generalizing limits level with
  | null => exact ReadsBack.of_step fun fuel rest _ _ => rfl
  | bool b =>
    cases b with
    | false => exact ReadsBack.of_step fun fuel rest _ _ => rfl
    | true => exact ReadsBack.of_step fun fuel rest _ _ => rfl
  | int n =>
    refine ReadsBack.of_step fun fuel rest _ hrest => ?_
    exact readValue_of_readNumber (readNumber_writeInt hrest hdemand.2) _ _
  | float x =>
    refine ReadsBack.of_step fun fuel rest _ hrest => ?_
    exact readValue_of_readNumber (readNumber_write style.layout x hrest _) _ _
  | str s =>
    refine ReadsBack.of_step fun fuel rest _ _ => ?_
    have hread := readText_writeText style s rest
    show readValue limits.digits limits.depth (fuel + 1) (writeText style s ++ rest) = .ok (.str s, rest)
    rw [writeText, List.cons_append, List.cons_append] at hread ⊢
    simp only [readValue, hread, bind, Except.bind]
    rfl
  | @arr xs items ih =>
    obtain ⟨hroom, hitems⟩ := Limits.deeper_le hdemand
    refine ReadsBack.of_step fun fuel rest hfuel _ => ?_
    cases xs with
    | nil => simp [spread, readValue, hroom, skipBlank]
    | cons x xs =>
      rw [spread, newline] at hfuel
      simp only [List.length_append, List.length_cons] at hfuel
      have hread : ∀ y ∈ x :: xs, ReadsBack style ⟨limits.depth - 1, limits.digits⟩ (level + 1) y :=
        fun y hy => ih y hy (demand_le_of_mem hitems y hy) (level + 1)
      have hxs := readItems_spread hread fuel rest (by omega)
      have hbegins := (valueBegins_spread style (level + 1) x).append (spreadItems style level xs ++ rest)
      have hopen : skipBlank (newline (level + 1) ++ (x.spread style (level + 1) ++
          (spreadItems style level xs ++ rest))) =
          x.spread style (level + 1) ++ (spreadItems style level xs ++ rest) := by
        rw [skipBlank_newline]
        exact hbegins.skipBlank
      have hitem : ∀ r, x.spread style (level + 1) ++ (spreadItems style level xs ++ rest) = ']' :: r →
          False := by
        obtain ⟨c, r, hc, -, hother⟩ := hbegins
        intro r' hr
        rw [hc] at hr
        exact hother (by rw [(List.cons.inj hr).1]; decide)
      simp only [spread, List.append_assoc, List.cons_append]
      exact readValue_bracket hroom hopen hitem hxs
  | @obj ms keys members ih =>
    obtain ⟨hroom, hmembers⟩ := Limits.deeper_le hdemand
    refine ReadsBack.of_step fun fuel rest hfuel _ => ?_
    cases ms with
    | nil => simp [spread, readValue, hroom, skipBlank]
    | cons m ms =>
      rw [spread, newline] at hfuel
      simp only [List.length_append, List.length_cons] at hfuel
      have hread : ∀ e ∈ (m.1, m.2) :: ms,
          ReadsBack style ⟨limits.depth - 1, limits.digits⟩ (level + 1) e.2 :=
        fun e he => ih e he (demand_le_of_mem_members hmembers e he) (level + 1)
      have hms := readMembers_spread hread fuel rest (by omega)
      have hopen : skipBlank (newline (level + 1) ++ (writeText style m.1 ++ ':' :: ' ' ::
          (m.2.spread style (level + 1) ++ (spreadMembers style level ms ++ rest)))) =
          writeText style m.1 ++ ':' :: ' ' ::
            (m.2.spread style (level + 1) ++ (spreadMembers style level ms ++ rest)) := by
        rw [skipBlank_newline]
        exact skipBlank_cons rfl _
      have hmember : ∀ r, writeText style m.1 ++ ':' :: ' ' ::
          (m.2.spread style (level + 1) ++ (spreadMembers style level ms ++ rest)) = '\x7d' :: r →
          False := by
        intro r hr
        exact absurd (List.cons.inj hr).1 (by decide)
      have hvalue := readValue_brace hroom hopen hmember hms
      rw [lastWins_of_nodup keys] at hvalue
      simp only [spread, List.append_assoc, List.cons_append]
      exact hvalue

/-- A value that is spread over the lines of a file is read back from the file. -/
theorem readWithin_spread {v : Json} (hv : v.Distinct) (style : Style) {limits : Limits}
    (hdemand : v.demand ≤ limits) : readWithin limits (v.spread style 0 ++ ['\n']) = .ok v := by
  have hbegins := (valueBegins_spread style 0 v).append ['\n']
  have hends : NumberEnds ['\n'] := numberEnds_newline 0 []
  have hback : ReadsBack style limits 0 v := readsBack_of_distinct hv hdemand 0
  have hread := hback (2 * (v.spread style 0 ++ ['\n']).length + 1) ['\n']
    (by rw [List.length_append]; omega) hends
  rw [readWithin]
  · rw [hbegins.skipBlank, hread]
    rfl
  · obtain ⟨c, r, hc, -, hother⟩ := hbegins
    intro r' hr
    rw [hc] at hr
    exact hother (by rw [(List.cons.inj hr).1]; decide)

end Json
end ApiCompiler
