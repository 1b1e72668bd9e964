import ApiCompiler.Proofs.Hoisting.Equations
import ApiCompiler.Proofs.Reference.Chains

/-!
# Names in references

A reference spells the name of a component as one segment of a path, so a tilde and a slash in the
name have to be written as something else.  This file says that no name is lost on the way: the
segment that stands for a name is read back as that name, whatever slashes, tildes and texts that
look like escapes it has.

Escaping can be thought of as two replacements, first of all tildes and then of all slashes
(`escape_eq`), and undoing it as two replacements in the opposite order (`unescape_eq`).  Both are
defined in one pass, which makes the round trip an induction over the name.

A name is read in two places, as the last segment of a reference to a schema and as what comes
behind the path of a section.  `name_survives` is the statement about both.
-/

namespace ApiCompiler
namespace Reference

/-! ## Escaping -/

/-- A text for every occurrence of a character. -/
def respell (a : Char) (text : List Char) (cs : List Char) : List Char :=
  cs.flatMap fun c => if c = a then text else [c]

/-- A character for every occurrence of a text of two characters, found from the left. -/
def contract (a b c : Char) : List Char → List Char
  | [] => []
  | [x] => [x]
  | x :: y :: cs => if x = a ∧ y = b then c :: contract a b c cs else x :: contract a b c (y :: cs)

/-- The segment that stands for a name: every tilde is written `~0`, and then every slash `~1`. -/
def segment (n : String) : String :=
  String.ofList (respell '/' ['~', '1'] (respell '~' ['~', '0'] n.toList))

/-- Escaping in one pass is replacing the tildes first and then the slashes. -/
theorem escape_eq (cs : List Char) :
    escape cs = respell '/' ['~', '1'] (respell '~' ['~', '0'] cs) := by
  induction cs with
  | nil => rfl
  | cons c cs ih =>
    rw [escape, ih]
    by_cases htilde : c = '~'
    · subst htilde
      rfl
    · by_cases hslash : c = '/'
      · subst hslash
        rfl
      · simp [respell, htilde, hslash]

theorem toList_segment (n : String) : (segment n).toList = escape n.toList := by
  rw [segment, String.toList_ofList, escape_eq]

theorem unescape_cons {c : Char} (h : c ≠ '~') (cs : List Char) :
    unescape (c :: cs) = c :: unescape cs := by
  rw [unescape]
  · rintro cs' rfl
    exact absurd rfl h
  · rintro cs' rfl
    exact absurd rfl h

/-- Escapes are undone exactly. -/
theorem unescape_escape (cs : List Char) : unescape (escape cs) = cs := by
  induction cs with
  | nil => rfl
  | cons c cs ih =>
    rw [escape]
    by_cases htilde : c = '~'
    · rw [if_pos htilde, unescape, ih, htilde]
    · by_cases hslash : c = '/'
      · rw [if_neg htilde, if_pos hslash, unescape, ih, hslash]
      · rw [if_neg htilde, if_neg hslash, unescape_cons htilde, ih]

/-- Where a text of two characters does not begin, the first character stays. -/
theorem contract_cons {a b c x : Char} {cs : List Char} (h : x = a → cs.head? ≠ some b) :
    contract a b c (x :: cs) = x :: contract a b c cs := by
  cases cs with
  | nil => rfl
  | cons y cs =>
    rw [contract, if_neg]
    rintro ⟨hx, rfl⟩
    exact h hx rfl

/-- What a replacement begins with was there or has been put in. -/
theorem head?_contract {a b c z : Char} {cs : List Char} (h : (contract a b c cs).head? = some z) :
    z = c ∨ cs.head? = some z := by
  match cs with
  | [] => cases h
  | [x] => exact Or.inr h
  | x :: y :: cs =>
    rw [contract] at h
    split at h
    · exact Or.inl (Option.some.inj h).symm
    · exact Or.inr h

/-- Undoing escapes in one pass is replacing `~1` everywhere and then `~0`: a slash that is put in
makes no new escape with what stands around it. -/
theorem unescape_eq (cs : List Char) :
    unescape cs = contract '~' '0' '~' (contract '~' '1' '/' cs) := by
  induction cs using unescape.induct with
  | case1 cs ih =>
    have hslash : '/' = '~' → (contract '~' '1' '/' cs).head? ≠ some '0' :=
      fun h => absurd h (by decide)
    rw [unescape, ih, contract, if_pos ⟨rfl, rfl⟩, contract_cons hslash]
  | case2 cs ih =>
    have hzero : '0' = '~' → cs.head? ≠ some '1' := fun h => absurd h (by decide)
    rw [unescape, ih, contract, if_neg (by decide), contract_cons hzero, contract,
      if_pos ⟨rfl, rfl⟩]
  | case3 c cs hslash htilde ih =>
    have hone : c = '~' → cs.head? ≠ some '1' := by
      rintro hc hhead
      obtain ⟨cs', rfl⟩ := List.head?_eq_some_iff.mp hhead
      exact hslash cs' hc rfl
    have hzero : c = '~' → (contract '~' '1' '/' cs).head? ≠ some '0' := by
      intro hc hhead
      rcases head?_contract hhead with h | hhead
      · exact absurd h (by decide)
      · obtain ⟨cs', rfl⟩ := List.head?_eq_some_iff.mp hhead
        exact htilde cs' hc rfl
    rw [unescape, ih, contract_cons hone, contract_cons hzero]
    · exact hslash
    · exact htilde
  | case4 => rfl

/-- A segment has no slash. -/
theorem slash_notMem_escape (cs : List Char) : '/' ∉ escape cs := by
  induction cs with
  | nil => exact List.not_mem_nil
  | cons c cs ih =>
    rw [escape]
    by_cases htilde : c = '~'
    · rw [if_pos htilde]
      simpa using ih
    · by_cases hslash : c = '/'
      · rw [if_neg htilde, if_pos hslash]
        simpa using ih
      · rw [if_neg htilde, if_neg hslash, List.mem_cons, not_or]
        exact ⟨Ne.symm hslash, ih⟩

/-! ## Reading a segment -/

/-- The last segment is what comes behind the last slash. -/
theorem lastSegment_append {front last : List Char} (h : '/' ∉ last) :
    lastSegment (front ++ '/' :: last) = last := by
  induction front with
  | nil => simp [lastSegment, h]
  | cons c front ih => simp [lastSegment, ih]

/-- A name that is written as a segment is read back from a reference to a schema. -/
theorem nameOf_segment (n : String) : nameOf ("#/components/schemas/" ++ segment n) = n := by
  have hpath : "#/components/schemas/".toList = "#/components/schemas".toList ++ ['/'] := by decide
  have htarget : ("#/components/schemas/" ++ segment n).toList =
      "#/components/schemas".toList ++ '/' :: escape n.toList := by
    rw [String.toList_append, toList_segment, hpath, List.append_assoc, List.singleton_append]
  rw [nameOf, htarget, lastSegment_append (slash_notMem_escape _), unescape_escape,
    String.ofList_toList]

end Reference

/-- A name that is written as a segment behind the path of a section is looked up in it. -/
theorem Section.find_segment {α : Type} (s : Section α) (n : String) :
    s.find ("#/components/" ++ s.name ++ "/" ++ Reference.segment n) =
      match lookup? n s.entries with
      | some entry => .ok entry
      | none => .error (.missing n s.available) := by
  have htarget : ("#/components/" ++ s.name ++ "/" ++ Reference.segment n).toList =
      s.path.toList ++ Reference.escape n.toList := by
    rw [String.toList_append, Reference.toList_segment]
    rfl
  rewrite [find_behind_path htarget, Reference.unescape_escape, String.ofList_toList]
  rfl

/-- **Names survive escaping.**  A reference whose last segment stands for a name is a reference to
that name.  A schema that refers so to a component is compiled to the reference of its name, and
every section has the entry of that name under the reference, exactly if there is one. -/
theorem name_survives (n : String) (hn : n ≠ "") :
    Reference.nameOf ("#/components/schemas/" ++ Reference.segment n) = n ∧
      (∀ (r : Reference) (owner property : String) (isItem : Bool) (before : BuildState),
        r.target = "#/components/schemas/" ++ Reference.segment n →
          ((Schema.reference r).compile owner property isItem).Returns before (.ref .none n)
            before) ∧
      ∀ (α : Type) (s : Section α),
        (∀ entry, s.find ("#/components/" ++ s.name ++ "/" ++ Reference.segment n) = .ok entry ↔
          lookup? n s.entries = some entry) ∧
        ((∃ entry, s.find ("#/components/" ++ s.name ++ "/" ++ Reference.segment n) = .ok entry) ↔
          n ∈ s.entries.map (·.1)) := by
  refine ⟨Reference.nameOf_segment n, fun r owner property isItem before htarget => ?_,
    fun α s => ?_⟩
  · have hname : r.name = n := by rw [Reference.name, htarget, Reference.nameOf_segment]
    rw [Schema.compile_reference, Schema.compileReference, hname,
      if_neg fun hempty => hn (String.isEmpty_iff.mp hempty)]
    exact Build.pure_returns.mpr ⟨rfl, rfl⟩
  · rw [s.find_segment n]
    cases hlookup : lookup? n s.entries with
    | some entry =>
      have hmem : n ∈ s.entries.map (·.1) := List.mem_map.mpr ⟨_, mem_of_lookup? hlookup, rfl⟩
      exact ⟨by simp, iff_of_true ⟨entry, rfl⟩ hmem⟩
    | none =>
      have hnone : n ∉ s.entries.map (·.1) := lookup?_eq_none.mp hlookup
      exact ⟨by simp, iff_of_false (by simp) hnone⟩

/-! ## Ratios -/

namespace Ratios

/-- A name with a slash, and a name in which the escape of a slash is spelled out. -/
def ratios : Section String :=
  ⟨"parameters", [("w/h", .inline "slash"), ("w~1h", .inline "escape")]⟩

/-- The spelled-out escape is written with an escape of its own, and keeps the names apart. -/
theorem escape_spelled_out :
    "w~1h" ≠ "" ∧ Reference.segment "w~1h" = "w~01h" ∧
      Reference.nameOf "#/components/schemas/w~01h" = "w~1h" ∧
      ratios.find "#/components/parameters/w~01h" = .ok (.inline "escape") := by
  have hne : "w~1h" ≠ "" := by decide
  obtain ⟨hname, -, hsections⟩ := name_survives "w~1h" hne
  exact ⟨hne, rfl, hname, ((hsections String ratios).1 (.inline "escape")).mpr rfl⟩

end Ratios
end ApiCompiler
