import ApiCompiler.Proofs.Hoisting.Enumerations
import ApiCompiler.Proofs.Json.Values
import ApiCompiler.Proofs.Target.Approximation
import Mathlib

/-!
# The literals of Python

Python spells an enumeration as a literal type if the kind that is recorded for its values is that
of texts.  The kind is read off the declared type, or off the first value where no scalar type is
declared (`Keywords.SaysString`); the values themselves are spelled as JSON.  So the literal is made
of quoted texts only if the recorded kind is the one that all values share.

`python_literals` says that this is exactly the condition, for every enumeration that compiling a
schema makes: the literal then lists the declared values, an item is quoted if and only if its value
is a text (`Json.quoted_text_iff`), and all of them are if and only if the values share the recorded
kind.  An enumeration of a text and a truth value shows that they need not.
-/

namespace ApiCompiler

/-! ## What is quoted -/

namespace Json

/-- The spelling of a text. -/
def Quoted (spelling : String) : Prop := ∃ s, spelling = (Json.str s).text

theorem head?_writeText (style : Style) (s : String) : (writeText style s).head? = some '"' := by
  rw [writeText, List.cons_append, List.head?_cons]

/-- A number is not quoted. -/
theorem head?_ne_quote_of_readNumber {digits : Nat} {cs : List Char} {p : Json × List Char}
    (h : readNumber digits cs = .ok p) : cs.head? ≠ some '"' := by
  obtain ⟨c, hc, hnumber⟩ := head?_of_readNumber h
  intro hquote
  rw [Option.mem_def.mp hc] at hquote
  obtain rfl := Option.some.inj hquote
  exact absurd hnumber (by decide)

/-- Only the spelling of a text begins with a quote. -/
theorem head?_line_eq_quote_iff (style : Style) (v : Json) :
    (v.line style).head? = some '"' ↔ ∃ s, v = .str s := by
  have hends : NumberEnds [] := by
    intro c hc
    cases hc
  cases v with
  | null => simp [line, writeScalar]
  | bool b => cases b <;> simp [line, writeScalar]
  | int n =>
    have hread := readNumber_writeInt (n := n) hends (Nat.le_refl _)
    rw [List.append_nil] at hread
    simpa [line, writeScalar] using head?_ne_quote_of_readNumber hread
  | float x =>
    have hread := readNumber_write style.layout x hends 0
    rw [List.append_nil] at hread
    simpa [line, writeScalar] using head?_ne_quote_of_readNumber hread
  | str s => simp [line, writeScalar, head?_writeText]
  | arr xs => cases xs <;> simp [line]
  | obj ms => cases ms <;> simp [line]

/-- Only texts are spelled as texts are. -/
theorem quoted_text_iff (v : Json) : Quoted v.text ↔ ∃ s, v = .str s := by
  constructor
  · rintro ⟨s, hs⟩
    rw [← head?_line_eq_quote_iff .ascii, String.ofList_injective hs]
    exact (head?_line_eq_quote_iff .ascii (.str s)).mpr ⟨s, rfl⟩
  · rintro ⟨s, rfl⟩
    exact ⟨s, rfl⟩

end Json

namespace Value

/-- The value is a text. -/
def IsText (v : Value) : Prop := ∃ s, v = .scalar (.text s)

end Value

namespace Schema

open Value (IsText)

/-- Only texts are of the kind of texts. -/
theorem literalKind_eq_string_iff (v : Value) :
    literalKind v = .scalar .string ↔ v.IsText := by
  constructor
  · intro h
    unfold literalKind at h
    split at h
    · cases h
    · cases h
    · cases h
    · case h_4 s => exact ⟨s, rfl⟩
    · cases h
  · rintro ⟨s, rfl⟩
    rfl

/-- A value that can be written becomes a text in JSON only if it is one: days and times, which
would, cannot be written. -/
theorem toJson_eq_str_iff {v : Value} {written : String} (h : literalText v = .ok written) :
    (∃ s, v.toJson = .str s) ↔ v.IsText := by
  constructor
  · rintro ⟨s, hs⟩
    cases v with
    | seq xs => cases hs
    | map es => cases hs
    | scalar x =>
      cases x with
      | text s => exact ⟨s, rfl⟩
      | null | bool b | int n | float x => cases hs
      | day d | moment m | time t => cases h
  · rintro ⟨s, rfl⟩
    exact ⟨s, rfl⟩

/-- The first scalar type that is declared is that of texts, or none is and the first value is a
text. -/
def Keywords.SaysString (k : Keywords) : Prop :=
  k.types.findSome? scalarKind? = some .string ∨
    k.types.findSome? scalarKind? = none ∧ ∃ v ∈ k.values.head?, v.IsText

/-- The kind that is recorded is the one that all values share. -/
def Keywords.SharesKind (k : Keywords) : Prop :=
  ∀ v ∈ k.values, literalKind v = baseKind k k.values

theorem baseKind_eq_string_iff (k : Keywords) :
    baseKind k k.values = .scalar .string ↔ k.SaysString := by
  rw [baseKind, Keywords.SaysString]
  cases k.types.findSome? scalarKind? with
  | some kind => simp
  | none =>
    cases k.values.head? with
    | none => simp
    | some v => simp [literalKind_eq_string_iff]

end Schema

/-! ## Enumerations in Python -/

namespace Target

open Schema (Enumerates)

/-- A literal in the type of an enumeration is that type, null apart. -/
theorem literal_within_project_enum_iff {t : Target} {known : Option (List String)} {u : Traits}
    {l : Literals} {vs : List Value} :
    (TypeExpr.literal vs).Within (t.project known (.enum u l)) ↔
      t.projectEnum l = .literal vs := by
  constructor
  · intro h
    rcases within_project h with heq | hbase
    · cases heq
    · rcases TypeExpr.within_iff.mp hbase with heq | ⟨c, hc, -⟩
      · exact heq.symm
      · rw [(TypeExpr.of_isAtom (isAtom_projectBase_enum u l)).1] at hc
        cases hc
  · intro h
    have hproject : t.project known (.enum u l) = orNullIf u (t.projectEnum l) := project_eq _
    rw [hproject, h, orNullIf, TypeExpr.orNull]
    split
    · exact .child (List.mem_singleton_self _) (.refl _)
    · exact .refl _

/-- **The literals of Python.**  For an enumeration that compiling a schema makes, wherever that
stands and whatever is registered, let `k` be the keywords that declare it.  Its Python type is a
literal exactly if there are values and the recorded kind is that of texts.  The literal lists the
values; those are spelled between quotes which are texts; and all of them are texts exactly if the
values share the recorded kind. -/
theorem python_literals {s : Schema} {owner property : String} {isItem : Bool}
    {before : BuildState} {a : Shape} {u : Traits} {l : Literals}
    (hmakes : Build.Makes (s.compile owner property isItem) before a)
    (hwithin : (Shape.enum u l).Within a) :
    ∃ k c, (Schema.inline k c).Occurs s ∧ k.form c = .literals ∧ l.raw = k.values ∧
      ∀ known vs,
        ((TypeExpr.literal vs).Within (python.project known (.enum u l)) ↔
          vs = k.values ∧ k.values ≠ [] ∧ k.SaysString) ∧
        ((TypeExpr.literal vs).Within (python.project known (.enum u l)) →
          python.render (.literal vs) =
              .ok ("Literal[" ++ ", ".intercalate (vs.map fun v => v.toJson.text) ++ "]") ∧
            (∀ v ∈ vs, Json.Quoted v.toJson.text ↔ v.IsText) ∧
            ((∀ v ∈ vs, v.IsText) ↔ k.SharesKind)) := by
  obtain ⟨k, c, hocc, hform, htexts, hraw, hbase⟩ :=
    Schema.enumeratesAll_of_makes hmakes u l hwithin
  obtain ⟨hlength, hwritten⟩ := Value.length_of_literalTexts htexts
  refine ⟨k, c, hocc, hform, hraw, fun known vs => ?_⟩
  have hliteral : (TypeExpr.literal vs).Within (python.project known (.enum u l)) ↔
      vs = k.values ∧ k.values ≠ [] ∧ k.SaysString := by
    have hempty : l.values = [] ↔ k.values = [] := by
      rw [← List.length_eq_zero_iff, hlength, List.length_eq_zero_iff]
    have hwrites : python.writesLiterals l = true ↔ k.SaysString := by
      rw [← Schema.baseKind_eq_string_iff, ← hbase]
      simp [writesLiterals, python]
    rw [literal_within_project_enum_iff, projectEnum_eq_literal_iff, hwrites, hraw, Ne, hempty]
    constructor
    · rintro ⟨hne, hstring, hvs⟩
      rw [if_neg (by simpa using hne)] at hvs
      exact ⟨hvs, hne, hstring⟩
    · rintro ⟨rfl, hne, hstring⟩
      exact ⟨hne, hstring, by rw [if_neg (by simpa using hne)]⟩
  refine ⟨hliteral, fun h => ?_⟩
  obtain ⟨rfl, -, hstring⟩ := hliteral.mp h
  have hwritable : ∀ v ∈ k.values, v.Writable := Value.writable_of_literalTexts htexts
  refine ⟨render_literal hwritable, fun v hv => ?_, ?_⟩
  · obtain ⟨written, hv⟩ := hwritten v hv
    rw [Json.quoted_text_iff, Schema.toJson_eq_str_iff hv]
  · rw [Schema.Keywords.SharesKind, (Schema.baseKind_eq_string_iff k).mpr hstring]
    exact forall₂_congr fun v _ => (Schema.literalKind_eq_string_iff v).symm

namespace Players

open Schema

/-- A mode that is chosen automatically or just on. -/
def mode : Schema :=
  .inline { Keywords.blank with enum := some [.scalar (.text "auto"), .scalar (.bool true)] }
    .blank

/-- What it is compiled to, in place. -/
def modeLiterals : Literals :=
  ⟨["auto", "true"], [.scalar (.text "auto"), .scalar (.bool true)], .scalar .string⟩

theorem mode_makes :
    Build.Makes (mode.compile "Mode" "" false) (Build.start false) (.enum .none modeLiterals) :=
  Or.inl (by cbv)

/-- Its literal in Python contains a value that is no text, spelled as JSON. -/
theorem mode_unquoted :
    ¬ (∀ (s : Schema) owner property isItem before a,
        Build.Makes (s.compile owner property isItem) before a →
          ∀ u l, (Shape.enum u l).Within a → ∀ known vs,
            (TypeExpr.literal vs).Within (python.project known (.enum u l)) →
              ∀ v ∈ vs, v.IsText ∧ Json.Quoted v.toJson.text) ∧
      python.typeText none (.enum .none modeLiterals) = .ok "Literal[\"auto\", true]" := by
  refine ⟨fun h => ?_, by cbv⟩
  have hliteral : (TypeExpr.literal modeLiterals.raw).Within
      (python.project none (.enum .none modeLiterals)) := .refl _
  obtain ⟨⟨s, hs⟩, -⟩ := h _ _ _ _ _ _ mode_makes _ _ (.refl _) none _ hliteral
    (.scalar (.bool true)) (List.mem_cons_of_mem _ (List.mem_singleton_self _))
  cases hs

/-- It is declared by keywords whose values do not share the kind that is recorded. -/
theorem mode_literal :
    Build.Makes (mode.compile "Mode" "" false) (Build.start false) (.enum .none modeLiterals) ∧
      ∃ k c, (Schema.inline k c).Occurs mode ∧ k.SaysString ∧ ¬ k.SharesKind := by
  have hliteral : (TypeExpr.literal modeLiterals.raw).Within
      (python.project none (.enum .none modeLiterals)) := .refl _
  obtain ⟨k, c, hocc, -, -, hpython⟩ := python_literals mode_makes (.refl _)
  obtain ⟨hiff, hitems⟩ := hpython none modeLiterals.raw
  refine ⟨mode_makes, k, c, hocc, (hiff.mp hliteral).2.2, fun hshares => ?_⟩
  obtain ⟨s, hs⟩ := (hitems hliteral).2.2.mpr hshares (.scalar (.bool true))
    (List.mem_cons_of_mem _ (List.mem_singleton_self _))
  cases hs

end Players
end Target
end ApiCompiler
