import ApiCompiler.Proofs.Operation.Meaning
import Mathlib

/-!
# The answer of an operation that succeeds

An operation declares responses under texts of any kind.  Those under 200, under 201 and under any
other code of success are tried in this order (`Outranks`), and the first one there is gives the
answer; the others are not looked at.  The answer is empty if its code is 204 or if it has no
content, and else it has the first content that is JSON, or the first one if none is (`Describes`).

`Selected` and `Describes` say this without the filtering, sorting and searching by which it is
computed.  `success_response_selected` puts them together for the whole step, failures included.
-/

namespace ApiCompiler
namespace Document

open Schema (compileOptional Represents)

/-! ## Codes of success -/

/-- The code is `2` with two digits or two letters `X` behind it, and maybe a line end. -/
def MatchesSuccess (code : String) : Prop :=
  ∃ a b rest, code.toList = '2' :: a :: b :: rest ∧ (rest = [] ∨ rest = ['\n']) ∧
    (Text.isDigit a = true ∧ Text.isDigit b = true ∨ a = 'X' ∧ b = 'X')

theorem isSuccessCode_iff {code : String} : isSuccessCode code = true ↔ MatchesSuccess code := by
  rw [isSuccessCode, MatchesSuccess]
  split
  · case h_1 a b rest hcode =>
    simp only [hcode, Bool.and_eq_true, Bool.or_eq_true, decide_eq_true_eq, List.cons.injEq,
      true_and]
    constructor
    · exact fun h => ⟨a, b, rest, ⟨rfl, rfl, rfl⟩, h⟩
    · rintro ⟨_, _, _, ⟨rfl, rfl, rfl⟩, h⟩
      exact h
  · case h_2 hcode =>
    refine iff_of_false Bool.false_ne_true ?_
    rintro ⟨a, b, rest, h, -⟩
    exact hcode a b rest h

/-- The response of the code is tried. -/
def Tried (code : String) : Prop := code = "200" ∨ code = "201" ∨ MatchesSuccess code

/-- The place of a code in the order in which codes are tried. -/
def rank (code : String) : Nat := if code = "200" then 0 else if code = "201" then 1 else 2

/-- One code is tried before the other: 200 before 201 before all others, and of two others the
lesser one. -/
def Outranks (a b : String) : Prop := rank a < rank b ∨ rank a = rank b ∧ a < b

theorem Outranks.asymm {a b : String} (h : Outranks a b) : ¬ Outranks b a := by
  rintro (hrank | ⟨hsame, hlt⟩)
  · rcases h with h | ⟨h, -⟩ <;> omega
  · rcases h with h | ⟨-, h⟩
    · omega
    · exact lt_asymm h hlt

/-- Of some codes the one whose response is selected. -/
structure Selected (codes : List String) (code : String) : Prop where
  declared : code ∈ codes
  tried : Tried code
  best : ∀ other ∈ codes, Tried other → other = code ∨ Outranks code other

theorem Selected.unique {codes : List String} {a b : String} (ha : Selected codes a)
    (hb : Selected codes b) : a = b := by
  rcases ha.best b hb.declared hb.tried with rfl | hab
  · rfl
  · rcases hb.best a ha.declared ha.tried with rfl | hba
    · rfl
    · exact absurd hba hab.asymm

/-- The codes that are computed are those that are tried. -/
theorem mem_successCodes_iff {codes : List String} {code : String} :
    code ∈ successCodes codes ↔ code ∈ codes ∧ Tried code := by
  have hpreferred : code ∈ preferredCodes ↔ code = "200" ∨ code = "201" := by
    simp [preferredCodes]
  simp only [successCodes, List.mem_append, List.mem_filter, List.mem_mergeSort,
    List.contains_iff_mem, Bool.and_eq_true, Bool.not_eq_true', ← Bool.not_eq_true,
    isSuccessCode_iff, Tried, hpreferred]
  tauto

theorem rank_lt_two_iff {code : String} : rank code < 2 ↔ code ∈ preferredCodes := by
  rw [rank]
  split
  · case isTrue h => simp [preferredCodes, h]
  · split
    · case isTrue h => simp [preferredCodes, h]
    · case isFalse h h' => simp [preferredCodes, h, h']

theorem rank_le_two (code : String) : rank code ≤ 2 := by
  rw [rank]
  split
  · omega
  · split <;> omega

/-- They come in the order in which they are tried. -/
theorem pairwise_successCodes (codes : List String) :
    (successCodes codes).Pairwise fun a b => b = a ∨ Outranks a b := by
  have hpreferred : preferredCodes.Pairwise fun a b => b = a ∨ Outranks a b := by
    simp [preferredCodes, Outranks, rank]
  have hlast : ∀ code ∈ (codes.filter fun c =>
      !preferredCodes.contains c && isSuccessCode c).mergeSort (· ≤ ·), rank code = 2 := by
    intro code hcode
    rw [List.mem_mergeSort, List.mem_filter, Bool.and_eq_true, Bool.not_eq_true',
      ← Bool.not_eq_true, List.contains_iff_mem, ← rank_lt_two_iff] at hcode
    exact le_antisymm (rank_le_two code) (not_lt.mp hcode.2.1)
  rw [successCodes, List.pairwise_append]
  refine ⟨hpreferred.filter _, ?_, fun a ha b hb => Or.inr (Or.inl ?_)⟩
  · refine (Sorting.pairwise_mergeSort id _).imp_of_mem fun {a b} ha hb hab => ?_
    rcases hab.eq_or_lt with heq | hlt
    · exact Or.inl heq.symm
    · exact Or.inr (Or.inr ⟨(hlast a ha).trans (hlast b hb).symm, hlt⟩)
  · rw [hlast b hb, rank_lt_two_iff]
    exact (List.mem_filter.mp ha).1

/-- The code that is tried first is the one that is selected. -/
theorem head?_successCodes_eq_some_iff {codes : List String} {code : String} :
    (successCodes codes).head? = some code ↔ Selected codes code := by
  have hforward : ∀ c, (successCodes codes).head? = some c → Selected codes c := by
    intro c hhead
    obtain ⟨rest, hcodes⟩ := List.head?_eq_some_iff.mp hhead
    have hpairwise := pairwise_successCodes codes
    have hmem : ∀ other, other ∈ successCodes codes ↔ other ∈ codes ∧ Tried other :=
      fun other => mem_successCodes_iff
    rw [hcodes] at hpairwise hmem
    obtain ⟨hdeclared, htried⟩ := (hmem c).mp List.mem_cons_self
    refine ⟨hdeclared, htried, fun other hother hothertried => ?_⟩
    rcases List.mem_cons.mp ((hmem other).mpr ⟨hother, hothertried⟩) with heq | hrest
    · exact Or.inl heq
    · exact List.rel_of_pairwise_cons hpairwise hrest
  refine ⟨hforward code, fun h => ?_⟩
  cases hhead : (successCodes codes).head? with
  | none =>
    rw [List.head?_eq_none_iff] at hhead
    have hmem := mem_successCodes_iff.mpr ⟨h.declared, h.tried⟩
    rw [hhead] at hmem
    cases hmem
  | some c => rw [(hforward c hhead).unique h]

theorem head?_successCodes_eq_none_iff {codes : List String} :
    (successCodes codes).head? = none ↔ ∀ code ∈ codes, ¬ Tried code := by
  rw [List.head?_eq_none_iff, List.eq_nil_iff_forall_not_mem]
  exact forall_congr' fun code => by rw [mem_successCodes_iff, not_and]

/-! ## One response -/

variable {code baseName : String} {r : Response} {before after : BuildState}
  {answer : ApiCompiler.Response} {e : CompileError}

/-- What the response of a code gives as the answer. -/
structure Gives (code baseName : String) (r : Response) (before : BuildState)
    (answer : ApiCompiler.Response) (after : BuildState) : Prop where
  statusCode : answer.statusCode = some code
  description : answer.description = r.description
  known : answer.kind ≠ .unknown
  /-- The answer is empty if its code says so, or if no content is declared. -/
  noContent : answer.kind = .noContent ↔ code = "204" ∨ r.content.getD [] = []
  /-- An empty answer has no shape, and nothing is compiled for it. -/
  empty : answer.kind = .noContent →
    answer.shape = none ∧ answer.contentType = none ∧ after = before
  /-- Any other answer has the shape that the schema of the describing content is compiled to. -/
  content : answer.kind = .content → ∃ contentType media shape,
    Describes (r.content.getD []) (contentType, media) ∧
      answer.contentType = some contentType ∧ answer.shape = some shape ∧
      (compileOptional media.schema (baseName ++ "Response") "" false).Returns before shape after ∧
      Represents after.registry media.schema false shape

theorem compileResponseOf_gives
    (h : (compileResponseOf code baseName r).Returns before answer after) :
    Gives code baseName r before answer after := by
  rcases empty_or_described code r with hempty | ⟨hcode, contentType, media, hdescribes⟩
  · rw [compileResponseOf_empty hempty] at h
    obtain ⟨rfl, rfl⟩ := Build.pure_returns.mp h
    exact ⟨rfl, rfl, nofun, iff_of_true rfl hempty, fun _ => ⟨rfl, rfl, rfl⟩, nofun⟩
  · rw [compileResponseOf_described hcode hdescribes, Build.bind_returns] at h
    obtain ⟨shape, u, hshape, hpure⟩ := h
    obtain ⟨rfl, rfl⟩ := Build.pure_returns.mp hpure
    have hcontent : ¬ (code = "204" ∨ r.content.getD [] = []) :=
      not_or.mpr ⟨hcode, List.ne_nil_of_mem hdescribes.mem⟩
    exact ⟨rfl, rfl, nofun, iff_of_false nofun hcontent, nofun, fun _ => ⟨contentType, media, shape,
      hdescribes, rfl, rfl, hshape, (Schema.compileOptional_sound hshape).2⟩⟩

/-- A response brings a build down only through the schema of the content that describes it. -/
theorem compileResponseOf_fails_iff :
    (compileResponseOf code baseName r).Fails before e after ↔
      code ≠ "204" ∧ ∃ contentType media, Describes (r.content.getD []) (contentType, media) ∧
        (compileOptional media.schema (baseName ++ "Response") "" false).Fails before e after := by
  constructor
  · intro h
    rcases empty_or_described code r with hempty | ⟨hcode, contentType, media, hdescribes⟩
    · rw [compileResponseOf_empty hempty] at h
      exact absurd h Build.not_pure_fails
    · rw [compileResponseOf_described hcode hdescribes, Build.bind_pure_fails] at h
      exact ⟨hcode, contentType, media, hdescribes, h⟩
  · rintro ⟨hcode, contentType, media, hdescribes, h⟩
    rw [compileResponseOf_described hcode hdescribes, Build.bind_pure_fails]
    exact h

/-! ## The response that is selected -/

variable {s : Section Response} {responses : List (String × OrReference Response)}

theorem compileResponse_untried (h : ∀ code ∈ responses.map (·.1), ¬ Tried code) :
    compileResponse s baseName responses = pure .undeclared := by
  rw [compileResponse, head?_successCodes_eq_none_iff.mpr h]

theorem compileResponse_selected {node : OrReference Response}
    (h : Selected (responses.map (·.1)) code) (hlookup : lookup? code responses = some node) :
    compileResponse s baseName responses = (do
      let r ← Build.lift (s.resolve node)
      compileResponseOf code baseName r) := by
  rw [compileResponse, head?_successCodes_eq_some_iff.mpr h]
  simp only [hlookup]

/-- No response is tried, or one is selected. -/
theorem untried_or_selected (responses : List (String × OrReference Response)) :
    (∀ code ∈ responses.map (·.1), ¬ Tried code) ∨
      ∃ code node, Selected (responses.map (·.1)) code ∧ lookup? code responses = some node := by
  cases hhead : (successCodes (responses.map (·.1))).head? with
  | none => exact Or.inl (head?_successCodes_eq_none_iff.mp hhead)
  | some code =>
    have hselected := head?_successCodes_eq_some_iff.mp hhead
    cases hlookup : lookup? code responses with
    | none => exact absurd hselected.declared (lookup?_eq_none.mp hlookup)
    | some node => exact Or.inr ⟨code, node, hselected, hlookup⟩

/-- **The response of success is selected by rank.**  Let an operation declare responses under any
texts.  The step that compiles its answer fails exactly if the selected response does not resolve,
or if compiling the schema of the content that describes it fails.  If it returns, nothing is known
of the answer exactly if no response is tried.  Otherwise the answer is what the selected response
gives: its code is the one that is tried first; it is empty, and nothing is compiled for it, exactly
if this code is 204 or the response has no content; and else it has the first JSON content, or the
first content if none is JSON. -/
theorem success_response_selected (s : Section Response) (baseName : String)
    (responses : List (String × OrReference Response)) (before : BuildState) :
    (∀ e after, (compileResponse s baseName responses).Fails before e after ↔
      ∃ code node, Selected (responses.map (·.1)) code ∧ lookup? code responses = some node ∧
        (s.resolve node = .error e ∧ after = before ∨
          ∃ r, s.resolve node = .ok r ∧ code ≠ "204" ∧
            ∃ contentType media, Describes (r.content.getD []) (contentType, media) ∧
              (compileOptional media.schema (baseName ++ "Response") "" false).Fails before e
                after)) ∧
    ∀ answer after, (compileResponse s baseName responses).Returns before answer after →
      (answer.kind = .unknown ↔ ∀ code ∈ responses.map (·.1), ¬ Tried code) ∧
      (answer.kind = .unknown → answer = .undeclared ∧ after = before) ∧
      (answer.kind ≠ .unknown → ∃ code node r, Selected (responses.map (·.1)) code ∧
        lookup? code responses = some node ∧ s.resolve node = .ok r ∧
          Gives code baseName r before answer after) := by
  rcases untried_or_selected responses with huntried | ⟨code, node, hselected, hlookup⟩
  · rw [compileResponse_untried huntried]
    refine ⟨fun e after => iff_of_false Build.not_pure_fails ?_, fun answer after h => ?_⟩
    · rintro ⟨code, -, hselected, -⟩
      exact huntried code hselected.declared hselected.tried
    · obtain ⟨rfl, rfl⟩ := Build.pure_returns.mp h
      exact ⟨iff_of_true rfl huntried, fun _ => ⟨rfl, rfl⟩, fun h => absurd rfl h⟩
  · rw [compileResponse_selected hselected hlookup]
    refine ⟨fun e after => ?_, fun answer after h => ?_⟩
    · simp only [Build.bind_fails, Build.lift_fails, Build.lift_returns,
        compileResponseOf_fails_iff]
      constructor
      · rintro (⟨hresolve, rfl⟩ | ⟨r, u, ⟨hresolve, rfl⟩, hfails⟩)
        · exact ⟨code, node, hselected, hlookup, Or.inl ⟨hresolve, rfl⟩⟩
        · exact ⟨code, node, hselected, hlookup, Or.inr ⟨r, hresolve, hfails⟩⟩
      · rintro ⟨code', node', hselected', hlookup', h⟩
        -- the selected response is the only one
        obtain rfl := hselected.unique hselected'
        obtain rfl := Option.some.inj (hlookup.symm.trans hlookup')
        refine h.imp_right ?_
        rintro ⟨r, hresolve, hfails⟩
        exact ⟨r, before, ⟨hresolve, rfl⟩, hfails⟩
    · rw [Build.bind_returns] at h
      obtain ⟨r, u, hlift, hreturns⟩ := h
      obtain ⟨hresolve, rfl⟩ := Build.lift_returns.mp hlift
      have hgives := compileResponseOf_gives hreturns
      have htried : ¬ ∀ code ∈ responses.map (·.1), ¬ Tried code :=
        fun h => h code hselected.declared hselected.tried
      exact ⟨iff_of_false hgives.known htried, fun h => absurd h hgives.known,
        fun _ => ⟨code, node, r, hselected, hlookup, hresolve, hgives⟩⟩

end Document

/-! ## An operation with several responses -/

namespace Reports

open Schema (typed listOf)

/-- A page, and what it shows as JSON. -/
def created : Document.Response :=
  ⟨some "Created",
    some [("text/html", ⟨some (typed .string), none, [], []⟩),
      ("Application/Problem+JSON; charset=utf-8", ⟨some (listOf (typed .integer)), none, [], []⟩)],
    [], []⟩

def components : Section Document.Response := ⟨"responses", [("created", .inline created)]⟩

/-- The code with a blank behind it is not one of success. -/
def responses : List (String × OrReference Document.Response) :=
  [("200 ", .inline ⟨none, none, [], []⟩), ("2XX", .inline ⟨none, none, [], []⟩),
    ("204", .inline ⟨none, none, [], []⟩), ("404", .inline ⟨none, none, [], []⟩),
    ("201", .reference ⟨"#/components/responses/created", none, none, []⟩)]

def answer : Response :=
  ⟨.content, some (.array .none (.scalar .none .integer)), some "Created",
    some "Application/Problem+JSON; charset=utf-8", some "201"⟩

theorem compileResponse_reports :
    (Document.compileResponse components "FileReport" responses).Returns (Build.start true) answer
      (Build.start true) := by
  unfold Build.Returns
  cbv

/-- The code 201 is selected, though two other codes of success stand before it, and of what it
refers to the JSON content. -/
theorem reports_selected :
    (Document.compileResponse components "FileReport" responses).Returns (Build.start true) answer
        (Build.start true) ∧
      Document.Selected (responses.map (·.1)) "201" ∧
      ∃ node r, lookup? "201" responses = some node ∧ components.resolve node = .ok r ∧
        Document.Gives "201" "FileReport" r (Build.start true) answer (Build.start true) := by
  refine ⟨compileResponse_reports, ?_⟩
  obtain ⟨-, hreturns⟩ :=
    Document.success_response_selected components "FileReport" responses (Build.start true)
  obtain ⟨-, -, hselects⟩ := hreturns _ _ compileResponse_reports
  obtain ⟨code, node, r, hselected, hlookup, hresolve, hgives⟩ := hselects nofun
  obtain rfl : "201" = code := Option.some.inj hgives.statusCode
  exact ⟨hselected, node, r, hlookup, hresolve, hgives⟩

end Reports
end ApiCompiler
