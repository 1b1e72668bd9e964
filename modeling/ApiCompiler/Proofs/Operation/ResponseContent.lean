import ApiCompiler.Operation.Compile

/-!
# The content that describes a response

A response may declare contents of several media types, of which one describes the answer
(`Describes`).  Under the code 204 none does.  So compiling a response is one of two things, and
whatever is said of it needs no more than the cases of `empty_or_described`, each of which has its
equation.
-/

namespace ApiCompiler
namespace Document

open Schema (compileOptional)

/-- Of the entries of a content map the one that describes the answer: the first one whose media
type is JSON, or the first one if there is none. -/
inductive Describes {α : Type} (content : List (String × α)) (e : String × α) : Prop
  | json {front rest : List (String × α)} (split : content = front ++ e :: rest)
      (isJson : MediaType.isJson e.1 = true) (first : ∀ f ∈ front, ¬ MediaType.isJson f.1 = true)
  | other {rest : List (String × α)} (split : content = e :: rest)
      (none : ∀ f ∈ content, ¬ MediaType.isJson f.1 = true)

theorem describes_iff {α : Type} {content : List (String × α)} {e : String × α} :
    (content.find? fun e => MediaType.isJson e.1).or content.head? = some e ↔
      Describes content e := by
  rw [Option.or_eq_some_iff, List.find?_eq_some_iff_append, List.find?_eq_none,
    List.head?_eq_some_iff]
  simp only [Bool.not_eq_true']
  constructor
  · rintro (⟨hjson, front, rest, hsplit, hfirst⟩ | ⟨hnone, rest, hsplit⟩)
    · exact .json hsplit hjson fun f hf => by simp [hfirst f hf]
    · exact .other hsplit hnone
  · rintro (⟨hsplit, hjson, hfirst⟩ | ⟨hsplit, hnone⟩)
    · exact Or.inl ⟨hjson, _, _, hsplit, fun f hf => by simpa using hfirst f hf⟩
    · exact Or.inr ⟨hnone, _, hsplit⟩

theorem Describes.mem {α : Type} {content : List (String × α)} {e : String × α}
    (h : Describes content e) : e ∈ content := by
  rcases h with ⟨hsplit, -, -⟩ | ⟨hsplit, -⟩
  · rw [hsplit]
    exact List.mem_append_right _ List.mem_cons_self
  · rw [hsplit]
    exact List.mem_cons_self

theorem exists_describes {α : Type} {content : List (String × α)} (h : content ≠ []) :
    ∃ e, Describes content e := by
  obtain ⟨e, rest, rfl⟩ := List.exists_cons_of_ne_nil h
  cases hfind : ((e :: rest).find? fun e => MediaType.isJson e.1) with
  | none => exact ⟨e, describes_iff.mp (by rw [hfind]; rfl)⟩
  | some f => exact ⟨f, describes_iff.mp (by rw [hfind]; rfl)⟩

variable {code baseName contentType : String} {r : Response} {media : MediaType}

theorem compileResponseOf_empty (h : code = "204" ∨ r.content.getD [] = []) :
    compileResponseOf code baseName r = pure (.empty code r.description) := by
  rw [compileResponseOf]
  split
  · rfl
  · case isFalse hcode =>
    rw [h.resolve_left hcode]
    rfl

theorem compileResponseOf_described (hcode : code ≠ "204")
    (h : Describes (r.content.getD []) (contentType, media)) :
    compileResponseOf code baseName r = (do
      let shape ← compileOptional media.schema (baseName ++ "Response") "" false
      pure ⟨.content, some shape, r.description, some contentType, some code⟩) := by
  rw [compileResponseOf, if_neg hcode, describes_iff.mpr h]

/-- A response is empty, or one of its contents describes it. -/
theorem empty_or_described (code : String) (r : Response) :
    (code = "204" ∨ r.content.getD [] = []) ∨
      code ≠ "204" ∧ ∃ contentType media, Describes (r.content.getD []) (contentType, media) := by
  by_cases hcode : code = "204"
  · exact Or.inl (Or.inl hcode)
  · by_cases hcontent : r.content.getD [] = []
    · exact Or.inl (Or.inr hcontent)
    · obtain ⟨⟨contentType, media⟩, h⟩ := exists_describes hcontent
      exact Or.inr ⟨hcode, contentType, media, h⟩

end Document
end ApiCompiler
