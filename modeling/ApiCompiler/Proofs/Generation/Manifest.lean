import ApiCompiler.Generation.Manifest
import ApiCompiler.Proofs.Outcomes

/-!
# Manifests of operations that are spelled

The manifest of an operation is made part by part, and it is not made if the type of one of the
shapes cannot be spelled.  `Manifest.exists_operation` is the other half: where all of them are
spelled, as the texts of a function, the manifest is made, and it has these texts.
-/

namespace ApiCompiler

namespace Operation

variable {params : List Param}

theorem mem_of_lastOfName {n : String} {p : Param} (h : lastOfName n params = some p) :
    p ∈ params ∧ p.name = n := by
  have hname := List.find?_some h
  rw [decide_eq_true_eq] at hname
  exact ⟨List.mem_reverse.mp (List.mem_of_find?_eq_some h), hname⟩

/-- The parameters in the order of a call are path parameters. -/
theorem mem_pathParams_of_mem_ordered {op : Operation} {p : Param}
    (h : p ∈ op.orderedPathParams) : p ∈ op.pathParams := by
  rcases List.mem_append.mp h with h | h
  · obtain ⟨n, -, hn⟩ := List.mem_filterMap.mp h
    exact (mem_of_lastOfName hn).1
  · exact (List.mem_filter.mp h).1

end Operation

namespace Manifest

variable {t : Target} {type : Shape → Except Breakdown String} {text : Shape → String}

theorem types_eq {shapes : List (String × Shape)}
    (h : ∀ e ∈ shapes, type e.2 = .ok (text e.2)) :
    types type shapes = .ok (shapes.map fun e => (e.1, .str (text e.2))) := by
  induction shapes with
  | nil => rfl
  | cons e shapes ih =>
    rw [List.forall_mem_cons] at h
    rw [types, h.1, ih h.2]
    rfl

theorem typesByName_eq {shapes : List (String × Shape)}
    (h : ∀ e ∈ shapes, type e.2 = .ok (text e.2)) :
    typesByName type shapes =
      .ok (.obj (lastWins (shapes.map fun e => (e.1, .str (text e.2))))) := by
  rw [typesByName, types_eq h]
  rfl

theorem params_eq {ps : List Param} (h : ∀ p ∈ ps, type p.shape = .ok (text p.shape)) :
    params type ps = .ok (.obj (lastWins (ps.map fun p => (p.name, .str (text p.shape))))) := by
  have hshapes : ∀ e ∈ ps.map fun p => (p.name, p.shape), type e.2 = .ok (text e.2) :=
    List.forall_mem_map.mpr h
  rw [params, typesByName_eq hshapes, List.map_map]
  rfl

theorem exists_response {r : Response} (h : ∀ s ∈ r.shape, ∃ text, type s = .ok text) :
    ∃ answer, response t type r = .ok answer := by
  unfold response
  split
  · exact ⟨_, rfl⟩
  · split
    · exact ⟨_, rfl⟩
    · case h_2 s hs =>
      obtain ⟨text, htext⟩ := h s hs
      rw [htext]
      exact ⟨_, rfl⟩

theorem exists_requestBody {body : Option Body}
    (h : ∀ b ∈ body, ∃ text, type b.shape = .ok text) :
    ∃ sent, requestBody type body = .ok sent := by
  cases body with
  | none => exact ⟨_, rfl⟩
  | some b =>
    obtain ⟨text, htext⟩ := h b rfl
    rw [requestBody, htext]
    exact ⟨_, rfl⟩

/-- The manifest of an operation is made if the types of its shapes are spelled. -/
theorem exists_operation {op : Operation} (name : String)
    (h : ∀ s ∈ op.shapes, type s = .ok (text s)) :
    ∃ queryParams body answer, operation t type name op = .ok (.obj
      [("methodName", .str (t.methodName name)), ("method", .str op.method), ("path", .str op.path),
        ("pathParams", .obj (lastWins
          (op.orderedPathParams.map fun p => (p.name, .str (text p.shape))))),
        ("queryParams", queryParams), ("requestBody", body), ("response", answer)]) := by
  simp only [Operation.shapes, List.forall_mem_append, List.forall_mem_map] at h
  obtain ⟨⟨⟨hpath, hquery⟩, hbody⟩, hresponse⟩ := h
  have hordered : ∀ p ∈ op.orderedPathParams, type p.shape = .ok (text p.shape) :=
    fun p hp => hpath p (Operation.mem_pathParams_of_mem_ordered hp)
  have hasked : ∃ asked, params type op.queryParams = .ok asked := ⟨_, params_eq hquery⟩
  have hsent : ∃ sent, requestBody type op.requestBody = .ok sent := by
    refine exists_requestBody fun b hb => ⟨_, hbody b.shape ?_⟩
    exact Option.mem_toList.mpr (Option.mem_map_of_mem _ hb)
  have hanswer : ∃ answer, response t type op.response = .ok answer :=
    exists_response fun s hs => ⟨_, hresponse s (Option.mem_toList.mpr hs)⟩
  obtain ⟨asked, hasked⟩ := hasked
  obtain ⟨sent, hsent⟩ := hsent
  obtain ⟨answer, hanswer⟩ := hanswer
  refine ⟨asked, sent, answer, ?_⟩
  rw [operation, hanswer, params_eq hordered, hasked, hsent]
  rfl

end Manifest
end ApiCompiler
