import ApiCompiler.Proofs.Document.Contents
import ApiCompiler.Proofs.Hoisting.Soundness
import ApiCompiler.Proofs.Operation.ResponseContent

/-!
# What the shapes of operations mean

Parameters, bodies and responses are compiled in place, each under a name of its own.  So every
shape an operation ends up with stands for a schema that the document writes, or for no schema at
all, and what compiling it adds to the registry is hoisted out of such schemas.  This is
`Document.compileOperations_returns`; the lemmas before it go through the parts of an operation.
-/

namespace ApiCompiler
namespace Document

open Schema (compileOptional Represents)

/-- A model hoisted out of a schema of the document. -/
def Hoists (d : Document) (r : Registry) (m : Model) : Prop :=
  ∃ owner s, d.Writes s ∧ Schema.Hoists owner s r m

/-- The shape stands in place for a schema of the document, or for none. -/
def Meant (d : Document) (r : Registry) (shape : Shape) : Prop :=
  ∃ s : Option Schema, (∀ p ∈ s, d.Writes p) ∧ Represents r s false shape

theorem Meant.grows {d : Document} {ok : Registry → Model → Prop} {r r' : Registry}
    {shape : Shape} (h : d.Meant r shape) (hr : r.Grows ok r') : d.Meant r' shape := by
  obtain ⟨s, hs, hrep⟩ := h
  exact ⟨s, hs, hrep.grows hr⟩

/-- A shape that says nothing stands for no schema. -/
theorem meant_anything (d : Document) (r : Registry) : d.Meant r .anything :=
  ⟨none, by simp, .missing⟩

variable {d : Document} {before after : BuildState}

theorem compileOptional_meant {s : Option Schema} (hs : ∀ p ∈ s, d.Writes p) {owner : String}
    {shape : Shape} (h : (compileOptional s owner "" false).Returns before shape after) :
    before.registry.Grows d.Hoists after.registry ∧ d.Meant after.registry shape := by
  obtain ⟨hgrows, hrep⟩ := Schema.compileOptional_sound h
  exact ⟨hgrows.imp fun r m ⟨p, hp, hm⟩ => ⟨owner, p, hs p hp, hm⟩, s, hs, hrep⟩

/-! ## Parameters -/

theorem Parameter.compile_returns {p : Parameter} (hp : .inline p ∈ d.parameterNodes)
    {baseName : String} {param : Param} (h : (p.compile baseName).Returns before param after) :
    before.registry.Grows d.Hoists after.registry ∧ d.Meant after.registry param.shape := by
  rw [Parameter.compile, Build.bind_returns] at h
  obtain ⟨shape, t, hshape, hpure⟩ := h
  obtain ⟨rfl, rfl⟩ := Build.pure_returns.mp hpure
  exact compileOptional_meant
    (fun s hs => .parameter hp (Parameter.mem_schemas_of_valueSchema hs)) hshape

/-- Following references that all lead somewhere gives what they lead to, and does not touch the
state. -/
theorem forEach_resolve_eq {α : Type} {s : Section α} {nodes : List (OrReference α)}
    {as : List α}
    (h : (Build.forEach (fun n => Build.lift (s.resolve n)) nodes).Returns before as after) :
    as = nodes.filterMap (fun n => (s.resolve n).toOption) ∧ after = before := by
  rw [Build.forEach_returns] at h
  induction h with
  | nil => exact ⟨rfl, rfl⟩
  | cons hn _ ih =>
    obtain ⟨hresolve, rfl⟩ := Build.lift_returns.mp hn
    obtain ⟨rfl, rfl⟩ := ih
    exact ⟨by rw [List.filterMap_cons, hresolve]; rfl, rfl⟩

/-- Following references does not touch the state, and leads to what the document writes. -/
theorem forEach_resolve_returns {α : Type} {s : Section α} {nodes : List (OrReference α)}
    {as : List α}
    (h : (Build.forEach (fun n => Build.lift (s.resolve n)) nodes).Returns before as after) :
    after = before ∧ ∀ a ∈ as, .inline a ∈ s.entries.map (·.2) ++ nodes := by
  obtain ⟨rfl, rfl⟩ := forEach_resolve_eq h
  refine ⟨rfl, fun a ha => ?_⟩
  obtain ⟨n, hn, hsome⟩ := List.mem_filterMap.mp ha
  cases hresolve : s.resolve n with
  | error e =>
    rw [hresolve] at hsome
    cases hsome
  | ok b =>
    rw [hresolve] at hsome
    obtain rfl := Option.some.inj hsome
    rcases Section.resolve_ok hresolve with rfl | hmem
    · exact List.mem_append_right _ hn
    · exact List.mem_append_left _ hmem

/-- Sorting parameters and picking those in one place leaves none but those that were compiled. -/
theorem mem_pick {compiled : List (Bool × Param)} {b : Bool} {p : Param}
    (h : p ∈ sortParams ((compiled.filter fun e => e.1 = b).map (·.2))) :
    ∃ e ∈ compiled, e.2 = p := by
  obtain ⟨e, he, hp⟩ := List.mem_map.mp (List.mem_mergeSort.mp h)
  exact ⟨e, (List.mem_filter.mp he).1, hp⟩

theorem compileParameters_returns {nodes : List (OrReference Parameter)}
    (hnodes : ∀ n ∈ nodes, n ∈ d.parameterNodes) {baseName : String}
    {params : List Param × List Param}
    (h : (compileParameters (.parameters d.parts) baseName nodes).Returns before params after) :
    before.registry.Grows d.Hoists after.registry ∧
      ∀ p ∈ params.1 ++ params.2, d.Meant after.registry p.shape := by
  rw [compileParameters, Build.bind_returns] at h
  obtain ⟨resolved, t, hresolved, h⟩ := h
  rw [Build.bind_returns] at h
  obtain ⟨compiled, u, hcompiled, hpure⟩ := h
  obtain ⟨rfl, rfl⟩ := Build.pure_returns.mp hpure
  obtain ⟨rfl, hmem⟩ := forEach_resolve_returns hresolved
  have hwritten : ∀ p ∈ (mergeParameters resolved).filter (·.isKept),
      .inline p ∈ d.parameterNodes := by
    intro p hp
    rcases List.mem_append.mp (hmem p (mem_mergeParameters (List.mem_filter.mp hp).1)) with h | h
    · exact List.mem_append_left _ (List.mem_append_left _ h)
    · exact hnodes _ h
  obtain ⟨hgrows, hmeant⟩ := Build.forEach_grows_all
    (T := fun (e : Bool × Param) r => d.Meant r e.2.shape) (fun e r r' hT hr => hT.grows hr)
    (fun p hp u e v he => by
      rw [Build.bind_returns] at he
      obtain ⟨param, w, hparam, hpure⟩ := he
      obtain ⟨rfl, rfl⟩ := Build.pure_returns.mp hpure
      exact Parameter.compile_returns (hwritten p hp) hparam) hcompiled
  refine ⟨hgrows, fun p hp => ?_⟩
  rcases List.mem_append.mp hp with hp | hp
  · obtain ⟨e, he, rfl⟩ := mem_pick hp
    exact hmeant e he
  · obtain ⟨e, he, rfl⟩ := mem_pick hp
    exact hmeant e he

/-! ## Bodies and responses -/

theorem compileBody_returns {node : Option (OrReference RequestBody)}
    (hnode : ∀ n ∈ node, n ∈ d.bodyNodes) {baseName : String} {body : Option Body}
    (h : (compileBody (.requestBodies d.parts) baseName node).Returns before body after) :
    before.registry.Grows d.Hoists after.registry ∧
      ∀ b ∈ body, d.Meant after.registry b.shape := by
  cases node with
  | none =>
    obtain ⟨rfl, rfl⟩ := Build.pure_returns.mp h
    exact ⟨.refl _, by simp⟩
  | some node =>
    rw [compileBody, Build.bind_returns] at h
    obtain ⟨b, t, hlift, h⟩ := h
    obtain ⟨hresolve, rfl⟩ := Build.lift_returns.mp hlift
    have hwritten : .inline b ∈ d.bodyNodes := by
      rcases Section.resolve_ok hresolve with rfl | hmem
      · exact hnode _ rfl
      · exact List.mem_append_left _ hmem
    split at h
    · obtain ⟨rfl, rfl⟩ := Build.pure_returns.mp h
      exact ⟨.refl _, by simp⟩
    · case h_2 contentType media hpreferred =>
      -- the rest of the step is the same whether the content is described or not
      have hrest : ∃ shape, (t.registry.Grows d.Hoists after.registry ∧
          d.Meant after.registry shape) ∧ ∀ b' ∈ body, b'.shape = shape := by
        dsimp only at h
        split at h
        · obtain ⟨rfl, rfl⟩ := Build.pure_returns.mp h
          exact ⟨.anything, ⟨.refl _, meant_anything d _⟩, by simp⟩
        · rw [Build.bind_returns] at h
          obtain ⟨shape, u, hshape, hpure⟩ := h
          obtain ⟨rfl, rfl⟩ := Build.pure_returns.mp hpure
          exact ⟨shape, compileOptional_meant (fun s hs => .body hwritten
            (mem_contentSchemas (MediaType.mem_of_preferred? hpreferred) hs)) hshape, by simp⟩
      obtain ⟨shape, ⟨hgrows, hmeant⟩, hshape⟩ := hrest
      exact ⟨hgrows, fun b' hb' => by rwa [hshape b' hb']⟩

theorem compileResponseOf_returns {r : Response} (hr : .inline r ∈ d.responseNodes)
    {code baseName : String} {response : ApiCompiler.Response}
    (h : (compileResponseOf code baseName r).Returns before response after) :
    before.registry.Grows d.Hoists after.registry ∧
      ∀ shape ∈ response.shape, d.Meant after.registry shape := by
  rcases empty_or_described code r with hempty | ⟨hcode, contentType, media, hdescribes⟩
  · rw [compileResponseOf_empty hempty] at h
    obtain ⟨rfl, rfl⟩ := Build.pure_returns.mp h
    exact ⟨.refl _, by simp [Response.empty]⟩
  · rw [compileResponseOf_described hcode hdescribes, Build.bind_returns] at h
    obtain ⟨shape, u, hshape, hpure⟩ := h
    obtain ⟨rfl, rfl⟩ := Build.pure_returns.mp hpure
    obtain ⟨hgrows, hmeant⟩ := compileOptional_meant
      (fun s hs => .response hr (mem_contentSchemas hdescribes.mem hs)) hshape
    refine ⟨hgrows, fun a ha => ?_⟩
    obtain rfl := Option.some.inj ha
    exact hmeant

theorem compileResponse_returns {responses : List (String × OrReference Response)}
    (hresponses : ∀ e ∈ responses, e.2 ∈ d.responseNodes) {baseName : String}
    {response : ApiCompiler.Response}
    (h : (compileResponse (.responses d.parts) baseName responses).Returns before response after) :
    before.registry.Grows d.Hoists after.registry ∧
      ∀ shape ∈ response.shape, d.Meant after.registry shape := by
  have hundeclared : ∀ r, ∀ shape ∈ Response.undeclared.shape, d.Meant r shape := by
    intro r shape hshape
    obtain rfl := Option.some.inj hshape
    exact meant_anything d r
  unfold compileResponse at h
  split at h
  · obtain ⟨rfl, rfl⟩ := Build.pure_returns.mp h
    exact ⟨.refl _, hundeclared _⟩
  · split at h
    · obtain ⟨rfl, rfl⟩ := Build.pure_returns.mp h
      exact ⟨.refl _, hundeclared _⟩
    · case h_2 node hlookup =>
      rw [Build.bind_returns] at h
      obtain ⟨r, t, hlift, h⟩ := h
      obtain ⟨hresolve, rfl⟩ := Build.lift_returns.mp hlift
      refine compileResponseOf_returns ?_ h
      rcases Section.resolve_ok hresolve with rfl | hmem
      · exact hresponses _ (mem_of_lookup? hlookup)
      · exact List.mem_append_left _ hmem

/-! ## Operations -/

/-- Every shape of an operation stands for what the document writes. -/
theorem Operation.compile_returns {item : PathItem} {path : String}
    (hitem : (path, item) ∈ d.pathItems) {method : Method} {op : Operation}
    (hop : (method, op) ∈ item.operations) {tag : String} {compiled : ApiCompiler.Operation}
    (h : (op.compile d.parts path method.name tag (item.parameters.getD [])).Returns before
      compiled after) :
    before.registry.Grows d.Hoists after.registry ∧
      ∀ shape ∈ compiled.shapes, d.Meant after.registry shape := by
  have hparameters := mem_parameterNodes_of_operation hitem hop
  have hbody := mem_bodyNodes_of_operation hitem hop
  have hresponses := mem_responseNodes_of_operation hitem hop
  rw [Operation.compile, Build.bind_returns] at h
  obtain ⟨⟨pathParams, queryParams⟩, t, hparams, h⟩ := h
  rw [Build.bind_returns] at h
  obtain ⟨body, u, hrunBody, h⟩ := h
  rw [Build.bind_returns] at h
  obtain ⟨response, v, hrunResponse, hpure⟩ := h
  obtain ⟨rfl, rfl⟩ := Build.pure_returns.mp hpure
  obtain ⟨hgrows₁, hparamsMeant⟩ := compileParameters_returns hparameters hparams
  obtain ⟨hgrows₂, hbodyMeant⟩ := compileBody_returns hbody hrunBody
  obtain ⟨hgrows₃, hresponseMeant⟩ := compileResponse_returns hresponses hrunResponse
  refine ⟨(hgrows₁.trans hgrows₂).trans hgrows₃, fun shape hshape => ?_⟩
  simp only [Operation.shapes, List.mem_append, List.mem_map, Option.mem_toList,
    Option.map_eq_some_iff] at hshape
  rcases hshape with ((⟨p, hp, rfl⟩ | ⟨p, hp, rfl⟩) | ⟨b, hb, rfl⟩) | hshape
  · exact (hparamsMeant p (List.mem_append_left _ hp)).grows (hgrows₂.trans hgrows₃)
  · exact (hparamsMeant p (List.mem_append_right _ hp)).grows (hgrows₂.trans hgrows₃)
  · exact (hbodyMeant b hb).grows hgrows₃
  · exact hresponseMeant shape hshape

/-- The operations that are grouped are the operations of the document that have a grouping tag. -/
theorem mem_groupedOperations {allowed : Option (List String)} {tag path : String}
    {item : PathItem} {method : Method} {op : Operation} :
    (tag, path, item, method, op) ∈ d.groupedOperations allowed ↔
      ((path, item) ∈ d.pathItems ∧ (method, op) ∈ item.operations) ∧
        groupingTag? (op.tags.getD []) allowed = some tag := by
  have hdeclared : (path, item, method, op) ∈ d.declaredOperations ↔
      (path, item) ∈ d.pathItems ∧ (method, op) ∈ item.operations := by
    rw [declaredOperations, List.mem_flatMap]
    constructor
    · rintro ⟨e, he, h⟩
      obtain ⟨o, ho, heq⟩ := List.mem_map.mp h
      cases heq
      exact ⟨List.mem_mergeSort.mp he, ho⟩
    · rintro ⟨hitem, hop⟩
      exact ⟨(path, item), List.mem_mergeSort.mpr hitem, List.mem_map.mpr ⟨_, hop, rfl⟩⟩
  rw [groupedOperations, List.mem_filterMap, ← hdeclared]
  constructor
  · rintro ⟨o, ho, h⟩
    obtain ⟨t, ht, heq⟩ := Option.map_eq_some_iff.mp h
    cases heq
    exact ⟨ho, ht⟩
  · rintro ⟨ho, ht⟩
    exact ⟨_, ho, by rw [ht]; rfl⟩

/-- All operations together: what is added is hoisted, and all shapes stand for what the document
writes. -/
theorem compileOperations_returns {allowed : Option (List String)}
    {ops : List ApiCompiler.Operation}
    (h : (d.compileOperations allowed).Returns before ops after) :
    before.registry.Grows d.Hoists after.registry ∧
      ∀ op ∈ ops, ∀ shape ∈ op.shapes, d.Meant after.registry shape := by
  refine Build.forEach_grows_all (T := fun (op : ApiCompiler.Operation) r =>
    ∀ shape ∈ op.shapes, d.Meant r shape) (fun op r r' hT hr shape hs => (hT shape hs).grows hr)
    (fun o ho u compiled v hrun => ?_) h
  obtain ⟨tag, path, item, method, op⟩ := o
  obtain ⟨⟨hitem, hop⟩, -⟩ := mem_groupedOperations.mp ho
  exact Operation.compile_returns hitem hop hrun

end Document
end ApiCompiler
