import ApiCompiler.Proofs.Operation.Meaning

/-!
# The stages of a build

At its top, a build does two things: it compiles a schema in place, whatever is hoisted out of it
on the way, and it enters a component under its own name.  Which of these it does, and in which
order, is determined by the document: `Document.componentStages` and `Document.operationStages` are
lists of such stages.  `compileModels_chain` and `compileServices_chain` say that a run that returns
goes through them one after the other, so that the state can be looked at between any two of them.
-/

namespace ApiCompiler

/-- What a build does at its top: it compiles a schema, or none, under the name of an owner, or it
enters the component whose schema it has just compiled. -/
inductive Stage where
  | conversion (owner : String) (schema : Option Schema)
  | component (name : String) (schema : Schema)

namespace Stage

/-- The stage leads from one state to the other. -/
inductive Runs : Stage → BuildState → BuildState → Prop
  | conversion {owner : String} {schema : Option Schema} {s t : BuildState} {shape : Shape}
      (h : (Schema.compileOptional schema owner "" false).Returns s shape t) :
      Runs (.conversion owner schema) s t
  | component {name : String} {schema : Schema} {u s : BuildState} {shape : Shape}
      (h : (schema.compile name "" false).Returns u shape s) :
      Runs (.component name schema) s
        { s with registry := s.registry.addComponent ⟨name, shape, schema.annotations⟩ }

/-- Stages one after the other, the state handed from one to the next.  `R` says what each of them
does. -/
inductive Chain (R : Stage → BuildState → BuildState → Prop) :
    List Stage → BuildState → BuildState → Prop
  | nil (s : BuildState) : Chain R [] s s
  | cons {stage : Stage} {stages : List Stage} {s t u : BuildState} (first : R stage s t)
      (rest : Chain R stages t u) : Chain R (stage :: stages) s u

namespace Chain

variable {R : Stage → BuildState → BuildState → Prop} {stage : Stage} {stages stages' : List Stage}
  {s t u : BuildState}

theorem single (h : R stage s t) : Chain R [stage] s t := .cons h (.nil t)

theorem append (h : Chain R stages s t) (h' : Chain R stages' t u) :
    Chain R (stages ++ stages') s u := by
  induction h with
  | nil => exact h'
  | cons first _ ih => exact .cons first (ih h')

/-- Performing a step for every item goes through the stages of one item after the other. -/
theorem of_forEach {α β : Type} {step : α → Build β} {stagesOf : α → List Stage} {as : List α}
    {bs : List β} (hstep : ∀ a s b t, (step a).Returns s b t → Chain R (stagesOf a) s t)
    (h : (Build.forEach step as).Returns s bs t) : Chain R (as.flatMap stagesOf) s t := by
  rw [Build.forEach_returns] at h
  induction h with
  | nil => exact .nil _
  | cons first _ ih =>
    rw [List.flatMap_cons]
    exact (hstep _ _ _ _ first).append ih

end Chain
end Stage

namespace Document

open Stage (Chain Runs)

variable {before after : BuildState}

/-! ## Components -/

/-- Every schema is compiled, and then entered as a component. -/
def schemaStages (l : List (String × Schema)) : List Stage :=
  l.flatMap fun e => [.conversion e.1 (some e.2), .component e.1 e.2]

/-- The stages of the components, in the order of their names. -/
def componentStages (d : Document) : List Stage := schemaStages (sortedByKey d.schemas)

theorem compileSchemas_chain {l : List (String × Schema)}
    (h : (compileSchemas l).Returns before () after) :
    Chain Runs (schemaStages l) before after := by
  induction l generalizing before with
  | nil =>
    obtain ⟨-, rfl⟩ := Build.pure_returns.mp h
    exact .nil _
  | cons e l ih =>
    obtain ⟨name, s⟩ := e
    rw [compileSchemas, Build.bind_returns] at h
    obtain ⟨shape, t, hrun, h⟩ := h
    rw [Build.registry_bind_returns, Build.setRegistry_bind_returns] at h
    have hstage : Runs (.conversion name (some s)) before t := .conversion hrun
    exact .cons hstage (.cons (.component hrun) (ih h))

theorem compileModels_chain {d : Document} (h : d.compileModels.Returns before () after) :
    Chain Runs d.componentStages before after :=
  compileSchemas_chain h

/-! ## Parameters -/

/-- The value of a parameter is compiled under its name. -/
def Parameter.stages (baseName : String) (p : Parameter) : List Stage :=
  [.conversion (baseName ++ Name.Case.pascal.write p.name) p.valueSchema]

/-- The stages of the parameters that are kept. -/
def parameterStages (s : Section Parameter) (baseName : String)
    (nodes : List (OrReference Parameter)) : List Stage :=
  ((mergeParameters (nodes.filterMap fun n => (s.resolve n).toOption)).filter (·.isKept)).flatMap
    fun p => p.stages baseName

theorem compileParameters_chain {s : Section Parameter} {baseName : String}
    {nodes : List (OrReference Parameter)} {params : List Param × List Param}
    (h : (compileParameters s baseName nodes).Returns before params after) :
    Chain Runs (parameterStages s baseName nodes) before after := by
  rw [compileParameters, Build.bind_returns] at h
  obtain ⟨resolved, t, hresolved, h⟩ := h
  rw [Build.bind_returns] at h
  obtain ⟨compiled, u, hcompiled, hpure⟩ := h
  obtain ⟨-, rfl⟩ := Build.pure_returns.mp hpure
  obtain ⟨rfl, rfl⟩ := forEach_resolve_eq hresolved
  refine Chain.of_forEach (fun p v e w he => ?_) hcompiled
  rw [Build.bind_returns] at he
  obtain ⟨param, x, hparam, hpure⟩ := he
  obtain ⟨-, rfl⟩ := Build.pure_returns.mp hpure
  rw [Parameter.compile, Build.bind_returns] at hparam
  obtain ⟨shape, y, hshape, hpure⟩ := hparam
  obtain ⟨-, rfl⟩ := Build.pure_returns.mp hpure
  exact .single (.conversion hshape)

/-! ## Bodies and responses -/

/-- The stage of a body: its preferred content is compiled, unless its type says nothing. -/
def bodyStages (s : Section RequestBody) (baseName : String)
    (node : Option (OrReference RequestBody)) : List Stage :=
  match node.bind fun n => (s.resolve n).toOption with
  | none => []
  | some body =>
    match MediaType.preferred? (body.content.getD []) with
    | none => []
    | some (contentType, media) =>
      if MediaType.opaqueTypes.contains contentType then []
      else [.conversion (baseName ++ "Body") media.schema]

theorem compileBody_chain {s : Section RequestBody} {baseName : String}
    {node : Option (OrReference RequestBody)} {body : Option Body}
    (h : (compileBody s baseName node).Returns before body after) :
    Chain Runs (bodyStages s baseName node) before after := by
  cases node with
  | none =>
    obtain ⟨-, rfl⟩ := Build.pure_returns.mp h
    exact .nil _
  | some node =>
    rw [compileBody, Build.bind_returns] at h
    obtain ⟨b, t, hlift, h⟩ := h
    obtain ⟨hresolve, rfl⟩ := Build.lift_returns.mp hlift
    have hnode : ((some node).bind fun n => (s.resolve n).toOption) = some b := by
      rw [Option.bind_some, hresolve]
      rfl
    rw [bodyStages, hnode]
    dsimp only
    cases hpreferred : MediaType.preferred? (b.content.getD []) with
    | none =>
      rw [hpreferred] at h
      obtain ⟨-, rfl⟩ := Build.pure_returns.mp h
      exact .nil _
    | some e =>
      obtain ⟨contentType, media⟩ := e
      rw [hpreferred] at h
      dsimp only at h ⊢
      split at h
      · case isTrue hopaque =>
        obtain ⟨-, rfl⟩ := Build.pure_returns.mp h
        rw [if_pos hopaque]
        exact .nil _
      · case isFalse hopaque =>
        rw [Build.bind_returns] at h
        obtain ⟨shape, u, hshape, hpure⟩ := h
        obtain ⟨-, rfl⟩ := Build.pure_returns.mp hpure
        rw [if_neg hopaque]
        exact .single (.conversion hshape)

/-- The stage of a response: its JSON content, or else its first content, is compiled. -/
def Response.stages (code baseName : String) (r : Response) : List Stage :=
  if code = "204" then []
  else
    let content := r.content.getD []
    match (content.find? fun e => MediaType.isJson e.1).or content.head? with
    | none => []
    | some (_, media) => [.conversion (baseName ++ "Response") media.schema]

theorem Response.stages_empty {code baseName : String} {r : Response}
    (h : code = "204" ∨ r.content.getD [] = []) : r.stages code baseName = [] := by
  rw [Response.stages]
  split
  · rfl
  · case isFalse hcode =>
    rw [h.resolve_left hcode]
    rfl

theorem compileResponseOf_chain {code baseName : String} {r : Response}
    {response : ApiCompiler.Response}
    (h : (compileResponseOf code baseName r).Returns before response after) :
    Chain Runs (r.stages code baseName) before after := by
  rcases empty_or_described code r with hempty | ⟨hcode, contentType, media, hdescribes⟩
  · rw [compileResponseOf_empty hempty] at h
    obtain ⟨-, rfl⟩ := Build.pure_returns.mp h
    rw [Response.stages_empty hempty]
    exact .nil _
  · rw [compileResponseOf_described hcode hdescribes, Build.bind_returns] at h
    obtain ⟨shape, u, hshape, hpure⟩ := h
    obtain ⟨-, rfl⟩ := Build.pure_returns.mp hpure
    simp only [Response.stages, if_neg hcode, describes_iff.mpr hdescribes]
    exact .single (.conversion hshape)

/-- The stage of the answer of an operation that succeeds. -/
def responseStages (s : Section Response) (baseName : String)
    (responses : List (String × OrReference Response)) : List Stage :=
  match (successCodes (responses.map (·.1))).head? with
  | none => []
  | some code =>
    match (lookup? code responses).bind fun n => (s.resolve n).toOption with
    | none => []
    | some r => r.stages code baseName

theorem compileResponse_chain {s : Section Response} {baseName : String}
    {responses : List (String × OrReference Response)} {response : ApiCompiler.Response}
    (h : (compileResponse s baseName responses).Returns before response after) :
    Chain Runs (responseStages s baseName responses) before after := by
  unfold compileResponse at h
  unfold responseStages
  cases hcode : (successCodes (responses.map (·.1))).head? with
  | none =>
    rw [hcode] at h
    obtain ⟨-, rfl⟩ := Build.pure_returns.mp h
    exact .nil _
  | some code =>
    rw [hcode] at h
    dsimp only at h ⊢
    cases hlookup : lookup? code responses with
    | none =>
      rw [hlookup] at h
      obtain ⟨-, rfl⟩ := Build.pure_returns.mp h
      exact .nil _
    | some node =>
      rw [hlookup] at h
      dsimp only at h
      rw [Build.bind_returns] at h
      obtain ⟨r, t, hlift, h⟩ := h
      obtain ⟨hresolve, rfl⟩ := Build.lift_returns.mp hlift
      rw [Option.bind_some, hresolve]
      exact compileResponseOf_chain h

/-! ## Operations -/

/-- The stages of an operation: its parameters, its body and its answer. -/
def Operation.stages (c : Components) (path method : String)
    (inherited : List (OrReference Parameter)) (op : Operation) : List Stage :=
  parameterStages (.parameters c) (operationBaseName op.operationId method path)
      (inherited ++ op.parameters.getD []) ++
    bodyStages (.requestBodies c) (operationBaseName op.operationId method path) op.requestBody ++
    responseStages (.responses c) (operationBaseName op.operationId method path)
      (op.responses.getD [])

/-- The stages of the operations that have a grouping tag, in walking order. -/
def operationStages (d : Document) (allowed : Option (List String)) : List Stage :=
  (d.groupedOperations allowed).flatMap fun (_, path, item, method, op) =>
    op.stages d.parts path method.name (item.parameters.getD [])

theorem Operation.compile_chain {c : Components} {path method tag : String}
    {inherited : List (OrReference Parameter)} {op : Operation}
    {compiled : ApiCompiler.Operation}
    (h : (op.compile c path method tag inherited).Returns before compiled after) :
    Chain Runs (op.stages c path method inherited) before after := by
  rw [Operation.compile, Build.bind_returns] at h
  obtain ⟨params, t, hparams, h⟩ := h
  rw [Build.bind_returns] at h
  obtain ⟨body, u, hbody, h⟩ := h
  rw [Build.bind_returns] at h
  obtain ⟨response, v, hresponse, hpure⟩ := h
  obtain ⟨-, rfl⟩ := Build.pure_returns.mp hpure
  exact ((compileParameters_chain hparams).append (compileBody_chain hbody)).append
    (compileResponse_chain hresponse)

theorem compileServices_chain {d : Document} {allowed : Option (List String)}
    {services : List Service} (h : (d.compileServices allowed).Returns before services after) :
    Chain Runs (d.operationStages allowed) before after := by
  rw [compileServices, Build.bind_returns] at h
  obtain ⟨ops, t, hops, hpure⟩ := h
  obtain ⟨-, rfl⟩ := Build.pure_returns.mp hpure
  exact Chain.of_forEach (fun o s c t hrun => Operation.compile_chain hrun) hops

end Document
end ApiCompiler
