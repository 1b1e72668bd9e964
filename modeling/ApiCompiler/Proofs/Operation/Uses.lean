import ApiCompiler.Proofs.Build.Stopping
import ApiCompiler.Proofs.Hoisting.Safety
import ApiCompiler.Proofs.Operation.Meaning
import ApiCompiler.Proofs.Reference.Chains

/-!
# What an operation uses

Compiling an operation resolves its parameters, the inherited ones first, then its body, and then
the one response that is selected by its status code.  `Document.Operation.uses` lists these nodes in
this order.  The other responses of an operation are not used.

A lenient build of an operation stops at the first of its uses that does not resolve, if at all
(`Operation.compile_stopsWith`).  The schemas it compiles on the way can only bring it down by an
enumerated value that cannot be written, `Document.Unwritable`.
-/

namespace ApiCompiler
namespace Document

open Build (StopsWith errorOf)
open Schema (compileOptional)

/-- A node that an operation resolves. -/
inductive Use where
  | parameter (node : OrReference Parameter)
  | body (node : OrReference RequestBody)
  | response (node : OrReference Response)

/-- The chain of references from the used node breaks. -/
def Use.Breaks (c : Components) : Use → CompileError → Prop
  | .parameter node => (Section.parameters c).Breaks node
  | .body node => (Section.requestBodies c).Breaks node
  | .response node => (Section.responses c).Breaks node

/-- How resolving the used node fails, if it does. -/
def Use.error? (c : Components) : Use → Option CompileError
  | .parameter node => errorOf ((Section.parameters c).resolve node)
  | .body node => errorOf ((Section.requestBodies c).resolve node)
  | .response node => errorOf ((Section.responses c).resolve node)

/-- Resolving a used node fails where its chain breaks. -/
theorem Use.error?_eq_some_iff {c : Components} {u : Use} {e : CompileError} :
    u.error? c = some e ↔ u.Breaks c e := by
  cases u with
  | parameter node => exact Build.errorOf_eq_some_iff.trans Section.resolve_eq_error_iff
  | body node => exact Build.errorOf_eq_some_iff.trans Section.resolve_eq_error_iff
  | response node => exact Build.errorOf_eq_some_iff.trans Section.resolve_eq_error_iff

/-- The response that is selected by its status code. -/
def selected? (responses : List (String × OrReference Response)) : Option (OrReference Response) :=
  (successCodes (responses.map (·.1))).head?.bind fun code => lookup? code responses

/-- What an operation resolves, in order. -/
def Operation.uses (inherited : List (OrReference Parameter)) (op : Operation) : List Use :=
  (inherited ++ op.parameters.getD []).map .parameter ++ op.requestBody.toList.map .body ++
    (selected? (op.responses.getD [])).toList.map .response

/-- The error comes from an enumeration of the document one of whose values cannot be written. -/
def Unwritable (d : Document) (e : CompileError) : Prop := ∃ s, d.Writes s ∧ s.Unwritable e

variable {d : Document} {baseName : String}

/-! ## Schemas -/

/-- Compiling a schema of the document can fail for a value that cannot be written only. -/
theorem compileOptional_stopsWith {s : Option Schema} (hs : ∀ p ∈ s, d.Writes p) (owner : String) :
    StopsWith d.Unwritable none (compileOptional s owner "" false) := by
  cases s with
  | none => exact Build.pure_stopsWith _
  | some p =>
    refine Build.stopsWith_of_endsIn fun before hbefore => ?_
    have hends := Schema.compile_endsIn Build.lenient_tolerates p owner "" false before hbefore
    exact hends.imp fun e he => ⟨p, hs p rfl, he.resolve_right id⟩

/-! ## Parameters -/

theorem Parameter.compile_stopsWith {p : Parameter} (hp : .inline p ∈ d.parameterNodes) :
    StopsWith d.Unwritable none (p.compile baseName) := by
  have hwritten : ∀ s ∈ p.valueSchema, d.Writes s := fun s hs =>
    .parameter hp (mem_schemas_of_valueSchema hs)
  unfold Parameter.compile
  exact Build.bind_stopsWith_first (compileOptional_stopsWith hwritten _)
    fun shape _ _ _ => Build.pure_stopsWith _

theorem compileParameters_stopsWith {nodes : List (OrReference Parameter)}
    (hnodes : ∀ n ∈ nodes, n ∈ d.parameterNodes) :
    StopsWith d.Unwritable ((nodes.map Use.parameter).findSome? (Use.error? d.parts))
      (compileParameters (.parameters d.parts) baseName nodes) := by
  rw [List.findSome?_map]
  unfold compileParameters
  refine Build.bind_stopsWith_first
    (Build.forEach_stopsWith fun n _ => Build.lift_stopsWith _) fun resolved s t hresolved => ?_
  obtain ⟨-, hmem⟩ := forEach_resolve_returns hresolved
  have hcompiled : ∀ p ∈ (mergeParameters resolved).filter (·.isKept),
      StopsWith d.Unwritable none (do
        let param ← p.compile baseName
        pure (p.inPath, param)) := by
    intro p hp
    have hinline : .inline p ∈ d.parameterNodes := by
      rcases List.mem_append.mp (hmem p (mem_mergeParameters (List.mem_filter.mp hp).1)) with h | h
      · exact List.mem_append_left _ (List.mem_append_left _ h)
      · exact hnodes _ h
    exact Build.bind_stopsWith_first (Parameter.compile_stopsWith hinline)
      fun _ _ _ _ => Build.pure_stopsWith _
  have hall := Build.forEach_stopsWith hcompiled
  rw [List.findSome?_eq_none_iff.mpr fun _ _ => rfl] at hall
  exact Build.bind_stopsWith_first hall fun _ _ _ _ => Build.pure_stopsWith _

/-! ## Bodies and responses -/

theorem compileBody_stopsWith {node : Option (OrReference RequestBody)}
    (hnode : ∀ n ∈ node, n ∈ d.bodyNodes) :
    StopsWith d.Unwritable ((node.toList.map Use.body).findSome? (Use.error? d.parts))
      (compileBody (.requestBodies d.parts) baseName node) := by
  cases node with
  | none => exact Build.pure_stopsWith _
  | some node =>
    have hstop : (((some node).toList.map Use.body).findSome? (Use.error? d.parts)) =
        errorOf ((Section.requestBodies d.parts).resolve node) := by
      simp [Use.error?]
    rw [hstop, compileBody]
    refine Build.bind_stopsWith_first (Build.lift_stopsWith _) fun b s t hlift => ?_
    have hwritten : .inline b ∈ d.bodyNodes := by
      rcases Section.resolve_ok (Build.lift_returns.mp hlift).1 with rfl | hmem
      · exact hnode _ rfl
      · exact List.mem_append_left _ hmem
    split
    · exact Build.pure_stopsWith _
    · rename_i contentType media hpreferred
      have hschema : ∀ p ∈ media.schema, d.Writes p := fun p hp =>
        .body hwritten (mem_contentSchemas (MediaType.mem_of_preferred? hpreferred) hp)
      split
      · exact Build.pure_stopsWith _
      · exact Build.bind_stopsWith_first (compileOptional_stopsWith hschema _)
          fun _ _ _ _ => Build.pure_stopsWith _

theorem compileResponseOf_stopsWith {r : Response} (hr : .inline r ∈ d.responseNodes)
    {code : String} : StopsWith d.Unwritable none (compileResponseOf code baseName r) := by
  rcases empty_or_described code r with hempty | ⟨hcode, contentType, media, hdescribes⟩
  · rw [compileResponseOf_empty hempty]
    exact Build.pure_stopsWith _
  · have hschema : ∀ p ∈ media.schema, d.Writes p := fun p hp =>
      .response hr (mem_contentSchemas hdescribes.mem hp)
    rw [compileResponseOf_described hcode hdescribes]
    exact Build.bind_stopsWith_first (compileOptional_stopsWith hschema _)
      fun _ _ _ _ => Build.pure_stopsWith _

theorem compileResponse_stopsWith {responses : List (String × OrReference Response)}
    (hresponses : ∀ e ∈ responses, e.2 ∈ d.responseNodes) :
    StopsWith d.Unwritable
      (((selected? responses).toList.map Use.response).findSome? (Use.error? d.parts))
      (compileResponse (.responses d.parts) baseName responses) := by
  unfold compileResponse selected?
  cases (successCodes (responses.map (·.1))).head? with
  | none => exact Build.pure_stopsWith _
  | some code =>
    rw [Option.bind_some]
    dsimp only
    cases hlookup : lookup? code responses with
    | none => exact Build.pure_stopsWith _
    | some node =>
      have hstop : (((some node).toList.map Use.response).findSome? (Use.error? d.parts)) =
          errorOf ((Section.responses d.parts).resolve node) := by
        simp [Use.error?]
      rw [hstop]
      refine Build.bind_stopsWith_first (Build.lift_stopsWith _) fun r s t hlift => ?_
      refine compileResponseOf_stopsWith ?_
      rcases Section.resolve_ok (Build.lift_returns.mp hlift).1 with rfl | hmem
      · exact hresponses _ (mem_of_lookup? hlookup)
      · exact List.mem_append_left _ hmem

/-! ## Operations -/

/-- An operation stops a build at the first of its uses that does not resolve. -/
theorem Operation.compile_stopsWith {item : PathItem} {path : String}
    (hitem : (path, item) ∈ d.pathItems) {method : Method} {op : Operation}
    (hop : (method, op) ∈ item.operations) {tag : String} :
    StopsWith d.Unwritable ((op.uses (item.parameters.getD [])).findSome? (Use.error? d.parts))
      (op.compile d.parts path method.name tag (item.parameters.getD [])) := by
  have hparameters := mem_parameterNodes_of_operation hitem hop
  have hbody := mem_bodyNodes_of_operation hitem hop
  have hresponses := mem_responseNodes_of_operation hitem hop
  rw [Operation.uses, List.findSome?_append, List.findSome?_append, Option.or_assoc,
    Operation.compile]
  refine Build.bind_stopsWith (compileParameters_stopsWith hparameters) fun params _ _ _ => ?_
  refine Build.bind_stopsWith (compileBody_stopsWith hbody) fun body _ _ _ => ?_
  exact Build.bind_stopsWith_first (compileResponse_stopsWith hresponses)
    fun _ _ _ _ => Build.pure_stopsWith _

end Document
end ApiCompiler
