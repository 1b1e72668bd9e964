import ApiCompiler.Proofs.Api.Likeness
import ApiCompiler.Proofs.Document.Rearrangement
import ApiCompiler.Proofs.Hoisting.Rearrangement

/-!
# Compiling operations with maps in another order

Two rearranged operations are compiled alike (`Operation.Rearranged.compile_agree`): what they become
says the same, and the two runs name the same models.

Three choices depend on maps.  Among the status codes the best one is taken, and which is best does
not depend on their order (`successCodes_eq_of_perm`).  Of a body or a response the order of the
media types counts, so it is the same in both documents, and the same one is found.  A reference is
followed through the components, which are looked up by name.
-/

namespace ApiCompiler

theorem Shape.Rearranged.alike {s t : Shape} (h : s.Rearranged t) : s.Alike t := h.like

/-- The media type that a body is sent with is found by the names of the media types. -/
theorem MediaType.preferred?_rel {α β : Type} {R : α → β → Prop} {es : List (String × α)}
    {fs : List (String × β)} (h : List.Forall₂ (SameKey R) es fs) :
    Option.Rel (SameKey R) (MediaType.preferred? es) (MediaType.preferred? fs) := by
  have hfind : ∀ p : String → Bool,
      Option.Rel (SameKey R) (es.find? fun e => p e.1) (fs.find? fun f => p f.1) :=
    fun p => find?_rel h fun _ _ hef => by rw [hef.key_eq]
  refine or_rel (or_rel (or_rel (or_rel ?_ ?_) ?_) ?_) (head?_rel h)
  · exact hfind fun name => name = MediaType.json
  · exact hfind MediaType.isJson
  · exact hfind fun name => name = MediaType.form
  · exact findSome?_rel _ fun t => hfind fun name => name = t

namespace Document

open Build (Agree pure_agree)

variable {c e : Components} {baseName : String}

/-! ## Parameters -/

theorem mergeParameters_rel {ps qs : List Parameter}
    (h : List.Forall₂ Parameter.Rearranged ps qs) :
    List.Forall₂ Parameter.Rearranged (mergeParameters ps) (mergeParameters qs) := by
  rw [mergeParameters, mergeParameters, List.forall₂_map_left_iff, List.forall₂_map_right_iff]
  refine (lastWins_rel (R := Parameter.Rearranged) ?_).imp fun _ _ hef => hef.value
  rw [List.forall₂_map_left_iff, List.forall₂_map_right_iff]
  refine h.imp fun p q hpq => ?_
  rw [hpq.name, hpq.location]
  exact .mk _ hpq

theorem Parameter.Rearranged.inPath_eq {p q : Parameter} (h : p.Rearranged q) :
    p.inPath = q.inPath := by
  rw [Parameter.inPath, Parameter.inPath, h.location]

theorem Parameter.Rearranged.isKept_eq {p q : Parameter} (h : p.Rearranged q) :
    p.isKept = q.isKept := by
  rw [Parameter.isKept, Parameter.isKept, h.inPath_eq, h.location]

theorem Parameter.Rearranged.valueSchema {p q : Parameter} (h : p.Rearranged q) :
    Option.Rel Schema.Rearranged p.valueSchema q.valueSchema := by
  have hhead : Option.Rel Schema.Rearranged
      (((p.content.getD []).head?).bind fun e => e.2.schema)
      (((q.content.getD []).head?).bind fun e => e.2.schema) :=
    optionRel_elim (head?_rel h.content) .none fun _ _ hef => hef.value.schema
  unfold Parameter.valueSchema
  exact optionRel_elim h.schema hhead fun _ _ hst => .some hst

theorem Parameter.Rearranged.compile_agree {p q : Parameter} (h : p.Rearranged q) :
    Agree Param.Alike (p.compile baseName) (q.compile baseName) := by
  unfold Parameter.compile
  rw [h.name, h.required, h.inPath_eq, h.description]
  refine (Schema.compileOptional_agree_of_rel h.valueSchema).bind fun s t hst => ?_
  exact pure_agree ⟨rfl, rfl, hst.alike, rfl⟩

theorem compileParameters_agree (h : c.Rearranged e) {nodes nodes' : List (OrReference Parameter)}
    (hnodes : List.Forall₂ (OrReference.Rel Parameter.Rearranged) nodes nodes') :
    Agree (fun a b => List.Forall₂ Param.Alike a.1 b.1 ∧ List.Forall₂ Param.Alike a.2 b.2)
      (compileParameters (.parameters c) baseName nodes)
      (compileParameters (.parameters e) baseName nodes') := by
  refine (Build.forEach_agree hnodes fun n _ n' hn =>
    Build.lift_agree (h.sections.1.resolve hn)).bind fun ps qs hpq => ?_
  have hkept : List.Forall₂ Parameter.Rearranged ((mergeParameters ps).filter (·.isKept))
      ((mergeParameters qs).filter (·.isKept)) :=
    List.rel_filter (fun p q hpq => by dsimp only; rw [hpq.isKept_eq]) (mergeParameters_rel hpq)
  refine Agree.bind (R := List.Forall₂ (SameKey Param.Alike)) ?_ fun xs ys hxy => ?_
  · refine Build.forEach_agree hkept fun p _ q hpq => ?_
    refine hpq.compile_agree.bind fun a b hab => ?_
    rw [hpq.inPath_eq]
    exact pure_agree (.mk _ hab)
  · have hpick : ∀ inPath : Bool, List.Forall₂ Param.Alike
        (sortParams ((xs.filter fun e => e.1 = inPath).map (·.2)))
        (sortParams ((ys.filter fun e => e.1 = inPath).map (·.2))) := by
      intro inPath
      refine Sorting.forall₂_mergeSort (fun _ _ hab => hab.name) ?_
      refine List.rel_map (fun _ _ hef => hef.value) (List.rel_filter (fun e f hef => ?_) hxy)
      dsimp only
      rw [hef.key_eq]
    exact pure_agree ⟨hpick true, hpick false⟩

/-! ## Bodies and responses -/

theorem compileBody_agree (h : c.Rearranged e) {node node' : Option (OrReference RequestBody)}
    (hnode : Option.Rel (OrReference.Rel RequestBody.Rearranged) node node') :
    Agree (Option.Rel Body.Alike) (compileBody (.requestBodies c) baseName node)
      (compileBody (.requestBodies e) baseName node') := by
  cases hnode with
  | none => exact pure_agree .none
  | some hnode =>
    refine (Build.lift_agree (h.sections.2.1.resolve hnode)).bind fun b b' hb => ?_
    refine optionRel_elim (MediaType.preferred?_rel hb.content) (pure_agree .none) ?_
    rintro x y ⟨contentType, hmedia⟩
    dsimp only
    rw [hb.required, hb.description]
    split
    · exact pure_agree (.some ⟨rfl, Schema.anything_rearranged.alike, rfl, rfl⟩)
    · refine (Schema.compileOptional_agree_of_rel hmedia.schema).bind fun s t hst => ?_
      exact pure_agree (.some ⟨rfl, hst.alike, rfl, rfl⟩)

/-- Which status codes mean success, and which of them is best, does not depend on the order in
which they are declared. -/
theorem successCodes_eq_of_perm {codes codes' : List String} (h : codes.Perm codes') :
    successCodes codes = successCodes codes' := by
  have hcontains : ∀ code, codes.contains code = codes'.contains code := by
    intro code
    rw [Bool.eq_iff_iff, List.contains_iff_mem, List.contains_iff_mem]
    exact h.mem_iff
  rw [successCodes, successCodes, Sorting.mergeSort_texts_eq_of_perm (h.filter _)]
  simp only [hcontains]

theorem compileResponseOf_agree (code : String) {r r' : Response} (h : r.Rearranged r') :
    Agree ApiCompiler.Response.Alike (compileResponseOf code baseName r)
      (compileResponseOf code baseName r') := by
  have hempty : Agree ApiCompiler.Response.Alike
      (pure (.empty code r'.description) : Build ApiCompiler.Response)
      (pure (.empty code r'.description)) :=
    pure_agree ⟨rfl, .none, rfl, rfl, rfl⟩
  have hmedia := or_rel (find?_rel (p := fun e => MediaType.isJson e.1)
    (q := fun e => MediaType.isJson e.1) h.content fun _ _ hef => by rw [hef.key_eq])
    (head?_rel h.content)
  unfold compileResponseOf
  dsimp only
  rw [h.description]
  split
  · exact hempty
  · refine optionRel_elim hmedia hempty ?_
    rintro x y ⟨contentType, hmedia⟩
    refine (Schema.compileOptional_agree_of_rel hmedia.schema).bind fun s t hst => ?_
    exact pure_agree ⟨rfl, .some hst.alike, rfl, rfl, rfl⟩

theorem compileResponse_agree (h : c.Rearranged e)
    {responses responses' : List (String × OrReference Response)}
    (hresponses : SameMap (OrReference.Rel Response.Rearranged) responses responses') :
    Agree ApiCompiler.Response.Alike (compileResponse (.responses c) baseName responses)
      (compileResponse (.responses e) baseName responses') := by
  have hundeclared : Agree ApiCompiler.Response.Alike (pure .undeclared : Build ApiCompiler.Response)
      (pure .undeclared) :=
    pure_agree ⟨rfl, .some Schema.anything_rearranged.alike, rfl, rfl, rfl⟩
  unfold compileResponse
  rw [successCodes_eq_of_perm hresponses.entries.keys_perm]
  split
  · exact hundeclared
  · case h_2 code _ =>
    refine optionRel_elim (hresponses.entries.lookup?_rel hresponses.distinct code) hundeclared
      fun node node' hnode => ?_
    exact (Build.lift_agree (h.sections.2.2.resolve hnode)).bind fun r r' hr =>
      compileResponseOf_agree code hr

/-! ## Operations -/

/-- Rearranged operations are compiled to operations that say the same. -/
theorem Operation.Rearranged.compile_agree {op op' : Operation} (hop : op.Rearranged op')
    (h : c.Rearranged e) {inherited inherited' : List (OrReference Parameter)}
    (hinherited : List.Forall₂ (OrReference.Rel Parameter.Rearranged) inherited inherited')
    (path method tag : String) :
    Agree ApiCompiler.Operation.Alike (op.compile c path method tag inherited)
      (op'.compile e path method tag inherited') := by
  unfold Operation.compile
  rw [hop.operationId, hop.tags, hop.summary, hop.description, hop.deprecated]
  refine (compileParameters_agree h (List.rel_append hinherited hop.parameters)).bind
    fun params params' hparams => ?_
  refine (compileBody_agree h hop.requestBody).bind fun body body' hbody => ?_
  refine (compileResponse_agree h hop.responses).bind fun response response' hresponse => ?_
  exact pure_agree ⟨rfl, rfl, rfl, rfl, rfl, rfl, rfl, rfl, hparams.1, rfl, hparams.2, hbody,
    hresponse⟩

end Document
end ApiCompiler
