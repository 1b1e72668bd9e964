import ApiCompiler.Compilation
import ApiCompiler.Proofs.Maps
import ApiCompiler.Proofs.Schema.Forms

/-!
# The schemas of a document

Schemas stand in the components of a document and in its operations: under a name of their own,
in parameters, in request bodies and in responses, and inside other schemas.
`Document.Writes d s` says that the schema stands anywhere in the document.

What is written is all that is ever compiled.  A reference to a parameter, a body or a response
leads to an inline one that is written in the components (`Section.resolve_ok`), and merging
parameters only leaves some of them out.
-/

namespace ApiCompiler

/-! ## Following references -/

/-- A chain of references ends at an inline definition: the one it started from, or one of the
section. -/
theorem Section.follow_ok {α : Type} {s : Section α} {bound : Nat} {seen : List String}
    {node : OrReference α} {a : α} (h : s.follow bound seen node = .ok a) :
    node = .inline a ∨ .inline a ∈ s.entries.map (·.2) := by
  induction bound generalizing seen node with
  | zero =>
    cases node with
    | inline b =>
      cases h
      exact Or.inl rfl
    | reference r => cases h
  | succ bound ih =>
    cases node with
    | inline b =>
      cases h
      exact Or.inl rfl
    | reference r =>
      rw [Section.follow] at h
      split at h
      · cases h
      · split at h
        · cases h
        · case h_2 next hfind =>
          rcases ih h with rfl | h
          · refine Or.inr ?_
            unfold Section.find at hfind
            split at hfind
            · cases hfind
            · cases hfind
            · dsimp only at hfind
              split at hfind
              · case h_1 entry hlookup =>
                cases hfind
                exact List.mem_map.mpr ⟨_, mem_of_lookup? hlookup, rfl⟩
              · cases hfind
          · exact Or.inr h

theorem Section.resolve_ok {α : Type} {s : Section α} {node : OrReference α} {a : α}
    (h : s.resolve node = .ok a) : node = .inline a ∨ .inline a ∈ s.entries.map (·.2) :=
  follow_ok h

namespace Document

/-! ## Where schemas stand -/

/-- The schemas of a content map. -/
def contentSchemas (content : Option (List (String × MediaType))) : List Schema :=
  (content.getD []).flatMap fun e => e.2.schema.toList

/-- The schemas of a parameter: its own, and those of its content. -/
def Parameter.schemas (p : Parameter) : List Schema := p.schema.toList ++ contentSchemas p.content

/-- All operations of a document, whatever their tags. -/
def allOperations (d : Document) : List Operation :=
  d.pathItems.flatMap fun e => e.2.operations.map (·.2)

/-- Every place of a document where a parameter stands or is referred to. -/
def parameterNodes (d : Document) : List (OrReference Parameter) :=
  (d.parts.parameters.getD []).map (·.2) ++ d.pathItems.flatMap (·.2.parameters.getD []) ++
    d.allOperations.flatMap (·.parameters.getD [])

/-- Every place of a document where a request body stands or is referred to. -/
def bodyNodes (d : Document) : List (OrReference RequestBody) :=
  (d.parts.requestBodies.getD []).map (·.2) ++ d.allOperations.flatMap (·.requestBody.toList)

/-- Every place of a document where a response stands or is referred to. -/
def responseNodes (d : Document) : List (OrReference Response) :=
  (d.parts.responses.getD []).map (·.2) ++
    d.allOperations.flatMap fun op => (op.responses.getD []).map (·.2)

section

variable {d : Document} {path : String} {item : PathItem} (hitem : (path, item) ∈ d.pathItems)
  {method : Method} {op : Operation} (hop : (method, op) ∈ item.operations)

include hitem hop

theorem mem_allOperations : op ∈ d.allOperations :=
  List.mem_flatMap.mpr ⟨_, hitem, List.mem_map.mpr ⟨_, hop, rfl⟩⟩

/-- The parameters of an operation, the inherited ones among them, stand in the document. -/
theorem mem_parameterNodes_of_operation :
    ∀ n ∈ item.parameters.getD [] ++ op.parameters.getD [], n ∈ d.parameterNodes := by
  intro n hn
  rcases List.mem_append.mp hn with hn | hn
  · exact List.mem_append_left _ (List.mem_append_right _ (List.mem_flatMap.mpr ⟨_, hitem, hn⟩))
  · exact List.mem_append_right _ (List.mem_flatMap.mpr ⟨_, mem_allOperations hitem hop, hn⟩)

theorem mem_bodyNodes_of_operation : ∀ n ∈ op.requestBody, n ∈ d.bodyNodes := fun _ hn =>
  List.mem_append_right _
    (List.mem_flatMap.mpr ⟨_, mem_allOperations hitem hop, Option.mem_toList.mpr hn⟩)

theorem mem_responseNodes_of_operation : ∀ e ∈ op.responses.getD [], e.2 ∈ d.responseNodes :=
  fun e he => List.mem_append_right _
    (List.mem_flatMap.mpr ⟨_, mem_allOperations hitem hop, List.mem_map.mpr ⟨e, he, rfl⟩⟩)

end

/-- The schema stands somewhere in the components or the operations of the document. -/
inductive Writes (d : Document) : Schema → Prop
  | component {e : String × Schema} (h : e ∈ d.schemas) : Writes d e.2
  | parameter {p : Parameter} {s : Schema} (h : .inline p ∈ d.parameterNodes)
      (hs : s ∈ p.schemas) : Writes d s
  | body {b : RequestBody} {s : Schema} (h : .inline b ∈ d.bodyNodes)
      (hs : s ∈ contentSchemas b.content) : Writes d s
  | response {r : Response} {s : Schema} (h : .inline r ∈ d.responseNodes)
      (hs : s ∈ contentSchemas r.content) : Writes d s
  | part {s c : Schema} (h : Writes d s) (hc : c ∈ s.parts) : Writes d c

theorem Writes.occurs {d : Document} {s c : Schema} (h : d.Writes s) (hc : c.Occurs s) :
    d.Writes c := by
  induction hc with
  | refl => exact h
  | tail _ hmem ih => exact .part ih hmem

/-! ## What is compiled -/

theorem mem_mergeParameters {ps : List Parameter} {p : Parameter} (h : p ∈ mergeParameters ps) :
    p ∈ ps := by
  obtain ⟨e, he, rfl⟩ := List.mem_map.mp h
  obtain ⟨p, hp, rfl⟩ := List.mem_map.mp (mem_of_mem_lastWins he)
  exact hp

theorem mem_contentSchemas {content : Option (List (String × MediaType))}
    {e : String × MediaType} {s : Schema} (he : e ∈ content.getD []) (hs : e.2.schema = some s) :
    s ∈ contentSchemas content :=
  List.mem_flatMap.mpr ⟨e, he, by rw [hs]; exact List.mem_cons_self⟩

/-- The schema of the value of a parameter is one of its schemas. -/
theorem Parameter.mem_schemas_of_valueSchema {p : Parameter} {s : Schema}
    (h : p.valueSchema = some s) : s ∈ p.schemas := by
  unfold Parameter.valueSchema at h
  split at h
  · case h_1 t ht =>
    cases h
    exact List.mem_append_left _ (by rw [ht]; exact List.mem_cons_self)
  · obtain ⟨e, he, hs⟩ := Option.bind_eq_some_iff.mp h
    exact List.mem_append_right _ (mem_contentSchemas (List.mem_of_mem_head? he) hs)

end Document

/-- The preferred entry of a content map is one of its entries. -/
theorem MediaType.mem_of_preferred? {α : Type} {content : List (String × α)} {e : String × α}
    (h : MediaType.preferred? content = some e) : e ∈ content := by
  unfold MediaType.preferred? at h
  simp only [Option.or_eq_some_iff] at h
  rcases h with (((h | ⟨-, h⟩) | ⟨-, h⟩) | ⟨-, h⟩) | ⟨-, h⟩
  · exact List.mem_of_find?_eq_some h
  · exact List.mem_of_find?_eq_some h
  · exact List.mem_of_find?_eq_some h
  · obtain ⟨t, -, h⟩ := List.exists_of_findSome?_eq_some h
    exact List.mem_of_find?_eq_some h
  · exact List.mem_of_head? h

end ApiCompiler
