import ApiCompiler.Compilation
import ApiCompiler.Proofs.Build.Agreement
import ApiCompiler.Proofs.Schema.Rearrangement

/-!
# Documents with maps in another order

`Document.Rearranged d d'` says that the two documents are the same but for the order of the keys in
their maps: paths, the sections of the components, the responses of operations, and what schemas
hold (`Schema.Rearranged`).  Lists are in the same order, and so are the media types of a body or a
response, of which the first one can count.  A map has every key once, which is part of the
relation.  What compiling does not read may be anything.

Two facts about rearranged documents are all that compiling them needs.  References lead to the same
place (`Section.Rearranged.resolve`), and the operations are walked in the same order
(`Rearranged.groupedOperations`).
-/

namespace ApiCompiler

variable {α β κ : Type} {R : α → β → Prop}

/-! ## Rearranged documents -/

/-- The same map but for the order of its entries; no key stands in it twice. -/
structure SameMap (R : α → β → Prop) (es : List (κ × α)) (fs : List (κ × β)) : Prop where
  distinct : (es.map (·.1)).Nodup
  entries : Reordered (SameKey R) es fs

/-- The same reference, or related values written inline. -/
inductive OrReference.Rel (R : α → β → Prop) : OrReference α → OrReference β → Prop
  | reference (target : Reference) : Rel R (.reference target) (.reference target)
  | inline {a : α} {b : β} (h : R a b) : Rel R (.inline a) (.inline b)

namespace Document

/-- The same schema under a media type. -/
structure MediaType.Rearranged (m n : MediaType) : Prop where
  schema : Option.Rel Schema.Rearranged m.schema n.schema

/-- The same media types in the same order. -/
def SameContent (c c' : Option (List (String × MediaType))) : Prop :=
  List.Forall₂ (SameKey MediaType.Rearranged) (c.getD []) (c'.getD [])

/-- The same parameter. -/
structure Parameter.Rearranged (p q : Parameter) : Prop where
  name : p.name = q.name
  location : p.location = q.location
  description : p.description = q.description
  required : p.required = q.required
  schema : Option.Rel Schema.Rearranged p.schema q.schema
  content : SameContent p.content q.content

/-- The same request body. -/
structure RequestBody.Rearranged (b c : RequestBody) : Prop where
  description : b.description = c.description
  content : SameContent b.content c.content
  required : b.required = c.required

/-- The same response. -/
structure Response.Rearranged (r t : Response) : Prop where
  description : r.description = t.description
  content : SameContent r.content t.content

/-- The same operation, its responses in any order. -/
structure Operation.Rearranged (o p : Operation) : Prop where
  tags : o.tags = p.tags
  summary : o.summary = p.summary
  description : o.description = p.description
  operationId : o.operationId = p.operationId
  parameters : List.Forall₂ (OrReference.Rel Parameter.Rearranged) (o.parameters.getD [])
    (p.parameters.getD [])
  requestBody : Option.Rel (OrReference.Rel RequestBody.Rearranged) o.requestBody p.requestBody
  responses : SameMap (OrReference.Rel Response.Rearranged) (o.responses.getD [])
    (p.responses.getD [])
  deprecated : o.deprecated = p.deprecated

/-- The same operations of a path, and the same parameters that they share. -/
structure PathItem.Rearranged (i j : PathItem) : Prop where
  operation? : ∀ m, Option.Rel Operation.Rearranged (i.operation? m) (j.operation? m)
  parameters : List.Forall₂ (OrReference.Rel Parameter.Rearranged) (i.parameters.getD [])
    (j.parameters.getD [])

/-- The same security scheme, as far as clients need it. -/
structure SecurityScheme.Rearranged (s t : SecurityScheme) : Prop where
  type : s.type = t.type
  name : s.name = t.name
  location : s.location = t.location
  scheme : s.scheme = t.scheme
  bearerFormat : s.bearerFormat = t.bearerFormat

/-- The same definitions, every section in any order. -/
structure Components.Rearranged (c e : Components) : Prop where
  schemas : SameMap Schema.Rearranged (c.schemas.getD []) (e.schemas.getD [])
  responses : SameMap (OrReference.Rel Response.Rearranged) (c.responses.getD [])
    (e.responses.getD [])
  parameters : SameMap (OrReference.Rel Parameter.Rearranged) (c.parameters.getD [])
    (e.parameters.getD [])
  requestBodies : SameMap (OrReference.Rel RequestBody.Rearranged) (c.requestBodies.getD [])
    (e.requestBodies.getD [])
  securitySchemes : SameMap SecurityScheme.Rearranged (c.securitySchemes.getD [])
    (e.securitySchemes.getD [])

/-- The same document, its maps in any order. -/
structure Rearranged (d e : Document) : Prop where
  paths : SameMap PathItem.Rearranged d.pathItems e.pathItems
  parts : d.parts.Rearranged e.parts

end Document

/-! ## References -/

/-- The same section, its entries in any order. -/
structure Section.Rearranged (R : α → β → Prop) (s : Section α) (s' : Section β) : Prop where
  name : s.name = s'.name
  entries : SameMap (OrReference.Rel R) s.entries s'.entries

namespace Section.Rearranged

variable {s : Section α} {s' : Section β}

/-- The names that a message offers are those that come first in order. -/
theorem available_eq (h : s.Rearranged R s') : s.available = s'.available := by
  rw [Section.available, Section.available,
    Sorting.mergeSort_texts_eq_of_perm h.entries.entries.keys_perm]

theorem find (h : s.Rearranged R s') (target : String) :
    EndsAlike Eq (OrReference.Rel R) (s.find target) (s'.find target) := by
  have hpath : s.path = s'.path := by rw [Section.path, Section.path, h.name]
  unfold Section.find
  rw [hpath, h.available_eq]
  split
  · exact .error rfl
  · exact .error rfl
  · case h_3 segment _ _ =>
    dsimp only
    exact optionRel_elim (h.entries.entries.lookup?_rel h.entries.distinct _) (.error rfl)
      fun _ _ hab => .ok hab

/-- A chain of references goes the same way in both sections. -/
theorem follow (h : s.Rearranged R s') (bound : Nat) (seen : List String) {node : OrReference α}
    {node' : OrReference β} (hnode : node.Rel R node') :
    EndsAlike CompileError.SameKind R (s.follow bound seen node) (s'.follow bound seen node') := by
  induction bound generalizing seen node node' with
  | zero =>
    cases hnode with
    | reference r => exact .error (.refl _)
    | inline hab => exact .ok hab
  | succ bound ih =>
    cases hnode with
    | inline hab => exact .ok hab
    | reference r =>
      rw [Section.follow, Section.follow]
      split
      · exact .error (.refl _)
      · have hfind := h.find r.target
        generalize s.find r.target = a at hfind ⊢
        generalize s'.find r.target = b at hfind ⊢
        cases hfind with
        | error he =>
          rw [he]
          exact .error (.refl _)
        | ok hnext => exact ih _ hnext

theorem resolve (h : s.Rearranged R s') {node : OrReference α} {node' : OrReference β}
    (hnode : node.Rel R node') :
    EndsAlike CompileError.SameKind R (s.resolve node) (s'.resolve node') := by
  rw [Section.resolve, Section.resolve, h.entries.entries.length_eq]
  exact h.follow _ _ hnode

end Section.Rearranged

namespace Document

theorem Components.Rearranged.sections {c e : Components} (h : c.Rearranged e) :
    (Section.parameters c).Rearranged Parameter.Rearranged (.parameters e) ∧
      (Section.requestBodies c).Rearranged RequestBody.Rearranged (.requestBodies e) ∧
      (Section.responses c).Rearranged Response.Rearranged (.responses e) :=
  ⟨⟨rfl, h.parameters⟩, ⟨rfl, h.requestBodies⟩, ⟨rfl, h.responses⟩⟩

/-! ## Operations in walking order -/

/-- The same operation at the same place. -/
inductive Declared : String × PathItem × Method × Operation →
    String × PathItem × Method × Operation → Prop
  | mk (path : String) {i j : PathItem} (item : i.Rearranged j) (method : Method) {o p : Operation}
      (op : o.Rearranged p) : Declared (path, i, method, o) (path, j, method, p)

theorem PathItem.Rearranged.operations {i j : PathItem} (h : i.Rearranged j) :
    List.Forall₂ (SameKey Operation.Rearranged) i.operations j.operations := by
  refine List.rel_filterMap (R := Eq) ?_ (List.forall₂_refl _)
  rintro m - rfl
  dsimp only
  refine optionRel_elim (h.operation? m) .none fun _ _ hop => ?_
  exact .some (.mk m hop)

variable {d e : Document}

theorem Rearranged.declaredOperations (h : d.Rearranged e) :
    List.Forall₂ Declared d.declaredOperations e.declaredOperations := by
  refine List.rel_flatMap (h.paths.entries.sortedByKey h.paths.distinct) ?_
  rintro x y ⟨path, hitem⟩
  rw [List.forall₂_map_left_iff, List.forall₂_map_right_iff]
  refine hitem.operations.imp ?_
  rintro u v ⟨method, hop⟩
  exact .mk path hitem method hop

/-- The operations that have a grouping tag are walked in the same order, under the same tags. -/
theorem Rearranged.groupedOperations (h : d.Rearranged e) (allowed : Option (List String)) :
    List.Forall₂ (SameKey Declared) (d.groupedOperations allowed)
      (e.groupedOperations allowed) := by
  refine List.rel_filterMap ?_ h.declaredOperations
  rintro x y ⟨path, hitem, method, hop⟩
  dsimp only
  rw [hop.tags]
  generalize groupingTag? _ _ = tag
  cases tag with
  | none => exact .none
  | some tag => exact .some (.mk tag (.mk path hitem method hop))

end Document
end ApiCompiler
