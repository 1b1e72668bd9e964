import ApiCompiler.Proofs.Operation.Meaning

/-!
# The ledger of a build

Models come into the registry in two ways: a hoisted model takes a name that is free, and a
component is appended under its own name, whatever is there.  `Document.Records d r es r'` keeps
the account of a build: from `r` to `r'` the entries `es` were made, in this order, and each of
them was made for a reason that lies in the document.

`build_records` says that every build that returns is a run of such entries, one component entry
for each component schema in the order of the names.  Everything that is said later about the
models of a document is read off this account: what a model stands for, and which models can
share a name.
-/

namespace ApiCompiler

/-- A model of the registry, and how it came there. -/
inductive Entry where
  | hoisted (model : Model)
  | component (model : Model)

namespace Entry

/-- The model of an entry. -/
def model : Entry → Model
  | .hoisted m => m
  | .component m => m

/-- Whether an entry is that of a component. -/
def isComponent : Entry → Bool
  | .hoisted _ => false
  | .component _ => true

end Entry

namespace Document

open Schema (Represents)

/-- The model is a component of the document: it has its name, its annotations, and the shape that
compiling its schema returned, which left the registry as it is given. -/
def Owns (d : Document) (r : Registry) (m : Model) : Prop :=
  ∃ s, (m.name, s) ∈ d.schemas ∧ m.annotations = s.annotations ∧
    ∃ before after, (s.compile m.name "" false).Returns before m.shape after ∧ after.registry = r

/-- The second registry is the first one after some entries were made, in their order. -/
inductive Records (d : Document) : Registry → List Entry → Registry → Prop
  | refl (r : Registry) : Records d r [] r
  | hoisted {r r' : Registry} {es : List Entry} {m : Model} (h : Records d r es r')
      (free : r'.model? m.name = none) (hm : d.Hoists r' m) :
      Records d r (es ++ [.hoisted m]) (r'.addModel m)
  | component {r r' : Registry} {es : List Entry} {m : Model} (h : Records d r es r')
      (hm : d.Owns r' m) : Records d r (es ++ [.component m]) (r'.addModel m)

variable {d : Document}

namespace Records

variable {r r' r'' : Registry} {es es' : List Entry}

theorem trans (h : d.Records r es r') (h' : d.Records r' es' r'') :
    d.Records r (es ++ es') r'' := by
  induction h' with
  | refl => rwa [List.append_nil]
  | hoisted _ free hm ih =>
    rw [← List.append_assoc]
    exact .hoisted ih free hm
  | component _ hm ih =>
    rw [← List.append_assoc]
    exact .component ih hm

/-- Where the registry only grows by hoisted models, there are only entries for these. -/
theorem of_grows (h : r.Grows d.Hoists r') :
    ∃ es, d.Records r es r' ∧ es.filter (·.isComponent) = [] := by
  induction h with
  | refl => exact ⟨[], .refl r, rfl⟩
  | add m _ free hm ih =>
    obtain ⟨es, hes, hnone⟩ := ih
    refine ⟨_, .hoisted hes free hm, ?_⟩
    rw [List.filter_append, hnone]
    rfl

/-- The entries are the models that were added. -/
theorem models_eq (h : d.Records r es r') : r'.models = r.models ++ es.map (·.model) := by
  induction h with
  | refl => simp
  | hoisted _ _ _ ih => simp [Registry.addModel, ih, Entry.model]
  | component _ _ ih => simp [Registry.addModel, ih, Entry.model]

/-- The first model of a name stays the first. -/
theorem model?_eq_some {n : String} {m : Model} (h : d.Records r es r')
    (hm : r.model? n = some m) : r'.model? n = some m := by
  induction h with
  | refl => exact hm
  | hoisted _ _ _ ih => exact Registry.model?_addModel_of_some ih
  | component _ _ ih => exact Registry.model?_addModel_of_some ih

theorem meant {shape : Shape} (h : d.Records r es r') (hm : d.Meant r shape) :
    d.Meant r' shape := by
  obtain ⟨s, hs, hrep⟩ := hm
  exact ⟨s, hs, hrep.mono fun _ _ => h.model?_eq_some⟩

/-- Two entries share a name only if the later one is that of a component. -/
theorem pairwise (h : d.Records r es r') :
    es.Pairwise fun e f => e.model.name = f.model.name → f.isComponent = true := by
  induction h with
  | refl => exact .nil
  | @hoisted r' es m h free hm ih =>
    refine List.pairwise_append.mpr ⟨ih, List.pairwise_singleton _ _, fun e he f hf => ?_⟩
    rw [List.mem_singleton] at hf
    subst hf
    intro hname
    -- the name of a hoisted model is free, so no entry before it has it
    rw [Registry.model?_eq_none, h.models_eq, List.map_append, List.mem_append, not_or] at free
    refine absurd (List.mem_map.mpr ⟨e.model, List.mem_map.mpr ⟨e, he, rfl⟩, hname⟩) free.2
  | component _ _ ih =>
    refine List.pairwise_append.mpr ⟨ih, List.pairwise_singleton _ _, fun e he f hf => ?_⟩
    rw [List.mem_singleton] at hf
    subst hf
    exact fun _ => rfl

end Records

/-! ## The account of a build -/

variable {before after : BuildState}

/-- A component stands for its schema. -/
theorem Owns.meant {r : Registry} {m : Model} (h : d.Owns r m) : d.Meant r m.shape := by
  obtain ⟨s, hs, -, u, v, hrun, rfl⟩ := h
  have hwritten : d.Writes s := Writes.component hs
  refine ⟨some s, fun p hp => ?_, (s.sound hrun).2⟩
  obtain rfl := Option.some.inj hp
  exact hwritten

/-- A hoisted model stands for the schema it is hoisted out of. -/
theorem Hoists.meant {r : Registry} {m : Model} (h : d.Hoists r m) : d.Meant r m.shape := by
  obtain ⟨owner, s, hs, hhoists⟩ := h
  obtain ⟨k, c, hocc, -, hrep, -⟩ := hhoists.source
  refine ⟨some (.inline k c), fun p hp => ?_, hrep⟩
  obtain rfl := Option.some.inj hp
  exact hs.occurs hocc

/-- Every model that was added stands for a schema of the document. -/
theorem Records.models_meant {r r' : Registry} {es : List Entry} (h : d.Records r es r') :
    ∀ e ∈ es, d.Meant r' e.model.shape := by
  induction h with
  | refl => exact fun e he => nomatch he
  | @hoisted r' es m h free hm ih =>
    have hlast : d.Records r' [.hoisted m] (r'.addModel m) := .hoisted (.refl r') free hm
    intro e he
    rcases List.mem_append.mp he with he | he
    · exact hlast.meant (ih e he)
    · rw [List.mem_singleton] at he
      subst he
      exact hlast.meant hm.meant
  | @component r' es m h hm ih =>
    have hlast : d.Records r' [.component m] (r'.addModel m) := .component (.refl r') hm
    intro e he
    rcases List.mem_append.mp he with he | he
    · exact hlast.meant (ih e he)
    · rw [List.mem_singleton] at he
      subst he
      exact hlast.meant hm.meant

/-- Compiling component schemas makes one component entry for each of them, in order. -/
theorem compileSchemas_records {l : List (String × Schema)} (hl : ∀ e ∈ l, e ∈ d.schemas)
    (h : (compileSchemas l).Returns before () after) :
    ∃ es, d.Records before.registry es after.registry ∧
      (es.filter (·.isComponent)).map (·.model.name) = l.map (·.1) := by
  induction l generalizing before with
  | nil =>
    obtain ⟨-, rfl⟩ := Build.pure_returns.mp h
    exact ⟨[], .refl _, rfl⟩
  | cons e l ih =>
    obtain ⟨name, s⟩ := e
    rw [List.forall_mem_cons] at hl
    rw [compileSchemas, Build.bind_returns] at h
    obtain ⟨shape, t, hrun, h⟩ := h
    rw [Build.registry_bind_returns, Build.setRegistry_bind_returns] at h
    obtain ⟨rest, hrest, hnames⟩ := ih hl.2 h
    have hgrows : before.registry.Grows d.Hoists t.registry :=
      (s.sound hrun).1.imp fun _ _ hm => ⟨name, s, .component hl.1, hm⟩
    obtain ⟨hoisted, hhoisted, hnone⟩ := Records.of_grows hgrows
    have howns : d.Owns t.registry ⟨name, shape, s.annotations⟩ :=
      ⟨s, hl.1, rfl, before, t, hrun, rfl⟩
    refine ⟨_, (Records.component hhoisted howns).trans hrest, ?_⟩
    rw [List.filter_append, List.filter_append, hnone, List.map_append, hnames]
    rfl

/-- The operations of services are those that were grouped. -/
theorem mem_of_mem_group {ops : List ApiCompiler.Operation} {service : Service}
    (hs : service ∈ group ops) {op : ApiCompiler.Operation} (hop : op ∈ service.operations) :
    op ∈ ops := by
  obtain ⟨tag, -, rfl⟩ := List.mem_map.mp hs
  exact (List.mem_filter.mp (List.mem_mergeSort.mp hop)).1

/-- The account of a build that returns: the entries are the models of the description, there is
one component entry for each component schema in the order of names, and every shape of an
operation stands for what the document writes. -/
theorem build_records {strict : Bool} {api : Api}
    (h : d.build.Returns (Build.start strict) api after) :
    ∃ es, d.Records (.empty strict) es after.registry ∧
      api.models = es.map (·.model) ∧ after.registry.models = api.models ∧
      (es.filter (·.isComponent)).map (·.model.name) = (sortedByKey d.schemas).map (·.1) ∧
      ∀ service ∈ api.services, ∀ op ∈ service.operations, ∀ shape ∈ op.shapes,
        d.Meant after.registry shape := by
  rw [build, Build.bind_returns] at h
  obtain ⟨_, t, hmodels, h⟩ := h
  rw [Build.bind_returns] at h
  obtain ⟨services, u, hservices, h⟩ := h
  rw [Build.registry_bind_returns] at h
  obtain ⟨rfl, rfl⟩ := Build.pure_returns.mp h
  rw [compileServices, Build.bind_returns] at hservices
  obtain ⟨ops, v, hops, hpure⟩ := hservices
  obtain ⟨rfl, rfl⟩ := Build.pure_returns.mp hpure
  obtain ⟨es, hes, hnames⟩ := compileSchemas_records
    (fun e he => List.mem_mergeSort.mp he) hmodels
  obtain ⟨hgrows, hmeant⟩ := compileOperations_returns hops
  obtain ⟨hoisted, hhoisted, hnone⟩ := Records.of_grows hgrows
  have hall := hes.trans hhoisted
  refine ⟨_, hall, ?_, rfl, ?_, fun service hs op hop => hmeant op (mem_of_mem_group hs hop)⟩
  · have hmodelsEq := hall.models_eq
    rwa [show (Build.start strict).registry.models = [] from rfl, List.nil_append] at hmodelsEq
  · rw [List.filter_append, hnone, List.append_nil, hnames]
    rfl

/-- A document that is compiled has been built. -/
theorem build_returns_of_compile {strict : Bool} {api : Api} {notices : List Notice}
    (h : d.compile strict = (.ok api, notices)) :
    ∃ after, d.build.Returns (Build.start strict) api after ∧ after.notices = notices := by
  have hrun : d.compile strict = ((d.build.outcome (Build.start strict)).1,
      (d.build.outcome (Build.start strict)).2.notices) := rfl
  rw [hrun, Prod.mk.injEq] at h
  refine ⟨(d.build.outcome (Build.start strict)).2, ?_, h.2⟩
  rw [Build.Returns, ← h.1]

end Document
end ApiCompiler
