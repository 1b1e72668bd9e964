import ApiCompiler.Proofs.Compilation.Ledger
import ApiCompiler.Proofs.Derivation.Definitions
import ApiCompiler.Proofs.Hoisting.Mentions
import Mathlib

/-!
# Services partition the operations

Operations are walked path by path and method by method, grouped under a tag each, and sorted
again within their service.  An operation is told apart by its place, the path and the method it
is declared under.  No place is walked twice, so no place occurs twice in the services, and since
the services have different tags, no operation stands in two of them.

`GroupedUnder` is what the grouping tag of an operation is meant to be, and `groupingTag?_eq_some`
says that it is what is computed.  `Document.Partitions` is the statement about the services; it
follows for whatever the registry holds before the operations are compiled.
-/

namespace ApiCompiler

/-! ## The grouping tag -/

/-- A tag is allowed where no list of tags is given, or one that contains it. -/
def Allows (allowed : Option (List String)) (tag : String) : Prop := ∀ ts ∈ allowed, tag ∈ ts

/-- The tag that an operation with some declared tags is grouped under: the fallback if it declares
none, or the first one of its tags that is allowed. -/
inductive GroupedUnder (allowed : Option (List String)) : List String → String → Prop
  | untagged (h : Allows allowed fallbackTag) : GroupedUnder allowed [] fallbackTag
  | tagged {front rest : List String} {tag : String} (h : Allows allowed tag)
      (first : ∀ t ∈ front, ¬ Allows allowed t) :
      GroupedUnder allowed (front ++ tag :: rest) tag

instance (allowed : Option (List String)) (tag : String) : Decidable (Allows allowed tag) :=
  inferInstanceAs (Decidable (∀ ts ∈ allowed, tag ∈ ts))

theorem groupingTag?_eq_find? (tags : List String) (allowed : Option (List String)) :
    groupingTag? tags allowed =
      (if tags.isEmpty then [fallbackTag] else tags).find? fun t => Allows allowed t := by
  cases allowed <;> simp [groupingTag?, Allows]

/-- What is computed as the grouping tag is the tag that is meant. -/
theorem groupingTag?_eq_some {allowed : Option (List String)} {tags : List String}
    {tag : String} : groupingTag? tags allowed = some tag ↔ GroupedUnder allowed tags tag := by
  rw [groupingTag?_eq_find?, List.find?_eq_some_iff_append]
  simp only [decide_eq_true_eq, Bool.not_eq_true', decide_eq_false_iff_not]
  constructor
  · rintro ⟨htag, front, rest, htags, hfirst⟩
    cases tags with
    | nil =>
      -- the fallback stands for the missing tags, and it is the only one
      obtain ⟨rfl, hlast⟩ | ⟨_, -, hlast⟩ := List.cons_eq_append_iff.mp htags
      · cases hlast
        exact .untagged htag
      · exact nomatch (List.append_eq_nil_iff.mp hlast.symm).2
    | cons t tags =>
      rw [if_neg (by simp)] at htags
      rw [htags]
      exact .tagged htag hfirst
  · rintro (h | @⟨front, rest, _, h, hfirst⟩)
    · exact ⟨h, [], [], rfl, fun t ht => nomatch ht⟩
    · exact ⟨h, front, rest, by simp, hfirst⟩

/-! ## Places -/

/-- The place of an operation: its path and its method. -/
def Operation.place (op : Operation) : String × String := (op.path, op.method)

/-- One operation comes before the other, by path and then by method. -/
def Operation.Before (a b : Operation) : Prop :=
  a.path < b.path ∨ a.path = b.path ∧ a.method < b.method

theorem Method.name_injective : Function.Injective Method.name := by
  intro m m' h
  cases m <;> cases m' <;> first | rfl | exact absurd h (by decide)

theorem Method.nodup_all : Method.all.Nodup := by decide

theorem Method.mem_all (m : Method) : m ∈ Method.all := by cases m <;> decide

namespace Document

/-- The path has the operation under the method. -/
def Declares (d : Document) (path : String) (item : PathItem) (method : Method) (op : Operation) :
    Prop :=
  (path, item) ∈ d.pathItems ∧ item.operation? method = some op

variable {d : Document} {allowed : Option (List String)}

theorem PathItem.mem_operations {item : PathItem} {method : Method} {op : Operation} :
    (method, op) ∈ item.operations ↔ item.operation? method = some op := by
  rw [PathItem.operations, List.mem_filterMap]
  constructor
  · rintro ⟨m, -, h⟩
    obtain ⟨o, ho, heq⟩ := Option.map_eq_some_iff.mp h
    cases heq
    exact ho
  · intro h
    exact ⟨method, method.mem_all, by rw [h]; rfl⟩

/-- The operations that are grouped are those that are declared and have a grouping tag. -/
theorem mem_groupedOperations_iff {tag path : String} {item : PathItem} {method : Method}
    {op : Operation} :
    (tag, path, item, method, op) ∈ d.groupedOperations allowed ↔
      d.Declares path item method op ∧ GroupedUnder allowed (op.tags.getD []) tag := by
  rw [mem_groupedOperations, Declares, PathItem.mem_operations, groupingTag?_eq_some]

/-- No two operations of a path item have the same method. -/
theorem PathItem.pairwise_operations (item : PathItem) :
    item.operations.Pairwise fun o o' => o.1 ≠ o'.1 := by
  rw [PathItem.operations, List.pairwise_filterMap]
  refine Method.nodup_all.imp fun {m m'} hne o ho o' ho' => ?_
  obtain ⟨op, -, rfl⟩ := Option.map_eq_some_iff.mp ho
  obtain ⟨op', -, rfl⟩ := Option.map_eq_some_iff.mp ho'
  exact hne

/-- No place is walked twice. -/
theorem pairwise_declaredOperations (hpaths : (d.pathItems.map (·.1)).Nodup) :
    d.declaredOperations.Pairwise fun o o' => (o.1, o.2.2.1.name) ≠ (o'.1, o'.2.2.1.name) := by
  have hsorted : ((sortedByKey d.pathItems).map (·.1)).Nodup :=
    ((List.mergeSort_perm _ _).map _).nodup_iff.mpr hpaths
  rw [declaredOperations, List.pairwise_flatMap]
  constructor
  · intro e _
    rw [List.pairwise_map]
    refine e.2.pairwise_operations.imp fun {o o'} hne heq => hne ?_
    exact Method.name_injective (congrArg Prod.snd heq)
  · refine (List.pairwise_map.mp hsorted).imp fun {e e'} hne x hx y hy heq => hne ?_
    obtain ⟨o, -, rfl⟩ := List.mem_map.mp hx
    obtain ⟨o', -, rfl⟩ := List.mem_map.mp hy
    exact congrArg (·.1) heq

theorem pairwise_groupedOperations (hpaths : (d.pathItems.map (·.1)).Nodup) :
    (d.groupedOperations allowed).Pairwise fun o o' =>
      (o.2.1, o.2.2.2.1.name) ≠ (o'.2.1, o'.2.2.2.1.name) := by
  rw [groupedOperations, List.pairwise_filterMap]
  refine (pairwise_declaredOperations hpaths).imp fun {o o'} hne g hg g' hg' => ?_
  obtain ⟨t, -, rfl⟩ := Option.map_eq_some_iff.mp hg
  obtain ⟨t', -, rfl⟩ := Option.map_eq_some_iff.mp hg'
  exact hne

/-! ## Compiling in place -/

variable {before after : BuildState}

/-- An operation is compiled under the place and the tag it is given. -/
theorem Operation.compile_place {c : Components} {path method tag : String}
    {inherited : List (OrReference Parameter)} {op : Operation}
    {compiled : ApiCompiler.Operation}
    (h : (op.compile c path method tag inherited).Returns before compiled after) :
    compiled.place = (path, method) ∧ compiled.tag = tag := by
  rw [Operation.compile, Build.bind_returns] at h
  obtain ⟨params, t, -, h⟩ := h
  rw [Build.bind_returns] at h
  obtain ⟨body, u, -, h⟩ := h
  rw [Build.bind_returns] at h
  obtain ⟨response, v, -, hpure⟩ := h
  obtain ⟨rfl, -⟩ := Build.pure_returns.mp hpure
  exact ⟨rfl, rfl⟩

/-- The operation is what compiling a declared one under a tag returned, in some state. -/
def Compiled (d : Document) (tag path : String) (item : PathItem) (method : Method)
    (op : Operation) (compiled : ApiCompiler.Operation) : Prop :=
  ∃ before after, (op.compile d.parts path method.name tag (item.parameters.getD [])).Returns
    before compiled after

/-- The same for an operation as it is grouped. -/
def CompiledFrom (d : Document) (o : String × String × PathItem × Method × Operation)
    (compiled : ApiCompiler.Operation) : Prop :=
  d.Compiled o.1 o.2.1 o.2.2.1 o.2.2.2.1 o.2.2.2.2 compiled

/-- The operations that are compiled correspond to those that are grouped. -/
theorem compileOperations_forall₂ {ops : List ApiCompiler.Operation}
    (h : (d.compileOperations allowed).Returns before ops after) :
    List.Forall₂ d.CompiledFrom (d.groupedOperations allowed) ops := by
  rw [compileOperations, Build.forEach_returns] at h
  have hsteps : Build.Sequence (fun o _ c _ => True ∧ d.CompiledFrom o c)
      (d.groupedOperations allowed) before ops after :=
    h.imp fun o _ s c t hrun => ⟨trivial, s, t, hrun⟩
  exact (hsteps.forall₂ (fun _ => trivial) (fun _ _ _ _ _ => trivial) fun _ _ _ _ hc _ => hc).2

section

variable {ops : List ApiCompiler.Operation}
  (h : List.Forall₂ d.CompiledFrom (d.groupedOperations allowed) ops)

include h

theorem exists_compiled {tag path : String} {item : PathItem} {method : Method} {op : Operation}
    (ho : (tag, path, item, method, op) ∈ d.groupedOperations allowed) :
    ∃ c ∈ ops, d.Compiled tag path item method op c := by
  obtain ⟨c, hmem⟩ := Schema.exists_mem_zip h.length_eq.symm ho
  have hcompiled : d.CompiledFrom (tag, path, item, method, op) c :=
    List.forall₂_zip (List.Forall₂.flip h) hmem
  exact ⟨c, (List.of_mem_zip hmem).1, hcompiled⟩

theorem exists_grouped {c : ApiCompiler.Operation} (hc : c ∈ ops) :
    ∃ tag path item method op, (tag, path, item, method, op) ∈ d.groupedOperations allowed ∧
      d.Compiled tag path item method op c := by
  obtain ⟨⟨tag, path, item, method, op⟩, hmem⟩ := Schema.exists_mem_zip h.length_eq hc
  have hcompiled : d.CompiledFrom (tag, path, item, method, op) c := List.forall₂_zip h hmem
  exact ⟨tag, path, item, method, op, (List.of_mem_zip hmem).1, hcompiled⟩

/-- No place is compiled twice. -/
theorem nodup_places (hpaths : (d.pathItems.map (·.1)).Nodup) :
    (ops.map (·.place)).Nodup := by
  have hplaces : (d.groupedOperations allowed).map (fun o => (o.2.1, o.2.2.2.1.name)) =
      ops.map (·.place) := by
    rw [← List.forall₂_eq_eq_eq, List.forall₂_map_left_iff, List.forall₂_map_right_iff]
    refine h.imp fun o c hc => ?_
    obtain ⟨s, t, hrun⟩ := hc
    exact (Operation.compile_place hrun).1.symm
  rw [← hplaces]
  exact List.pairwise_map.mpr (pairwise_groupedOperations hpaths)

end

/-! ## Grouping -/

section Group

variable {ops : List ApiCompiler.Operation}

theorem mem_operations_of_mem_group {s : Service} (hs : s ∈ group ops)
    {op : ApiCompiler.Operation} : op ∈ s.operations ↔ op ∈ ops ∧ op.tag = s.tag := by
  obtain ⟨tag, -, rfl⟩ := List.mem_map.mp hs
  rw [List.mem_mergeSort, List.mem_filter, decide_eq_true_eq]

theorem exists_mem_group {op : ApiCompiler.Operation} (hop : op ∈ ops) :
    ∃ s ∈ group ops, s.tag = op.tag := by
  refine ⟨_, List.mem_map.mpr ⟨op.tag, ?_, rfl⟩, rfl⟩
  rw [List.mem_mergeSort, List.mem_eraseDups]
  exact List.mem_map.mpr ⟨op, hop, rfl⟩

theorem operations_ne_nil_of_mem_group {s : Service} (hs : s ∈ group ops) :
    s.operations ≠ [] := by
  have hmem := hs
  obtain ⟨tag, htag, rfl⟩ := List.mem_map.mp hs
  rw [List.mem_mergeSort, List.mem_eraseDups] at htag
  obtain ⟨op, hop, rfl⟩ := List.mem_map.mp htag
  exact List.ne_nil_of_mem ((mem_operations_of_mem_group hmem).mpr ⟨hop, rfl⟩)

/-- The tags of services are in order, and no two of them are the same. -/
theorem pairwise_tags_group (ops : List ApiCompiler.Operation) :
    ((group ops).map (·.tag)).Pairwise (· < ·) := by
  have htags : (group ops).map (·.tag) = (ops.map (·.tag)).eraseDups.mergeSort (· ≤ ·) := by
    rw [group, List.map_map]
    exact List.map_id _
  have hnodup : ((ops.map (·.tag)).eraseDups.map id).Nodup := by
    rw [List.map_id]
    exact nodup_eraseDups _
  have hsorted := Sorting.pairwise_lt_mergeSort id hnodup
  rw [List.map_id] at hsorted
  rw [htags]
  exact hsorted

theorem comesBefore_iff {a b : ApiCompiler.Operation} :
    comesBefore a b = true ↔ a.path < b.path ∨ a.path = b.path ∧ a.method ≤ b.method := by
  simp [comesBefore]

theorem comesBefore_trans (a b c : ApiCompiler.Operation) (hab : comesBefore a b = true)
    (hbc : comesBefore b c = true) : comesBefore a c = true := by
  rw [comesBefore_iff] at *
  rcases hab with hab | ⟨hab, hm⟩
  · rcases hbc with hbc | ⟨hbc, -⟩
    · exact Or.inl (hab.trans hbc)
    · exact Or.inl (hbc ▸ hab)
  · rcases hbc with hbc | ⟨hbc, hm'⟩
    · exact Or.inl (hab ▸ hbc)
    · exact Or.inr ⟨hab.trans hbc, hm.trans hm'⟩

theorem comesBefore_total (a b : ApiCompiler.Operation) :
    (comesBefore a b || comesBefore b a) = true := by
  rw [Bool.or_eq_true, comesBefore_iff, comesBefore_iff]
  rcases lt_trichotomy a.path b.path with h | h | h
  · exact Or.inl (Or.inl h)
  · exact (le_total a.method b.method).imp (fun hm => Or.inr ⟨h, hm⟩) fun hm => Or.inr ⟨h.symm, hm⟩
  · exact Or.inr (Or.inl h)

/-- Operations of different places come strictly before each other. -/
theorem before_of_comesBefore {a b : ApiCompiler.Operation} (h : comesBefore a b = true)
    (hne : a.place ≠ b.place) : a.Before b := by
  rcases comesBefore_iff.mp h with h | ⟨hpath, hmethod⟩
  · exact Or.inl h
  · refine Or.inr ⟨hpath, lt_of_le_of_ne hmethod fun heq => hne ?_⟩
    exact Prod.ext hpath heq

/-- The operations of a service are in order, and no two of them have the same place. -/
theorem pairwise_operations_group (hplaces : (ops.map (·.place)).Nodup) {s : Service}
    (hs : s ∈ group ops) : s.operations.Pairwise ApiCompiler.Operation.Before := by
  obtain ⟨tag, -, rfl⟩ := List.mem_map.mp hs
  have hsorted := List.pairwise_mergeSort comesBefore_trans comesBefore_total
    (ops.filter fun op => op.tag = tag)
  have hdistinct : ((ops.filter fun op => op.tag = tag).mergeSort comesBefore).Pairwise
      fun a b => a.place ≠ b.place :=
    ((List.mergeSort_perm _ _).pairwise_iff fun h => h.symm).mpr
      ((List.pairwise_map.mp hplaces).filter _)
  exact (hsorted.and hdistinct).imp fun h => before_of_comesBefore h.1 h.2

/-- No place occurs twice in the services. -/
theorem nodup_places_group (hplaces : (ops.map (·.place)).Nodup) :
    ((group ops).flatMap fun s => s.operations.map (·.place)).Nodup := by
  rw [List.Nodup, List.pairwise_flatMap]
  constructor
  · intro s hs
    rw [List.pairwise_map]
    refine (pairwise_operations_group hplaces hs).imp fun {a b} hbefore heq => ?_
    rcases hbefore with hlt | ⟨-, hlt⟩
    · exact absurd (congrArg Prod.fst heq) hlt.ne
    · exact absurd (congrArg Prod.snd heq) hlt.ne
  · refine (List.pairwise_map.mp (pairwise_tags_group ops)).imp_of_mem ?_
    intro s s' hs hs' hlt x hx y hy heq
    obtain ⟨a, ha, rfl⟩ := List.mem_map.mp hx
    obtain ⟨b, hb, rfl⟩ := List.mem_map.mp hy
    obtain ⟨ha, hatag⟩ := (mem_operations_of_mem_group hs).mp ha
    obtain ⟨hb, hbtag⟩ := (mem_operations_of_mem_group hs').mp hb
    -- one place means one operation, which has one tag
    have hab : a = b := List.inj_on_of_nodup_map hplaces ha hb heq
    rw [← hatag, ← hbtag, hab] at hlt
    exact lt_irrefl _ hlt

end Group

/-! ## The partition -/

/-- The services are the declared operations that have a grouping tag, each of them in the service
of this tag and nowhere else, in the order of tags, paths and methods. -/
structure Partitions (d : Document) (allowed : Option (List String)) (services : List Service) :
    Prop where
  complete : ∀ path item method op tag, d.Declares path item method op →
    GroupedUnder allowed (op.tags.getD []) tag → ∃ s ∈ services, s.tag = tag ∧
      ∃ compiled ∈ s.operations, compiled.place = (path, method.name) ∧
        d.Compiled tag path item method op compiled
  sound : ∀ s ∈ services, ∀ compiled ∈ s.operations, compiled.tag = s.tag ∧
    ∃ path item method op, compiled.place = (path, method.name) ∧
      d.Declares path item method op ∧ GroupedUnder allowed (op.tags.getD []) s.tag ∧
      d.Compiled s.tag path item method op compiled
  once : (services.flatMap fun s => s.operations.map (·.place)).Nodup
  nonempty : ∀ s ∈ services, s.operations ≠ []
  tags : (services.map (·.tag)).Pairwise (· < ·)
  operations : ∀ s ∈ services, s.operations.Pairwise ApiCompiler.Operation.Before

/-- **Services partition the operations.**  Whenever the operations of a document are compiled,
under whatever tags are allowed, every declared operation that has a grouping tag occurs once, in
the service of this tag, and no other operation occurs.  No service is empty.  Services come in
strict order of their tags, and the operations of a service in strict order of path and method. -/
theorem services_partition (d : Document) (hpaths : (d.pathItems.map (·.1)).Nodup)
    (allowed : Option (List String)) {before after : BuildState} {services : List Service}
    (h : (d.compileServices allowed).Returns before services after) :
    d.Partitions allowed services := by
  rw [compileServices, Build.bind_returns] at h
  obtain ⟨ops, t, hops, hpure⟩ := h
  obtain ⟨rfl, -⟩ := Build.pure_returns.mp hpure
  have hcompiled := compileOperations_forall₂ hops
  have hplaces := nodup_places hcompiled hpaths
  refine ⟨?_, ?_, nodup_places_group hplaces, fun s hs => operations_ne_nil_of_mem_group hs,
    pairwise_tags_group ops, fun s hs => pairwise_operations_group hplaces hs⟩
  · intro path item method op tag hdeclares htag
    obtain ⟨c, hc, hcompile⟩ :=
      exists_compiled hcompiled (mem_groupedOperations_iff.mpr ⟨hdeclares, htag⟩)
    obtain ⟨u, v, hrun⟩ := id hcompile
    obtain ⟨hplace, hctag⟩ := Operation.compile_place hrun
    obtain ⟨s, hs, hstag⟩ := exists_mem_group hc
    refine ⟨s, hs, hstag.trans hctag, c, ?_, hplace, hcompile⟩
    exact (mem_operations_of_mem_group hs).mpr ⟨hc, hstag.symm⟩
  · intro s hs c hc
    obtain ⟨hc, hstag⟩ := (mem_operations_of_mem_group hs).mp hc
    obtain ⟨tag, path, item, method, op, ho, u, v, hrun⟩ := exists_grouped hcompiled hc
    obtain ⟨hplace, hctag⟩ := Operation.compile_place hrun
    obtain ⟨hdeclares, htag⟩ := mem_groupedOperations_iff.mp ho
    obtain rfl : s.tag = tag := hstag.symm.trans hctag
    exact ⟨hstag, path, item, method, op, hplace, hdeclares, htag, u, v, hrun⟩

end Document

namespace Zoo

/-- An operation of which nothing is known but its tags. -/
def tagged (tags : List String) : Document.Operation :=
  ⟨some tags, none, none, none, none, none, none, none, none, [], []⟩

/-- A path with two operations. -/
def item (get put : Document.Operation) : Document.PathItem :=
  ⟨none, none, some get, some put, none, none, none, none, none, none, none, [], []⟩

/-- One operation has a tag that is not allowed before one that is, one has none that is, and one
of the two under the fallback declares no tags. -/
def document : Document :=
  { openapi := "3.0.0"
    info := ⟨"Zoo", "1", none, [], []⟩
    paths := some [("/pens", item (tagged ["new", "cats"]) (tagged [])),
      ("/cats", item (tagged ["cats", "misc"]) (tagged ["new"])),
      ("/visits", item (tagged ["misc"]) (tagged ["dogs"]))]
    components := none
    tags := none
    extra := []
    nulls := [] }

def compiled (path method tag : String) (tags : List String) : Operation :=
  ⟨none, method, path, tag, tags, none, none, false, [], [], [], none, .undeclared⟩

def services : List Service :=
  [⟨"cats", [compiled "/cats" "GET" "cats" ["cats", "misc"],
      compiled "/pens" "GET" "cats" ["new", "cats"]]⟩,
    ⟨"misc", [compiled "/pens" "PUT" "misc" [], compiled "/visits" "GET" "misc" ["misc"]]⟩]

theorem nodup_paths : (document.pathItems.map (·.1)).Nodup := by
  have hpaths : document.pathItems.map (·.1) = ["/pens", "/cats", "/visits"] := rfl
  rw [hpaths]
  decide

theorem compileServices_document :
    (document.compileServices (some ["misc", "cats"])).Returns (Build.start true) services
      (Build.start true) := by
  unfold Build.Returns
  cbv

/-- Where two tags are allowed, there are two services, with four of the six operations. -/
theorem zoo_partition :
    (document.pathItems.map (·.1)).Nodup ∧
      (document.compileServices (some ["misc", "cats"])).Returns (Build.start true) services
        (Build.start true) ∧
      document.Partitions (some ["misc", "cats"]) services :=
  ⟨nodup_paths, compileServices_document,
    Document.services_partition document nodup_paths _ compileServices_document⟩

end Zoo
end ApiCompiler
