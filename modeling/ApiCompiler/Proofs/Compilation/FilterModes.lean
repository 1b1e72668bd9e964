import ApiCompiler.Client
import ApiCompiler.Derivation
import ApiCompiler.Proofs.Compilation.Grouping
import ApiCompiler.Proofs.Derivation.Filtering
import Mathlib

/-!
# Filtering whole services

A filter tests the operations of a service one by one, each by all its tags, or the service as a
whole, by the tag it is grouped under.  An operation that declares at most one tag is grouped under
this tag, or under the fallback if it declares none, and these are exactly the tags that the filter
sees of it (`GroupedUnder.seen_eq`).  So where no operation of a document declares two tags, the two
modes ask the same question of every operation, and derive the same description
(`filter_modes_agree`).

What makes the step from operations to services is that every operation of a service carries the
tag of the service, and that a service is left out only if no operation of it is kept, in both
modes.
-/

namespace ApiCompiler

/-! ## Two ways to select -/

/-- Predicates that agree on the operations of services select the same ones. -/
theorem selectOperations_congr {p q : String → Operation → Bool} {services : List Service}
    (h : ∀ s ∈ services, ∀ op ∈ s.operations, p s.tag op = q s.tag op) :
    selectOperations p services = selectOperations q services := by
  refine List.filterMap_congr fun s hs => ?_
  have hfilter : s.operations.filter (p s.tag) = s.operations.filter (q s.tag) :=
    List.filter_congr fun op hop => h s hs op hop
  rw [Service.select, Service.select, hfilter]

/-- Both modes keep the same if a filter sees of every operation the tag of its service only. -/
theorem TagFilter.apply_modes {services : List Service}
    (h : ∀ s ∈ services, ∀ op ∈ s.operations, op.effectiveTags = [s.tag])
    (included excluded : List TagMatch) :
    TagFilter.apply ⟨included, excluded, .service⟩ services =
      TagFilter.apply ⟨included, excluded, .operation⟩ services := by
  rw [apply_eq_select, apply_eq_select]
  refine selectOperations_congr fun s hs op hop => ?_
  show TagFilter.accepts ⟨included, excluded, .service⟩ [s.tag] =
    TagFilter.accepts ⟨included, excluded, .operation⟩ op.effectiveTags
  rw [h s hs op hop]
  rfl

/-! ## The tags that a filter sees -/

/-- Of at most one declared tag, a filter sees the one the operation is grouped under. -/
theorem GroupedUnder.seen_eq {allowed : Option (List String)} {tags : List String} {tag : String}
    (h : GroupedUnder allowed tags tag) (hone : tags.length ≤ 1) :
    (if tags.isEmpty then [fallbackTag] else tags) = [tag] := by
  cases h with
  | untagged => rfl
  | @tagged front rest _ _ _ =>
    rw [List.length_append, List.length_cons] at hone
    have hfront : front = [] := List.eq_nil_of_length_eq_zero (by omega)
    have hrest : rest = [] := List.eq_nil_of_length_eq_zero (by omega)
    rw [hfront, hrest]
    rfl

namespace Document

variable {d : Document} {before after : BuildState}

/-- An operation keeps the tags it declares. -/
theorem Operation.compile_originalTags {c : Components} {path method tag : String}
    {inherited : List (OrReference Parameter)} {op : Operation}
    {compiled : ApiCompiler.Operation}
    (h : (op.compile c path method tag inherited).Returns before compiled after) :
    compiled.originalTags = op.tags.getD [] := by
  rw [Operation.compile, Build.bind_returns] at h
  obtain ⟨params, t, -, h⟩ := h
  rw [Build.bind_returns] at h
  obtain ⟨body, u, -, h⟩ := h
  rw [Build.bind_returns] at h
  obtain ⟨response, v, -, hpure⟩ := h
  obtain ⟨rfl, -⟩ := Build.pure_returns.mp hpure
  rfl

/-- No operation of the document declares more than one tag. -/
def TagsOnce (d : Document) : Prop :=
  ∀ path item method op, d.Declares path item method op → (op.tags.getD []).length ≤ 1

/-- Of an operation of a service a filter sees the tag of the service only. -/
theorem TagsOnce.effectiveTags (htags : d.TagsOnce) {allowed : Option (List String)}
    {services : List Service} (h : (d.compileServices allowed).Returns before services after) :
    ∀ s ∈ services, ∀ op ∈ s.operations, op.effectiveTags = [s.tag] := by
  rw [compileServices, Build.bind_returns] at h
  obtain ⟨ops, t, hops, hpure⟩ := h
  obtain ⟨rfl, -⟩ := Build.pure_returns.mp hpure
  intro s hs c hc
  obtain ⟨hc, hstag⟩ := (mem_operations_of_mem_group hs).mp hc
  obtain ⟨tag, path, item, method, op, ho, u, v, hrun⟩ :=
    exists_grouped (compileOperations_forall₂ hops) hc
  obtain ⟨hdeclares, hgrouped⟩ := mem_groupedOperations_iff.mp ho
  have htag : s.tag = tag := hstag.symm.trans (Operation.compile_place hrun).2
  rw [ApiCompiler.Operation.effectiveTags, Operation.compile_originalTags hrun, htag]
  exact hgrouped.seen_eq (htags path item method op hdeclares)

/-- The services of a description are those that were compiled on the way. -/
theorem exists_compileServices {strict : Bool} {api : Api}
    (h : d.build.Returns (Build.start strict) api after) :
    ∃ before after, (d.compileServices none).Returns before api.services after := by
  rw [build, Build.bind_returns] at h
  obtain ⟨_, t, -, h⟩ := h
  rw [Build.bind_returns] at h
  obtain ⟨services, u, hservices, h⟩ := h
  rw [Build.registry_bind_returns] at h
  obtain ⟨rfl, -⟩ := Build.pure_returns.mp h
  exact ⟨t, u, hservices⟩

/-- **Where no operation declares two tags, services may be filtered as a whole.**  Whatever the
patterns find, both modes of a filter derive the same description of such a document, with the same
notices, or fail alike; and so they do for every client, whose patterns may fail to be read. -/
theorem filter_modes_agree (d : Document) (htags : d.TagsOnce) {strict : Bool} {api : Api}
    {notices : List Notice} (hcompile : d.compile strict = (.ok api, notices))
    (strictly : Bool) :
    (∀ included excluded : List TagMatch,
      api.derive strictly ⟨included, excluded, .service⟩ =
        api.derive strictly ⟨included, excluded, .operation⟩) ∧
    ∀ c : Client,
      ({ c with filterMode := .service }.filter >>= fun f => api.derive strictly f) =
        ({ c with filterMode := .operation }.filter >>= fun f => api.derive strictly f) := by
  obtain ⟨_, hbuild, -⟩ := build_returns_of_compile hcompile
  obtain ⟨_, _, hservices⟩ := exists_compileServices hbuild
  have hderive : ∀ included excluded : List TagMatch,
      api.derive strictly ⟨included, excluded, .service⟩ =
        api.derive strictly ⟨included, excluded, .operation⟩ := by
    intro included excluded
    rw [Api.derive, Api.derive, TagFilter.apply_modes (htags.effectiveTags hservices)]
  refine ⟨hderive, fun c => ?_⟩
  rw [Client.filter, Client.filter, TagFilter.ofPatterns, TagFilter.ofPatterns]
  -- the patterns are read in the same way in both modes
  cases TagFilter.readPatterns (some "includeTags") c.includeTags with
  | error e => rfl
  | ok included =>
    cases TagFilter.readPatterns (some "excludeTags") c.excludeTags with
    | error e => rfl
    | ok excluded => exact hderive included excluded

end Document

/-! ## A farm -/

namespace Farm

/-- An operation of which nothing is known but its tags. -/
def tagged (tags : Option (List String)) : Document.Operation :=
  ⟨tags, none, none, none, none, none, none, none, none, [], []⟩

/-- A path that can be read and, if an operation is given, written. -/
def item (get : Document.Operation) (put : Option Document.Operation) : Document.PathItem :=
  ⟨none, none, some get, put, none, none, none, none, none, none, none, [], []⟩

/-- One operation has a tag of its own, one declares the fallback, and one declares nothing. -/
def document : Document :=
  { openapi := "3.0.0"
    info := ⟨"Farm", "1", none, [], []⟩
    paths := some [("/barns", item (tagged (some ["barns"])) (some (tagged none))),
      ("/fields", item (tagged (some ["misc"])) none)]
    components := none
    tags := none
    extra := []
    nulls := [] }

def compiled (path method tag : String) (tags : List String) : Operation :=
  ⟨none, method, path, tag, tags, none, none, false, [], [], [], none, .undeclared⟩

def barns : Service := ⟨"barns", [compiled "/barns" "GET" "barns" ["barns"]]⟩

def rest : Service :=
  ⟨"misc", [compiled "/barns" "PUT" "misc" [], compiled "/fields" "GET" "misc" ["misc"]]⟩

def api : Api := ⟨[barns, rest], [], []⟩

theorem compile_document : document.compile true = (.ok api, []) := by
  cbv

theorem tagsOnce : document.TagsOnce := by
  have hall : ∀ e ∈ document.pathItems, ∀ o ∈ e.2.operations,
      (o.2.tags.getD []).length ≤ 1 := by
    decide
  intro path item method op h
  exact hall (path, item) h.1 (method, op) (Document.PathItem.mem_operations.mpr h.2)

/-- A filter that excludes the fallback leaves the barns, whether it looks at services or at
operations. -/
theorem farm_filtered :
    document.TagsOnce ∧ document.compile true = (.ok api, []) ∧
      api.derive true ⟨[], [fun tag => tag = "misc"], .service⟩ = .ok (⟨[barns], [], []⟩, []) ∧
      api.derive true ⟨[], [fun tag => tag = "misc"], .operation⟩ = .ok (⟨[barns], [], []⟩, []) := by
  have hservice : api.derive true ⟨[], [fun tag => tag = "misc"], .service⟩ =
      .ok (⟨[barns], [], []⟩, []) := by
    cbv
  have hagree := (Document.filter_modes_agree document tagsOnce compile_document true).1 []
    [fun tag => tag = "misc"]
  exact ⟨tagsOnce, compile_document, hservice, hagree.symm.trans hservice⟩

end Farm
end ApiCompiler
