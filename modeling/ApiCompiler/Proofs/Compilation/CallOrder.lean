import ApiCompiler.Proofs.Compilation.Grouping
import ApiCompiler.Proofs.Compilation.Ledger
import ApiCompiler.Proofs.Generation.Manifest
import ApiCompiler.Proofs.Operation.Parameters
import ApiCompiler.Proofs.Operation.PathTemplate
import ApiCompiler.Proofs.Target.Spelling

/-!
# The order of path parameters in calls

A call gives the path parameters in the order in which the path names them.  The names in a path are
scanned from the path, while the parameters are merged from what is declared; a name may have no
parameter, and a parameter may not be named.  Nothing is lost all the same, since neither the names
nor the parameters repeat: the first because the scanner keeps first appearances
(`PathTemplate.params_lists`), the second because parameters are merged by name
(`Document.compileParameters_increasing`).
-/

namespace ApiCompiler
namespace Operation

variable {params : List Param} {order : List String}

theorem lastOfName_eq_some_iff (hnames : (params.map (·.name)).Nodup) {n : String} {p : Param} :
    lastOfName n params = some p ↔ p ∈ params ∧ p.name = n := by
  refine ⟨mem_of_lastOfName, ?_⟩
  rintro ⟨hp, rfl⟩
  have hreverse : (params.reverse.map (·.name)).Nodup := by
    rw [List.map_reverse, List.nodup_reverse]
    exact hnames
  exact find?_eq_some_of_nodup hreverse (List.mem_reverse.mpr hp)

/-- Looking names up finds parameters for those of the names that are a parameter's. -/
theorem map_name_filterMap_lastOfName (hnames : (params.map (·.name)).Nodup)
    (order : List String) :
    (order.filterMap fun n => lastOfName n params).map (·.name) =
      order.filter (· ∈ params.map (·.name)) := by
  rw [List.map_filterMap, ← List.filterMap_eq_filter]
  refine List.filterMap_congr fun n _ => ?_
  cases hfound : lastOfName n params with
  | none =>
    have hnone : n ∉ params.map (·.name) := by
      intro hn
      obtain ⟨p, hp, hname⟩ := List.mem_map.mp hn
      rw [(lastOfName_eq_some_iff hnames).mpr ⟨hp, hname⟩] at hfound
      cases hfound
    simp [Option.guard, hnone]
  | some p =>
    obtain ⟨hp, rfl⟩ := mem_of_lastOfName hfound
    simp [Option.guard, List.mem_map_of_mem hp]

/-- The parameters in the order of a call are some that are named, and then others. -/
structure CallOrder (op : Operation) (named others : List Param) : Prop where
  split : op.orderedPathParams = named ++ others
  /-- The first ones come in the order of the path. -/
  named : named.map (·.name) = op.pathParamOrder.filter (· ∈ op.pathParams.map (·.name))
  /-- The others are not named by the path, and come in the order of their names. -/
  unnamed : ∀ p ∈ others, p.name ∉ op.pathParamOrder
  increasing : (others.map (·.name)).Pairwise (· < ·)

variable {op : Operation}

theorem exists_callOrder (hnames : (op.pathParams.map (·.name)).Pairwise (· < ·)) :
    ∃ named others, op.CallOrder named others := by
  refine ⟨_, _, rfl, map_name_filterMap_lastOfName (hnames.imp ne_of_lt) _, fun p hp => ?_, ?_⟩
  · simpa using (List.mem_filter.mp hp).2
  · exact hnames.sublist (List.filter_sublist.map _)

/-- Where neither the names nor the parameters repeat, the order of a call has every parameter. -/
theorem orderedPathParams_perm (hnames : (op.pathParams.map (·.name)).Pairwise (· < ·))
    (horder : op.pathParamOrder.Nodup) : op.orderedPathParams.Perm op.pathParams := by
  have hnodup : (op.pathParams.map (·.name)).Nodup := hnames.imp ne_of_lt
  obtain ⟨named, others, hcall⟩ := exists_callOrder hnames
  have hordered : (op.orderedPathParams.map (·.name)).Nodup := by
    rw [hcall.split, List.map_append, hcall.named, List.nodup_append]
    refine ⟨horder.filter _, hcall.increasing.imp ne_of_lt, fun a ha b hb hab => ?_⟩
    obtain ⟨p, hp, rfl⟩ := List.mem_map.mp hb
    exact hcall.unnamed p hp (hab ▸ (List.mem_filter.mp ha).1)
  refine (List.perm_ext_iff_of_nodup hordered.of_map hnodup.of_map).mpr fun p => ?_
  simp only [orderedPathParams, List.mem_append, List.mem_filterMap,
    lastOfName_eq_some_iff hnodup, List.mem_filter]
  constructor
  · rintro (⟨n, -, hp, -⟩ | ⟨hp, -⟩)
    · exact hp
    · exact hp
  · intro hp
    by_cases hn : p.name ∈ op.pathParamOrder
    · exact Or.inl ⟨p.name, hn, hp, rfl⟩
    · exact Or.inr ⟨hp, by simp [hn]⟩

end Operation

namespace Document

variable {d : Document} {strict : Bool} {api : Api} {notices : List Notice}
  {op : ApiCompiler.Operation}

/-- An operation is compiled with the names in its path, and with parameters in strict order of
names. -/
theorem Operation.compile_pathParams {c : Components} {path method tag : String}
    {inherited : List (OrReference Parameter)} {o : Operation} {before after : BuildState}
    (h : (o.compile c path method tag inherited).Returns before op after) :
    op.pathParamOrder = PathTemplate.params op.path ∧
      (op.pathParams.map (·.name)).Pairwise (· < ·) := by
  rw [Operation.compile, Build.bind_returns] at h
  obtain ⟨⟨pathParams, queryParams⟩, t, hparams, h⟩ := h
  rw [Build.bind_returns] at h
  obtain ⟨body, u, -, h⟩ := h
  rw [Build.bind_returns] at h
  obtain ⟨response, v, -, hpure⟩ := h
  obtain ⟨rfl, -⟩ := Build.pure_returns.mp hpure
  exact ⟨rfl, (compileParameters_increasing hparams).1⟩

/-- The operations of a compiled document are compiled from operations of the document. -/
theorem exists_compiled_of_mem_operations (hcompile : d.compile strict = (.ok api, notices))
    (hop : op ∈ api.operations) :
    ∃ tag path item method o, d.Compiled tag path item method o op := by
  obtain ⟨after, hbuild, -⟩ := build_returns_of_compile hcompile
  rw [build, Build.bind_returns] at hbuild
  obtain ⟨_, s, -, hbuild⟩ := hbuild
  rw [Build.bind_returns] at hbuild
  obtain ⟨services, t, hservices, hbuild⟩ := hbuild
  rw [Build.registry_bind_returns] at hbuild
  obtain ⟨rfl, -⟩ := Build.pure_returns.mp hbuild
  rw [compileServices, Build.bind_returns] at hservices
  obtain ⟨ops, u, hops, hgroup⟩ := hservices
  obtain ⟨rfl, -⟩ := Build.pure_returns.mp hgroup
  obtain ⟨service, hservice, hmem⟩ := List.mem_flatMap.mp hop
  obtain ⟨tag, path, item, method, o, -, hcompiled⟩ := exists_grouped
    (compileOperations_forall₂ hops) ((mem_operations_of_mem_group hservice).mp hmem).1
  exact ⟨tag, path, item, method, o, hcompiled⟩

end Document

/-- The path parameters in a manifest, where no two of them have the same name. -/
theorem Manifest.get?_pathParams {op : Operation} (t : Target)
    {type : Shape → Except Breakdown String} {text : Shape → String} (name : String)
    (hspelled : ∀ s ∈ op.shapes, type s = .ok (text s))
    (hnames : (op.orderedPathParams.map (·.name)).Nodup) :
    ∃ manifest, Manifest.operation t type name op = .ok manifest ∧
      manifest.get? "pathParams" =
        some (.obj (op.orderedPathParams.map fun p => (p.name, .str (text p.shape)))) := by
  have hkeys : ((op.orderedPathParams.map fun p => (p.name, Json.str (text p.shape))).map
      (·.1)).Nodup := by
    rw [List.map_map]
    exact hnames
  obtain ⟨queryParams, body, answer, hmanifest⟩ := Manifest.exists_operation name hspelled
  refine ⟨_, hmanifest, ?_⟩
  rw [lastWins_of_nodup hkeys]
  rfl

/-- **No path parameter is lost in the order of a call.**  In every operation of a compiled document
the parameters are listed in the order of a call each exactly once: first those whose names the path
has in braces, in the order in which these names first appear, and then the others in the order of
their names.  So a manifest has exactly one type for each of them; and it is made, since every
target spells the types of the operation. -/
theorem path_params_in_call_order (d : Document) {strict : Bool} {api : Api}
    {notices : List Notice} (hcompile : d.compile strict = (.ok api, notices))
    {op : Operation} (hop : op ∈ api.operations) :
    PathTemplate.Lists op.path op.pathParamOrder ∧
      (op.pathParams.map (·.name)).Pairwise (· < ·) ∧
      op.orderedPathParams.Perm op.pathParams ∧
      (∃ named others, op.CallOrder named others) ∧
      (∀ (t : Target) (known : Option (List String)),
        ∃ text : Shape → String, ∀ s ∈ op.shapes, t.typeText known s = .ok (text s)) ∧
      ∀ (t : Target) (type : Shape → Except Breakdown String) (text : Shape → String)
        (name : String), (∀ s ∈ op.shapes, type s = .ok (text s)) → ∃ manifest entries,
          Manifest.operation t type name op = .ok manifest ∧
            manifest.get? "pathParams" = some (.obj entries) ∧
            (entries.map (·.1)).Nodup ∧
            entries.Perm (op.pathParams.map fun p => (p.name, .str (text p.shape))) := by
  obtain ⟨tag, path, item, method, o, u, v, hrun⟩ :=
    Document.exists_compiled_of_mem_operations hcompile hop
  obtain ⟨horder, hnames⟩ := Document.Operation.compile_pathParams hrun
  have hlists : PathTemplate.Lists op.path op.pathParamOrder := by
    rw [horder]
    exact PathTemplate.params_lists op.path
  have hperm := Operation.orderedPathParams_perm hnames hlists.once
  have hordered : (op.orderedPathParams.map (·.name)).Nodup :=
    (hperm.map _).nodup_iff.mpr (hnames.imp ne_of_lt)
  refine ⟨hlists, hnames, hperm, Operation.exists_callOrder hnames, fun t known => ?_,
    fun t type text name hspelled => ?_⟩
  · have htexts : ∀ s ∈ op.shapes, ∃ text, t.typeText known s = .ok text := fun s hs =>
      Document.exists_typeText hcompile (Or.inl rfl) t known s
        (List.mem_append_right _ (List.mem_flatMap.mpr ⟨op, hop, hs⟩))
    choose! text htext using htexts
    exact ⟨text, htext⟩
  · obtain ⟨manifest, hmanifest, hparams⟩ :=
      Manifest.get?_pathParams t name hspelled hordered
    refine ⟨manifest, _, hmanifest, hparams, ?_, hperm.map _⟩
    rw [List.map_map]
    exact hordered

/-! ## A path that names less than is declared, and more -/

namespace Tours

/-- A stop is named twice. -/
def path : String := "/\x7bstop\x7d/\x7bday\x7d/\x7bstop\x7d/\x7bguide\x7d"

def parameter (name : String) : OrReference Document.Parameter :=
  .inline ⟨name, "path", none, none, none, none, none, [], []⟩

def operation : Document.Operation :=
  ⟨none, none, none, none, some [parameter "stop", parameter "area", parameter "day"], none, none,
    none, none, [], []⟩

/-- The area is not named by the path, and the guide is not declared. -/
def document : Document :=
  { openapi := "3.0.0"
    info := ⟨"Tours", "1", none, [], []⟩
    paths := some [(path,
      ⟨none, none, some operation, none, none, none, none, none, none, none, none, [], []⟩)]
    components := none
    tags := none
    extra := []
    nulls := [] }

def param (name : String) : Param := ⟨name, true, .anything, none⟩

def compiled : Operation :=
  ⟨none, "GET", path, "misc", [], none, none, false, [param "area", param "day", param "stop"],
    ["stop", "day", "guide"], [], none, .undeclared⟩

def api : Api := ⟨[⟨"misc", [compiled]⟩], [], []⟩

theorem compile_document : document.compile true = (.ok api, []) := by
  cbv

/-- The stop comes before the day, and the area last; the guide has no parameter.  The manifest for
Python is made, with three path parameters. -/
theorem tours_in_call_order :
    document.compile true = (.ok api, []) ∧ compiled ∈ api.operations ∧
      PathTemplate.Lists path ["stop", "day", "guide"] ∧
      compiled.orderedPathParams.Perm [param "area", param "day", param "stop"] ∧
      (∃ named others, named ++ others = [param "stop", param "day", param "area"] ∧
        compiled.CallOrder named others) ∧
      ∃ manifest entries,
        Manifest.operation .python (Target.python.typeText none) "show" compiled = .ok manifest ∧
          manifest.get? "pathParams" = some (.obj entries) ∧ entries.length = 3 := by
  have hmem : compiled ∈ api.operations := List.mem_singleton.mpr rfl
  obtain ⟨hlists, -, hperm, ⟨named, others, hcall⟩, hspelled, hmanifests⟩ :=
    path_params_in_call_order document compile_document hmem
  obtain ⟨text, htext⟩ := hspelled .python none
  obtain ⟨manifest, entries, hmanifest, hparams, -, hentries⟩ := hmanifests _ _ text "show" htext
  refine ⟨compile_document, hmem, hlists, hperm, ⟨named, others, ?_, hcall⟩, manifest, entries,
    hmanifest, hparams, hentries.length_eq⟩
  rw [← hcall.split]
  cbv

end Tours
end ApiCompiler
