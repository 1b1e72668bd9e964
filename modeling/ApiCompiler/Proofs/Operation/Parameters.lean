import ApiCompiler.Proofs.Operation.Meaning
import Mathlib

/-!
# Merging parameters

An operation has the parameters of its path item and its own ones, each written inline or referred
to.  A parameter is told apart by its name and its location, and of several declarations of one
parameter the last one counts (`Document.Counts`).  Only the parameters of the path and of the query
are kept; whatever is declared for another location is never compiled.

`parameters_merged` says what an operation gets.  The declarations that count are compiled one after
the other, each where its parameter is first declared, and compiling the parameters fails where this
fails.  The two lists that are returned are sorted by name afterwards, so the proof keeps the
declarations in the order in which they are compiled, each with the shape it is compiled to, and
says of a sorted list from which of these pairs its entries come.
-/

namespace ApiCompiler
namespace Document

open Schema (compileOptional Represents)

/-! ## The declarations that count -/

/-- What a parameter is told apart by. -/
def Parameter.key (p : Parameter) : String × String := (p.name, p.location)

/-- The declaration is the last one of its name and location. -/
def Counts (declared : List Parameter) (p : Parameter) : Prop :=
  ∃ earlier later, declared = earlier ++ p :: later ∧ p.key ∉ later.map (·.key)

/-- The declarations that are compiled, in order. -/
def keptParameters (declared : List Parameter) : List Parameter :=
  (mergeParameters declared).filter (·.isKept)

variable {declared : List Parameter} {p q : Parameter}

/-- What is merged are the declarations that count. -/
theorem mem_mergeParameters_iff : p ∈ mergeParameters declared ↔ Counts declared p := by
  have hentry : p ∈ mergeParameters declared ↔
      (p.key, p) ∈ lastWins (declared.map fun q => (q.key, q)) := by
    rw [mergeParameters, List.mem_map]
    constructor
    · rintro ⟨e, he, rfl⟩
      -- an entry holds a declaration under the key of this declaration
      obtain ⟨q, -, rfl⟩ := List.mem_map.mp (mem_of_mem_lastWins he)
      exact he
    · exact fun h => ⟨_, h, rfl⟩
  rw [hentry, mem_lastWins_iff, Counts]
  constructor
  · rintro ⟨earlier, later, h, hlast⟩
    obtain ⟨front, back, rfl, -, hback⟩ := List.map_eq_append_iff.mp h
    obtain ⟨q, rest, rfl, hq, rfl⟩ := List.map_eq_cons_iff.mp hback
    obtain rfl := (Prod.mk.inj hq).2
    refine ⟨front, rest, rfl, ?_⟩
    rw [List.map_map] at hlast
    exact hlast
  · rintro ⟨earlier, later, rfl, hlast⟩
    refine ⟨_, _, by rw [List.map_append, List.map_cons], ?_⟩
    rw [List.map_map]
    exact hlast

theorem map_key_mergeParameters (declared : List Parameter) :
    (mergeParameters declared).map (·.key) =
      (lastWins (declared.map fun p => (p.key, p))).map (·.1) := by
  rw [mergeParameters, List.map_map]
  refine List.map_congr_left fun e he => ?_
  obtain ⟨p, -, rfl⟩ := List.mem_map.mp (mem_of_mem_lastWins he)
  rfl

/-- The parameters that are merged are all that are declared, each where it is first declared. -/
theorem keys_mergeParameters (declared : List Parameter) :
    (mergeParameters declared).map (·.key) = (declared.map (·.key)).eraseDups := by
  rw [map_key_mergeParameters, keys_lastWins, List.map_map]
  rfl

theorem nodup_keys_keptParameters (declared : List Parameter) :
    ((keptParameters declared).map (·.key)).Nodup := by
  have hmerged : ((mergeParameters declared).map (·.key)).Nodup := by
    rw [map_key_mergeParameters]
    exact nodup_keys_lastWins _
  exact hmerged.sublist (List.filter_sublist.map _)

theorem isKept_iff : p.isKept = true ↔ p.location = "path" ∨ p.location = "query" := by
  simp [Parameter.isKept, Parameter.inPath]

/-- They are compiled in the order in which parameters are first declared. -/
theorem keys_keptParameters (declared : List Parameter) :
    (keptParameters declared).map (·.key) = ((declared.map (·.key)).eraseDups.filter
      fun k => k.2 = "path" ∨ k.2 = "query") := by
  rw [← keys_mergeParameters, List.filter_map, keptParameters]
  refine congrArg _ (List.filter_congr fun p _ => ?_)
  rw [Bool.eq_iff_iff, isKept_iff, Function.comp_apply, decide_eq_true_eq]
  rfl

/-- The declarations that are compiled are those that count, for the path and for the query. -/
theorem mem_keptParameters_iff :
    p ∈ keptParameters declared ↔
      Counts declared p ∧ (p.location = "path" ∨ p.location = "query") := by
  rw [keptParameters, List.mem_filter, mem_mergeParameters_iff, isKept_iff]

/-- Of the declarations of one parameter, one counts. -/
theorem exists_counts (h : p ∈ declared) : ∃ q, Counts declared q ∧ q.key = p.key := by
  have hkey : p.key ∈ (mergeParameters declared).map (·.key) := by
    rw [keys_mergeParameters, List.mem_eraseDups]
    exact List.mem_map_of_mem h
  obtain ⟨q, hq, heq⟩ := List.mem_map.mp hkey
  exact ⟨q, mem_mergeParameters_iff.mp hq, heq⟩

/-! ## What they are compiled to -/

/-- The name that models hoisted out of a parameter hang from. -/
def Parameter.owner (baseName : String) (p : Parameter) : String :=
  baseName ++ Name.Case.pascal.write p.name

/-- Compiles the value of a parameter. -/
def Parameter.compileValue (baseName : String) (p : Parameter) : Build Shape :=
  compileOptional p.valueSchema (p.owner baseName) "" false

/-- What an operation says of a parameter whose value has a shape. -/
def Parameter.entry (p : Parameter) (shape : Shape) : Param :=
  ⟨p.name, p.required.getD false || p.inPath, shape, p.description⟩

/-- A parameter is required if it is part of the path or declared to be. -/
theorem required_entry {shape : Shape} :
    (p.entry shape).required = true ↔ p.location = "path" ∨ p.required = some true := by
  rw [Parameter.entry, Parameter.inPath, Bool.or_eq_true, decide_eq_true_eq, or_comm]
  rcases p.required with _ | _ | _ <;> simp

/-- The parameters of the path, or those of the query, given the shapes that all are compiled to. -/
def entries (compiled : List (Parameter × Shape)) (inPath : Bool) : List Param :=
  sortParams ((compiled.filter fun e => e.1.inPath = inPath).map fun e => e.1.entry e.2)

/-- Compiling parameters is compiling their values. -/
theorem forEach_compile (baseName : String) (ps : List Parameter) :
    Build.forEach (fun p => do
        let param ← p.compile baseName
        pure (p.inPath, param)) ps = (do
      let shapes ← Build.forEach (·.compileValue baseName) ps
      pure ((ps.zip shapes).map fun e => (e.1.inPath, e.1.entry e.2))) := by
  induction ps with
  | nil => rfl
  | cons p ps ih =>
    rw [Build.forEach, ih, Build.forEach]
    simp only [Parameter.compile, Parameter.compileValue, Parameter.owner, bind_assoc, pure_bind]
    rfl

/-- Compiling parameters all of whose references lead somewhere is compiling the values of the
declarations that are kept. -/
theorem compileParameters_eq {s : Section Parameter} {baseName : String}
    {nodes : List (OrReference Parameter)}
    (h : List.Forall₂ (fun n p => s.resolve n = .ok p) nodes declared) :
    compileParameters s baseName nodes = (do
      let shapes ← Build.forEach (·.compileValue baseName) (keptParameters declared)
      let compiled := (keptParameters declared).zip shapes
      pure (entries compiled true, entries compiled false)) := by
  have hresolve : Build.forEach (fun n => Build.lift (s.resolve n)) nodes = pure declared := by
    induction h with
    | nil => rfl
    | cons hn _ ih =>
      rw [Build.forEach, ih, hn]
      rfl
  have hpick : ∀ (compiled : List (Parameter × Shape)) (inPath : Bool),
      sortParams (((compiled.map fun e => (e.1.inPath, e.1.entry e.2)).filter
        fun e => e.1 = inPath).map (·.2)) = entries compiled inPath := by
    intro compiled inPath
    rw [List.filter_map, List.map_map]
    rfl
  rw [compileParameters, hresolve, pure_bind, forEach_compile]
  simp only [bind_assoc, pure_bind, hpick]
  rfl

/-! ## What is returned -/

/-- The parameters of a location, merged from declarations of which some are compiled: what is said
of them is read with the models of a registry. -/
structure Merges (declared : List Parameter) (compiled : List (Parameter × Shape)) (r : Registry)
    (location : String) (params : List Param) : Prop where
  /-- They are in the order of their names, and no two of them have the same. -/
  increasing : (params.map (·.name)).Pairwise (· < ·)
  /-- Their names are those that are declared for the location. -/
  names : ∀ n, n ∈ params.map (·.name) ↔ ∃ p ∈ declared, p.name = n ∧ p.location = location
  /-- All that is said of one comes from the declaration that counts; its shape is the one that the
  declared schema is compiled to, and stands for this schema. -/
  declared : ∀ param ∈ params, ∃ p, Counts declared p ∧ p.location = location ∧
    param.name = p.name ∧ param.description = p.description ∧
    (param.required = true ↔ location = "path" ∨ p.required = some true) ∧
    (p, param.shape) ∈ compiled ∧ Represents r p.valueSchema false param.shape

/-- The location of the parameters that are part of the path, or of the others that are kept. -/
def locationOf (inPath : Bool) : String := if inPath then "path" else "query"

theorem inPath_eq_iff (h : p.location = "path" ∨ p.location = "query") (inPath : Bool) :
    p.inPath = inPath ↔ p.location = locationOf inPath := by
  rcases h with h | h <;> cases inPath <;> simp [Parameter.inPath, locationOf, h]

/-- The declarations that are compiled, with the shapes they are compiled to, make up the parameters
of a location. -/
theorem merges {shapes : List Shape} (r : Registry)
    (hlength : (keptParameters declared).length = shapes.length)
    (hmeant : ∀ e ∈ (keptParameters declared).zip shapes, Represents r e.1.valueSchema false e.2)
    (inPath : Bool) :
    Merges declared ((keptParameters declared).zip shapes) r (locationOf inPath)
      (entries ((keptParameters declared).zip shapes) inPath) := by
  have hkept : ∀ e ∈ (keptParameters declared).zip shapes,
      Counts declared e.1 ∧ (e.1.location = "path" ∨ e.1.location = "query") :=
    fun e he => mem_keptParameters_iff.mp (List.of_mem_zip he).1
  -- an entry is that of a pair whose declaration is for the location
  have hentry : ∀ param, param ∈ entries ((keptParameters declared).zip shapes) inPath ↔
      ∃ e ∈ (keptParameters declared).zip shapes, e.1.location = locationOf inPath ∧
        e.1.entry e.2 = param := by
    intro param
    simp only [entries, sortParams, List.mem_mergeSort, List.mem_map, List.mem_filter,
      decide_eq_true_eq]
    constructor
    · rintro ⟨e, ⟨he, hplace⟩, heq⟩
      exact ⟨e, he, (inPath_eq_iff (hkept e he).2 _).mp hplace, heq⟩
    · rintro ⟨e, he, hplace, heq⟩
      exact ⟨e, ⟨he, (inPath_eq_iff (hkept e he).2 _).mpr hplace⟩, heq⟩
  have hfst : ((keptParameters declared).zip shapes).map Prod.fst = keptParameters declared :=
    List.map_fst_zip hlength.le
  constructor
  case increasing =>
    refine Sorting.pairwise_lt_mergeSort (fun param : Param => param.name) ?_
    have hkeys : (((keptParameters declared).zip shapes).map fun e => e.1.key).Nodup := by
      have hnodup := nodup_keys_keptParameters declared
      rw [← hfst, List.map_map] at hnodup
      exact hnodup
    rw [List.map_map, List.Nodup, List.pairwise_map]
    refine ((List.pairwise_map.mp hkeys).filter _).imp_of_mem fun {a b} ha hb hne heq => hne ?_
    simp only [List.mem_filter, decide_eq_true_eq] at ha hb
    have hsame : a.1.location = b.1.location :=
      ((inPath_eq_iff (hkept a ha.1).2 _).mp ha.2).trans
        ((inPath_eq_iff (hkept b hb.1).2 _).mp hb.2).symm
    exact Prod.ext heq hsame
  case names =>
    intro n
    rw [List.mem_map]
    constructor
    · rintro ⟨param, hparam, rfl⟩
      obtain ⟨e, he, hplace, rfl⟩ := (hentry param).mp hparam
      obtain ⟨earlier, later, hdeclared, -⟩ := (hkept e he).1
      exact ⟨e.1, by rw [hdeclared]; simp, rfl, hplace⟩
    · rintro ⟨p, hp, rfl, hplace⟩
      obtain ⟨q, hq, hkey⟩ := exists_counts hp
      obtain ⟨hname, hlocation⟩ := Prod.mk.inj hkey
      have hmem : q ∈ keptParameters declared := by
        refine mem_keptParameters_iff.mpr ⟨hq, ?_⟩
        rw [hlocation, hplace]
        cases inPath <;> simp [locationOf]
      rw [← hfst] at hmem
      obtain ⟨e, he, rfl⟩ := List.mem_map.mp hmem
      exact ⟨e.1.entry e.2, (hentry _).mpr ⟨e, he, hlocation.trans hplace, rfl⟩, hname⟩
  case declared =>
    intro param hparam
    obtain ⟨e, he, hplace, rfl⟩ := (hentry param).mp hparam
    refine ⟨e.1, (hkept e he).1, hplace, rfl, rfl, ?_, he, hmeant e he⟩
    rw [← hplace]
    exact required_entry

/-- A model hoisted out of a parameter that is compiled. -/
def HoistsFrom (declared : List Parameter) (baseName : String) (r : Registry) (m : Model) : Prop :=
  ∃ p ∈ keptParameters declared, ∃ s ∈ p.valueSchema, Schema.Hoists (p.owner baseName) s r m

/-- What is declared for the path or the query is compiled, and nothing else is registered. -/
theorem forEach_compileValue_returns {baseName : String} {before after : BuildState}
    {shapes : List Shape}
    (h : (Build.forEach (·.compileValue baseName) (keptParameters declared)).Returns before shapes
      after) :
    before.registry.Grows (HoistsFrom declared baseName) after.registry ∧
      List.Forall₂ (fun p shape => Represents after.registry p.valueSchema false shape)
        (keptParameters declared) shapes := by
  refine Build.forEach_grows
    (T := fun (p : Parameter) shape r => Represents r p.valueSchema false shape)
    (fun _ _ _ _ hrep hr => hrep.grows hr) (fun p hp u shape v hrun => ?_) h
  obtain ⟨hgrows, hrep⟩ := Schema.compileOptional_sound hrun
  exact ⟨hgrows.imp fun r m ⟨value, hvalue, hm⟩ => ⟨p, hp, value, hvalue, hm⟩, hrep⟩

/-- What compiling parameters returns where all their references lead somewhere. -/
theorem compileParameters_merges {s : Section Parameter} {baseName : String}
    {nodes : List (OrReference Parameter)}
    (hresolved : List.Forall₂ (fun n p => s.resolve n = .ok p) nodes declared)
    {before after : BuildState} {path query : List Param}
    (h : (compileParameters s baseName nodes).Returns before (path, query) after) :
    ∃ shapes, (Build.forEach (·.compileValue baseName) (keptParameters declared)).Returns before
        shapes after ∧
      Merges declared ((keptParameters declared).zip shapes) after.registry "path" path ∧
      Merges declared ((keptParameters declared).zip shapes) after.registry "query" query ∧
      before.registry.Grows (HoistsFrom declared baseName) after.registry := by
  rw [compileParameters_eq hresolved, Build.bind_returns] at h
  obtain ⟨shapes, t, hshapes, hpure⟩ := h
  obtain ⟨hparams, rfl⟩ := Build.pure_returns.mp hpure
  obtain ⟨rfl, rfl⟩ := Prod.mk.inj hparams
  obtain ⟨hgrows, hmeant⟩ := forEach_compileValue_returns hshapes
  have hzip : ∀ e ∈ (keptParameters declared).zip shapes,
      Represents after.registry e.1.valueSchema false e.2 :=
    fun e he => List.forall₂_zip hmeant he
  exact ⟨shapes, hshapes, merges _ hmeant.length_eq hzip true, merges _ hmeant.length_eq hzip false,
    hgrows⟩

/-- References that have been followed lead somewhere. -/
theorem resolved_of_returns {α : Type} {s : Section α} {nodes : List (OrReference α)}
    {as : List α} {before after : BuildState}
    (h : (Build.forEach (fun n => Build.lift (s.resolve n)) nodes).Returns before as after) :
    List.Forall₂ (fun n a => s.resolve n = .ok a) nodes as := by
  rw [Build.forEach_returns] at h
  induction h with
  | nil => exact .nil
  | cons hn _ ih => exact .cons (Build.lift_returns.mp hn).1 ih

/-- Whatever is declared, parameters are returned in the order of their names, and no two of the
path or of the query have the same name. -/
theorem compileParameters_increasing {s : Section Parameter} {baseName : String}
    {nodes : List (OrReference Parameter)} {before after : BuildState} {path query : List Param}
    (h : (compileParameters s baseName nodes).Returns before (path, query) after) :
    (path.map (·.name)).Pairwise (· < ·) ∧ (query.map (·.name)).Pairwise (· < ·) := by
  have hresolves := h
  rw [compileParameters, Build.bind_returns] at hresolves
  obtain ⟨declared, t, hdeclared, -⟩ := hresolves
  obtain ⟨shapes, -, hpath, hquery, -⟩ :=
    compileParameters_merges (resolved_of_returns hdeclared) h
  exact ⟨hpath.increasing, hquery.increasing⟩

/-- **Parameters are merged by name and location.**  Let all parameters of an operation, the
inherited ones and then its own, lead to declarations.  Of the declarations of one name and location
the last one counts, and what counts for the path or the query is compiled, in the order in which
parameters are first declared; this fails exactly where compiling the value of one of them does.
The path and the query get the parameters that are declared for them, in strict order of names, and
all that is said of a parameter comes from the declaration that counts; one of the path is always
required.  Nothing else is compiled, and only what is compiled registers models. -/
theorem parameters_merged (s : Section Parameter) (baseName : String)
    (inherited : List (OrReference Parameter)) (op : Operation)
    (hresolved : List.Forall₂ (fun n p => s.resolve n = .ok p)
      (inherited ++ op.parameters.getD []) declared) (before : BuildState) :
    (∀ p, p ∈ keptParameters declared ↔
      Counts declared p ∧ (p.location = "path" ∨ p.location = "query")) ∧
    (keptParameters declared).map (·.key) = ((declared.map (·.key)).eraseDups.filter
      fun k => k.2 = "path" ∨ k.2 = "query") ∧
    (∀ e after,
      (compileParameters s baseName (inherited ++ op.parameters.getD [])).Fails before e after ↔
        (Build.forEach (·.compileValue baseName) (keptParameters declared)).Fails before e after) ∧
    ∀ path query after,
      (compileParameters s baseName (inherited ++ op.parameters.getD [])).Returns before
        (path, query) after →
      ∃ shapes, (Build.forEach (·.compileValue baseName) (keptParameters declared)).Returns before
          shapes after ∧
        Merges declared ((keptParameters declared).zip shapes) after.registry "path" path ∧
        Merges declared ((keptParameters declared).zip shapes) after.registry "query" query ∧
        before.registry.Grows (HoistsFrom declared baseName) after.registry := by
  refine ⟨fun p => mem_keptParameters_iff, keys_keptParameters declared, fun e after => ?_,
    fun path query after h => compileParameters_merges hresolved h⟩
  rw [compileParameters_eq hresolved]
  exact Build.bind_pure_fails

end Document

/-! ## Parameters that are declared again -/

namespace Rides

open Document (Parameter)
open Schema (typed listOf)

def parameter (name location : String) (schema : Schema) : Parameter :=
  ⟨name, location, none, none, none, some schema, none, [], []⟩

/-- The operation redeclares the text that its path asks for. -/
def ownId : Parameter :=
  { parameter "id" "path" (typed .number) with
    description := some "The number of the ride"
    required := some false }

def components : Section Parameter :=
  ⟨"parameters", [("limit", .inline (parameter "limit" "query" (typed .integer)))]⟩

def inherited : List (OrReference Parameter) :=
  [.inline (parameter "id" "path" (typed .string)),
    .reference ⟨"#/components/parameters/limit", none, none, []⟩,
    .inline (parameter "id" "query" (typed .string))]

def operation : Document.Operation :=
  ⟨none, none, none, none,
    some [.inline ownId, .inline (parameter "trace" "header" (listOf (typed .object))),
      .inline (parameter "stops" "query" (listOf (typed .object)))],
    none, none, none, none, [], []⟩

def declared : List Parameter :=
  [parameter "id" "path" (typed .string), parameter "limit" "query" (typed .integer),
    parameter "id" "query" (typed .string), ownId,
    parameter "trace" "header" (listOf (typed .object)),
    parameter "stops" "query" (listOf (typed .object))]

theorem resolved :
    List.Forall₂ (fun n p => components.resolve n = .ok p)
      (inherited ++ operation.parameters.getD []) declared := by
  have hlimit : components.resolve (.reference ⟨"#/components/parameters/limit", none, none, []⟩) =
      .ok (parameter "limit" "query" (typed .integer)) := by
    cbv
  exact .cons rfl (.cons hlimit (.cons rfl (.cons rfl (.cons rfl (.cons rfl .nil)))))

def path : List Param := [⟨"id", true, .scalar .none .number, some "The number of the ride"⟩]

def query : List Param :=
  [⟨"id", false, .scalar .none .string, none⟩, ⟨"limit", false, .scalar .none .integer, none⟩,
    ⟨"stops", false, .array .none (.ref .none "ListRidesStops_Item"), none⟩]

/-- The header has no model. -/
def compiled : BuildState :=
  ⟨⟨true, [⟨"ListRidesStops_Item", .object .none [] none, .none⟩], ["ListRidesStops_Item"]⟩, []⟩

theorem compileParameters_rides :
    (Document.compileParameters components "ListRides"
      (inherited ++ operation.parameters.getD [])).Returns (Build.start true) (path, query)
        compiled := by
  unfold Build.Returns
  cbv

/-- The number replaces the text, next to a text of the same name in the query, and nothing is
registered for the header. -/
theorem rides_merged :
    List.Forall₂ (fun n p => components.resolve n = .ok p)
        (inherited ++ operation.parameters.getD []) declared ∧
      (Document.compileParameters components "ListRides"
        (inherited ++ operation.parameters.getD [])).Returns (Build.start true) (path, query)
          compiled ∧
      ∃ shapes,
        Document.Merges declared ((Document.keptParameters declared).zip shapes) compiled.registry
            "path" path ∧
          Document.Merges declared ((Document.keptParameters declared).zip shapes)
            compiled.registry "query" query ∧
          (Build.start true).registry.Grows (Document.HoistsFrom declared "ListRides")
            compiled.registry := by
  obtain ⟨-, -, -, hreturns⟩ :=
    Document.parameters_merged components "ListRides" inherited operation resolved
      (Build.start true)
  obtain ⟨shapes, -, hpath, hquery, hgrows⟩ := hreturns _ _ _ compileParameters_rides
  exact ⟨resolved, compileParameters_rides, shapes, hpath, hquery, hgrows⟩

end Rides
end ApiCompiler
