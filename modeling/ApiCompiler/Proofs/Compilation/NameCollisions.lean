import ApiCompiler.Proofs.Compilation.Ledger
import ApiCompiler.Proofs.Compilation.Modes
import ApiCompiler.Proofs.Derivation.Narrowing
import ApiCompiler.Proofs.Hoisting.Correctness
import Mathlib

/-!
# Names that collide

Components are never renamed and never refused: a component is appended under its own name even
if a hoisted model has taken it, and it is left to deduplication to choose between the two.  So a
strict build may well return two models of one name (`orders_collide`).

It is the only way in which names collide.  A hoisted model takes a free name or gives up, and no
two components have the same name, so of two models that share a name the first is hoisted and
the second is the component (`strict_names`).  What a client gets under the name of a component is
then the hoisted model that took the name before it, unless deduplication prefers the component for
being an enumeration; and the component's own model, if nothing took its name.
-/

namespace ApiCompiler

/-! ## Two entries of one name -/

/-- Of entries that all have one name, each but the first being that of a component and each but
the last being hoisted, there are at most two. -/
theorem eq_singleton_or_pair {l : List Entry}
    (h : l.Pairwise fun e f => e.isComponent = false ∧ f.isComponent = true) {c : Entry}
    (hc : c ∈ l) (hcomponent : c.isComponent = true) :
    l = [c] ∨ ∃ e, e.isComponent = false ∧ l = [e, c] := by
  rcases l with _ | ⟨a, _ | ⟨b, _ | ⟨e, l⟩⟩⟩
  · cases hc
  · rw [List.mem_singleton] at hc
    exact Or.inl (by rw [hc])
  · have hab := List.rel_of_pairwise_cons h List.mem_cons_self
    rcases List.mem_pair.mp hc with rfl | rfl
    · rw [hab.1] at hcomponent
      cases hcomponent
    · exact Or.inr ⟨a, hab.1, rfl⟩
  · -- the second of three entries would have to be both
    have hab := List.rel_of_pairwise_cons h List.mem_cons_self
    have hbe := List.rel_of_pairwise_cons h.of_cons List.mem_cons_self
    rw [hab.2] at hbe
    cases hbe.1

/-- What deduplication keeps of a name depends on the models of that name only. -/
theorem mem_definitions_filter {models : List Model} {m : Model} (h : m ∈ definitions models) :
    m ∈ definitions (models.filter fun m' => m'.name = m.name) := by
  have hfilter := definitions_ofNames (fun n => decide (n = m.name)) models
  have hmem : m ∈ ofNames (fun n => decide (n = m.name)) (definitions models) :=
    List.mem_filter.mpr ⟨h, decide_eq_true rfl⟩
  rwa [← hfilter] at hmem

namespace Document

/-- The models of a description are accounted for by entries: one for each component, in the order
of names and with the shape its own schema was compiled to when it was appended; and if two
entries share a name, the earlier one is hoisted and the later one is a component. -/
structure Accounts (d : Document) (models : List Model) (es : List Entry) : Prop where
  models_eq : models = es.map (·.model)
  components : (es.filter (·.isComponent)).map (·.model.name) = (sortedByKey d.schemas).map (·.1)
  own : ∀ e ∈ es, e.isComponent = true →
    ∃ r, d.Owns r e.model ∧ r.models ++ [e.model] <+: models
  shared : es.Pairwise fun e f =>
    e.model.name = f.model.name → e.isComponent = false ∧ f.isComponent = true

variable {d : Document}

/-- A component was compiled from its own schema, with the models that come before it. -/
theorem Records.own {r r' : Registry} {es : List Entry} (h : d.Records r es r') :
    ∀ e ∈ es, e.isComponent = true →
      ∃ r₀, d.Owns r₀ e.model ∧ r₀.models ++ [e.model] <+: r'.models := by
  induction h with
  | refl => exact fun e he => nomatch he
  | hoisted _ _ _ ih =>
    intro e he hcomponent
    rcases List.mem_append.mp he with he | he
    · obtain ⟨r₀, howns, hprefix⟩ := ih e he hcomponent
      exact ⟨r₀, howns, hprefix.trans (List.prefix_append _ _)⟩
    · rw [List.mem_singleton] at he
      subst he
      cases hcomponent
  | @component r' es m _ hm ih =>
    intro e he hcomponent
    rcases List.mem_append.mp he with he | he
    · obtain ⟨r₀, howns, hprefix⟩ := ih e he hcomponent
      exact ⟨r₀, howns, hprefix.trans (List.prefix_append _ _)⟩
    · rw [List.mem_singleton] at he
      subst he
      exact ⟨r', hm, List.prefix_rfl⟩

/-- The entries of a build account for its models, if no two components share a name. -/
theorem Records.accounts (hkeys : (d.schemas.map (·.1)).Nodup) {r r' : Registry}
    {es : List Entry}
    (h : d.Records r es r') (hmodels : r'.models = es.map (·.model))
    (hnames : (es.filter (·.isComponent)).map (·.model.name) = (sortedByKey d.schemas).map (·.1)) :
    d.Accounts r'.models es := by
  refine ⟨hmodels, hnames, h.own, ?_⟩
  have hperm : ((sortedByKey d.schemas).map (·.1)).Perm (d.schemas.map (·.1)) :=
    (List.mergeSort_perm _ _).map _
  have hnodup : ((es.filter (·.isComponent)).map (·.model.name)).Nodup := by
    rw [hnames]
    exact hperm.nodup_iff.mpr hkeys
  have hdistinct := List.pairwise_filter.mp (List.pairwise_map.mp hnodup)
  refine (h.pairwise.and hdistinct).imp fun {e f} hef hname => ?_
  have hlater : f.isComponent = true := hef.1 hname
  refine ⟨?_, hlater⟩
  by_contra hearlier
  rw [Bool.not_eq_false] at hearlier
  exact hef.2 hearlier hlater hname

/-- The models of a compiled document are accounted for, if no two components share a name. -/
theorem exists_accounts (hkeys : (d.schemas.map (·.1)).Nodup) {strict : Bool} {api : Api}
    {notices : List Notice} (hcompile : d.compile strict = (.ok api, notices)) :
    ∃ es, d.Accounts api.models es := by
  obtain ⟨after, hbuild, -⟩ := build_returns_of_compile hcompile
  obtain ⟨es, hes, hmodels, hregistry, hnames, -⟩ := build_records hbuild
  rw [← hregistry] at hmodels ⊢
  exact ⟨es, hes.accounts hkeys hmodels hnames⟩

namespace Accounts

variable {models : List Model} {es : List Entry}

/-- A component has its name alone, or shares it with one hoisted model that comes before it. -/
theorem ofName (h : d.Accounts models es) {c : Entry} (hc : c ∈ es)
    (hcomponent : c.isComponent = true) :
    es.filter (fun e => e.model.name = c.model.name) = [c] ∨
      ∃ e, e.isComponent = false ∧
        es.filter (fun e => e.model.name = c.model.name) = [e, c] := by
  have hmem : c ∈ es.filter fun e => e.model.name = c.model.name :=
    List.mem_filter.mpr ⟨hc, decide_eq_true rfl⟩
  have hpairwise := (h.shared.filter fun e : Entry => e.model.name = c.model.name).imp_of_mem
    (S := fun e f => e.isComponent = false ∧ f.isComponent = true) fun {e f} he hf hef => by
      have hename := of_decide_eq_true (List.mem_filter.mp he).2
      have hfname := of_decide_eq_true (List.mem_filter.mp hf).2
      exact hef (hename.trans hfname.symm)
  exact eq_singleton_or_pair hpairwise hmem hcomponent

/-- What is kept under the name of a component is the component, if nothing was hoisted under this
name.  Otherwise it is the hoisted model, unless the component supersedes that. -/
theorem kept (h : d.Accounts models es) {m : Model} (hm : m ∈ definitions models) {c : Entry}
    (hc : c ∈ es) (hcomponent : c.isComponent = true) (hname : c.model.name = m.name) :
    ((∀ e ∈ es, e.model.name = m.name → e.isComponent = true) → m = c.model) ∧
      ∀ e ∈ es, e.model.name = m.name → e.isComponent = false →
        m = if c.model.supersedes e.model then c.model else e.model := by
  have hkept := mem_definitions_filter hm
  rw [h.models_eq, List.filter_map, ← hname] at hkept
  have hmem : ∀ e ∈ es, e.model.name = m.name →
      e ∈ es.filter fun e => e.model.name = c.model.name := by
    intro e he hename
    exact List.mem_filter.mpr ⟨he, decide_eq_true (hename.trans hname.symm)⟩
  change m ∈ definitions ((es.filter fun e => e.model.name = c.model.name).map (·.model)) at hkept
  rcases h.ofName hc hcomponent with hl | ⟨e, hhoisted, hl⟩
  · -- the component stands alone
    rw [hl] at hkept hmem
    refine ⟨fun _ => List.mem_singleton.mp hkept, fun e he hename hhoisted => ?_⟩
    rw [List.mem_singleton.mp (hmem e he hename), hcomponent] at hhoisted
    cases hhoisted
  · -- a hoisted model stands before it
    have he : e ∈ es.filter fun e => e.model.name = c.model.name := by
      rw [hl]
      exact List.mem_cons_self
    obtain ⟨he, hename⟩ := List.mem_filter.mp he
    have hsame : e.model.name = c.model.name := of_decide_eq_true hename
    have hdefine : definitions [e.model, c.model] =
        [if c.model.supersedes e.model then c.model else e.model] := by
      simp [definitions, define, hsame]
    rw [hl, List.map_cons, List.map_cons, List.map_nil, hdefine, List.mem_singleton] at hkept
    refine ⟨fun hnone => ?_, fun e' he' hename' hhoisted' => ?_⟩
    · rw [hnone e he (hsame.trans hname)] at hhoisted
      cases hhoisted
    · have hpair := hmem e' he' hename'
      rw [hl] at hpair
      rcases List.mem_pair.mp hpair with rfl | rfl
      · exact hkept
      · rw [hcomponent] at hhoisted'
        cases hhoisted'

end Accounts
end Document

/-! ## What clients get -/

/-- **Names after a strict build.**  A strict build that returns has renamed nothing, and the only
models that share a name are a hoisted model and a component appended after it.  So no two models
of a client share a name.  What a client gets under the name of a component is the component's own
model, if no hoisted model took the name before it.  If one did, it is this model, unless the
component supersedes it for being an enumeration where the other is none. -/
theorem strict_names (d : Document) (hkeys : (d.schemas.map (·.1)).Nodup) {api : Api}
    {notices : List Notice} (hcompile : d.compile true = (.ok api, notices)) :
    (∀ name stored, .renamedModel name stored ∉ notices) ∧
      ∃ es, d.Accounts api.models es ∧
        ∀ strict f derived ns, api.derive strict f = .ok (derived, ns) →
          (derived.models.map (·.name)).Nodup ∧
          ∀ m ∈ derived.models, ∀ c ∈ es, c.isComponent = true → c.model.name = m.name →
            ((∀ e ∈ es, e.model.name = m.name → e.isComponent = true) → m = c.model) ∧
              ∀ e ∈ es, e.model.name = m.name → e.isComponent = false →
                m = if c.model.supersedes e.model then c.model else e.model := by
  obtain ⟨es, haccounts⟩ := Document.exists_accounts hkeys hcompile
  refine ⟨Document.compile_strict_notices hcompile, es, haccounts, ?_⟩
  intro strict f derived ns hderive
  exact ⟨Api.nodup_names_of_derive hderive, fun m hm c hc hcomponent hname =>
    haccounts.kept (Api.mem_definitions_of_derive hderive hm) hc hcomponent hname⟩

/-! ## Orders -/

namespace Orders

open Schema (Keywords)

def text : Schema := .inline { Keywords.blank with type := some (.one .string) } .blank

/-- A component has the name that the items of another one are hoisted under. -/
def document : Document :=
  { openapi := "3.0.0"
    info := ⟨"Orders", "1", none, [], []⟩
    paths := some []
    components := some { Document.Components.empty with
      schemas := some [("Orders", Schema.orders), ("Orders_Item", text)] }
    tags := none
    extra := []
    nulls := [] }

/-- What it is compiled to: the hoisted items come first, and the component last. -/
def api : Api :=
  ⟨[], [⟨"Orders_Item", .object .none [] none, .none⟩,
    ⟨"Orders", .array .none (.ref .none "Orders_Item"), .none⟩,
    ⟨"Orders_Item", .scalar .none .string, .none⟩], []⟩

theorem compile_document : document.compile true = (.ok api, []) := by
  cbv

theorem nodup_keys : (document.schemas.map (·.1)).Nodup := by
  have hkeys : document.schemas.map (·.1) = ["Orders", "Orders_Item"] := rfl
  rw [hkeys]
  decide

/-- A strict build of the orders returns with two models of one name and different shapes. -/
theorem orders_collide :
    ¬ ∀ (d : Document) (api : Api) (notices : List Notice), (d.schemas.map (·.1)).Nodup →
      d.compile true = (.ok api, notices) → ∀ m ∈ api.models, ∀ m' ∈ api.models,
        m.name = m'.name → m.shape = m'.shape := by
  intro h
  have hsame := h document api [] nodup_keys compile_document
    ⟨"Orders_Item", .object .none [] none, .none⟩ List.mem_cons_self
    ⟨"Orders_Item", .scalar .none .string, .none⟩ (by simp [api]) rfl
  cases hsame

/-- The account of the orders: nothing is renamed, and three models are entered. -/
theorem orders_accounted :
    (document.schemas.map (·.1)).Nodup ∧ document.compile true = (.ok api, []) ∧
      ∃ es, document.Accounts api.models es ∧ es.length = 3 := by
  refine ⟨nodup_keys, compile_document, ?_⟩
  obtain ⟨-, es, haccounts, -⟩ := strict_names document nodup_keys compile_document
  have hlength := congrArg List.length haccounts.models_eq
  rw [List.length_map] at hlength
  exact ⟨es, haccounts, hlength.symm⟩

end Orders
end ApiCompiler
