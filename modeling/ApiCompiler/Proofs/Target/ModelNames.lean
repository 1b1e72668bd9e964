import ApiCompiler.Proofs.Compilation.NameCollisions
import ApiCompiler.Proofs.Compilation.Resolution
import ApiCompiler.Proofs.Name.Words
import ApiCompiler.Proofs.Target.Expressible

/-!
# The names of models in targets

The models of a client have different names, but a target may write names in a case of its own, and
two names can be the same in that case.  Nothing looks for this: names are made unique before they
are written.

`model_names_kept` says what is left of the difference.  References to two models are spelled alike
exactly if the target writes their names alike.  Every known target but Go writes names as they are,
so it keeps all of them apart, and writes nothing only for a component whose key is empty.  Go writes
names in Pascal case and keeps those apart that differ in more than accents, separators and the case
of letters; it writes nothing for a name without a letter or a digit.
-/

namespace ApiCompiler

/-! ## Models without a name -/

namespace Document

variable {d : Document}

/-- A model that came into the registry is a component or has a name that is not empty. -/
theorem Records.named {r r' : Registry} {es : List Entry} (h : d.Records r es r') :
    ∀ e ∈ es, e.model.name ≠ "" ∨ e.model.name ∈ d.schemas.map (·.1) := by
  induction h with
  | refl => exact fun e he => nomatch he
  | @hoisted r' es m _ _ hm ih =>
    intro e he
    rcases List.mem_append.mp he with he | he
    · exact ih e he
    · rw [List.mem_singleton.mp he]
      obtain ⟨owner, s, -, hhoists⟩ := hm
      refine Or.inl fun hempty => ?_
      -- a hoisted name goes on with an underscore after that of its owner
      have hlength := hhoists.name.length_le
      rw [Entry.model] at hempty
      rw [hempty, String.toList_append, List.length_append] at hlength
      exact absurd hlength (by simp)
  | component _ hm ih =>
    intro e he
    rcases List.mem_append.mp he with he | he
    · exact ih e he
    · rw [List.mem_singleton.mp he]
      obtain ⟨s, hs, -⟩ := hm
      exact Or.inr (List.mem_map.mpr ⟨_, hs, rfl⟩)

/-- A model of a compiled document without a name is a component whose key is empty. -/
theorem empty_mem_keys {strict : Bool} {api : Api} {notices : List Notice}
    (hcompile : d.compile strict = (.ok api, notices)) {m : Model} (hm : m ∈ api.models)
    (hname : m.name = "") : "" ∈ d.schemas.map (·.1) := by
  obtain ⟨after, hbuild, -⟩ := build_returns_of_compile hcompile
  obtain ⟨es, hes, hmodels, -⟩ := build_records hbuild
  rw [hmodels] at hm
  obtain ⟨e, he, rfl⟩ := List.mem_map.mp hm
  have hnamed := hes.named e he
  rw [hname] at hnamed
  exact hnamed.resolve_left fun h => h rfl

end Document

/-- The models of a client have different names. -/
theorem Api.name_ne_of_derive {api derived : Api} {strict : Bool} {f : TagFilter}
    {notices : List Notice} (h : api.derive strict f = .ok (derived, notices)) {m m' : Model}
    (hm : m ∈ derived.models) (hm' : m' ∈ derived.models) (hne : m ≠ m') : m.name ≠ m'.name := by
  intro hname
  exact hne (List.inj_on_of_nodup_map (Api.nodup_names_of_derive h) hm hm' hname)

/-! ## References in targets -/

/-- A spelling around a text tells which text it is. -/
theorem Template.fill_injective (p : Template) : Function.Injective p.fill := by
  intro a b h
  rw [← String.toList_inj] at h ⊢
  simpa [Template.fill] using h

namespace Target

variable {t : Target} {known : Option (List String)} {u : Traits}

/-- A reference that does not admit null, to a model that is known, is the name of the model. -/
theorem typeText_ref {n : String} (hknown : ∀ names ∈ known, n ∈ names)
    (hu : u.nullable = false) :
    t.typeText known (.ref u n) = .ok (t.named.fill (t.modelName n)) := by
  have hproject : t.project known (.ref u n) = .named n := by
    rw [project_eq, orNullIf, Shape.traits, hu, if_neg Bool.false_ne_true, projectBase,
      projectReference.eq_def]
    cases known with
    | none => rfl
    | some names => exact if_pos (List.contains_iff_mem.mpr (hknown names rfl))
  rw [typeText, hproject, render]

/-- Of the known targets only Go has a case of its own for the names of models. -/
theorem modelName_of_ne_go (ht : t ∈ all) (hgo : t ≠ go) (n : String) : t.modelName n = n := by
  simp only [all, List.mem_cons, List.not_mem_nil, or_false] at ht
  rcases ht with rfl | rfl | rfl | rfl
  · rfl
  · rfl
  · rfl
  · exact absurd rfl hgo

theorem modelName_go (n : String) : go.modelName n = String.ofList (Name.pascal n.toList) := rfl

/-- **Names of models in targets.**  Two models of a client have different names.  References to
them are spelled, and alike exactly if the target writes the names alike.  Only Go can: the other
known targets keep every name as it is, and none is empty but that of a component with an empty key.
Go keeps names apart whose letters and digits differ, whatever their case and without accents, and
writes nothing for a name that has none. -/
theorem model_names_kept (d : Document) {strict : Bool} {api : Api} {notices : List Notice}
    (hcompile : d.compile strict = (.ok api, notices)) {strictly : Bool} {f : TagFilter}
    {derived : Api} {ns : List Notice} (hderive : api.derive strictly f = .ok (derived, ns))
    {m m' : Model} (hm : m ∈ derived.models) (hm' : m' ∈ derived.models) (hne : m ≠ m')
    (ht : t ∈ all) (hknown : known = none ∨ known = some derived.modelNames)
    (hu : u.nullable = false) :
    m.name ≠ m'.name ∧ ∃ text text',
      t.typeText known (.ref u m.name) = .ok text ∧
      t.typeText known (.ref u m'.name) = .ok text' ∧
      (text = text' ↔ t.modelName m.name = t.modelName m'.name) ∧
      (t ≠ go → text ≠ text' ∧
        (t.modelName m.name = "" → m.name = "" ∧ "" ∈ d.schemas.map (·.1))) ∧
      (t = go →
        (Name.letters m.name.toList ≠ Name.letters m'.name.toList → text ≠ text') ∧
        (t.modelName m.name = "" ↔ Name.letters m.name.toList = [])) := by
  have hname := Api.name_ne_of_derive hderive hm hm' hne
  have htext : ∀ x ∈ derived.models,
      t.typeText known (.ref u x.name) = .ok (t.named.fill (t.modelName x.name)) := by
    intro x hx
    refine typeText_ref (fun names hnames => ?_) hu
    rcases hknown with rfl | rfl
    · cases hnames
    · obtain rfl := Option.some.inj hnames
      exact List.mem_map_of_mem hx
  have hiff : t.named.fill (t.modelName m.name) = t.named.fill (t.modelName m'.name) ↔
      t.modelName m.name = t.modelName m'.name := t.named.fill_injective.eq_iff
  refine ⟨hname, _, _, htext m hm, htext m' hm', hiff,
    fun hgo => ⟨fun h => hname ?_, fun h => ?_⟩, ?_⟩
  · simpa only [modelName_of_ne_go ht hgo] using hiff.mp h
  · rw [modelName_of_ne_go ht hgo] at h
    have hmodel : m ∈ api.models :=
      mem_of_mem_definitions (Api.mem_definitions_of_derive hderive hm)
    exact ⟨h, Document.empty_mem_keys hcompile hmodel h⟩
  · rintro rfl
    refine ⟨fun hletters h => hletters ?_, ?_⟩
    · exact Name.letters_eq_of_pascal_eq (String.ofList_injective (hiff.mp h))
    · rw [modelName_go, ← Name.pascal_eq_nil_iff, ← String.toList_inj, String.toList_ofList,
        String.toList_empty]

namespace Toys

open PetStore (referenceTo)
open Schema (Keywords Children)

def text : Schema := .inline { Keywords.blank with type := some (.one .string) } .blank

def toy : Schema := .inline { Keywords.blank with type := some (.one .object) } .blank

/-- A cat with a toy, which is hoisted. -/
def cat : Schema :=
  .inline { Keywords.blank with type := some (.one .object) }
    { Children.blank with properties := some [("toy", toy)] }

/-- A pet is a cat, a toy of one, or a text; a text without a name is selected by a discriminator
only. -/
def pet : Schema :=
  .inline { Keywords.blank with discriminator := some ⟨"kind", some [("other", "")], []⟩ }
    { Children.blank with
      oneOf := some [referenceTo "Cat", referenceTo "CatToy", referenceTo "_"] }

/-- A pet store with a component that has the name of a hoisted toy but for the underscore, one
without a name, and one without a letter in its name. -/
def document : Document :=
  { openapi := "3.0.0"
    info := ⟨"Toys", "1", none, [], []⟩
    paths := some [("/pets", PetStore.item)]
    components := some { Document.Components.empty with
      schemas := some [("", text), ("Cat", cat), ("CatToy", toy), ("Pet", pet), ("_", text)] }
    tags := none
    extra := []
    nulls := [] }

def petShape : Shape :=
  .composition ⟨false, none, some ⟨"kind", [("other", "")]⟩⟩ .oneOf
    [.ref .none "Cat", .ref .none "CatToy", .ref .none "_"]

def models : List Model :=
  [⟨"", .scalar .none .string, .none⟩,
    ⟨"Cat_Toy", .object .none [] none, .none⟩,
    ⟨"Cat", .object .none [⟨"toy", .ref .none "Cat_Toy", false, .none⟩] none, .none⟩,
    ⟨"CatToy", .object .none [] none, .none⟩,
    ⟨"Pet", petShape, .none⟩,
    ⟨"_", .scalar .none .string, .none⟩]

def api : Api := ⟨[⟨"misc", [PetStore.listed]⟩], models, []⟩

theorem compile_pet (owner : String) : pet.compile owner "" false = pure petShape := by
  have htraits : Keywords.compositionTraits { Keywords.blank with
      discriminator := some ⟨"kind", some [("other", "")], []⟩ } =
        ⟨false, none, some ⟨"kind", [("other", "")]⟩⟩ := by
    cbv
  have hcat : (referenceTo "Cat").compile owner "" false = pure (.ref .none "Cat") :=
    PetStore.compile_referenceTo (by cbv) (by cbv) owner "" false
  have htoy : (referenceTo "CatToy").compile owner "" false = pure (.ref .none "CatToy") :=
    PetStore.compile_referenceTo (by cbv) (by cbv) owner "" false
  have htext : (referenceTo "_").compile owner "" false = pure (.ref .none "_") :=
    PetStore.compile_referenceTo (by cbv) (by cbv) owner "" false
  rw [pet, Schema.compile_inline, htraits]
  show Build.forEach (fun s => Schema.compile s owner "" false)
    [referenceTo "Cat", referenceTo "CatToy", referenceTo "_"] >>= _ = _
  simp only [Build.forEach, hcat, htoy, htext, pure_bind]
  rfl

theorem compile_document : document.compile false = (.ok api, []) := by
  have hsorted : sortedByKey document.schemas =
      [("", text), ("Cat", cat), ("CatToy", toy), ("Pet", pet), ("_", text)] := by
    cbv
  have hgrouped : document.groupedOperations none =
      [("misc", "/pets", PetStore.item, .get, PetStore.listing)] := by
    cbv
  have hitem : PetStore.item.parameters.getD [] = [] := rfl
  have hgroup : Document.group [PetStore.listed] = [⟨"misc", [PetStore.listed]⟩] := by cbv
  have hlisting : PetStore.listing.compile document.parts "/pets" "GET" "misc" [] =
      pure PetStore.listed := PetStore.compile_listing
  simp only [Document.compile, Document.build, Document.compileModels, hsorted,
    Document.compileSchemas, compile_pet, pure_bind, Document.compileServices,
    Document.compileOperations, hgrouped, Build.forEach, hitem, Method.name, hlisting,
    hgroup]
  cbv

/-- A client of everything gets all models. -/
theorem derive_api : api.derive true PetStore.everything = .ok (api, []) := by
  cbv

/-- The hoisted toy and the one that is a component. -/
def hoistedToy : Model := ⟨"Cat_Toy", .object .none [] none, .none⟩

def declaredToy : Model := ⟨"CatToy", .object .none [] none, .none⟩

theorem hoistedToy_mem : hoistedToy ∈ api.models := by
  simp [api, models, hoistedToy]

theorem declaredToy_mem : declaredToy ∈ api.models := by
  simp [api, models, declaredToy]

theorem toys_ne : hoistedToy ≠ declaredToy := by
  intro h
  have hname : "Cat_Toy" = "CatToy" := congrArg Model.name h
  revert hname
  decide

theorem python_ne_go : python ≠ go := by
  intro h
  have hname : "python" = "go" := congrArg Target.name h
  revert hname
  decide

/-- In Go both toys are one type and a name without letters is empty, and in every target the name of
the component without a name is. -/
theorem toys_meet :
    (¬ ∀ (d : Document) (api derived : Api) (notices ns : List Notice) (strict : Bool)
      (f : TagFilter), d.compile false = (.ok api, notices) →
        api.derive strict f = .ok (derived, ns) → ∀ t ∈ all, ∀ m ∈ derived.models,
          ∀ m' ∈ derived.models, m ≠ m' →
            t.typeText none (.ref .none m.name) ≠ t.typeText none (.ref .none m'.name) ∧
              t.modelName m.name ≠ "" ∧ t.modelName m'.name ≠ "") ∧
      api.modelNames = ["", "Cat_Toy", "Cat", "CatToy", "Pet", "_"] ∧
      go.typeText none (.ref .none "Cat_Toy") = .ok "CatToy" ∧
      go.typeText none (.ref .none "CatToy") = .ok "CatToy" ∧
      go.modelName "_" = "" ∧ ∀ t ∈ all, t.modelName "" = "" := by
  have hhoisted : go.typeText none (.ref .none "Cat_Toy") = .ok "CatToy" := by cbv
  have hdeclared : go.typeText none (.ref .none "CatToy") = .ok "CatToy" := by cbv
  refine ⟨fun h => ?_, rfl, hhoisted, hdeclared, by cbv, ?_⟩
  · have hgo : go ∈ all := by simp [all]
    exact (h document api api [] [] true PetStore.everything compile_document derive_api go hgo
      hoistedToy hoistedToy_mem declaredToy declaredToy_mem toys_ne).1
        (hhoisted.trans hdeclared.symm)
  · simp only [all, List.forall_mem_cons]
    exact ⟨rfl, rfl, rfl, by cbv, List.forall_mem_nil _⟩

/-- Python keeps the two toys apart. -/
theorem toys_kept :
    document.compile false = (.ok api, []) ∧
      api.derive true PetStore.everything = .ok (api, []) ∧ hoistedToy ∈ api.models ∧
      declaredToy ∈ api.models ∧ hoistedToy ≠ declaredToy ∧ python ∈ all ∧
      ∃ text text', python.typeText none (.ref .none "Cat_Toy") = .ok text ∧
        python.typeText none (.ref .none "CatToy") = .ok text' ∧ text ≠ text' := by
  have hpython : python ∈ all := by simp [all]
  obtain ⟨-, text, text', hhoisted, hdeclared, -, hkept, -⟩ := model_names_kept document
    compile_document derive_api hoistedToy_mem declaredToy_mem toys_ne hpython (Or.inl rfl)
    (u := .none) rfl
  exact ⟨compile_document, derive_api, hoistedToy_mem, declaredToy_mem, toys_ne, hpython, text,
    text', hhoisted, hdeclared, (hkept python_ne_go).1⟩

end Toys
end Target
end ApiCompiler
