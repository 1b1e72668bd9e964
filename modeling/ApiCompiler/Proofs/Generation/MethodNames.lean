import ApiCompiler.Proofs.Compilation.CallOrder
import ApiCompiler.Proofs.Compilation.Resolution
import ApiCompiler.Proofs.Generation.Preparation
import ApiCompiler.Proofs.Name.Identifiers

/-!
# Names of methods

A manifest has a name for every method.  Without a naming command it is the identifier of the
operation, from behind its controller, or else what the HTTP method stands for; and the target writes
it in a case of its own.

The fallback is chosen before the name is written, for operations of which nothing is left in the
identifier.  Its names begin with letters, so they are identifiers in every target
(`isAlpha_of_mem_verbs`).  Of an identifier that has something left only the letters and digits are
written, and they may begin with a digit, or be none at all.  So every name consists of letters,
digits and underscores, but it is an identifier exactly if the first of the letters and digits it is
made from is a letter (`method_names_spelled`).
-/

namespace ApiCompiler

/-! ## Runs that do nothing -/

namespace Run

variable {σ α β : Type}

/-- Steps that only return make a run that only returns. -/
theorem forEach_eq_pure {step : α → Run σ β} {R : α → β → Prop} {as : List α}
    (h : ∀ a ∈ as, ∃ b, step a = pure b ∧ R a b) :
    ∃ bs, forEach step as = pure bs ∧ List.Forall₂ R as bs := by
  induction as with
  | nil => exact ⟨[], rfl, .nil⟩
  | cons a as ih =>
    rw [List.forall_mem_cons] at h
    obtain ⟨⟨b, hstep, hb⟩, hrest⟩ := h
    obtain ⟨bs, hsteps, hbs⟩ := ih hrest
    refine ⟨b :: bs, ?_, .cons hb hbs⟩
    rw [forEach, hstep, pure_bind, hsteps, pure_bind]

/-- Without a naming command the built-in name is taken, and nothing is asked. -/
theorem methodName_of_no_command (h : Host σ) {command : Option String}
    (hcommand : command.getD "" = "") (op : Operation) :
    methodName h command op = pure (MethodName.builtIn op) := by
  have hempty : "".isEmpty = true := rfl
  unfold methodName
  cases command with
  | none =>
    dsimp only
    rw [pure_bind, if_pos hempty]
  | some name =>
    obtain rfl : name = "" := hcommand
    dsimp only
    rw [if_pos hempty, pure_bind, if_pos hempty]

end Run

/-! ## Manifests -/

namespace Manifest

/-- The elements of the array under a key. -/
def elements (key : String) (json : Json) : List Json :=
  match json.get? key with
  | some (.arr js) => js
  | _ => []

/-- What a manifest has under the key of method names, service by service and operation by
operation. -/
def methodNames (manifest : Json) : List (Option Json) :=
  ((elements "services" manifest).flatMap (elements "operations")).map (·.get? "methodName")

variable {σ : Type} {t : Target} {type : Shape → Except Breakdown String}

/-- What the manifest of an operation has under the key of method names. -/
def Named (t : Target) (op : Operation) (json : Json) : Prop :=
  json.get? "methodName" = some (.str (t.methodName (MethodName.builtIn op)))

/-- The operations in the manifest of a service have the names of its methods. -/
def NamedAll (t : Target) (s : Service) (json : Json) : Prop :=
  List.Forall₂ (Named t) s.operations (elements "operations" json)

theorem exists_named (σ : Type) (t : Target) {op : Operation}
    (h : ∀ s ∈ op.shapes, ∃ text, type s = .ok text) :
    ∃ json, (part (operation t type (MethodName.builtIn op) op) : Run σ Json) = pure json ∧
      Named t op json := by
  choose! text htext using h
  obtain ⟨queryParams, body, answer, hmanifest⟩ := exists_operation (MethodName.builtIn op) htext
  rw [hmanifest]
  exact ⟨_, rfl, rfl⟩

theorem exists_namedAll (σ : Type) (t : Target) {service : Service}
    (h : ∀ op ∈ service.operations, ∀ s ∈ op.shapes, ∃ text, type s = .ok text) :
    ∃ json, (do
        let operations ← Run.forEach
          (fun op => part (operation t type (MethodName.builtIn op) op)) service.operations
        pure (Json.obj [("tag", .str service.tag), ("operations", .arr operations)]) :
          Run σ Json) = pure json ∧ NamedAll t service json := by
  obtain ⟨operations, hrun, hnamed⟩ :=
    Run.forEach_eq_pure fun op hop => exists_named σ t (h op hop)
  rw [hrun, pure_bind]
  exact ⟨_, rfl, hnamed⟩

theorem NamedAll.methodNames {service : Service} {json : Json} (h : NamedAll t service json) :
    (elements "operations" json).map (·.get? "methodName") =
      service.operations.map fun op => some (.str (t.methodName (MethodName.builtIn op))) := by
  rw [← List.forall₂_eq_eq_eq, List.forall₂_map_left_iff, List.forall₂_map_right_iff]
  exact h.flip

theorem methodNames_ofParts (t : Target) (c : Client) {services : List Service}
    {jsons : List Json} (h : List.Forall₂ (NamedAll t) services jsons) (models : Json) :
    methodNames (ofParts t c jsons models) =
      (services.flatMap (·.operations)).map fun op =>
        some (.str (t.methodName (MethodName.builtIn op))) := by
  have hjsons : elements "services" (ofParts t c jsons models) = jsons := rfl
  rw [methodNames, hjsons]
  clear hjsons
  induction h with
  | nil => rfl
  | cons hnamed _ ih =>
    rw [List.flatMap_cons, List.flatMap_cons, List.map_append, List.map_append,
      hnamed.methodNames, ih]

/-- Without a naming command a manifest is made without asking or reporting anything, if the types
of all shapes are spelled.  It has the built-in names as the target writes them. -/
theorem build_of_no_command (h : Host σ) {c : Client} (hcommand : c.namingCommand.getD "" = "")
    {api : Api} (hspelled : ∀ s ∈ api.shapes, ∃ text, t.typeText (some api.modelNames) s = .ok text)
    (s : RunState σ) :
    ∃ manifest, (build h t c api).outcome s = (.ok manifest, s) ∧
      methodNames manifest =
        api.operations.map fun op => some (.str (t.methodName (MethodName.builtIn op))) := by
  have hoperations : ∀ service ∈ api.services, ∀ op ∈ service.operations, ∀ s ∈ op.shapes,
      ∃ text, t.typeText (some api.modelNames) s = .ok text := by
    refine fun service hservice op hop s hs => hspelled s (List.mem_append_right _ ?_)
    exact List.mem_flatMap.mpr ⟨op, List.mem_flatMap.mpr ⟨service, hservice, hop⟩, hs⟩
  have hmodels : ∃ models, typesByName (t.typeText (some api.modelNames))
      (api.models.map fun m => (m.name, m.shape)) = .ok models := by
    choose! text htext using hspelled
    refine ⟨_, typesByName_eq (List.forall_mem_map.mpr fun m hm => htext m.shape ?_)⟩
    exact List.mem_append_left _ (List.mem_map_of_mem hm)
  obtain ⟨models, hmodels⟩ := hmodels
  obtain ⟨services, hrun, hnamed⟩ := Run.forEach_eq_pure fun service hservice =>
    exists_namedAll σ t (hoperations service hservice)
  refine ⟨ofParts t c services models, ?_, methodNames_ofParts t c hnamed models⟩
  unfold build
  simp only [Run.methodName_of_no_command h hcommand, pure_bind, hrun, hmodels]
  rfl

end Manifest

/-! ## Built-in names -/

namespace MethodName

open Name (letters)

theorem builtIn_of_empty {op : Operation} (h : ofOperationId op.operationId = "") :
    builtIn op = derived op := by
  rw [builtIn, h]
  exact if_pos rfl

theorem builtIn_of_ne {op : Operation} (h : ofOperationId op.operationId ≠ "") :
    builtIn op = ofOperationId op.operationId := by
  rw [builtIn, if_neg]
  rwa [String.isEmpty_iff]

/-- The names that HTTP methods stand for. -/
def verbs : List String :=
  ["get", "list", "create", "update", "delete", "options", "head", "trace"]

theorem upper_name (m : Method) : Text.upper m.name.toList = m.name.toList := by
  cases m <;> decide +kernel

theorem lower_name (m : Method) : Text.lower m.name.toList = m.key.toList := by
  cases m <;> decide +kernel

/-- Without an identifier a method is named by what its HTTP method stands for. -/
theorem derived_mem_verbs {op : Operation} {m : Method} (h : op.method = m.name) :
    derived op ∈ verbs := by
  unfold derived
  rw [h, upper_name, String.ofList_toList]
  dsimp only
  rw [lower_name, String.ofList_toList]
  cases m with
  | get => cases hasParameter op.path <;> simp [Method.name, verbs]
  | _ => simp [Method.name, Method.key, verbs]

/-- These names begin with letters. -/
theorem isAlpha_of_mem_verbs :
    ∀ n ∈ verbs, ∃ x ∈ (letters n.toList).head?, x.isAlpha = true := by
  have hletters : verbs.map (fun n => (letters n.toList).head?) =
      [some 'g', some 'l', some 'c', some 'u', some 'd', some 'o', some 'h', some 't'] := by
    cbv
  intro n hn
  have hmem : (letters n.toList).head? ∈
      verbs.map (fun n => (letters n.toList).head?) := List.mem_map_of_mem hn
  rw [hletters] at hmem
  generalize (letters n.toList).head? = first at hmem
  fin_cases hmem <;> exact ⟨_, rfl, rfl⟩

end MethodName

namespace Target

open Name (letters IsIdentifier)

variable {t : Target}

/-- No known target writes methods with hyphens. -/
theorem methodCase_ne_kebab (ht : t ∈ all) : t.methodCase ≠ .kebab := by
  simp only [all, List.mem_cons, List.not_mem_nil, or_false] at ht
  intro h
  rcases ht with rfl | rfl | rfl | rfl <;> cases h

theorem toList_methodName (t : Target) (name : String) :
    (t.methodName name).toList = t.methodCase.apply name.toList := by
  rw [methodName, Name.Case.write, String.toList_ofList]

theorem isIdentifier_methodName_iff (ht : t ∈ all) (name : String) :
    IsIdentifier (t.methodName name).toList ↔
      ∃ x ∈ (letters name.toList).head?, x.isAlpha = true := by
  rw [toList_methodName]
  exact Name.isIdentifier_apply_iff (methodCase_ne_kebab ht) _

theorem methodName_eq_empty_iff (t : Target) (name : String) :
    t.methodName name = "" ↔ letters name.toList = [] := by
  rw [← String.toList_inj, toList_methodName, String.toList_empty, Name.apply_eq_nil_iff]

end Target

open MethodName Name

/-! ## The names in a manifest -/

/-- **Names of methods.**  Take a description compiled from a document, or the part of it that a
client gets.  Without a naming command its manifest is made in every run, and has for each operation
the name written by the target.  The name consists of letters, digits and underscores.  It is an
identifier exactly if the first of the letters and digits of the built-in name is a letter, and empty
exactly if there is none; and it always is an identifier where nothing is left of the identifier of
the operation. -/
theorem method_names_spelled (d : Document) {strict : Bool} {api : Api} {notices : List Notice}
    (hcompile : d.compile strict = (.ok api, notices)) {part : Api}
    (hpart : part = api ∨ ∃ strictly f ns, api.derive strictly f = .ok (part, ns))
    {t : Target} (ht : t ∈ Target.all) {c : Client} (hcommand : c.namingCommand.getD "" = "")
    {σ : Type} (h : Host σ) (s : RunState σ) :
    ∃ manifest, (Manifest.build h t c part).outcome s = (.ok manifest, s) ∧
      Manifest.methodNames manifest =
        part.operations.map (fun op => some (.str (t.methodName (builtIn op)))) ∧
      ∀ op ∈ part.operations,
        (∀ x ∈ (t.methodName (builtIn op)).toList, isWordChar x = true ∨ x = '_') ∧
          (IsIdentifier (t.methodName (builtIn op)).toList ↔
            ∃ x ∈ (letters (builtIn op).toList).head?, x.isAlpha = true) ∧
          (t.methodName (builtIn op) = "" ↔ letters (builtIn op).toList = []) ∧
          (ofOperationId op.operationId = "" →
            IsIdentifier (t.methodName (builtIn op)).toList) := by
  obtain ⟨manifest, hbuild, hnames⟩ := Manifest.build_of_no_command h hcommand
    (Document.exists_typeText hcompile hpart t _) s
  refine ⟨manifest, hbuild, hnames, fun op hop => ⟨?_, Target.isIdentifier_methodName_iff ht _,
    Target.methodName_eq_empty_iff t _, fun hid => ?_⟩⟩
  · rw [Target.toList_methodName]
    exact chars_apply (Target.methodCase_ne_kebab ht) _
  · have hmem : op ∈ api.operations := by
      rcases hpart with rfl | ⟨strictly, f, ns, hderive⟩
      · exact hop
      · exact Api.mem_operations_of_derive hderive hop
    obtain ⟨tag, path, item, method, o, before, after, hrun⟩ :=
      Document.exists_compiled_of_mem_operations hcompile hmem
    have hmethod : op.method = method.name :=
      congrArg Prod.snd (Document.Operation.compile_place hrun).1
    rw [Target.isIdentifier_methodName_iff ht, builtIn_of_empty hid]
    exact isAlpha_of_mem_verbs _ (derived_mem_verbs hmethod)

/-! ## Operations without letters in front -/

namespace Codes

def operation (id : String) : Document.Operation :=
  ⟨none, none, none, some id, none, none, none, none, none, [], []⟩

/-- One identifier is a hyphen, one begins with a digit, and one ends with its controller. -/
def item : Document.PathItem :=
  ⟨none, none, some (operation "-"), some (operation "CodesController_"),
    some (operation "2fa"), none, none, none, none, none, none, [], []⟩

def document : Document :=
  { openapi := "3.0.0"
    info := ⟨"Codes", "1", none, [], []⟩
    paths := some [("/codes", item)]
    components := none
    tags := none
    extra := []
    nulls := [] }

def compiled (id method : String) : Operation :=
  ⟨some id, method, "/codes", "misc", [], none, none, false, [], [], [], none, .undeclared⟩

def operations : List Operation :=
  [compiled "-" "GET", compiled "2fa" "POST", compiled "CodesController_" "PUT"]

def api : Api := ⟨[⟨"misc", operations⟩], [], []⟩

/-- Nothing is declared that needs the base name of an operation. -/
theorem compile_operation (id method : String) :
    (operation id).compile document.parts "/codes" method "misc" [] =
      pure (compiled id method) := by
  have hparams : ∀ base,
      Document.compileParameters (.parameters document.parts) base [] = pure ([], []) := by
    intro base
    simp [Document.compileParameters, Build.forEach, Document.mergeParameters, lastWins,
      Document.sortParams]
  have hbody : ∀ base, Document.compileBody (.requestBodies document.parts) base none =
      pure none := fun _ => rfl
  have hresponse : ∀ base, Document.compileResponse (.responses document.parts) base [] =
      pure .undeclared := by
    intro base
    have hcodes : Document.successCodes [] = [] := by cbv
    rw [Document.compileResponse, List.map_nil, hcodes]
    rfl
  have hpath : PathTemplate.params "/codes" = [] := by cbv
  rw [Document.Operation.compile, hpath]
  show Document.compileParameters _ _ [] >>= _ = _
  simp only [hparams, pure_bind]
  show Document.compileBody _ _ none >>= _ = _
  rw [hbody, pure_bind]
  show Document.compileResponse _ _ [] >>= _ = _
  rw [hresponse, pure_bind]
  rfl

theorem compile_document : document.compile false = (.ok api, []) := by
  have hgrouped : document.groupedOperations none =
      [("misc", "/codes", item, .get, operation "-"),
        ("misc", "/codes", item, .post, operation "2fa"),
        ("misc", "/codes", item, .put, operation "CodesController_")] := by
    cbv
  have hitem : item.parameters.getD [] = [] := rfl
  have hgroup : Document.group [compiled "-" "GET", compiled "2fa" "POST",
      compiled "CodesController_" "PUT"] = [⟨"misc", operations⟩] := by
    cbv
  simp only [Document.compile, Document.build, Document.compileModels, Document.compileServices,
    Document.compileOperations, hgrouped, Build.forEach, hitem, Method.name, compile_operation,
    pure_bind, hgroup]
  cbv

/-- What is chosen before the target writes it. -/
theorem builtIn_operations : operations.map builtIn = ["-", "2fa", "update"] := by
  have hhyphen : ofOperationId (some "-") = "-" := by cbv
  have hdigit : ofOperationId (some "2fa") = "2fa" := by cbv
  have hleft : ofOperationId (some "CodesController_") = "" := by cbv
  have hput : derived (compiled "CodesController_" "PUT") = "update" := by
    have hupper : Text.upper "PUT".toList = "PUT".toList := upper_name .put
    unfold derived
    rw [show (compiled "CodesController_" "PUT").method = "PUT" from rfl, hupper,
      String.ofList_toList]
    simp
  have hfirst : builtIn (compiled "-" "GET") = "-" :=
    (builtIn_of_ne (ne_of_eq_of_ne hhyphen (by decide))).trans hhyphen
  have hsecond : builtIn (compiled "2fa" "POST") = "2fa" :=
    (builtIn_of_ne (ne_of_eq_of_ne hdigit (by decide))).trans hdigit
  have hlast : builtIn (compiled "CodesController_" "PUT") = "update" :=
    (builtIn_of_empty hleft).trans hput
  rw [operations, List.map_cons, List.map_cons, List.map_cons, List.map_nil, hfirst, hsecond, hlast]

/-- The names of the methods in a target: those of the first two operations are no identifiers. -/
theorem methodName_operations {t : Target} (ht : t ∈ Target.all) :
    operations.map (fun op => t.methodName (builtIn op)) =
      ["", "2fa", if t.methodCase = .pascal then "Update" else "update"] := by
  have hall : ∀ c : Case, c ≠ .kebab → ["-", "2fa", "update"].map c.write =
      ["", "2fa", if c = .pascal then "Update" else "update"] := by
    intro c hc
    cases c with
    | kebab => exact absurd rfl hc
    | _ => cbv
  rw [← hall _ (Target.methodCase_ne_kebab ht), ← builtIn_operations, List.map_map]
  rfl

/-- The name of a hyphen is empty in every target, and that of an identifier with a digit in front
begins with this digit. -/
theorem codes_unusable :
    (¬ ∀ (d : Document) (api : Api) (notices : List Notice), d.compile false = (.ok api, notices) →
      ∀ t ∈ Target.all, ∀ (c : Client), c.namingCommand = none →
        ∀ (h : Host Workspace) (s : RunState Workspace) (manifest : Json),
          (Manifest.build h t c api).outcome s = (.ok manifest, s) →
            ∀ n ∈ Manifest.methodNames manifest, ∃ name, n = some (.str name) ∧
              IsIdentifier name.toList) ∧
      (∀ t ∈ Target.all, operations.map (fun op => t.methodName (builtIn op)) =
        ["", "2fa", if t.methodCase = .pascal then "Update" else "update"]) ∧
      ¬ IsIdentifier "".toList ∧ ¬ IsIdentifier "2fa".toList := by
  have hempty : ¬ IsIdentifier "".toList := fun h => h.nonempty rfl
  have hdigit : ¬ IsIdentifier "2fa".toList := by
    intro h
    have hstart := h.start '2' rfl
    revert hstart
    decide
  refine ⟨fun hclaim => ?_, fun t ht => methodName_operations ht, hempty, hdigit⟩
  have hpython : Target.python ∈ Target.all := by simp [Target.all]
  have hspelled : ∀ s ∈ api.shapes,
      ∃ text, Target.python.typeText (some api.modelNames) s = .ok text :=
    Document.exists_typeText compile_document (Or.inl rfl) _ _
  obtain ⟨manifest, hbuild, hnames⟩ := Manifest.build_of_no_command Generation.Shops.host
    (c := Generation.Shops.web) rfl hspelled ⟨Generation.Shops.tree, []⟩
  have hmem : some (Json.str "") ∈ Manifest.methodNames manifest := by
    have hoperations : api.operations = operations := rfl
    have hmap := congrArg (List.map fun n => some (Json.str n)) (methodName_operations hpython)
    rw [List.map_map] at hmap
    rw [hnames, hoperations]
    exact hmap ▸ List.mem_cons_self
  obtain ⟨name, hname, hidentifier⟩ := hclaim document api [] compile_document _ hpython
    Generation.Shops.web rfl Generation.Shops.host _ manifest hbuild _ hmem
  obtain rfl : "" = name := Json.str.inj (Option.some.inj hname)
  exact hempty hidentifier

/-- In Python the last operation is named for its method, since nothing follows its controller. -/
theorem codes_spelled :
    document.compile false = (.ok api, []) ∧ Target.python ∈ Target.all ∧
      Generation.Shops.web.namingCommand.getD "" = "" ∧
      ∃ manifest, (Manifest.build Generation.Shops.host Target.python Generation.Shops.web
          api).outcome ⟨Generation.Shops.tree, []⟩ =
            (.ok manifest, ⟨Generation.Shops.tree, []⟩) ∧
        Manifest.methodNames manifest = [some (.str ""), some (.str "2fa"), some (.str "update")] ∧
        IsIdentifier "update".toList := by
  have hpython : Target.python ∈ Target.all := by simp [Target.all]
  have hwritten := methodName_operations hpython
  obtain ⟨manifest, hbuild, hnames, hspelled⟩ := method_names_spelled document compile_document
    (Or.inl rfl) hpython (c := Generation.Shops.web) rfl Generation.Shops.host
    ⟨Generation.Shops.tree, []⟩
  refine ⟨compile_document, hpython, rfl, manifest, hbuild, ?_, ?_⟩
  · have hmap := congrArg (List.map fun n => some (Json.str n)) hwritten
    rw [List.map_map] at hmap
    rw [hnames]
    exact hmap
  · obtain ⟨-, -, -, hfallback⟩ := hspelled (compiled "CodesController_" "PUT")
      (by simp [api, Api.operations, operations])
    have hleft : ofOperationId (some "CodesController_") = "" := by cbv
    have hlast : Target.python.methodName (builtIn (compiled "CodesController_" "PUT")) =
        "update" := (List.cons.inj (List.cons.inj (List.cons.inj hwritten).2).2).1
    rw [← hlast]
    exact hfallback hleft

end Codes
end ApiCompiler
