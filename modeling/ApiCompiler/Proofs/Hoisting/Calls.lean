import ApiCompiler.Proofs.Hoisting.Soundness
import ApiCompiler.Proofs.Registry.Consistency

/-!
# The calls made while compiling

Compiling a schema compiles the schemas inside it, each from the state that the ones before it have
left, and asks for names for what it hoists.  This file lists these steps, so that it can be said
of each of them what holds of all.

A `Schema.Job` is one schema that is compiled in some state.  `Job.Starts` lists the jobs that a job
starts: an object below another schema starts the jobs of its members under every candidate for its
name, also under those that are rejected.  `Job.Calls` says for which name a job asks itself, and
`Job.Registers` adds what is asked for by the jobs that it starts at any depth.

What was registered until a job is started hangs from the owner of every job around it
(`Job.Reaches.grows`), since `sound` says so of all jobs before it that returned.  So every call is
made from a consistent registry if the first job is, and it may take back what a rejected candidate
registered by cutting it off (`Job.Registers.rollbackFrom_outcome`).
-/

namespace ApiCompiler
namespace Schema

/-- A schema that is compiled: what it is compiled under, and the state in which that starts. -/
structure Job where
  schema : Schema
  owner : String
  property : String
  isItem : Bool
  start : BuildState

namespace Job

/-- How the job ends, and the state it leaves. -/
def outcome (j : Job) : Except CompileError Shape × BuildState :=
  (j.schema.compile j.owner j.property j.isItem).outcome j.start

/-- The call for a name that a job makes, if its schema is an enumeration or an object below
another schema. -/
inductive Calls : Job → Registration → Prop
  | literals {k : Keywords} {c : Children Schema} {owner property : String} {isItem : Bool}
      {start : BuildState} {shape : Shape} (form : k.form c = .literals)
      (nested : isNested property isItem = true) (listed : enumeration k = .ok shape) :
      Calls ⟨.inline k c, owner, property, isItem, start⟩
        ⟨syntheticName owner property isItem, fun _ => pure shape,
          (Schema.inline k c).annotations, start⟩
  | object {k : Keywords} {c : Children Schema} {owner property : String} {isItem : Bool}
      {start : BuildState} (form : k.form c = .object)
      (nested : isNested property isItem = true) :
      Calls ⟨.inline k c, owner, property, isItem, start⟩
        ⟨syntheticName owner property isItem, compileMembers k c,
          (Schema.inline k c).annotations, start⟩

/-- The members of an object are compiled under a name, from a state on: in place that is the name
of the owner, and below another schema it is every candidate that is tried. -/
inductive Opens (k : Keywords) (c : Children Schema) : Job → String → BuildState → Prop
  | inPlace {owner property : String} {isItem : Bool} {start : BuildState}
      (form : k.form c = .object) (inPlace : isNested property isItem = false) :
      Opens k c ⟨.inline k c, owner, property, isItem, start⟩ owner start
  | candidate {owner property : String} {isItem : Bool} {start : BuildState} {r : Registration}
      {i : Nat} {u : BuildState} (form : k.form c = .object)
      (calls : Calls ⟨.inline k c, owner, property, isItem, start⟩ r) (tried : r.Tries i u) :
      Opens k c ⟨.inline k c, owner, property, isItem, start⟩ (r.candidate i) u

/-- The jobs that a job starts directly, each once the ones before it have returned. -/
inductive Starts : Job → Job → Prop
  | member {k : Keywords} {c : Children Schema} {how : Composition} {done rest : List Schema}
      {s : Schema} {owner property : String} {isItem : Bool} {start u : BuildState}
      {as : List Shape} (form : k.form c = .composition how (done ++ s :: rest))
      (ran : (Build.forEach (fun m => compile m owner property isItem) done).Returns start as u) :
      Starts ⟨.inline k c, owner, property, isItem, start⟩ ⟨s, owner, property, isItem, u⟩
  | negated {k : Keywords} {c : Children Schema} {s : Schema} {owner property : String}
      {isItem : Bool} {start : BuildState} (form : k.form c = .negation s) :
      Starts ⟨.inline k c, owner, property, isItem, start⟩ ⟨s, owner, property, isItem, start⟩
  | items {k : Keywords} {c : Children Schema} {s : Schema} {owner property : String}
      {isItem : Bool} {start : BuildState} (form : k.form c = .array) (items : c.items = some s) :
      Starts ⟨.inline k c, owner, property, isItem, start⟩ ⟨s, owner, property, true, start⟩
  | field {k : Keywords} {c : Children Schema} {j : Job} {own : String} {t u : BuildState}
      {done rest : List (Field Schema)} {f : Field Schema} {gs : List (Field Shape)}
      (opens : Opens k c j own t) (fields : k.declaredFields c = done ++ f :: rest)
      (ran : (Build.forEach (compileField own) done).Returns t gs u) :
      Starts j ⟨f.type, own, f.name, false, u⟩
  | further {k : Keywords} {c : Children Schema} {j : Job} {own : String} {t u : BuildState}
      {s : Schema} {gs : List (Field Shape)} (opens : Opens k c j own t)
      (ran : (Build.forEach (compileField own) (k.declaredFields c)).Returns t gs u)
      (remaining : c.remaining = some (some s)) : Starts j ⟨s, own, "Properties", false, u⟩

/-- The second job is the first one or is started by it at some depth. -/
def Reaches : Job → Job → Prop := Relation.ReflTransGen Starts

/-- The call is made by the job, or by one that it starts at some depth. -/
def Registers (j : Job) (r : Registration) : Prop := ∃ j', j.Reaches j' ∧ j'.Calls r

variable {j j' : Job} {r r' : Registration} {k : Keywords} {c : Children Schema} {own : String}
  {t after : BuildState} {e : CompileError}

/-! ## Calls -/

namespace Calls

/-- A call is made in the state in which its job starts. -/
theorem start_eq (h : j.Calls r) : r.start = j.start := by
  cases h with
  | literals => rfl
  | object => rfl

/-- Only the job of an enumeration or an object makes a call. -/
theorem isModel (h : j.Calls r) (hs : j.schema = .inline k c) : (k.form c).isModel := by
  cases h with
  | literals form =>
    cases hs
    rw [form]
    trivial
  | object form =>
    cases hs
    rw [form]
    trivial

/-- Only a job below another schema makes a call. -/
theorem nested (h : j.Calls r) : isNested j.property j.isItem = true := by
  cases h with
  | literals _ nested => exact nested
  | object _ nested => exact nested

/-- The name that is asked for hangs from the owner. -/
theorem hangsFrom (h : j.Calls r) : Registry.HangsFrom j.owner r.name := by
  cases h with
  | literals form nested => exact hangsFrom_syntheticName _ nested
  | object form nested => exact hangsFrom_syntheticName _ nested

/-- What is registered while the shape is built hangs from the name it is built under. -/
theorem build_grows (h : j.Calls r) {own : String} {u v : BuildState} {shape : Shape}
    (built : (r.build own).Returns u shape v) :
    u.registry.Grows (fun _ m => Registry.HangsFrom own m.name) v.registry := by
  cases h with
  | literals =>
    obtain ⟨-, rfl⟩ := Build.pure_returns.mp built
    exact .refl _
  | object form =>
    obtain ⟨hgrows, -, -⟩ := compileMembers_returns (fun _ _ p _ => p.sound) form built
    exact hgrows.imp fun _ _ hm => hm.name

theorem spares (h : j.Calls r) : r.Spares :=
  fun _ _ _ _ built => (h.build_grows built).imp fun _ _ hm => hm.ne

/-- A job makes one call. -/
theorem unique (h : j.Calls r) (h' : j.Calls r') : r = r' := by
  cases h with
  | literals form nested listed =>
    cases h' with
    | literals form' nested' listed' =>
      rw [listed, Except.ok.injEq] at listed'
      rw [listed']
    | object form' =>
      rw [form] at form'
      cases form'
  | object form =>
    cases h' with
    | literals form' =>
      rw [form] at form'
      cases form'
    | object => rfl

/-- A job that makes a call only refers to the name it gets. -/
theorem compile_eq (h : j.Calls r) :
    ∃ nullable, j.schema.compile j.owner j.property j.isItem =
      (Build.registerShape r.name r.build r.notes >>= fun n =>
        pure (.ref ⟨nullable, none, none⟩ n)) := by
  cases h with
  | @literals k c owner property isItem start shape form nested listed =>
    refine ⟨shape.nullable, ?_⟩
    rw [compile_inline, form, compileEnum, listed, nested]
    rfl
  | @object k c owner property isItem start form nested =>
    refine ⟨k.declaresNull, ?_⟩
    rw [compile_inline, form, compileObject, if_pos nested, funext (objectFrom_eq k c)]

/-- A job leaves the state that its call leaves. -/
theorem outcome_snd (h : j.Calls r) : j.outcome.2 = r.outcome.2 := by
  obtain ⟨nullable, heq⟩ := h.compile_eq
  rw [outcome, heq, ← h.start_eq]
  exact Build.outcome_bind_pure_snd _ _ _

/-- A job fails with its call. -/
theorem outcome_eq_error (h : j.Calls r) :
    j.outcome = (.error e, after) ↔ r.outcome = (.error e, after) := by
  obtain ⟨nullable, heq⟩ := h.compile_eq
  rw [outcome, heq, ← h.start_eq]
  exact Build.bind_pure_fails

end Calls

/-! ## What has been registered when a job starts -/

/-- Members are compiled from the models there were when the job of the object started. -/
theorem Opens.registry_eq (h : Opens k c j own t) : t.registry = j.start.registry := by
  cases h with
  | inPlace => rfl
  | candidate _ calls tried => rw [tried.registry_eq, calls.start_eq]

theorem Opens.schema_eq (h : Opens k c j own t) : j.schema = .inline k c := by
  cases h with
  | inPlace => rfl
  | candidate => rfl

/-- Members are compiled under the owner of the object, or under a name that hangs from it. -/
theorem Opens.owner (h : Opens k c j own t) : own = j.owner ∨ Registry.HangsFrom j.owner own := by
  cases h with
  | inPlace => exact Or.inl rfl
  | candidate _ calls tried => exact Or.inr (hangsFrom_candidate calls.hangsFrom _)

/-- A job that makes a call opens its members under candidates for the name only. -/
theorem Opens.of_calls (h : Opens k c j own t) (hcalls : j.Calls r) :
    ∃ i, r.Tries i t ∧ own = r.candidate i := by
  cases h with
  | inPlace form inPlace =>
    have hnested := hcalls.nested
    dsimp only at hnested
    rw [inPlace] at hnested
    cases hnested
  | candidate form calls tried =>
    obtain rfl := calls.unique hcalls
    exact ⟨_, tried, rfl⟩

/-- Compiling fields registers models whose names hang from that of the object. -/
theorem fields_grow {fs : List (Field Schema)} {gs : List (Field Shape)} {u : BuildState}
    (ran : (Build.forEach (compileField own) fs).Returns t gs u) :
    t.registry.Grows (fun _ m => Registry.HangsFrom own m.name) u.registry := by
  refine (Build.forEach_grows_all (T := fun _ _ => True) (fun _ _ _ _ _ => trivial)
    (fun f _ u g v hrun => ⟨?_, trivial⟩) ran).1
  rw [compileField, Build.bind_returns] at hrun
  obtain ⟨a, w, ha, hpure⟩ := hrun
  obtain ⟨-, rfl⟩ := Build.pure_returns.mp hpure
  exact (f.type.sound ha).1.imp fun _ _ hm => hm.name

namespace Starts

/-- What a job starts compiles something that occurs strictly inside its schema. -/
theorem exists_part (h : j.Starts j') :
    ∃ part ∈ j.schema.parts, j'.schema.Occurs part := by
  cases h with
  | member form =>
    exact ⟨_, mem_parts_of_composition form (List.mem_append_right _ List.mem_cons_self), .refl _⟩
  | negated form => exact ⟨_, mem_parts_of_negation form, .refl _⟩
  | items form items => exact ⟨_, mem_parts_of_items items, .refl _⟩
  | field opens fields =>
    rw [opens.schema_eq]
    refine occurs_of_mem_declaredFields ?_
    rw [fields]
    exact List.mem_append_right _ List.mem_cons_self
  | further opens ran remaining =>
    rw [opens.schema_eq]
    exact ⟨_, mem_parts_of_remaining remaining, .refl _⟩

/-- A job that is started has the same owner, or one that hangs from it. -/
theorem owner (h : j.Starts j') :
    j'.owner = j.owner ∨ Registry.HangsFrom j.owner j'.owner := by
  cases h with
  | member => exact Or.inl rfl
  | negated => exact Or.inl rfl
  | items => exact Or.inl rfl
  | field opens => exact opens.owner
  | further opens => exact opens.owner

/-- What is registered before a job is started hangs from the owner of the job that starts it. -/
theorem grows (h : j.Starts j') :
    j.start.registry.Grows (fun _ m => Registry.HangsFrom j.owner m.name) j'.start.registry := by
  have hopened : ∀ {k c own t gs u} {fs : List (Field Schema)}, Opens k c j own t →
      (Build.forEach (compileField own) fs).Returns t gs u →
        j.start.registry.Grows (fun _ m => Registry.HangsFrom j.owner m.name) u.registry := by
    intro k c own t gs u fs opens ran
    rw [← opens.registry_eq]
    refine (fields_grow ran).imp fun _ m hm => ?_
    rcases opens.owner with heq | hhangs
    · rwa [heq] at hm
    · exact hhangs.trans hm
  cases h with
  | @member k c how done rest s owner property isItem start u as form ran =>
    exact (Build.forEach_grows_all (T := fun _ _ => True) (fun _ _ _ _ _ => trivial)
      (fun m _ u a v hrun => ⟨(m.sound hrun).1.imp fun _ _ hm => hm.name, trivial⟩) ran).1
  | negated => exact .refl _
  | items => exact .refl _
  | field opens fields ran => exact hopened opens ran
  | further opens ran => exact hopened opens ran

/-- A job that makes a call starts the jobs of its members under the candidates for the name, and
what is registered before these hangs from the candidate. -/
theorem of_calls (h : j.Starts j') (hcalls : j.Calls r) :
    ∃ i u, r.Tries i u ∧ j'.owner = r.candidate i ∧
      u.registry.Grows (fun _ m => Registry.HangsFrom (r.candidate i) m.name)
        j'.start.registry := by
  cases h with
  | member form =>
    have hmodel := hcalls.isModel rfl
    rw [form] at hmodel
    exact hmodel.elim
  | negated form =>
    have hmodel := hcalls.isModel rfl
    rw [form] at hmodel
    exact hmodel.elim
  | items form =>
    have hmodel := hcalls.isModel rfl
    rw [form] at hmodel
    exact hmodel.elim
  | field opens fields ran =>
    obtain ⟨i, tried, rfl⟩ := opens.of_calls hcalls
    exact ⟨i, _, tried, rfl, fields_grow ran⟩
  | further opens ran =>
    obtain ⟨i, tried, rfl⟩ := opens.of_calls hcalls
    exact ⟨i, _, tried, rfl, fields_grow ran⟩

end Starts

namespace Reaches

theorem refl (j : Job) : j.Reaches j := Relation.ReflTransGen.refl

theorem occurs (h : j.Reaches j') : j'.schema.Occurs j.schema := by
  induction h with
  | refl => exact .refl _
  | tail _ hstarts ih =>
    obtain ⟨part, hpart, hocc⟩ := hstarts.exists_part
    exact (hocc.trans (.of_mem_parts hpart)).trans ih

theorem owner (h : j.Reaches j') : j'.owner = j.owner ∨ Registry.HangsFrom j.owner j'.owner := by
  induction h with
  | refl => exact Or.inl rfl
  | tail _ hstarts ih =>
    rcases hstarts.owner with heq | hhangs
    · rwa [heq]
    · rcases ih with heq | hhangs'
      · exact Or.inr (heq ▸ hhangs)
      · exact Or.inr (hhangs'.trans hhangs)

/-- What is registered before a job is started hangs from the owner of every job around it. -/
theorem grows (h : j.Reaches j') :
    j.start.registry.Grows (fun _ m => Registry.HangsFrom j.owner m.name) j'.start.registry := by
  induction h with
  | refl => exact .refl _
  | tail hreaches hstarts ih =>
    refine ih.trans (hstarts.grows.imp fun _ m hm => ?_)
    rcases owner hreaches with heq | hhangs
    · rwa [heq] at hm
    · exact hhangs.trans hm

end Reaches

/-! ## Taking back -/

namespace Registers

/-- Every call is made from a consistent registry, if the job is started from one. -/
theorem consistent (h : j.Registers r) (hstart : j.start.registry.Consistent) :
    r.start.registry.Consistent := by
  obtain ⟨j', hreaches, hcalls⟩ := h
  rw [hcalls.start_eq]
  exact hstart.grows hreaches.grows

/-- **Cutting off is going back.**  A call made anywhere in a job ends in the same way, and leaves
the same state, if its search cuts off what a rejected candidate registered and frees those names,
instead of going back to the registry there was. -/
theorem rollbackFrom_outcome (h : j.Registers r) (hstart : j.start.registry.Consistent) :
    (Build.rollbackFrom r.name r.build r.notes (r.start.registry.models.length + 1) 1).outcome
      r.start = r.outcome := by
  have hconsistent := h.consistent hstart
  obtain ⟨j', -, hcalls⟩ := h
  have hbuild : ∀ own u shape v, (r.build own).Returns u shape v →
      u.registry.Grows (fun _ _ => True) v.registry := fun own u shape v built =>
    (hcalls.build_grows built).imp fun _ _ _ => trivial
  rw [Build.rollbackFrom_outcome hbuild _ _ hconsistent, Registration.outcome, Build.registerShape,
    Build.registry_bind_outcome]

end Registers
end Job
end Schema
end ApiCompiler
