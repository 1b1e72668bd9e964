import ApiCompiler.Proofs.Value.Rearrangement
import ApiCompiler.Shape.Likeness

/-!
# Shapes with values in another order

Two shapes that come from documents with their keys in another order are equal but for the raw
values in them: literals, defaults and examples.  `Shape.Rearranged` says so.  Such shapes are like
(`Rearranged.like`), and they are like the same shapes (`Rearranged.like_eq`), so a registry that
compares them decides the same in both runs.
-/

namespace ApiCompiler

/-! ## Annotations and traits -/

/-- The same annotations, the values in them rearranged. -/
structure Annotations.Rearranged (a b : Annotations) : Prop where
  title : a.title = b.title
  description : a.description = b.description
  deprecated : a.deprecated = b.deprecated
  readOnly : a.readOnly = b.readOnly
  writeOnly : a.writeOnly = b.writeOnly
  default : a.default.Rearranged b.default
  samples : List.Forall₂ Value.Rearranged a.samples b.samples

theorem Annotations.Rearranged.none : Annotations.none.Rearranged Annotations.none :=
  ⟨rfl, rfl, rfl, rfl, rfl, .scalar _, .nil⟩

theorem Annotations.like_iff {a b : Annotations} :
    a.like b = true ↔ a.title = b.title ∧ a.description = b.description ∧
      a.deprecated = b.deprecated ∧ a.readOnly = b.readOnly ∧ a.writeOnly = b.writeOnly ∧
      a.default.like b.default = true ∧
      List.Forall₂ (fun v w => Value.like v w = true) a.samples b.samples := by
  simp only [Annotations.like, Bool.and_eq_true, decide_eq_true_eq, Value.likeItems_iff, and_assoc]

theorem Annotations.Rearranged.like {a b : Annotations} (h : a.Rearranged b) :
    a.like b = true :=
  Annotations.like_iff.mpr ⟨h.title, h.description, h.deprecated, h.readOnly, h.writeOnly,
    h.default.like, h.samples.imp fun _ _ hvw => hvw.like⟩

theorem Annotations.Rearranged.like_eq {a a' b b' : Annotations} (ha : a.Rearranged a')
    (hb : b.Rearranged b') : a.like b = a'.like b' := by
  rw [Bool.eq_iff_iff, Annotations.like_iff, Annotations.like_iff, ha.title, ha.description,
    ha.deprecated, ha.readOnly, ha.writeOnly, hb.title, hb.description, hb.deprecated, hb.readOnly,
    hb.writeOnly, ha.default.like_eq hb.default,
    forall₂_iff_of_rel ha.samples hb.samples fun v _ v' w w' hv hw => by rw [hv.like_eq hw]]

/-- The mapping of a discriminator is a map: no key stands in it twice. -/
def Traits.Distinct (t : Traits) : Prop :=
  ∀ d, t.discriminator = some d → (d.mapping.map (·.1)).Nodup

theorem sameMapping_self {m : List (String × String)} (h : (m.map (·.1)).Nodup) :
    sameMapping m m = true := by
  rw [sameMapping, Bool.and_eq_true, decide_eq_true_eq, List.all_eq_true]
  refine ⟨rfl, fun e he => ?_⟩
  rw [lookup?_of_mem h he, decide_eq_true_eq]

theorem Traits.Distinct.like {t : Traits} (h : t.Distinct) : t.like t = true := by
  unfold Traits.like
  cases hd : t.discriminator with
  | none => simp
  | some d => simp [Discriminator.like, sameMapping_self (h d hd)]

/-- Fields of one name, with related types. -/
inductive Field.Rel {σ τ : Type} (R : σ → τ → Prop) : Field σ → Field τ → Prop
  | mk (name : String) {a : σ} {b : τ} (type : R a b) (required : Bool) {m n : Annotations}
      (annotations : m.Rearranged n) : Rel R ⟨name, a, required, m⟩ ⟨name, b, required, n⟩

theorem Field.Rel.name_eq {σ τ : Type} {R : σ → τ → Prop} {f : Field σ} {g : Field τ}
    (h : Field.Rel R f g) : f.name = g.name := by
  cases h
  rfl

namespace Shape

/-! ## The recursion over shapes -/

theorem size_lt_of_mem_children {s c : Shape} (h : c ∈ s.children) : c.size < s.size := by
  have hle : ∀ ss : List Shape, c ∈ ss → c.size ≤ listSize ss := by
    intro ss hc
    induction ss with
    | nil => cases hc
    | cons s ss ih =>
      rw [listSize]
      rcases List.mem_cons.mp hc with rfl | hc
      · exact Nat.le_add_right _ _
      · exact Nat.le_trans (ih hc) (Nat.le_add_left _ _)
  rw [size_eq s]
  exact Nat.lt_succ_of_le (hle _ h)

/-- Induction over shapes: what holds of a shape as soon as it holds of the shapes directly below
it holds of every shape. -/
theorem rec_children {P : Shape → Prop} (step : ∀ s, (∀ c ∈ s.children, P c) → P s) (s : Shape) :
    P s := by
  induction hn : s.size using Nat.strongRecOn generalizing s with
  | ind n ih =>
    subst hn
    exact step s fun c hc => ih c.size (size_lt_of_mem_children hc) c rfl

/-! ## Rearranged shapes -/

/-- The same shape, the values in it rearranged. -/
inductive Rearranged : Shape → Shape → Prop
  | unknown {t : Traits} (ht : t.Distinct) : Rearranged (.unknown t) (.unknown t)
  | scalar {t : Traits} (ht : t.Distinct) (k : ApiCompiler.Scalar) :
      Rearranged (.scalar t k) (.scalar t k)
  | null {t : Traits} (ht : t.Distinct) : Rearranged (.null t) (.null t)
  | array {t : Traits} (ht : t.Distinct) {s s' : Shape} (items : Rearranged s s') :
      Rearranged (.array t s) (.array t s')
  | object {t : Traits} (ht : t.Distinct) {fs gs : List (Field Shape)} {a b : Option Shape}
      (fields : List.Forall₂ (Field.Rel Rearranged) fs gs)
      (additional : Option.Rel Rearranged a b) : Rearranged (.object t fs a) (.object t gs b)
  | enum {t : Traits} (ht : t.Distinct) (texts : List String) {raw raw' : List Value}
      (values : List.Forall₂ Value.Rearranged raw raw') (base : Kind) :
      Rearranged (.enum t ⟨texts, raw, base⟩) (.enum t ⟨texts, raw', base⟩)
  | ref {t : Traits} (ht : t.Distinct) (name : String) : Rearranged (.ref t name) (.ref t name)
  | composition {t : Traits} (ht : t.Distinct) (how : Composition) {ms ns : List Shape}
      (members : List.Forall₂ Rearranged ms ns) :
      Rearranged (.composition t how ms) (.composition t how ns)
  | negation {t : Traits} (ht : t.Distinct) {s s' : Shape} (inner : Rearranged s s') :
      Rearranged (.negation t s) (.negation t s')

variable {s s' u u' : Shape}

theorem Rearranged.traits_eq (h : s.Rearranged s') : s.traits = s'.traits := by
  cases h <;> rfl

theorem likeAll_iff {as bs : List Shape} :
    likeAll as bs = true ↔ List.Forall₂ (fun a b => a.like b = true) as bs := by
  induction as generalizing bs with
  | nil => cases bs <;> simp [likeAll]
  | cons a as ih => cases bs <;> simp [likeAll, ih]

/-- What is compared when two fields are. -/
def fieldsAlike (f g : Field Shape) : Prop :=
  f.name = g.name ∧ f.type.like g.type = true ∧ f.required = g.required ∧
    f.annotations.like g.annotations = true

theorem likeFields_iff {fs gs : List (Field Shape)} :
    likeFields fs gs = true ↔ List.Forall₂ fieldsAlike fs gs := by
  induction fs generalizing gs with
  | nil => cases gs <;> simp [likeFields]
  | cons f fs ih =>
    obtain ⟨m, a, r, d⟩ := f
    cases gs with
    | nil => simp [likeFields]
    | cons g gs =>
      obtain ⟨n, b, q, e⟩ := g
      simp [likeFields, fieldsAlike, ih, and_assoc]

theorem likeOption_iff {a b : Option Shape} :
    likeOption a b = true ↔ Option.Rel (fun s t => s.like t = true) a b := by
  cases a <;> cases b <;> simp [likeOption]

/-- A shape is like itself, in whatever order the keys of its values are. -/
theorem Rearranged.like (h : s.Rearranged s') : s.like s' = true := by
  induction s using rec_children generalizing s' with
  | step s ih =>
    cases h with
    | unknown ht => simp [Shape.like, ht.like]
    | scalar ht k => simp [Shape.like, ht.like]
    | null ht => simp [Shape.like, ht.like]
    | array ht items =>
      rw [Shape.like, Bool.and_eq_true]
      exact ⟨ht.like, ih _ List.mem_cons_self items⟩
    | @object t ht fs gs a b fields additional =>
      rw [Shape.like, Bool.and_eq_true, Bool.and_eq_true, likeFields_iff, likeOption_iff]
      refine ⟨⟨ht.like, forall₂_imp_of_mem fields fun f hf g hfg => ?_⟩, ?_⟩
      · have hmem : f.type ∈ (Shape.object t fs a).children :=
          List.mem_append_left _ (List.mem_map_of_mem hf)
        cases hfg with
        | mk name type required annotations =>
          exact ⟨rfl, ih _ hmem type, rfl, annotations.like⟩
      · cases additional with
        | none => exact .none
        | some hab => exact .some (ih _ (List.mem_append_right _ List.mem_cons_self) hab)
    | enum ht texts values base =>
      have hraw := Value.likeItems_iff.mpr (values.imp fun _ _ h => h.like)
      simp [Shape.like, ht.like, Literals.like, hraw]
    | ref ht name => simp [Shape.like, ht.like]
    | composition ht how members =>
      rw [Shape.like, Bool.and_eq_true, Bool.and_eq_true, likeAll_iff]
      exact ⟨⟨ht.like, decide_eq_true rfl⟩, forall₂_imp_of_mem members fun m hm _ => ih m hm⟩
    | negation ht inner =>
      rw [Shape.like, Bool.and_eq_true]
      exact ⟨ht.like, ih _ List.mem_cons_self inner⟩

theorem Rearranged.kind_eq (h : s.Rearranged s') : s.kind = s'.kind := by
  cases h <;> rfl

/-- Shapes of different kinds are not like. -/
theorem like_of_kind_ne (h : s.kind ≠ u.kind) : s.like u = false := by
  unfold Shape.like
  split <;> simp_all [kind]

/-- Whether a shape is like another one does not depend on the order of the keys in either. -/
def LikeSettled (s : Shape) : Prop :=
  ∀ s' u u', s.Rearranged s' → u.Rearranged u' → s.like u = s'.like u'

theorem likeAll_eq {as as' bs bs' : List Shape} (hsettled : ∀ a ∈ as, a.LikeSettled)
    (has : List.Forall₂ Rearranged as as') (hbs : List.Forall₂ Rearranged bs bs') :
    likeAll as bs = likeAll as' bs' := by
  rw [Bool.eq_iff_iff, likeAll_iff, likeAll_iff]
  refine forall₂_iff_of_rel has hbs fun a ha a' b b' haa' hbb' => ?_
  rw [hsettled a ha a' b b' haa' hbb']

theorem likeFields_eq {fs fs' gs gs' : List (Field Shape)}
    (hsettled : ∀ f ∈ fs, f.type.LikeSettled) (hfs : List.Forall₂ (Field.Rel Rearranged) fs fs')
    (hgs : List.Forall₂ (Field.Rel Rearranged) gs gs') :
    likeFields fs gs = likeFields fs' gs' := by
  rw [Bool.eq_iff_iff, likeFields_iff, likeFields_iff]
  refine forall₂_iff_of_rel hfs hgs fun f hf f' g g' hff' hgg' => ?_
  have htype := hsettled f hf
  cases hff' with
  | mk name type required annotations =>
    cases hgg' with
    | mk name' type' required' annotations' =>
      rw [fieldsAlike, fieldsAlike, htype _ _ _ type type', annotations.like_eq annotations']

theorem likeOption_eq {a a' b b' : Option Shape} (hsettled : ∀ s ∈ a, s.LikeSettled)
    (ha : Option.Rel Rearranged a a') (hb : Option.Rel Rearranged b b') :
    likeOption a b = likeOption a' b' := by
  cases ha with
  | none => cases hb <;> simp [likeOption]
  | some hs =>
    cases hb with
    | none => simp [likeOption]
    | some hu =>
      rw [likeOption, likeOption]
      exact hsettled _ rfl _ _ _ hs hu

theorem likeRaw_eq {vs vs' ws ws' : List Value} (hvs : List.Forall₂ Value.Rearranged vs vs')
    (hws : List.Forall₂ Value.Rearranged ws ws') :
    Value.likeItems vs ws = Value.likeItems vs' ws' := by
  rw [Bool.eq_iff_iff, Value.likeItems_iff, Value.likeItems_iff]
  exact forall₂_iff_of_rel hvs hws fun v _ v' w w' hv hw => by rw [hv.like_eq hw]

theorem likeSettled (s : Shape) : s.LikeSettled := by
  induction s using rec_children with
  | step s ih =>
    intro s' u u' hs hu
    by_cases hkind : s.kind = u.kind
    swap
    · rw [like_of_kind_ne hkind, like_of_kind_ne (by rwa [← hs.kind_eq, ← hu.kind_eq])]
    cases hs with
    | unknown =>
      cases hu with
      | unknown => rfl
      | _ => cases hkind
    | scalar =>
      cases hu with
      | scalar => rfl
      | _ => cases hkind
    | null =>
      cases hu with
      | null => rfl
      | _ => cases hkind
    | ref =>
      cases hu with
      | ref => rfl
      | _ => cases hkind
    | array ht items =>
      cases hu with
      | array hu items' =>
        rw [Shape.like, Shape.like, ih _ List.mem_cons_self _ _ _ items items']
      | _ => cases hkind
    | @object t ht fs gs a b fields additional =>
      have hfields : ∀ f ∈ fs, f.type.LikeSettled := fun f hf =>
        ih _ (List.mem_append_left _ (List.mem_map_of_mem hf))
      have hadditional : ∀ s ∈ a, s.LikeSettled := fun s hs =>
        ih _ (List.mem_append_right _ (Option.mem_toList.mpr hs))
      cases hu with
      | object hu fields' additional' =>
        rw [Shape.like, Shape.like, likeFields_eq hfields fields fields',
          likeOption_eq hadditional additional additional']
      | _ => cases hkind
    | enum ht texts values base =>
      cases hu with
      | enum hu texts' values' base' =>
        rw [Shape.like, Shape.like, Literals.like, Literals.like, likeRaw_eq values values']
      | _ => cases hkind
    | @composition t ht how ms ns members =>
      have hmembers : ∀ m ∈ ms, m.LikeSettled := ih
      cases hu with
      | composition hu how' members' =>
        rw [Shape.like, Shape.like, likeAll_eq hmembers members members']
      | _ => cases hkind
    | negation ht inner =>
      cases hu with
      | negation hu inner' =>
        rw [Shape.like, Shape.like, ih _ List.mem_cons_self _ _ _ inner inner']
      | _ => cases hkind

/-- Whether two shapes are like does not depend on the order of the keys in their values. -/
theorem Rearranged.like_eq (hs : s.Rearranged s') (hu : u.Rearranged u') :
    s.like u = s'.like u' :=
  likeSettled s s' u u' hs hu

end Shape
end ApiCompiler
