import ApiCompiler.Proofs.Target.Expressible

/-!
# Precedence in the spelling of types

In TypeScript `&` binds tighter than `|`, so a member of an intersection that reads as a union
(`TypeExpr.readsAsUnion`) needs parentheses around it.  `Target.render` puts them around the
compound items of sequences and nowhere else: the members of an intersection are joined as they
are.  So the members of an intersection are grouped as they should be exactly if none of them reads
as a union (`groupsMembers_iff`), and a composition of all of some shapes, the first one of them a
choice, is spelled as the choice whose last member is a composition of all
(`typeText_reassociates`).

Where a literal has a value that cannot be written there are no texts to speak of.  The members of
an intersection have texts exactly if there is no such value in them (`exists_renderAll_iff`), and
the spellings of the two compositions are compared as results, so that they break down together.
-/

namespace ApiCompiler

/-- Whether the spelling of a type has `|` on its outside: a union or a literal with two members or
more, or a type that admits null.  Approximations, and unions and intersections of a single member,
are spelled as what is inside. -/
def TypeExpr.readsAsUnion : TypeExpr → Bool
  | .optional _ => true
  | .approximated e _ => e.readsAsUnion
  | .union [e] => e.readsAsUnion
  | .intersection [e] => e.readsAsUnion
  | .union es => 2 ≤ es.length
  | .literal values => 2 ≤ values.length
  | _ => false

namespace Target

variable {t : Target} {known : Option (List String)}

/-- The text of a member of an intersection, with parentheses if the member reads as a union. -/
def grouped (e : TypeExpr) (text : String) : String :=
  if e.readsAsUnion then "(" ++ text ++ ")" else text

/-- The spelling of an intersection keeps every member together. -/
def GroupsMembers (t : Target) (es : List TypeExpr) : Prop :=
  ∃ separator texts, t.intersectionSeparator = some separator ∧ t.renderAll es = .ok texts ∧
    t.render (.intersection es) = .ok (separator.intercalate (List.zipWith grouped es texts))

/-! ## Joined texts -/

/-- The length of joined texts is that of the texts and of what stands between them. -/
theorem length_intercalate (separator : String) (texts : List String) :
    (separator.intercalate texts).length =
      (texts.map String.length).sum + separator.length * (texts.length - 1) := by
  induction texts with
  | nil => simp
  | cons text texts ih =>
    cases texts with
    | nil => simp
    | cons next texts =>
      rw [String.intercalate_cons_cons, String.length_append, String.length_append, ih]
      simp only [List.map_cons, List.sum_cons, List.length_cons, Nat.add_sub_cancel, Nat.mul_add]
      omega

/-- A text at the end of joined texts may be put at the end of the last of them. -/
theorem intercalate_append_last (separator : String) (texts : List String) (last rest : String) :
    separator.intercalate (texts ++ [last ++ rest]) =
      separator.intercalate (texts ++ [last]) ++ rest := by
  cases texts with
  | nil => simp
  | cons text texts =>
    rw [String.intercalate_append_of_ne_nil (by simp) (by simp),
      String.intercalate_append_of_ne_nil (by simp) (by simp)]
    simp [String.append_assoc]

/-- A text at the front of the first of joined texts may be put before all of them. -/
theorem intercalate_cons (separator first : String) (texts : List String) :
    separator.intercalate (first :: texts) = first ++ separator.intercalate ("" :: texts) := by
  cases texts with
  | nil => simp
  | cons text texts => simp [String.intercalate_cons_cons, String.append_assoc]

/-- Grouping makes texts longer, by two for each of them that reads as a union. -/
theorem length_grouped (e : TypeExpr) (text : String) :
    (grouped e text).length = text.length + if e.readsAsUnion then 2 else 0 := by
  unfold grouped
  split
  · simp only [String.length_append]
    have hopen : "(".length = 1 := rfl
    have hclose : ")".length = 1 := rfl
    omega
  · rfl

/-- Grouping makes joined texts longer by two for each member that reads as a union. -/
theorem sum_length_grouped {es : List TypeExpr} {texts : List String}
    (h : es.length = texts.length) :
    ((List.zipWith grouped es texts).map String.length).sum =
      (texts.map String.length).sum + 2 * es.countP TypeExpr.readsAsUnion := by
  induction es generalizing texts with
  | nil =>
    rw [List.length_nil] at h
    rw [List.eq_nil_of_length_eq_zero h.symm]
    rfl
  | cons e es ih =>
    cases texts with
    | nil => cases h
    | cons text texts =>
      have hrest := ih (Nat.succ.inj h)
      have hfirst := length_grouped e text
      rw [List.zipWith_cons_cons, List.map_cons, List.sum_cons, hrest, hfirst, List.map_cons,
        List.sum_cons, List.countP_cons]
      split <;> omega

/-- Grouping leaves joined texts alone exactly if no member reads as a union. -/
theorem intercalate_grouped_iff (separator : String) {es : List TypeExpr} {texts : List String}
    (h : es.length = texts.length) :
    separator.intercalate texts = separator.intercalate (List.zipWith grouped es texts) ↔
      ∀ e ∈ es, e.readsAsUnion = false := by
  constructor
  · intro heq
    have hlengths := congrArg String.length heq
    have hcount : (List.zipWith grouped es texts).length = texts.length := by
      rw [List.length_zipWith, h, Nat.min_self]
    rw [length_intercalate, length_intercalate, sum_length_grouped h, hcount] at hlengths
    have hnone : es.countP TypeExpr.readsAsUnion = 0 := by omega
    intro e he
    exact Bool.eq_false_iff.mpr (List.countP_eq_zero.mp hnone e he)
  · intro hnone
    congr 1
    induction es generalizing texts with
    | nil =>
      rw [List.length_nil] at h
      rw [List.eq_nil_of_length_eq_zero h.symm]
      rfl
    | cons e es ih =>
      cases texts with
      | nil => cases h
      | cons text texts =>
        have hfirst : grouped e text = text := by
          rw [grouped, hnone e List.mem_cons_self, if_neg Bool.false_ne_true]
        have hrest := ih (Nat.succ.inj h) fun e he => hnone e (List.mem_cons_of_mem _ he)
        rw [List.zipWith_cons_cons, hfirst, ← hrest]

/-! ## Intersections and sequences -/

/-- The members of an intersection in the type of a shape are spelled exactly if the values of the
literals in them can be written. -/
theorem exists_renderAll_iff {s : Shape} {es : List TypeExpr}
    (h : (TypeExpr.intersection es).Within (t.project known s)) :
    (∃ texts, t.renderAll es = .ok texts) ↔ ∀ e ∈ es, e.Writable := by
  simp only [renderAll_eq_mapM, mapM_eq_ok_iff, exists_forall₂_iff]
  refine forall₂_congr fun e he => ?_
  have hwithin : e.Within (t.project known s) :=
    TypeExpr.Within.trans (.child (e := .intersection es) he (.refl e)) h
  exact exists_render_iff hwithin

/-- The members of an intersection that are spelled are grouped exactly if none of them reads as a
union, since they are joined as they are. -/
theorem groupsMembers_iff {separator : String}
    (hseparator : t.intersectionSeparator = some separator) {es : List TypeExpr}
    {texts : List String} (h : t.renderAll es = .ok texts) :
    t.GroupsMembers es ↔ ∀ e ∈ es, e.readsAsUnion = false := by
  have hlength : es.length = texts.length := by
    rw [renderAll_eq_mapM, mapM_eq_ok_iff] at h
    exact h.length_eq
  have hjoined : t.render (.intersection es) = .ok (separator.intercalate texts) := by
    rw [render_intersection hseparator, h]
    rfl
  rw [← intercalate_grouped_iff separator hlength]
  constructor
  · rintro ⟨separator', texts', hseparator', hrender, htext⟩
    obtain rfl := Option.some.inj (hseparator.symm.trans hseparator')
    obtain rfl := Except.ok.inj (h.symm.trans hrender)
    exact Except.ok.inj (hjoined.symm.trans htext)
  · intro heq
    exact ⟨separator, texts, hseparator, h, by rw [hjoined, heq]⟩

/-! ## Compositions of compositions -/

/-- The types of shapes are spelled one by one. -/
theorem renderAll_project (ms : List Shape) :
    t.renderAll (ms.map (t.project known)) = ms.mapM (t.typeText known) := by
  rw [renderAll_eq_mapM, List.mapM_map]
  rfl

/-- The choices of a plain `oneOf` are joined. -/
theorem typeText_oneOf (hunion : t.union = some .bare) (ms : List Shape) :
    t.typeText known (.composition .none .oneOf ms) = (do
      let texts ← ms.mapM (t.typeText known)
      pure (t.unionSeparator.intercalate texts)) := by
  have hproject : t.project known (.composition .none .oneOf ms) =
      .union (ms.map (t.project known)) := by
    rw [project_eq]
    simp [projectBase, projectComposition, hasUnions, hunion, orNullIf, Shape.traits, Traits.none]
  rw [typeText, hproject, render, renderAll_project, hunion]
  simp [Template.fill, Template.bare]

/-- The parts of a plain `allOf` are joined. -/
theorem typeText_allOf {separator : String} (hseparator : t.intersectionSeparator = some separator)
    (ms : List Shape) :
    t.typeText known (.composition .none .allOf ms) = (do
      let texts ← ms.mapM (t.typeText known)
      pure (separator.intercalate texts)) := by
  have hproject : t.project known (.composition .none .allOf ms) =
      .intersection (ms.map (t.project known)) := by
    rw [project_eq]
    simp [projectBase, projectComposition, hasIntersections, hseparator, orNullIf, Shape.traits,
      Traits.none]
  rw [typeText, hproject, render_intersection hseparator, renderAll_project]

/-- All of a choice and further shapes is spelled as the choice whose last member is all of that
member and the further shapes; if one of the shapes cannot be spelled, both break down at it. -/
theorem typeText_reassociates (hunion : t.union = some .bare) {separator : String}
    (hseparator : t.intersectionSeparator = some separator) (choices : List Shape) (last : Shape)
    (further : List Shape) :
    t.typeText known
        (.composition .none .allOf (.composition .none .oneOf (choices ++ [last]) :: further)) =
      t.typeText known
        (.composition .none .oneOf (choices ++ [.composition .none .allOf (last :: further)])) := by
  have hjoin : ∀ (texts : List String) (text : String) (rest : List String),
      separator.intercalate (t.unionSeparator.intercalate (texts ++ [text]) :: rest) =
        t.unionSeparator.intercalate (texts ++ [separator.intercalate (text :: rest)]) := by
    intro texts text rest
    rw [intercalate_cons separator text, intercalate_append_last, ← intercalate_cons]
  simp only [typeText_allOf hseparator, typeText_oneOf hunion, List.mapM_cons, List.mapM_append,
    List.mapM_nil, bind_assoc, pure_bind, hjoin]

/-- How TypeScript spells intersections and sequences.  The members of an intersection are joined
as they are, so members that are spelled are grouped only where none of them reads as a union, while
compound items of sequences do stand in parentheses.  Both are spelled exactly if the values of
their literals can be written.  So all of a choice and further shapes, and the choice whose last
member is all of that member and the further shapes, are spelled alike. -/
theorem typescript_precedence (ht : t = typescript ∨ t = typescriptTypes)
    (known : Option (List String)) (s : Shape) :
    (∀ es, (TypeExpr.intersection es).Within (t.project known s) →
      t.render (.intersection es) = (t.renderAll es).map " & ".intercalate ∧
        ((∃ texts, t.renderAll es = .ok texts) ↔ ∀ e ∈ es, e.Writable) ∧
        ((∀ e ∈ es, e.Writable) → (t.GroupsMembers es ↔ ∀ e ∈ es, e.readsAsUnion = false))) ∧
    (∀ e, (TypeExpr.sequence e).Within (t.project known s) →
      t.render (.sequence e) = (t.render e).map
          (fun item => "Array<" ++ (if e.isCompound then s!"({item})" else item) ++ ">") ∧
        ((∃ item, t.render e = .ok item) ↔ e.Writable)) ∧
    ∀ choices last further,
      t.typeText known (.composition .none .allOf
          (.composition .none .oneOf (choices ++ [last]) :: further)) =
        t.typeText known (.composition .none .oneOf
          (choices ++ [.composition .none .allOf (last :: further)])) := by
  have hseparator : t.intersectionSeparator = some " & " := by
    rcases ht with rfl | rfl <;> rfl
  have hunion : t.union = some .bare := by
    rcases ht with rfl | rfl <;> rfl
  have hsequence : t.sequence = ⟨"Array<", ">"⟩ ∧ t.groupsItems = true := by
    rcases ht with rfl | rfl <;> exact ⟨rfl, rfl⟩
  refine ⟨fun es h => ⟨?_, exists_renderAll_iff h, fun hwritable => ?_⟩, fun e h => ⟨?_, ?_⟩,
    typeText_reassociates hunion hseparator⟩
  · rw [render_intersection hseparator]
    cases t.renderAll es <;> rfl
  · obtain ⟨texts, htexts⟩ := (exists_renderAll_iff h).mpr hwritable
    exact groupsMembers_iff hseparator htexts
  · rw [render, hsequence.1, hsequence.2]
    simp only [Bool.and_true]
    cases t.render e <;> rfl
  · exact exists_render_iff
      (TypeExpr.Within.trans (.child (e := .sequence e) (List.mem_singleton_self e) (.refl e)) h)

namespace Pets

/-- All of a choice between two models and a third one. -/
def grown : Shape :=
  .composition .none .allOf
    [.composition .none .oneOf [.ref .none "Cat", .ref .none "Dog"], .ref .none "Adult"]

/-- A choice between a model, and all of two others. -/
def grownDog : Shape :=
  .composition .none .oneOf
    [.ref .none "Cat", .composition .none .allOf [.ref .none "Dog", .ref .none "Adult"]]

/-- The choice inside the intersection is not kept together, and its spelling is that of the other
shape. -/
theorem grown_ungrouped :
    typescript.project none grown =
        .intersection [.union [.named "Cat", .named "Dog"], .named "Adult"] ∧
      (TypeExpr.union [.named "Cat", .named "Dog"]).readsAsUnion = true ∧
      ¬ typescript.GroupsMembers [.union [.named "Cat", .named "Dog"], .named "Adult"] ∧
      typescript.typeText none grown = .ok "Schema.Cat | Schema.Dog & Schema.Adult" ∧
      typescript.typeText none grownDog = .ok "Schema.Cat | Schema.Dog & Schema.Adult" := by
  have hproject : typescript.project none grown =
      .intersection [.union [.named "Cat", .named "Dog"], .named "Adult"] := rfl
  have htexts : typescript.renderAll [.union [.named "Cat", .named "Dog"], .named "Adult"] =
      .ok ["Schema.Cat | Schema.Dog", "Schema.Adult"] := by
    cbv
  refine ⟨hproject, rfl, ?_, by cbv, by cbv⟩
  intro hgroups
  have hread := (groupsMembers_iff (t := typescript) rfl htexts).mp hgroups _ List.mem_cons_self
  cases hread

/-- The intersection of the first shape has texts for its members, and they are not grouped. -/
theorem grown_spelled :
    (typescriptTypes = typescript ∨ typescriptTypes = typescriptTypes) ∧
      (TypeExpr.intersection [.union [.named "Cat", .named "Dog"], .named "Adult"]).Within
        (typescriptTypes.project none grown) ∧
      (∀ e ∈ [TypeExpr.union [.named "Cat", .named "Dog"], .named "Adult"], e.Writable) ∧
      ¬ typescriptTypes.GroupsMembers [.union [.named "Cat", .named "Dog"], .named "Adult"] := by
  have hwithin : (TypeExpr.intersection [.union [.named "Cat", .named "Dog"], .named "Adult"]).Within
      (typescriptTypes.project none grown) := .refl _
  have htexts : typescriptTypes.renderAll [.union [.named "Cat", .named "Dog"], .named "Adult"] =
      .ok ["Cat | Dog", "Adult"] := by
    cbv
  obtain ⟨-, hiff, hgroups⟩ := (typescript_precedence (Or.inr rfl) none grown).1 _ hwithin
  have hwritable := hiff.mp ⟨_, htexts⟩
  refine ⟨Or.inr rfl, hwithin, hwritable, fun h => ?_⟩
  have hread := (hgroups hwritable).mp h _ List.mem_cons_self
  cases hread

end Pets
end Target
end ApiCompiler
