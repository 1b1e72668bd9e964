import ApiCompiler.Proofs.Hoisting.Soundness
import Mathlib

/-!
# The fields of an object

The members of an object are the schemas that are compiled for it: the declarations that count, and
the schema for further properties if it is not taken over.  A declaration that is shadowed is not
among them, so nothing is ever registered for it.

`object_fields` is about every object and every name under which it is built.  Building it fails
where compiling one of its members fails; otherwise its fields are the declarations that count, in
the order of their names.

The members are compiled one after the other, own fields first, and only then is the list of
fields sorted.  So the proof keeps the members in the order in which they are compiled, each with
the shape it is compiled to, and says of the sorted fields where among these pairs they come from.
-/

namespace ApiCompiler

/-- A field with another type. -/
def Field.withType {σ τ : Type} (f : Field σ) (t : τ) : Field τ :=
  ⟨f.name, t, f.required, f.annotations⟩

namespace Schema

/-! ## What an object comes to -/

/-- The schema is a member of an object, under the name of a property: it declares the property,
or it stands for further properties and is not taken over. -/
inductive Keywords.HasMember (k : Keywords) (c : Children Schema) : String → Schema → Prop
  | field {n : String} {s : Schema} {required : Bool} (h : k.Declares c n s required) :
      HasMember k c n s
  | further {s : Schema} (h : c.additional = .schema s)
      (kept : ∀ k' ps, ¬ c.additional.TakesOver k' ps) : HasMember k c "Properties" s

/-- The schema for further properties as a member, if there is one and it is not taken over. -/
def Children.furtherMember (c : Children Schema) : List (String × Schema) :=
  match c.remaining with
  | some (some s) => [("Properties", s)]
  | _ => []

/-- The members of an object, in the order in which they are compiled. -/
def Keywords.members (k : Keywords) (c : Children Schema) : List (String × Schema) :=
  (k.declaredFields c).map (fun f => (f.name, f.type)) ++ c.furtherMember

/-- Compiles a member of an object whose name is known. -/
def compileMember (owner : String) (member : String × Schema) : Build Shape :=
  compile member.2 owner member.1 false

/-- What an object comes to, given its members and the shapes they are compiled to. -/
structure Keywords.Merges (k : Keywords) (c : Children Schema)
    (compiled : List ((String × Schema) × Shape)) (fields : List (Field Shape))
    (extra : Option Shape) : Prop where
  /-- The fields are in the order of their names, and no two of them have the same. -/
  increasing : (fields.map (·.name)).Pairwise (· < ·)
  /-- Their names are those of own properties and of properties that are taken over. -/
  names : ∀ n, n ∈ fields.map (·.name) ↔ n ∈ (c.properties.getD []).map (·.1) ∨
    ∃ k' ps, c.additional.TakesOver k' ps ∧ n ∈ ps.map (·.1)
  /-- All that a field says comes from the declaration that counts for its name. -/
  declared : ∀ f ∈ fields, ∃ s, k.Declares c f.name s f.required ∧
    f.annotations = s.annotations ∧ ((f.name, s), f.type) ∈ compiled
  /-- Nothing stands for further properties where they are not allowed or taken over. -/
  closed : extra = none ↔ c.additional = .absent ∨ c.additional = .flag false ∨
    ∃ k' ps, c.additional.TakesOver k' ps
  /-- Otherwise it is anything, or what the schema for them is compiled to. -/
  further : ∀ a ∈ extra, c.additional = .flag true ∧ a = .anything ∨
    ∃ s, c.additional = .schema s ∧ (("Properties", s), a) ∈ compiled

/-! ## Members -/

variable {k k' : Keywords} {c : Children Schema} {ps : List (String × Schema)} {owner : String}

theorem mem_furtherMember_iff {n : String} {s : Schema} :
    (n, s) ∈ c.furtherMember ↔ n = "Properties" ∧ c.remaining = some (some s) := by
  unfold Children.furtherMember
  rcases c.remaining with _ | _ | s'
  · simp
  · simp
  · simp [eq_comm (a := s)]

/-- The members are the declarations that count and the schema for further properties. -/
theorem mem_members_iff {n : String} {s : Schema} :
    (n, s) ∈ k.members c ↔ k.HasMember c n s := by
  rw [Keywords.members, List.mem_append, mem_furtherMember_iff, remaining_eq_some_some_iff]
  constructor
  · rintro (h | ⟨rfl, hschema, hkept⟩)
    · obtain ⟨f, hf, heq⟩ := List.mem_map.mp h
      obtain ⟨rfl, rfl⟩ := Prod.mk.inj heq
      exact .field (mem_declaredFields_iff.mp hf).1
    · exact .further hschema hkept
  · intro h
    cases h with
    | @field _ _ required h =>
      have hf : (⟨n, s, required, s.annotations⟩ : Field Schema) ∈ k.declaredFields c :=
        mem_declaredFields_iff.mpr ⟨h, rfl⟩
      exact Or.inl (List.mem_map_of_mem (f := fun f : Field Schema => (f.name, f.type)) hf)
    | further h kept => exact Or.inr ⟨rfl, h, kept⟩

/-- Compiling fields is compiling their types. -/
theorem forEach_compileField (owner : String) (fs : List (Field Schema)) :
    Build.forEach (compileField owner) fs = (do
      let shapes ← Build.forEach (compileMember owner) (fs.map fun f => (f.name, f.type))
      pure ((fs.zip shapes).map fun e => e.1.withType e.2)) := by
  induction fs with
  | nil => rfl
  | cons f fs ih =>
    rw [Build.forEach, ih, List.map_cons, Build.forEach]
    simp only [compileField, compileMember, bind_assoc, pure_bind]
    rfl

/-- What stands for further properties, given the shapes of the schemas for them. -/
def Children.extra (c : Children Schema) (shapes : List Shape) : Option Shape :=
  match c.remaining with
  | none => none
  | some none => some .anything
  | some (some _) => shapes.head?

theorem compileRemaining_eq (owner : String) (c : Children Schema) :
    compileRemaining owner c.remaining = (do
      let shapes ← Build.forEach (compileMember owner) c.furtherMember
      pure (c.extra shapes)) := by
  unfold Children.extra Children.furtherMember
  rcases c.remaining with _ | _ | s
  · rfl
  · rfl
  · simp only [Build.forEach, bind_assoc, pure_bind]
    rfl

/-- Compiling an object is compiling its members. -/
theorem compileMembers_eq (k : Keywords) (c : Children Schema) (owner : String) :
    compileMembers k c owner = (do
      let types ← Build.forEach (compileMember owner)
        ((k.declaredFields c).map fun f => (f.name, f.type))
      let shapes ← Build.forEach (compileMember owner) c.furtherMember
      pure (.object k.traits
        (sortFields (((k.declaredFields c).zip types).map fun e => e.1.withType e.2))
        (c.extra shapes))) := by
  rw [compileMembers, forEach_compileField, compileRemaining_eq]
  simp only [bind_assoc, pure_bind]

/-! ## Objects -/

theorem zip_members {types : List Shape} (shapes : List Shape)
    (h : (k.declaredFields c).length = types.length) :
    (k.members c).zip (types ++ shapes) =
      ((k.declaredFields c).zip types).map (fun e => ((e.1.name, e.1.type), e.2)) ++
        c.furtherMember.zip shapes := by
  rw [Keywords.members, List.zip_append (by rw [List.length_map, h]), List.zip_map_left]
  rfl

/-- Fields that are given types, one for each of them, keep their names. -/
theorem names_withType {fs : List (Field Schema)} {types : List Shape}
    (h : fs.length = types.length) :
    ((fs.zip types).map fun e => e.1.withType e.2).map (·.name) = fs.map (·.name) := by
  rw [List.map_map]
  have hfst : (fs.zip types).map Prod.fst = fs := List.map_fst_zip (Nat.le_of_eq h)
  conv_rhs => rw [← hfst, List.map_map]
  rfl

/-- What stands for further properties is nothing, anything, or the shape of the one schema for
them. -/
theorem extra_cases {shapes : List Shape} (h : c.furtherMember.length = shapes.length) :
    (c.additional = .absent ∨ c.additional = .flag false ∨
        ∃ k' ps, c.additional.TakesOver k' ps) ∧ c.extra shapes = none ∨
      c.additional = .flag true ∧ c.extra shapes = some .anything ∨
      ∃ s a, c.additional = .schema s ∧ (∀ k' ps, ¬ c.additional.TakesOver k' ps) ∧
        c.extra shapes = some a ∧ (("Properties", s), a) ∈ c.furtherMember.zip shapes := by
  unfold Children.extra Children.furtherMember Children.remaining at *
  rcases further_cases c.additional with ⟨k', ps, hover, hfurther⟩ | ⟨hclosed, hfurther⟩ |
    ⟨hopen, hfurther⟩ | ⟨s, hschema, hkept, hfurther⟩
  · rw [hfurther]
    exact Or.inl ⟨Or.inr (Or.inr ⟨k', ps, hover⟩), rfl⟩
  · rw [hfurther]
    exact Or.inl ⟨hclosed.imp_right Or.inl, rfl⟩
  · rw [hfurther]
    exact Or.inr (Or.inl ⟨hopen, rfl⟩)
  · rw [hfurther] at h ⊢
    obtain ⟨a, rfl⟩ := List.length_eq_one_iff.mp h.symm
    exact Or.inr (Or.inr ⟨s, a, hschema, hkept, rfl, List.mem_singleton_self _⟩)

/-- Nothing is taken over from what is not a schema. -/
theorem not_takesOver_flag {b : Bool} : ¬ (Additional.flag b).TakesOver k' ps := by
  rintro ⟨c, h, -⟩
  cases h

/-- Nothing stands for further properties exactly if there is no schema or leave for them, or what
they would be is taken over. -/
theorem extra_eq_none_iff {shapes : List Shape} (h : c.furtherMember.length = shapes.length) :
    c.extra shapes = none ↔ c.additional = .absent ∨ c.additional = .flag false ∨
      ∃ k' ps, c.additional.TakesOver k' ps := by
  rcases extra_cases h with ⟨hclosed, hextra⟩ | ⟨hopen, hextra⟩ | ⟨s, a, hschema, hkept, hextra, -⟩
  · exact iff_of_true hextra hclosed
  · refine iff_of_false (by rw [hextra]; exact Option.some_ne_none _) ?_
    rw [hopen]
    rintro (h | h | ⟨k', ps, h⟩)
    · cases h
    · cases h
    · exact not_takesOver_flag h
  · refine iff_of_false (by rw [hextra]; exact Option.some_ne_none _) ?_
    rintro (h | h | ⟨k', ps, h⟩)
    · rw [h] at hschema
      cases hschema
    · rw [h] at hschema
      cases hschema
    · exact hkept k' ps h

/-- The compiled members, put together as fields and further properties, are what the object
comes to. -/
theorem merges (hown : ((c.properties.getD []).map (·.1)).Nodup)
    (htaken : ∀ k' ps, c.additional.TakesOver k' ps → (ps.map (·.1)).Nodup)
    {types shapes : List Shape} (htypes : (k.declaredFields c).length = types.length)
    (hshapes : c.furtherMember.length = shapes.length) :
    k.Merges c ((k.members c).zip (types ++ shapes))
      (sortFields (((k.declaredFields c).zip types).map fun e => e.1.withType e.2))
      (c.extra shapes) := by
  have hnames := names_withType htypes
  have hsorted : (sortFields (((k.declaredFields c).zip types).map fun e => e.1.withType e.2)).Perm
      (((k.declaredFields c).zip types).map fun e => e.1.withType e.2) :=
    List.mergeSort_perm _ _
  rw [zip_members shapes htypes]
  constructor
  case increasing =>
    refine Sorting.pairwise_lt_mergeSort (fun f : Field Shape => f.name) ?_
    rw [hnames]
    exact nodup_names_declaredFields hown htaken
  case names =>
    intro n
    rw [(hsorted.map _).mem_iff, hnames]
    exact mem_names_declaredFields
  case declared =>
    intro g hg
    obtain ⟨⟨f, a⟩, hfa, rfl⟩ := List.mem_map.mp (hsorted.mem_iff.mp hg)
    obtain ⟨hdeclares, hnotes⟩ := mem_declaredFields_iff.mp (List.of_mem_zip hfa).1
    exact ⟨f.type, hdeclares, hnotes, List.mem_append_left _ (List.mem_map_of_mem hfa)⟩
  case closed => exact extra_eq_none_iff hshapes
  case further =>
    intro a ha
    rcases extra_cases hshapes with ⟨-, hextra⟩ | ⟨hopen, hextra⟩ | ⟨s, b, hschema, -, hextra, hb⟩
    · rw [hextra] at ha
      cases ha
    · rw [hextra] at ha
      cases ha
      exact Or.inl ⟨hopen, rfl⟩
    · rw [hextra] at ha
      cases ha
      exact Or.inr ⟨s, hschema, List.mem_append_right _ hb⟩

/-- Members only add models that are hoisted out of them. -/
theorem members_grow {before after : BuildState} {shapes : List Shape}
    (h : (Build.forEach (compileMember owner) (k.members c)).Returns before shapes after) :
    before.registry.Grows (fun r m => ∃ n s, k.HasMember c n s ∧ Hoists owner s r m)
      after.registry := by
  have hmember : ∀ e ∈ k.members c, ∀ u a v, (compileMember owner e).Returns u a v →
      u.registry.Grows (fun r m => ∃ n s, k.HasMember c n s ∧ Hoists owner s r m)
        v.registry ∧ True := by
    intro e he u a v hrun
    refine ⟨?_, trivial⟩
    exact (sound e.2 hrun).1.imp fun r m hm => ⟨e.1, e.2, mem_members_iff.mp he, hm⟩
  exact (Build.forEach_grows_all (T := fun _ _ => True) (fun _ _ _ _ _ => trivial) hmember h).1

/-- An object in place is put together from its members. -/
theorem compile_object_inPlace (form : k.form c = .object) (owner : String) :
    compile (.inline k c) owner "" false = compileMembers k c owner := by
  have hnotNested : isNested "" false = false := rfl
  rw [compile_inline, form]
  dsimp only
  rw [compileObject, hnotNested, if_neg Bool.false_ne_true, objectFrom_eq,
    syntheticName_of_not_nested hnotNested]

/-- Below another schema, an object is named: what is tried under each candidate is the object in
place. -/
theorem compile_object_nested (form : k.form c = .object) (owner : String) {property : String}
    {isItem : Bool} (h : isNested property isItem = true) :
    compile (.inline k c) owner property isItem = (do
      let name ← Build.registerShape (syntheticName owner property isItem)
        (fun name => compile (.inline k c) name "" false) (Schema.inline k c).annotations
      pure (.ref ⟨k.declaresNull, none, none⟩ name)) := by
  have hbuild : (fun name => compile (.inline k c) name "" false) =
      objectFrom k (pendingFields (c.properties.getD [])) (further c.additional).rest := by
    funext name
    rw [compile_object_inPlace form, objectFrom_eq]
  rw [hbuild, compile_inline, form]
  dsimp only
  rw [compileObject, if_pos h]

/-- **The fields of every object.**  Its members are the declarations that count and the schema for
further properties that is not taken over.  In place, under any name, it is built by compiling
them: it fails where they fail, registers what they register, and where they return it is put
together from what they return.  Below another schema, it is named and built in place. -/
theorem object_fields (form : k.form c = .object)
    (hown : ((c.properties.getD []).map (·.1)).Nodup)
    (htaken : ∀ k' ps, c.additional.TakesOver k' ps → (ps.map (·.1)).Nodup) (owner : String) :
    (∀ n s, (n, s) ∈ k.members c ↔ k.HasMember c n s) ∧
    (∀ before e after, (compile (.inline k c) owner "" false).Fails before e after ↔
      (Build.forEach (compileMember owner) (k.members c)).Fails before e after) ∧
    (∀ before shapes after,
      (Build.forEach (compileMember owner) (k.members c)).Returns before shapes after →
        (∃ fields extra, (compile (.inline k c) owner "" false).Returns before
            (.object k.traits fields extra) after ∧
          k.Merges c ((k.members c).zip shapes) fields extra) ∧
        before.registry.Grows (fun r m => ∃ n s, k.HasMember c n s ∧ Hoists owner s r m)
          after.registry) ∧
    ∀ property isItem, isNested property isItem = true →
      compile (.inline k c) owner property isItem = (do
        let name ← Build.registerShape (syntheticName owner property isItem)
          (fun name => compile (.inline k c) name "" false) (Schema.inline k c).annotations
        pure (.ref ⟨k.declaresNull, none, none⟩ name)) := by
  refine ⟨fun n s => mem_members_iff, fun before e after => ?_, fun before shapes after h => ?_,
    fun property isItem h => compile_object_nested form owner h⟩
  · rw [compile_object_inPlace form, compileMembers_eq, Keywords.members, Build.forEach_append]
    simp only [Build.bind_fails, Build.not_pure_fails, and_false, exists_false, or_false]
  · refine ⟨?_, members_grow h⟩
    rw [Keywords.members, Build.forEach_append, Build.bind_returns] at h
    obtain ⟨types, mid, htypes, h⟩ := h
    rw [Build.bind_returns] at h
    obtain ⟨more, last, hmore, hpure⟩ := h
    obtain ⟨rfl, rfl⟩ := Build.pure_returns.mp hpure
    have hlength := (Build.forEach_returns.mp htypes).length_eq
    rw [List.length_map] at hlength
    refine ⟨_, _, ?_, merges hown htaken hlength (Build.forEach_returns.mp hmore).length_eq⟩
    rw [compile_object_inPlace form, compileMembers_eq, Build.bind_returns]
    exact ⟨types, mid, htypes, Build.bind_returns.mpr ⟨more, _, hmore, rfl⟩⟩

end Schema

/-! ## A declaration that is shadowed -/

namespace Parcels

open Schema

/-- A text. -/
def text : Schema := .inline { Keywords.blank with type := some (.one .string) } .blank

/-- A person, written inline. -/
def person : Schema := .inline .blank { Children.blank with properties := some [("name", text)] }

/-- What every delivery says: who is to get it and who sends it. -/
def delivery : List (String × Schema) := [("receiver", person), ("sender", person)]

/-- The sender of a parcel has to be given, as a text. -/
def keywords : Keywords := { Keywords.blank with required := some ["sender"] }

/-- A parcel says what every delivery says. -/
def children : Children Schema :=
  { Children.blank with
    properties := some [("sender", text)]
    additional := .schema (.inline .blank { Children.blank with properties := some delivery }) }

theorem eq_of_takesOver {k : Keywords} {ps : List (String × Schema)}
    (h : children.additional.TakesOver k ps) : ps = delivery := by
  obtain ⟨c, hschema, hps, -⟩ := h
  cases hschema
  exact (Option.some.inj hps).symm

/-- The registry and the notices once a parcel is compiled. -/
def compiled : BuildState :=
  ⟨⟨false,
      [⟨"Parcel_Receiver", .object .none [⟨"name", .scalar .none .string, false, .none⟩] none,
        .none⟩],
      ["Parcel_Receiver"]⟩,
    []⟩

/-- The shapes of the members of a parcel. -/
def shapes : List Shape := [.scalar .none .string, .ref .none "Parcel_Receiver"]

theorem members_compiled :
    (Build.forEach (compileMember "Parcel") (keywords.members children)).Returns
      (Build.start false) shapes compiled := by
  have hmembers : keywords.members children = [("sender", text), ("receiver", person)] := by cbv
  have hsender : (compileMember "Parcel" ("sender", text)).Returns (Build.start false)
      (.scalar .none .string) (Build.start false) := rfl
  have hreceiver : (compileMember "Parcel" ("receiver", person)).outcome (Build.start false) =
      (.ok (.ref .none "Parcel_Receiver"), compiled) := by
    cbv
  rw [hmembers, Build.forEach_returns]
  exact .cons hsender (.cons hreceiver (.nil _))

/-- What a delivery says is taken over, but the sender stays the text that the parcel declares,
and only the receiver is registered. -/
theorem sender_shadowed :
    keywords.form children = .object ∧ children.additional.TakesOver .blank delivery ∧
      ∃ fields extra, (compile (.inline keywords children) "Parcel" "" false).Returns
          (Build.start false) (.object keywords.traits fields extra) compiled ∧
        keywords.Merges children ((keywords.members children).zip shapes) fields extra := by
  have hform : keywords.form children = .object := rfl
  have hover : children.additional.TakesOver .blank delivery :=
    ⟨_, rfl, rfl, List.cons_ne_nil _ _, Or.inl rfl⟩
  have hkeys : ∀ k ps, children.additional.TakesOver k ps → (ps.map (·.1)).Nodup := by
    intro k ps h
    rw [eq_of_takesOver h]
    decide
  obtain ⟨-, -, hreturns, -⟩ := object_fields hform (by decide) hkeys "Parcel"
  exact ⟨hform, hover, (hreturns _ _ _ members_compiled).1⟩

end Parcels
end ApiCompiler
