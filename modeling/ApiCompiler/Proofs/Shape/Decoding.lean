import ApiCompiler.Api.Decoding
import ApiCompiler.Proofs.Shape.Rearrangement
import ApiCompiler.Proofs.Value.Description

/-!
# Shapes read back from their JSON form

The JSON form of a shape has every field that is read, and each of them is read back as it was written:
the lemmas about single fields say so for whatever object the field stands in.  What a shape holds has
to have a JSON form itself (`Shape.Plain`): its raw values are JSON values, and no discriminator
maps a key twice.

The decoder counts the levels that it enters, and counts some of them twice, so a shape whose depth is
`d` is read back as soon as `2 * d` levels are left (`shapeBelow_shape`).
-/

namespace ApiCompiler

/-! ## Shapes with a JSON form -/

/-- The default and the examples are JSON values. -/
structure Annotations.Plain (a : Annotations) : Prop where
  default : a.default.IsJson
  samples : ∀ v ∈ a.samples, v.IsJson

theorem Annotations.Plain.none : Annotations.none.Plain :=
  ⟨Value.IsJson.null, fun _ hv => absurd hv (List.not_mem_nil)⟩

namespace Shape

/-- All raw values in a shape are JSON values, and no discriminator maps a key twice. -/
inductive Plain : Shape → Prop
  | unknown {t : Traits} (ht : t.Distinct) : Plain (.unknown t)
  | scalar {t : Traits} (ht : t.Distinct) (k : ApiCompiler.Scalar) : Plain (.scalar t k)
  | null {t : Traits} (ht : t.Distinct) : Plain (.null t)
  | array {t : Traits} (ht : t.Distinct) {s : Shape} (items : Plain s) : Plain (.array t s)
  | object {t : Traits} (ht : t.Distinct) {fs : List (Field Shape)} {a : Option Shape}
      (notes : ∀ f ∈ fs, f.annotations.Plain) (types : ∀ f ∈ fs, Plain f.type)
      (extra : ∀ s ∈ a, Plain s) : Plain (.object t fs a)
  | enum {t : Traits} (ht : t.Distinct) {l : Literals} (raw : ∀ v ∈ l.raw, v.IsJson) :
      Plain (.enum t l)
  | ref {t : Traits} (ht : t.Distinct) (name : String) : Plain (.ref t name)
  | composition {t : Traits} (ht : t.Distinct) (how : Composition) {ms : List Shape}
      (members : ∀ m ∈ ms, Plain m) : Plain (.composition t how ms)
  | negation {t : Traits} (ht : t.Distinct) {s : Shape} (inner : Plain s) : Plain (.negation t s)

mutual

/-- The number of shapes on the longest way down. -/
def depth : Shape → Nat
  | .array _ s => depth s + 1
  | .object _ fs a => max (fieldsDepth fs) (optionDepth a) + 1
  | .composition _ _ ms => listDepth ms + 1
  | .negation _ s => depth s + 1
  | _ => 1

/-- The greatest depth of some shapes. -/
def listDepth : List Shape → Nat
  | [] => 0
  | s :: ss => max (depth s) (listDepth ss)

/-- The greatest depth of the types of some fields. -/
def fieldsDepth : List (Field Shape) → Nat
  | [] => 0
  | ⟨_, s, _, _⟩ :: fs => max (depth s) (fieldsDepth fs)

/-- The depth of a shape, if there is one. -/
def optionDepth : Option Shape → Nat
  | none => 0
  | some s => depth s

end

theorem depth_pos (s : Shape) : 0 < s.depth := by
  cases s <;> simp [depth]

theorem depth_le_listDepth {ss : List Shape} {s : Shape} (h : s ∈ ss) : s.depth ≤ listDepth ss := by
  induction ss with
  | nil => cases h
  | cons t ts ih =>
    rw [listDepth]
    rcases List.mem_cons.mp h with rfl | h
    · exact Nat.le_max_left _ _
    · exact (ih h).trans (Nat.le_max_right _ _)

theorem listDepth_map_type (fs : List (Field Shape)) : listDepth (fs.map (·.type)) = fieldsDepth fs := by
  induction fs with
  | nil => rfl
  | cons f fs ih =>
    rw [List.map_cons, listDepth, ih, fieldsDepth]

/-- What stands below a shape is less deep. -/
theorem depth_lt_of_mem_children {s c : Shape} (h : c ∈ s.children) : c.depth < s.depth := by
  cases s with
  | array t s =>
    obtain rfl := List.mem_singleton.mp h
    exact Nat.lt_succ_self _
  | object t fs a =>
    rw [depth]
    rcases List.mem_append.mp h with h | h
    · have hle := depth_le_listDepth h
      rw [listDepth_map_type] at hle
      exact Nat.lt_succ_of_le (hle.trans (Nat.le_max_left _ _))
    · obtain rfl := Option.mem_toList.mp h
      exact Nat.lt_succ_of_le (Nat.le_max_right _ _)
  | composition t how ms => exact Nat.lt_succ_of_le (depth_le_listDepth h)
  | negation t s =>
    obtain rfl := List.mem_singleton.mp h
    exact Nat.lt_succ_self _
  | _ => cases h

theorem Plain.child {s c : Shape} (hs : s.Plain) (h : c ∈ s.children) : c.Plain := by
  cases hs with
  | array _ items =>
    obtain rfl := List.mem_singleton.mp h
    exact items
  | object _ _ types extra =>
    rcases List.mem_append.mp h with h | h
    · obtain ⟨f, hf, rfl⟩ := List.mem_map.mp h
      exact types f hf
    · exact extra c (Option.mem_toList.mp h)
  | composition _ _ members => exact members c h
  | negation _ inner =>
    obtain rfl := List.mem_singleton.mp h
    exact inner
  | _ => cases h

end Shape

namespace Decode

open Check

/-! ## Results -/

section

variable {α β : Type}

theorem map_ok {f : α → β} {x : Checked α} {a : α} (hx : x = .ok a) : f <$> x = .ok (f a) := by
  rw [hx]
  rfl

theorem seq_ok {f : Checked (α → β)} {x : Checked α} {g : α → β} {a : α} (hf : f = .ok g)
    (hx : x = .ok a) : f <*> x = .ok (g a) := by
  rw [hf, hx]
  rfl

/-! ## Fields -/

variable {ms : List (String × Json)} {key : String} {read : Value → Checked α} {a : α}

theorem required_ok {j : Json} (h : lookup? key ms = some j) (hread : read (.ofJson j) = .ok a) :
    required (Value.ofMembers ms) key read = .ok a := by
  rw [required, Value.entry?_ofMembers, h]
  simp only [Option.map_some, hread]
  rfl

theorem withDefault_ok {j : Json} {default : α} (h : lookup? key ms = some j)
    (hread : read (.ofJson j) = .ok a) :
    withDefault (Value.ofMembers ms) key default read = .ok a := by
  rw [withDefault, present, Value.entry?_ofMembers, h]
  simp only [Option.map_some, hread]
  rfl

/-- A text that may be missing. -/
theorem nullable_text {s : Option String} (h : lookup? key ms = some (Encode.text s)) :
    nullable (Value.ofMembers ms) key text = .ok s := by
  rw [nullable, Check.optional, Value.entry?_ofMembers, h]
  cases s <;> rfl

/-- A part that may be missing, written as an object. -/
theorem nullable_object {write : α → Json} {o : Option α}
    (h : lookup? key ms = some (Encode.optional write o))
    (hobject : ∀ a, ∃ members, write a = .obj members)
    (hread : ∀ a ∈ o, read (.ofJson (write a)) = .ok a) :
    nullable (Value.ofMembers ms) key read = .ok o := by
  rw [nullable, Check.optional, Value.entry?_ofMembers, h]
  cases o with
  | none => rfl
  | some a =>
    obtain ⟨members, hmembers⟩ := hobject a
    have ha := hread a rfl
    rw [hmembers] at ha
    simp only [Option.map_some, Encode.optional, hmembers]
    exact congrArg (Checked.under key) (map_ok ha)

/-- A key that is spelled as it should be stays so. -/
theorem respelled_of_lookup? {spelling : String} {j : Json} (h : lookup? key ms = some j) :
    respelled spelling key (Value.ofMembers ms) = Value.ofMembers ms := by
  rw [respelled, Value.entry?_ofMembers, h]
  rfl

/-! ## Lists and mappings -/

theorem items_ok {write : α → Json} {as : List α} (hread : ∀ a ∈ as, read (.ofJson (write a)) = .ok a)
    (position : Nat) : items read position (Value.ofItems (as.map write)) = .ok as := by
  induction as generalizing position with
  | nil => rfl
  | cons a as ih =>
    have ha := hread a List.mem_cons_self
    have has := ih (fun b hb => hread b (List.mem_cons_of_mem _ hb)) (position + 1)
    rw [List.map_cons, Value.ofItems, items, ha]
    exact seq_ok (map_ok rfl) has

/-- A list is read back if its items are. -/
theorem series_ok {write : α → Json} {as : List α}
    (hread : ∀ a ∈ as, read (.ofJson (write a)) = .ok a) :
    series read (.ofJson (Encode.list write as)) = .ok as := items_ok hread 0

end

theorem series_texts (xs : List String) : series text (.ofJson (Json.texts xs)) = .ok xs :=
  items_ok (fun _ _ => rfl) 0

theorem series_any {vs : List Value} (h : ∀ v ∈ vs, v.IsJson) :
    series any (.ofJson (Encode.list Value.inDescription vs)) = .ok vs :=
  series_ok fun v hv => congrArg Checked.ok (h v hv).ofJson_inDescription

theorem mapping_texts (m : List (String × String)) :
    mapping text (.ofJson (.obj (m.map fun e => (e.1, .str e.2)))) = .ok m := by
  rw [Value.ofJson, mapping]
  induction m with
  | nil => rfl
  | cons e m ih => exact seq_ok (seq_ok (map_ok rfl) rfl) ih

/-! ## Parts of shapes -/

theorem kind_name (k : Kind) : kind (.ofJson (.str k.name)) = .ok k := by
  cases k with
  | scalar k => cases k <;> rfl
  | composition how => cases how <;> rfl
  | _ => rfl

theorem discriminator_ok (d : Discriminator) :
    discriminator (.ofJson (Encode.discriminator d)) = .ok d := by
  refine seq_ok (map_ok ?propertyName) ?mapping
  case propertyName => exact required_ok rfl rfl
  case mapping => exact withDefault_ok rfl (mapping_texts d.mapping)

theorem traits_ok (t : Traits) (k : Kind) (more : List (String × Json)) :
    traits (Value.ofMembers (Encode.traits t k ++ more)) = .ok t := by
  refine seq_ok (seq_ok (map_ok ?nullable) ?format) ?discriminator
  case nullable => exact withDefault_ok rfl rfl
  case format => exact nullable_text rfl
  case discriminator => exact nullable_object rfl (fun _ => ⟨_, rfl⟩) fun d _ => discriminator_ok d

theorem annotations_ok {a : Annotations} (h : a.Plain) :
    annotations (.ofJson (Encode.annotations a)) = .ok a := by
  refine seq_ok (seq_ok (seq_ok (seq_ok (seq_ok (seq_ok (map_ok ?title) ?description) ?deprecated)
    ?readOnly) ?writeOnly) ?default) ?samples
  case title => exact nullable_text rfl
  case description => exact nullable_text rfl
  case deprecated => exact withDefault_ok rfl rfl
  case readOnly => exact withDefault_ok rfl rfl
  case writeOnly => exact withDefault_ok rfl rfl
  case default => exact withDefault_ok rfl (congrArg Checked.ok h.default.ofJson_inDescription)
  case samples => exact withDefault_ok rfl (series_any h.samples)

theorem literals_ok {t : Traits} {l : Literals} (h : ∀ v ∈ l.raw, v.IsJson) :
    literals (Value.ofMembers (Encode.traits t .enum ++ [("values", Json.texts l.values),
      ("raw_values", Encode.list Value.inDescription l.raw), ("base_kind", .str l.base.name)])) =
      .ok l := by
  refine seq_ok (seq_ok (map_ok ?values) ?raw) ?base
  case values => exact withDefault_ok rfl (series_texts l.values)
  case raw => exact withDefault_ok rfl (series_any h)
  case base => exact withDefault_ok rfl (kind_name l.base)

section

variable {read : Value → Checked Shape}

theorem field_ok {f : Field Shape} (hnotes : f.annotations.Plain)
    (hread : read (.ofJson (Encode.shape f.type)) = .ok f.type) :
    field read (.ofJson (Encode.field f)) = .ok f := by
  refine seq_ok (seq_ok (seq_ok (map_ok ?name) ?type) ?required) ?annotations
  case name => exact required_ok rfl rfl
  case type => exact required_ok rfl hread
  case required => exact withDefault_ok rfl rfl
  case annotations => exact withDefault_ok rfl (annotations_ok hnotes)

end

end Decode

namespace Encode

theorem shapes_eq (ss : List Shape) : shapes ss = ss.map shape := by
  induction ss with
  | nil => rfl
  | cons s ss ih => rw [shapes, ih, List.map_cons]

theorem fields_eq (fs : List (Field Shape)) : fields fs = fs.map field := by
  induction fs with
  | nil => rfl
  | cons f fs ih => rw [fields, ih, List.map_cons, field]

theorem optionalShape_eq (a : Option Shape) : optionalShape a = optional shape a := by
  cases a <;> rfl

/-- Shapes are written as objects, which name their kind. -/
theorem shape_obj (s : Shape) :
    ∃ ms, shape s = .obj ms ∧ lookup? "kind" ms = some (.str s.kind.name) := by
  cases s <;> exact ⟨_, rfl, rfl⟩

end Encode

namespace Decode

section

variable {read : Value → Checked Shape}

/-- A shape is read back according to its kind if the shapes below it are. -/
theorem shapeOfKind_ok {s : Shape} (hs : s.Plain) {ms : List (String × Json)}
    (hms : Encode.shape s = .obj ms)
    (hread : ∀ c ∈ s.children, read (.ofJson (Encode.shape c)) = .ok c) :
    shapeOfKind read (Value.ofMembers ms) s.kind = .ok s := by
  cases hs with
  | @unknown t _ =>
    obtain rfl : Encode.traits t .unknown = ms := Json.obj.inj hms
    exact map_ok (traits_ok t _ [])
  | @scalar t _ k =>
    obtain rfl : Encode.traits t (.scalar k) = ms := Json.obj.inj hms
    exact map_ok (traits_ok t _ [])
  | @null t _ =>
    obtain rfl : Encode.traits t .null = ms := Json.obj.inj hms
    exact map_ok (traits_ok t _ [])
  | @array t _ s _ =>
    obtain rfl : Encode.traits t .array ++ [("items", Encode.shape s)] = ms := Json.obj.inj hms
    exact seq_ok (map_ok (traits_ok t _ _)) (required_ok rfl (hread s (List.mem_singleton.mpr rfl)))
  | @object t _ fs a notes _ _ =>
    obtain rfl : Encode.traits t .object ++ [("properties", .arr (Encode.fields fs)),
      ("additional_properties", Encode.optionalShape a)] = ms := Json.obj.inj hms
    rw [Encode.fields_eq, Encode.optionalShape_eq]
    refine seq_ok (seq_ok (map_ok (traits_ok t _ _)) ?properties) ?additional
    case properties =>
      refine withDefault_ok rfl (series_ok fun f hf => field_ok (notes f hf) (hread f.type ?_))
      exact List.mem_append_left _ (List.mem_map_of_mem hf)
    case additional =>
      refine nullable_object rfl (fun s => ⟨_, (Encode.shape_obj s).choose_spec.1⟩) fun s hs => hread s ?_
      exact List.mem_append_right _ (Option.mem_toList.mpr hs)
  | @enum t _ l raw =>
    obtain rfl : Encode.traits t .enum ++ [("values", Json.texts l.values),
      ("raw_values", Encode.list Value.inDescription l.raw), ("base_kind", .str l.base.name)] = ms :=
        Json.obj.inj hms
    exact seq_ok (map_ok (traits_ok t _ _)) (literals_ok raw)
  | @ref t _ name =>
    obtain rfl : Encode.traits t .ref ++ [("name", Json.str name)] = ms := Json.obj.inj hms
    exact seq_ok (map_ok (traits_ok t _ _)) (required_ok rfl rfl)
  | @composition t _ how members _ =>
    obtain rfl : Encode.traits t (.composition how) ++ [("members", Json.arr (Encode.shapes members))] = ms :=
      Json.obj.inj hms
    rw [Encode.shapes_eq]
    exact seq_ok (map_ok (traits_ok t _ _)) (withDefault_ok rfl (series_ok hread))
  | @negation t _ s _ =>
    obtain rfl : Encode.traits t .negation ++ [("inner", Encode.shape s)] = ms := Json.obj.inj hms
    exact seq_ok (map_ok (traits_ok t _ _)) (required_ok rfl (hread s (List.mem_singleton.mpr rfl)))

end

theorem find?_kind (k : Kind) : (Kind.all.find? fun kind => k.name = kind.name) = some k := by
  cases k with
  | scalar k => cases k <;> rfl
  | composition how => cases how <;> rfl
  | _ => rfl

/-- A shape is read back by a decoder that has two levels for each level of the shape. -/
theorem shapeBelow_shape {s : Shape} (hs : s.Plain) {room within : Nat} (hroom : 2 * s.depth ≤ room) :
    shapeBelow room within (.ofJson (Encode.shape s)) = .ok s := by
  induction s using Shape.rec_children generalizing room within with
  | step s ih =>
    obtain ⟨ms, hms, hkind⟩ := Encode.shape_obj s
    have hpos := s.depth_pos
    have hbelow : ∀ room' within', room ≤ room' + 2 →
        shapeOfKind (shapeBelow room' within') (Value.ofMembers ms) s.kind = .ok s := by
      intro room' within' hroom'
      refine shapeOfKind_ok hs hms fun c hc => ih c hc (hs.child hc) ?_
      have hlt := Shape.depth_lt_of_mem_children hc
      omega
    obtain ⟨room, rfl⟩ := Nat.exists_eq_add_of_le' (show 2 ≤ room by omega)
    have hfound : (Kind.all.find? fun kind => (Value.ofJson (.str s.kind.name)).shown = kind.name) =
        some s.kind := find?_kind s.kind
    have hwhole := hbelow (room + 1) within (by omega)
    have hentered := hbelow room (reach s.kind) (Nat.le_refl _)
    rw [hms, Value.ofJson, shapeBelow, Value.entry?_ofMembers, hkind]
    simp only [Option.map_some, hfound]
    cases reach s.kind ≠ 0 && reach s.kind < within with
    | false => exact congrArg (Checked.under _) hwhole
    | true => exact congrArg (Checked.under _) hentered

end Decode

/-! ## Keys -/

namespace Encode

theorem text_distinct (s : Option String) : (text s).Distinct := by
  cases s with
  | none => exact .null
  | some s => exact .str s

theorem list_distinct {α : Type} {write : α → Json} {as : List α}
    (h : ∀ a ∈ as, (write a).Distinct) : (list write as).Distinct := by
  refine .arr fun j hj => ?_
  obtain ⟨a, ha, rfl⟩ := List.mem_map.mp hj
  exact h a ha

theorem texts_distinct (xs : List String) : (Json.texts xs).Distinct :=
  list_distinct fun x _ => .str x

theorem optional_distinct {α : Type} {write : α → Json} {o : Option α}
    (h : ∀ a ∈ o, (write a).Distinct) : (optional write o).Distinct := by
  cases o with
  | none => exact .null
  | some a => exact h a rfl

theorem discriminator_distinct {d : Discriminator} (h : (d.mapping.map (·.1)).Nodup) :
    (discriminator d).Distinct := by
  have hkeys : ((d.mapping.map fun e => (e.1, Json.str e.2)).map (·.1)).Nodup := by
    rw [List.map_map]
    exact h
  have hmapping : (Json.obj (d.mapping.map fun e => (e.1, .str e.2))).Distinct := by
    refine .obj hkeys fun m hm => ?_
    obtain ⟨e, -, rfl⟩ := List.mem_map.mp hm
    exact .str e.2
  refine .obj (by simp) ?_
  simp only [List.forall_mem_cons]
  exact ⟨.str _, hmapping, List.forall_mem_nil _⟩

theorem traits_distinct {t : Traits} (ht : t.Distinct) (k : Kind) :
    ∀ m ∈ traits t k, m.2.Distinct := by
  simp only [traits, List.forall_mem_cons]
  exact ⟨.bool _, text_distinct _, optional_distinct fun d hd => discriminator_distinct (ht d hd), .str _,
    List.forall_mem_nil _⟩

theorem annotations_distinct {a : Annotations} (h : a.Plain) : (annotations a).Distinct := by
  refine .obj (by simp) ?_
  simp only [List.forall_mem_cons]
  exact ⟨text_distinct _, text_distinct _, .bool _, .bool _, .bool _, h.default.distinct,
    list_distinct fun v hv => (h.samples v hv).distinct, List.forall_mem_nil _⟩

theorem field_distinct {f : Field Shape} (hnotes : f.annotations.Plain) (htype : (shape f.type).Distinct) :
    (field f).Distinct := by
  refine .obj (by simp) ?_
  simp only [List.forall_mem_cons]
  exact ⟨.str _, htype, .bool _, annotations_distinct hnotes, List.forall_mem_nil _⟩

/-- The members of a shape are those of its traits and those of its kind. -/
theorem members_distinct {t : Traits} (ht : t.Distinct) {k : Kind} {more : List (String × Json)}
    (hkeys : ((traits t k ++ more).map (·.1)).Nodup) (hmore : ∀ m ∈ more, m.2.Distinct) :
    (Json.obj (traits t k ++ more)).Distinct := by
  refine .obj hkeys fun m hm => ?_
  rcases List.mem_append.mp hm with hm | hm
  · exact traits_distinct ht k m hm
  · exact hmore m hm

/-- No key stands twice in the JSON form of a shape. -/
theorem shape_distinct {s : Shape} (hs : s.Plain) : (shape s).Distinct := by
  have hbare : ∀ {t : Traits} (_ : t.Distinct) (k : Kind), (Json.obj (traits t k)).Distinct :=
    fun ht k => .obj (by simp [traits]) (traits_distinct ht k)
  induction hs with
  | unknown ht => exact hbare ht _
  | scalar ht k => exact hbare ht _
  | null ht => exact hbare ht _
  | array ht items ih =>
    refine members_distinct ht (by simp [traits]) ?_
    simp only [List.forall_mem_cons]
    exact ⟨ih, List.forall_mem_nil _⟩
  | object ht notes types extra iht ihe =>
    refine members_distinct ht (by simp [traits]) ?_
    simp only [List.forall_mem_cons, fields_eq, optionalShape_eq]
    exact ⟨list_distinct fun f hf => field_distinct (notes f hf) (iht f hf), optional_distinct ihe,
      List.forall_mem_nil _⟩
  | enum ht raw =>
    refine members_distinct ht (by simp [traits]) ?_
    simp only [List.forall_mem_cons]
    exact ⟨texts_distinct _, list_distinct fun v hv => (raw v hv).distinct, .str _, List.forall_mem_nil _⟩
  | ref ht name =>
    refine members_distinct ht (by simp [traits]) ?_
    simp only [List.forall_mem_cons]
    exact ⟨.str _, List.forall_mem_nil _⟩
  | composition ht how members ih =>
    refine members_distinct ht (by simp [traits]) ?_
    simp only [List.forall_mem_cons, shapes_eq]
    exact ⟨list_distinct ih, List.forall_mem_nil _⟩
  | negation ht inner ih =>
    refine members_distinct ht (by simp [traits]) ?_
    simp only [List.forall_mem_cons]
    exact ⟨ih, List.forall_mem_nil _⟩

end Encode
end ApiCompiler
