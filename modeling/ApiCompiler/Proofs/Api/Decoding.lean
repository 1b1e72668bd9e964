import ApiCompiler.Generation
import ApiCompiler.Proofs.Compilation.Completeness
import ApiCompiler.Proofs.Shape.Decoding

/-!
# Descriptions survive their files

A compiled description is written to a file as JSON.  Reading the file gives the description back:
the text is read as the JSON value that was written (`Json.readWithin_spread`), and this value is
decoded as the description that was encoded (`apiWithin_api`).

The readers have limits: how deeply arrays and objects may be nested, how many digits an integer may
have, and how many shapes may stand below each other.  These say which descriptions a given reader
takes, and not what survives: for every description there are limits from which on it is read back
(`Api.survives`), and `Api.read_descriptionText` says which these are.
-/

namespace ApiCompiler

/-- All raw values in a description are JSON values, and no discriminator maps a key twice. -/
structure Api.Plain (a : Api) : Prop where
  shapes : ∀ s ∈ a.shapes, s.Plain
  annotations : ∀ m ∈ a.models, m.annotations.Plain

theorem Api.mem_shapes_of_model {a : Api} {m : Model} (hm : m ∈ a.models) : m.shape ∈ a.shapes :=
  List.mem_append_left _ (List.mem_map_of_mem hm)

theorem Api.mem_shapes_of_service {a : Api} {s : Service} (hs : s ∈ a.services) {op : Operation}
    (hop : op ∈ s.operations) {t : Shape} (ht : t ∈ op.shapes) : t ∈ a.shapes := by
  have hoperation : op ∈ a.operations := List.mem_flatMap.mpr ⟨s, hs, hop⟩
  exact List.mem_append_right _ (List.mem_flatMap.mpr ⟨op, hoperation, ht⟩)

namespace Decode

open Check

/-! ## Records -/

section

variable {read : Value → Checked Shape}

theorem modelWith_ok {m : Model} (hnotes : m.annotations.Plain)
    (hread : read (.ofJson (Encode.shape m.shape)) = .ok m.shape) :
    modelWith read (.ofJson (Encode.model m)) = .ok m := by
  rw [modelWith, Encode.model, Value.ofJson, Check.model, respelled_of_lookup? rfl]
  refine seq_ok (seq_ok (map_ok ?called) ?schema) ?annotations
  case called => exact required_ok rfl rfl
  case schema => exact required_ok rfl hread
  case annotations => exact withDefault_ok rfl (annotations_ok hnotes)

theorem param_ok {p : Param} (hread : read (.ofJson (Encode.shape p.shape)) = .ok p.shape) :
    param read (.ofJson (Encode.param p)) = .ok p := by
  rw [param, Encode.param, Value.ofJson, Check.model, respelled_of_lookup? rfl]
  refine seq_ok (seq_ok (seq_ok (map_ok ?called) ?required) ?shape) ?description
  case called => exact required_ok rfl rfl
  case required => exact withDefault_ok rfl rfl
  case shape => exact withDefault_ok rfl hread
  case description => exact nullable_text rfl

theorem body_ok {b : Body} (hread : read (.ofJson (Encode.shape b.shape)) = .ok b.shape) :
    body read (.ofJson (Encode.body b)) = .ok b := by
  rw [body, Encode.body, Value.ofJson, Check.model, respelled_of_lookup? rfl]
  refine seq_ok (seq_ok (seq_ok (map_ok ?contentType) ?shape) ?required) ?description
  case contentType => exact required_ok rfl rfl
  case shape => exact withDefault_ok rfl hread
  case required => exact withDefault_ok rfl rfl
  case description => exact nullable_text rfl

theorem responseKind_ok (k : ResponseKind) :
    word Encode.responseKind [.content, .noContent, .unknown]
      (.ofJson (.str (Encode.responseKind k))) = .ok k := by
  cases k <;> rfl

theorem response_ok {r : Response} (hread : ∀ s ∈ r.shape, read (.ofJson (Encode.shape s)) = .ok s) :
    response read (.ofJson (Encode.response r)) = .ok r := by
  rw [response, Encode.response, Value.ofJson, Check.model, respelled_of_lookup? rfl]
  refine seq_ok (seq_ok (seq_ok (seq_ok (map_ok ?kind) ?shape) ?description) ?contentType) ?statusCode
  case kind => exact withDefault_ok rfl (responseKind_ok r.kind)
  case shape => exact nullable_object rfl (fun s => ⟨_, (Encode.shape_obj s).choose_spec.1⟩) hread
  case description => exact nullable_text rfl
  case contentType => exact nullable_text rfl
  case statusCode => exact nullable_text rfl

/-- An operation is read back if its shapes are. -/
theorem operationWith_ok {op : Operation}
    (hread : ∀ s ∈ op.shapes, read (.ofJson (Encode.shape s)) = .ok s) :
    operationWith read (.ofJson (Encode.operation op)) = .ok op := by
  simp only [Operation.shapes, List.forall_mem_append, List.forall_mem_map, Option.mem_toList,
    Option.map_eq_some_iff] at hread
  obtain ⟨⟨⟨hpath, hquery⟩, hbody⟩, hresponse⟩ := hread
  refine seq_ok (seq_ok (seq_ok (seq_ok (seq_ok (seq_ok (seq_ok (seq_ok (seq_ok (seq_ok (seq_ok
    (seq_ok (map_ok ?operationId) ?method) ?path) ?tag) ?originalTags) ?summary) ?description)
    ?deprecated) ?pathParams) ?pathParamOrder) ?queryParams) ?requestBody) ?response
  case operationId => exact nullable_text rfl
  case method => exact required_ok rfl rfl
  case path => exact required_ok rfl rfl
  case tag => exact required_ok rfl rfl
  case originalTags => exact withDefault_ok rfl (series_texts op.originalTags)
  case summary => exact nullable_text rfl
  case description => exact nullable_text rfl
  case deprecated => exact withDefault_ok rfl rfl
  case pathParams => exact withDefault_ok rfl (series_ok fun p hp => param_ok (hpath p hp))
  case pathParamOrder => exact withDefault_ok rfl (series_texts op.pathParamOrder)
  case queryParams => exact withDefault_ok rfl (series_ok fun p hp => param_ok (hquery p hp))
  case requestBody =>
    exact nullable_object rfl (fun b => ⟨_, rfl⟩) fun b hb => body_ok (hbody b.shape ⟨b, hb, rfl⟩)
  case response => exact withDefault_ok rfl (response_ok hresponse)

theorem serviceWith_ok {s : Service}
    (hread : ∀ op ∈ s.operations, ∀ t ∈ op.shapes, read (.ofJson (Encode.shape t)) = .ok t) :
    serviceWith read (.ofJson (Encode.service s)) = .ok s := by
  refine seq_ok (map_ok ?tag) ?operations
  case tag => exact required_ok rfl rfl
  case operations => exact withDefault_ok rfl (series_ok fun op hop => operationWith_ok (hread op hop))

theorem securityScheme_ok (s : SecurityScheme) :
    securityScheme (.ofJson (Encode.securityScheme s)) = .ok s := by
  rw [securityScheme, Encode.securityScheme, Value.ofJson, Check.model, respelled_of_lookup? rfl]
  refine seq_ok (seq_ok (seq_ok (seq_ok (seq_ok (map_ok ?key) ?type) ?scheme) ?location) ?called)
    ?bearerFormat
  case key => exact required_ok rfl rfl
  case type => exact required_ok rfl rfl
  case scheme => exact nullable_text rfl
  case location => exact nullable_text rfl
  case called => exact nullable_text rfl
  case bearerFormat => exact nullable_text rfl

/-- A description is read back if its shapes are. -/
theorem apiWith_ok {a : Api} (ha : a.Plain)
    (hread : ∀ s ∈ a.shapes, read (.ofJson (Encode.shape s)) = .ok s) :
    apiWith read (.ofJson (Encode.api a)) = .ok a := by
  refine seq_ok (seq_ok (map_ok ?services) ?models) ?securitySchemes
  case services =>
    exact withDefault_ok rfl (series_ok fun s hs =>
      serviceWith_ok fun op hop t ht => hread t (Api.mem_shapes_of_service hs hop ht))
  case models =>
    exact withDefault_ok rfl (series_ok fun m hm =>
      modelWith_ok (ha.annotations m hm) (hread m.shape (Api.mem_shapes_of_model hm)))
  case securitySchemes => exact withDefault_ok rfl (series_ok fun s _ => securityScheme_ok s)

end

/-- A description is read back by a decoder that has two levels for each level of its shapes. -/
theorem apiWithin_api {a : Api} (ha : a.Plain) {room : Nat}
    (hroom : 2 * Shape.listDepth a.shapes ≤ room) :
    apiWithin room (.ofJson (Encode.api a)) = .ok a := by
  refine apiWith_ok ha fun s hs => shapeBelow_shape (ha.shapes s hs) ?_
  have hdepth := Shape.depth_le_listDepth hs
  omega

end Decode

/-! ## Keys -/

namespace Encode

theorem model_distinct {m : Model} (hnotes : m.annotations.Plain) (hs : m.shape.Plain) :
    (model m).Distinct := by
  refine .obj (by simp) ?_
  simp only [List.forall_mem_cons]
  exact ⟨.str _, shape_distinct hs, annotations_distinct hnotes, List.forall_mem_nil _⟩

theorem param_distinct {p : Param} (hs : p.shape.Plain) : (param p).Distinct := by
  refine .obj (by simp) ?_
  simp only [List.forall_mem_cons]
  exact ⟨.str _, .bool _, shape_distinct hs, text_distinct _, List.forall_mem_nil _⟩

theorem body_distinct {b : Body} (hs : b.shape.Plain) : (body b).Distinct := by
  refine .obj (by simp) ?_
  simp only [List.forall_mem_cons]
  exact ⟨.str _, shape_distinct hs, .bool _, text_distinct _, List.forall_mem_nil _⟩

theorem response_distinct {r : Response} (hs : ∀ s ∈ r.shape, s.Plain) : (response r).Distinct := by
  refine .obj (by simp) ?_
  simp only [List.forall_mem_cons]
  exact ⟨.str _, optional_distinct fun s h => shape_distinct (hs s h), text_distinct _, text_distinct _,
    text_distinct _, List.forall_mem_nil _⟩

theorem operation_distinct {op : Operation} (hs : ∀ s ∈ op.shapes, s.Plain) :
    (operation op).Distinct := by
  simp only [Operation.shapes, List.forall_mem_append, List.forall_mem_map, Option.mem_toList,
    Option.map_eq_some_iff] at hs
  obtain ⟨⟨⟨hpath, hquery⟩, hbody⟩, hresponse⟩ := hs
  refine .obj (by simp) ?_
  simp only [List.forall_mem_cons]
  exact ⟨text_distinct _, .str _, .str _, .str _, texts_distinct _, text_distinct _, text_distinct _,
    .bool _, list_distinct fun p hp => param_distinct (hpath p hp), texts_distinct _,
    list_distinct fun p hp => param_distinct (hquery p hp),
    optional_distinct fun b hb => body_distinct (hbody b.shape ⟨b, hb, rfl⟩),
    response_distinct hresponse, List.forall_mem_nil _⟩

theorem service_distinct {s : Service} (hs : ∀ op ∈ s.operations, ∀ t ∈ op.shapes, t.Plain) :
    (service s).Distinct := by
  refine .obj (by simp) ?_
  simp only [List.forall_mem_cons]
  exact ⟨.str _, list_distinct fun op hop => operation_distinct (hs op hop), List.forall_mem_nil _⟩

theorem securityScheme_distinct (s : SecurityScheme) : (securityScheme s).Distinct := by
  refine .obj (by simp) ?_
  simp only [List.forall_mem_cons]
  exact ⟨.str _, .str _, text_distinct _, text_distinct _, text_distinct _, text_distinct _,
    List.forall_mem_nil _⟩

/-- No key stands twice in the JSON form of a description. -/
theorem api_distinct {a : Api} (ha : a.Plain) : (api a).Distinct := by
  refine .obj (by simp) ?_
  simp only [List.forall_mem_cons]
  exact ⟨list_distinct fun s hs => service_distinct fun op hop t ht =>
      ha.shapes t (Api.mem_shapes_of_service hs hop ht),
    list_distinct fun m hm => model_distinct (ha.annotations m hm) (ha.shapes m.shape (Api.mem_shapes_of_model hm)),
    list_distinct fun s _ => securityScheme_distinct s, List.forall_mem_nil _⟩

end Encode

/-! ## Files -/

/-- What a description needs of the readers of its file, and that it is read back by those that have
it. -/
theorem Api.read_descriptionText {a : Api} (ha : a.Plain) {limits : Json.Limits}
    (hlimits : (Encode.api a).demand ≤ limits) {room : Nat}
    (hroom : 2 * Shape.listDepth a.shapes ≤ room) :
    ∃ j, Json.readWithin limits (Generation.descriptionText a).toList = .ok j ∧
      Decode.apiWithin room (.ofJson j) = .ok a := by
  refine ⟨Encode.api a, ?_, Decode.apiWithin_api ha hroom⟩
  rw [Generation.descriptionText, Generation.fileText, String.toList_ofList]
  exact Json.readWithin_spread (Encode.api_distinct ha) .description hlimits

/-- What the program reads back itself: a description that is nested within the limits of its readers. -/
theorem Api.readAll_descriptionText {a : Api} (ha : a.Plain)
    (hlimits : (Encode.api a).demand ≤ Json.Limits.standard)
    (hdepth : 2 * Shape.listDepth a.shapes ≤ Decode.depthLimit) :
    ∃ j, Json.readAll (Generation.descriptionText a).toList = .ok j ∧ Decode.api (.ofJson j) = .ok a :=
  Api.read_descriptionText ha hlimits hdepth

/-- Every description survives its file: the readers whose limits are not too low for it read it back
as it was. -/
theorem Api.survives (a : Api) (ha : a.Plain) :
    ∃ (least : Json.Limits) (depth : Nat), ∀ (limits : Json.Limits) (room : Nat), least ≤ limits →
      depth ≤ room → ∃ j, Json.readWithin limits (Generation.descriptionText a).toList = .ok j ∧
        Decode.apiWithin room (.ofJson j) = .ok a :=
  ⟨(Encode.api a).demand, 2 * Shape.listDepth a.shapes,
    fun _ _ hlimits hroom => Api.read_descriptionText ha hlimits hroom⟩

/-! ## Tickets -/

namespace Tickets

/-- A status of three raw values, an object with a double among them. -/
def status : Shape :=
  .enum Traits.none
    ⟨["open", "2", "\x7b\"late\": 1.5\x7d"],
      [.scalar (.text "open"), .scalar (.int 2),
        .map [(.text "late", .scalar (.float (.ofDecimal false 15 (-1))))]],
      .unknown⟩

/-- A ticket: a union by its property `kind`, or an object that has a status and is no draft. -/
def ticket : Shape :=
  .composition ⟨true, none, some ⟨"kind", [("draft", "Draft"), ("sold", "Sold")]⟩⟩ .anyOf
    [.ref Traits.none "Draft",
      .object Traits.none
        [⟨"status", status, true,
          ⟨none, some "How far it got", false, true, false, .scalar (.text "open"),
            [.seq [.scalar .null, .scalar (.bool true)]]⟩⟩]
        (some (.negation Traits.none (.ref Traits.none "Draft")))]

/-- The tickets, listed by their status. -/
def api : Api where
  services := [⟨"tickets",
    [{ operationId := some "listTickets", method := "get", path := "/tickets", tag := "tickets",
       originalTags := ["tickets"], summary := none, description := none, deprecated := false,
       pathParams := [], pathParamOrder := [],
       queryParams := [⟨"status", false, .array Traits.none status, none⟩],
       requestBody := none, response := .undeclared }]⟩]
  models := [⟨"Ticket", ticket, Annotations.none⟩]
  securitySchemes := [⟨"key", "apiKey", none, some "header", some "X-Key", none⟩]

theorem none_distinct : Traits.none.Distinct := fun _ h => nomatch h

theorem status_plain : status.Plain := by
  have hlate : (Json.obj [("late", .float (.ofDecimal false 15 (-1)))]).Distinct := by
    refine .obj (by decide) ?_
    simp only [List.forall_mem_cons]
    exact ⟨.float _, List.forall_mem_nil _⟩
  refine .enum none_distinct ?_
  simp only [List.forall_mem_cons]
  exact ⟨⟨.str "open", .str _, rfl⟩, ⟨.int 2, .int _, rfl⟩, ⟨_, hlate, rfl⟩, List.forall_mem_nil _⟩

theorem ticket_plain : ticket.Plain := by
  have hmapping : Traits.Distinct ⟨true, none, some ⟨"kind", [("draft", "Draft"), ("sold", "Sold")]⟩⟩ := by
    rintro d hd
    obtain rfl := Option.some.inj hd
    decide
  have hnotes : (⟨none, some "How far it got", false, true, false, .scalar (.text "open"),
      [.seq [.scalar .null, .scalar (.bool true)]]⟩ : Annotations).Plain := by
    have hsample : (Json.arr [.null, .bool true]).Distinct := by
      refine .arr ?_
      simp only [List.forall_mem_cons]
      exact ⟨.null, .bool true, List.forall_mem_nil _⟩
    refine ⟨⟨.str "open", .str _, rfl⟩, ?_⟩
    simp only [List.forall_mem_cons]
    exact ⟨⟨_, hsample, rfl⟩, List.forall_mem_nil _⟩
  have hdraft : (Shape.ref Traits.none "Draft").Plain := .ref none_distinct _
  refine .composition hmapping _ ?_
  simp only [List.forall_mem_cons]
  refine ⟨hdraft, .object none_distinct ?notes ?types ?extra, List.forall_mem_nil _⟩
  case notes =>
    simp only [List.forall_mem_cons]
    exact ⟨hnotes, List.forall_mem_nil _⟩
  case types =>
    simp only [List.forall_mem_cons]
    exact ⟨status_plain, List.forall_mem_nil _⟩
  case extra =>
    rintro s hs
    obtain rfl := Option.some.inj hs
    exact .negation none_distinct hdraft

theorem api_plain : api.Plain := by
  have hshapes : api.shapes = [ticket, .array Traits.none status, Shape.anything] := rfl
  constructor
  · rw [hshapes]
    simp only [List.forall_mem_cons]
    exact ⟨ticket_plain, .array none_distinct status_plain, .unknown none_distinct, List.forall_mem_nil _⟩
  · have hmodels : api.models = [⟨"Ticket", ticket, Annotations.none⟩] := rfl
    rw [hmodels]
    simp only [List.forall_mem_cons]
    exact ⟨Annotations.Plain.none, List.forall_mem_nil _⟩

/-- The tickets survive their file. -/
theorem api_survives :
    api.Plain ∧ ∃ (least : Json.Limits) (depth : Nat), ∀ (limits : Json.Limits) (room : Nat),
      least ≤ limits → depth ≤ room →
        ∃ j, Json.readWithin limits (Generation.descriptionText api).toList = .ok j ∧
          Decode.apiWithin room (.ofJson j) = .ok api :=
  ⟨api_plain, Api.survives api api_plain⟩

end Tickets
end ApiCompiler
