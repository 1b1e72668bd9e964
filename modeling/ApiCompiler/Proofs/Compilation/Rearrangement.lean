import ApiCompiler.Proofs.Operation.Rearrangement
import Mathlib

/-!
# The order of keys does not matter

A document and a rearranged copy of it compile alike (`compile_rearranged`): to descriptions that say
the same, or to the same error, and with the same notices in the same order.  Names are handed out
first come, first served, so this needs more than sorting the result: wherever a map is walked while
models are being named, it has to be walked in an order that its keys decide.  The two passes over a
document are two such walks, and `Schema.Rearranged.agrees` and `Operation.Rearranged.compile_agree`
are the steps in them.

One error says something that depends on the order.  A mapping that is a value of an enumeration is
written with its keys sorted; where two keys have no order, the error names the kinds of the two
that were compared first, and which two these are depends on how the mapping was written
(`levels_differ`).
-/

namespace ApiCompiler
namespace Document

open Build (Agree pure_agree)

variable {d e : Document}

/-! ## Component schemas -/

theorem compileSchemas_agree {es fs : List (String × Schema)}
    (h : List.Forall₂ (SameKey Schema.Rearranged) es fs) :
    Agree (fun _ _ => True) (compileSchemas es) (compileSchemas fs) := by
  induction h with
  | nil => exact pure_agree trivial
  | cons hef _ ih =>
    obtain ⟨name, hst⟩ := hef
    rw [compileSchemas, compileSchemas]
    refine (hst.agrees name "" false).bind fun a b hab => ?_
    refine Build.registry_agree.bind fun r r' hr => ?_
    have hmodel : Model.Rearranged ⟨name, a, _⟩ ⟨name, b, _⟩ := ⟨rfl, hab, hst.annotations⟩
    exact (Build.setRegistry_agree (hr.addModel hmodel)).bind fun _ _ _ => ih

theorem Rearranged.compileModels_agree (h : d.Rearranged e) :
    Agree (fun _ _ => True) d.compileModels e.compileModels :=
  compileSchemas_agree (h.parts.schemas.entries.sortedByKey h.parts.schemas.distinct)

/-! ## Services -/

theorem Rearranged.compileOperations_agree (h : d.Rearranged e) (allowed : Option (List String)) :
    Agree (List.Forall₂ ApiCompiler.Operation.Alike) (d.compileOperations allowed)
      (e.compileOperations allowed) := by
  refine Build.forEach_agree (h.groupedOperations allowed) ?_
  rintro x - y ⟨tag, ⟨path, hitem, method, hop⟩⟩
  exact hop.compile_agree h.parts hitem.parameters path method.name tag

/-- Operations that say the same are grouped alike. -/
theorem group_alike {ops ops' : List ApiCompiler.Operation}
    (h : List.Forall₂ ApiCompiler.Operation.Alike ops ops') :
    List.Forall₂ Service.Alike (group ops) (group ops') := by
  have htags : ops.map (·.tag) = ops'.map (·.tag) := map_eq_of_forall₂ h fun _ _ hop => hop.tag
  rw [group, group, htags, List.forall₂_map_left_iff, List.forall₂_map_right_iff, List.forall₂_same]
  intro tag _
  refine ⟨rfl, Sorting.forall₂_mergeSort_of_le (fun a b a' b' hab hab' => ?_) ?_⟩
  · rw [comesBefore, comesBefore, hab.path, hab.method, hab'.path, hab'.method]
  · refine List.rel_filter (fun a b hab => ?_) h
    dsimp only
    rw [hab.tag]

/-! ## The whole document -/

theorem Rearranged.compileSecurity_eq (h : d.Rearranged e) :
    d.compileSecurity = e.compileSecurity := by
  have hsorted := h.parts.securitySchemes.entries.sortedByKey h.parts.securitySchemes.distinct
  refine map_eq_of_forall₂ hsorted ?_
  rintro x y ⟨key, hst⟩
  dsimp only
  rw [SecurityScheme.compile, SecurityScheme.compile, hst.type, hst.name, hst.location, hst.scheme,
    hst.bearerFormat]

theorem Rearranged.build_agree (h : d.Rearranged e) : Agree Api.Alike d.build e.build := by
  refine h.compileModels_agree.bind fun _ _ _ => ?_
  refine Agree.bind (R := List.Forall₂ Service.Alike) ?_ fun services services' hservices => ?_
  · exact (h.compileOperations_agree none).bind fun ops ops' hops => pure_agree (group_alike hops)
  · refine Build.registry_agree.bind fun r r' hr => pure_agree ⟨hservices, ?_, ?_⟩
    · exact hr.models.imp fun _ _ hmn => ⟨hmn.name, hmn.shape.alike, hmn.annotations.like⟩
    · exact h.compileSecurity_eq

theorem start_rearranged (strict : Bool) :
    (Build.start strict).Rearranged (Build.start strict) :=
  ⟨⟨rfl, .nil, rfl⟩, rfl⟩

/-- **The order of keys does not matter.**  A document and a rearranged copy of it compile to
descriptions that say the same, or to the same error but for the keys that an error about unordered
keys names; the notices are the same in either case. -/
theorem compile_rearranged {d e : Document} (h : d.Rearranged e) (strict : Bool) :
    EndsAlike CompileError.SameKind Api.Alike (d.compile strict).1 (e.compile strict).1 ∧
      (d.compile strict).2 = (e.compile strict).2 := by
  obtain ⟨hends, hstate⟩ := h.build_agree _ _ (start_rearranged strict)
  exact ⟨hends, hstate.notices⟩

end Document

/-! ## A shop -/

namespace Shop

open Schema (Keywords Children)

def text : Schema := .inline { Keywords.blank with type := some (.one .string) } .blank

/-- An object with some properties, and a default. -/
def object (properties : List (String × Schema)) (default : Option Value) : Schema :=
  .inline { Keywords.blank with type := some (.one .object), default := default }
    { Children.blank with properties := some properties }

def unit : Value.Scalar × Value := (.text "unit", .scalar (.text "piece"))

def count : Value.Scalar × Value := (.text "count", .scalar (.int 1))

/-- An item of an order, which is hoisted out of it. -/
def item (default : List (Value.Scalar × Value)) : String × Schema :=
  ("item", object [("count", text)] (some (.map default)))

def note : String × Schema := ("note", text)

def found : String × OrReference Document.Response :=
  ("200", .inline ⟨some "Found", none, [], []⟩)

def missing : String × OrReference Document.Response :=
  ("404", .inline ⟨some "Missing", none, [], []⟩)

/-- An operation with some responses. -/
def operation (responses : List (String × OrReference Document.Response)) : Document.Operation :=
  ⟨none, none, none, none, none, none, some responses, none, none, [], []⟩

def pathItem (get : Option Document.Operation) : Document.PathItem :=
  ⟨none, none, get, none, none, none, none, none, none, none, none, [], []⟩

def shop (paths : List (String × Document.PathItem)) (schemas : List (String × Schema)) :
    Document :=
  { openapi := "3.0.0"
    info := ⟨"Shop", "1", none, [], []⟩
    paths := some paths
    components := some { Document.Components.empty with schemas := some schemas }
    tags := none
    extra := []
    nulls := [] }

def document : Document :=
  shop [("/orders", pathItem (some (operation [found, missing]))), ("/items", pathItem none)]
    [("Order", object [item [unit, count], note] none), ("Note", text)]

/-- The shop with its maps in another order. -/
def rearranged : Document :=
  shop [("/items", pathItem none), ("/orders", pathItem (some (operation [missing, found])))]
    [("Note", text), ("Order", object [note, item [count, unit]] none)]

theorem text_rearranged : text.Rearranged text :=
  .inline ⟨rfl, rfl, rfl, rfl, rfl, .none, .none, .none, rfl, .none, .none, .none, rfl, rfl, rfl,
    .refl _⟩ .none .none .none .none .none List.nodup_nil .none .absent

theorem object_rearranged {ps qs : List (String × Schema)} {v w : Option Value}
    (hdistinct : (ps.map (·.1)).Nodup) (hps : Reordered (SameKey Schema.Rearranged) ps qs)
    (hvw : Option.Rel Value.Rearranged v w) : (object ps v).Rearranged (object qs w) :=
  .inline ⟨rfl, rfl, rfl, rfl, rfl, .none, .none, .none, rfl, hvw, .none, .none, rfl, rfl, rfl,
    .refl _⟩ .none .none .none .none .none hdistinct (.some hps) .absent

theorem item_rearranged : SameKey Schema.Rearranged (item [unit, count]) (item [count, unit]) := by
  have hdefault : (Value.map [unit, count]).Rearranged (.map [count, unit]) :=
    .map (List.pairwise_pair.mpr rfl) (.swapped (.mk _ (.scalar _)) (.mk _ (.scalar _)))
  exact .mk _ (object_rearranged (List.nodup_singleton _)
    (.singleton (.mk _ text_rearranged)) (.some hdefault))

theorem operation_rearranged :
    (operation [found, missing]).Rearranged (operation [missing, found]) :=
  ⟨rfl, rfl, rfl, rfl, .nil, .none,
    ⟨by decide, .swapped (.mk _ (.inline ⟨rfl, .nil⟩)) (.mk _ (.inline ⟨rfl, .nil⟩))⟩, rfl⟩

theorem pathItem_rearranged {o p : Option Document.Operation}
    (h : Option.Rel Document.Operation.Rearranged o p) :
    (pathItem o).Rearranged (pathItem p) := by
  refine ⟨fun m => ?_, .nil⟩
  cases m with
  | get => exact h
  | _ => exact .none

theorem document_rearranged : document.Rearranged rearranged := by
  have horder : (object [item [unit, count], note] none).Rearranged
      (object [note, item [count, unit]] none) :=
    object_rearranged (by decide) (.swapped item_rearranged (.mk _ text_rearranged)) .none
  refine ⟨⟨by decide, .swapped (.mk _ ?_) (.mk _ ?_)⟩,
    ⟨⟨by decide, .swapped (.mk _ horder) (.mk _ text_rearranged)⟩, ⟨.nil, .nil⟩, ⟨.nil, .nil⟩,
      ⟨.nil, .nil⟩, ⟨.nil, .nil⟩⟩⟩
  · exact pathItem_rearranged (.some operation_rearranged)
  · exact pathItem_rearranged .none

theorem sorted_pairs {α : Type} (a b : α) :
    sortedByKey [("Order", a), ("Note", b)] = [("Note", b), ("Order", a)] ∧
      sortedByKey [("/orders", a), ("/items", b)] = [("/items", b), ("/orders", a)] := by
  constructor <;> cbv

theorem compile_document : (document.compile false).1.isOk = true := by
  have hschemas : sortedByKey document.schemas =
      [("Note", text), ("Order", object [item [unit, count], note] none)] := (sorted_pairs _ _).1
  have hpaths : sortedByKey document.pathItems =
      [("/items", pathItem none), ("/orders", pathItem (some (operation [found, missing])))] :=
    (sorted_pairs _ _).2
  simp only [Document.compile, Document.build, Document.compileModels, hschemas,
    Document.compileServices, Document.compileOperations, Document.groupedOperations,
    Document.declaredOperations, hpaths]
  cbv

/-- Both shops compile, to descriptions that say the same. -/
theorem shop_rearranged :
    document.Rearranged rearranged ∧ ∃ api api' notices,
      document.compile false = (.ok api, notices) ∧
        rearranged.compile false = (.ok api', notices) ∧ api.Alike api' := by
  refine ⟨document_rearranged, ?_⟩
  obtain ⟨hends, hnotices⟩ := Document.compile_rearranged document_rearranged false
  have hok := compile_document
  rcases hd : document.compile false with ⟨r, notices⟩
  rcases hr : rearranged.compile false with ⟨r', notices'⟩
  rw [hd] at hends hok hnotices
  rw [hr] at hends hnotices
  cases hends with
  | ok hab => exact ⟨_, _, notices, rfl, congrArg (Prod.mk _) hnotices.symm, hab⟩
  | error => cases hok

end Shop

/-! ## Levels -/

namespace Levels

open Schema (Keywords Children)

/-- An enumeration whose value is a mapping. -/
def level (entries : List (Value.Scalar × Value)) : Schema :=
  .inline { Keywords.blank with enum := some [.map entries] } .blank

def document (entries : List (Value.Scalar × Value)) : Document :=
  { openapi := "3.0.0"
    info := ⟨"Levels", "1", none, [], []⟩
    paths := some []
    components := some { Document.Components.empty with schemas := some [("Level", level entries)] }
    tags := none
    extra := []
    nulls := [] }

/-- A number and a text, which have no order, are keys of the same mapping. -/
def one : Value.Scalar × Value := (.int 1, .scalar (.text "low"))

def high : Value.Scalar × Value := (.text "high", .scalar (.int 2))

theorem compile_document :
    (document [one, high]).compile false = (.error (.breakdown (.unordered "str" "int")), []) ∧
      (document [high, one]).compile false =
        (.error (.breakdown (.unordered "int" "str")), []) := by
  constructor <;> cbv

theorem document_rearranged : (document [one, high]).Rearranged (document [high, one]) := by
  have hvalue : (Value.map [one, high]).Rearranged (.map [high, one]) :=
    .map (List.pairwise_pair.mpr rfl) (.swapped (.mk _ (.scalar _)) (.mk _ (.scalar _)))
  have hlevel : (level [one, high]).Rearranged (level [high, one]) :=
    .inline ⟨rfl, rfl, rfl, rfl, rfl, .some (.cons hvalue .nil), .none, .none, rfl, .none, .none,
      .none, rfl, rfl, rfl, .refl _⟩ .none .none .none .none .none List.nodup_nil .none .absent
  exact ⟨⟨.nil, .nil⟩, ⟨⟨List.nodup_singleton _, .singleton (.mk _ hlevel)⟩,
    ⟨.nil, .nil⟩, ⟨.nil, .nil⟩, ⟨.nil, .nil⟩, ⟨.nil, .nil⟩⟩⟩

/-- The error about unordered keys names them in the order in which they are compared, so it is not
the same for every order of the keys. -/
theorem levels_differ :
    ¬ ∀ (d e : Document) (strict : Bool), d.Rearranged e →
      EndsAlike Eq Api.Alike (d.compile strict).1 (e.compile strict).1 ∧
        (d.compile strict).2 = (e.compile strict).2 := by
  intro h
  obtain ⟨hends, -⟩ := h _ _ false document_rearranged
  rw [compile_document.1, compile_document.2] at hends
  cases hends with
  | error he => exact absurd he (by decide)

end Levels
end ApiCompiler
