import ApiCompiler.Proofs.Build.Returning
import ApiCompiler.Proofs.Schema.Declarations

/-!
# Compiling schemas, case by case

The recursion that compiles a schema runs through lists of members, pending fields and the parts
of an object whose name is still open.  This file states what it comes to, one case for each form
of a schema, in terms that need no recursion of their own.

`compile_inline` is the case distinction.  `objectFrom_eq` is the one step in it that takes an
argument: the program compiles the fields an object declares, decides by their compiled names
which further fields are taken over, and sorts the result.  Since compiling a field keeps its
name, the fields that are taken over are known beforehand, and `compileMembers` compiles them in
one go.
-/

namespace ApiCompiler
namespace Schema

/-! ## Lists of schemas -/

theorem compileAll_eq (ss : List Schema) (owner property : String) (isItem : Bool) :
    compileAll ss owner property isItem =
      Build.forEach (fun s => compile s owner property isItem) ss := by
  induction ss with
  | nil => rw [compileAll, Build.forEach]
  | cons s ss ih => rw [compileAll, Build.forEach, ih]

theorem pendingFields_eq (ps : List (String × Schema)) :
    pendingFields ps =
      ps.map fun e => (e.1, ⟨e.2.annotations, fun owner => compile e.2 owner e.1 false⟩) := by
  induction ps with
  | nil => rw [pendingFields, List.map_nil]
  | cons e ps ih => rw [pendingFields, ih, List.map_cons]

/-- What an object does with the properties it does not declare. -/
def Further.rest : Further → Rest
  | .closed => .closed
  | .merged required ps => .merged required (pendingFields ps)
  | .described s => .shaped fun owner => compileOptional s owner "Properties" false

/-- Where a schema stands for further properties, it is merged or it is compiled. -/
theorem further_schema_rest (s : Schema) :
    (further (.schema s)).rest =
      match s.mergedFields with
      | some (required, fields) => .merged required fields
      | none => .shaped fun owner => compile s owner "Properties" false := by
  rcases s with r | ⟨k, ⟨oneOf, anyOf, allOf, negated, items, _ | ps, additional⟩⟩
  · rfl
  · rfl
  · unfold Schema.mergedFields
    simp only [further]
    split <;> rfl

theorem compile_reference (ref : Reference) (owner property : String) (isItem : Bool) :
    compile (.reference ref) owner property isItem = compileReference ref := by
  rw [compile]

theorem compile_inline (k : Keywords) (c : Children Schema) (owner property : String)
    (isItem : Bool) :
    compile (.inline k c) owner property isItem =
      match k.form c with
      | .composition how ms => do
        let shapes ← Build.forEach (fun s => compile s owner property isItem) ms
        pure (.composition k.compositionTraits how shapes)
      | .negation s => do
        let shape ← compile s owner property isItem
        pure (.negation k.compositionTraits shape)
      | .literals => compileEnum k (annotations (.inline k c)) owner property isItem
      | .object =>
        compileObject k (annotations (.inline k c)) (pendingFields (c.properties.getD []))
          (further c.additional).rest owner property isItem
      | .array => do
        let shape ← compileOptional c.items owner property true
        pure (.array k.traits shape)
      | .scalar kind => pure (.scalar k.traits kind)
      | .untyped => compileUntyped k owner property isItem := by
  obtain ⟨oneOf, anyOf, allOf, negated, items, properties, additional⟩ := c
  rw [compile.eq_def]
  simp only [compileAll_eq]
  split
  · simp only [Keywords.form, Build.forEach, bind_assoc, pure_bind]
  · rename_i s ss hone
    have hform : k.form ⟨oneOf, some (s :: ss), allOf, negated, items, properties, additional⟩ =
        .composition .anyOf (s :: ss) := by
      unfold Keywords.form
      split <;> simp_all
    simp only [hform, Build.forEach, bind_assoc, pure_bind]
  · rename_i s ss hone hany
    have hform : k.form ⟨oneOf, anyOf, some (s :: ss), negated, items, properties, additional⟩ =
        .composition .allOf (s :: ss) := by
      unfold Keywords.form
      split <;> simp_all
    simp only [hform, Build.forEach, bind_assoc, pure_bind]
  · rename_i s hone hany hall
    have hform : k.form ⟨oneOf, anyOf, allOf, some s, items, properties, additional⟩ =
        .negation s := by
      unfold Keywords.form
      split <;> simp_all
    simp only [hform]
  · have hform : k.form ⟨oneOf, anyOf, allOf, negated, items, properties, additional⟩ =
        k.plainForm ⟨oneOf, anyOf, allOf, negated, items, properties, additional⟩ := by
      unfold Keywords.form
      split <;> simp_all
    rw [hform, Keywords.plainForm]
    clear hform
    split
    · rfl
    · -- the type is read off after it is known what stands for further properties
      rcases additional with _ | (_ | _) | s
      all_goals
        simp only [Children.speaksOfProperties, further_schema_rest]
        generalize k.mainType _ = main
        rcases main with _ | _ | _ | _ | _ | _ | _ | _
        case some.array => cases items <;> rfl
        case some.object => cases properties <;> rfl
        all_goals rfl

/-! ## Objects -/

/-- Compiles a field of an object whose name is known. -/
def compileField (owner : String) (f : Field Schema) : Build (Field Shape) := do
  let shape ← compile f.type owner f.name false
  pure ⟨f.name, shape, f.required, f.annotations⟩

/-- Compiles the schema of further properties, if any are allowed. -/
def compileRemaining (owner : String) : Option (Option Schema) → Build (Option Shape)
  | none => pure none
  | some s => do
    let shape ← compileOptional s owner "Properties" false
    pure (some shape)

/-- Compiles an object whose name is known: its fields, those it takes over last, and then what
stands for further properties. -/
def compileMembers (k : Keywords) (c : Children Schema) (owner : String) : Build Shape := do
  let fields ← Build.forEach (compileField owner) (k.declaredFields c)
  let extra ← compileRemaining owner c.remaining
  pure (.object k.traits (sortFields fields) extra)

theorem runFields_eq (required : List String) (owner : String) (ps : List (String × Schema)) :
    runFields required owner (pendingFields ps) =
      Build.forEach (compileField owner)
        (ps.map fun e => ⟨e.1, e.2, required.contains e.1, e.2.annotations⟩) := by
  induction ps with
  | nil => rw [pendingFields, runFields, List.map_nil, Build.forEach]
  | cons e ps ih =>
    rw [pendingFields, runFields, ih, List.map_cons, Build.forEach]
    simp only [compileField, bind_assoc, pure_bind]

theorem sortedByKey_pendingFields (ps : List (String × Schema)) :
    sortedByKey (pendingFields ps) = pendingFields (sortedByKey ps) := by
  rw [pendingFields_eq, pendingFields_eq]
  exact Sorting.sortedByKey_map ps _

theorem runFields_sorted (required : List String) (owner : String) (ps : List (String × Schema)) :
    runFields required owner (sortedByKey (pendingFields ps)) =
      Build.forEach (compileField owner) (fieldsOf required ps) := by
  rw [sortedByKey_pendingFields, runFields_eq, fieldsOf]

/-- Which fields are taken over is decided by their names, before or after they are compiled. -/
theorem runFields_filtered (required : List String) (owner : String)
    (ps : List (String × Schema)) (taken : List String) :
    runFields required owner
        ((sortedByKey (pendingFields ps)).filter fun e => !taken.contains e.1) =
      Build.forEach (compileField owner)
        ((fieldsOf required ps).filter fun f => !taken.contains f.name) := by
  have hfilter : (sortedByKey (pendingFields ps)).filter (fun e => !taken.contains e.1) =
      pendingFields ((sortedByKey ps).filter fun e => !taken.contains e.1) := by
    rw [sortedByKey_pendingFields, pendingFields_eq, pendingFields_eq, List.filter_map]
    rfl
  rw [hfilter, runFields_eq, fieldsOf, List.filter_map]
  rfl

/-- Compiled fields keep their names. -/
theorem names_of_forEach_compileField {owner : String} {fs : List (Field Schema)}
    {gs : List (Field Shape)} {s t : BuildState}
    (h : (Build.forEach (compileField owner) fs).Returns s gs t) :
    gs.map (·.name) = fs.map (·.name) := by
  rw [Build.forEach_returns] at h
  induction h with
  | nil => rfl
  | cons hfg _ ih =>
    rw [compileField, Build.bind_returns] at hfg
    obtain ⟨shape, u, -, hpure⟩ := hfg
    obtain ⟨rfl, -⟩ := Build.pure_returns.mp hpure
    rw [List.map_cons, List.map_cons, ih]

theorem sortFields_of_returns {owner : String} {k : Keywords} {c : Children Schema}
    {gs : List (Field Shape)} {s t : BuildState}
    (h : (Build.forEach (compileField owner) (k.ownFields c)).Returns s gs t) :
    sortFields gs = gs := by
  refine sortFields_eq_self ?_
  rw [names_of_forEach_compileField h]
  exact pairwise_fieldsOf _ _

/-- An object whose name is known is compiled member by member: the fields it takes over are known
before the first field is compiled, and sorting changes nothing where there are none. -/
theorem objectFrom_eq (k : Keywords) (c : Children Schema) (owner : String) :
    objectFrom k (pendingFields (c.properties.getD [])) (further c.additional).rest owner =
      compileMembers k c owner := by
  unfold objectFrom compileMembers Keywords.declaredFields Keywords.mergedFields
    Children.remaining
  rw [runFields_sorted, Build.forEach_append, bind_assoc]
  refine Build.bind_congr_of_returns fun s own t hown => ?_
  have hsort := sortFields_of_returns (k := k) (c := c) hown
  have hnames := names_of_forEach_compileField hown
  cases hfurther : further c.additional with
  | closed =>
    simp only [Further.rest, Build.forEach, compileRemaining, pure_bind, List.append_nil, hsort]
  | merged required ps =>
    simp only [Further.rest, compileRemaining, pure_bind, bind_assoc]
    rw [hnames, runFields_filtered]
    rfl
  | described s =>
    simp only [Further.rest, Build.forEach, compileRemaining, pure_bind, List.append_nil, hsort,
      bind_assoc]

/-! ## Enumerations -/

/-- The values of an enumeration without null. -/
def Keywords.values (k : Keywords) : List Value := k.literals.filter fun v => !isNull v

/-- The traits of an enumeration: null among its values makes it nullable. -/
def Keywords.literalTraits (k : Keywords) : Traits :=
  { k.traits with nullable := k.declaresNull || k.literals.any isNull }

/-- An enumeration lists its values; the only thing that can fail is writing one of them. -/
theorem enumeration_eq (k : Keywords) :
    enumeration k = (literalTexts k.values).map fun texts =>
      .enum k.literalTraits ⟨texts, k.values, baseKind k k.values⟩ := by
  show (literalTexts k.values >>= fun texts => pure _) = _
  cases literalTexts k.values <;> rfl

end Schema
end ApiCompiler
