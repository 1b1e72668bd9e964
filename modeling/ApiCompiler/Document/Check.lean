import ApiCompiler.Value

/-!
# Checking values

Checking a value gives the typed form of it, or every issue that it has.  `Checked` is an
applicative that collects the issues of all parts, in order, instead of stopping at the first.
An issue names its place as a path of keys, and what is wrong there.
-/

namespace ApiCompiler

/-- What is wrong at a place. -/
inductive Flaw where
  | missing
  | extra
  | notText
  | keyNotText
  | notBoolean
  | unclearBoolean
  | notList
  | notMapping
  | notModel (name : String)
  | notVersion
  | notOneOf (words : List String)
  | notSeries
  | notKinded
  | noKind
  | unknownKind (name : String) (known : List String)
  | tooDeep
  | duplicateClient (name : String)

/-- Words with commas between them, and a final "or". -/
def alternatives : List String → String
  | [] => ""
  | [w] => w
  | [v, w] => v ++ " or " ++ w
  | w :: ws => w ++ ", " ++ alternatives ws

/-- The wording of a flaw. -/
def Flaw.message : Flaw → String
  | .missing => "Field required"
  | .extra => "Extra inputs are not permitted"
  | .notText => "Input should be a valid string"
  | .keyNotText => "Keys should be strings"
  | .notBoolean => "Input should be a valid boolean"
  | .unclearBoolean => "Input should be a valid boolean, unable to interpret input"
  | .notList => "Input should be a valid list"
  | .notMapping => "Input should be a valid dictionary"
  | .notModel name => "Input should be a valid dictionary or instance of " ++ name
  | .notVersion => "String should match pattern '^3\\.\\d+\\.\\d+(-.+)?$'"
  | .notOneOf words => "Input should be " ++ alternatives (words.map fun w => s!"'{w}'")
  | .notSeries => "Input should be a valid tuple"
  | .notKinded => "Input should be a valid dictionary or object to extract fields from"
  | .noKind => "Unable to extract tag using discriminator 'kind'"
  | .unknownKind name known =>
    s!"Input tag '{name}' found using 'kind' does not match any of the expected tags: " ++
      ", ".intercalate (known.map fun w => s!"'{w}'")
  | .tooDeep => "Recursion error - maximum validation depth exceeded"
  | .duplicateClient name => "Value error, Duplicate client name " ++ Text.quoted name

/-- A flaw and its place. -/
structure Issue where
  path : List String
  flaw : Flaw

/-- An issue as one line: its place, keys joined by points, and its wording. -/
def Issue.message (i : Issue) : String := ".".intercalate i.path ++ ": " ++ i.flaw.message

/-- The typed form of a value, or its issues. -/
inductive Checked (α : Type) where
  | ok (value : α)
  | faulty (issues : List Issue)

namespace Checked

instance : Functor Checked where
  map f
    | .ok a => .ok (f a)
    | .faulty issues => .faulty issues

instance : Applicative Checked where
  pure := .ok
  seq f x :=
    match f, x () with
    | .ok f, .ok a => .ok (f a)
    | .ok _, .faulty issues => .faulty issues
    | .faulty issues, .ok _ => .faulty issues
    | .faulty issues, .faulty more => .faulty (issues ++ more)

/-- One issue, at this place. -/
def fail {α : Type} (flaw : Flaw) : Checked α := .faulty [⟨[], flaw⟩]

/-- The same under a key: the issues are one level further down. -/
def under {α : Type} (key : String) : Checked α → Checked α
  | .ok a => .ok a
  | .faulty issues => .faulty (issues.map fun i => ⟨key :: i.path, i.flaw⟩)

/-- Checks all items and collects their issues. -/
def all {α β : Type} (check : α → Checked β) : List α → Checked (List β)
  | [] => .ok []
  | x :: xs => List.cons <$> check x <*> all check xs

/-- The value or the issues. -/
def toExcept {α : Type} : Checked α → Except (List Issue) α
  | .ok a => .ok a
  | .faulty issues => .error issues

end Checked

namespace Check

/-! ## Single values -/

/-- A text. -/
def text : Value → Checked String
  | .scalar (.text s) => .ok s
  | _ => .fail .notText

/-- A text, for which a number may stand as well. -/
def label : Value → Checked String
  | .scalar (.text s) => .ok s
  | .scalar (.int n) => .ok (Value.Scalar.int n).shown
  | .scalar (.float x) => .ok (Value.Scalar.float x).shown
  | _ => .fail .notText

/-- The words for true and false. -/
def booleanWord? (s : String) : Option Bool :=
  let word := s.map Char.toLower
  if ["1", "on", "t", "true", "y", "yes"].contains word then some true
  else if ["0", "off", "f", "false", "n", "no"].contains word then some false
  else none

/-- The bound of the numbers that may be meant as true or false. -/
def booleanBound : Int := Int.pow 2 63

/-- The numbers for true and false. -/
def booleanNumber (n : Int) : Checked Bool :=
  if n = 1 then .ok true else if n = 0 then .ok false else .fail .unclearBoolean

/-- A boolean, or a word or number for one. -/
def boolean : Value → Checked Bool
  | .scalar (.bool b) => .ok b
  | .scalar (.int n) =>
    if -booleanBound ≤ n && n < booleanBound then booleanNumber n else .fail .notBoolean
  | .scalar (.float x) =>
    match x.toInt? with
    | some n =>
      if -booleanBound < n && n < booleanBound then booleanNumber n else .fail .notBoolean
    | none => .fail .notBoolean
  | .scalar (.text s) =>
    match booleanWord? s with
    | some b => .ok b
    | none => .fail .unclearBoolean
  | _ => .fail .notBoolean

/-- Any value. -/
def any (v : Value) : Checked Value := .ok v

/-! ## Lists and mappings -/

/-- Checks the items of a list; `position` is that of the first one. -/
def items {α : Type} (check : Value → Checked α) : Nat → List Value → Checked (List α)
  | _, [] => .ok []
  | position, x :: xs =>
    List.cons <$> (check x).under (toString position) <*> items check (position + 1) xs

/-- A list. -/
def list {α : Type} (check : Value → Checked α) : Value → Checked (List α)
  | .seq xs => items check 0 xs
  | _ => .fail .notList

/-- A key as a part of a place. -/
def keyPart : Value.Scalar → String
  | .text s => s
  | s => s.shownInside

/-- A key that has to be a text. -/
def key : Value.Scalar → Checked String
  | .text s => .ok s
  | s => (Checked.fail .notText).under "[key]" |>.under s.shownInside

/-- The entries of a mapping from texts. -/
def entries {α : Type} (check : Value → Checked α) :
    List (Value.Scalar × Value) → Checked (List (String × α))
  | [] => .ok []
  | (k, v) :: rest =>
    (fun k v rest => (k, v) :: rest) <$> key k <*> (check v).under (keyPart k) <*>
      entries check rest

/-- A mapping from texts. -/
def mapping {α : Type} (check : Value → Checked α) : Value → Checked (List (String × α))
  | .map es => entries check es
  | _ => .fail .notMapping

/-! ## Models -/

/-- The entries of a value that has to be a mapping with known keys; `name` is that of the
model. -/
def model {α : Type} (name : String) (read : List (Value.Scalar × Value) → Checked α) :
    Value → Checked α
  | .map es => read es
  | _ => .fail (.notModel name)

/-- An optional field; a null is as good as a missing one. -/
def optional {α : Type} (es : List (Value.Scalar × Value)) (key : String)
    (check : Value → Checked α) : Checked (Option α) :=
  match Value.entry? key es with
  | none => .ok none
  | some (.scalar .null) => .ok none
  | some v => (some <$> check v).under key

/-- A field that may be missing, but not null. -/
def present {α : Type} (es : List (Value.Scalar × Value)) (key : String)
    (check : Value → Checked α) : Checked (Option α) :=
  match Value.entry? key es with
  | none => .ok none
  | some v => (some <$> check v).under key

/-- A required field. -/
def required {α : Type} (es : List (Value.Scalar × Value)) (key : String)
    (check : Value → Checked α) : Checked α :=
  match Value.entry? key es with
  | none => (Checked.fail .missing).under key
  | some v => (check v).under key

/-- The entries with keys that are not known. -/
def extras (known : List String) : List (Value.Scalar × Value) → Checked (List (String × Value))
  | [] => .ok []
  | (.text k, v) :: rest =>
    if known.contains k then extras known rest
    else ((k, v) :: ·) <$> extras known rest
  | (k, _) :: rest =>
    (fun _ rest => rest) <$> (Checked.fail .keyNotText : Checked Unit).under (keyPart k) <*>
      extras known rest

/-- The keys that are written as null. -/
def nullKeys (known : List String) (es : List (Value.Scalar × Value)) : List String :=
  known.filter fun k =>
    match Value.entry? k es with
    | some (.scalar .null) => true
    | _ => false

end Check
end ApiCompiler
