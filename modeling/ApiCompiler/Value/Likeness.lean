import ApiCompiler.Value.Calendar

/-!
# Likeness of values

`Value.like` is the equality by which enumerated values, defaults and examples are compared:
numbers by their value, whatever their spelling, `true` and `false` as one and zero, moments by
where they stand in time, and mappings as maps.  Two keys that are like are one key.
-/

namespace ApiCompiler
namespace Value

/-- The number that a scalar counts as: booleans are one and zero. -/
inductive Number where
  | int (value : Int)
  | float (value : Double)

/-- The number of a scalar, if it has one. -/
def Scalar.number? : Scalar → Option Number
  | .bool b => some (.int (if b then 1 else 0))
  | .int n => some (.int n)
  | .float x => some (.float x)
  | _ => none

/-- Equality of numbers by value. -/
def Number.same : Number → Number → Bool
  | .int m, .int n => m = n
  | .int m, .float x => x.isInt m
  | .float x, .int m => x.isInt m
  | .float x, .float y => x.sameNumber y

/-- Equality of scalars that are no numbers. -/
def Scalar.same : Scalar → Scalar → Bool
  | .moment m, .moment n => m.same n
  | a, b => a = b

/-- Equality of scalars. -/
def Scalar.like (a b : Scalar) : Bool :=
  match a.number?, b.number? with
  | some m, some n => m.same n
  | none, none => a.same b
  | _, _ => false

/-- The value under a key that is like the given one. -/
def likeEntry? {α : Type} (key : Scalar) : List (Scalar × α) → Option α
  | [] => none
  | (k, v) :: rest => if k.like key then some v else likeEntry? key rest

/-- Puts a value under a key: a key that is there keeps its spelling and its place. -/
def putLike {α : Type} (key : Scalar) (value : α) : List (Scalar × α) → List (Scalar × α)
  | [] => [(key, value)]
  | (k, v) :: rest => if k.like key then (k, value) :: rest else (k, v) :: putLike key value rest

mutual

/-- Equality of values: numbers by value, mappings as maps. -/
def like : Value → Value → Bool
  | .scalar a, .scalar b => a.like b
  | .seq xs, .seq ys => likeItems xs ys
  | .map es, .map fs => es.length = fs.length && likeEntries es fs
  | _, _ => false

/-- Equality of lists, item by item. -/
def likeItems : List Value → List Value → Bool
  | [], [] => true
  | x :: xs, y :: ys => like x y && likeItems xs ys
  | _, _ => false

/-- Whether every entry of the first list is in the second with a like value. -/
def likeEntries : List (Scalar × Value) → List (Scalar × Value) → Bool
  | [], _ => true
  | (k, v) :: rest, fs =>
    (match likeEntry? k fs with
     | some w => like v w
     | none => false) && likeEntries rest fs

end

end Value
end ApiCompiler
