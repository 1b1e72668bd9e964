import ApiCompiler.Number.Double

/-!
# JSON values

A JSON value with its members in the order in which they were written.  Integers and doubles are
kept apart, since `1` and `1.0` are written differently, and integers have no bound.
-/

namespace ApiCompiler

/-- A JSON value. -/
inductive Json where
  | null
  | bool (value : Bool)
  | int (value : Int)
  | float (value : Double)
  | str (value : String)
  | arr (items : List Json)
  | obj (members : List (String × Json))

/-! ## Members -/

/-- The value under a key. -/
def lookup? {κ α : Type} [DecidableEq κ] (key : κ) : List (κ × α) → Option α
  | [] => none
  | (k, v) :: rest => if k = key then some v else lookup? key rest

/-- Puts a value under a key: a key that is there keeps its place and takes the new value. -/
def put {κ α : Type} [DecidableEq κ] (key : κ) (value : α) : List (κ × α) → List (κ × α)
  | [] => [(key, value)]
  | (k, v) :: rest => if k = key then (k, value) :: rest else (k, v) :: put key value rest

/-- The entries in order, each key at its first place with its last value. -/
def lastWins {κ α : Type} [DecidableEq κ] (entries : List (κ × α)) : List (κ × α) :=
  entries.foldl (fun acc e => put e.1 e.2 acc) []

/-- Entries sorted by key; entries of one key keep their order. -/
def sortedByKey {α : Type} (entries : List (String × α)) : List (String × α) :=
  entries.mergeSort fun a b => a.1 ≤ b.1

namespace Json

/-- The value under a key of an object. -/
def get? (key : String) : Json → Option Json
  | .obj members => lookup? key members
  | _ => none

/-- Text or null. -/
def ofText? : Option String → Json
  | some s => .str s
  | none => .null

/-- An array of texts. -/
def texts (xs : List String) : Json := .arr (xs.map .str)

end Json
end ApiCompiler
