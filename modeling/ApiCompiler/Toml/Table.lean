import ApiCompiler.Value

/-!
# Tables under construction

A TOML text names its tables by paths, so a table can be met before it is declared and again after
that.  While a text is read, every table remembers how it came about; that decides whether it may
be declared or extended once more.  A finished table is a mapping.
-/

namespace ApiCompiler
namespace Toml

/-- How a table came about. -/
inductive Origin where
  /-- It was met on the way to another table. -/
  | passed
  /-- It was declared. -/
  | declared
  /-- It was met on the way to a value, in the section of this number. -/
  | dotted (part : Nat)
  deriving DecidableEq

/-- A value, a table, or a list of tables. -/
inductive Node where
  | value (content : Value)
  | table (origin : Origin) (entries : List (String × Node))
  | tables (items : List (List (String × Node)))

/-- The entries of a table. -/
abbrev Entries := List (String × Node)

mutual

/-- A finished node. -/
def Node.toValue : Node → Value
  | .value content => content
  | .table _ es => .map (entriesToValue es)
  | .tables ts => .seq (tablesToValue ts)

/-- The finished entries of a table. -/
def entriesToValue : List (String × Node) → List (Value.Scalar × Value)
  | [] => []
  | (k, n) :: rest => (.text k, n.toValue) :: entriesToValue rest

/-- A finished list of tables. -/
def tablesToValue : List (List (String × Node)) → List Value
  | [] => []
  | t :: ts => .map (entriesToValue t) :: tablesToValue ts

end

/-- Changes the last item of a list. -/
def changeLast? {α : Type} (change : α → Option α) : List α → Option (List α)
  | [] => none
  | [a] => (change a).map fun b => [b]
  | a :: as => (changeLast? change as).map (a :: ·)

/-- Changes the entries of the table that a path leads to.  A table that is not there is made, and
of a list of tables the last one is meant. -/
def within (change : Entries → Option Entries) : List String → Entries → Option Entries
  | [], es => change es
  | key :: path, es =>
    match lookup? key es with
    | none => (within change path []).map fun inner => es ++ [(key, .table .passed inner)]
    | some (.table origin inner) =>
      (within change path inner).map fun inner => put key (.table origin inner) es
    | some (.tables items) =>
      (changeLast? (within change path) items).map fun items => put key (.tables items) es
    | some (.value _) => none

/-- Declares the table of a key, unless it was declared before. -/
def declare (key : String) (es : Entries) : Option Entries :=
  match lookup? key es with
  | none => some (es ++ [(key, .table .declared [])])
  | some (.table .passed inner) => some (put key (.table .declared inner) es)
  | some _ => none

/-- Adds a table to the list of a key. -/
def addTable (key : String) (es : Entries) : Option Entries :=
  match lookup? key es with
  | none => some (es ++ [(key, .tables [[]])])
  | some (.tables items) => some (put key (.tables (items ++ [[]])) es)
  | some _ => none

/-- Sets a value that a path of keys leads to; `part` is the number of the section. -/
def assign (part : Nat) (content : Value) : List String → Entries → Option Entries
  | [], _ => none
  | [key], es =>
    match lookup? key es with
    | none => some (es ++ [(key, .value content)])
    | some _ => none
  | key :: path, es =>
    match lookup? key es with
    | none =>
      (assign part content path []).map fun inner => es ++ [(key, .table (.dotted part) inner)]
    | some (.table origin inner) =>
      if origin = .passed || origin = .dotted part then
        (assign part content path inner).map fun inner => put key (.table (.dotted part) inner) es
      else none
    | some _ => none

end Toml
end ApiCompiler
