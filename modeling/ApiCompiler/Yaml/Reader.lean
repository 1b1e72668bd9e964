import ApiCompiler.Value.Likeness
import ApiCompiler.Yaml.Node
import ApiCompiler.Yaml.Tokens

/-!
# Reading YAML

A text is cut into tokens, the tokens make up a tree of nodes, and the tree stands for a value.
Keys are scalars, and of several entries with one key the last one counts.  A key that asks for it
puts the entries of its value in front of the others, so that these count.
-/

namespace ApiCompiler
namespace Yaml
namespace Node

/-! ## Mappings put into mappings -/

/-- The entries of some mappings, those of the last one first. -/
def entriesOf : List Node → Except ReadFault (List (Node × Node))
  | [] => .ok []
  | .map _ es :: rest => (entriesOf rest).map (· ++ es)
  | _ :: _ => .error .malformed

/-- The entries that a value adds to the mapping around it. -/
def added : Node → Except ReadFault (List (Node × Node))
  | .map _ es => .ok es
  | .seq _ items => entriesOf items
  | .scalar .. => .error .malformed

/-- The entries that are added to a mapping, and its own ones. -/
def split : List (Node × Node) → Except ReadFault (List (Node × Node) × List (Node × Node))
  | [] => .ok ([], [])
  | (k, v) :: rest => do
    let (front, own) ← split rest
    match k, k.tag with
    | _, .merge => pure ((← added v) ++ front, own)
    | .scalar _ text, .whole => pure (front, (.scalar .text text, v) :: own)
    | _, _ => pure (front, (k, v) :: own)

mutual

/-- A node with all mappings put where they belong. -/
def merged : Node → Except ReadFault Node
  | .scalar t s => .ok (.scalar t s)
  | .seq t items => (mergedItems items).map (.seq t)
  | .map t es => do
    let (front, own) ← split (← mergedEntries es)
    pure (.map t (front ++ own))

/-- The items of a sequence. -/
def mergedItems : List Node → Except ReadFault (List Node)
  | [] => .ok []
  | n :: rest => do
    let n ← merged n
    let rest ← mergedItems rest
    pure (n :: rest)

/-- The entries of a mapping. -/
def mergedEntries : List (Node × Node) → Except ReadFault (List (Node × Node))
  | [] => .ok []
  | (k, v) :: rest => do
    let k ← merged k
    let v ← merged v
    let rest ← mergedEntries rest
    pure ((k, v) :: rest)

end

/-! ## Values -/

/-- The scalar that a key is; no collection is a key. -/
def keyOf : Value → Except ReadFault Value.Scalar
  | .scalar s => .ok s
  | _ => .error .malformed

/-- The mapping of some entries, each key at its first place with its last value. -/
def mapping (entries : List (Value.Scalar × Value)) : Value :=
  .map (entries.foldl (fun acc e => Value.putLike e.1 e.2 acc) [])

/-- The keys of a mapping, which are the members of a set. -/
def members (entries : List (Value.Scalar × Value)) : Value :=
  .seq ((entries.foldl (fun acc e => Value.putLike e.1 e.2 acc) []).map fun e => .scalar e.1)

mutual

/-- The value that a node stands for. -/
def toValue : Node → Except ReadFault Value
  | .scalar tag text => (scalarOf tag text).map .scalar
  | .seq tag items =>
    match tag with
    | .seq => (toItems items).map .seq
    | .pairs => (toPairs items).map .seq
    | _ => .error .malformed
  | .map tag es =>
    match tag with
    | .map => (toEntries es).map mapping
    | .set => (toEntries es).map members
    | _ => .error .malformed

/-- The items of a sequence. -/
def toItems : List Node → Except ReadFault (List Value)
  | [] => .ok []
  | n :: rest => do
    let v ← toValue n
    let vs ← toItems rest
    pure (v :: vs)

/-- The pairs that mappings of one entry stand for. -/
def toPairs : List Node → Except ReadFault (List Value)
  | [] => .ok []
  | .map _ [(k, v)] :: rest => do
    let k ← toValue k
    let v ← toValue v
    let vs ← toPairs rest
    pure (.seq [k, v] :: vs)
  | _ :: _ => .error .malformed

/-- The entries of a mapping. -/
def toEntries : List (Node × Node) → Except ReadFault (List (Value.Scalar × Value))
  | [] => .ok []
  | (k, v) :: rest => do
    let k ← (toValue k).bind keyOf
    let v ← toValue v
    let rest ← toEntries rest
    pure ((k, v) :: rest)

end

end Node

/-- Reads a text as one value.  A text without a document stands for null. -/
def ofString (text : String) : Except ReadFault Value := do
  let cs := unifyBreaks text.toList
  if cs.all isAllowed then
    match ← Node.ofTokens (tokens cs) with
    | some node => (← node.merged).toValue
    | none => pure (.scalar .null)
  else .error .malformed

end Yaml
end ApiCompiler
