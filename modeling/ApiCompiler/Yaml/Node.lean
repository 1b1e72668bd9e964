import ApiCompiler.Yaml.Plain
import ApiCompiler.Yaml.Token

/-!
# Nodes

The tokens of a text make up one tree of nodes: scalars, sequences and mappings, each with its tag.
Aliases are replaced by the nodes that they stand for.

A node reader takes the tokens from its node on and gives the node with the tokens after it.  The
readers call each other with a bound on their number, which the number of tokens supplies, and
another one on the nesting of collections, which belongs to the rules.
-/

namespace ApiCompiler
namespace Yaml

/-- A node of a document. -/
inductive Node where
  | scalar (tag : Tag) (text : List Char)
  | seq (tag : Tag) (items : List Node)
  | map (tag : Tag) (entries : List (Node × Node))

namespace Node

/-- The node that stands where nothing is written. -/
def nothing : Node := .scalar .null []

/-- The tag of a node. -/
def tag : Node → Tag
  | .scalar t _ => t
  | .seq t _ => t
  | .map t _ => t

/-! ## Reading -/

/-- The tokens that are still to be read, and the nodes that have names. -/
structure Place where
  tokens : List Token
  names : List (String × Node)

/-- The meanings of handles in front of tags. -/
abbrev Handles := List (String × String)

/-- The handles that need no directive. -/
def commonHandles : Handles := [("!", "!"), ("!!", Tag.common)]

/-- The name and the tag in front of a node. -/
structure Properties where
  anchor : Option String
  tag : Option String

/-- The full name of a tag. -/
def tagName (handles : Handles) (handle : Option String) (name : String) : Except ReadFault String :=
  match handle with
  | none => .ok name
  | some h =>
    match handles.find? (·.1 = h) with
    | some e => .ok (e.2 ++ name)
    | none => .error .malformed

/-- The properties in front of a node, an anchor and a tag in either order. -/
def properties (handles : Handles) (ts : List Token) : Except ReadFault (Properties × List Token) :=
  match ts with
  | .anchor a :: .tag h n :: rest => (tagName handles h n).map fun t => (⟨some a, some t⟩, rest)
  | .tag h n :: .anchor a :: rest => (tagName handles h n).map fun t => (⟨some a, some t⟩, rest)
  | .anchor a :: rest => .ok (⟨some a, none⟩, rest)
  | .tag h n :: rest => (tagName handles h n).map fun t => (⟨none, some t⟩, rest)
  | rest => .ok (⟨none, none⟩, rest)

/-- Whether the tag of a node is to be found from what it is. -/
def Properties.isOpen (p : Properties) : Bool := p.tag.all (· = "!")

/-- The tag of a node; `found` is the one that it has if none is written. -/
def Properties.tagOr (p : Properties) (found : Tag) : Tag :=
  if p.isOpen then found else Tag.ofName (p.tag.getD "")

/-- The tag of a scalar. -/
def Properties.ofScalar (p : Properties) (text : List Char) (plain : Bool) : Tag :=
  p.tagOr (if plain || p.tag.isSome then Tag.ofPlain text else .text)

/-- Gives a node its name, which no other node may have. -/
def named (p : Properties) (r : Node × Place) : Except ReadFault (Node × Place) :=
  match p.anchor with
  | none => .ok r
  | some a =>
    if r.2.names.any (·.1 = a) then .error .malformed
    else .ok (r.1, { r.2 with names := (a, r.1) :: r.2.names })

/-- The depth to which collections are nested at most. -/
def depthLimit : Nat := 480

/-- The fault of what is nested too deeply. -/
def tooDeep : ReadFault := .breakdown (.tooDeep " while calling a Python object")

/-- Whether nothing is written before the next token of a collection of lines. -/
def endsEntry : List Token → Bool
  | .key :: _ => true
  | .value :: _ => true
  | .blockEnd :: _ => true
  | _ => false

/-- Whether nothing is written before the next token of a sequence of lines. -/
def endsItem : List Token → Bool
  | .item :: _ => true
  | .blockEnd :: _ => true
  | _ => false

/-- Whether nothing is written before the next token between brackets. -/
def endsFlow (last : Token → Bool) : List Token → Bool
  | .comma :: _ => true
  | t :: _ => last t
  | [] => false

/-- Whether a token ends a sequence between brackets. -/
def isSequenceEnd : Token → Bool
  | .flowSequenceEnd => true
  | _ => false

/-- Whether a token ends a mapping between brackets. -/
def isMappingEnd : Token → Bool
  | .flowMappingEnd => true
  | _ => false

/-- The place after a comma, which has to stand before every item but the first. -/
def afterComma (first : Bool) (p : Place) : Except ReadFault Place :=
  if first then .ok p
  else match p.tokens with
    | .comma :: rest => .ok { p with tokens := rest }
    | ts => .error (refusedAt ts)

mutual

/-- A node; `block` allows collections of lines, and `loose` a sequence of lines that starts at the
column of the mapping around it. -/
def read (handles : Handles) (block loose : Bool) (room : Nat) :
    Nat → Place → Except ReadFault (Node × Place)
  | 0, p => .error (refusedAt p.tokens)
  | fuel + 1, p =>
    match p.tokens with
    | .alias a :: rest =>
      match p.names.find? (·.1 = a) with
      | some e => .ok (e.2, { p with tokens := rest })
      | none => .error .malformed
    | ts => do
      let (props, ts) ← properties handles ts
      if props.anchor.any fun a => p.names.any (·.1 = a) then .error (refusedAt ts)
      let p := { p with tokens := ts }
      if room = 0 then .error tooDeep
      match ts with
      | .scalar text plain :: rest =>
        named props (.scalar (props.ofScalar text plain) text, { p with tokens := rest })
      | .flowSequence :: rest => do
        let (items, p) ← readFlowItems handles (room - 1) true fuel { p with tokens := rest }
        named props (.seq (props.tagOr .seq) items, p)
      | .flowMapping :: rest => do
        let (entries, p) ← readFlowEntries handles (room - 1) true fuel { p with tokens := rest }
        named props (.map (props.tagOr .map) entries, p)
      | t :: rest =>
        match block, loose, t with
        | _, true, .item => do
          let (items, p) ← readLooseItems handles (room - 1) fuel p
          named props (.seq (props.tagOr .seq) items, p)
        | true, _, .blockSequence => do
          let (items, p) ← readItems handles (room - 1) fuel { p with tokens := rest }
          named props (.seq (props.tagOr .seq) items, p)
        | true, _, .blockMapping => do
          let (entries, p) ← readEntries handles (room - 1) fuel { p with tokens := rest }
          named props (.map (props.tagOr .map) entries, p)
        | _, _, _ =>
          if props.anchor.isSome || props.tag.isSome then
            named props (.scalar (props.tagOr .null) [], p)
          else .error t.refused
      | [] => .error .malformed
termination_by structural fuel => fuel

/-- The items of a sequence of lines up to its end. -/
def readItems (handles : Handles) (room : Nat) : Nat → Place → Except ReadFault (List Node × Place)
  | 0, p => .error (refusedAt p.tokens)
  | fuel + 1, p =>
    match p.tokens with
    | .item :: rest => do
      let p := { p with tokens := rest }
      let (first, p) ← if endsItem rest then pure (nothing, p)
        else read handles true false room fuel p
      let (items, p) ← readItems handles room fuel p
      pure (first :: items, p)
    | .blockEnd :: rest => .ok ([], { p with tokens := rest })
    | ts => .error (refusedAt ts)
termination_by structural fuel => fuel

/-- The items of a sequence of lines at the column of the mapping around it. -/
def readLooseItems (handles : Handles) (room : Nat) :
    Nat → Place → Except ReadFault (List Node × Place)
  | 0, p => .error (refusedAt p.tokens)
  | fuel + 1, p =>
    match p.tokens with
    | .item :: rest => do
      let p := { p with tokens := rest }
      let (first, p) ← if endsItem rest || endsEntry rest then pure (nothing, p)
        else read handles true false room fuel p
      let (items, p) ← readLooseItems handles room fuel p
      pure (first :: items, p)
    | _ => .ok ([], p)
termination_by structural fuel => fuel

/-- The entries of a mapping of lines up to its end. -/
def readEntries (handles : Handles) (room : Nat) :
    Nat → Place → Except ReadFault (List (Node × Node) × Place)
  | 0, p => .error (refusedAt p.tokens)
  | fuel + 1, p =>
    match p.tokens with
    | .key :: rest => do
      let p := { p with tokens := rest }
      let (key, p) ← if endsEntry rest then pure (nothing, p)
        else read handles true true room fuel p
      let (value, p) ← match p.tokens with
        | .value :: rest =>
          let p := { p with tokens := rest }
          if endsEntry rest then pure (nothing, p) else read handles true true room fuel p
        | _ => pure (nothing, p)
      let (entries, p) ← readEntries handles room fuel p
      pure ((key, value) :: entries, p)
    | .blockEnd :: rest => .ok ([], { p with tokens := rest })
    | ts => .error (refusedAt ts)
termination_by structural fuel => fuel

/-- A key and its value between brackets, the token of the key taken; `last` is the bracket that
may end them. -/
def readFlowEntry (handles : Handles) (room : Nat) (last : Token → Bool) :
    Nat → Place → Except ReadFault ((Node × Node) × Place)
  | 0, p => .error (refusedAt p.tokens)
  | fuel + 1, p => do
    let empty (ts : List Token) : Bool := endsFlow last ts
    let startsValue : Bool := match p.tokens with
      | .value :: _ => true
      | _ => false
    let (key, p) ← if startsValue || empty p.tokens then pure (nothing, p)
      else read handles false false room fuel p
    match p.tokens with
    | .value :: rest => do
      let p := { p with tokens := rest }
      let (value, p) ← if empty rest then pure (nothing, p)
        else read handles false false room fuel p
      pure ((key, value), p)
    | _ => pure ((key, nothing), p)
termination_by structural fuel => fuel

/-- The items of a sequence between brackets up to its end.  A pair among them is a mapping of one
entry. -/
def readFlowItems (handles : Handles) (room : Nat) (first : Bool) :
    Nat → Place → Except ReadFault (List Node × Place)
  | 0, p => .error (refusedAt p.tokens)
  | fuel + 1, p =>
    match p.tokens with
    | .flowSequenceEnd :: rest => .ok ([], { p with tokens := rest })
    | _ => do
      let p ← afterComma first p
      match p.tokens with
      | .flowSequenceEnd :: rest => pure ([], { p with tokens := rest })
      | .key :: rest => do
        let (entry, p) ← readFlowEntry handles (room - 1) isSequenceEnd fuel
          { p with tokens := rest }
        let (items, p) ← readFlowItems handles room false fuel p
        pure (.map .map [entry] :: items, p)
      | _ => do
        let (item, p) ← read handles false false room fuel p
        let (items, p) ← readFlowItems handles room false fuel p
        pure (item :: items, p)
termination_by structural fuel => fuel

/-- The entries of a mapping between brackets up to its end.  A node alone is a key without a
value. -/
def readFlowEntries (handles : Handles) (room : Nat) (first : Bool) :
    Nat → Place → Except ReadFault (List (Node × Node) × Place)
  | 0, p => .error (refusedAt p.tokens)
  | fuel + 1, p =>
    match p.tokens with
    | .flowMappingEnd :: rest => .ok ([], { p with tokens := rest })
    | _ => do
      let p ← afterComma first p
      match p.tokens with
      | .flowMappingEnd :: rest => pure ([], { p with tokens := rest })
      | .key :: rest => do
        let (entry, p) ← readFlowEntry handles room isMappingEnd fuel { p with tokens := rest }
        let (entries, p) ← readFlowEntries handles room false fuel p
        pure (entry :: entries, p)
      | _ => do
        let (key, p) ← read handles false false room fuel p
        let (entries, p) ← readFlowEntries handles room false fuel p
        pure ((key, nothing) :: entries, p)
termination_by structural fuel => fuel

end

/-! ## Documents -/

/-- The directives at the start of a document: the handles that they declare. -/
def directives (handles : Handles) (versioned : Bool) : List Token →
    Except ReadFault (Handles × List Token)
  | .version major :: rest =>
    if versioned || major ≠ 1 then .error .malformed else directives handles true rest
  | .handle name meaning :: rest =>
    if handles.any (·.1 = name) then .error .malformed
    else directives ((name, meaning) :: handles) versioned rest
  | .remark :: rest => directives handles versioned rest
  | rest => .ok (handles ++ commonHandles, rest)

/-- Whether a token belongs between documents. -/
def isBetween : Token → Bool
  | .version _ => true
  | .handle _ _ => true
  | .remark => true
  | .documentStart => true
  | .documentEnd => true
  | .finish => true
  | _ => false

/-- A whole node of a document. -/
def content (handles : Handles) (ts : List Token) : Except ReadFault (Node × List Token) :=
  (read handles true false depthLimit (4 * ts.length + 4) ⟨ts, []⟩).map fun r =>
    (r.1, r.2.tokens)

/-- The only document of a list of tokens, if there is one, and the tokens after it. -/
def document (ts : List Token) : Except ReadFault (Option Node × List Token) :=
  match ts with
  | .finish :: _ => .ok (none, ts)
  | .documentEnd :: _ => .error .malformed
  | t :: _ =>
    if isBetween t then do
      let (handles, rest) ← directives [] false ts
      match rest with
      | .documentStart :: rest =>
        if rest.head?.any isBetween then pure (some nothing, rest)
        else (content handles rest).map fun r => (some r.1, r.2)
      | rest => .error (refusedAt rest)
    else (content commonHandles ts).map fun r => (some r.1, r.2)
  | [] => .error .malformed

/-- Whether nothing follows but marks of the end. -/
def checkOver : List Token → Except ReadFault Unit
  | .documentEnd :: rest => checkOver rest
  | [.finish] => .ok ()
  | ts => .error (refusedAt ts)

/-- The node that tokens make up, if they are of a document. -/
def ofTokens (ts : List Token) : Except ReadFault (Option Node) := do
  let (node, rest) ← document ts
  checkOver rest
  pure node

end Node
end Yaml
end ApiCompiler
