import ApiCompiler.Pattern.Syntax

/-!
# Searching with tag patterns

A pattern is tried at a place of the text; what is left to match is a continuation, so a choice
that leads nowhere is taken back by trying the next one.

A repetition stops after a turn that matched nothing: such a turn is kept, but no further one is
tried.  Hence every turn but the required ones and the last moves on, and the length of the text
bounds the number of turns.
-/

namespace ApiCompiler
namespace Pattern

/-- A place in a text, with the texts of the groups matched so far. -/
structure Cursor where
  /-- The characters before the place, the nearest first. -/
  before : List Char
  after : List Char
  groups : List (Nat × List Char)

namespace Cursor

/-- Moves on by one character. -/
def advance (c : Cursor) : Option (Char × Cursor) :=
  match c.after with
  | [] => none
  | x :: xs => some (x, ⟨x :: c.before, xs, c.groups⟩)

/-- Moves back by a number of characters. -/
def retreat : Nat → Cursor → Option Cursor
  | 0, c => some c
  | n + 1, c =>
    match c.before with
    | [] => none
    | x :: xs => retreat n ⟨xs, x :: c.after, c.groups⟩

/-- Moves on over the given characters. -/
def advanceOver (same : Char → Char → Bool) : List Char → Cursor → Option Cursor
  | [], c => some c
  | x :: xs, c =>
    match c.advance with
    | some (y, c) => if same x y then advanceOver same xs c else none
    | none => none

/-- Whether a place meets a condition. -/
def meets (c : Cursor) : Place → Bool
  | .textStart => c.before.isEmpty
  | .lineStart => c.before.isEmpty || c.before.head? = some '\n'
  | .textEnd => c.after.isEmpty
  | .lastLineEnd => c.after.isEmpty || c.after = ['\n']
  | .lineEnd => c.after.isEmpty || c.after.head? = some '\n'
  | .boundary ascii negated =>
    let isWord (x : Option Char) : Bool := (x.map (Category.word.holds ascii)).getD false
    !(c.before.isEmpty && c.after.isEmpty) &&
      (isWord c.before.head? != isWord c.after.head?) != negated

end Cursor

/-- A matcher: tries something at a place and goes on with the continuation. -/
abbrev Matcher := Cursor → (Cursor → Option Cursor) → Option Cursor

/-- Whether a repetition may try another turn. -/
def mayRepeat (most : Option Nat) (count : Nat) : Bool :=
  match most with
  | none => true
  | some m => count < m

/-- Repeats a matcher, as often as it can or as seldom as it can.  `count` is the number of turns
so far, and `last` the length that was left before the turn just made. -/
def repeatFrom (turn : Matcher) (least : Nat) (most : Option Nat) (isLazy : Bool) :
    Nat → Nat → Option Nat → Matcher
  | 0, _, _, c, k => k c
  | fuel + 1, count, last, c, k =>
    if count < least then
      turn c fun d => repeatFrom turn least most isLazy fuel (count + 1) last d k
    else
      let again (_ : Unit) : Option Cursor :=
        if mayRepeat most count && last ≠ some c.after.length then
          turn c fun d =>
            repeatFrom turn least most isLazy fuel (count + 1) (some c.after.length) d k
        else none
      if isLazy then k c <|> again ()
      else again () <|> k c

/-- Repeats a matcher as often as it can, each turn as it first succeeds. -/
def repeatAll (turn : Matcher) (least : Nat) (most : Option Nat) :
    Nat → Nat → Option Nat → Cursor → Option Cursor
  | 0, _, _, c => some c
  | fuel + 1, count, last, c =>
    if count < least then
      match turn c some with
      | some d => repeatAll turn least most fuel (count + 1) last d
      | none => none
    else if mayRepeat most count && last ≠ some c.after.length then
      match turn c some with
      | some d => repeatAll turn least most fuel (count + 1) (some c.after.length) d
      | none => some c
    else some c

/-- Tries a pattern at a place. -/
def run : Pattern → Matcher
  | .empty, c, k => k c
  | .literal d negated ignoreCase ascii, c, k =>
    match c.advance with
    | some (x, e) => if sameLetter ignoreCase ascii x d != negated then k e else none
    | none => none
  | .set items negated ignoreCase ascii, c, k =>
    match c.advance with
    | some (x, d) => if items.any (·.holds ignoreCase ascii x) != negated then k d else none
    | none => none
  | .any dotAll, c, k =>
    match c.advance with
    | some (x, d) => if dotAll || x ≠ '\n' then k d else none
    | none => none
  | .place condition, c, k => if c.meets condition then k c else none
  | .group index p, c, k =>
    run p c fun d =>
      let text := c.after.take (c.after.length - d.after.length)
      k { d with groups := (index, text) :: d.groups }
  | .backReference index ignoreCase ascii _ _, c, k =>
    match lookupGroup index c.groups with
    | none => none
    | some text =>
      match c.advanceOver (repeats ignoreCase ascii) text with
      | some d => k d
      | none => none
  | .seq p q, c, k => run p c fun d => run q d k
  | .alt p q, c, k => run p c k <|> run q c k
  | .repetition least most greed p, c, k =>
    let fuel := least + c.after.length + 2
    match greed with
    | .greedy => repeatFrom (run p) least most false fuel 0 none c k
    | .lazy => repeatFrom (run p) least most true fuel 0 none c k
    | .possessive =>
      match repeatAll (run p) least most fuel 0 none c with
      | some d => k d
      | none => none
  | .look ahead negated p, c, k =>
    let start := if ahead then some c else c.retreat p.width.1
    match start.bind fun s => run p s some with
    | some d => if negated then none else k { c with groups := d.groups }
    | none => if negated then k c else none
  | .atomic p, c, k =>
    match run p c some with
    | some d => k d
    | none => none
  | .conditional index p q, c, k =>
    match lookupGroup index c.groups with
    | some _ => run p c k
    | none => run q c k
where
  /-- The text of a group, if it has matched. -/
  lookupGroup (index : Nat) : List (Nat × List Char) → Option (List Char)
    | [] => none
    | (i, text) :: rest => if i = index then some text else lookupGroup index rest

/-- Tries a pattern at a place and at all places after it. -/
def searchFrom (p : Pattern) (before : List Char) : List Char → Bool
  | [] => (run p ⟨before, [], []⟩ some).isSome
  | c :: cs => (run p ⟨before, c :: cs, []⟩ some).isSome || searchFrom p (c :: before) cs

/-- Whether a pattern matches anywhere in a text. -/
def search (p : Pattern) (text : String) : Bool := searchFrom p [] text.toList

end Pattern
end ApiCompiler
