import ApiCompiler.Text.Classes
import ApiCompiler.Text.Letters

/-!
# Tag patterns

The tree of a tag pattern.  What the flags of a pattern change (letter case, line ends, ASCII) is
decided when the pattern is read, so a tree needs no flags to be matched.

`Pattern.width` is the range of lengths that a pattern can match, as far as its form tells; a
look-behind needs a pattern of one length.
-/

namespace ApiCompiler
namespace Pattern

/-- What the letters of a pattern may stand for. -/
structure Flags where
  ignoreCase : Bool
  ascii : Bool
  multiline : Bool
  dotAll : Bool
  verbose : Bool
  deriving DecidableEq

/-- No flag set. -/
def Flags.none : Flags := ⟨false, false, false, false, false⟩

/-- A class of characters. -/
inductive Category where
  | digit
  | space
  | word
  deriving DecidableEq

/-- A part of a character set. -/
inductive Item where
  | char (c : Char)
  | range (first last : Char)
  | category (kind : Category) (negated : Bool)
  deriving DecidableEq

/-- A condition on a place in the text. -/
inductive Place where
  | textStart
  | lineStart
  | textEnd
  | lastLineEnd
  | lineEnd
  | boundary (ascii negated : Bool)
  deriving DecidableEq

/-- How often a repetition tries its pattern: as often as it can, as seldom as it can, or as
often as it can without giving anything back. -/
inductive Greed where
  | greedy
  | lazy
  | possessive
  deriving DecidableEq

end Pattern

/-- A tag pattern. -/
inductive Pattern where
  | empty
  | literal (c : Char) (negated ignoreCase ascii : Bool)
  | set (items : List Pattern.Item) (negated ignoreCase ascii : Bool)
  | any (dotAll : Bool)
  | place (condition : Pattern.Place)
  | group (index : Nat) (inner : Pattern)
  | backReference (index : Nat) (ignoreCase ascii : Bool) (least : Nat) (most : Option Nat)
  | seq (first second : Pattern)
  | alt (first second : Pattern)
  | repetition (least : Nat) (most : Option Nat) (greed : Pattern.Greed) (inner : Pattern)
  | look (ahead negated : Bool) (inner : Pattern)
  | atomic (inner : Pattern)
  | conditional (index : Nat) (yes no : Pattern)

namespace Pattern

/-- The sum of two upper bounds; `none` stands for no bound. -/
def addMost (a b : Option Nat) : Option Nat := do
  let m ← a
  let n ← b
  pure (m + n)

/-- The greater of two upper bounds. -/
def maxMost (a b : Option Nat) : Option Nat := do
  let m ← a
  let n ← b
  pure (max m n)

/-- The product of two upper bounds. -/
def mulMost (a b : Option Nat) : Option Nat :=
  if a = some 0 || b = some 0 then some 0
  else do
    let m ← a
    let n ← b
    pure (m * n)

/-- The least and the greatest length that a pattern can match, as far as its form tells. -/
def width : Pattern → Nat × Option Nat
  | .empty => (0, some 0)
  | .literal _ _ _ _ => (1, some 1)
  | .set _ _ _ _ => (1, some 1)
  | .any _ => (1, some 1)
  | .place _ => (0, some 0)
  | .group _ p => p.width
  | .backReference _ _ _ least most => (least, most)
  | .seq p q => (p.width.1 + q.width.1, addMost p.width.2 q.width.2)
  | .alt p q => (min p.width.1 q.width.1, maxMost p.width.2 q.width.2)
  | .repetition least most _ p => (least * p.width.1, mulMost most p.width.2)
  | .look _ _ _ => (0, some 0)
  | .atomic p => p.width
  | .conditional _ p q => (min p.width.1 q.width.1, maxMost p.width.2 q.width.2)

/-- What makes a pattern unfit for use although it can be read. -/
inductive Unfit where
  | lookBehindWidth
  | lookBehindFar
  /-- A repetition stands in a pattern that must not have any. -/
  | repetition (greed : Greed)
  deriving DecidableEq

/-- The greatest length that a look-behind can have. -/
def lookBehindLimit : Nat := 4294967295

/-- What makes a look-behind for a pattern unfit. -/
def unfitLookBehind? (p : Pattern) : Option Unfit :=
  if lookBehindLimit < p.width.1 then some .lookBehindFar
  else if p.width.2 = some p.width.1 then none
  else some .lookBehindWidth

/-- The first thing that makes a pattern unfit: a look-behind whose pattern has several lengths,
or a repetition where there must be none. -/
def unfit? (plain : Bool) : Pattern → Option Unfit
  | .look ahead _ p => (if ahead then none else unfitLookBehind? p).or (unfit? plain p)
  | .group _ p => unfit? plain p
  | .seq p q => (unfit? plain p).or (unfit? plain q)
  | .alt p q => (unfit? plain p).or (unfit? plain q)
  | .repetition _ _ greed p => if plain then some (.repetition greed) else unfit? plain p
  | .atomic p => unfit? plain p
  | .conditional _ p q => (unfit? plain p).or (unfit? plain q)
  | _ => none

/-! ## Characters -/

/-- Whether a character belongs to a class. -/
def Category.holds (ascii : Bool) : Category → Char → Bool
  | .digit, c => if ascii then c.isDigit else Text.isDigit c
  | .space, c =>
    if ascii then c = ' ' || (9 ≤ c.toNat && c.toNat ≤ 13) else Text.isSpace c
  | .word, c => if ascii then c.isAlphanum || c = '_' else Text.isWord c

/-- The code points that count as the same letter where case is ignored. -/
def variants (ascii : Bool) (c : Char) : List Nat :=
  if ascii then [c.toNat, c.toLower.toNat, c.toUpper.toNat] else Text.variants c.toNat

/-- The small letter of a character. -/
def small (ascii : Bool) (c : Char) : Nat :=
  if ascii then c.toLower.toNat else Text.lowerCode c.toNat

/-- Whether a character is another one, or counts as it where case is ignored. -/
def sameLetter (ignoreCase ascii : Bool) (c d : Char) : Bool :=
  if ignoreCase then (variants ascii c).contains d.toNat else c = d

/-- The first code point outside the basic plane. -/
def basicEnd : Nat := 0x10000

/-- Whether a character counts as one of a set in which case is ignored.  Outside the basic plane
only the small letter of the character is compared, so a capital in the set stands for nothing. -/
def countsAs (ascii : Bool) (c d : Char) : Bool :=
  if d.toNat < basicEnd then (variants ascii c).contains d.toNat else small ascii c = d.toNat

/-- Whether a character counts as one of a range in which case is ignored.  Outside the basic
plane its small letter is compared and the capital of that. -/
def countsBetween (ascii : Bool) (first last c : Char) : Bool :=
  let within (n : Nat) : Bool := first.toNat ≤ n && n ≤ last.toNat
  (variants ascii c).any (fun n => within n && n < basicEnd) ||
    (basicEnd ≤ last.toNat &&
      (within (small ascii c) || within (Text.upperCode (small ascii c))))

/-- Whether a character belongs to a part of a set. -/
def Item.holds (ignoreCase ascii : Bool) (c : Char) : Item → Bool
  | .char d => if ignoreCase then countsAs ascii c d else c = d
  | .range first last =>
    if ignoreCase then countsBetween ascii first last c else first ≤ c && c ≤ last
  | .category kind negated => kind.holds ascii c != negated

/-- Whether a character repeats another one: it has the same lower-case letter where case is
ignored.  Here letters that only look alike stay apart. -/
def repeats (ignoreCase ascii : Bool) (a b : Char) : Bool :=
  a = b || (ignoreCase && small ascii a = small ascii b)

/-! ## Alternatives -/

/-- The parts of a pattern that follow each other. -/
def parts : Pattern → List Pattern
  | .empty => []
  | .seq p q => p.parts ++ q.parts
  | p => [p]

/-- Parts that follow each other, as one pattern. -/
def ofParts : List Pattern → Pattern
  | [] => .empty
  | [p] => p
  | p :: ps => .seq p (ofParts ps)

/-- Whether two patterns without inner patterns are the same. -/
def sameLeaf : Pattern → Pattern → Bool
  | .literal c n i a, .literal d m j b => c = d && n = m && i = j && a = b
  | .set xs n i a, .set ys m j b => xs = ys && n = m && i = j && a = b
  | .any d, .any e => d = e
  | .place p, .place q => p = q
  | .backReference m i a _ _, .backReference n j b _ _ => m = n && i = j && a = b
  | _, _ => false

/-- The first part that all alternatives have in common, and what is left of them. -/
def commonFirst? : List (List Pattern) → Option (Pattern × List (List Pattern))
  | [] => none
  | [] :: _ => none
  | (p :: ps) :: others =>
    (others.mapM fun qs =>
      match qs with
      | [] => none
      | q :: rest => if sameLeaf q p then some rest else none).map fun rests => (p, ps :: rests)

/-- Takes the parts that all alternatives begin with; the bound is their number. -/
def commonFirsts : Nat → List (List Pattern) → List Pattern × List (List Pattern)
  | 0, alternatives => ([], alternatives)
  | bound + 1, alternatives =>
    match commonFirst? alternatives with
    | none => ([], alternatives)
    | some (p, rests) =>
      let (ps, left) := commonFirsts bound rests
      (p :: ps, left)

/-- The items of a pattern that is one character out of a set. -/
def setItems? : List Pattern → Option (List Item)
  | [.literal c false _ _] => some [.char c]
  | [.set items false _ _] => some items
  | _ => none

/-- The alternation of patterns.  Alternatives that differ in one character only are one set. -/
def anyOf : List Pattern → Pattern
  | [] => .empty
  | [p] => p
  | p :: q :: rest =>
    let alternatives := (p :: q :: rest).map parts
    let (firsts, left) := commonFirsts (alternatives.foldl (fun n a => n + a.length) 0) alternatives
    match left.mapM setItems?, left.head? with
    | some items, some [.literal _ _ ignoreCase ascii] =>
      ofParts (firsts ++ [.set items.flatten.eraseDups false ignoreCase ascii])
    | some items, some [.set _ _ ignoreCase ascii] =>
      ofParts (firsts ++ [.set items.flatten.eraseDups false ignoreCase ascii])
    | _, _ => (p :: q :: rest).foldr (fun p rest => match rest with
      | none => some p
      | some r => some (.alt p r)) none |>.getD .empty

end Pattern
end ApiCompiler
