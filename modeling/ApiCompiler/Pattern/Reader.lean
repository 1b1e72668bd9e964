import ApiCompiler.Breakdown
import ApiCompiler.Pattern.Syntax
import ApiCompiler.Text.CharacterName
import ApiCompiler.Text.Identifier
import ApiCompiler.Text.Numeral
import ApiCompiler.Text.Quoted

/-!
# Reading tag patterns

A pattern is read token by token, a token being a character or a backslash with the character
after it.  Taking a token looks at the next one, so a lone backslash at the end is found as soon
as the token before it is taken.  A fault names its position in the text.

Reading is bounded by the length of the text: every call that reads a part of a pattern takes at
least one token or ends.
-/

namespace ApiCompiler
namespace Pattern

/-- What is wrong with a pattern. -/
inductive Flaw where
  | escapeAtEnd
  | badEscape (text : String)
  | incompleteEscape (text : String)
  | octalRange (text : String)
  | unterminatedSet
  | badRange (first last : String)
  | nothingToRepeat
  | multipleRepeat
  | minAboveMax
  | unterminatedGroup
  | unbalanced
  | unexpectedEnd
  | unknownExtension (text : String)
  | unterminatedComment
  | missingBrace
  | unknownCharacter (name : String)
  | missingName (what : String)
  | unterminatedName (terminator : Char)
  | badGroupName (name : String)
  | unknownGroup (name : String)
  | badGroupNumber
  | invalidReference (number : Nat)
  | openReference
  | lookBehindReference
  | redefinedGroup (name : String) (number earlier : Nat)
  | lateGlobalFlags
  | unknownFlag
  | missingAfterFlags (what : String)
  | badInlineFlags (what : String)
  | twoAlternatives
  | unfit (why : Unfit)
  deriving DecidableEq

/-- The wording of what makes a pattern unfit. -/
def Unfit.message : Unfit → String
  | .lookBehindWidth => "look-behind requires fixed-width pattern"
  | .lookBehindFar => "looks too much behind"
  | .repetition .greedy => "internal: unsupported template operator MAX_REPEAT"
  | .repetition .lazy => "internal: unsupported template operator MIN_REPEAT"
  | .repetition .possessive => "internal: unsupported template operator POSSESSIVE_REPEAT"

/-- The wording of a flaw. -/
def Flaw.message : Flaw → String
  | .escapeAtEnd => "bad escape (end of pattern)"
  | .badEscape text => "bad escape " ++ text
  | .incompleteEscape text => "incomplete escape " ++ text
  | .octalRange text => s!"octal escape value {text} outside of range 0-0o377"
  | .unterminatedSet => "unterminated character set"
  | .badRange first last => s!"bad character range {first}-{last}"
  | .nothingToRepeat => "nothing to repeat"
  | .multipleRepeat => "multiple repeat"
  | .minAboveMax => "min repeat greater than max repeat"
  | .unterminatedGroup => "missing ), unterminated subpattern"
  | .unbalanced => "unbalanced parenthesis"
  | .unexpectedEnd => "unexpected end of pattern"
  | .unknownExtension text => "unknown extension " ++ text
  | .unterminatedComment => "missing ), unterminated comment"
  | .missingBrace => "missing \x7b"
  | .unknownCharacter name => "undefined character name " ++ Text.quoted name
  | .missingName what => "missing " ++ what
  | .unterminatedName terminator => s!"missing {terminator}, unterminated name"
  | .badGroupName name => "bad character in group name " ++ Text.quoted name
  | .unknownGroup name => "unknown group name " ++ Text.quoted name
  | .badGroupNumber => "bad group number"
  | .invalidReference number => s!"invalid group reference {number}"
  | .openReference => "cannot refer to an open group"
  | .lookBehindReference =>
    "cannot refer to group defined in the same lookbehind subpattern"
  | .redefinedGroup name number earlier =>
    s!"redefinition of group name {Text.quoted name} as group {number}; was group {earlier}"
  | .lateGlobalFlags => "global flags not at the start of the expression"
  | .unknownFlag => "unknown flag"
  | .missingAfterFlags what => "missing " ++ what
  | .badInlineFlags what => "bad inline flags: " ++ what
  | .twoAlternatives => "conditional backref with more than two branches"
  | .unfit why => why.message

/-- A flaw and its position, if it has one. -/
structure Fault where
  flaw : Flaw
  position : Option Nat

/-- The message of a fault in a pattern.  Line and column are added where the pattern has
several lines. -/
def Fault.message (pattern : String) (fault : Fault) : String :=
  match fault.position with
  | none => fault.flaw.message
  | some n =>
    let cs := pattern.toList
    let base := s!"{fault.flaw.message} at position {n}"
    if cs.contains '\n' then
      let before := cs.take n
      let line := before.count '\n' + 1
      let column := (before.reverse.takeWhile (· ≠ '\n')).length + 1
      s!"{base} (line {line}, column {column})"
    else base

/-- Why a pattern is not read. -/
inductive Refusal where
  | fault (fault : Fault)
  | breakdown (reason : Breakdown)

/-! ## Tokens -/

/-- What has been read of a pattern. -/
structure ReaderState where
  total : Nat
  rest : List Char
  /-- The widths of the groups, the open ones without; the first one is not a group. -/
  groups : List (Option (Nat × Option Nat))
  names : List (String × Nat)
  /-- The number of groups when the outermost look-behind was opened. -/
  lookBehind : Option Nat
  flags : Flags
  /-- The letters of the flags that were set for the whole pattern. -/
  globals : List Char
  /-- References of conditionals to groups, with their positions. -/
  references : List (Nat × Nat)

/-- A step that reads part of a pattern. -/
abbrev Reading (α : Type) := StateT ReaderState (Except Refusal) α

namespace Reading

/-- The position of the next token. -/
def position : Reading Nat := do
  let s ← get
  pure (s.total - s.rest.length)

/-- Fails at a position. -/
def failAt {α : Type} (position : Nat) (flaw : Flaw) : Reading α :=
  throw (.fault ⟨flaw, some position⟩)

/-- Gives up. -/
def breakDown {α : Type} (reason : Breakdown) : Reading α := throw (.breakdown reason)

/-- Fails a number of characters before the next token. -/
def fail {α : Type} (flaw : Flaw) (back : Nat) : Reading α := do
  let n ← position
  failAt (n - back) flaw

/-- The next token: no characters at the end of the pattern. -/
def peek : Reading (List Char) := do
  let s ← get
  match s.rest with
  | [] => pure []
  | '\\' :: c :: _ => pure ['\\', c]
  | c :: _ => pure [c]

/-- Goes on at some characters, unless they are a lone backslash. -/
def goTo (rest : List Char) : Reading Unit := do
  let s ← get
  if rest = ['\\'] then failAt (s.total - 1) .escapeAtEnd
  else modify fun s => { s with rest }

/-- Takes the next token. -/
def take : Reading (List Char) := do
  let token ← peek
  let s ← get
  goTo (s.rest.drop token.length)
  pure token

/-- Takes the next token if it is the given character. -/
def accept (c : Char) : Reading Bool := do
  let token ← peek
  if token = [c] then
    let _ ← take
    pure true
  else pure false

/-- Takes characters of a kind, at most a number of them. -/
def takeWhile (kind : Char → Bool) : Nat → Reading (List Char)
  | 0 => pure []
  | n + 1 => do
    match ← peek with
    | [c] =>
      if kind c then
        let _ ← take
        let more ← takeWhile kind n
        pure (c :: more)
      else pure []
    | _ => pure []

/-- Takes tokens up to a terminator, which is taken too; `read` are the characters so far. -/
def takeUntil (terminator : Char) (what : String) (read : List Char) :
    Nat → Reading (List Char)
  | 0 => fail (.missingName what) 0
  | n + 1 => do
    let token ← take
    if token = [] then
      if read.isEmpty then fail (.missingName what) 0
      else fail (.unterminatedName terminator) read.length
    else if token = [terminator] then
      if read.isEmpty then fail (.missingName what) 1 else pure read
    else takeUntil terminator what (read ++ token) n

/-- The flags in force. -/
def flags : Reading Flags := do
  let s ← get
  pure s.flags

end Reading

/-! ## Characters and escapes -/

/-- A token as a string. -/
def shownToken (token : List Char) : String := String.ofList token

/-- Whether a character is an octal digit. -/
def isOctal (c : Char) : Bool := '0' ≤ c && c ≤ '7'

/-- The number that digits spell in a base. -/
def numberOf (base : Nat) (digits : List Char) : Nat :=
  digits.foldl (fun n c => base * n + (CodePoints.hexValue? c).getD 0) 0

/-- The character of an escape of one letter. -/
def letterEscape? : Char → Option Char
  | 'a' => some '\x07'
  | 'f' => some '\x0c'
  | 'n' => some '\n'
  | 'r' => some '\r'
  | 't' => some '\t'
  | 'v' => some '\x0b'
  | '\\' => some '\\'
  | _ => none

/-- The class of an escape. -/
def classEscape? : Char → Option Item
  | 'd' => some (.category .digit false)
  | 'D' => some (.category .digit true)
  | 's' => some (.category .space false)
  | 'S' => some (.category .space true)
  | 'w' => some (.category .word false)
  | 'W' => some (.category .word true)
  | _ => none

/-- One character. -/
def single (f : Flags) (c : Char) : Pattern := .literal c false f.ignoreCase f.ascii

/-- The character of a hexadecimal escape with a fixed number of digits. -/
def hexEscape (c : Char) (count : Nat) : Reading Char := do
  let digits ← Reading.takeWhile (fun d => (CodePoints.hexValue? d).isSome) count
  let shown := '\\' :: c :: digits
  if digits.length ≠ count then
    Reading.fail (.incompleteEscape (shownToken shown)) shown.length
  else
    let n := numberOf 16 digits
    if n < 0x110000 then pure (Char.ofNat n)
    else Reading.fail (.badEscape (shownToken shown)) shown.length

/-- The character of an escape by name; the letter has been taken. -/
def namedEscape : Reading Char := do
  if ← Reading.accept '\x7b' then
    let s ← get
    let name ← Reading.takeUntil '\x7d' "character name" [] (s.rest.length + 1)
    match Text.characterNamed? name with
    | some c => pure c
    | none => Reading.fail (.unknownCharacter (String.ofList name)) (name.length + 4)
  else Reading.fail .missingBrace 0

/-- The character of an escape that means the same inside and outside sets. -/
def commonEscape (c : Char) : Reading Char := do
  if c = 'x' then hexEscape c 2
  else if c = 'N' then namedEscape
  else if c = 'u' then hexEscape c 4
  else if c = 'U' then hexEscape c 8
  else if c.isAlphanum then Reading.fail (.badEscape (shownToken ['\\', c])) 2
  else pure c

/-- An escape inside a set. -/
def setEscape (c : Char) : Reading Item := do
  match letterEscape? c, classEscape? c with
  | some x, _ => pure (.char x)
  | none, some item => pure item
  | none, none =>
    if c = 'b' then pure (.char '\x08')
    else if isOctal c then
      let more ← Reading.takeWhile isOctal 2
      let n := numberOf 8 (c :: more)
      if n > 0o377 then
        Reading.fail (.octalRange (shownToken ('\\' :: c :: more))) (more.length + 2)
      else
        pure (.char (Char.ofNat n))
    else
      let x ← commonEscape c
      pure (.char x)

/-- Refuses a reference that stands in a look-behind to a group that is open or opened there. -/
def checkLookBehind (group : Nat) : Reading Unit := do
  let s ← get
  match s.lookBehind with
  | none => pure ()
  | some limit =>
    if ((s.groups[group]?).getD none).isNone then Reading.fail .openReference 0
    else if limit ≤ group then Reading.fail .lookBehindReference 0
    else pure ()

/-- A reference to a group that has to be closed. -/
def groupReference (group : Nat) (shownLength : Nat) : Reading Pattern := do
  let s ← get
  match s.groups[group]? with
  | some (some (least, most)) => do
    checkLookBehind group
    pure (.backReference group s.flags.ignoreCase s.flags.ascii least most)
  | _ => Reading.fail .openReference shownLength

/-- An escape by digits: a character in octal, or a reference to a group. -/
def digitEscape (c : Char) : Reading Pattern := do
  let f ← Reading.flags
  if c = '0' then
    let more ← Reading.takeWhile isOctal 2
    pure (single f (Char.ofNat (numberOf 8 more)))
  else
    let second ← Reading.takeWhile Char.isDigit 1
    let third ←
      if isOctal c && second.any isOctal then Reading.takeWhile isOctal 1 else pure []
    let digits := c :: second ++ third
    let shown := '\\' :: digits
    if third.length = 1 then
      let n := numberOf 8 digits
      if n > 0o377 then Reading.fail (.octalRange (shownToken shown)) shown.length
      else pure (single f (Char.ofNat n))
    else
      let group := numberOf 10 digits
      let s ← get
      if group < s.groups.length then groupReference group shown.length
      else Reading.fail (.invalidReference group) digits.length

/-- An escape outside sets. -/
def escape (c : Char) : Reading Pattern := do
  let f ← Reading.flags
  match classEscape? c, letterEscape? c with
  | some item, _ => pure (.set [item] false f.ignoreCase f.ascii)
  | none, some x => pure (single f x)
  | none, none =>
    if c = 'A' then pure (.place .textStart)
    else if c = 'Z' then pure (.place .textEnd)
    else if c = 'b' then pure (.place (.boundary f.ascii false))
    else if c = 'B' then pure (.place (.boundary f.ascii true))
    else if c.isDigit then digitEscape c
    else
      let x ← commonEscape c
      pure (single f x)

/-! ## Sets -/

/-- One end of a range in a set, or a class; `token` has been taken. -/
def setItem (token : List Char) : Reading Item := do
  match token with
  | ['\\', c] => setEscape c
  | c :: _ => pure (.char c)
  | [] => Reading.fail .unterminatedSet 0

/-- The items of a set up to its bracket; `start` is the position of the set, `read` are the
items so far. -/
def setItems (start : Nat) (read : List Item) : Nat → Reading (List Item)
  | 0 => Reading.failAt start .unterminatedSet
  | fuel + 1 => do
    let token ← Reading.take
    if token = [] then Reading.failAt start .unterminatedSet
    else if token = [']'] && !read.isEmpty then pure read
    else
      let first ← setItem token
      if ← Reading.accept '-' then
        let other ← Reading.take
        if other = [] then Reading.failAt start .unterminatedSet
        else if other = [']'] then pure (read ++ [first, .char '-'])
        else
          let last ← setItem other
          let bad : Reading (List Item) :=
            Reading.fail (.badRange (shownToken token) (shownToken other))
              (token.length + 1 + other.length)
          match first, last with
          | .char a, .char b =>
            if b < a then bad else setItems start (read ++ [.range a b]) fuel
          | _, _ => bad
      else setItems start (read ++ [first]) fuel

/-- A set of items; a single character needs none. -/
def setOf (f : Flags) (items : List Item) (negated : Bool) : Pattern :=
  match items.eraseDups with
  | [.char c] => .literal c negated f.ignoreCase f.ascii
  | items => .set items negated f.ignoreCase f.ascii

/-! ## Repetitions -/

/-- What may be repeated. -/
inductive Repeatable where
  | yes
  | place
  | repetition
  deriving DecidableEq

/-- A part of a sequence, and whether it may be repeated. -/
structure Part where
  pattern : Pattern
  repeatable : Repeatable

/-- The number of repetitions that digits spell. -/
def repeatCount (digits : List Char) : Reading Nat := do
  match Breakdown.checkDigits digits.length with
  | .error reason => Reading.breakDown reason
  | .ok _ =>
    let n := numberOf 10 digits
    if n < 4294967295 then pure n else Reading.breakDown .tooManyRepeats

/-- The bounds of a quantifier in braces, or none if the brace is a character; the brace has been
taken. -/
def braces : Reading (Option (Nat × Option Nat)) := do
  let here ← Reading.position
  let s ← get
  if s.rest.head? = some '\x7d' then pure none
  else
    let low ← Reading.takeWhile Char.isDigit s.rest.length
    let comma ← Reading.accept ','
    let high ← if comma then Reading.takeWhile Char.isDigit s.rest.length else pure low
    if ← Reading.accept '\x7d' then
      let least ← repeatCount low
      if high.isEmpty then pure (some (least, none))
      else
        let most ← repeatCount high
        if most < least then Reading.failAt here .minAboveMax else pure (some (least, some most))
    else
      Reading.goTo s.rest
      pure none

/-- Repeats the last part; `start` is the position of the quantifier. -/
def repeatLast (start : Nat) (least : Nat) (most : Option Nat) (parts : List Part) :
    Reading (List Part) := do
  match parts with
  | [] => Reading.failAt start .nothingToRepeat
  | p :: ps =>
    match p.repeatable with
    | .place => Reading.failAt start .nothingToRepeat
    | .repetition => Reading.failAt start .multipleRepeat
    | .yes =>
      let greed : Greed ←
        if ← Reading.accept '?' then pure .lazy
        else do
          let possessive ← Reading.accept '+'
          pure (if possessive then .possessive else .greedy)
      pure (⟨.repetition least most greed p.pattern, .repetition⟩ :: ps)

/-- Parts, the last one first, as one pattern. -/
def joinParts (parts : List Part) : Pattern :=
  parts.foldl (fun rest p => match rest with
    | .empty => p.pattern
    | rest => .seq p.pattern rest) .empty

/-! ## Groups -/

/-- A name up to its terminator. -/
def groupName (terminator : Char) : Reading String := do
  let s ← get
  let name ← Reading.takeUntil terminator "group name" [] (s.rest.length + 1)
  if Text.isName name then pure (String.ofList name)
  else Reading.fail (.badGroupName (String.ofList name)) (name.length + 1)

/-- Opens a group, named or not, and returns its number. -/
def openGroup (name : Option String) : Reading Nat := do
  let s ← get
  let number := s.groups.length
  match name with
  | none => modify fun s => { s with groups := s.groups ++ [none] }
  | some n =>
    match lookup? n s.names with
    | some earlier => Reading.fail (.redefinedGroup n number earlier) (n.length + 1)
    | none =>
      modify fun s => { s with groups := s.groups ++ [none], names := s.names ++ [(n, number)] }
  pure number
where
  /-- The number under a name. -/
  lookup? (n : String) : List (String × Nat) → Option Nat
    | [] => none
    | (k, v) :: rest => if k = n then some v else lookup? n rest

/-- Closes a group. -/
def closeGroup (group : Nat) (p : Pattern) : Reading Unit :=
  modify fun s => { s with groups := s.groups.set group (some p.width) }

/-- Takes a comment up to its parenthesis. -/
def skipComment (start : Nat) : Nat → Reading Unit
  | 0 => Reading.failAt start .unterminatedComment
  | fuel + 1 => do
    let token ← Reading.peek
    if token = [] then Reading.failAt start .unterminatedComment
    else
      let token ← Reading.take
      if token = [')'] then pure () else skipComment start fuel

/-- Takes the rest of a line. -/
def skipLine : Nat → Reading Unit
  | 0 => pure ()
  | fuel + 1 => do
    let token ← Reading.take
    if token = [] || token = ['\n'] then pure () else skipLine fuel

/-- Whether a character names a flag; `t` names one that only a whole pattern may have, and that
means nothing. -/
def isFlag (c : Char) : Bool := ['i', 'L', 'm', 's', 'x', 'a', 't', 'u'].contains c

/-- Whether a character names the way characters are classified. -/
def isClassFlag (c : Char) : Bool := c = 'a' || c = 'u' || c = 'L'

/-- Flags with one more turned on or off. -/
def setFlag (c : Char) (on : Bool) (f : Flags) : Flags :=
  if c = 'i' then { f with ignoreCase := on }
  else if c = 'm' then { f with multiline := on }
  else if c = 's' then { f with dotAll := on }
  else if c = 'x' then { f with verbose := on }
  else if c = 'a' then { f with ascii := on }
  else if c = 'u' then { f with ascii := !on }
  else f

/-- Why a flag cannot be turned on or off after those that were read. -/
def badFlag? (on : Bool) (read : List Char) (c : Char) : Option String :=
  if !on then
    if isClassFlag c then some "cannot turn off flags 'a', 'u' and 'L'" else none
  else if c = 'L' then some "cannot use 'L' flag with a str pattern"
  else if (c = 'a' && read.contains 'u') || (c = 'u' && read.contains 'a') then
    some "flags 'a', 'u' and 'L' are incompatible"
  else none

/-- Fails on a token that is no flag. -/
def failOnFlag {α : Type} (missing : String) : List Char → Reading α
  | [c] =>
    if Text.isLetter c then Reading.fail .unknownFlag 1
    else Reading.fail (.missingAfterFlags missing) 1
  | token => Reading.fail (.missingAfterFlags missing) token.length

/-- Reads flag letters from the given one on, up to one of the terminators. -/
def flagLetters (on : Bool) (terminators : List Char) (missing : String) (read : List Char)
    (token : List Char) : Nat → Reading (List Char × Char)
  | 0 => Reading.fail (.missingAfterFlags missing) 0
  | fuel + 1 => do
    match token with
    | [c] =>
      if isFlag c then
        match badFlag? on read c with
        | some fault => Reading.fail (.badInlineFlags fault) 0
        | none =>
          let next ← Reading.take
          match next with
          | [d] =>
            if terminators.contains d then pure (read ++ [c], d)
            else flagLetters on terminators missing (read ++ [c]) next fuel
          | _ => failOnFlag missing next
      else failOnFlag missing token
    | _ => failOnFlag missing token

/-- The flags that a group turns off, if a hyphen stands before them. -/
def flagsOff (terminator : Char) (fuel : Nat) : Reading (List Char) := do
  if terminator = '-' then
    let token ← Reading.take
    match token with
    | [c] =>
      if isFlag c then
        let (off, _) ← flagLetters false [':'] ":" [] token fuel
        pure off
      else failOnFlag "flag" token
    | _ => failOnFlag "flag" token
  else pure []

/-- The flags that a group turns on and off, or none for flags of the whole pattern, which are
set at once; `first` is the letter or hyphen that has been taken. -/
def groupFlags (first : Char) : Reading (Option (List Char × List Char)) := do
  let s ← get
  let fuel := s.rest.length + 1
  let (on, terminator) ←
    if first = '-' then pure ([], '-')
    else flagLetters true [')', '-', ':'] "-, : or )" [] [first] fuel
  if terminator = ')' then
    modify fun s =>
      { s with
        flags := on.foldl (fun f c => setFlag c true f) s.flags
        globals := s.globals ++ on }
    pure none
  else if on.contains 't' then
    Reading.fail (.badInlineFlags "cannot turn on global flag") 1
  else
    let off ← flagsOff terminator fuel
    if off.contains 't' then Reading.fail (.badInlineFlags "cannot turn off global flag") 1
    else if on.any fun c => off.contains c then
      Reading.fail (.badInlineFlags "flag turned on and off") 1
    else pure (some (on, off))

/-- Takes the parenthesis that closes the group opened at a position. -/
def closing (start : Nat) : Reading Unit := do
  if ← Reading.accept ')' then pure ()
  else Reading.failAt start .unterminatedGroup

/-- Reads with other flags, and restores those in force. -/
def withFlags (change : Flags → Flags) (read : Reading Pattern) : Reading Pattern := do
  let before ← Reading.flags
  modify fun s => { s with flags := change s.flags }
  let p ← read
  modify fun s => { s with flags := before }
  pure p

/-- The most groups that a conditional can count. -/
def groupLimit : Nat := 1073741823

/-- The group that a conditional asks for: a name or a number. -/
def conditionGroup : Reading Nat := do
  let s ← get
  let name ← Reading.takeUntil ')' "group name" [] (s.rest.length + 1)
  let shown := String.ofList name
  if Text.isName name then
    match s.names.find? fun e => e.1 = shown with
    | some e => do
      checkLookBehind e.2
      pure e.2
    | none => Reading.fail (.unknownGroup shown) (name.length + 1)
  else
    match Text.numeral? name with
    | some (.ofNat n) =>
      if n = 0 then Reading.fail .badGroupNumber (name.length + 1)
      else if groupLimit ≤ n then Reading.fail (.invalidReference n) (name.length + 1)
      else
        let here ← Reading.position
        modify fun s => { s with references := s.references ++ [(n, here - name.length - 1)] }
        checkLookBehind n
        pure n
    | _ => Reading.fail (.badGroupName shown) (name.length + 1)

/-- A reference to a group by name; the equals sign has been taken. -/
def namedReference : Reading Pattern := do
  let name ← groupName ')'
  let s ← get
  match s.names.find? fun e => e.1 = name with
  | some e => groupReference e.2 (name.length + 1)
  | none => Reading.fail (.unknownGroup name) (name.length + 1)

/-- Reads an alternation inside a look-around; inside a look-behind, groups that are opened there
cannot be referred to. -/
def lookInner (ahead : Bool) (read : Reading Pattern) : Reading Pattern := do
  if ahead then read
  else
    let s ← get
    if s.lookBehind.isNone then
      modify fun s => { s with lookBehind := some s.groups.length }
      let p ← read
      modify fun s => { s with lookBehind := none }
      pure p
    else read

/-- What a parenthesis opens. -/
inductive Opening where
  | capture (name : Option String)
  | plain
  | atomic
  | look (ahead negated : Bool)
  | flags (on off : List Char)
  | condition
  | done (parts : List Part)

/-- What the parenthesis at a position opens; it has been taken.  `isFirst` says whether flags of
the whole pattern may stand here. -/
def opening (start : Nat) (isFirst : Bool) : Reading Opening := do
  if ← Reading.accept '?' then
    let token ← Reading.take
    let s ← get
    match token with
    | [] => Reading.fail .unexpectedEnd 0
    | ['P'] =>
      if ← Reading.accept '<' then
        let name ← groupName '>'
        pure (.capture (some name))
      else if ← Reading.accept '=' then
        let p ← namedReference
        pure (.done [⟨p, .yes⟩])
      else
        let other ← Reading.take
        if other = [] then Reading.fail .unexpectedEnd 0
        else Reading.fail (.unknownExtension ("?P" ++ shownToken other)) (other.length + 2)
    | [':'] => pure .plain
    | ['>'] => pure .atomic
    | ['='] => pure (.look true false)
    | ['!'] => pure (.look true true)
    | ['('] => pure .condition
    | ['#'] =>
      skipComment start (s.rest.length + 1)
      pure (.done [])
    | ['<'] =>
      let other ← Reading.take
      if other = [] then Reading.fail .unexpectedEnd 0
      else if other = ['='] then pure (.look false false)
      else if other = ['!'] then pure (.look false true)
      else Reading.fail (.unknownExtension ("?<" ++ shownToken other)) (other.length + 2)
    | [c] =>
      if isFlag c || c = '-' then
        match ← groupFlags c with
        | some (on, off) => pure (.flags on off)
        | none =>
          if isFirst then pure (.done []) else Reading.failAt start .lateGlobalFlags
      else Reading.fail (.unknownExtension ("?" ++ shownToken token)) (token.length + 1)
    | _ => Reading.fail (.unknownExtension ("?" ++ shownToken token)) (token.length + 1)
  else pure (.capture none)

/-! ## Sequences and alternations -/

/-- White space that a verbose pattern passes over. -/
def isVerboseBlank (c : Char) : Bool := [' ', '\t', '\n', '\r', '\x0b', '\x0c'].contains c

mutual

/-- An alternation.  `atTop` says whether it is the whole pattern. -/
def alternation : Nat → Bool → Reading Pattern
  | 0, _ => pure .empty
  | fuel + 1, atTop => do
    let first ← sequence fuel atTop []
    let others ← otherAlternatives fuel
    pure (anyOf (first :: others))

/-- The alternatives after the first. -/
def otherAlternatives : Nat → Reading (List Pattern)
  | 0 => pure []
  | fuel + 1 => do
    if ← Reading.accept '|' then
      let next ← sequence fuel false []
      let others ← otherAlternatives fuel
      pure (next :: others)
    else pure []

/-- A sequence up to a bar, a closing parenthesis or the end; `parts` are those read so far, the
last one first. -/
def sequence : Nat → Bool → List Part → Reading Pattern
  | 0, _, parts => pure (joinParts parts)
  | fuel + 1, atTop, parts => do
    let token ← Reading.peek
    if token = [] || token = ['|'] || token = [')'] then pure (joinParts parts)
    else
      let start ← Reading.position
      let token ← Reading.take
      let f ← Reading.flags
      let s ← get
      match token with
      | ['\\', c] =>
        let p ← escape c
        let kind : Repeatable := match p with
          | .place _ => .place
          | _ => .yes
        sequence fuel atTop (⟨p, kind⟩ :: parts)
      | ['['] =>
        let negated ← Reading.accept '^'
        let items ← setItems start [] (s.rest.length + 1)
        sequence fuel atTop (⟨setOf f items negated, .yes⟩ :: parts)
      | ['?'] => sequence fuel atTop (← repeatLast start 0 (some 1) parts)
      | ['*'] => sequence fuel atTop (← repeatLast start 0 none parts)
      | ['+'] => sequence fuel atTop (← repeatLast start 1 none parts)
      | ['\x7b'] =>
        match ← braces with
        | none => sequence fuel atTop (⟨single f '\x7b', .yes⟩ :: parts)
        | some (least, most) => sequence fuel atTop (← repeatLast start least most parts)
      | ['.'] => sequence fuel atTop (⟨.any f.dotAll, .yes⟩ :: parts)
      | ['^'] =>
        sequence fuel atTop
          (⟨.place (if f.multiline then .lineStart else .textStart), .place⟩ :: parts)
      | ['$'] =>
        sequence fuel atTop
          (⟨.place (if f.multiline then .lineEnd else .lastLineEnd), .place⟩ :: parts)
      | ['('] =>
        let more ← grouped fuel start (← opening start (atTop && parts.isEmpty))
        sequence fuel atTop (more ++ parts)
      | c :: _ =>
        if f.verbose && isVerboseBlank c then sequence fuel atTop parts
        else if f.verbose && c = '#' then
          skipLine (s.rest.length + 1)
          sequence fuel atTop parts
        else sequence fuel atTop (⟨single f c, .yes⟩ :: parts)
      | [] => pure (joinParts parts)

/-- The rest of what a parenthesis at a position opened. -/
def grouped : Nat → Nat → Opening → Reading (List Part)
  | 0, _, _ => pure []
  | fuel + 1, start, o => do
    match o with
    | .done parts => pure parts
    | .capture name =>
      let index ← openGroup name
      let p ← withFlags id (alternation fuel false)
      closing start
      closeGroup index p
      pure [⟨.group index p, .yes⟩]
    | .plain =>
      let p ← withFlags id (alternation fuel false)
      closing start
      pure [⟨p, .yes⟩]
    | .atomic =>
      let p ← withFlags id (alternation fuel false)
      closing start
      pure [⟨.atomic p, .yes⟩]
    | .flags on off =>
      let change (f : Flags) : Flags :=
        off.foldl (fun f c => setFlag c false f) (on.foldl (fun f c => setFlag c true f) f)
      let p ← withFlags change (alternation fuel false)
      closing start
      pure [⟨p, .yes⟩]
    | .look ahead negated =>
      let p ← lookInner ahead (alternation fuel false)
      closing start
      pure [⟨.look ahead negated p, .yes⟩]
    | .condition =>
      let index ← conditionGroup
      let yes ← sequence fuel false []
      let no ←
        if ← Reading.accept '|' then
          let no ← sequence fuel false []
          if (← Reading.peek) = ['|'] then Reading.fail .twoAlternatives 0
          pure no
        else pure .empty
      closing start
      pure [⟨.conditional index yes no, .yes⟩]

end

/-- Reads a whole pattern. -/
def readAll : Reading Pattern := do
  let s ← get
  Reading.goTo s.rest
  let p ← alternation (4 * s.total + 4) true
  let s ← get
  if s.globals.contains 'a' && s.globals.contains 'u' then Reading.breakDown .conflictingClasses
  else if s.rest ≠ [] then Reading.fail .unbalanced 0
  else
    match s.references.find? fun r => s.groups.length ≤ r.1 with
    | some r => Reading.failAt r.2 (.invalidReference r.1)
    | none =>
      match p.unfit? (s.globals.contains 't') with
      | some why => throw (.fault ⟨.unfit why, none⟩)
      | none => pure p

/-- Reads a pattern, or says why it is not read. -/
def ofString (text : String) : Except Refusal Pattern :=
  let cs := text.toList
  let start : ReaderState := ⟨cs.length, cs, [none], [], none, .none, [], []⟩
  match readAll.run start with
  | .ok (p, _) => .ok p
  | .error refusal => .error refusal

end Pattern
end ApiCompiler
