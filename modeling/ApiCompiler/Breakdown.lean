/-!
# Breakdowns

A run can end for a reason that nobody is told about in a sentence of its own: a number is too
long to be read, two keys cannot be ordered, a setting is looked up in what holds no settings.
Such a breakdown is not one of the failures that a command reports; it keeps the wording of the
operation that gave up.
-/

namespace ApiCompiler

/-- Why an operation gives up. -/
inductive Breakdown where
  /-- A pattern asks for more repetitions than can be counted. -/
  | tooManyRepeats
  /-- A pattern asks for two ways to classify characters at once. -/
  | conflictingClasses
  /-- A number has more digits than are read. -/
  | tooManyDigits (count : Nat)
  /-- A number is not that of a character. -/
  | noCharacter
  /-- A number is so far from that of any character that it is not looked at. -/
  | farFromCharacters
  /-- A text, shown as in a message, spells no whole number in a base. -/
  | notWhole (base : Nat) (shown : String)
  /-- A text, shown as in a message, spells no number. -/
  | notNumber (shown : String)
  /-- A text, shown as in a message, is none of the words for true and false. -/
  | noTruth (shown : String)
  /-- A text is no date. -/
  | noDate
  /-- A date or a time has a part that is out of range. -/
  | outOfRange (rule : String)
  /-- A text is empty where a number is needed. -/
  | emptyNumber
  /-- Two keys cannot be ordered; their kinds are named. -/
  | unordered (later earlier : String)
  /-- A kind, shown as in a message, has no spelling. -/
  | noSpelling (shown : String)
  /-- A value of the named kind cannot be written. -/
  | unwritable (kind : String)
  /-- A key of the named kind cannot be written. -/
  | unwritableKey (kind : String)
  /-- A configuration has a key that is no text. -/
  | keyNotText
  /-- A text is used where a table is needed. -/
  | textForTable
  /-- A list is used where a table is needed. -/
  | listForTable
  /-- A value of the named kind is used where a table is needed. -/
  | valueForTable (kind : String)
  /-- Values are nested more deeply than can be followed. -/
  | tooDeep (doing : String)
  deriving DecidableEq

namespace Breakdown

/-- The digits that are read of a number at most. -/
def digitLimit : Nat := 4300

/-- The wording of a breakdown. -/
def message : Breakdown → String
  | .tooManyRepeats => "the repetition number is too large"
  | .conflictingClasses => "ASCII and UNICODE flags are incompatible"
  | .tooManyDigits count =>
    s!"Exceeds the limit ({digitLimit} digits) for integer string conversion: " ++
      s!"value has {count} digits; use sys.set_int_max_str_digits() to increase the limit"
  | .noCharacter => "chr() arg not in range(0x110000)"
  | .farFromCharacters => "Python int too large to convert to C int"
  | .notWhole base shown => s!"invalid literal for int() with base {base}: " ++ shown
  | .notNumber shown => "could not convert string to float: " ++ shown
  | .noTruth shown => shown
  | .noDate => "'NoneType' object has no attribute 'groupdict'"
  | .outOfRange rule => rule
  | .emptyNumber => "string index out of range"
  | .unordered "datetime.datetime" "datetime.datetime" =>
    "can't compare offset-naive and offset-aware datetimes"
  | .unordered "datetime.datetime" "datetime.date"
  | .unordered "datetime.date" "datetime.datetime" =>
    "can't compare datetime.datetime to datetime.date"
  | .unordered later earlier =>
    s!"'<' not supported between instances of '{later}' and '{earlier}'"
  | .noSpelling shown => shown
  | .unwritable kind => s!"Object of type {kind} is not JSON serializable"
  | .unwritableKey kind => s!"keys must be str, int, float, bool or None, not {kind}"
  | .keyNotText => "keywords must be strings"
  | .textForTable => "string indices must be integers, not 'str'"
  | .listForTable => "list indices must be integers or slices, not str"
  | .valueForTable kind => s!"argument of type '{kind}' is not iterable"
  | .tooDeep doing => "maximum recursion depth exceeded" ++ doing

/-- Refuses a number with too many digits. -/
def checkDigits (count : Nat) : Except Breakdown Unit :=
  if count ≤ digitLimit then .ok () else .error (.tooManyDigits count)

end Breakdown

/-- Why a text is not read: it is not well formed, or what it says cannot be made a value. -/
inductive ReadFault where
  | malformed
  | breakdown (why : Breakdown)

/-- What is read, if it is well formed. -/
def ReadFault.orMalformed {α : Type} (result : Option α) : Except ReadFault α :=
  match result with
  | some a => .ok a
  | none => .error .malformed

end ApiCompiler
