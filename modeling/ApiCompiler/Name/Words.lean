import ApiCompiler.Text.Accents

/-!
# Words

A text is split into words of ASCII letters and digits.  Accents are taken off first.  Any other
character separates words.  Inside a run a word starts at an upper-case letter that follows a
character that is not one, and at the last upper-case letter of several when a lower-case letter
follows it, so `XMLHttpRequest` has the words `XML`, `Http` and `Request`.
-/

namespace ApiCompiler
namespace Name

/-- Whether a character can stand in a word: an ASCII letter or digit. -/
def isWordChar (c : Char) : Bool := c.isAlphanum

/-- The runs of word characters. -/
def runs : List Char → List (List Char)
  | [] => []
  | c :: cs =>
    if isWordChar c then
      match cs, runs cs with
      | d :: _, first :: rest => if isWordChar d then (c :: first) :: rest else [c] :: first :: rest
      | _, rest => [c] :: rest
    else runs cs

/-- Whether a word starts at `y`, which stands between `x` and the characters `after`. -/
def startsWord (x y : Char) (after : List Char) : Bool :=
  y.isUpper && (!x.isUpper || (after.head?.map Char.isLower).getD false)

/-- The words of a run whose character before is `x`: the rest of the word that `x` stands in,
then the words that follow. -/
def splitAfter (x : Char) : List Char → List Char × List (List Char)
  | [] => ([], [])
  | y :: after =>
    let (word, more) := splitAfter y after
    if startsWord x y after then ([], (y :: word) :: more) else (y :: word, more)

/-- The words of a run. -/
def splitRun : List Char → List (List Char)
  | [] => []
  | c :: cs =>
    let (word, more) := splitAfter c cs
    (c :: word) :: more

/-- The words of a text. -/
def words (text : List Char) : List (List Char) :=
  (runs (Text.stripAccents text)).flatMap splitRun

end Name
end ApiCompiler
