import ApiCompiler.Address

/-!
# Recognising addresses

A source is taken for an address by its scheme, whatever else is wrong with it, unless its host is
in brackets and no number, or holds a character that stands for a separator.  Then it is taken for
the name of a file.
-/

namespace ApiCompiler
namespace Address

/-- The characters whose plain forms hold a separator of addresses. -/
def disguisedSeparators : List Char :=
  ['\u2047', '\u2048', '\u2049', '\u2100', '\u2101', '\u2105', '\u2106', '\u2A74', '\uFE13',
    '\uFE16', '\uFE55', '\uFE56', '\uFE5F', '\uFE6B', '\uFF03', '\uFF0F', '\uFF1A', '\uFF1F',
    '\uFF20']

/-- Whether what stands in brackets is a number, or one of a kind that is not known yet. -/
def isBracketed (cs : List Char) : Bool :=
  match cs with
  | 'v' :: rest =>
    let kind := rest.takeWhile Percent.isHex
    !kind.isEmpty && match rest.drop kind.length with
      | '.' :: _ :: _ => true
      | _ => false
  | _ => isHexNumbers cs

/-- Whether the part between two slashes and the path can name a host. -/
def isAuthority (cs : List Char) : Bool :=
  !(cs.any disguisedSeparators.contains) &&
    match cs.contains '[', cs.contains ']' with
    | true, true => isBracketed (((cs.dropWhile (· ≠ '[')).drop 1).takeWhile (· ≠ ']'))
    | false, false => true
    | _, _ => false

/-- The characters of a source that count: neither what stands before it nor line ends and tabs. -/
def significant (source : String) : List Char :=
  (source.toList.dropWhile fun c => c.toNat ≤ 0x20).filter fun c =>
    c ≠ '\t' && c ≠ '\n' && c ≠ '\r'

/-- Whether a source is an address to fetch from. -/
def isAddress (source : String) : Bool :=
  let (scheme, rest) := cutScheme (significant source)
  let name := scheme.map Char.toLower
  (name = "http".toList || name = "https".toList) && isAuthority (cutAuthority rest).1

end Address
end ApiCompiler
