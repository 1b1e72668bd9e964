import ApiCompiler.Address.Label
import ApiCompiler.Address.Numeric
import ApiCompiler.Text.Letters
import ApiCompiler.Text.Percent
import ApiCompiler.Text.WholeNumber

/-!
# Addresses

An address has a scheme, a host with a user before it and a number behind it where they are given,
a path, a query and a fragment.  Read from a text it is put into one form: the scheme and the host
in small letters, names in ASCII, the usual number left out, steps to the same and to the upper
level taken, and characters that must not stand in a part escaped.  `Address.ofString` reads an address and `Address.text` writes it.
-/

namespace ApiCompiler

/-- An address in its plain form. -/
structure Address where
  scheme : String
  user : List Char
  host : List Char
  /-- The number behind the host, if it is not the usual one of the scheme. -/
  portNumber : Option Int
  path : List Char
  query : Option (List Char)
  fragment : Option (List Char)

namespace Address

/-- Why a text is no address that can be asked. -/
inductive Fault where
  | tooLong
  | control (c : Char) (position : Nat)
  | fourNumbers (host : String)
  | hexNumbers (host : String)
  | name (host : String)
  | portNumber (text : String)
  | label (why : LabelFault)
  /-- The address leads nowhere, since it has no scheme or no host. -/
  | nowhere (target : String)

/-- The wording of a fault. -/
def Fault.message : Fault → String
  | .tooLong => "URL too long"
  | .control c position =>
    "Invalid non-printable ASCII character in URL, " ++ Text.quoted (String.singleton c) ++
      s!" at position {position}."
  | .fourNumbers host => "Invalid IPv4 address: " ++ Text.quoted host
  | .hexNumbers host => "Invalid IPv6 address: " ++ Text.quoted host
  | .name host => "Invalid IDNA hostname: " ++ Text.quoted host
  | .portNumber text => "Invalid port: " ++ Text.quoted text
  | .label why => why.message
  | .nowhere target => "unknown url type: " ++ Text.quoted target

/-! ## Characters of the parts -/

/-- Whether a character is a visible ASCII one and not among those refused. -/
def isVisibleBut (refused : String) (c : Char) : Bool :=
  ' ' < c && c ≤ '~' && !refused.toList.contains c

/-- The characters that may stand in a path. -/
def isPathChar : Char → Bool := isVisibleBut "\"#<>?`\x7b\x7d"

/-- The characters that may stand in a query. -/
def isQueryChar : Char → Bool := isVisibleBut "\"#<>"

/-- The characters that may stand in a fragment. -/
def isFragmentChar : Char → Bool := isVisibleBut "\"<>`"

/-- The characters that may stand in a user. -/
def isUserChar : Char → Bool := isVisibleBut "\"#<>?`\x7b\x7d/;=@[\\]^|"

/-- The characters that may stand in a name. -/
def isNameChar : Char → Bool := isVisibleBut "#/:<>?@[]^"

/-! ## Hosts and ports -/

/-- Whether characters look like four numbers with a character between each two. -/
def looksNumeric (cs : List Char) : Bool :=
  let runs := CodePoints.cut '.' (cs.map fun c => if isDecimal c then c else '.')
  runs.all (!·.isEmpty) && runs.length ≤ 4 &&
    4 ≤ runs.foldl (fun n r => n + (r.length - 1) / 2) runs.length

/-- The plain form of a host. -/
def plainHost (cs : List Char) : Except Fault (List Char) :=
  if cs.isEmpty then .ok []
  else if looksNumeric cs then
    if isFourNumbers cs then .ok cs else .error (.fourNumbers (String.ofList cs))
  else if cs.head? = some '[' && cs.getLast? = some ']' then
    let number := (cs.drop 1).dropLast
    if isHexNumbers number then .ok number else .error (.hexNumbers (String.ofList cs))
  else if cs.all fun c => c.toNat < 128 then
    .ok (Percent.encode isNameChar (cs.map Char.toLower))
  else
    match Label.nameToAscii (Text.lower cs) with
    | .ok name => .ok name
    | .error _ => .error (.name (String.ofList cs))

/-- The number behind a host that need not be written; the scheme must be in small letters. -/
def usualPort? (scheme : String) : Option Int :=
  if scheme = "http" then some 80 else if scheme = "https" then some 443 else none

/-- The plain form of the number behind a host; the usual one is left out. -/
def plainPort (scheme : String) (cs : List Char) : Except Fault (Option Int) :=
  if cs.isEmpty then .ok none
  else
    match Text.wholeNumber? cs with
    | none => .error (.portNumber (String.ofList cs))
    | some n => .ok (if usualPort? scheme = some n then none else some n)

/-! ## Paths -/

/-- Takes the steps to the same and to the upper level; `done` are the names so far, the last one
first. -/
def takeSteps (done : List (List Char)) : List (List Char) → List (List Char)
  | [] => done.reverse
  | ['.'] :: rest => takeSteps done rest
  | ['.', '.'] :: rest => takeSteps (if done = [[]] then done else done.drop 1) rest
  | name :: rest => takeSteps (name :: done) rest

/-- The plain form of a path. -/
def plainPath (cs : List Char) : List Char :=
  ['/'].intercalate (takeSteps [] (CodePoints.cut '/' cs))

/-! ## Reading -/

/-- Cuts a text at the first occurrence of a character, which is left out. -/
def cutAt (separator : Char) (cs : List Char) : List Char × Option (List Char) :=
  match cs.dropWhile (· ≠ separator) with
  | [] => (cs, none)
  | _ :: rest => (cs.takeWhile (· ≠ separator), some rest)

/-- Whether a character may stand in a scheme. -/
def isSchemeChar (c : Char) : Bool := c.isAlphanum || c = '+' || c = '-' || c = '.'

/-- The scheme of an address, and what follows its colon. -/
def cutScheme (cs : List Char) : List Char × List Char :=
  let front := cs.takeWhile isSchemeChar
  match front.head?.all Char.isAlpha, cs.drop front.length with
  | true, ':' :: rest => (front, rest)
  | _, _ => ([], cs)

/-- The part between two slashes and the path, and what follows it. -/
def cutAuthority (cs : List Char) : List Char × List Char :=
  match cs with
  | '/' :: '/' :: rest =>
    let inside (c : Char) : Bool := c ≠ '/' && c ≠ '?' && c ≠ '#'
    (rest.takeWhile inside, rest.dropWhile inside)
  | _ => ([], cs)

/-- The user, which ends at the last at sign, and what follows it. -/
def cutUser (cs : List Char) : List Char × List Char :=
  let back := cs.reverse.takeWhile (· ≠ '@')
  if back.length = cs.length then ([], cs)
  else (cs.take (cs.length - back.length - 1), back.reverse)

/-- The host and the number behind it. -/
def cutPort (cs : List Char) : List Char × List Char :=
  let host :=
    if cs.head? = some '[' && cs.contains ']' then (cs.reverse.dropWhile (· ≠ ']')).reverse
    else cs.takeWhile fun c => c ≠ ':' && c ≠ '@'
  match cs.drop host.length with
  | ':' :: number => (host, number)
  | number => (host, number)

/-- The characters that an address has at most. -/
def lengthLimit : Nat := 65536

/-- Refuses a text that is too long or has control characters. -/
def checkText (cs : List Char) : Except Fault Unit :=
  let isControl (c : Char) : Bool := c < ' ' || c = '\x7f'
  if cs.length > lengthLimit then .error .tooLong
  else
    match cs.find? isControl with
    | some c => .error (.control c (cs.takeWhile (!isControl ·)).length)
    | none => .ok ()

/-- The address that a text spells. -/
def ofString (s : String) : Except Fault Address := do
  let cs := s.toList
  checkText cs
  let (scheme, rest) := cutScheme cs
  let (authority, rest) := cutAuthority rest
  let (rest, fragment) := cutAt '#' rest
  let (path, query) := cutAt '?' rest
  let (user, rest) := cutUser authority
  let (host, number) := cutPort rest
  let host ← plainHost host
  let portNumber ← plainPort (String.ofList scheme) number
  let path := if scheme.isEmpty && authority.isEmpty then path else plainPath path
  pure
    { scheme := String.ofList (scheme.map Char.toLower)
      user := Percent.encode isUserChar user
      host := host
      portNumber := portNumber
      path := Percent.encode isPathChar path
      query := query.map (Percent.encode isQueryChar)
      fragment := fragment.map (Percent.encode isFragmentChar) }

/-! ## Writing -/

/-- The user, the host and the number behind it. -/
def authority (a : Address) : List Char :=
  (if a.user.isEmpty then [] else a.user ++ ['@']) ++
    (if a.host.contains ':' then '[' :: a.host ++ [']'] else a.host) ++
    match a.portNumber with
    | some n => ':' :: (toString n).toList
    | none => []

/-- The path and the query. -/
def pathAndQuery (a : Address) : List Char :=
  a.path ++ match a.query with
    | some q => '?' :: q
    | none => []

/-- An address as a text. -/
def text (a : Address) : String :=
  String.ofList
    ((if a.scheme.isEmpty then [] else a.scheme.toList ++ [':']) ++
      (if a.authority.isEmpty then [] else '/' :: '/' :: a.authority) ++
      a.pathAndQuery ++
      match a.fragment with
      | some f => '#' :: f
      | none => [])

/-! ## Asking -/

/-- Checks that a host in Punycode spells a name. -/
def checkHost (a : Address) : Except Fault Unit :=
  if Label.mark.isPrefixOf a.host then
    (Label.checkName a.host).mapError .label
  else .ok ()

/-- Checks that an address leads somewhere. -/
def checkTarget (a : Address) : Except Fault Unit :=
  if a.scheme.isEmpty || a.host.isEmpty then
    .error (.nowhere (String.ofList ('/' :: a.pathAndQuery.dropWhile (· = '/'))))
  else .ok ()

end Address
end ApiCompiler
