import ApiCompiler.Text.Classes
import ApiCompiler.Text.Letters
import ApiCompiler.Text.CodePoints

/-!
# Styles

A style is written as words: attributes, which `not` may negate, a colour, a colour after `on` for
the background, and an address after `link`.  One style has many spellings.  `normal?` brings them
to one: attributes in a fixed order by their full names, then the colour, the background and the
address.

Words that are no style stand for themselves, in lower case.
-/

namespace ApiCompiler
namespace Style

/-- The attributes in the order they are written, each with its short names. -/
def attributes : List (String × List String) :=
  [("bold", ["b"]), ("dim", ["d"]), ("italic", ["i"]), ("underline", ["u"]), ("blink", []),
    ("blink2", []), ("reverse", ["r"]), ("conceal", ["c"]), ("strike", ["s"]),
    ("underline2", ["uu"]), ("frame", []), ("encircle", []), ("overline", ["o"])]

/-- The full name of an attribute. -/
def attribute? (word : List Char) : Option String :=
  let word := String.ofList word
  (attributes.find? fun a => a.1 = word || a.2.contains word).map (·.1)

/-- The names of colours. -/
def colourNames : List (List Char) := CodePoints.entries
  "black red green yellow blue magenta cyan white bright_black bright_red bright_green
   bright_yellow bright_blue bright_magenta bright_cyan bright_white grey0 gray0 navy_blue
   dark_blue blue3 blue1 dark_green deep_sky_blue4 dodger_blue3 dodger_blue2 green4 spring_green4
   turquoise4 deep_sky_blue3 dodger_blue1 green3 spring_green3 dark_cyan light_sea_green
   deep_sky_blue2 deep_sky_blue1 spring_green2 cyan3 dark_turquoise turquoise2 green1
   spring_green1 medium_spring_green cyan2 cyan1 dark_red deep_pink4 purple4 purple3 blue_violet
   orange4 grey37 gray37 medium_purple4 slate_blue3 royal_blue1 chartreuse4 dark_sea_green4
   pale_turquoise4 steel_blue steel_blue3 cornflower_blue chartreuse3 cadet_blue sky_blue3
   steel_blue1 pale_green3 sea_green3 aquamarine3 medium_turquoise chartreuse2 sea_green2
   sea_green1 aquamarine1 dark_slate_gray2 dark_magenta dark_violet purple light_pink4 plum4
   medium_purple3 slate_blue1 yellow4 wheat4 grey53 gray53 light_slate_grey light_slate_gray
   medium_purple light_slate_blue dark_olive_green3 dark_sea_green light_sky_blue3 sky_blue2
   dark_sea_green3 dark_slate_gray3 sky_blue1 chartreuse1 light_green pale_green1
   dark_slate_gray1 red3 medium_violet_red magenta3 dark_orange3 indian_red hot_pink3
   medium_orchid3 medium_orchid medium_purple2 dark_goldenrod light_salmon3 rosy_brown grey63
   gray63 medium_purple1 gold3 dark_khaki navajo_white3 grey69 gray69 light_steel_blue3
   light_steel_blue yellow3 dark_sea_green2 light_cyan3 light_sky_blue1 green_yellow
   dark_olive_green2 dark_sea_green1 pale_turquoise1 deep_pink3 magenta2 hot_pink2 orchid
   medium_orchid1 orange3 light_pink3 pink3 plum3 violet light_goldenrod3 tan misty_rose3
   thistle3 plum2 khaki3 light_goldenrod2 light_yellow3 grey84 gray84 light_steel_blue1 yellow2
   dark_olive_green1 honeydew2 light_cyan1 red1 deep_pink2 deep_pink1 magenta1 orange_red1
   indian_red1 hot_pink dark_orange salmon1 light_coral pale_violet_red1 orchid2 orchid1 orange1
   sandy_brown light_salmon1 light_pink1 pink1 plum1 gold1 navajo_white1 misty_rose1 thistle1
   yellow1 light_goldenrod1 khaki1 wheat1 cornsilk1 grey100 gray100 grey3 gray3 grey7 gray7
   grey11 gray11 grey15 gray15 grey19 gray19 grey23 gray23 grey27 gray27 grey30 gray30 grey35
   gray35 grey39 gray39 grey42 gray42 grey46 gray46 grey50 gray50 grey54 gray54 grey58 gray58
   grey62 gray62 grey66 gray66 grey70 gray70 grey74 gray74 grey78 gray78 grey82 gray82 grey85
   gray85 grey89 gray89 grey93 gray93"

/-! ## Colours -/

/-- What a word says about a colour. -/
inductive Colour where
  /-- It is the colour of this name. -/
  | named (name : List Char)
  /-- It is no colour. -/
  | none
  /-- It has a component that is no number. -/
  | broken

/-- The value of a decimal digit of any script. -/
def digitValue (c : Char) : Nat :=
  ((Text.digitZeros.find? fun z => z ≤ c.toNat && c.toNat < z + 10).map (c.toNat - ·)).getD 0

/-- The number that digits spell. -/
def number (cs : List Char) : Nat := cs.foldl (fun n c => 10 * n + digitValue c) 0

/-- Whether a word is a hexadecimal colour. -/
def isHexadecimal : List Char → Bool
  | '#' :: cs => cs.length = 6 && cs.all fun c => (CodePoints.hexValue? c).isSome
  | _ => false

/-- What stands between the brackets after a name. -/
def inBrackets? (name : String) (word : List Char) : Option (List Char) :=
  let front := name.toList ++ ['(']
  if front.isPrefixOf word && word.getLast? = some ')' then
    some ((word.drop front.length).dropLast)
  else none

/-- The colour that a word in lower case names. -/
def colour (word : List Char) : Colour :=
  if word = "default".toList || colourNames.contains word || isHexadecimal word then .named word
  else
    match inBrackets? "color" word, inBrackets? "rgb" word with
    | some cs, _ =>
      if 1 ≤ cs.length && cs.length ≤ 3 && (cs.all fun c => '0' ≤ c && c ≤ '9') &&
        number cs ≤ 255 then .named word else .none
    | none, some cs =>
      if cs.isEmpty || !cs.all fun c => c = ',' || Text.isDigit c then .none
      else
        match CodePoints.cut ',' cs with
        | [r, g, b] =>
          if r.isEmpty || g.isEmpty || b.isEmpty then .broken
          else if number r ≤ 255 && number g ≤ 255 && number b ≤ 255 then .named word
          else .none
        | _ => .none
    | none, none => .none

/-! ## Reading -/

/-- What words say. -/
structure Reading where
  attributes : List (String × Bool)
  colour : Option (List Char)
  background : Option (List Char)
  link : Option (List Char)

/-- Why words are no style. -/
inductive Flaw where
  /-- They are not understood. -/
  | unknown
  /-- A colour has a component that is no number. -/
  | brokenColour

/-- The name of the colour that a word has to name. -/
def colourName (word : List Char) : Except Flaw (List Char) :=
  match colour (Text.strip (Text.lower word)) with
  | .named name => .ok name
  | .none => .error .unknown
  | .broken => .error .brokenColour

/-- Reads words after what was read of them. -/
def read (r : Reading) : List (List Char) → Except Flaw Reading
  | [] => .ok r
  | first :: rest =>
    let word := Text.lower first
    if word = "on".toList then
      match rest with
      | [] => .error .unknown
      | next :: rest =>
        match colourName next with
        | .error e => .error e
        | .ok c => read ⟨r.attributes, r.colour, some c, r.link⟩ rest
    else if word = "not".toList then
      match rest with
      | [] => .error .unknown
      | next :: rest =>
        match attribute? next with
        | none => .error .unknown
        | some a => read ⟨(a, false) :: r.attributes, r.colour, r.background, r.link⟩ rest
    else if word = "link".toList then
      match rest with
      | [] => .error .unknown
      | next :: rest => read ⟨r.attributes, r.colour, r.background, some next⟩ rest
    else
      match attribute? word with
      | some a => read ⟨(a, true) :: r.attributes, r.colour, r.background, r.link⟩ rest
      | none =>
        match colourName word with
        | .error e => .error e
        | .ok c => read ⟨r.attributes, some c, r.background, r.link⟩ rest

/-- The words of a text, which stand between blanks. -/
def words (cs : List Char) : List (List Char) :=
  (CodePoints.cut ' ' (cs.map fun c => if Text.isSpace c then ' ' else c)).filter (· ≠ [])

/-- The normal spelling of what was read. -/
def Reading.spelling (r : Reading) : List Char :=
  let attributes := Style.attributes.filterMap fun a =>
    (r.attributes.find? fun b => b.1 = a.1).map fun b =>
      if b.2 then a.1.toList else "not ".toList ++ a.1.toList
  let parts := attributes ++ r.colour.toList ++
    (r.background.map ("on ".toList ++ ·)).toList ++ (r.link.map ("link ".toList ++ ·)).toList
  if parts.isEmpty then "none".toList else [' '].intercalate parts

/-- The normal spelling of a style; none if a colour in it is broken. -/
def normal? (style : List Char) : Option (List Char) :=
  if Text.strip style = "none".toList then some "none".toList
  else
    match read ⟨[], none, none, none⟩ (words style) with
    | .ok r => some r.spelling
    | .error .unknown => some (Text.lower (Text.strip style))
    | .error .brokenColour => none

end Style
end ApiCompiler
