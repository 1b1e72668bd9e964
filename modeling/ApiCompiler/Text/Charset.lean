import ApiCompiler.Text.CharsetTables
import ApiCompiler.Text.CodePoints

/-!
# Character sets

Content is sent as bytes, and the sender may declare how they spell characters.  A character set
is found by any of its names, in which case and signs do not count; `Charset.decode` reads bytes
that are the UTF-8 form of a text as the characters of a set.  What spells no character reads as
U+FFFD.
-/

namespace ApiCompiler

/-- How bytes spell characters. -/
inductive Charset where
  /-- UTF-8; a mark at the beginning may be dropped. -/
  | utf8 (dropMark : Bool)
  /-- One byte for each character; a list of 128 characters is for the upper half. -/
  | oneByte (characters : List Nat)
  /-- Units of two bytes, the more significant byte first or last. -/
  | utf16 (big : Bool)
  /-- Units of four bytes, the most significant byte first or last. -/
  | utf32 (big : Bool)
  /-- Units of the given number of bytes in an order that a mark declares. -/
  | marked (size : Nat)
  /-- A name that is known, but not for a way to spell characters. -/
  | refused (reason : String)

namespace Charset

/-! ## Names -/

/-- A name with each run of signs as one underscore, and none at the beginning. -/
def plainName (cs : List Char) : List Char :=
  let parts := CodePoints.cut '_' (cs.map fun c => if c.isAlphanum then c.toLower else '_')
  ['_'].intercalate (parts.filter (· ≠ []))

/-- The characters that a row of the tables lists. -/
def charactersOf (row : String) : List Nat :=
  (CodePoints.ofText row).flatMap fun r => List.range' r.1 (r.2 + 1 - r.1)

/-- The sets that are not in the tables, with their names. -/
def others : List (String × Charset) :=
  [("utf_8 cp65001 u8 utf utf8 utf8_ucs2 utf8_ucs4", .utf8 false),
   ("utf_8_sig", .utf8 true),
   ("ascii 646 ansi_x3_4_1968 ansi_x3_4_1986 cp367 csascii ibm367 iso646_us iso_646_irv_1991
    iso_ir_6 us us_ascii", .oneByte []),
   ("utf_16_be unicodebigunmarked utf_16be", .utf16 true),
   ("utf_16_le unicodelittleunmarked utf_16le", .utf16 false),
   ("utf_32_be utf_32be", .utf32 true),
   ("utf_32_le utf_32le", .utf32 false),
   ("utf_16 u16 utf16", .marked 2),
   ("utf_32 u32 utf32", .marked 4),
   ("charmap unicode_escape raw_unicode_escape", .oneByte (List.range' 128 128)),
   ("base64_codec base64 base_64 bz2_codec bz2 hex_codec hex quopri_codec quopri quoted_printable
    quotedprintable uu_codec uu zlib_codec zip zlib", .refused ""),
   ("rot_13 rot13",
    .refused "descriptor 'translate' for 'str' objects doesn't apply to a 'bytes' object"),
   ("idna", .refused "Unsupported error handling replace"),
   ("undefined", .refused "undefined encoding")]

/-- The sets whose characters take several bytes and are not in the tables; of them the ASCII
characters are read. -/
def manyBytes : String :=
  "big5 big5_tw csbig5 x_mac_trad_chinese big5hkscs big5_hkscs hkscs cp932 932 ms932 ms_kanji
   mskanji cp949 949 ms949 uhc cp950 950 ms950 euc_jis_2004 euc_jis2004 eucjis2004 jisx0213
   euc_jisx0213 eucjisx0213 euc_jp eucjp u_jis ujis euc_kr euckr korean ks_c_5601
   ks_c_5601_1987 ks_x_1001 ksc5601 ksx1001 x_mac_korean gb18030 gb18030_2000 gb2312 chinese
   csiso58gb231280 euc_cn euccn eucgb2312_cn gb2312_1980 gb2312_80 iso_ir_58 x_mac_simp_chinese
   gbk 936 cp936 ms936 hz hz_gb hz_gb_2312 hzgb iso2022_jp csiso2022jp iso2022jp iso_2022_jp
   iso2022_jp_1 iso2022jp_1 iso_2022_jp_1 iso2022_jp_2 iso2022jp_2 iso_2022_jp_2
   iso2022_jp_2004 iso2022jp_2004 iso_2022_jp_2004 iso2022_jp_3 iso2022jp_3 iso_2022_jp_3
   iso2022_jp_ext iso2022jp_ext iso_2022_jp_ext iso2022_kr csiso2022kr iso2022kr iso_2022_kr
   johab cp1361 ms1361 shift_jis csshiftjis s_jis shiftjis sjis x_mac_japanese shift_jis_2004
   s_jis_2004 shiftjis2004 sjis_2004 shift_jisx0213 s_jisx0213 shiftjisx0213 sjisx0213 utf_7 u7
   unicode_1_1_utf_7 utf7"

/-- Whether a name is among those listed. -/
def isListed (name : List Char) (names : String) : Bool := (CodePoints.entries names).contains name

/-- The set of a name. -/
def named? (name : String) : Option Charset :=
  let plain := plainName name.toList
  ((others.find? fun r => isListed plain r.1).map (·.2)).or
    (((rows.find? fun r => isListed plain r.1).map fun r => .oneByte (charactersOf r.2)).or
      (if isListed plain manyBytes then some (.oneByte []) else none))

/-! ## Reading bytes -/

/-- The mark of what spells no character. -/
def replacement : Char := '\uFFFD'

/-- The character of a byte; `characters` are those of all bytes or of the upper half. -/
def ofByte (characters : Array Nat) (b : UInt8) : Char :=
  let n := b.toNat
  if characters.size ≤ 128 then
    if n < 128 then Char.ofNat n else Char.ofNat (characters[n - 128]?.getD 0xFFFD)
  else Char.ofNat (characters[n]?.getD 0xFFFD)

/-- The number that bytes spell, the most significant one first. -/
def number (bytes : List UInt8) : Nat := bytes.foldl (fun n b => 256 * n + b.toNat) 0

/-- The numbers that units of bytes spell, and whether bytes are left over. -/
def units (size : Nat) (big : Bool) : Nat → List UInt8 → List Nat × Bool
  | 0, bytes => ([], !bytes.isEmpty)
  | fuel + 1, bytes =>
    if bytes.length < size then ([], !bytes.isEmpty)
    else
      let unit := bytes.take size
      let (more, left) := units size big fuel (bytes.drop size)
      (number (if big then unit else unit.reverse) :: more, left)

/-- Whether a number is the first, or the second, half of a pair. -/
def isHalf (second : Bool) (n : Nat) : Bool :=
  if second then 0xDC00 ≤ n && n < 0xE000 else 0xD800 ≤ n && n < 0xDC00

/-- The characters of units of two bytes; bytes that are left over spell none, together with a
first half before them. -/
def ofPairs (left : Bool) : List Nat → List Char
  | [] => if left then [replacement] else []
  | [n] =>
    if isHalf false n then [replacement]
    else (if isHalf true n then replacement else Char.ofNat n) :: if left then [replacement] else []
  | n :: m :: rest =>
    if isHalf false n && isHalf true m then
      Char.ofNat (0x10000 + (n - 0xD800) * 0x400 + (m - 0xDC00)) :: ofPairs left rest
    else
      (if isHalf false n || isHalf true n then replacement else Char.ofNat n) ::
        ofPairs left (m :: rest)

/-- The characters of units of four bytes. -/
def ofQuads (units : List Nat) (left : Bool) : List Char :=
  (units.map fun n => if n.isValidChar then Char.ofNat n else replacement) ++
    if left then [replacement] else []

/-- Reads a text, sent as UTF-8, as the characters of a set. -/
def decode (set : Charset) (sent : String) : Except String String :=
  let bytes := sent.toUTF8.toList
  match set with
  | .utf8 dropMark =>
    .ok (if dropMark && sent.toList.head? = some '\uFEFF' then
      String.ofList (sent.toList.drop 1) else sent)
  | .oneByte characters =>
    let table := characters.toArray
    .ok (String.ofList (bytes.map (ofByte table)))
  | .utf16 big =>
    let (us, left) := units 2 big bytes.length bytes
    .ok (String.ofList (ofPairs left us))
  | .utf32 big =>
    let (us, left) := units 4 big bytes.length bytes
    .ok (String.ofList (ofQuads us left))
  | .marked size =>
    -- no text in UTF-8 begins with a mark of this kind
    if bytes.length < size then .ok (if bytes.isEmpty then "" else String.singleton replacement)
    else .error s!"UTF-{8 * size} stream does not start with BOM"
  | .refused reason => if bytes.isEmpty then .ok "" else .error reason

end Charset
end ApiCompiler
