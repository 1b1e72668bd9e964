import ApiCompiler.Text.CodePoints

/-!
# Percent escapes

A character that must not stand in a part of an address is written as its UTF-8 bytes, each a
percent sign and two hexadecimal digits.  An escape that is there already stays as it is.
-/

namespace ApiCompiler
namespace Percent

/-- The capital hexadecimal digit of a number below sixteen. -/
def digit (n : Nat) : Char :=
  if n < 10 then Char.ofNat (48 + n) else Char.ofNat (55 + n)

/-- The escape of a byte. -/
def ofByte (b : UInt8) : List Char := ['%', digit (b.toNat / 16), digit (b.toNat % 16)]

/-- A character as escapes of its bytes. -/
def ofChar (c : Char) : List Char := (String.utf8EncodeChar c).flatMap ofByte

/-- Whether a character is a hexadecimal digit. -/
def isHex (c : Char) : Bool := (CodePoints.hexValue? c).isSome

/-- Escapes all characters but those that may stand and those of an escape. -/
def encode (mayStand : Char → Bool) : List Char → List Char
  | '%' :: a :: b :: rest =>
    if isHex a && isHex b then '%' :: a :: b :: encode mayStand rest
    else (if mayStand '%' then ['%'] else ofChar '%') ++ encode mayStand (a :: b :: rest)
  | c :: rest => (if mayStand c then [c] else ofChar c) ++ encode mayStand rest
  | [] => []

end Percent
end ApiCompiler
