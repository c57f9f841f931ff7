import Boardwright.Text.Invisible

/-!
# Quoted text

Names and addresses inside diagnostics and generated expressions stand between double quotes.
A quote or a backslash is written with a backslash in front, the seven classic control characters
have one-letter forms, and every other character without a visible form is written by its number.
-/

namespace Boardwright.Text

/-- Whether a character is written as itself: the visible part of ASCII, and above it everything
outside `invisibleRanges`. -/
def isVisible (c : Char) : Bool :=
  let n := c.toNat
  if n < 0x80 then 0x20 ≤ n && n < 0x7f
  else !invisibleRanges.any fun r => r.1 ≤ n && n ≤ r.2

/-- One hexadecimal digit in lower case. -/
def hexDigit (n : Nat) : Char :=
  if n < 10 then Char.ofNat (48 + n) else Char.ofNat (87 + n)

/-- The last `width` hexadecimal digits of `n`, leading zeros kept. -/
def hex : Nat → Nat → List Char
  | 0, _ => []
  | width + 1, n => hex width (n / 16) ++ [hexDigit (n % 16)]

/-- The written form of one character between quotes. -/
def escape (c : Char) : List Char :=
  let n := c.toNat
  if n = 0x22 || n = 0x5c then ['\\', c]
  else if isVisible c then [c]
  else if n = 0x07 then ['\\', 'a']
  else if n = 0x08 then ['\\', 'b']
  else if n = 0x0c then ['\\', 'f']
  else if n = 0x0a then ['\\', 'n']
  else if n = 0x0d then ['\\', 'r']
  else if n = 0x09 then ['\\', 't']
  else if n = 0x0b then ['\\', 'v']
  else if n < 0x80 then ['\\', 'x'] ++ hex 2 n
  else if n < 0x10000 then ['\\', 'u'] ++ hex 4 n
  else ['\\', 'U'] ++ hex 8 n

/-- The text between double quotes. -/
def quote (s : String) : String :=
  "\"" ++ String.ofList (s.toList.flatMap escape) ++ "\""

end Boardwright.Text
