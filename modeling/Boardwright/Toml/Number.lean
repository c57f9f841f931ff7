import Boardwright.Toml.Token
import Boardwright.Toml.Value

/-!
# TOML numbers, dates and times

The scanner finds where a number or a date ends; whether it is one is decided here.
-/

namespace Boardwright.Toml

/-- An underscore in a number has a digit before it, and it is not the last character. -/
def underscoresFit (isDigit : Char → Bool) (before : Bool) : List Char → Bool
  | [] => true
  | c :: cs => !(c = '_' && (!before || cs.isEmpty)) && underscoresFit isDigit (isDigit c) cs

/-- The number written by digits of a base; there is at least one digit. -/
def natOf? (base : Nat) (digits : List Char) : Option Nat :=
  if digits.isEmpty then none
  else digits.foldl (fun n c => do
    let d ← hexValue? c
    if d < base then return base * (← n) + d else none) (some 0)

/-- Splits off a sign.  The flag is set for a minus. -/
def splitSign : List Char → Option Bool × List Char
  | '+' :: cs => (some false, cs)
  | '-' :: cs => (some true, cs)
  | cs => (none, cs)

/-- An integer.  A leading zero is only allowed in numbers of two digits, or behind a sign. -/
def integer? (text : List Char) : Option Item := do
  let clean := text.filter (· != '_')
  let (base, digits) ← match clean with
    | '0' :: mark :: d :: rest =>
      if mark = 'x' then some (16, d :: rest)
      else if mark = 'o' then some (8, d :: rest)
      else if mark = 'b' then some (2, d :: rest)
      else none
    | _ => some (10, clean)
  let isDigit : Char → Bool := if base = 16 then fun c => (hexValue? c).isSome else Char.isDigit
  if !underscoresFit isDigit false text then none
  else
    let (sign, body) := splitSign digits
    let n ← natOf? base body
    if sign = some true then
      if n ≤ Nat.pow 2 63 then some (.integer (.ofInt (-n))) else none
    else if n < Nat.pow 2 63 then some (.integer (.ofNat n))
    else if sign.isNone && n < Nat.pow 2 64 then some (.unsigned n)
    else none

/-- Digits, and how many of them stand behind the point. -/
def mantissa? (cs : List Char) : Option (Nat × Nat) := do
  let whole := cs.takeWhile Char.isDigit
  match cs.dropWhile Char.isDigit with
  | [] => return (← natOf? 10 whole, 0)
  | '.' :: fraction => return (← natOf? 10 (whole ++ fraction), fraction.length)
  | _ => none

/-- A decimal with a sign and an exponent, which may be missing. -/
def decimal? (cs : List Char) : Option Real := do
  let (sign, body) := splitSign cs
  let isMark (c : Char) : Bool := c = 'e' || c = 'E'
  let (digits, places) ← mantissa? (body.takeWhile (!isMark ·))
  let power ← match body.dropWhile (!isMark ·) with
    | [] => some 0
    | _ :: power =>
      let (sign, digits) := splitSign power
      (natOf? 10 digits).map fun n => if sign = some true then -(n : Int) else n
  let size : Decimal := ⟨digits, power - places⟩
  if size.overflows then none else some (.finite (sign = some true) size)

/-- A number with a fraction or an exponent. -/
def real? (text : List Char) : Option Item :=
  if underscoresFit Char.isDigit false text then (decimal? (text.filter (· != '_'))).map .real
  else none

/-! ## Dates and times -/

/-- Days of a month, in a year with or without a leap day. -/
def daysInMonth (year month : Nat) : Nat :=
  if month = 2 then
    if year % 4 = 0 && (year % 100 != 0 || year % 400 = 0) then 29 else 28
  else if month = 4 || month = 6 || month = 9 || month = 11 then 30 else 31

def isDate (text : List Char) : Bool :=
  match natOf? 10 (text.take 4), natOf? 10 ((text.drop 5).take 2), natOf? 10 (text.drop 8) with
  | some year, some month, some day =>
    1 ≤ month && month ≤ 12 && 1 ≤ day && day ≤ daysInMonth year month
  | _, _, _ => false

def isTime (text : List Char) : Bool :=
  match natOf? 10 (text.take 2), natOf? 10 ((text.drop 3).take 2),
      natOf? 10 ((text.drop 6).take 2) with
  | some hour, some minute, some second => hour < 24 && minute < 60 && second < 60
  | _, _, _ => false

def isOffset (text : List Char) : Bool :=
  match text with
  | ['Z'] => true
  | _ => match natOf? 10 ((text.drop 1).take 2), natOf? 10 (text.drop 4) with
    | some hour, some minute => hour ≤ 24 && minute ≤ 60
    | _, _ => false

end Boardwright.Toml
