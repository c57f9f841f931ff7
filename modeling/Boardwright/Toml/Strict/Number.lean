import Boardwright.Toml.Number

/-!
# Numbers, dates and times of a strict document

Integers have 64 bits with sign.  No number starts with an idle zero, and an underscore stands
between two digits.
-/

namespace Boardwright.Toml.Strict

/-- Whether each underscore stands between two digits. -/
def underscoresDivide (isDigit : Char → Bool) : Option Char → List Char → Bool
  | _, [] => true
  | before, c :: cs =>
    (c != '_' || (before.any isDigit && cs.head?.any isDigit)) &&
      underscoresDivide isDigit (some c) cs

/-- The digits of a number without its underscores. -/
def undivided? (isDigit : Char → Bool) (text : List Char) : Option (List Char) :=
  if underscoresDivide isDigit none text then some (text.filter (· != '_')) else none

/-- An integer that fits. -/
def fitting? (negative : Bool) (n : Nat) : Option Item :=
  let limit := Nat.pow 2 63
  if n < limit || (negative && n = limit) then
    some (.integer (.ofInt (if negative then -n else n)))
  else none

/-- A decimal integer. -/
def decimalInteger? (text : List Char) : Option Item := do
  let (sign, digits) := splitSign (← undivided? Char.isDigit text)
  if digits.length > 1 && digits.head? = some '0' then none
  else fitting? (sign = some true) (← natOf? 10 digits)

/-- An integer in another base, from behind its mark on. -/
def basedInteger? (base : Nat) (text : List Char) : Option Item := do
  fitting? false (← natOf? base (← undivided? (fun c => (hexValue? c).isSome) text))

/-- Whether each point stands between two digits. -/
def pointsDivide : Option Char → List Char → Bool
  | _, [] => true
  | before, c :: cs =>
    (c != '.' || (before.any Char.isDigit && cs.head?.any Char.isDigit)) && pointsDivide (some c) cs

/-- A number with a fraction or an exponent. -/
def realNumber? (text : List Char) : Option Item := do
  let clean ← undivided? Char.isDigit text
  let idle := match (splitSign text).2 with
    | '0' :: c :: _ => c.isDigit
    | _ => false
  if idle || !pointsDivide none clean then none else (decimal? clean).map .real

/-- A special number, which may have a sign. -/
def special? (cs : List Char) : Option (Item × List Char) :=
  match splitSign cs with
  | (sign, 'i' :: 'n' :: 'f' :: rest) => some (.real (.infinite (sign = some true)), rest)
  | (_, 'n' :: 'a' :: 'n' :: rest) => some (.real .undefined, rest)
  | _ => none

/-- What starts a fraction or an exponent. -/
def isMark (c : Char) : Bool := c = '.' || c = 'e' || c = 'E'

/-- A decimal number. -/
def decimalNumber (cs : List Char) : Option (Item × List Char) :=
  let belongs (c : Char) : Bool := c.isDigit || c = '+' || c = '-' || c = '_' || isMark c
  let text := cs.takeWhile belongs
  let item? := if text.any isMark then realNumber? text else decimalInteger? text
  item?.map (·, cs.dropWhile belongs)

/-- A number of any form.  A zero stands alone unless a fraction, an exponent or a base follows. -/
def number (cs : List Char) : Option (Item × List Char) :=
  let based (base : Nat) (mark : Char) (rest : List Char) : Option (Item × List Char) := do
    let isDigit ← digitOf? mark
    return (← basedInteger? base (rest.takeWhile isDigit), rest.dropWhile isDigit)
  match cs with
  | '0' :: 'x' :: rest => based 16 'x' rest
  | '0' :: 'o' :: rest => based 8 'o' rest
  | '0' :: 'b' :: rest => based 2 'b' rest
  | '0' :: rest => if rest.head?.any isMark then decimalNumber cs else some (.integer 0, rest)
  | _ => (special? cs).or (decimalNumber cs)

/-! ## Dates and times -/

/-- What follows a time of day. -/
def afterTime? (cs : List Char) : Option (List Char) := do
  let (hour, cs) ← twoDigits cs
  let cs ← exactly ':' cs
  let (minute, cs) ← twoDigits cs
  let cs ← exactly ':' cs
  let (second, cs) ← twoDigits cs
  guard ((← natOf? 10 hour) ≤ 23 && (← natOf? 10 minute) ≤ 59 && (← natOf? 10 second) ≤ 60)
  match cs with
  | '.' :: cs => if cs.head?.any Char.isDigit then some (cs.dropWhile Char.isDigit) else none
  | cs => some cs

/-- What follows the distance from universal time, if one is given. -/
def afterZone? (cs : List Char) : Option (List Char) :=
  match cs with
  | [] => some []
  | c :: rest =>
    if c = 'Z' || c = 'z' then some rest
    else if c = '+' || c = '-' then do
      let (hour, rest) ← twoDigits rest
      let rest ← exactly ':' rest
      let (minute, rest) ← twoDigits rest
      guard ((← natOf? 10 hour) ≤ 23 && (← natOf? 10 minute) ≤ 59)
      return rest
    else some (c :: rest)

/-- What follows a date, and the time of day and zone that may belong to it. -/
def afterDate? (cs : List Char) : Option (List Char) := do
  let (date, cs) := (cs.take 10, cs.drop 10)
  guard (date.length = 10 && date[7]? = some '-' && isDate date)
  match cs with
  | [] => some []
  | c :: rest =>
    if c = 'T' || c = 't' || (c = ' ' && rest.head?.any Char.isDigit) then
      afterZone? (← afterTime? rest)
    else some cs

/-- A value that starts with a digit or a sign, or a special number. -/
def plainValue (cs : List Char) : Option (Item × List Char) :=
  match cs with
  | a :: b :: ':' :: _ =>
    if a.isDigit && b.isDigit then (afterTime? cs).map (.moment, ·) else number cs
  | a :: b :: c :: d :: '-' :: _ =>
    if a.isDigit && b.isDigit && c.isDigit && d.isDigit then (afterDate? cs).map (.moment, ·)
    else number cs
  | _ => number cs

end Boardwright.Toml.Strict
