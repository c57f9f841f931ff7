/-!
# Decimal and binary numbers

A decimal is held as the binary number nearest to it, with at most 53 binary digits and no exponent
below `Binary.least`.  `Binary.shortest` goes the other way: of the decimals that are held as a
given binary number it finds the one with the fewest digits, and of several the nearest.  Both work
on whole numbers only.
-/

namespace Boardwright

/-- The number `digits * 10 ^ exponent`. -/
structure Decimal where
  digits : Nat
  exponent : Int
  deriving DecidableEq, Repr, Inhabited

/-- The number `mantissa * 2 ^ exponent`. -/
structure Binary where
  mantissa : Nat
  exponent : Int
  deriving DecidableEq, Repr, Inhabited

/-- A power of ten. -/
def tens (n : Nat) : Nat := Nat.pow 10 n

/-- A power of two. -/
def twos (n : Nat) : Nat := Nat.pow 2 n

/-- The whole number nearest to a quotient.  A half goes to the even neighbour. -/
def roundQuotient (num den : Nat) : Nat :=
  let twice := 2 * (num % den)
  if twice < den || (twice = den && num / den % 2 = 0) then num / den else num / den + 1

namespace Binary

/-- The least exponent. -/
def least : Int := -1074

/-- The binary number nearest to a decimal.  Decimals far below the least one are zero. -/
def nearest (d : Decimal) : Binary :=
  if d.digits = 0 || d.exponent + Nat.log2 d.digits < -331 then ⟨0, least⟩
  else
    let num := d.digits * tens d.exponent.toNat
    let den := tens (-d.exponent).toNat
    let guess : Int := (Nat.log2 num : Int) - Nat.log2 den
    let size := if num * twos (-guess).toNat < den * twos guess.toNat then guess - 1 else guess
    let exponent := max (size - 52) least
    let mantissa := roundQuotient (num * twos (-exponent).toNat) (den * twos exponent.toNat)
    if mantissa = twos 53 then ⟨twos 52, exponent + 1⟩ else ⟨mantissa, exponent⟩

/-- The multiple of `10 ^ k` that is held as the given number, and of two the nearer.  Four times
the mantissa makes room for the borders, which lie halfway to the neighbours; the lower neighbour of
a power of two is twice as near.  A border belongs to the number with the even mantissa. -/
def multiple? (b : Binary) (k : Int) : Option Decimal :=
  let left := twos (b.exponent - 2).toNat * tens (-k).toNat
  let right := tens k.toNat * twos (2 - b.exponent).toNat
  let below := if b.mantissa = twos 52 && least < b.exponent then 1 else 2
  let low := (4 * b.mantissa - below) * left
  let high := (4 * b.mantissa + 2) * left
  let fits (n : Nat) : Bool :=
    if b.mantissa % 2 = 0 then low ≤ n * right && n * right ≤ high
    else low < n * right && n * right < high
  let n := 4 * b.mantissa * left / right
  let order := if roundQuotient (4 * b.mantissa * left) right = n then [n, n + 1] else [n + 1, n]
  (order.find? fits).map (⟨·, k⟩)

/-- The shortest decimal that is held as the given number.  The coarsest power of ten is above the
number, and seventeen digits are always enough. -/
def shortest (b : Binary) : Decimal :=
  if b.mantissa = 0 then ⟨0, 0⟩
  else
    let top : Int := (Nat.log2 b.mantissa + 1 + b.exponent) * 30103 / 100000 + 1
    ((List.range 21).findSome? fun (n : Nat) => b.multiple? (top - n)).getD ⟨0, 0⟩

end Binary

namespace Decimal

/-- Whether a decimal is too large to be held. -/
def overflows (d : Decimal) : Bool :=
  if d.digits = 0 then false
  else if 400 < d.exponent then true
  else if Nat.log2 d.digits < d.exponent.natAbs && d.exponent < 0 then false
  else (twos 1024 - twos 970) * tens (-d.exponent).toNat ≤ d.digits * tens d.exponent.toNat

/-- A decimal without an exponent and without idle zeros behind the point. -/
def positional (d : Decimal) : String :=
  if 0 ≤ d.exponent then toString (d.digits * tens d.exponent.toNat)
  else
    let places := d.exponent.natAbs
    let tail := (toString (d.digits % tens places + tens places)).toList.drop 1
    let tail := (tail.reverse.dropWhile (· == '0')).reverse
    toString (d.digits / tens places) ++ (if tail.isEmpty then "" else "." ++ String.ofList tail)

end Decimal

end Boardwright
