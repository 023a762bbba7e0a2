/-
# Shortest decimals

A binary floating-point number stands for all reals that round to it. Its shortest decimal is
the one with the fewest digits among those reals, and of two such the nearer one.

* `Dyadic.shortest` : digits and exponent of the shortest decimal;
* `Decimal.text` : a decimal as text, positional in the middle of the range and with an exponent
  outside;
* `Decimal.toDouble`, `Decimal.doubleText` : the double that a decimal is read as, and its text.
-/

namespace PagedTables

/-- The number `mantissa * 2 ^ exponent`. -/
structure Dyadic where
  /-- The digits in base two. -/
  mantissa : Nat
  /-- The power of two. -/
  exponent : Int
  deriving DecidableEq, Repr

/-- The number `digits * 10 ^ exponent`. -/
structure Decimal where
  /-- The digits in base ten. -/
  digits : Nat
  /-- The power of ten. -/
  exponent : Int
  deriving DecidableEq, Repr

/-- The number of decimal digits of a number, one for zero. -/
def digitCount (n : Nat) : Nat :=
  (Nat.toDigits 10 n).length

/-- The whole number nearest to `num / den`; of two equally near ones the even one. -/
def roundedQuotient (num den : Nat) : Nat :=
  let floor := num / den
  let rest := num % den
  if 2 * rest > den ∨ (2 * rest = den ∧ floor % 2 = 1) then floor + 1 else floor

namespace Dyadic

/-- Numerator and denominator of `n * 2 ^ e`. -/
def fraction (n : Nat) (e : Int) : Nat × Nat :=
  (n * Nat.pow 2 e.toNat, Nat.pow 2 (-e).toNat)

/-- The exponent of the leading decimal digit of a positive fraction. -/
def leadingExponent (num den : Nat) : Int :=
  if den ≤ num then (digitCount (num / den) : Int) - 1
  else - (digitCount ((den + num - 1) / num - 1) : Int)

/-- Twice the distances from a number to its lower and its upper neighbour, in quarters of the
last place. The lower neighbour of a power of two is half as far, unless the number is among
the smallest. -/
def gaps (d : Dyadic) : Nat × Nat :=
  (if d.mantissa = Nat.pow 2 52 ∧ d.exponent ≠ -1074 then 1 else 2, 2)

/-- Tells whether `digits * 10 ^ k` rounds to the number; the ends of the interval do if the
mantissa is even. -/
def reads (d : Dyadic) (digits : Nat) (k : Int) : Bool :=
  let (below, above) := d.gaps
  let (low, den) := fraction (4 * d.mantissa - below) (d.exponent - 2)
  let (high, _) := fraction (4 * d.mantissa + above) (d.exponent - 2)
  let num := digits * Nat.pow 10 k.toNat * den
  let scale := Nat.pow 10 (-k).toNat
  if d.mantissa % 2 = 0 then low * scale ≤ num && num ≤ high * scale
  else low * scale < num && num < high * scale

/-- The decimal of `count` digits that rounds to the number and is nearest to it, if there is
one; of two equally near ones the even one. -/
def withDigits? (d : Dyadic) (count : Nat) : Option Decimal :=
  let (num, den) := fraction d.mantissa d.exponent
  let k := leadingExponent num den - (count : Int) + 1
  let num := num * Nat.pow 10 (-k).toNat
  let den := den * Nat.pow 10 k.toNat
  let floor := num / den
  let first := roundedQuotient num den
  let second := if first = floor then floor + 1 else floor
  if d.reads first k then some ⟨first, k⟩
  else if d.reads second k then some ⟨second, k⟩
  else none

/-- The shortest decimal that rounds to a positive number. -/
def shortest (d : Dyadic) : Decimal :=
  ((List.range' 1 17).findSome? d.withDigits?).getD ⟨d.mantissa, 0⟩

end Dyadic

namespace Decimal

/-- Removes zeros at the end of the digits, at most `fuel` of them. -/
def stripZeros : Nat → Decimal → Decimal
  | 0, d => d
  | fuel + 1, d =>
    if d.digits % 10 = 0 ∧ d.digits ≠ 0 then stripZeros fuel ⟨d.digits / 10, d.exponent + 1⟩
    else d

/-- The least exponent of the leading digit that is written without an exponent. -/
def leastPositional : Int := -5

/-- The greatest number of digits before the point that are written without an exponent. -/
def mostPositional : Int := 16

/-- An exponent with its sign, plus signs included. -/
def exponentText (e : Int) : String :=
  (if e < 0 then "-" else "+") ++ toString e.natAbs

/-- A decimal as text. There is a digit on both sides of a point, and a sign before an
exponent. -/
def text (d : Decimal) : String :=
  let d := stripZeros (digitCount d.digits) d
  let digits := Nat.toDigits 10 d.digits
  let point := (digits.length : Int) + d.exponent
  let chars :=
    if 0 ≤ d.exponent ∧ point ≤ mostPositional then
      digits ++ List.replicate d.exponent.toNat '0' ++ ['.', '0']
    else if 0 < point ∧ point ≤ mostPositional then
      digits.take point.toNat ++ '.' :: digits.drop point.toNat
    else if leastPositional < point ∧ point ≤ 0 then
      '0' :: '.' :: List.replicate (-point).toNat '0' ++ digits
    else
      let fraction := digits.drop 1
      digits.take 1 ++ (if fraction.isEmpty then [] else '.' :: fraction) ++
        'e' :: (exponentText (point - 1)).toList
  String.ofList chars

end Decimal

/-! ## Doubles

A double is held as a `Dyadic` with the exponent that the format gives it: the mantissa has 53
binary digits, or fewer of them and the least exponent. -/

namespace Dyadic

/-- The least exponent of a double. -/
def leastExponent : Int := -1074

/-- The greatest exponent of a double. -/
def greatestExponent : Int := 971

/-- The exponent of the double nearest to a positive `num / den`, before rounding. -/
def exponentOf (num den : Nat) : Int :=
  let guess : Int := (Nat.log2 num : Int) - Nat.log2 den - 52
  let short := num * Nat.pow 2 (-guess).toNat / (den * Nat.pow 2 guess.toNat) < Nat.pow 2 52
  max leastExponent (if short then guess - 1 else guess)

/-- The double nearest to `num / den`. Beyond the greatest double its exponent is too large. -/
def nearest (num den : Nat) : Dyadic :=
  if num = 0 then ⟨0, leastExponent⟩
  else
    let e := exponentOf num den
    let m := roundedQuotient (num * Nat.pow 2 (-e).toNat) (den * Nat.pow 2 e.toNat)
    if m = Nat.pow 2 53 then ⟨Nat.pow 2 52, e + 1⟩ else ⟨m, e⟩

/-- The double nearest to a product. -/
def times (x y : Dyadic) : Dyadic :=
  let (a, b) := fraction x.mantissa x.exponent
  let (c, d) := fraction y.mantissa y.exponent
  nearest (a * c) (b * d)

/-- The double nearest to a quotient. -/
def dividedBy (x y : Dyadic) : Dyadic :=
  let (a, b) := fraction x.mantissa x.exponent
  let (c, d) := fraction y.mantissa y.exponent
  nearest (a * d) (b * c)

/-- The greatest exponent of a power of ten among the doubles. -/
def maxPower : Nat := 308

/-- The double nearest to a power of ten. -/
def powerOfTen (n : Nat) : Dyadic :=
  nearest (Nat.pow 10 n) 1

/-- Divides by a power of ten, in steps that are doubles themselves. -/
def dividedByPower (x : Dyadic) (n : Nat) : Dyadic :=
  if x.mantissa = 0 then x
  else if n ≤ maxPower then x.dividedBy (powerOfTen n)
  else (x.dividedBy (powerOfTen maxPower)).dividedByPower (n - maxPower)
termination_by n
decreasing_by
  simp only [maxPower] at *
  omega

end Dyadic

namespace Decimal

/-- The leading digits of a decimal that fit a 64-bit word; at most `fuel` digits are dropped. -/
def leading : Nat → Decimal → Decimal
  | 0, d => d
  | fuel + 1, d =>
    if d.digits < UInt64.size then d else leading fuel ⟨d.digits / 10, d.exponent + 1⟩

/-- The double that a decimal is read as: its leading digits, scaled by a power of ten. -/
def toDouble (d : Decimal) : Dyadic :=
  let d := leading (digitCount d.digits) d
  let x := Dyadic.nearest d.digits 1
  if d.digits = 0 then x
  else if 0 ≤ d.exponent then
    x.times (Dyadic.powerOfTen (min d.exponent.toNat (Dyadic.maxPower + 1)))
  else x.dividedByPower (-d.exponent).toNat

/-- The text of the double that a decimal is read as. -/
def doubleText (negative : Bool) (d : Decimal) : String :=
  let x := d.toDouble
  let sign := if negative then "-" else ""
  if x.mantissa = 0 then sign ++ "0.0"
  else if x.exponent ≤ Dyadic.greatestExponent then sign ++ x.shortest.text
  else "null"

end Decimal

end PagedTables
