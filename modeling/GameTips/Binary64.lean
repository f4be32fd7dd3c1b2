/-!
# Binary floating point

The finite numbers of the binary64 format, computed exactly on natural numbers: a sign, a mantissa
below 2^53 and an exponent of at least -1074, with a mantissa of at least 2^52 wherever the exponent
is larger than that.

* `Binary64.nearest?` rounds a quotient to the format, ties to the even mantissa;
* `Binary64.ofDecimal?` reads a decimal by one rounded product or quotient;
* `Binary64.shortest` is the shortest decimal that rounds to the number.
-/

namespace GameTips

/-- The number `± mantissa * 2 ^ exponent`. -/
structure Binary64 where
  negative : Bool
  mantissa : Nat
  exponent : Int
deriving DecidableEq, Repr

namespace Binary64

def minExponent : Int := -1074

/-- The largest exponent of a finite number. -/
def maxExponent : Int := 971

/-- Positive zero. -/
def zero : Binary64 := ⟨false, 0, minExponent⟩

def neg (x : Binary64) : Binary64 :=
  { x with negative := !x.negative }

/-- The natural number nearest to a quotient; halfway it is the even one. -/
def roundHalfEven (num den : Nat) : Nat :=
  let q := num / den
  let r := num % den
  if 2 * r < den ∨ (2 * r = den ∧ q % 2 = 0) then q else q + 1

/-- The quotient `num / (den * 2 ^ e)` as numerator and denominator. -/
def unscale (num den : Nat) (e : Int) : Nat × Nat :=
  if 0 ≤ e then (num, den * Nat.pow 2 e.toNat) else (num * Nat.pow 2 (-e).toNat, den)

/-- The number nearest to a quotient, halfway the one with the even mantissa; nothing if that is too
large for the format. -/
def nearest? (num den : Nat) : Option Binary64 :=
  if num = 0 then some zero
  else
    let low : Int := max minExponent ((Nat.log2 num : Int) - Nat.log2 den - 53)
    let (n, d) := unscale num den low
    let e := if n < d * Nat.pow 2 53 then low else low + 1
    let (n, d) := unscale num den e
    let m := roundHalfEven n d
    let (m, e) := if m = Nat.pow 2 53 then (Nat.pow 2 52, e + 1) else (m, e)
    if e ≤ maxExponent then some ⟨false, m, e⟩ else none

/-- The magnitude as numerator and denominator. -/
def toRatio (x : Binary64) : Nat × Nat :=
  unscale x.mantissa 1 (-x.exponent)

/-- The rounded product of two magnitudes. -/
def mul? (x y : Binary64) : Option Binary64 :=
  nearest? (x.toRatio.1 * y.toRatio.1) (x.toRatio.2 * y.toRatio.2)

/-- The rounded quotient of two magnitudes. -/
def div? (x y : Binary64) : Option Binary64 :=
  nearest? (x.toRatio.1 * y.toRatio.2) (x.toRatio.2 * y.toRatio.1)

/-- The number nearest to a power of ten; beyond the largest, zero. -/
def powerOfTen (k : Nat) : Binary64 :=
  (nearest? (Nat.pow 10 k) 1).getD zero

def maxPowerOfTen : Nat := 308

/-- Divide by `10 ^ k`, at most by the largest power of ten at a time. -/
def divPowerOfTen? (x : Binary64) (k : Nat) : Option Binary64 :=
  if k ≤ maxPowerOfTen then x.div? (powerOfTen k)
  else if x.mantissa = 0 then some x
  else (x.div? (powerOfTen maxPowerOfTen)).bind (·.divPowerOfTen? (k - maxPowerOfTen))
termination_by k
decreasing_by simp only [maxPowerOfTen] at *; omega

/-- Read the decimal `significand * 10 ^ exponent`: the significand is rounded first, then its
product with or quotient by the power of ten. Nothing if the product is too large. -/
def ofDecimal? (significand : Nat) (exponent : Int) : Option Binary64 := do
  let x ← nearest? significand 1
  if exponent < 0 then x.divPowerOfTen? (-exponent).toNat
  else if exponent.toNat ≤ maxPowerOfTen then x.mul? (powerOfTen exponent.toNat)
  else if x.mantissa = 0 then some x
  else none

/-- Whether the quotient `n / d` rounds to `x`, up to the sign: it lies between the midpoints to the
two neighbours of `x`, which count where the mantissa is even. The midpoint below is nearer where
the mantissa is the least of its exponent. -/
def isRoundedFrom (x : Binary64) (n d : Nat) : Bool :=
  let m := x.mantissa
  let below := if m = Nat.pow 2 52 ∧ minExponent < x.exponent then 4 * m - 1 else 4 * m - 2
  let above := 4 * m + 2
  let (num, den) := unscale n d (x.exponent - 2)
  if m % 2 = 0 then below * den ≤ num && num ≤ above * den
  else below * den < num && num < above * den

/-- The multiple of `10 ^ k` that rounds to `x` and is nearest to it, divided by `10 ^ k`. -/
def onGrid? (x : Binary64) (k : Int) : Option Nat :=
  let (num, den) := x.toRatio
  let (n, d) := if 0 ≤ k then (num, den * Nat.pow 10 k.toNat) else (num * Nat.pow 10 (-k).toNat, den)
  let hit (q : Nat) : Bool :=
    if 0 ≤ k then x.isRoundedFrom (q * Nat.pow 10 k.toNat) 1 else x.isRoundedFrom q (Nat.pow 10 (-k).toNat)
  let q := n / d
  match hit q, hit (q + 1) with
  | true, true => some (roundHalfEven n d)
  | true, false => some q
  | false, true => some (q + 1)
  | false, false => none

/-- Search grids of falling coarseness for a decimal that rounds to `x`. -/
def firstGrid (x : Binary64) : Nat → Int → Nat × Int
  | 0, k => (x.onGrid? k |>.getD 0, k)
  | fuel + 1, k =>
    match x.onGrid? k with
    | some q => (q, k)
    | none => x.firstGrid fuel (k - 1)

/-- The decimal of fewest digits that rounds to the magnitude of `x`, the nearest one where several
have as few: its digits as a number, and its power of ten. -/
def shortest (x : Binary64) : Nat × Int :=
  if x.mantissa = 0 then (0, 0)
  else
    let log2 := (Nat.log2 x.mantissa : Int) + x.exponent
    x.firstGrid 40 (log2 * 30103 / 100000 + 2)

end Binary64
end GameTips
