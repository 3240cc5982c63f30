/-!
# Floating-point numbers, exactly

A finite number of the binary64 format is kept as its sign and its *magnitude*: the position of the
absolute value in the ascending list of all non-negative numbers of the format, its *rank*. Nothing
here runs on machine floats:

* `Binary64.nearest` -- the rank nearest to a quotient of naturals, a tie going to the even one;
* `Binary64.product`, `Binary64.quotient` -- the two operations on ranks, rounded that way;
* `Binary64.ofDecimal?` -- reading a decimal: the digits are rounded first, and then scaled by a
  rounded power of ten, so that the result may lie beside the nearest number;
* `Binary64.shortest` -- the fewest decimal digits whose nearest number is the given one, and among
  those the nearest to it;
* `Binary64.toText` -- the written form of these digits.
-/

namespace Reconciliation

/-- A finite binary64 number. -/
structure Binary64 where
  /-- Whether the sign is minus; zero has both signs. -/
  negative : Bool
  /-- The rank of the absolute value: 0 for zero, 1 for the least positive number, and so on. -/
  magnitude : Nat
deriving DecidableEq

namespace Binary64

/-- Zero of either sign. -/
def isZero (x : Binary64) : Bool := x.magnitude == 0

/-- Numeric equality: the two zeros are the same number. -/
def same (x y : Binary64) : Bool :=
  x.magnitude == y.magnitude && (x.negative == y.negative || x.isZero)

@[simp] theorem same_self (x : Binary64) : x.same x = true := by simp [same]

/-! ## 1. Ranks -/

/-- The weight of the leading bit of a significand, which has 53 bits. -/
def leadingBit : Nat := 0x10000000000000

/-- The first rank beyond the finite numbers. -/
def infinity : Nat := 0x7FF * leadingBit

/-- The integer significand `m` of the number `m * 2 ^ q` of a rank. -/
def significand (rank : Nat) : Nat :=
  if rank < leadingBit then rank else leadingBit + rank % leadingBit

/-- The exponent `q` of the number `m * 2 ^ q` of a rank. -/
def exponent (rank : Nat) : Int :=
  if rank < leadingBit then -1074 else (rank / leadingBit : Nat) - 1075

/-- A quotient rounded to the nearest natural, a half going to the even neighbour. -/
def roundHalfEven (num den : Nat) : Nat :=
  let quotient := num / den
  let rest := num % den
  if 2 * rest < den then quotient
  else if den < 2 * rest then quotient + 1
  else quotient + quotient % 2

/-- `num / (den * 2 ^ q)` as a pair of naturals. -/
def scaleDown (num den : Nat) (q : Int) : Nat × Nat :=
  if q < 0 then (num <<< (-q).toNat, den) else (num, den <<< q.toNat)

/-- The rank of the number nearest to `num / den`. The exponent `q` is chosen so that the quotient
by `2 ^ q` has 53 binary digits, or is the least exponent of the format. -/
def nearest (num den : Nat) : Nat :=
  if num = 0 then 0 else
  let guess : Int := (num.log2 : Int) - den.log2 - 52
  let (n, d) := scaleDown num den guess
  let q := max (-1074) (if n / d < leadingBit then guess - 1 else guess)
  let (n, d) := scaleDown num den q
  (q + 1074).toNat * leadingBit + roundHalfEven n d

/-- The product of two numbers, rounded. -/
def product (a b : Nat) : Nat :=
  let (num, den) := scaleDown (significand a * significand b) 1 (-(exponent a + exponent b))
  nearest num den

/-- The quotient of two numbers, rounded. -/
def quotient (a b : Nat) : Nat :=
  let (num, den) := scaleDown (significand a) (significand b) (exponent b - exponent a)
  nearest num den

/-! ## 2. From decimals -/

/-- The number nearest to a power of ten. -/
def powerOfTen (n : Nat) : Nat := nearest (Nat.pow 10 n) 1

/-- A number times `10 ^ power`: multiplied or divided by the rounded power of ten, and rounded
again. A power below -308 is taken in two such steps, and below -616 nothing is left. -/
def scale (rank : Nat) (power : Int) : Nat :=
  if rank = 0 then 0
  else if 308 < power then infinity
  else if 0 ≤ power then product rank (powerOfTen power.toNat)
  else if -308 ≤ power then quotient rank (powerOfTen (-power).toNat)
  else if -616 ≤ power then
    quotient (quotient rank (powerOfTen 308)) (powerOfTen (-power - 308).toNat)
  else 0

/-- The number that `digits * 10 ^ power` with a sign is read as; none when it exceeds the
format. -/
def ofDecimal? (negative : Bool) (digits : Nat) (power : Int) : Option Binary64 :=
  let rank := scale (nearest digits 1) power
  if rank < infinity then some ⟨negative, rank⟩ else none

/-! ## 3. To decimals -/

/-- `n * 2 ^ q * 10 ^ (-k)` as a pair of naturals. -/
def inUnits (n : Nat) (q k : Int) : Nat × Nat :=
  ((n * Nat.pow 10 (-k).toNat) <<< q.toNat, Nat.pow 10 k.toNat <<< (-q).toNat)

/-- The digits `d` with `d * 10 ^ k` nearest to the number among those which round to it. Of a
number's two neighbours on the grid of `10 ^ k`, the one inside the rounding interval is taken, of
two the nearer, and of two equally near the even one. -/
def digitsAt? (x : Binary64) (k : Int) : Option Nat :=
  let m := significand x.magnitude
  let q := exponent x.magnitude
  let below : Nat := if x.magnitude % leadingBit = 0 ∧ 2 * leadingBit ≤ x.magnitude then 1 else 2
  let (num, den) := inUnits (4 * m) (q - 2) k
  let (low, _) := inUnits (4 * m - below) (q - 2) k
  let (high, _) := inUnits (4 * m + 2) (q - 2) k
  let inside (d : Nat) : Bool :=
    if m % 2 = 0 then low ≤ d * den && d * den ≤ high else low < d * den && d * den < high
  let floor := num / den
  match inside floor && floor != 0, inside (floor + 1) with
  | true, true => some (roundHalfEven num den)
  | true, false => some floor
  | false, true => some (floor + 1)
  | false, false => none

/-- The fewest digits which round to the number, as digits and a power of ten. -/
def shortest (x : Binary64) : Nat × Int :=
  let grids := (List.range 640).map fun i : Nat => 310 - (i : Int)
  (grids.findSome? fun k => (x.digitsAt? k).map fun d => (d, k)).getD (0, 0)

/-- Digits are written positionally when the decimal point falls at most 16 places after the first
digit or at most 4 before it; otherwise one digit, the other digits, and the exponent with its sign.
A positional number always has a fraction. -/
def toText (x : Binary64) : String :=
  let sign := if x.negative then "-" else ""
  if x.isZero then sign ++ "0.0" else
  let (d, k) := x.shortest
  let digits := toString d
  let point : Int := digits.length + k
  if 0 ≤ k ∧ point ≤ 16 then sign ++ digits ++ "".pushn '0' k.toNat ++ ".0"
  else if 0 < point ∧ point ≤ 16 then
    sign ++ (digits.take point.toNat).toString ++ "." ++ (digits.drop point.toNat).toString
  else if -5 < point ∧ point ≤ 0 then
    sign ++ "0." ++ "".pushn '0' (-point).toNat ++ digits
  else
    let tail := (digits.drop 1).toString
    sign ++ (digits.take 1).toString ++ (if tail.isEmpty then "" else "." ++ tail) ++
      (if 0 < point then "e+" else "e-") ++ toString (point - 1).natAbs

end Binary64

end Reconciliation
