/-!
# Binary64 numbers and their shortest decimals

A finite binary64 number is `m · 2^q` with a significand `m < 2^53` and an
exponent `q ≥ -1074`; it is normal when `m ≥ 2^52` or `q = -1074`, and it is at
most `2^1024` (exclusive).  Everything here is exact arithmetic on natural
numbers.

* `nearest` rounds a decimal `d · 10^e` to the nearest binary64 number, ties to
  the even significand; `none` when the result would be too large.
* `shortest` finds, for a binary64 number, the decimal with the fewest digits
  that rounds back to it: among the decimals of a given length the one nearest
  to the number.  A decimal rounds back when it lies strictly inside the
  rounding interval (half a step on each side, a quarter step below a power of
  two), or on its edge when the significand is even.
* `positional` writes a decimal without an exponent, the way numbers are shown
  in reports: `0.3`, `1000`, `0.0000001`.
-/

namespace ShapeSearch
namespace Binary64

/-- The number of binary digits of a natural number. -/
def bitLength (n : Nat) : Nat :=
  if n == 0 then 0 else n.log2 + 1

/-- `num / den` rounded to the nearest natural number, ties to the even one. -/
def roundDiv (num den : Nat) : Nat :=
  let q := num / den
  let r := num % den
  if 2 * r > den || (2 * r == den && q % 2 == 1) then q + 1 else q

/-- The binary64 number nearest to `digits · 10^exponent`, as significand and
binary exponent; `none` when it is too large for the format. -/
def nearest (digits : Nat) (exponent : Int) : Option (Nat × Int) :=
  if digits == 0 then some (0, -1074)
  else
    let num := if exponent ≥ 0 then digits * Nat.pow 10 exponent.toNat else digits
    let den := if exponent ≥ 0 then 1 else Nat.pow 10 (-exponent).toNat
    -- the integer part of `num / den / 2^q`
    let scaled (q : Int) : Nat :=
      if q ≤ 0 then num * Nat.pow 2 (-q).toNat / den else num / (den * Nat.pow 2 q.toNat)
    let q0 : Int := (bitLength num : Int) - bitLength den - 53
    let q1 := if scaled q0 ≥ Nat.pow 2 53 then q0 + 1 else q0
    let q := max q1 (-1074)
    let m := if q ≤ 0 then roundDiv (num * Nat.pow 2 (-q).toNat) den else roundDiv num (den * Nat.pow 2 q.toNat)
    let (m, q) := if m == Nat.pow 2 53 then (Nat.pow 2 52, q + 1) else (m, q)
    if q > 971 then none else some (m, q)

/-- Whether `m · 2^q` is at least `10^e`. -/
def atLeastPower (m : Nat) (q e : Int) : Bool :=
  m * Nat.pow 2 (max q 0).toNat * Nat.pow 10 (max (-e) 0).toNat ≥ Nat.pow 10 (max e 0).toNat * Nat.pow 2 (max (-q) 0).toNat

/-- The exponent of the leading decimal digit of `m · 2^q` (for `m > 0`): the
largest `e` with `10^e ≤ m · 2^q`, found from an estimate by a few steps. -/
def leadingExponent (m : Nat) (q : Int) : Int :=
  let guess : Int := ((bitLength m : Int) - 1 + q) * 30103 / 100000
  let rec up : Nat → Int → Int
    | 0, e => e
    | fuel + 1, e => if atLeastPower m q (e + 1) then up fuel (e + 1) else e
  let rec down : Nat → Int → Int
    | 0, e => e
    | fuel + 1, e => if atLeastPower m q e then e else down fuel (e - 1)
  up 4 (down 4 guess)

/-- The decimal with `k` significant digits nearest to `m · 2^q` that rounds back to
it, if there is one: its digits and exponent. -/
def candidate (m : Nat) (q : Int) (lead : Int) (k : Nat) : Option (Nat × Int) :=
  let e := lead - k + 1
  -- quantities are counted in units of 2^(q-2) and compared after scaling by 10^e
  let lowerGap := if m == Nat.pow 2 52 && q > -1074 then 1 else 2
  let low := 4 * m - lowerGap
  let high := 4 * m + 2
  let scale (x : Nat) : Nat := x * Nat.pow 10 (max (-e) 0).toNat * Nat.pow 2 (max (q - 2) 0).toNat
  let den := Nat.pow 10 (max e 0).toNat * Nat.pow 2 (max (2 - q) 0).toNat
  let inclusive := m % 2 == 0
  let lo := if inclusive then (scale low + den - 1) / den else scale low / den + 1
  let hi := if inclusive then scale high / den else (scale high - 1) / den
  if lo ≤ hi then
    let c := roundDiv (scale (4 * m)) den
    some (min hi (max lo c), e)
  else none

/-- The decimal with `k` significant digits nearest to `m · 2^q`. -/
def nearestDecimal (m : Nat) (q : Int) (lead : Int) (k : Nat) : Nat × Int :=
  let e := lead - k + 1
  let num := 4 * m * Nat.pow 10 (max (-e) 0).toNat * Nat.pow 2 (max (q - 2) 0).toNat
  let den := Nat.pow 10 (max e 0).toNat * Nat.pow 2 (max (2 - q) 0).toNat
  (roundDiv num den, e)

/-- The same decimal without trailing zero digits: a candidate rounded up to the next
power of ten, such as `10 · 10^-8`, has one. -/
def trimZeros : Nat → Nat × Int → Nat × Int
  | 0, r => r
  | fuel + 1, (d, e) => if d != 0 && d % 10 == 0 then trimZeros fuel (d / 10, e + 1) else (d, e)

/-- The shortest decimal that rounds back to `m · 2^q`, as digits and exponent.
Seventeen digits always suffice. -/
def shortest (m : Nat) (q : Int) : Nat × Int :=
  if m == 0 then (0, 0)
  else
    let lead := leadingExponent m q
    let rec search : Nat → Nat → Nat × Int
      | 0, k => nearestDecimal m q lead k
      | fuel + 1, k =>
        match candidate m q lead k with
        | some r => r
        | none => search fuel (k + 1)
    trimZeros 17 (search 16 1)

/-- `digits · 10^exponent` written out without an exponent. -/
def positional (digits : Nat) (exponent : Int) : String :=
  let ds := toString digits
  if exponent ≥ 0 then ds ++ String.ofList (List.replicate exponent.toNat '0')
  else
    let k := (-exponent).toNat
    let padded := String.ofList (List.replicate (k + 1 - min (k + 1) ds.length) '0') ++ ds
    (padded.take (padded.length - k)).toString ++ "." ++ (padded.drop (padded.length - k)).toString

end Binary64
end ShapeSearch
