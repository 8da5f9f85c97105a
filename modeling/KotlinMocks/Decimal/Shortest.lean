/-!
# Shortest decimal digits of a double

A finite nonzero double stands for an interval of reals: all those that round to it. Its
shortest decimal form is `digits * 10 ^ exponent` with the fewest significant digits that
lies in that interval; when several such decimals lie there, the one nearest to the double's
exact value is chosen, and an exact tie goes to the even digit string.

All arithmetic here is on natural numbers, so the result is exact.
-/

namespace KotlinMocks.Decimal

/-- A finite double split into sign and exact binary value `mantissa * 2 ^ exponent`, with
the boundaries of its rounding interval. -/
structure Binary where
  negative : Bool
  mantissa : Nat
  exponent : Int
  /-- The rounding interval's lower end is `mantissa - lowerGap` in units of
  `2 ^ (exponent - 2)`; it is closer than usual just above a power of two. -/
  lowerGap : Nat
  deriving Repr

/-- The sign, exact value and rounding interval of a finite double. -/
def Binary.ofFloat (f : Float) : Binary :=
  let bits : Nat := f.toBits.toNat
  let negative := bits / Nat.pow 2 63 % 2 == 1
  let fraction : Nat := bits % Nat.pow 2 52
  let biased : Nat := bits / Nat.pow 2 52 % Nat.pow 2 11
  if biased == 0 then
    { negative, mantissa := fraction, exponent := -1074, lowerGap := 2 }
  else
    let lowerGap := if fraction == 0 && biased > 1 then 1 else 2
    { negative, mantissa := fraction + Nat.pow 2 52, exponent := Int.ofNat biased - 1075, lowerGap }

/-- A value `numerator / 2 ^ shift` compared on a common scale. -/
structure Scaled where
  numerator : Nat
  shift : Nat

/-- `n * 2 ^ e` for an integer `e`, as an exact fraction over a power of two. -/
def Scaled.ofBinary (n : Nat) (e : Int) : Scaled :=
  if 0 ≤ e then ⟨n * Nat.pow 2 e.toNat, 0⟩ else ⟨n, (-e).toNat⟩

/-- The least integer `d` with `d * 10 ^ k ≥ x`. -/
def Scaled.ceilDiv (x : Scaled) (k : Int) : Nat :=
  let (num, den) :=
    if 0 ≤ k then (x.numerator, Nat.pow 2 x.shift * Nat.pow 10 k.toNat)
    else (x.numerator * Nat.pow 10 (-k).toNat, Nat.pow 2 x.shift)
  (num + den - 1) / den

/-- The greatest integer `d` with `d * 10 ^ k ≤ x`. -/
def Scaled.floorDiv (x : Scaled) (k : Int) : Nat :=
  if 0 ≤ k then x.numerator / (Nat.pow 2 x.shift * Nat.pow 10 k.toNat)
  else x.numerator * Nat.pow 10 (-k).toNat / Nat.pow 2 x.shift

/-- Whether `d * 10 ^ k` equals `x` exactly. -/
def Scaled.isExactly (x : Scaled) (d : Nat) (k : Int) : Bool :=
  if 0 ≤ k then d * Nat.pow 10 k.toNat * Nat.pow 2 x.shift == x.numerator
  else d * Nat.pow 2 x.shift == x.numerator * Nat.pow 10 (-k).toNat

/-- Twice the distance from `d * 10 ^ k` to `x`, on the scale `2 ^ shift * 10 ^ |k|`, used
only to compare two candidates on the same grid. -/
def Scaled.distance (x : Scaled) (d : Nat) (k : Int) : Nat :=
  let (a, b) :=
    if 0 ≤ k then (d * Nat.pow 10 k.toNat * Nat.pow 2 x.shift, x.numerator)
    else (d * Nat.pow 2 x.shift, x.numerator * Nat.pow 10 (-k).toNat)
  if a ≤ b then b - a else a - b

/-- The number of decimal digits of a positive number. -/
def digitCount (n : Nat) : Nat := (Nat.toDigits 10 n).length

/-- Shortest digits and exponent of a positive exact value with rounding interval
`[low, high]` (ends included when `inclusive`), searching grids `10 ^ k` from `k` down to
`k - fuel`. -/
def search (value low high : Scaled) (inclusive : Bool) : Nat → Int → Nat × Int
  | 0, k => (value.floorDiv k, k)
  | fuel + 1, k =>
    let first :=
      let c := low.ceilDiv k
      if !inclusive && low.isExactly c k then c + 1 else c
    let last :=
      let f := high.floorDiv k
      if !inclusive && high.isExactly f k && f > 0 then f - 1 else f
    if 0 < first && first ≤ last then
      let below := value.floorDiv k
      let above := below + 1
      let candidates := [below, above].filter fun d => first ≤ d && d ≤ last
      match candidates with
      | [d] => (d, k)
      | [d, e] =>
        let dd := value.distance d k
        let de := value.distance e k
        if dd < de then (d, k) else if de < dd then (e, k)
        else if d % 2 == 0 then (d, k) else (e, k)
      | _ => (first, k)
    else search value low high inclusive fuel (k - 1)

/-- The shortest decimal `digits * 10 ^ exponent` that reads back as the positive finite
double with binary form `b`. -/
def shortest (b : Binary) : Nat × Int :=
  let value := Scaled.ofBinary (4 * b.mantissa) (b.exponent - 2)
  let low := Scaled.ofBinary (4 * b.mantissa - b.lowerGap) (b.exponent - 2)
  let high := Scaled.ofBinary (4 * b.mantissa + 2) (b.exponent - 2)
  -- The interval lies below `10 ^ top`, so no grid coarser than that can hit it.
  let top : Int := digitCount (high.floorDiv 0) + 1
  search value low high (b.mantissa % 2 == 0) (top.toNat + 400) top

/-- The decimal digits of `n`, most significant first. -/
def digitsOf (n : Nat) : String := String.ofList (Nat.toDigits 10 n)

/-- Text of a double in the layout of the shortest-digit printer used for JSON: positional
for magnitudes from `1e-5` up to below `1e16`, exponent form otherwise (`d.ddde+x` for large
magnitudes, `d.ddde-x` for small ones), and a trailing `.0` on integral positional values. Not-a-number and infinities have their own
words. -/
def layout (f : Float) : String :=
  if f.isNaN then "NaN"
  else if f.isInf then (if f < 0 then "-inf" else "inf")
  else
    let b := Binary.ofFloat f
    let sign := if b.negative then "-" else ""
    if b.mantissa == 0 then sign ++ "0.0"
    else
      let (d, k) := shortest b
      let text := digitsOf d
      let length : Int := text.length
      let kk := length + k
      let body :=
        if 0 ≤ k && kk ≤ 16 then
          text ++ String.ofList (List.replicate (kk - length).toNat '0') ++ ".0"
        else if 0 < kk && kk ≤ 16 then
          String.ofList (text.toList.take kk.toNat) ++ "." ++
            String.ofList (text.toList.drop kk.toNat)
        else if -5 < kk && kk ≤ 0 then
          "0." ++ String.ofList (List.replicate (-kk).toNat '0') ++ text
        else
          let exponent := kk - 1
          let exponentText :=
            (if exponent < 0 then "-" else "+") ++ digitsOf exponent.natAbs
          if length == 1 then text ++ "e" ++ exponentText
          else
            String.ofList (text.toList.take 1) ++ "." ++ String.ofList (text.toList.drop 1) ++
              "e" ++ exponentText
      sign ++ body

end KotlinMocks.Decimal
