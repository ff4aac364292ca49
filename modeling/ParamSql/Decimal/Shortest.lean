import ParamSql.Decimal.Exact

namespace ParamSql.Decimal

/-- Which of two equally near decimals is taken. -/
inductive Tie
  | up
  | even
  deriving DecidableEq, Repr

/-- A positive decimal `digits · 10 ^ exponent`. -/
structure Short where
  digits : Nat
  exponent : Int
  deriving DecidableEq, Repr

/-- A value and the interval that rounds to it, as naturals over one denominator. The ends belong
to the interval iff `closed`. -/
structure Interval where
  low : Nat
  value : Nat
  high : Nat
  den : Nat
  closed : Bool

namespace Interval

/-- The numbers that round to `significand · 2 ^ exponent`. Below a power of two the doubles lie
half as far apart. -/
def around (significand : Nat) (exponent : Int) : Interval :=
  let below := if significand = Nat.pow 2 52 then 1 else 2
  let scale := Nat.pow 2 (exponent - 2).toNat
  { low := (4 * significand - below) * scale
    value := 4 * significand * scale
    high := (4 * significand + 2) * scale
    den := Nat.pow 2 (2 - exponent).toNat
    closed := significand % 2 == 0 }

/-- Whether the interval holds the number `n / den`. -/
def holds (i : Interval) (n : Nat) : Bool :=
  if i.closed then i.low ≤ n && n ≤ i.high else i.low < n && n < i.high

/-- The point of the grid `10 ^ k` that the interval holds and that is nearest to the value. -/
def pick? (i : Interval) (tie : Tie) (k : Int) : Option Short :=
  let step := i.den * Nat.pow 10 k.toNat
  let scaled : Interval :=
    let up := Nat.pow 10 (-k).toNat
    { i with low := i.low * up, value := i.value * up, high := i.high * up }
  let floor := scaled.value / step
  let rest := scaled.value % step
  let upper : Bool :=
    match tie with
    | .up => step ≤ 2 * rest
    | .even => step < 2 * rest || (step = 2 * rest && floor % 2 = 1)
  match scaled.holds (floor * step), scaled.holds ((floor + 1) * step) with
  | true, true => some ⟨if upper then floor + 1 else floor, k⟩
  | true, false => some ⟨floor, k⟩
  | false, true => some ⟨floor + 1, k⟩
  | false, false => none

/-- The first hit on the grids `10 ^ k`, `10 ^ (k - 1)`, … -/
def search (i : Interval) (tie : Tie) : Nat → Int → Short
  | 0, k => ⟨i.value / i.den, k⟩
  | n + 1, k =>
    match i.pick? tie k with
    | some d => d
    | none => i.search tie n (k - 1)

end Interval

/-- A place above the first digit of `significand · 2 ^ exponent`: its binary length times
`log 2`, rounded up. -/
def firstPlace (significand : Nat) (exponent : Int) : Int :=
  (significand.log2 + exponent) * 30103 / 100000 + 2

/-- The shortest decimal that reads back as the double `significand · 2 ^ exponent`, for a positive
significand. Seventeen digits always do, so no more than twenty grids are tried. -/
def shortest (tie : Tie) (significand : Nat) (exponent : Int) : Short :=
  (Interval.around significand exponent).search tie 20 (firstPlace significand exponent)

end ParamSql.Decimal
