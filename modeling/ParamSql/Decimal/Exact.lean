namespace ParamSql.Decimal

inductive Exact
  /-- The number `± significand · 2 ^ exponent`. -/
  | finite (negative : Bool) (significand : Nat) (exponent : Int)
  | infinite (negative : Bool)
  | nan
  deriving DecidableEq, Repr

/-- Reads the sign, the eleven bits of exponent and the 52 of fraction. -/
def exact (x : Float) : Exact :=
  let bits := x.toBits.toNat
  let negative := Nat.pow 2 63 ≤ bits
  let exponent : Nat := bits / Nat.pow 2 52 % Nat.pow 2 11
  let fraction : Nat := bits % Nat.pow 2 52
  if exponent = 2047 then
    if fraction = 0 then .infinite negative else .nan
  else if exponent = 0 then .finite negative fraction (-1074)
  else .finite negative (Nat.pow 2 52 + fraction) (exponent - 1075)

/-- The integer that a number with this sign and size is. -/
def signed (negative : Bool) (n : Nat) : Int :=
  if negative then -(n : Int) else n

/-- The integer that a double is equal to, if there is one. -/
def integral? (x : Float) : Option Int :=
  match exact x with
  | .finite negative significand (.ofNat e) => some (signed negative (significand * Nat.pow 2 e))
  | .finite negative significand (.negSucc e) =>
    let scale := Nat.pow 2 (e + 1)
    if significand % scale = 0 then some (signed negative (significand / scale))
    else none
  | .infinite _ => none
  | .nan => none

/-- The quotient rounded to the nearest natural, a tie going to the even one. -/
def divNearest (num den : Nat) : Nat :=
  let q := num / den
  let twice := 2 * (num % den)
  if twice < den then q
  else if den < twice then q + 1
  else if q % 2 = 0 then q else q + 1

/-- The largest `e` with `2 ^ e ≤ num / den`, for positive `num` and `den`. -/
def binaryExponent (num den : Nat) : Int :=
  let e : Int := (num.log2 : Int) - den.log2
  if num * Nat.pow 2 (-e).toNat < den * Nat.pow 2 e.toNat then e - 1 else e

/-- The double with this sign whose size has the given 63 bits; beyond the largest finite one it
is infinite. -/
def ofMagnitude (negative : Bool) (bits : Nat) : Float :=
  let bits := min bits (2047 * Nat.pow 2 52)
  Float.ofBits (UInt64.ofNat (if negative then Nat.pow 2 63 + bits else bits))

/-- The double nearest to `± num / den`, a tie going to the even significand. -/
def nearest (negative : Bool) (num den : Nat) : Float :=
  if num = 0 then ofMagnitude negative 0
  else
    let q := max (binaryExponent num den - 52) (-1074)
    let significand := divNearest (num * Nat.pow 2 (-q).toNat) (den * Nat.pow 2 q.toNat)
    -- The implicit leading bit adds one to the exponent field, and so does a carry.
    ofMagnitude negative ((q + 1074).toNat * Nat.pow 2 52 + significand)

/-- The double nearest to `± significand · 10 ^ exponent`. Beyond 400 places on either side it is
infinite or zero whatever the digits are, so no huge power is computed. -/
def nearestDecimal (negative : Bool) (significand : Nat) (exponent : Int) : Float :=
  if significand = 0 then ofMagnitude negative 0
  else
    let places : Int := (Nat.toDigits 10 significand).length + exponent
    if 400 < places then ofMagnitude negative (2047 * Nat.pow 2 52)
    else if places < -400 then ofMagnitude negative 0
    else nearest negative (significand * Nat.pow 10 exponent.toNat) (Nat.pow 10 (-exponent).toNat)

def ofInt (n : Int) : Float :=
  nearest (n < 0) n.natAbs 1

end ParamSql.Decimal
