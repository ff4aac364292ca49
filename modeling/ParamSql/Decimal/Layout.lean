import ParamSql.Decimal.Shortest

namespace ParamSql.Decimal

/-- The decisions of a written form of doubles. -/
structure Layout where
  /-- Which of two equally near decimals is written. -/
  tie : Tie
  /-- Whether a number of this decimal exponent is written without one. -/
  positional : Int → Bool
  /-- Whether a whole number ends in `.0`. -/
  pointed : Bool
  /-- The sign of a positive exponent. -/
  plus : String
  nan : String
  infinite : String

namespace Layout

/-- Digits with the point `places` digits from their start. -/
def positionalText (layout : Layout) (digits : List Char) (places : Int) : List Char :=
  if places ≤ 0 then ['0', '.'] ++ List.replicate (-places).toNat '0' ++ digits
  else if digits.length ≤ places.toNat then
    digits ++ List.replicate (places.toNat - digits.length) '0' ++
      (if layout.pointed then ['.', '0'] else [])
  else digits.take places.toNat ++ '.' :: digits.drop places.toNat

/-- Digits with one of them before the point, and the exponent. -/
def scientificText (layout : Layout) (digits : List Char) (exponent : Int) : List Char :=
  digits.take 1 ++ (if digits.length ≤ 1 then [] else '.' :: digits.drop 1) ++ ['e'] ++
    (if exponent < 0 then ['-'] else layout.plus.toList) ++ Nat.toDigits 10 exponent.natAbs

def significant (digits : List Char) : List Char :=
  (digits.reverse.dropWhile (· == '0')).reverse

def sizeText (layout : Layout) (significand : Nat) (exponent : Int) : List Char :=
  let d := shortest layout.tie significand exponent
  let digits := Nat.toDigits 10 d.digits
  let places : Int := digits.length + d.exponent
  if layout.positional (places - 1) then layout.positionalText (significant digits) places
  else layout.scientificText (significant digits) (places - 1)

def text (layout : Layout) (x : Float) : String :=
  match exact x with
  | .nan => layout.nan
  | .infinite negative => (if negative then "-" else "") ++ layout.infinite
  | .finite negative significand exponent =>
    (if negative then "-" else "") ++
      (if significand = 0 then (if layout.pointed then "0.0" else "0")
       else String.ofList (layout.sizeText significand exponent))

/-- All digits and never an exponent, as in statements and stored text. -/
def plain : Layout where
  tie := .up
  positional _ := true
  pointed := false
  plus := ""
  nan := "NaN"
  infinite := "inf"

end Layout

end ParamSql.Decimal
