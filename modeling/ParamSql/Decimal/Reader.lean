import ParamSql.Decimal.Exact

namespace ParamSql.Decimal

/-- Why a text is no 64-bit integer. -/
inductive IntegerFault
  | empty
  | digit
  | tooLarge
  | tooSmall
  deriving DecidableEq, Repr

def IntegerFault.message : IntegerFault → String
  | .empty => "cannot parse integer from empty string"
  | .digit => "invalid digit found in string"
  | .tooLarge => "number too large to fit in target type"
  | .tooSmall => "number too small to fit in target type"

def digit? (c : Char) : Option Nat :=
  if '0' ≤ c && c ≤ '9' then some (c.toNat - '0'.toNat) else none

/-- The number that the digits after `n` make of it, up to `limit`. -/
def readNat (limit : Nat) (overflow : IntegerFault) : Nat → List Char → Except IntegerFault Nat
  | n, [] => .ok n
  | n, c :: rest =>
    match digit? c with
    | none => .error .digit
    | some d =>
      if limit < 10 * n + d then .error overflow else readNat limit overflow (10 * n + d) rest

/-- At least one digit, and nothing else. -/
def readDigits (limit : Nat) (overflow : IntegerFault) : List Char → Except IntegerFault Nat
  | [] => .error .digit
  | c :: rest => readNat limit overflow 0 (c :: rest)

def readInteger : List Char → Except IntegerFault Int
  | [] => .error .empty
  | '-' :: rest => (readDigits (Nat.pow 2 63) .tooSmall rest).map fun n => -(n : Int)
  | '+' :: rest => (readDigits (Nat.pow 2 63 - 1) .tooLarge rest).map fun n => (n : Int)
  | cs => (readDigits (Nat.pow 2 63 - 1) .tooLarge cs).map fun n => (n : Int)

inductive FloatFault
  | empty
  | grammar
  deriving DecidableEq, Repr

def FloatFault.message : FloatFault → String
  | .empty => "cannot parse float from empty string"
  | .grammar => "invalid float literal"

/-- The digits at the start of a text, and what follows them. -/
def spanDigits (cs : List Char) : List Char × List Char :=
  cs.span fun c => (digit? c).isSome

def digitsValue (digits : List Char) : Nat :=
  digits.foldl (fun n c => 10 * n + (digit? c).getD 0) 0

/-- An optional sign: whether it is a minus, and what follows it. -/
def spanSign : List Char → Bool × List Char
  | '-' :: rest => (true, rest)
  | '+' :: rest => (false, rest)
  | cs => (false, cs)

/-- What follows a point, if there is one: the digits there, and the rest. -/
def spanFraction : List Char → List Char × List Char
  | '.' :: rest => spanDigits rest
  | cs => ([], cs)

/-- The exponent at the end of a decimal: zero where nothing is left, none where what is left is
no exponent. -/
def readExponent? : List Char → Option Int
  | [] => some 0
  | c :: rest =>
    if c = 'e' || c = 'E' then
      let (negative, digits) := spanSign rest
      match spanDigits digits with
      | (_ :: _, []) => some (signed negative (digitsValue digits))
      | _ => none
    else none

/-- A decimal without its sign, rounded to the nearest double. -/
def readSize? (negative : Bool) (cs : List Char) : Option Float :=
  let (whole, rest) := spanDigits cs
  let (fraction, rest) := spanFraction rest
  match whole ++ fraction, readExponent? rest with
  | [], _ => none
  | _, none => none
  | digits, some exponent =>
    some (nearestDecimal negative (digitsValue digits) (exponent - fraction.length))

/-- The names of what is not finite, in any case. -/
def readName? (negative : Bool) (cs : List Char) : Option Float :=
  let name := cs.map Char.toLower
  if name = "inf".toList || name = "infinity".toList then
    some (ofMagnitude negative (2047 * Nat.pow 2 52))
  else if name = "nan".toList then some (Float.ofBits 0x7FF8000000000000)
  else none

def readFloat (cs : List Char) : Except FloatFault Float :=
  if cs.isEmpty then .error .empty
  else
    let (negative, size) := spanSign cs
    match readSize? negative size with
    | some x => .ok x
    | none =>
      match readName? negative size with
      | some x => .ok x
      | none => .error .grammar

end ParamSql.Decimal
