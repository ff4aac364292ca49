import ParamSql.Json.Basic
import ParamSql.Decimal.Reader

namespace ParamSql.Json

/-- A number as it stands in the text. -/
structure Numeral where
  negative : Bool
  whole : List Char
  fraction : List Char
  /-- Whether the exponent is negative, and its digits. -/
  exponent : Option (Bool × List Char)
  deriving Repr

/-- A document as it stands in the text. A string that holds half a surrogate pair has no text. -/
inductive Source
  | null
  | bool (b : Bool)
  | number (n : Numeral)
  | string (text : Option String)
  | array (items : List Source)
  | object (members : List (Option String × Source))
  deriving Repr

/-- One item of a string: a character, or the 16-bit unit of an escape. -/
inductive StringUnit
  | char (c : Char)
  | code (n : Nat)

def hexDigit? (c : Char) : Option Nat :=
  if '0' ≤ c && c ≤ '9' then some (c.toNat - '0'.toNat)
  else if 'a' ≤ c && c ≤ 'f' then some (c.toNat - 'a'.toNat + 10)
  else if 'A' ≤ c && c ≤ 'F' then some (c.toNat - 'A'.toNat + 10)
  else none

def hexUnit? (a b c d : Char) : Option Nat := do
  return (((← hexDigit? a) * 16 + (← hexDigit? b)) * 16 + (← hexDigit? c)) * 16 + (← hexDigit? d)

def escapeLetter? (c : Char) : Option Char :=
  if c = '\x22' || c = '\\' || c = '/' then some c
  else if c = 'b' then some '\x08'
  else if c = 'f' then some '\x0c'
  else if c = 'n' then some '\n'
  else if c = 'r' then some '\r'
  else if c = 't' then some '\t'
  else none

/-- The items up to the closing quote, and what follows it. -/
def scanString : List Char → Option (List StringUnit × List Char)
  | [] => none
  | '\\' :: 'u' :: a :: b :: c :: d :: rest => do
    let unit ← hexUnit? a b c d
    let (units, rest) ← scanString rest
    return (.code unit :: units, rest)
  | '\\' :: c :: rest => do
    let letter ← escapeLetter? c
    let (units, rest) ← scanString rest
    return (.char letter :: units, rest)
  | c :: rest =>
    if c = '\x22' then some ([], rest)
    else if c = '\\' || c.toNat < 0x20 then none
    else do
      let (units, rest) ← scanString rest
      return (.char c :: units, rest)

/-- Whether a unit is the first half of a surrogate pair. -/
def isHigh (n : Nat) : Bool :=
  0xD800 ≤ n && n < 0xDC00

/-- Whether a unit is the second half of a surrogate pair. -/
def isLow (n : Nat) : Bool :=
  0xDC00 ≤ n && n < 0xE000

/-- The characters of a string, unless half a pair stands alone. -/
def decodeUnits : List StringUnit → Option (List Char)
  | [] => some []
  | .char c :: rest => (decodeUnits rest).map (c :: ·)
  | [.code n] => if isHigh n || isLow n then none else some [Char.ofNat n]
  | .code n :: .code m :: rest =>
    if isHigh n then
      if isLow m then
        (decodeUnits rest).map
          (Char.ofNat (0x10000 + (n - 0xD800) * 0x400 + (m - 0xDC00)) :: ·)
      else none
    else if isLow n then none
    else (decodeUnits (.code m :: rest)).map (Char.ofNat n :: ·)
  | .code n :: .char c :: rest =>
    if isHigh n || isLow n then none
    else (decodeUnits rest).map fun cs => Char.ofNat n :: c :: cs

def spanDigits? (cs : List Char) : Option (List Char × List Char) :=
  match Decimal.spanDigits cs with
  | ([], _) => none
  | (digits, rest) => some (digits, rest)

/-- The exponent of a numeral, where one stands. -/
def scanExponent : List Char → Option (Option (Bool × List Char) × List Char)
  | [] => some (none, [])
  | c :: rest =>
    if c = 'e' || c = 'E' then do
      let (negative, rest) := Decimal.spanSign rest
      let (digits, rest) ← spanDigits? rest
      return (some (negative, digits), rest)
    else some (none, c :: rest)

/-- A numeral: no plus, no leading zero, a digit on both sides of the point. -/
def scanNumeral (cs : List Char) : Option (Numeral × List Char) := do
  let (negative, cs) :=
    match cs with
    | '-' :: rest => (true, rest)
    | cs => (false, cs)
  let (whole, rest) ← spanDigits? cs
  if whole.head? = some '0' && 1 < whole.length then failure
  let (fraction, rest) ←
    match rest with
    | '.' :: rest => spanDigits? rest
    | rest => some ([], rest)
  let (exponent, rest) ← scanExponent rest
  return ({ negative, whole, fraction, exponent }, rest)

/-- The text without the blanks at its start that may stand between tokens. -/
def skipBlanks (cs : List Char) : List Char :=
  cs.dropWhile fun c => c = ' ' || c = '\t' || c = '\n' || c = '\r'

def skipWord? : List Char → List Char → Option (List Char)
  | [], cs => some cs
  | _ :: _, [] => none
  | w :: word, c :: cs => if w = c then skipWord? word cs else none

mutual

/-- A value at the start of a text, and what follows it. -/
def scanValue : Nat → List Char → Option (Source × List Char)
  | 0, _ => none
  | n + 1, cs =>
    match skipBlanks cs with
    | [] => none
    | c :: rest =>
      if c = 'n' then (skipWord? "ull".toList rest).map (Source.null, ·)
      else if c = 't' then (skipWord? "rue".toList rest).map (Source.bool true, ·)
      else if c = 'f' then (skipWord? "alse".toList rest).map (Source.bool false, ·)
      else if c = '\x22' then
        (scanString rest).map fun (units, rest) =>
          (.string ((decodeUnits units).map String.ofList), rest)
      else if c = '[' then
        match skipBlanks rest with
        | ']' :: rest => some (.array [], rest)
        | rest => (scanItems n rest).map fun (items, rest) => (.array items, rest)
      else if c = '\x7b' then
        match skipBlanks rest with
        | '\x7d' :: rest => some (.object [], rest)
        | rest => (scanMembers n rest).map fun (members, rest) => (.object members, rest)
      else (scanNumeral (c :: rest)).map fun (numeral, rest) => (.number numeral, rest)

def scanItems : Nat → List Char → Option (List Source × List Char)
  | 0, _ => none
  | n + 1, cs => do
    let (item, rest) ← scanValue n cs
    match skipBlanks rest with
    | ',' :: rest =>
      let (items, rest) ← scanItems n rest
      return (item :: items, rest)
    | ']' :: rest => return ([item], rest)
    | _ => none

def scanMembers : Nat → List Char → Option (List (Option String × Source) × List Char)
  | 0, _ => none
  | n + 1, cs =>
    match skipBlanks cs with
    | '\x22' :: rest => do
      let (units, rest) ← scanString rest
      let key := (decodeUnits units).map String.ofList
      match skipBlanks rest with
      | ':' :: rest =>
        let (value, rest) ← scanValue n rest
        match skipBlanks rest with
        | ',' :: rest =>
          let (members, rest) ← scanMembers n rest
          return ((key, value) :: members, rest)
        | '\x7d' :: rest => return ([(key, value)], rest)
        | _ => none
      | _ => none
    | _ => none

end

/-- One document and blanks around it. Every second step of the grammar takes a character, so
twice the length of the text is enough of them. -/
def Source.read? (s : String) : Option Source :=
  let cs := s.toList
  match scanValue (2 * cs.length + 2) cs with
  | some (source, rest) => if (skipBlanks rest).isEmpty then some source else none
  | none => none

/-- Takes digits into a 64-bit significand as long as it holds them: the significand, and how many
digits it took. -/
def absorb : Nat → List Char → Nat × Nat
  | n, [] => (n, 0)
  | n, c :: rest =>
    let next := 10 * n + (Decimal.digit? c).getD 0
    if Nat.pow 2 64 ≤ next then (n, 0)
    else
      let (significand, taken) := absorb next rest
      (significand, taken + 1)

/-- Scales a double by a power of ten, in steps that are doubles themselves; none beyond the
largest double. Below `10 ^ -308` it takes several steps, at most as many as the first argument
says. -/
def scale? : Nat → Float → Int → Option Float
  | 0, x, _ => some x
  | n + 1, x, e =>
    if e.natAbs ≤ 308 then
      let power := Decimal.nearest false (Nat.pow 10 e.natAbs) 1
      if 0 ≤ e then
        match Decimal.exact (x * power) with
        | .infinite _ => none
        | _ => some (x * power)
      else some (x / power)
    else if x == 0 then some x
    else if 0 ≤ e then none
    else scale? n (x / Decimal.nearest false (Nat.pow 10 308) 1) (e + 308)

/-- The double of a numeral that is no integer, or too long for one. Digits that the significand
does not hold only count as places. -/
def Numeral.real? (n : Numeral) : Option Float := do
  let (whole, wholeTaken) := absorb 0 n.whole
  let (significand, fractionTaken) := absorb whole n.fraction
  let places : Int := (n.whole.length - wholeTaken : Nat) - (fractionTaken : Int)
  let (negativeExponent, size) :=
    match n.exponent with
    | some (negative, digits) => (negative, Decimal.digitsValue digits)
    | none => (false, 0)
  let zero := Decimal.ofMagnitude n.negative 0
  if Nat.pow 2 31 ≤ size then
    if significand = 0 || negativeExponent then return zero else none
  else
    let exponent := places + Decimal.signed negativeExponent size
    -- A significand below 10 ^ 20 is zero after two steps and a rest.
    let x ← scale? 4 (Decimal.ofInt significand) exponent
    return if n.negative then -x else x

/-- The number that a numeral denotes. An integer beyond 64 bits, and a negative zero, are
doubles. -/
def Numeral.number? (n : Numeral) : Option Number :=
  let size := Decimal.digitsValue n.whole
  if n.fraction.isEmpty && n.exponent.isNone && size < Nat.pow 2 64 then
    if !n.negative then some (.natural (UInt64.ofNat size))
    else if 0 < size && size ≤ Nat.pow 2 63 then some (.negative (Int64.ofInt (-(size : Int))))
    else some (.real (Decimal.ofInt size).neg)
  else n.real?.map .real

mutual

def Source.json? : Source → Option Json
  | .null => some .null
  | .bool b => some (.bool b)
  | .number n => n.number?.map .number
  | .string text => text.map .string
  | .array items => (Source.items? items).map .array
  | .object members => (Source.members? members).map ofMembers

def Source.items? : List Source → Option (List Json)
  | [] => some []
  | item :: rest => do return (← item.json?) :: (← Source.items? rest)

def Source.members? : List (Option String × Source) → Option (List (String × Json))
  | [] => some []
  | (key, value) :: rest => do return (← key, ← value.json?) :: (← Source.members? rest)

end

end Json

namespace Json

def read? (s : String) : Option Json :=
  (Source.read? s).bind Source.json?

end ParamSql.Json
