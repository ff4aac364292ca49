import ParamSql.Error

namespace ParamSql

abbrev ValueType := Value → Except CompileError Scalar

def Value.infer : Value → Except CompileError Scalar
  | .null => .ok .null
  | .bool b => .ok (.bool b)
  | .integer n => .ok (.integer n)
  | .float x => .ok (.float x)
  | .text s => .ok (.text s)
  | .moment m => .ok (.text m.text)
  | .date d => .ok (.text d.text)
  | .bytes b => .ok (.bytes b)
  | .json document => .ok (.text document.text)
  | .list _ => .error (.conversion "mixed" .listValue)

inductive BuiltinType
  | string
  | integer
  | float
  | decimal
  | boolean
  | datetime
  | date
  | time
  | json
  | list
  | binary
  deriving DecidableEq, Repr

namespace BuiltinType

def name : BuiltinType → String
  | string => "string"
  | integer => "integer"
  | float => "float"
  | decimal => "decimal"
  | boolean => "boolean"
  | datetime => "datetime"
  | date => "date"
  | time => "time"
  | json => "json"
  | list => "array"
  | binary => "binary"

def refuse (t : BuiltinType) (fault : ConversionFault) : Except CompileError α :=
  .error (.conversion t.name fault)

/-- Text, and the display of all that is neither list nor document nor bytes. -/
def stringScalar : ValueType
  | .text s => .ok (.text s)
  | .list items => refuse string (.unsupported (.list items))
  | .json document => refuse string (.unsupported (.json document))
  | .bytes b => refuse string (.unsupported (.bytes b))
  | value => value.infer.map fun s => .text s.display

/-- Whether a double is an integer of 64 bits, and which one. -/
def integerOfFloat (x : Float) : Except ConversionFault Int64 :=
  match Decimal.integral? x with
  | none => .error (.unsupported (.float x))
  | some n =>
    if n < -Nat.pow 2 63 || Nat.pow 2 63 ≤ n then .error (.outOfRange x) else .ok (Int64.ofInt n)

/-- Integers, booleans as zero and one, whole doubles, and decimal text. -/
def integerScalar : ValueType
  | .integer n => .ok (.integer n)
  | .bool b => .ok (.integer (if b then 1 else 0))
  | .float x =>
    match integerOfFloat x with
    | .ok n => .ok (.integer n)
    | .error fault => refuse integer fault
  | .text s =>
    match Decimal.readInteger (Text.trimChars s.toList) with
    | .ok n => .ok (.integer (Int64.ofInt n))
    | .error fault => refuse integer (.integerText fault)
  | value => refuse integer (.unsupported value)

/-- Doubles, integers, and decimal text. -/
def floatScalar : ValueType
  | .float x => .ok (.float x)
  | .integer n => .ok (.float (Decimal.ofInt n.toInt))
  | .text s =>
    match Decimal.readFloat (Text.trimChars s.toList) with
    | .ok x => .ok (.float x)
    | .error fault => refuse float (.floatText fault)
  | value => refuse float (.unsupported value)

def decimalScalar : ValueType
  | .text s => .ok (.text s)
  | .integer n => .ok (.text (Scalar.integer n).display)
  | .float x => .ok (.text (Scalar.float x).display)
  | value => refuse decimal (.unsupported value)

def truthOfText? (s : String) : Option Bool :=
  let word := Text.lower (Text.trim s)
  if ["1", "true", "yes", "on"].contains word then some true
  else if ["0", "false", "no", "off", ""].contains word then some false
  else none

/-- Booleans, integers by whether they are zero, and the words for yes and no. -/
def booleanScalar : ValueType
  | .bool b => .ok (.bool b)
  | .integer n => .ok (.bool (n != 0))
  | .text s =>
    match truthOfText? s with
    | some b => .ok (.bool b)
    | none => refuse boolean (.unsupported (.text s))
  | value => refuse boolean (.unsupported value)

/-- Moments, dates at midnight, and text. -/
def datetimeScalar : ValueType
  | .moment m => .ok (.text m.text)
  | .date d => .ok (.text (d.text ++ " 00:00:00"))
  | .text s => .ok (.text s)
  | value => refuse datetime (.unsupported value)

/-- Dates, the dates of moments, and text. -/
def dateScalar : ValueType
  | .moment m => .ok (.text m.date.text)
  | .date d => .ok (.text d.text)
  | .text s => .ok (.text s)
  | value => refuse date (.unsupported value)

/-- The clock of moments, and text. -/
def timeScalar : ValueType
  | .moment m => .ok (.text m.clockText)
  | .text s => .ok (.text s)
  | value => refuse time (.unsupported value)

/-- Every value, as the text of a document. -/
def jsonScalar (value : Value) : Except CompileError Scalar :=
  .ok (.text value.toJson.text)

def itemTexts : List Value → Except CompileError (List String)
  | [] => .ok []
  | item :: rest => do
    let scalar ← item.infer
    let texts ← itemTexts rest
    return if scalar.isNull then texts else scalar.display :: texts

/-- Lists, their items separated by commas and nulls left out, and text. -/
def listScalar : ValueType
  | .list items => (itemTexts items).map fun texts => .text (",".intercalate texts)
  | .text s => .ok (.text s)
  | value => refuse list (.unsupported value)

/-- Bytes, and text by its encoding. -/
def binaryScalar : ValueType
  | .bytes b => .ok (.bytes b)
  | .text s => .ok (.bytes s.toUTF8.toList)
  | value => refuse binary (.unsupported value)

/-- The scalar that a type makes of a value other than the null. -/
def convert : BuiltinType → ValueType
  | string => stringScalar
  | integer => integerScalar
  | float => floatScalar
  | decimal => decimalScalar
  | boolean => booleanScalar
  | datetime => datetimeScalar
  | date => dateScalar
  | time => timeScalar
  | json => jsonScalar
  | list => listScalar
  | binary => binaryScalar

def scalar (t : BuiltinType) (value : Value) : Except CompileError Scalar :=
  if value.isNull then .ok .null else t.convert value

end BuiltinType

end ParamSql
