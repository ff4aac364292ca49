import ParamSql.Calendar
import ParamSql.Json.Writer
import ParamSql.Text.Basic

namespace ParamSql

inductive Value
  | null
  | bool (b : Bool)
  | integer (n : Int64)
  | float (x : Float)
  | text (s : String)
  | moment (m : Moment)
  | date (d : Date)
  | bytes (b : List UInt8)
  | json (document : Json)
  | list (items : List Value)

/-- A value that can be bound to a placeholder. -/
inductive Scalar
  | null
  | bool (b : Bool)
  | integer (n : Int64)
  | float (x : Float)
  | text (s : String)
  | bytes (b : List UInt8)
  deriving DecidableEq, Repr

namespace Scalar

def isNull : Scalar → Bool
  | null => true
  | _ => false

/-- The scalar as logs and stored lists show it. Bytes are counted, not shown. -/
def display : Scalar → String
  | null => "NULL"
  | bool b => if b then "true" else "false"
  | integer n => toString n.toInt
  | float x => Decimal.Layout.plain.text x
  | text s => s
  | bytes b => "<" ++ toString b.length ++ " bytes>"

def value : Scalar → Value
  | null => .null
  | bool b => .bool b
  | integer n => .integer n
  | float x => .float x
  | text s => .text s
  | bytes b => .bytes b

end Scalar

namespace Value

def isNull : Value → Bool
  | null => true
  | _ => false

def isList : Value → Bool
  | list _ => true
  | _ => false

/-- The scalar that a value is, if it needs no conversion. -/
def scalar? : Value → Option Scalar
  | null => some .null
  | bool b => some (.bool b)
  | integer n => some (.integer n)
  | float x => some (.float x)
  | text s => some (.text s)
  | bytes b => some (.bytes b)
  | moment _ | date _ | json _ | list _ => none

theorem scalar?_value (s : Scalar) : s.value.scalar? = some s := by
  cases s <;> rfl

/-- Numbers in messages: a point at least, and an exponent from `1e16` on and below `0.0001`. -/
def diagnosticLayout : Decimal.Layout where
  tie := .up
  positional e := -4 ≤ e && e < 16
  pointed := true
  plus := ""
  nan := "NaN"
  infinite := "inf"

mutual

/-- The value as messages show it: its content under the name of its kind. -/
def diagnostic : Value → String
  | null => "Null"
  | bool b => if b then "Bool(true)" else "Bool(false)"
  | integer n => "Integer(" ++ toString n.toInt ++ ")"
  | float x => "Float(" ++ diagnosticLayout.text x ++ ")"
  | text s => "String(" ++ Text.diagnostic s ++ ")"
  | moment m => "DateTime(" ++ m.fullText ++ ")"
  | date d => "Date(" ++ d.text ++ ")"
  | bytes b => "Bytes([" ++ ", ".intercalate (b.map fun n => toString n.toNat) ++ "])"
  | json document => "Json(" ++ document.diagnostic ++ ")"
  | list items => "Array([" ++ ", ".intercalate (diagnostics items) ++ "])"

def diagnostics : List Value → List String
  | [] => []
  | item :: rest => diagnostic item :: diagnostics rest

end

mutual

/-- The value that a document stands for. Arrays become lists and objects stay documents; an
integer beyond 64 bits with sign becomes a double. -/
def ofJson : Json → Value
  | .null => .null
  | .bool b => .bool b
  | .number (.natural n) =>
    if n.toNat < Nat.pow 2 63 then .integer (Int64.ofInt n.toNat)
    else .float (Decimal.ofInt n.toNat)
  | .number (.negative n) => .integer n
  | .number (.real x) => .float x
  | .string s => .text s
  | .array items => .list (ofJsonItems items)
  | .object members => .json (.object members)

def ofJsonItems : List Json → List Value
  | [] => []
  | item :: rest => ofJson item :: ofJsonItems rest

end

mutual

/-- The document that stands for a value. What is not finite is null there; moments, dates and
bytes have no kind of their own. -/
def toJson : Value → Json
  | .null => .null
  | .bool b => .bool b
  | .integer n => .number (.ofInt64 n)
  | .float x =>
    match Decimal.exact x with
    | .finite _ _ _ => .number (.real x)
    | .infinite _ | .nan => .null
  | .text s => .string s
  | .moment m => .string m.text
  | .date d => .string d.text
  | .bytes b => .array (b.map fun n => .number (.natural n.toUInt64))
  | .json document => document
  | .list items => .array (toJsonItems items)

def toJsonItems : List Value → List Json
  | [] => []
  | item :: rest => toJson item :: toJsonItems rest

end

end Value

/-- The name of a value type, or of lists of it. -/
structure TypeName where
  name : String
  isList : Bool
  deriving DecidableEq, Repr

namespace TypeName

/-- The type of this name, as it is written. -/
def plain (name : String) : TypeName :=
  ⟨name, false⟩

/-- The characters before a closing `[]`, if there is one. -/
def listBase? (cs : List Char) : Option (List Char) :=
  match cs.reverse with
  | ']' :: '[' :: base => some base.reverse
  | _ => none

/-- Reads a type name: without blanks around it, a closing `[]` apart, in lower case. -/
def ofText (s : String) : TypeName :=
  let cs := Text.trimChars s.toList
  match listBase? cs with
  | some base => ⟨Text.lower (String.ofList base), true⟩
  | none => ⟨Text.lower (String.ofList cs), false⟩

def text (t : TypeName) : String :=
  if t.isList then t.name ++ "[]" else t.name

end TypeName

end ParamSql
