import ParamSql.Json.Basic
import ParamSql.Decimal.Layout
import ParamSql.Text.Diagnostic

namespace ParamSql.Json

/-- Numbers in documents: a point at least, and a signed exponent from `1e+16` on and below
`0.00001`. What is not finite is no number there. -/
def layout : Decimal.Layout where
  tie := .even
  positional e := -5 ≤ e && e < 16
  pointed := true
  plus := "+"
  nan := "null"
  infinite := "null"

def Number.text : Number → String
  | .natural n => toString n.toNat
  | .negative n => toString n.toInt
  | .real x => layout.text x

/-- A character inside a string of a document. Quotes, backslashes and controls below the space
are escaped, all else stands for itself. -/
def escaped (c : Char) : List Char :=
  if c = '\x22' then ['\\', '\x22']
  else if c = '\\' then ['\\', '\\']
  else if c = '\x08' then ['\\', 'b']
  else if c = '\x0c' then ['\\', 'f']
  else if c = '\n' then ['\\', 'n']
  else if c = '\r' then ['\\', 'r']
  else if c = '\t' then ['\\', 't']
  else if c.toNat < 0x20 then
    ['\\', 'u', '0', '0', Nat.digitChar (c.toNat / 16), Nat.digitChar (c.toNat % 16)]
  else [c]

/-- A string of a document, with its quotes. -/
def quoted (s : String) : String :=
  "\"" ++ String.ofList (s.toList.flatMap escaped) ++ "\""

mutual

def text : Json → String
  | .null => "null"
  | .bool b => if b then "true" else "false"
  | .number n => n.text
  | .string s => quoted s
  | .array items => "[" ++ ",".intercalate (texts items) ++ "]"
  | .object members => "\x7b" ++ ",".intercalate (memberTexts members) ++ "\x7d"

def texts : List Json → List String
  | [] => []
  | item :: rest => text item :: texts rest

def memberTexts : List (String × Json) → List String
  | [] => []
  | (key, value) :: rest => (quoted key ++ ":" ++ text value) :: memberTexts rest

end

mutual

/-- The document as messages show it: each part under the name of its kind. -/
def diagnostic : Json → String
  | .null => "Null"
  | .bool b => if b then "Bool(true)" else "Bool(false)"
  | .number n => "Number(" ++ n.text ++ ")"
  | .string s => "String(" ++ Text.diagnostic s ++ ")"
  | .array items => "Array [" ++ ", ".intercalate (diagnostics items) ++ "]"
  | .object members => "Object \x7b" ++ ", ".intercalate (memberDiagnostics members) ++ "\x7d"

def diagnostics : List Json → List String
  | [] => []
  | item :: rest => diagnostic item :: diagnostics rest

def memberDiagnostics : List (String × Json) → List String
  | [] => []
  | (key, value) :: rest =>
    (Text.diagnostic key ++ ": " ++ diagnostic value) :: memberDiagnostics rest

end

end ParamSql.Json
