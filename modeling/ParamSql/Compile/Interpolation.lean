import ParamSql.Compile.Run

namespace ParamSql

namespace Interpolation

/-- The characters that open a literal or a quoted identifier, and close it again. -/
def isQuote (c : Char) : Bool :=
  c = '\x27' || c = '\x22' || c = '\x60'

/-- The open quote after a quote character. -/
def toggle (opened : Option Char) (c : Char) : Option Char :=
  match opened with
  | none => some c
  | some q => if q = c then none else some q

/-- The text with literals in place of the placeholders outside quotes. A backslash inside a
literal takes the next character with it. -/
def scan (literal : Scalar → List Char) : Option Char → List Scalar → List Char → List Char
  | _, _, [] => []
  | none, scalar :: scalars, '?' :: rest => literal scalar ++ scan literal none scalars rest
  | some '\x27', scalars, '\\' :: c :: rest =>
    '\\' :: c :: scan literal (some '\x27') scalars rest
  | opened, scalars, c :: rest =>
    c :: scan literal (if isQuote c then toggle opened c else opened) scalars rest

end Interpolation

namespace Compiler

variable {σ : Type}

def interpolated (c : Compiler σ) (compiled : Compiled) : String :=
  String.ofList
    (Interpolation.scan (fun scalar => (c.platform.quoteLiteral scalar).toList) none
      compiled.bindings compiled.sql.toList)

def interpolate (c : Compiler σ) (q : Query) : Outcome String :=
  let done := c.compile q
  { done with result := done.result.map c.interpolated }

mutual

/-- A value as a literal; the items of a list stand side by side. -/
def quote (c : Compiler σ) : Value → Except CompileError String
  | .list items => (quoteItems c items).map ", ".intercalate
  | value => (c.types.scalar none value).map c.platform.quoteLiteral

def quoteItems (c : Compiler σ) : List Value → Except CompileError (List String)
  | [] => .ok []
  | item :: rest => do
    let text ← quote c item
    let texts ← quoteItems c rest
    return text :: texts

end

end Compiler

end ParamSql
