import ParamSql.Platform.Basic

namespace ParamSql

inductive Dialect
  | mysql
  | sqlite
  | postgres
  deriving DecidableEq, Repr

namespace Dialect

def name : Dialect → String
  | mysql => "mysql"
  | sqlite => "sqlite"
  | postgres => "postgresql"

def key : Dialect → String
  | mysql => "mysql"
  | sqlite => "sqlite"
  | postgres => "postgres"

/-- The dialect of a name or of one of its other names, without regard to case and blanks around
it. -/
def ofName? (name : String) : Option Dialect :=
  let name := Text.lower (Text.trim name)
  if ["mysql", "mariadb"].contains name then some mysql
  else if ["sqlite", "sqlite3"].contains name then some sqlite
  else if ["postgres", "postgresql", "pgsql"].contains name then some postgres
  else none

def identifierQuote : Dialect → Char
  | mysql => '\x60'
  | sqlite | postgres => '\x22'

def literalQuote : Char := '\x27'

/-- Whether a character is written twice inside a string literal. A backslash is, where it would
escape what follows. -/
def isLiteralSpecial (d : Dialect) (c : Char) : Bool :=
  c = literalQuote || (c = '\\' && d = mysql)

def quoteIdentifier (d : Dialect) (name : String) : String :=
  String.ofList (Text.delimited d.identifierQuote (· = d.identifierQuote) name.toList)

def stringLiteral (d : Dialect) (s : String) : String :=
  String.ofList (Text.delimited literalQuote d.isLiteralSpecial s.toList)

def byteHex (b : UInt8) : List Char :=
  [Nat.digitChar (b.toNat / 16), Nat.digitChar (b.toNat % 16)]

def bytesLiteral (d : Dialect) (bytes : List UInt8) : String :=
  let digits := String.ofList (bytes.flatMap byteHex)
  match d with
  | postgres => "'\\x" ++ digits ++ "'"
  | mysql | sqlite => "X'" ++ digits ++ "'"

/-- The truth values. -/
def boolLiteral (d : Dialect) (b : Bool) : String :=
  match d with
  | postgres => if b then "TRUE" else "FALSE"
  | mysql | sqlite => if b then "1" else "0"

def quoteLiteral (d : Dialect) : Scalar → String
  | .null => "NULL"
  | .bool b => d.boolLiteral b
  | .integer n => toString n.toInt
  | .float x => Decimal.Layout.plain.text x
  | .text s => d.stringLiteral s
  | .bytes b => d.bytesLiteral b

def keywords : Dialect → List String
  | mysql | sqlite => ["DISTINCT", "IGNORE", "REPLACE", "REGEXP", "LIMIT", "OFFSET"]
  | postgres => ["DISTINCT", "LIMIT", "OFFSET"]

def isKeyword (d : Dialect) (word : String) : Bool :=
  d.keywords.any (Text.sameWord · word)

/-- What stands for "all rows" before an offset, where there has to be a limit. -/
def unlimited : Dialect → String
  | mysql => " LIMIT 18446744073709551615"
  | sqlite => " LIMIT -1"
  | postgres => ""

/-- A statement cut down to a number of rows, after skipping some. -/
def limited (d : Dialect) (sql : String) (limit offset : Option UInt64) : String :=
  let limitText :=
    match limit, offset with
    | some n, _ => " LIMIT " ++ toString n.toNat
    | none, some _ => d.unlimited
    | none, none => ""
  let offsetText :=
    match offset with
    | some n => " OFFSET " ++ toString n.toNat
    | none => ""
  sql ++ limitText ++ offsetText

def writeLock : Dialect → String
  | mysql | postgres => "FOR UPDATE"
  | sqlite => ""

def readLock : Dialect → String
  | mysql => "LOCK IN SHARE MODE"
  | postgres => "FOR SHARE"
  | sqlite => ""

def regexOperator : Dialect → String
  | postgres => "~"
  | mysql | sqlite => "REGEXP"

/-- The values of an inserted row that has only defaults. -/
def defaultValues : Dialect → String
  | mysql => "() VALUES ()"
  | sqlite | postgres => "DEFAULT VALUES"

def platform (d : Dialect) : Platform where
  name := d.name
  quoteIdentifier := d.quoteIdentifier
  quoteLiteral := d.quoteLiteral
  isKeyword := d.isKeyword
  limited := d.limited
  writeLock := d.writeLock
  readLock := d.readLock
  regexOperator := d.regexOperator
  defaultValues := d.defaultValues

end Dialect

end ParamSql
