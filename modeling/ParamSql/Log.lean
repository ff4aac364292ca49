import ParamSql.Error
import ParamSql.Platform.Dialect

namespace ParamSql

inductive LogLevel
  | off
  | basic
  | detailed
  | debug
  deriving DecidableEq, Repr

namespace LogLevel

/-- The place of a level between nothing and everything. -/
def rank : LogLevel → Nat
  | off => 0
  | basic => 1
  | detailed => 2
  | debug => 3

/-- Whether a level lets through what another one asks for. -/
def covers (level asked : LogLevel) : Bool :=
  asked.rank ≤ level.rank

def text : LogLevel → String
  | off => "off"
  | basic => "basic"
  | detailed => "detailed"
  | debug => "debug"

/-- The level of a word, without regard to case and blanks around it; any other word is `off`. -/
def ofText (s : String) : LogLevel :=
  let word := Text.lower (Text.trim s)
  if word = "basic" then basic
  else if word = "detailed" then detailed
  else if word = "debug" then debug
  else off

end LogLevel

inductive Severity
  | debug
  | info
  | warn
  deriving DecidableEq, Repr

inductive LogEvent
  /-- A compiler is made for a connection. -/
  | creating (connection : String) (dialect : Dialect)
  | unknownDialect (name : String)
  /-- A statement is about to be compiled. -/
  | statement (kind : StatementKind)
  /-- The text of a compiled statement, and how many bindings it has. -/
  | compiled (kind : StatementKind) (sql : String) (bindings : Nat)
  /-- A binding, counted from one. -/
  | binding (kind : StatementKind) (index : Nat) (text : String)
  | failed (kind : StatementKind) (message : String)
  /-- A compilation is over. -/
  | finished (kind : StatementKind) (success : Bool)
  deriving DecidableEq, Repr

namespace LogEvent

def severity : LogEvent → Severity
  | creating .. | statement .. => .debug
  | unknownDialect .. | failed .. => .warn
  | compiled .. | binding .. | finished .. => .info

def message : LogEvent → String
  | creating .. => "creating SQL compiler"
  | unknownDialect .. => "unknown SQL dialect"
  | statement .. => "compiling statement"
  | compiled _ sql _ => "compiled SQL: " ++ sql
  | binding _ index text => "binding " ++ toString index ++ ": " ++ text
  | failed _ message => "compile failed: " ++ message
  | finished _ success => if success then "compilation completed" else "compilation failed"

def kind? : LogEvent → Option StatementKind
  | creating .. | unknownDialect .. => none
  | statement kind | compiled kind _ _ | binding kind _ _ | failed kind _ | finished kind _ =>
    some kind

end LogEvent

namespace Log

/-- The last place between two characters that is not behind a byte of the text. The search goes
back byte by byte; the start is such a place. -/
def boundary (sql : String) : Nat → sql.Pos
  | 0 => sql.startPos
  | i + 1 =>
    if h : (String.Pos.Raw.mk (i + 1)).IsValid sql then ⟨⟨i + 1⟩, h⟩ else boundary sql i

/-- How many bytes of a text the basic level shows. -/
def room : Nat := 1000

def truncate (sql : String) : String :=
  if sql.utf8ByteSize ≤ room then sql else (sql.sliceTo (boundary sql room)).copy ++ "..."

def gated (level asked : LogLevel) (events : List LogEvent) : List LogEvent :=
  if level.covers asked then events else []

def statement (level : LogLevel) (kind : StatementKind) : List LogEvent :=
  gated level .debug [.statement kind]

def bindings (kind : StatementKind) (scalars : List Scalar) : List LogEvent :=
  scalars.zipIdx.map fun (scalar, index) => .binding kind (index + 1) scalar.display

def compiled (level : LogLevel) (kind : StatementKind) (sql : String) (scalars : List Scalar) :
    List LogEvent :=
  let shown := if level.covers .detailed then sql else truncate sql
  gated level .basic [.compiled kind shown scalars.length] ++
    gated level .detailed (bindings kind scalars)

def failed (level : LogLevel) (kind : StatementKind) (message : String) : List LogEvent :=
  gated level .basic [.failed kind message]

def finished (level : LogLevel) (kind : StatementKind) (success : Bool) : List LogEvent :=
  gated level .basic [.finished kind success]

def success (level : LogLevel) (kind : StatementKind) (sql : String) (scalars : List Scalar) :
    List LogEvent :=
  compiled level kind sql scalars ++ finished level kind true

def failure (level : LogLevel) (kind : StatementKind) (message : String) : List LogEvent :=
  failed level kind message ++ finished level kind false

/-- The end of a compilation that is given up without a message. -/
def abandoned (level : LogLevel) (kind : StatementKind) : List LogEvent :=
  finished level kind false

end Log

end ParamSql
