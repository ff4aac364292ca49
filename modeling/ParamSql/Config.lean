import ParamSql.Compile.Compiler
import ParamSql.Json.Source

namespace ParamSql

structure Config where
  connection : String := "default"
  database : Option String := none
  dialect : Dialect := .mysql
  quoted : Bool := false
  level : LogLevel := .off
  deriving DecidableEq, Repr

namespace Config

/-- The variables that a configuration is read from. -/
def dialectVariable : String := "QUERY_COMPILER_DIALECT"

@[inherit_doc dialectVariable]
def connectionVariable : String := "QUERY_COMPILER_CONNECTION"

@[inherit_doc dialectVariable]
def databaseVariable : String := "QUERY_COMPILER_DATABASE"

@[inherit_doc dialectVariable]
def quotedVariable : String := "QUERY_COMPILER_QUOTE_IDENTIFIERS"

@[inherit_doc dialectVariable]
def levelVariable : String := "QUERY_COMPILER_LOG_LEVEL"

def isYes (value : String) : Bool :=
  ["1", "true", "yes", "on"].contains (Text.lower (Text.trim value))

/-- The dialect that a variable names. A blank value names the default, an unknown name is
refused. -/
def dialectOf (value : Option String) : Except CompileError Dialect :=
  match value with
  | none => .ok .mysql
  | some name =>
    if Text.trim name = "" then .ok .mysql
    else
      match Dialect.ofName? name with
      | some dialect => .ok dialect
      | none => .error (.unknownDialect name)

def levelOf (lookup : String → Option String) : LogLevel :=
  ((lookup levelVariable).map LogLevel.ofText).getD .off

def ofEnvironment (lookup : String → Option String) : Except CompileError Config := do
  let dialect ← dialectOf (lookup dialectVariable)
  return {
    connection := (lookup connectionVariable).getD "default"
    database := (lookup databaseVariable).filter (· != "")
    dialect := dialect
    quoted := ((lookup quotedVariable).map isYes).getD false
    level := levelOf lookup }

def logsOf : Except CompileError Config → List LogEvent
  | .error (.unknownDialect name) => [.unknownDialect name]
  | _ => []

open Json (Source)

def readText? : Source → Option String
  | .string text => text
  | _ => none

/-- A text, or nothing. -/
def readOptional? : Source → Option (Option String)
  | .null => some none
  | source => (readText? source).map some

def readBool? : Source → Option Bool
  | .bool b => some b
  | _ => none

/-- One of some words, by itself or as the key of a null. -/
def readWord? {α : Type} (words : List (String × α)) : Source → Option α
  | .string text => text.bind fun word => words.lookup word
  | .object [(key, .null)] => key.bind fun word => words.lookup word
  | _ => none

def dialectWords : List (String × Dialect) :=
  [Dialect.mysql, .sqlite, .postgres].map fun d => (d.key, d)

def levelWords : List (String × LogLevel) :=
  [LogLevel.off, .basic, .detailed, .debug].map fun level => (level.text, level)

/-- A configuration with one field read. Unknown fields are ignored. -/
def withField? (config : Config) (key : String) (value : Source) : Option Config :=
  if key = "connection" then (readText? value).map ({ config with connection := · })
  else if key = "database" then (readOptional? value).map ({ config with database := · })
  else if key = "dialect" then (readWord? dialectWords value).map ({ config with dialect := · })
  else if key = "quote_identifiers" then (readBool? value).map ({ config with quoted := · })
  else if key = "log_level" then (readWord? levelWords value).map ({ config with level := · })
  else some config

/-- The fields of a configuration, in order. -/
def fields : List String :=
  ["connection", "database", "dialect", "quote_identifiers", "log_level"]

/-- A configuration with the members of an object read. A field may stand once, and every key has
to be a text. -/
def withMembers? : Config → List String → List (Option String × Source) → Option Config
  | config, _, [] => some config
  | config, seen, (key, value) :: rest => do
    let key ← key
    if seen.contains key then none
    else
      let config ← config.withField? key value
      config.withMembers? (if fields.contains key then key :: seen else seen) rest

/-- A configuration with the fields read one after the other. -/
def withItems? : Config → List String → List Source → Option Config
  | config, _, [] => some config
  | _, [], _ :: _ => none
  | config, field :: fields, item :: rest => do
    let config ← config.withField? field item
    config.withItems? fields rest

/-- Reads a configuration from the text of a document: an object with its fields, or an array of
them in order. -/
def ofJson? (text : String) : Option Config := do
  match ← Source.read? text with
  | .object members => withMembers? {} [] members
  | .array items => withItems? {} fields items
  | _ => none

end Config

namespace Compiler

def ofConfig (config : Config) : Compiler (Option String) :=
  { ofConnection ⟨config.connection, config.dialect.name, config.database⟩
      config.dialect.platform with
    quoted := config.quoted
    level := config.level }

/-- What is logged when the compiler of a configuration is made. -/
def creationLogs (config : Config) : List LogEvent :=
  [.creating config.connection config.dialect]

end Compiler

end ParamSql
