import ParamSql.Compile.Journal
import ParamSql.Conversion.Registry
import ParamSql.Query.Edit

namespace ParamSql

/-- How far a compilation goes. Queries may hold queries, and a resolver may add conditions without
end; beyond these bounds a compilation fails. -/
structure Limits where
  /-- How deep queries may be nested. -/
  nesting : Nat := 1000
  /-- How many conditions, at all depths, a resolver may add to one list. -/
  growth : Nat := 100000
  deriving DecidableEq, Repr

/-- A compiler for one connection, with a resolver of states `σ`. -/
structure Compiler (σ : Type) where
  connection : Connection
  platform : Platform
  types : TypeRegistry
  resolver : Resolver σ
  /-- Whether the queries it makes have their names quoted. -/
  quoted : Bool := false
  level : LogLevel := .off
  limits : Limits := {}

namespace Compiler

variable {σ : Type}

/-- The compiler for a connection, with the built-in types and no declared columns. -/
def ofConnection (connection : Connection) (platform : Platform) : Compiler (Option String) where
  connection := connection
  platform := platform
  types := .builtins
  resolver := .declared []

/-- The compiler for a dialect, on a connection of the name `default`. -/
def ofDialect (d : Dialect) : Compiler (Option String) :=
  ofConnection ⟨"default", d.name, none⟩ d.platform

def query (c : Compiler σ) (statement : Statement Query) : Query :=
  ((Query.ofStatement statement).edit (.connection c.connection)).edit (.quoted c.quoted)

/-- A name, quoted as the compilation of a query would. -/
def quoteIdentifier (c : Compiler σ) (q : Query) (name : String) : String :=
  c.platform.quoteName q.quoted name

end Compiler

end ParamSql
