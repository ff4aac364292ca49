import ParamSql.Compile.Compiler

namespace ParamSql

/-- What a compilation leaves behind: its text or the cause of its failure, what the query now
keeps, and the journal. -/
structure Compilation where
  result : Except CompileError String
  cache : Cache
  journal : Journal

structure Progress (σ : Type) where
  /-- The state of the resolver. -/
  state : σ
  /-- Conditions that the resolver added and that no list has taken over yet. -/
  pending : List (Condition Query)
  /-- The bindings of the clause so far. -/
  bound : List Scalar
  journal : Journal

/-- A piece of rendering. A failure keeps the progress. -/
abbrev Render (σ : Type) : Type → Type :=
  EStateM CompileError (Progress σ)

namespace Render

variable {σ α : Type}

def note (e : Event) : Render σ Unit :=
  modify fun p => { p with journal := p.journal ++ [e] }

def log (events : List LogEvent) : Render σ Unit :=
  modify fun p => { p with journal := p.journal ++ Journal.ofLogs events }

/-- Goes on with a result, or fails. -/
def lift : Except CompileError α → Render σ α
  | .ok a => pure a
  | .error e => throw e

/-- Goes on with a collaborator's answer; a refusal is noted and ends the compilation. -/
def heed : Except CompileError α → Render σ α
  | .ok a => pure a
  | .error e => do
    note (.refused e)
    throw e

def ask (call : Call) (answer : Except CompileError α) : Render σ α := do
  note (.asked call)
  heed answer

def onState (hook : Hook σ α) : Render σ (Except CompileError α) := fun p =>
  match hook p.state with
  | .ok a state => .ok (.ok a) { p with state := state }
  | .error e state => .ok (.error e) { p with state := state }

def consult (call : Call) (hook : Hook σ α) : Render σ α := do
  note (.asked call)
  heed (← onState hook)

def bindAll (scalars : List Scalar) : Render σ Unit :=
  modify fun p => { p with bound := p.bound ++ scalars }

end Render

/-- The surroundings of a rendering. -/
structure Scope (σ : Type) where
  compiler : Compiler σ
  /-- Whether names are quoted. -/
  quoted : Bool
  /-- The database that tables without one are looked for in. -/
  database : Option String
  /-- Compiles a nested query for tables of a database. -/
  nested : Option String → Query → Compilation

namespace Scope

variable {σ : Type}

def platform (s : Scope σ) : Platform :=
  s.compiler.platform

def quote (s : Scope σ) (name : String) : String :=
  s.platform.quoteName s.quoted name

def column (s : Scope σ) (name : String) : Render σ Field := do
  let field ← Render.consult (.field name none) (s.compiler.resolver.field name none)
  return { field with name := s.quote field.name }

def root (s : Scope σ) : Render σ (Option String) := do
  Render.note (.asked .root)
  return s.compiler.resolver.root (← get).state

def answer (s : Scope σ) : Fragment → Render σ String
  | .text sql => pure sql
  | .fail e => Render.heed (.error e)
  | .column name next => do
    let field ← s.column name
    s.answer (next field.name)
  | .root next => do
    let table ← s.root
    s.answer (next table)
  | .look next => s.answer (next ⟨s.platform, s.quote⟩)

def fragment (s : Scope σ) (f : Fragment) : Render σ String := do
  Render.note (.asked .fragment)
  s.answer f

/-- The database for the tables of a nested query. A query on another connection names its own; it
has to be of the same platform, as it runs where the outer query does. -/
def databaseOf (s : Scope σ) (q : Query) : Except CompileError (Option String) :=
  match q.connection with
  | none => .ok s.database
  | some connection =>
    if connection.name = s.compiler.connection.name then .ok s.database
    else if connection.platform = s.platform.name then .ok connection.database
    else .error (.incompatibleConnection s.platform.name connection.platform)

/-- The text of a nested query; its bindings follow those so far. -/
def query (s : Scope σ) (q : Query) : Render σ String := do
  let database ← Render.lift (s.databaseOf q)
  let done := s.nested database q
  modify fun p => { p with journal := p.journal ++ done.journal }
  let sql ← Render.lift done.result
  Render.bindAll done.cache.bindings
  return sql

/-- The name of a table, in its database if it has none. -/
def tableName (s : Scope σ) (name : String) : String :=
  match s.database with
  | some database =>
    if name.toList.contains '.' then s.quote name else s.quote (database ++ "." ++ name)
  | none => s.quote name

def resolveTable (s : Scope σ) (t : TableRef Query) : Render σ (TableRef Query) :=
  Render.consult (.table t.name?) (s.compiler.resolver.table t)

/-- What a table reference stands for, without its other name. -/
def source (s : Scope σ) : TableSource Query → Render σ String
  | .name name => pure (s.tableName name)
  | .query q => do
    let sql ← s.query q
    return "(" ++ sql ++ ")"

/-- The other name of a column or table, behind the given word. -/
def aliased (s : Scope σ) (word : String) : Option String → String
  | some name => word ++ s.quote name
  | none => ""

def table (s : Scope σ) (t : TableRef Query) : Render σ String := do
  let resolved ← s.resolveTable t
  let sql ← s.source resolved.source
  return sql ++ s.aliased " " resolved.label

end Scope

end ParamSql
