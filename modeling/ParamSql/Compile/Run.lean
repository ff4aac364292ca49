import ParamSql.Compile.Mutation

namespace ParamSql

/-- A compiled statement: text with positional placeholders, and their bindings in order. -/
structure Compiled where
  sql : String
  bindings : List Scalar
  deriving DecidableEq, Repr

/-- What a call leaves behind: its result, the query with what it now keeps, and the journal. -/
structure Outcome (α : Type) where
  result : Except CompileError α
  query : Query
  journal : Journal

namespace Compiler

variable {σ : Type}

def mismatch (expected found : StatementKind) : CompileError :=
  .statementKind expected found

/-- Compiles a query of the right kind unless it keeps its text, and logs the outcome. -/
def attempt (c : Compiler σ) (kind : StatementKind) (q : Query) (work : Query → Compilation) :
    Compilation :=
  if q.statement.kind ≠ kind then ⟨.error (mismatch kind q.statement.kind), q.cache, []⟩
  else
    match q.cache.compiled with
    | some sql => ⟨.ok sql, q.cache, []⟩
    | none =>
      let done := work q
      match done.result with
      | .ok sql =>
        { done with
          cache := { done.cache with compiled := some sql }
          journal := .started kind :: done.journal ++
            Journal.ofLogs (Log.success c.level kind sql done.cache.bindings) }
      | .error e =>
        { done with
          journal := .started kind :: done.journal ++
            Journal.ofLogs (Log.failure c.level kind e.message) }

/-- The end of a compilation: the query is no longer being compiled, and the resolver is
cleared. -/
def close (result : Except CompileError String) (a : Assembly σ) : Compilation :=
  { result
    cache := { a.cache with compiling := false }
    journal := a.progress.journal ++ [.asked .clear] }

/-- Compiles a statement with a resolver of its own: it prepares the statement, then the prepared
statement is assembled. -/
def within {α : Type} (s : Scope σ) (kind : StatementKind) (cache : Cache) (prepare : Hook σ α)
    (assemble : α → Assemble σ String) : Compilation :=
  let start : Progress σ :=
    { state := s.compiler.resolver.start, pending := [], bound := [], journal := [] }
  let work : Assemble σ String := do
    let statement ← Assemble.render (Render.consult (.prepare kind) prepare)
    Assemble.render (Render.log (Log.statement s.compiler.level kind))
    assemble statement
  match work { cache := { cache with compiling := true }, progress := start } with
  | .ok sql a => close (.ok sql) a
  | .error e a => close (.error e) a

/-- Compiles an aggregate over distinct rows: the rows become a query of their own, and the
aggregate is taken of that. -/
def derived (c : Compiler σ) (q : Query) (select : Select Query) (a : Aggregate)
    (nested : Query → Compilation) : Compilation :=
  let inner :=
    { Query.ofStatement (.select { select with aggregate := none }) with
      connection := q.connection
      quoted := q.quoted }
  let done := nested inner
  match done.result with
  | .error e => ⟨.error e, q.cache, done.journal⟩
  | .ok sql =>
    let text := "SELECT " ++ c.platform.aggregate a.function "*" ++ " AS aggregate FROM (" ++ sql ++
      ") AS derived_query"
    ⟨.ok text, (q.cache.invalidate []).put .columns ⟨some text, done.cache.bindings⟩, done.journal⟩

/-- Compiles a SELECT whose tables are in the given database. The first argument bounds how deep
queries are nested. -/
def selectIn (c : Compiler σ) : Nat → Option String → Query → Compilation
  | 0, _, q => ⟨.error (.exceeded .nesting), q.cache, []⟩
  | n + 1, database, q =>
    c.attempt .select q fun q =>
      match q.statement with
      | .select select =>
        match select.derivedAggregate? with
        | some a => c.derived q select a (c.selectIn n database)
        | none =>
          let scope : Scope σ := ⟨c, q.quoted, database, c.selectIn n⟩
          within scope .select q.cache (c.resolver.select select) scope.select
      | statement => ⟨.error (mismatch .select statement.kind), q.cache, []⟩

def scope (c : Compiler σ) (q : Query) : Scope σ :=
  ⟨c, q.quoted, none, c.selectIn c.limits.nesting⟩

/-- Compiles a statement that changes tables. -/
def mutationIn (c : Compiler σ) (kind : StatementKind) (q : Query) : Compilation :=
  c.attempt kind q fun q =>
    let scope := c.scope q
    match q.statement with
    | .insert s =>
      within scope .insert q.cache (c.resolver.insert s) fun s =>
        Assemble.segment .whole false (scope.insert s)
    | .update s =>
      within scope .update q.cache (c.resolver.update s) fun s =>
        Assemble.segment .whole false (scope.update s)
    | .delete s =>
      within scope .delete q.cache (c.resolver.delete s) fun s =>
        Assemble.segment .whole false (scope.delete s)
    | .select _ => ⟨.error (mismatch kind .select), q.cache, []⟩

def compilation (c : Compiler σ) (kind : StatementKind) (q : Query) : Compilation :=
  match kind with
  | .select => c.selectIn c.limits.nesting none q
  | kind => c.mutationIn kind q

/-- Compiles a query as a statement of a kind; the text alone. -/
def compileAs (c : Compiler σ) (kind : StatementKind) (q : Query) : Outcome String :=
  let done := c.compilation kind q
  ⟨done.result, { q with cache := done.cache }, done.journal⟩

/-- Compiles a query. -/
def compile (c : Compiler σ) (q : Query) : Outcome Compiled :=
  let done := c.compileAs q.statement.kind q
  { done with result := done.result.map fun sql => ⟨sql, done.query.bindings⟩ }

end Compiler

end ParamSql
