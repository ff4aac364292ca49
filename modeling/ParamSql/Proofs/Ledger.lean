import ParamSql.Proofs.Inline

namespace ParamSql

open Marked

/-- What is kept of a query whose values are written inline. -/
structure Ledger where
  kept : Clause → Option Marked
  compiled : Option Marked

namespace Ledger

def put (ledger : Ledger) (clause : Clause) (text : Marked) : Ledger :=
  { ledger with kept := fun other => if other = clause then some text else ledger.kept other }

def discard (ledger : Ledger) (clauses : List Clause) : Ledger :=
  { ledger with kept := fun clause => if clause ∈ clauses then none else ledger.kept clause }

/-- The ledger after a change to the given clauses, or to all of the query if none is given. -/
def invalidate (ledger : Ledger) (clauses : List Clause) : Ledger :=
  { ledger.discard (if clauses.isEmpty then Clause.all else clauses) with compiled := none }

theorem kept_put_self (ledger : Ledger) (clause : Clause) (text : Marked) :
    (ledger.put clause text).kept clause = some text :=
  if_pos rfl

theorem kept_put_ne (ledger : Ledger) {clause other : Clause} (text : Marked)
    (h : other ≠ clause) : (ledger.put clause text).kept other = ledger.kept other :=
  if_neg h

theorem kept_discard (ledger : Ledger) (clauses : List Clause) (clause : Clause) :
    (ledger.discard clauses).kept clause = if clause ∈ clauses then none else ledger.kept clause :=
  rfl

end Ledger

/-- What is kept in a slot, with the values in the places of the placeholders. -/
def Slot.marked (slot : Slot) : Option Marked :=
  slot.fragment.map fun sql => tag sql.toList slot.bindings

/-- What a query keeps, with the values in the places of the placeholders. -/
def Cache.ledger (cache : Cache) : Ledger where
  kept clause := (cache.slot clause).marked
  compiled := cache.compiled.map fun sql => tag sql.toList cache.bindings

/-- A query without its cache, and what is kept of it with the values inline. -/
structure Draft where
  query : Query
  ledger : Ledger

namespace Draft

def of (q : Query) : Draft :=
  ⟨q.fresh, q.cache.ledger⟩

def edit (d : Draft) (e : Edit) : Draft :=
  if e.isIdle d.query then d
  else ⟨e.change d.query, d.ledger.invalidate e.touches⟩

end Draft

/-- How far the assembly of a statement has come. -/
structure InlineAssembly (σ : Type) where
  ledger : Ledger
  progress : Progress σ

/-- A piece of assembly. A failure keeps what is done. -/
abbrev InlineAssemble (σ : Type) : Type → Type :=
  EStateM CompileError (InlineAssembly σ)

namespace InlineAssemble

variable {σ α : Type}

/-- Renders without touching what is kept. -/
def render (work : Render σ α) : InlineAssemble σ α := fun a =>
  match work a.progress with
  | .ok x progress => .ok x { a with progress := progress }
  | .error e progress => .error e { a with progress := progress }

/-- Renders a clause unless it is kept. -/
def clause (clause : Clause) (work : Render σ Marked) : InlineAssemble σ PUnit := fun a =>
  match a.ledger.kept clause with
  | some _ => .ok () a
  | none =>
    match work a.progress with
    | .ok text progress => .ok () ⟨a.ledger.put clause text, progress⟩
    | .error e progress => .error e { a with progress := progress }

/-- Renders clauses one after the other, unless they are kept. -/
def fill (works : List (Clause × Render σ Marked)) : InlineAssemble σ PUnit :=
  works.forM fun w => clause w.1 w.2

/-- An assembly without the clauses that depend on joins, unless it keeps all of them. -/
def dropped (a : InlineAssembly σ) : InlineAssembly σ :=
  if Clause.joinDependent.any fun clause => (a.ledger.kept clause).isNone then
    { a with ledger := a.ledger.discard Clause.joinDependent }
  else a

end InlineAssemble

namespace Inline

variable {σ : Type} (s : Inline σ)

/-- The clauses of a SELECT, in the order in which they are rendered. -/
def works (select : Select Query) : List (Clause × Render σ Marked) :=
  [(.columns, lit <$> s.columnsClause select),
   (.tables, s.tablesClause select.tables),
   (.groups, lit <$> s.groupsClause select.groups),
   (.having, s.conditionsAfter " HAVING " select.having),
   (.orders, lit <$> s.ordersClause select.orders),
   (.filters, s.conditionsAfter " WHERE " select.filters),
   (.joins, s.joinsClause select),
   (.lock, pure (lit (s.lockClause select)))]

def limitText (select : Select Query) : String :=
  if select.limit.isSome || select.offset.isSome then
    s.platform.limited "" select.limit select.offset
  else ""

/-- The text of a SELECT whose clauses are all kept, in the order in which they stand. -/
def selectText (select : Select Query) (ledger : Ledger) : Marked :=
  join "" (Clause.textOrder.filterMap ledger.kept) ++ lit (s.limitText select) ++
    (ledger.kept .lock).getD []

/-- Renders what is not kept of a SELECT, and puts the clauses together. -/
def select (select : Select Query) : InlineAssemble σ Marked := fun a =>
  match InlineAssemble.fill (s.works select) (InlineAssemble.dropped a) with
  | .ok _ b => .ok (s.selectText select b.ledger) b
  | .error e b => .error e b

end Inline

/-- What a compilation with values inline leaves behind. -/
structure InlineOutcome where
  result : Except CompileError Marked
  ledger : Ledger

/-- Compiles a draft of the right kind unless its text is kept. -/
def Draft.attempt (d : Draft) (kind : StatementKind) (work : Draft → InlineOutcome) :
    InlineOutcome :=
  if d.query.statement.kind ≠ kind then
    ⟨.error (Compiler.mismatch kind d.query.statement.kind), d.ledger⟩
  else
    match d.ledger.compiled with
    | some text => ⟨.ok text, d.ledger⟩
    | none =>
      let done := work d
      match done.result with
      | .ok text => { done with ledger := { done.ledger with compiled := some text } }
      | .error _ => done

namespace Compiler

variable {σ : Type} (c : Compiler σ)

/-- Compiles a statement with a resolver of its own. -/
def inlineWithin {α : Type} (ledger : Ledger) (prepare : Hook σ α)
    (assemble : α → InlineAssemble σ Marked) : InlineOutcome :=
  match prepare c.resolver.start with
  | .error e _ => ⟨.error e, ledger⟩
  | .ok statement state =>
    match assemble statement ⟨ledger, ⟨state, [], [], []⟩⟩ with
    | .ok text a => ⟨.ok text, a.ledger⟩
    | .error e a => ⟨.error e, a.ledger⟩

def inlineDerived (d : Draft) (select : Select Query) (a : Aggregate)
    (nested : Draft → InlineOutcome) : InlineOutcome :=
  match (nested (.of (d.query.forRows select))).result with
  | .error e => ⟨.error e, d.ledger⟩
  | .ok rows =>
    let text := lit ("SELECT " ++ c.platform.aggregate a.function "*" ++ " AS aggregate FROM (") ++
      rows ++ lit ") AS derived_query"
    ⟨.ok text, (d.ledger.invalidate []).put .columns text⟩

/-- Compiles a SELECT whose tables are in the given database. -/
def inlineSelectIn : Nat → Option String → Draft → InlineOutcome
  | 0, _, d => ⟨.error (.exceeded .nesting), d.ledger⟩
  | n + 1, database, d =>
    d.attempt .select fun d =>
      match d.query.statement with
      | .select select =>
        match select.derivedAggregate? with
        | some a => c.inlineDerived d select a (inlineSelectIn n database)
        | none =>
          let s : Inline σ :=
            ⟨⟨c, d.query.quoted, database, c.selectIn n⟩,
              fun database q => (inlineSelectIn n database (.of q)).result⟩
          c.inlineWithin d.ledger (c.resolver.select select) s.select
      | statement => ⟨.error (mismatch .select statement.kind), d.ledger⟩

def inlineScope (q : Query) : Inline σ :=
  ⟨c.scope q, fun database q => (c.inlineSelectIn c.limits.nesting database (.of q)).result⟩

def inlineMutation (kind : StatementKind) (d : Draft) : InlineOutcome :=
  d.attempt kind fun d =>
    let s := c.inlineScope d.query
    match d.query.statement with
    | .insert t =>
      c.inlineWithin d.ledger (c.resolver.insert t) fun t => InlineAssemble.render (s.insert t)
    | .update t =>
      c.inlineWithin d.ledger (c.resolver.update t) fun t => InlineAssemble.render (s.update t)
    | .delete t =>
      c.inlineWithin d.ledger (c.resolver.delete t) fun t => InlineAssemble.render (s.delete t)
    | .select _ => ⟨.error (mismatch kind .select), d.ledger⟩

def inlineCompilation (kind : StatementKind) (d : Draft) : InlineOutcome :=
  match kind with
  | .select => c.inlineSelectIn c.limits.nesting none d
  | kind => c.inlineMutation kind d

def inlineCompile (d : Draft) : Except CompileError Marked :=
  (c.inlineCompilation d.query.statement.kind d).result

/-- The draft after a step, whether it succeeds or fails. -/
def inlineStep (d : Draft) : Step → Draft
  | .edit e => d.edit e
  | .compile => ⟨d.query, (c.inlineCompilation d.query.statement.kind d).ledger⟩
  | .compileAs kind => ⟨d.query, (c.inlineCompilation kind d).ledger⟩

def inlineRun (d : Draft) (steps : List Step) : Draft :=
  steps.foldl c.inlineStep d

end Compiler

end ParamSql
