import ParamSql.Compile.Conditions

namespace ParamSql

/-- How far the assembly of a statement has come. -/
structure Assembly (σ : Type) where
  cache : Cache
  progress : Progress σ

/-- A piece of assembly. A failure keeps what is done. -/
abbrev Assemble (σ : Type) : Type → Type :=
  EStateM CompileError (Assembly σ)

namespace Assemble

variable {σ α : Type}

def render (work : Render σ α) : Assemble σ α := fun a =>
  match work a.progress with
  | .ok x progress => .ok x { a with progress := progress }
  | .error e progress => .error e { a with progress := progress }

/-- Renders with no bindings at the start, and puts those bound into the slot of a clause, with the
text if `keep`. A failure leaves the bindings so far there, but no text. -/
def segment (clause : Clause) (keep : Bool) (work : Render σ String) : Assemble σ String := fun a =>
  match work { a.progress with bound := [] } with
  | .ok sql progress =>
    .ok sql
      { cache := a.cache.put clause ⟨if keep then some sql else none, progress.bound⟩
        progress := progress }
  | .error e progress =>
    .error e { cache := a.cache.put clause ⟨none, progress.bound⟩, progress := progress }

def clause (clause : Clause) (work : Render σ String) : Assemble σ Unit := do
  if (← get).cache.isMissing clause then
    discard (segment clause true work)

/-- Drops the clauses that depend on joins, unless the query keeps all of them. -/
def dropJoinDependent : Assemble σ Unit :=
  modify fun a =>
    if Clause.joinDependent.any a.cache.isMissing then
      { a with cache := a.cache.discard Clause.joinDependent }
    else a

end Assemble

/-- The entries whose key has not been seen, neither before nor among those in front of them. An
entry without a key is always new. -/
def unseen {α : Type} (key? : α → Option String) : List String → List α → List α
  | _, [] => []
  | seen, first :: rest =>
    match key? first with
    | none => first :: unseen key? seen rest
    | some key =>
      if seen.contains key then unseen key? seen rest
      else first :: unseen key? (key :: seen) rest

namespace Scope

variable {σ : Type}

def aggregateColumn (s : Scope σ) (distinct : Bool) (a : Aggregate) : Render σ String :=
  if a.isWildcard then pure "*"
  else do
    let field ← s.column a.column
    return (if distinct then "DISTINCT " else "") ++ field.name

def projection (s : Scope σ) (p : Projection) : Render σ String := do
  let sql ←
    match p.column with
    | .name name => do
      let field ← s.column name
      pure field.name
    | .fragment f => s.fragment f
  return sql ++ s.aliased " AS " p.label

/-- All columns, of the root table if there is one. -/
def star (s : Scope σ) : Render σ String := do
  match ← s.root with
  | some table => return s.quote table ++ ".*"
  | none => return "*"

def columnsClause (s : Scope σ) (select : Select Query) : Render σ String := do
  let distinct := select.distinct && s.platform.isKeyword "DISTINCT"
  match select.aggregate with
  | some a =>
    let column ← s.aggregateColumn distinct a
    return "SELECT " ++ s.platform.aggregate a.function column ++ " AS aggregate"
  | none =>
    let columns ←
      if select.columns.isEmpty then s.star
      else ", ".intercalate <$> select.columns.mapM s.projection
    return (if distinct then "SELECT DISTINCT " else "SELECT ") ++ columns

/-- The FROM clause. Of several tables of one key the first is taken. -/
def tablesClause (s : Scope σ) (tables : List (TableRef Query)) : Render σ String :=
  if tables.isEmpty then pure ""
  else do
    let parts ← (unseen TableRef.key? [] tables).mapM s.table
    return " FROM " ++ ", ".intercalate parts

def join (s : Scope σ) (j : Join Query) : Render σ String := do
  let table ← s.table j.table
  let on ← s.conditionsAfter " ON " j.on
  return " " ++ j.kind.sql ++ " " ++ table ++ on

def impliedJoins (s : Scope σ) : Render σ (List (Join Query)) := do
  Render.note (.asked .joins)
  modifyGet fun p =>
    let (joins, state) := s.compiler.resolver.joins p.state
    (joins, { p with state := state })

/-- The JOIN clauses, the implied ones last. A join of a table that is there already is left
out. -/
def joinsClause (s : Scope σ) (select : Select Query) : Render σ String := do
  let implied ← s.impliedJoins
  let seen := select.tables.filterMap TableRef.key?
  let parts ← (unseen (·.table.key?) seen (select.joins ++ implied)).mapM s.join
  return "".intercalate parts

def groupsClause (s : Scope σ) (groups : List String) : Render σ String :=
  if groups.isEmpty then pure ""
  else do
    let fields ← groups.mapM s.column
    return " GROUP BY " ++ ", ".intercalate (fields.map Field.name)

def order (s : Scope σ) (o : Order) : Render σ String := do
  let field ← s.column o.column
  return field.name ++ " " ++ o.direction.sql

def ordersClause (s : Scope σ) (orders : List Order) : Render σ String :=
  if orders.isEmpty then pure ""
  else do
    let parts ← orders.mapM s.order
    return " ORDER BY " ++ ", ".intercalate parts

def lockSql (s : Scope σ) : Option LockMode → String
  | some .write => s.platform.writeLock
  | some .read => s.platform.readLock
  | none => ""

/-- The lock of the selected rows. What is aggregated cannot be locked. -/
def lockClause (s : Scope σ) (select : Select Query) : String :=
  let lock := if select.aggregate.isSome then "" else s.lockSql select.lock
  if lock = "" then "" else " " ++ lock

def selectSql (s : Scope σ) (select : Select Query) (cache : Cache) : String :=
  let body := "".intercalate (Clause.textOrder.filterMap fun c => (cache.slot c).fragment)
  let limited :=
    if select.limit.isSome || select.offset.isSome then
      s.platform.limited body select.limit select.offset
    else body
  limited ++ cache.lock.fragment.getD ""

/-- Compiles what the query does not keep of a SELECT, and puts the clauses together. -/
def select (s : Scope σ) (select : Select Query) : Assemble σ String := do
  Assemble.dropJoinDependent
  Assemble.clause .columns (s.columnsClause select)
  Assemble.clause .tables (s.tablesClause select.tables)
  Assemble.clause .groups (s.groupsClause select.groups)
  Assemble.clause .having (s.conditionsAfter " HAVING " select.having)
  Assemble.clause .orders (s.ordersClause select.orders)
  Assemble.clause .filters (s.conditionsAfter " WHERE " select.filters)
  Assemble.clause .joins (s.joinsClause select)
  Assemble.clause .lock (pure (s.lockClause select))
  return s.selectSql select (← get).cache

end Scope

end ParamSql
