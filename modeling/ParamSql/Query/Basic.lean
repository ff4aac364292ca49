import ParamSql.Statement.Basic
import ParamSql.Value

namespace ParamSql

/-- The parts of a statement that are kept. -/
inductive Clause
  | columns
  | tables
  | joins
  | filters
  | groups
  | having
  | orders
  | lock
  /-- The statement as a whole: the bindings of all but a SELECT, and its limits. -/
  | whole
  deriving DecidableEq, Repr

namespace Clause

def all : List Clause :=
  [columns, tables, joins, filters, groups, having, orders, lock, whole]

/-- The clauses of a SELECT that hold bindings, in the order of the text. -/
def textOrder : List Clause :=
  [columns, tables, joins, filters, groups, having, orders]

/-- The clauses whose fields may bring in joins, and the joins themselves. They are compiled
together or not at all. -/
def joinDependent : List Clause :=
  [columns, joins, filters, groups, having, orders]

end Clause

structure Slot where
  fragment : Option String := none
  bindings : List Scalar := []
  deriving DecidableEq, Repr

/-- What a query keeps of its compilations. -/
structure Cache where
  columns : Slot := {}
  tables : Slot := {}
  joins : Slot := {}
  filters : Slot := {}
  groups : Slot := {}
  having : Slot := {}
  orders : Slot := {}
  lock : Slot := {}
  whole : Slot := {}
  /-- The whole text. -/
  compiled : Option String := none
  /-- Whether a compilation is under way. -/
  compiling : Bool := false
  deriving DecidableEq, Repr

namespace Cache

def slot (cache : Cache) : Clause → Slot
  | .columns => cache.columns
  | .tables => cache.tables
  | .joins => cache.joins
  | .filters => cache.filters
  | .groups => cache.groups
  | .having => cache.having
  | .orders => cache.orders
  | .lock => cache.lock
  | .whole => cache.whole

def put (cache : Cache) (clause : Clause) (slot : Slot) : Cache :=
  match clause with
  | .columns => { cache with columns := slot }
  | .tables => { cache with tables := slot }
  | .joins => { cache with joins := slot }
  | .filters => { cache with filters := slot }
  | .groups => { cache with groups := slot }
  | .having => { cache with having := slot }
  | .orders => { cache with orders := slot }
  | .lock => { cache with lock := slot }
  | .whole => { cache with whole := slot }

@[simp] theorem slot_put_self (cache : Cache) (clause : Clause) (slot : Slot) :
    (cache.put clause slot).slot clause = slot := by
  cases clause <;> rfl

theorem slot_put_ne (cache : Cache) {clause other : Clause} (slot : Slot) (h : other ≠ clause) :
    (cache.put clause slot).slot other = cache.slot other := by
  cases clause <;> cases other <;> first | rfl | exact absurd rfl h

def isMissing (cache : Cache) (clause : Clause) : Bool :=
  (cache.slot clause).fragment.isNone

def discard (cache : Cache) (clauses : List Clause) : Cache :=
  clauses.foldl (fun cache clause => cache.put clause {}) cache

/-- The cache after a change to the given clauses, or to all of the query if none is given. A
compilation under way is not disturbed. -/
def invalidate (cache : Cache) (clauses : List Clause) : Cache :=
  if cache.compiling then cache
  else
    { cache.discard (if clauses.isEmpty then Clause.all else clauses) with compiled := none }

/-- The cache with nothing left in it, even in the middle of a compilation. -/
def release (_ : Cache) : Cache :=
  {}

def bindings (cache : Cache) : List Scalar :=
  if cache.whole.bindings.isEmpty then
    Clause.textOrder.flatMap fun clause => (cache.slot clause).bindings
  else cache.whole.bindings

def kept (cache : Cache) : List Clause :=
  Clause.all.filter fun clause => !cache.isMissing clause

end Cache

/-- A database connection, by its names. -/
structure Connection where
  name : String
  /-- The name of the platform. -/
  platform : String
  database : Option String
  deriving DecidableEq, Repr

structure Query where
  statement : Statement Query
  connection : Option Connection
  quoted : Bool
  cache : Cache

namespace Query

/-- The query of a statement, not bound to a connection and never compiled. -/
def ofStatement (statement : Statement Query) : Query :=
  ⟨statement, none, false, {}⟩

def empty (kind : StatementKind) : Query :=
  ofStatement (.empty kind)

def fresh (q : Query) : Query :=
  { q with cache := {} }

/-- The bindings of the last compilation, in the order of the placeholders. -/
def bindings (q : Query) : List Scalar :=
  q.cache.bindings

end Query

end ParamSql
