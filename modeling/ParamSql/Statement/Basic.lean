import ParamSql.Statement.Condition

namespace ParamSql

/-- What a table reference stands for. -/
inductive TableSource (Q : Type)
  | name (s : String)
  | query (q : Q)

/-- A table or a query in its place, maybe under another name. -/
structure TableRef (Q : Type) where
  source : TableSource Q
  label : Option String

namespace TableRef

variable {Q : Type}

def table (name : String) : TableRef Q :=
  ⟨.name name, none⟩

/-- The name of the table, if it is one. -/
def name? (t : TableRef Q) : Option String :=
  match t.source with
  | .name s => some s
  | .query _ => none

/-- The name that tells one table of a statement from the others. -/
def key? (t : TableRef Q) : Option String :=
  t.label.or t.name?

end TableRef

inductive Column
  | name (s : String)
  | fragment (f : Fragment)

/-- A column of the result, maybe under another name. -/
structure Projection where
  column : Column
  label : Option String

namespace Projection

def named (s : String) : Projection :=
  ⟨.name s, none⟩

/-- The name that the column has in the result, if it can be told. -/
def outputName? (p : Projection) : Option String :=
  match p.label, p.column with
  | some label, _ => some label
  | none, .name s => some s
  | none, .fragment _ => none

end Projection

structure Aggregate where
  function : AggregateFunction
  column : String
  deriving DecidableEq, Repr

def Aggregate.isWildcard (a : Aggregate) : Bool :=
  a.column = "*"

inductive JoinKind
  | inner
  | left
  | right
  deriving DecidableEq, Repr

def JoinKind.sql : JoinKind → String
  | inner => "INNER JOIN"
  | left => "LEFT JOIN"
  | right => "RIGHT JOIN"

/-- A joined table and the conditions of the join. -/
structure Join (Q : Type) where
  kind : JoinKind
  table : TableRef Q
  on : List (Condition Q)

inductive Direction
  | ascending
  | descending
  deriving DecidableEq, Repr

def Direction.sql : Direction → String
  | ascending => "ASC"
  | descending => "DESC"

structure Order where
  column : String
  direction : Direction
  deriving DecidableEq, Repr

/-- What the selected rows are locked for. -/
inductive LockMode
  | write
  | read
  deriving DecidableEq, Repr

structure Select (Q : Type) where
  columns : List Projection := []
  aggregate : Option Aggregate := none
  distinct : Bool := false
  tables : List (TableRef Q) := []
  joins : List (Join Q) := []
  filters : List (Condition Q) := []
  groups : List String := []
  having : List (Condition Q) := []
  orders : List Order := []
  limit : Option UInt64 := none
  offset : Option UInt64 := none
  lock : Option LockMode := none

/-- The aggregate of a SELECT that counts distinct whole rows, which no single query can. -/
def Select.derivedAggregate? {Q : Type} (s : Select Q) : Option Aggregate :=
  if s.distinct then s.aggregate.filter Aggregate.isWildcard else none

/-- A column and what it is set to. -/
structure Assignment (Q : Type) where
  column : String
  operand : Operand Q
  /-- The declared type, which counts more than the resolver's. -/
  type : Option TypeName

inductive InsertSource (Q : Type)
  | assignments (items : List (Assignment Q))
  | query (q : Q)

structure Insert (Q : Type) where
  table : Option (TableRef Q) := none
  source : InsertSource Q := .assignments []
  ignore : Bool := false
  replace : Bool := false

structure Update (Q : Type) where
  table : Option (TableRef Q) := none
  assignments : List (Assignment Q) := []
  filters : List (Condition Q) := []

structure Delete (Q : Type) where
  table : Option (TableRef Q) := none
  filters : List (Condition Q) := []

/-- A statement of one of the four kinds. -/
inductive Statement (Q : Type)
  | select (s : Select Q)
  | insert (s : Insert Q)
  | update (s : Update Q)
  | delete (s : Delete Q)

namespace Statement

variable {Q : Type}

def kind : Statement Q → StatementKind
  | select _ => .select
  | insert _ => .insert
  | update _ => .update
  | delete _ => .delete

def empty : StatementKind → Statement Q
  | .select => select {}
  | .insert => insert {}
  | .update => update {}
  | .delete => delete {}

end Statement

end ParamSql
