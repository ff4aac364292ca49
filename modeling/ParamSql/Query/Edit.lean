import ParamSql.Query.Basic

namespace ParamSql

inductive Edit
  /-- Adds a table to a SELECT; sets the table of the other statements. -/
  | table (t : TableRef Query)
  | column (p : Projection)
  | columns (names : List String)
  | distinct (flag : Bool)
  | aggregate (a : Option Aggregate)
  | filter (c : Condition Query)
  | join (j : Join Query)
  | group (name : String)
  | having (c : Condition Query)
  | order (o : Order)
  | limit (n : Option UInt64)
  | offset (n : Option UInt64)
  | lock (mode : Option LockMode)
  | assign (a : Assignment Query)
  /-- Inserts the rows of a query. -/
  | rows (q : Query)
  | ignore (flag : Bool)
  | replace (flag : Bool)
  | statement (s : Statement Query)
  | connection (c : Connection)
  | quoted (flag : Bool)
  /-- Changes nothing, but drops what is kept. -/
  | nothing

namespace Edit

/-- The clauses that an edit touches; none stands for all of the query. -/
def touches : Edit → List Clause
  | table _ => [.columns, .tables, .joins, .whole]
  | column _ | columns _ | distinct _ => [.columns]
  | aggregate _ => [.columns, .lock]
  | filter _ => [.filters, .whole]
  | join _ => [.joins]
  | group _ => [.groups]
  | having _ => [.having]
  | order _ => [.orders]
  | limit _ | offset _ => [.whole]
  | lock _ => [.lock]
  | assign _ | rows _ | ignore _ | replace _ => [.whole]
  | statement _ | connection _ | quoted _ | nothing => []

def onSelect (s : Select Query) : Edit → Select Query
  | table t => { s with tables := s.tables ++ [t] }
  | column p => { s with columns := s.columns ++ [p] }
  | columns names => { s with columns := s.columns ++ names.map Projection.named }
  | distinct flag => { s with distinct := flag }
  | aggregate a => { s with aggregate := a }
  | filter c => { s with filters := s.filters ++ [c] }
  | join j => { s with joins := s.joins ++ [j] }
  | group name => { s with groups := s.groups ++ [name] }
  | having c => { s with having := s.having ++ [c] }
  | order o => { s with orders := s.orders ++ [o] }
  | limit n => { s with limit := n }
  | offset n => { s with offset := n }
  | lock mode => { s with lock := mode }
  | _ => s

/-- The rows of an INSERT with one more assignment. It takes the place of a query. -/
def assigned (source : InsertSource Query) (a : Assignment Query) : InsertSource Query :=
  match source with
  | .assignments items => .assignments (items ++ [a])
  | .query _ => .assignments [a]

def onInsert (s : Insert Query) : Edit → Insert Query
  | table t => { s with table := some t }
  | assign a => { s with source := assigned s.source a }
  | rows q => { s with source := .query q }
  | ignore flag => { s with ignore := flag }
  | replace flag => { s with replace := flag }
  | _ => s

def onUpdate (s : Update Query) : Edit → Update Query
  | table t => { s with table := some t }
  | assign a => { s with assignments := s.assignments ++ [a] }
  | filter c => { s with filters := s.filters ++ [c] }
  | _ => s

def onDelete (s : Delete Query) : Edit → Delete Query
  | table t => { s with table := some t }
  | filter c => { s with filters := s.filters ++ [c] }
  | _ => s

def onStatement (e : Edit) : Statement Query → Statement Query
  | .select s => .select (e.onSelect s)
  | .insert s => .insert (e.onInsert s)
  | .update s => .update (e.onUpdate s)
  | .delete s => .delete (e.onDelete s)

/-- A query with an edit, but for what it keeps. -/
def change (e : Edit) (q : Query) : Query :=
  match e with
  | statement s => { q with statement := s }
  | connection c => { q with connection := some c }
  | quoted flag => { q with quoted := flag }
  | e => { q with statement := e.onStatement q.statement }

/-- Whether an edit leaves a query as it is, so that nothing has to be dropped. -/
def isIdle (e : Edit) (q : Query) : Bool :=
  match e with
  | quoted flag => flag == q.quoted
  | _ => false

end Edit

namespace Query

def edit (q : Query) (e : Edit) : Query :=
  if e.isIdle q then q
  else { e.change q with cache := q.cache.invalidate e.touches }

end Query

end ParamSql
