import ParamSql.Compile.Run
import ParamSql.Proofs.Marked
import ParamSql.Proofs.Slots

namespace ParamSql

theorem forall_mem_concat {α : Type} {P : α → Prop} {as : List α} {a : α}
    (has : ∀ b ∈ as, P b) (ha : P a) : ∀ b ∈ as ++ [a], P b :=
  List.forall_mem_append.2 ⟨has, List.forall_mem_singleton.2 ha⟩

variable {Q : Type} (N : Q → Prop)

/-- The platform is one of the built-in dialects. -/
def Platform.BuiltIn (p : Platform) : Prop :=
  ∃ d : Dialect, p = d.platform

/-- A fragment whose text has no placeholder if the answers to its questions have none. -/
inductive Fragment.Clean : Fragment → Prop
  | text {sql : String} (h : Plain sql) : Clean (.text sql)
  | fail (e : CompileError) : Clean (.fail e)
  | column {name : String} {next : String → Fragment} (hname : Plain name)
    (h : ∀ sql, Plain sql → Clean (next sql)) : Clean (.column name next)
  | root {next : Option String → Fragment}
    (h : ∀ table : Option String, (∀ name ∈ table, Plain name) → Clean (next table)) :
    Clean (.root next)
  | look {next : Surroundings → Fragment}
    (h : ∀ around : Surroundings, around.platform.BuiltIn →
      (∀ name, Plain name → Plain (around.quote name)) → Clean (next around)) :
    Clean (.look next)

/-- The right-hand side of a comparison; a transformer gives names and operands of the same sort for
a column of a plain name. -/
inductive Operand.Clean : Operand Q → Prop
  | value (v : Value) : Clean (.value v)
  | query {q : Q} (h : N q) : Clean (.query q)
  | fragment {f : Fragment} (h : f.Clean) : Clean (.fragment f)
  | transformer
    {f : String → String → Platform → Except CompileError (Transformed (Operand Q))}
    (hcolumn : ∀ column operator platform t, Plain column → platform.BuiltIn →
      f column operator platform = .ok t → Plain t.column)
    (hoperand : ∀ column operator platform t, Plain column → platform.BuiltIn →
      f column operator platform = .ok t → Clean t.operand) : Clean (.transformer f)

structure Comparison.Clean (c : Comparison Q) : Prop where
  column : Plain c.column
  operand : c.operand.Clean N

/-- A condition, with its members at all depths. -/
inductive Condition.Clean : Condition Q → Prop
  | comparison (g : Glue) {c : Comparison Q} (h : c.Clean N) : Clean (.comparison g c)
  | group (g : Glue) {members : List (Condition Q)} (h : ∀ c ∈ members, Clean c) :
    Clean (.group g members)
  | fragment (g : Glue) {f : Fragment} (h : f.Clean) : Clean (.fragment g f)

inductive TableSource.Clean : TableSource Q → Prop
  | name {s : String} (h : Plain s) : Clean (.name s)
  | query {q : Q} (h : N q) : Clean (.query q)

/-- A table under a plain name. -/
structure TableRef.Clean (t : TableRef Q) : Prop where
  source : t.source.Clean N
  label : ∀ name ∈ t.label, Plain name

structure Join.Clean (j : Join Q) : Prop where
  table : j.table.Clean N
  on : ∀ c ∈ j.on, c.Clean N

inductive Column.Clean : Column → Prop
  | name {s : String} (h : Plain s) : Clean (.name s)
  | fragment {f : Fragment} (h : f.Clean) : Clean (.fragment f)

/-- A column of the result, under a plain name. -/
structure Projection.Clean (p : Projection) : Prop where
  column : p.column.Clean
  label : ∀ name ∈ p.label, Plain name

structure Select.Clean (s : Select Q) : Prop where
  columns : ∀ p ∈ s.columns, p.Clean
  aggregate : ∀ a ∈ s.aggregate, Plain a.column
  tables : ∀ t ∈ s.tables, t.Clean N
  joins : ∀ j ∈ s.joins, j.Clean N
  filters : ∀ c ∈ s.filters, c.Clean N
  groups : ∀ name ∈ s.groups, Plain name
  having : ∀ c ∈ s.having, c.Clean N
  orders : ∀ o ∈ s.orders, Plain o.column

structure Assignment.Clean (a : Assignment Q) : Prop where
  column : Plain a.column
  operand : a.operand.Clean N

inductive InsertSource.Clean : InsertSource Q → Prop
  | assignments {items : List (Assignment Q)} (h : ∀ a ∈ items, a.Clean N) :
    Clean (.assignments items)
  | query {q : Q} (h : N q) : Clean (.query q)

structure Insert.Clean (s : Insert Q) : Prop where
  table : ∀ t ∈ s.table, t.Clean N
  source : s.source.Clean N

structure Update.Clean (s : Update Q) : Prop where
  table : ∀ t ∈ s.table, t.Clean N
  assignments : ∀ a ∈ s.assignments, a.Clean N
  filters : ∀ c ∈ s.filters, c.Clean N

structure Delete.Clean (s : Delete Q) : Prop where
  table : ∀ t ∈ s.table, t.Clean N
  filters : ∀ c ∈ s.filters, c.Clean N

/-- A statement in whose names and fragments no placeholder stands. -/
inductive Statement.Clean : Statement Q → Prop
  | select {s : Select Q} (h : s.Clean N) : Clean (.select s)
  | insert {s : Insert Q} (h : s.Clean N) : Clean (.insert s)
  | update {s : Update Q} (h : s.Clean N) : Clean (.update s)
  | delete {s : Delete Q} (h : s.Clean N) : Clean (.delete s)

/-- As many placeholders as bindings. -/
def Balanced (sql : String) (bindings : List Scalar) : Prop :=
  sql.toList.count '?' = bindings.length

/-- What a query of a kind keeps: texts with as many placeholders as bindings, of a SELECT clause by
clause, of the other statements as a whole. -/
structure Cache.Clean (kind : StatementKind) (cache : Cache) : Prop where
  idle : cache.compiling = false
  slots (clause : Clause) : ∀ sql ∈ (cache.slot clause).fragment,
    Balanced sql (cache.slot clause).bindings
  compiled : ∀ sql ∈ cache.compiled, Balanced sql cache.bindings
  lock : ∀ sql ∈ (cache.slot .lock).fragment, (cache.slot .lock).bindings = []
  whole : (cache.slot .whole).fragment = none
  select : kind = .select → cache.slot .whole = {}
  others : kind ≠ .select → cache.Unfilled

def Connection.Clean (c : Connection) : Prop :=
  ∀ name ∈ c.database, Plain name

/-- A query in whose names and fragments no placeholder stands, and which keeps texts with as many
placeholders as bindings; of the queries nested in it `N` holds. -/
structure Query.CleanBy (N : Query → Prop) (q : Query) : Prop where
  statement : q.statement.Clean N
  connection : ∀ c ∈ q.connection, c.Clean
  cache : q.cache.Clean q.statement.kind

/-- A query that is so, together with the queries nested in it at all depths. -/
def Query.Clean (q : Query) : Prop :=
  ∃ N : Query → Prop, N q ∧ ∀ r, N r → r.CleanBy N

/-- An edit by names, fragments and queries of this sort. -/
inductive Edit.Clean : Edit → Prop
  | table {t : TableRef Query} (h : t.Clean Query.Clean) : Clean (.table t)
  | column {p : Projection} (h : p.Clean) : Clean (.column p)
  | columns {names : List String} (h : ∀ name ∈ names, Plain name) : Clean (.columns names)
  | distinct (flag : Bool) : Clean (.distinct flag)
  | aggregate {a : Option Aggregate} (h : ∀ x ∈ a, Plain x.column) : Clean (.aggregate a)
  | filter {c : Condition Query} (h : c.Clean Query.Clean) : Clean (.filter c)
  | join {j : Join Query} (h : j.Clean Query.Clean) : Clean (.join j)
  | group {name : String} (h : Plain name) : Clean (.group name)
  | having {c : Condition Query} (h : c.Clean Query.Clean) : Clean (.having c)
  | order {o : Order} (h : Plain o.column) : Clean (.order o)
  | limit (n : Option UInt64) : Clean (.limit n)
  | offset (n : Option UInt64) : Clean (.offset n)
  | lock (mode : Option LockMode) : Clean (.lock mode)
  | assign {a : Assignment Query} (h : a.Clean Query.Clean) : Clean (.assign a)
  | rows {q : Query} (h : q.Clean) : Clean (.rows q)
  | ignore (flag : Bool) : Clean (.ignore flag)
  | replace (flag : Bool) : Clean (.replace flag)
  | statement {s : Statement Query} (h : s.Clean Query.Clean) : Clean (.statement s)
  | connection {c : Connection} (h : c.Clean) : Clean (.connection c)
  | quoted (flag : Bool) : Clean (.quoted flag)
  | nothing : Clean .nothing

section Mono

variable {N} {N' : Q → Prop} (h : ∀ q, N q → N' q)

include h

theorem Operand.Clean.mono {o : Operand Q} (ho : o.Clean N) : o.Clean N' := by
  induction ho with
  | value v => exact .value v
  | query hq => exact .query (h _ hq)
  | fragment hf => exact .fragment hf
  | transformer hcolumn _ ih => exact .transformer hcolumn ih

theorem Comparison.Clean.mono {c : Comparison Q} (hc : c.Clean N) : c.Clean N' :=
  ⟨hc.column, hc.operand.mono h⟩

theorem Condition.Clean.mono {c : Condition Q} (hc : c.Clean N) : c.Clean N' := by
  induction hc with
  | comparison g hc => exact .comparison g (hc.mono h)
  | group g _ ih => exact .group g ih
  | fragment g hf => exact .fragment g hf

theorem TableRef.Clean.mono {t : TableRef Q} (ht : t.Clean N) : t.Clean N' := by
  obtain ⟨source, label⟩ := t
  obtain ⟨hsource, hlabel⟩ := ht
  refine ⟨?_, hlabel⟩
  cases hsource with
  | name hs => exact .name hs
  | query hq => exact .query (h _ hq)

theorem Join.Clean.mono {j : Join Q} (hj : j.Clean N) : j.Clean N' :=
  ⟨hj.table.mono h, fun c hc => (hj.on c hc).mono h⟩

theorem Select.Clean.mono {s : Select Q} (hs : s.Clean N) : s.Clean N' where
  columns := hs.columns
  aggregate := hs.aggregate
  tables t ht := (hs.tables t ht).mono h
  joins j hj := (hs.joins j hj).mono h
  filters c hc := (hs.filters c hc).mono h
  groups := hs.groups
  having c hc := (hs.having c hc).mono h
  orders := hs.orders

theorem Assignment.Clean.mono {a : Assignment Q} (ha : a.Clean N) : a.Clean N' :=
  ⟨ha.column, ha.operand.mono h⟩

theorem Statement.Clean.mono {s : Statement Q} (hs : s.Clean N) : s.Clean N' := by
  cases hs with
  | select hs => exact .select (hs.mono h)
  | insert hs =>
    refine .insert ⟨fun t ht => (hs.table t ht).mono h, ?_⟩
    have hsource := hs.source
    revert hsource
    generalize Insert.source _ = source
    intro hsource
    cases hsource with
    | assignments ha => exact .assignments fun a hmem => (ha a hmem).mono h
    | query hq => exact .query (h _ hq)
  | update hs =>
    exact .update ⟨fun t ht => (hs.table t ht).mono h, fun a ha => (hs.assignments a ha).mono h,
      fun c hc => (hs.filters c hc).mono h⟩
  | delete hs =>
    exact .delete ⟨fun t ht => (hs.table t ht).mono h, fun c hc => (hs.filters c hc).mono h⟩

end Mono

theorem Query.Clean.unfold {q : Query} (h : q.Clean) : q.CleanBy Query.Clean := by
  obtain ⟨N, hq, hN⟩ := h
  obtain ⟨hstatement, hconnection, hcache⟩ := hN q hq
  exact ⟨hstatement.mono fun r hr => ⟨N, hr, hN⟩, hconnection, hcache⟩

theorem Query.Clean.fold {q : Query} (h : q.CleanBy Query.Clean) : q.Clean := by
  refine ⟨fun r => r.CleanBy Query.Clean, h, fun r hr => ⟨?_, hr.connection, hr.cache⟩⟩
  exact hr.statement.mono fun _ hclean => hclean.unfold

end ParamSql
