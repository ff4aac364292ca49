import ParamSql.Compile.Comparison
import ParamSql.Proofs.Lockstep

namespace ParamSql

variable {Q : Type} (strict : Prop) (W : Value → Value → Prop) (G : Q → Q → Prop)

/-- Values alike: both are lists or none is, and the nulls stand at the same places. -/
structure Value.Alike (v w : Value) : Prop where
  whole : W v w
  isNull : v.isNull = w.isNull
  isList : v.isList = w.isList
  items : List.Forall₂ (fun a b => W a b ∧ a.isNull = b.isNull) v.items w.items

/-- Operands alike after a transformer. One more transformer is refused, whatever it is; if `strict`
it has to be the same. -/
inductive Operand.Settled : Operand Q → Operand Q → Prop
  | value {v w : Value} (h : Value.Alike W v w) : Settled (.value v) (.value w)
  | query {q r : Q} (h : G q r) : Settled (.query q) (.query r)
  | fragment (f : Fragment) : Settled (.fragment f) (.fragment f)
  | transformer
    {f g : String → String → Platform → Except CompileError (Transformed (Operand Q))}
    (h : strict → f = g) : Settled (.transformer f) (.transformer g)

structure Transformed.Alike (t u : Transformed (Operand Q)) : Prop where
  column : t.column = u.column
  operator : t.operator = u.operator
  operand : Operand.Settled strict W G t.operand u.operand

inductive Operand.Alike : Operand Q → Operand Q → Prop
  | value {v w : Value} (h : Value.Alike W v w) : Alike (.value v) (.value w)
  | query {q r : Q} (h : G q r) : Alike (.query q) (.query r)
  | fragment (f : Fragment) : Alike (.fragment f) (.fragment f)
  | transformer
    {f g : String → String → Platform → Except CompileError (Transformed (Operand Q))}
    (h : ∀ column operator platform, Answers strict (Transformed.Alike strict W G)
      (f column operator platform) (g column operator platform)) :
    Alike (.transformer f) (.transformer g)

structure Comparison.Alike (c d : Comparison Q) : Prop where
  column : c.column = d.column
  operator : c.operator = d.operator
  operand : Operand.Alike strict W G c.operand d.operand
  converted : c.converted = d.converted

/-- Comparisons alike after their transformers. -/
structure Comparison.Settled (c d : Comparison Q) : Prop where
  column : c.column = d.column
  operator : c.operator = d.operator
  operand : Operand.Settled strict W G c.operand d.operand
  converted : c.converted = d.converted

/-- Conditions alike, at all depths. -/
inductive Condition.Alike : Condition Q → Condition Q → Prop
  | comparison (g : Glue) {c d : Comparison Q} (h : Comparison.Alike strict W G c d) :
    Alike (.comparison g c) (.comparison g d)
  | group (g : Glue) {cs ds : List (Condition Q)} (h : List.Forall₂ Alike cs ds) :
    Alike (.group g cs) (.group g ds)
  | fragment (g : Glue) (f : Fragment) : Alike (.fragment g f) (.fragment g f)

inductive TableSource.Alike : TableSource Q → TableSource Q → Prop
  | name (s : String) : Alike (.name s) (.name s)
  | query {q r : Q} (h : G q r) : Alike (.query q) (.query r)

structure TableRef.Alike (t u : TableRef Q) : Prop where
  source : TableSource.Alike G t.source u.source
  label : t.label = u.label

structure Join.Alike (j k : Join Q) : Prop where
  kind : j.kind = k.kind
  table : TableRef.Alike G j.table k.table
  on : List.Forall₂ (Condition.Alike strict W G) j.on k.on

structure Select.Alike (s t : Select Q) : Prop where
  columns : s.columns = t.columns
  aggregate : s.aggregate = t.aggregate
  distinct : s.distinct = t.distinct
  tables : List.Forall₂ (TableRef.Alike G) s.tables t.tables
  joins : List.Forall₂ (Join.Alike strict W G) s.joins t.joins
  filters : List.Forall₂ (Condition.Alike strict W G) s.filters t.filters
  groups : s.groups = t.groups
  having : List.Forall₂ (Condition.Alike strict W G) s.having t.having
  orders : s.orders = t.orders
  limit : s.limit = t.limit
  offset : s.offset = t.offset
  lock : s.lock = t.lock

structure Assignment.Alike (a b : Assignment Q) : Prop where
  column : a.column = b.column
  operand : Operand.Alike strict W G a.operand b.operand
  type : a.type = b.type

inductive InsertSource.Alike : InsertSource Q → InsertSource Q → Prop
  | assignments {as bs : List (Assignment Q)}
    (h : List.Forall₂ (Assignment.Alike strict W G) as bs) :
    Alike (.assignments as) (.assignments bs)
  | query {q r : Q} (h : G q r) : Alike (.query q) (.query r)

structure Insert.Alike (s t : Insert Q) : Prop where
  table : Option.Rel (TableRef.Alike G) s.table t.table
  source : InsertSource.Alike strict W G s.source t.source
  ignore : s.ignore = t.ignore
  replace : s.replace = t.replace

structure Update.Alike (s t : Update Q) : Prop where
  table : Option.Rel (TableRef.Alike G) s.table t.table
  assignments : List.Forall₂ (Assignment.Alike strict W G) s.assignments t.assignments
  filters : List.Forall₂ (Condition.Alike strict W G) s.filters t.filters

structure Delete.Alike (s t : Delete Q) : Prop where
  table : Option.Rel (TableRef.Alike G) s.table t.table
  filters : List.Forall₂ (Condition.Alike strict W G) s.filters t.filters

inductive Statement.Alike : Statement Q → Statement Q → Prop
  | select {s t : Select Q} (h : Select.Alike strict W G s t) : Alike (.select s) (.select t)
  | insert {s t : Insert Q} (h : Insert.Alike strict W G s t) : Alike (.insert s) (.insert t)
  | update {s t : Update Q} (h : Update.Alike strict W G s t) : Alike (.update s) (.update t)
  | delete {s t : Delete Q} (h : Delete.Alike strict W G s t) : Alike (.delete s) (.delete t)

end ParamSql
