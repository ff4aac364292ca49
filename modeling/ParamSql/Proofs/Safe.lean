import ParamSql.Proofs.Clean
import ParamSql.Proofs.Spelled

namespace ParamSql

variable {Q : Type} (R : String → Prop) (N : Q → Prop)

/-- A fragment whose text is quiet if the quoted names are that it is given; the name of the root
table is in `R`. -/
inductive Fragment.Safe : Fragment → Prop
  | text {sql : String} (h : Quiet sql) : Safe (.text sql)
  | fail (e : CompileError) : Safe (.fail e)
  | column {name : String} {next : String → Fragment}
    (h : ∀ sql, Quiet sql → Safe (next sql)) : Safe (.column name next)
  | root {next : Option String → Fragment}
    (h : ∀ table : Option String, (∀ name ∈ table, R name) → Safe (next table)) :
    Safe (.root next)
  | look {next : Surroundings → Fragment}
    (h : ∀ around : Surroundings, around.platform.BuiltIn →
      (∀ name, Quiet (around.quote name)) → Safe (next around)) :
    Safe (.look next)

/-- The right-hand side of a comparison; a transformer gives operands of the same sort. -/
inductive Operand.Safe : Operand Q → Prop
  | value (v : Value) : Safe (.value v)
  | query {q : Q} (h : N q) : Safe (.query q)
  | fragment {f : Fragment} (h : f.Safe R) : Safe (.fragment f)
  | transformer
    {f : String → String → Platform → Except CompileError (Transformed (Operand Q))}
    (h : ∀ column operator platform t, platform.BuiltIn →
      f column operator platform = .ok t → Safe t.operand) : Safe (.transformer f)

/-- A condition, with its members at all depths. -/
inductive Condition.Safe : Condition Q → Prop
  | comparison (g : Glue) {c : Comparison Q} (h : c.operand.Safe R N) : Safe (.comparison g c)
  | group (g : Glue) {members : List (Condition Q)} (h : ∀ c ∈ members, Safe c) :
    Safe (.group g members)
  | fragment (g : Glue) {f : Fragment} (h : f.Safe R) : Safe (.fragment g f)

inductive TableSource.Safe : TableSource Q → Prop
  | name (s : String) : Safe (.name s)
  | query {q : Q} (h : N q) : Safe (.query q)

/-- A table that goes by a name in `R`, if it has one. -/
structure TableRef.Safe (t : TableRef Q) : Prop where
  source : t.source.Safe N
  key : ∀ name ∈ t.key?, R name

structure Join.Safe (j : Join Q) : Prop where
  table : j.table.Safe R N
  on : ∀ c ∈ j.on, c.Safe R N

inductive Column.Safe : Column → Prop
  | name (s : String) : Safe (.name s)
  | fragment {f : Fragment} (h : f.Safe R) : Safe (.fragment f)

structure Select.Safe (s : Select Q) : Prop where
  columns : ∀ p ∈ s.columns, p.column.Safe R
  tables : ∀ t ∈ s.tables, t.Safe R N
  joins : ∀ j ∈ s.joins, j.Safe R N
  filters : ∀ c ∈ s.filters, c.Safe R N
  having : ∀ c ∈ s.having, c.Safe R N

inductive InsertSource.Safe : InsertSource Q → Prop
  | assignments {items : List (Assignment Q)} (h : ∀ a ∈ items, a.operand.Safe R N) :
    Safe (.assignments items)
  | query {q : Q} (h : N q) : Safe (.query q)

structure Insert.Safe (s : Insert Q) : Prop where
  table : ∀ t ∈ s.table, t.Safe R N
  source : s.source.Safe R N

structure Update.Safe (s : Update Q) : Prop where
  table : ∀ t ∈ s.table, t.Safe R N
  assignments : ∀ a ∈ s.assignments, a.operand.Safe R N
  filters : ∀ c ∈ s.filters, c.Safe R N

structure Delete.Safe (s : Delete Q) : Prop where
  table : ∀ t ∈ s.table, t.Safe R N
  filters : ∀ c ∈ s.filters, c.Safe R N

/-- A statement that is safe to interpolate if the queries nested in it are. -/
inductive Statement.Safe : Statement Q → Prop
  | select {s : Select Q} (h : s.Safe R N) : Safe (.select s)
  | insert {s : Insert Q} (h : s.Safe R N) : Safe (.insert s)
  | update {s : Update Q} (h : s.Safe R N) : Safe (.update s)
  | delete {s : Delete Q} (h : s.Safe R N) : Safe (.delete s)

/-- What a query of a kind keeps: texts spelled with their bindings, of a SELECT clause by clause, of
the other statements as a whole. -/
structure Cache.Spelled (kind : StatementKind) (cache : Cache) : Prop where
  slots (clause : Clause) : ∀ sql ∈ (cache.slot clause).fragment,
    Spelling sql (cache.slot clause).bindings
  lock : ∀ sql ∈ (cache.slot .lock).fragment, Quiet sql
  compiled : ∀ sql ∈ cache.compiled, Spelling sql cache.bindings
  select : kind = .select → cache.slot .whole = {}
  others : kind ≠ .select → cache.Unfilled

/-- A query whose statement is safe; while it quotes its names, it keeps spelled texts. Of the
queries nested in it `N` holds. -/
structure Query.SafeBy (N : Query → Prop) (q : Query) : Prop where
  statement : q.statement.Safe R N
  idle : q.cache.compiling = false
  cache : q.quoted = true → q.cache.Spelled q.statement.kind

/-- A query that is so and quotes its names, together with the queries nested in it at all depths. -/
def Query.Safe (q : Query) : Prop :=
  ∃ N : Query → Prop, N q ∧ ∀ r, N r → r.quoted = true ∧ r.SafeBy R N

/-- An edit by fragments and queries of this sort. -/
inductive Edit.Safe : Edit → Prop
  | table {t : TableRef Query} (h : t.Safe R (Query.Safe R)) : Safe (.table t)
  | column {p : Projection} (h : p.column.Safe R) : Safe (.column p)
  | columns (names : List String) : Safe (.columns names)
  | distinct (flag : Bool) : Safe (.distinct flag)
  | aggregate (a : Option Aggregate) : Safe (.aggregate a)
  | filter {c : Condition Query} (h : c.Safe R (Query.Safe R)) : Safe (.filter c)
  | join {j : Join Query} (h : j.Safe R (Query.Safe R)) : Safe (.join j)
  | group (name : String) : Safe (.group name)
  | having {c : Condition Query} (h : c.Safe R (Query.Safe R)) : Safe (.having c)
  | order (o : Order) : Safe (.order o)
  | limit (n : Option UInt64) : Safe (.limit n)
  | offset (n : Option UInt64) : Safe (.offset n)
  | lock (mode : Option LockMode) : Safe (.lock mode)
  | assign {a : Assignment Query} (h : a.operand.Safe R (Query.Safe R)) : Safe (.assign a)
  | rows {q : Query} (h : q.Safe R) : Safe (.rows q)
  | ignore (flag : Bool) : Safe (.ignore flag)
  | replace (flag : Bool) : Safe (.replace flag)
  | statement {s : Statement Query} (h : s.Safe R (Query.Safe R)) : Safe (.statement s)
  | connection (c : Connection) : Safe (.connection c)
  | quoted (flag : Bool) : Safe (.quoted flag)
  | nothing : Safe .nothing

variable {R N}

section Mono

variable {N' : Q → Prop} (h : ∀ q, N q → N' q)

include h

theorem Operand.Safe.mono {o : Operand Q} (ho : o.Safe R N) : o.Safe R N' := by
  induction ho with
  | value v => exact .value v
  | query hq => exact .query (h _ hq)
  | fragment hf => exact .fragment hf
  | transformer _ ih => exact .transformer ih

theorem Condition.Safe.mono {c : Condition Q} (hc : c.Safe R N) : c.Safe R N' := by
  induction hc with
  | comparison g hc => exact .comparison g (hc.mono h)
  | group g _ ih => exact .group g ih
  | fragment g hf => exact .fragment g hf

theorem TableRef.Safe.mono {t : TableRef Q} (ht : t.Safe R N) : t.Safe R N' := by
  obtain ⟨source, label⟩ := t
  obtain ⟨hsource, hkey⟩ := ht
  refine ⟨?_, hkey⟩
  cases hsource with
  | name s => exact .name s
  | query hq => exact .query (h _ hq)

theorem Join.Safe.mono {j : Join Q} (hj : j.Safe R N) : j.Safe R N' :=
  ⟨hj.table.mono h, fun c hc => (hj.on c hc).mono h⟩

theorem InsertSource.Safe.mono {source : InsertSource Q} (hs : source.Safe R N) :
    source.Safe R N' := by
  cases hs with
  | assignments ha => exact .assignments fun a hmem => (ha a hmem).mono h
  | query hq => exact .query (h _ hq)

theorem Statement.Safe.mono {s : Statement Q} (hs : s.Safe R N) : s.Safe R N' := by
  cases hs with
  | select hs =>
    exact .select ⟨hs.columns, fun t ht => (hs.tables t ht).mono h,
      fun j hj => (hs.joins j hj).mono h, fun c hc => (hs.filters c hc).mono h,
      fun c hc => (hs.having c hc).mono h⟩
  | insert hs => exact .insert ⟨fun t ht => (hs.table t ht).mono h, hs.source.mono h⟩
  | update hs =>
    exact .update ⟨fun t ht => (hs.table t ht).mono h, fun a ha => (hs.assignments a ha).mono h,
      fun c hc => (hs.filters c hc).mono h⟩
  | delete hs =>
    exact .delete ⟨fun t ht => (hs.table t ht).mono h, fun c hc => (hs.filters c hc).mono h⟩

end Mono

namespace Query.Safe

variable {q : Query}

theorem unfold (h : q.Safe R) : q.quoted = true ∧ q.SafeBy R (Query.Safe R) := by
  obtain ⟨N, hq, hN⟩ := h
  obtain ⟨hquoted, hstatement, hidle, hcache⟩ := hN q hq
  exact ⟨hquoted, hstatement.mono fun r hr => ⟨N, hr, hN⟩, hidle, hcache⟩

end Query.Safe

namespace Cache.Spelled

variable {cache : Cache} {kind : StatementKind}

theorem empty : Cache.Spelled kind {} where
  slots clause := by cases clause <;> exact nofun
  lock := nofun
  compiled := nofun
  select _ := rfl
  others _ := unfilled_empty

theorem invalidate (h : cache.Spelled kind) (hidle : cache.compiling = false)
    (clauses : List Clause) : (cache.invalidate clauses).Spelled kind where
  slots clause := by
    rcases slot_invalidate_or hidle clauses clause with hslot | ⟨_, hslot⟩ <;> rw [hslot]
    · exact nofun
    · exact h.slots clause
  lock := by
    rcases slot_invalidate_or hidle clauses .lock with hslot | ⟨_, hslot⟩ <;> rw [hslot]
    · exact nofun
    · exact h.lock
  compiled := by
    rw [compiled_invalidate hidle]
    exact nofun
  select heq := by
    rcases slot_invalidate_or hidle clauses .whole with hslot | ⟨_, hslot⟩ <;> rw [hslot]
    exact h.select heq
  others hne clause hclause := by
    rcases slot_invalidate_or hidle clauses clause with hslot | ⟨_, hslot⟩ <;> rw [hslot]
    exact h.others hne clause hclause

theorem blank (hidle : cache.compiling = false) : (cache.invalidate []).Spelled kind where
  slots clause := by
    rw [slot_invalidate_nil hidle]
    exact nofun
  lock := by
    rw [slot_invalidate_nil hidle]
    exact nofun
  compiled := by
    rw [compiled_invalidate hidle]
    exact nofun
  select _ := slot_invalidate_nil hidle .whole
  others _ clause _ := slot_invalidate_nil hidle clause

theorem with_compiled (h : cache.Spelled kind) {sql : String} (hsql : Spelling sql cache.bindings) :
    Cache.Spelled kind { cache with compiled := some sql } where
  slots clause := by
    rw [slot_with_compiled]
    exact h.slots clause
  lock := h.lock
  compiled := by
    rintro _ ⟨⟩
    rw [bindings_with_compiled]
    exact hsql
  select := h.select
  others hne clause hclause := by
    rw [slot_with_compiled]
    exact h.others hne clause hclause

theorem with_compiling (h : cache.Spelled kind) (compiling : Bool) :
    Cache.Spelled kind { cache with compiling := compiling } where
  slots clause := by
    rw [slot_with_compiling]
    exact h.slots clause
  lock := h.lock
  compiled := by
    rw [bindings_with_compiling]
    exact h.compiled
  select := h.select
  others hne := (h.others hne).with_compiling compiling

theorem put_whole (h : cache.Spelled kind) (hkind : kind ≠ .select)
    (hcompiled : cache.compiled = none) (bindings : List Scalar) :
    (cache.put .whole ⟨none, bindings⟩).Spelled kind where
  slots clause := by
    rw [slot_put_whole]
    split
    · exact nofun
    · exact h.slots clause
  lock := h.lock
  compiled := by
    rw [compiled_put, hcompiled]
    exact nofun
  select heq := absurd heq hkind
  others hne := (h.others hne).put _

end Cache.Spelled

namespace Edit.Safe

variable {e : Edit} (he : e.Safe R)

include he

theorem onSelect {s : Select Query} (hs : s.Safe R (Query.Safe R)) :
    (e.onSelect s).Safe R (Query.Safe R) := by
  cases he with
  | table h => exact { hs with tables := forall_mem_concat hs.tables h }
  | column h => exact { hs with columns := forall_mem_concat hs.columns h }
  | columns names =>
    refine { hs with columns := List.forall_mem_append.2 ⟨hs.columns, ?_⟩ }
    exact List.forall_mem_map.2 fun name _ => .name name
  | distinct flag => exact { hs with }
  | aggregate a => exact { hs with }
  | filter h => exact { hs with filters := forall_mem_concat hs.filters h }
  | join h => exact { hs with joins := forall_mem_concat hs.joins h }
  | group name => exact { hs with }
  | having h => exact { hs with having := forall_mem_concat hs.having h }
  | order o => exact { hs with }
  | limit n => exact { hs with }
  | offset n => exact { hs with }
  | lock mode => exact { hs with }
  | _ => exact hs

theorem onInsert {s : Insert Query} (hs : s.Safe R (Query.Safe R)) :
    (e.onInsert s).Safe R (Query.Safe R) := by
  cases he with
  | table h => exact ⟨fun _ ht => Option.some.inj ht ▸ h, hs.source⟩
  | assign h =>
    refine ⟨hs.table, ?_⟩
    change InsertSource.Safe R (Query.Safe R) (assigned s.source _)
    have hsource := hs.source
    revert hsource
    generalize s.source = source
    intro hsource
    cases hsource with
    | assignments hitems => exact .assignments (forall_mem_concat hitems h)
    | query _ => exact .assignments (List.forall_mem_singleton.2 h)
  | rows h => exact ⟨hs.table, .query h⟩
  | ignore flag => exact ⟨hs.table, hs.source⟩
  | replace flag => exact ⟨hs.table, hs.source⟩
  | _ => exact hs

theorem onUpdate {s : Update Query} (hs : s.Safe R (Query.Safe R)) :
    (e.onUpdate s).Safe R (Query.Safe R) := by
  cases he with
  | table h => exact { hs with table := fun _ ht => Option.some.inj ht ▸ h }
  | assign h => exact { hs with assignments := forall_mem_concat hs.assignments h }
  | filter h => exact { hs with filters := forall_mem_concat hs.filters h }
  | _ => exact hs

theorem onDelete {s : Delete Query} (hs : s.Safe R (Query.Safe R)) :
    (e.onDelete s).Safe R (Query.Safe R) := by
  cases he with
  | table h => exact { hs with table := fun _ ht => Option.some.inj ht ▸ h }
  | filter h => exact { hs with filters := forall_mem_concat hs.filters h }
  | _ => exact hs

theorem change {q : Query} (hq : q.statement.Safe R (Query.Safe R)) :
    (e.change q).statement.Safe R (Query.Safe R) := by
  have hedited : (e.onStatement q.statement).Safe R (Query.Safe R) := by
    revert hq
    generalize q.statement = statement
    intro hq
    cases hq with
    | select hs => exact .select (he.onSelect hs)
    | insert hs => exact .insert (he.onInsert hs)
    | update hs => exact .update (he.onUpdate hs)
    | delete hs => exact .delete (he.onDelete hs)
  cases he with
  | statement h => exact h
  | connection c => exact hq
  | quoted flag => exact hq
  | _ => exact hedited

theorem edit {q : Query} (hq : q.SafeBy R (Query.Safe R)) :
    (q.edit e).SafeBy R (Query.Safe R) := by
  unfold Query.edit
  split
  · exact hq
  · refine ⟨he.change hq.statement, (Cache.compiling_invalidate _ _).trans hq.idle, ?_⟩
    intro hquoted
    rcases e.change_cases q with htouches | ⟨hne, hchange⟩
    · rw [htouches]
      exact .blank hq.idle
    · -- Only edits of the statement leave slots, and these keep its kind.
      rw [hchange] at hquoted ⊢
      simp only [Edit.kind_onStatement]
      exact (hq.cache hquoted).invalidate hq.idle _

end Edit.Safe

theorem Fragment.Safe.raw {sql : String} (h : Ordinary sql) : (Fragment.text sql).Safe R :=
  .text (.word h)

theorem Fragment.Safe.ofColumn (name : String) {function : Option String}
    (h : ∀ f ∈ function, Quiet f) : (Fragment.ofColumn name function).Safe R := by
  apply Safe.column
  intro sql hsql
  cases function with
  | none => exact .text hsql
  | some f =>
    exact .text ((((h f rfl).append (.word (by decide))).append hsql).append (.word (by decide)))

theorem Query.empty_safe (kind : StatementKind) :
    (Query.empty kind).SafeBy R (Query.Safe R) where
  statement := by
    cases kind with
    | select => exact .select ⟨nofun, nofun, nofun, nofun, nofun⟩
    | insert => exact .insert ⟨nofun, .assignments nofun⟩
    | update => exact .update ⟨nofun, nofun, nofun⟩
    | delete => exact .delete ⟨nofun, nofun⟩
  idle := rfl
  cache _ := .empty

end ParamSql
