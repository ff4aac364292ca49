import ParamSql.Proofs.Yields

namespace ParamSql

open Render

variable {σ : Type} {R : String → Prop} {I : σ → Prop}

namespace Platform.BuiltIn

variable {p : Platform} (hp : p.BuiltIn)

include hp

theorem quiet_aggregate (function : AggregateFunction) {column : String} (h : Quiet column) :
    Quiet (p.aggregate function column) := by
  obtain ⟨d, rfl⟩ := hp
  have hname : Quiet function.sql := .word (by cases function <;> decide)
  exact ((hname.append (.word (by decide))).append h).append (.word (by decide))

theorem quiet_defaultValues : Quiet p.defaultValues := by
  obtain ⟨d, rfl⟩ := hp
  cases d <;> exact .word (by decide)

theorem quiet_locks : Quiet p.writeLock ∧ Quiet p.readLock := by
  obtain ⟨d, rfl⟩ := hp
  cases d <;> exact ⟨.word (by decide), .word (by decide)⟩

theorem spelling_limited {sql : String} {xs : List Scalar} (h : Spelling sql xs)
    (limit offset : Option UInt64) : Spelling (p.limited sql limit offset) xs := by
  obtain ⟨d, rfl⟩ := hp
  have hlimit (n : UInt64) : Quiet (" LIMIT " ++ toString n.toNat) :=
    .append (.word (by decide)) (.toString _)
  have hoffset (n : UInt64) : Quiet (" OFFSET " ++ toString n.toNat) :=
    .append (.word (by decide)) (.toString _)
  have hunlimited : Quiet d.unlimited := .word (by cases d <;> decide)
  cases limit <;> cases offset
  · exact (h.before .empty).before .empty
  · exact (h.before hunlimited).before (hoffset _)
  · exact (h.before (hlimit _)).before .empty
  · exact (h.before (hlimit _)).before (hoffset _)

end Platform.BuiltIn

theorem Each.columnList {texts : List String} {xs : List Scalar} (h : Each Spelling texts xs) :
    Spelling (Scope.columnList texts) xs :=
  (h.intercalate .comma).between (.word (by decide)) (.word (by decide))

namespace Scope.Safe

variable {s : Scope σ} (hs : s.Safe R I)

include hs

theorem tableName (name : String) : Quiet (s.tableName name) := by
  unfold Scope.tableName
  split
  · split <;> exact hs.quote _
  · exact hs.quote _

theorem aliased {word : String} (hword : Quiet word) (label : Option String) :
    Quiet (s.aliased word label) := by
  cases label with
  | none => exact Quiet.empty
  | some name => exact hword.append (hs.quote name)

theorem resolveTable {t : TableRef Query} (ht : t.Safe R (Query.Safe R)) :
    Yields R I (s.resolveTable t) (Free fun u => u.Safe R (Query.Safe R)) :=
  .consult fun _ _ _ hx hu => hs.resolver.table ht hx hu

theorem source {t : TableSource Query} (ht : t.Safe (Query.Safe R)) :
    Yields R I (s.source t) Spelling := by
  cases ht with
  | name name => exact .pure (hs.tableName name)
  | query hq => exact hs.parenthesized hq

theorem table {t : TableRef Query} (ht : t.Safe R (Query.Safe R)) :
    Yields R I (s.table t) Spelling := by
  apply (hs.resolveTable ht).next
  intro u hu
  exact (hs.source hu.source).last fun _ _ hsql =>
    hsql.before (hs.aliased (.word (by decide)) u.label)

theorem tablesClause {tables : List (TableRef Query)}
    (ht : ∀ t ∈ tables, t.Safe R (Query.Safe R)) :
    Yields R I (s.tablesClause tables) Spelling := by
  unfold Scope.tablesClause
  split
  · exact .pure Quiet.empty
  · apply (Yields.mapM fun t hmem => hs.table (ht t (mem_of_mem_unseen hmem))).last
    intro parts xs hparts
    exact (hparts.intercalate .comma).behind (.word (by decide))

theorem aggregateColumn (distinct : Bool) (a : Aggregate) :
    Yields R I (s.aggregateColumn distinct a) (Free Quiet) := by
  unfold Scope.aggregateColumn
  split
  · exact .free (.word (by decide))
  · apply (hs.column a.column).next
    intro field hfield
    have hdistinct : Quiet (if distinct = true then "DISTINCT " else "") := by
      split <;> exact .word (by decide)
    exact .free (hdistinct.append hfield)

theorem projection {p : Projection} (hp : p.column.Safe R) :
    Yields R I (s.projection p) (Free Quiet) := by
  obtain ⟨column, label⟩ := p
  have haliased : Quiet (s.aliased " AS " label) := hs.aliased (.word (by decide)) label
  cases hp with
  | name name =>
    apply (hs.column name).next
    intro field hfield
    exact .free (hfield.append haliased)
  | fragment hf =>
    apply (hs.fragment hf).next
    intro sql hsql
    exact .free (hsql.append haliased)

theorem star : Yields R I s.star (Free Quiet) := by
  apply hs.root.next
  intro table _
  cases table with
  | none => exact .free (.word (by decide))
  | some name => exact .free ((hs.quote name).append (.word (by decide)))

theorem columnsClause {select : Select Query} (hselect : select.Safe R (Query.Safe R)) :
    Yields R I (s.columnsClause select) Spelling := by
  unfold Scope.columnsClause
  cases select.aggregate with
  | some a =>
    apply (hs.aggregateColumn _ a).next
    intro column hcolumn
    have hverb : Quiet "SELECT " := .word (by decide)
    have hlabel : Quiet " AS aggregate" := .word (by decide)
    exact .pure ((hverb.append (hs.platform.quiet_aggregate _ hcolumn)).append hlabel)
  | none =>
    have hverb : Quiet (if (select.distinct && s.platform.isKeyword "DISTINCT") = true then
        "SELECT DISTINCT " else "SELECT ") := by
      split <;> exact .word (by decide)
    simp only
    split
    · apply hs.star.next
      intro columns hcolumns
      exact .pure (hverb.append hcolumns)
    · rw [map_eq_pure_bind, bind_assoc]
      apply (Yields.mapFree fun p hp => hs.projection (hselect.columns p hp)).next
      intro parts hparts
      rw [pure_bind]
      exact .pure (hverb.append (Quiet.comma.intercalate hparts))

theorem groupsClause (groups : List String) : Yields R I (s.groupsClause groups) Spelling := by
  have hkeyword : Quiet " GROUP BY " := .word (by decide)
  unfold Scope.groupsClause
  split
  · exact .pure Quiet.empty
  · apply (Yields.mapFree fun name _ => hs.column name).next
    intro fields hfields
    exact .pure (hkeyword.append (Quiet.comma.intercalate (List.forall_mem_map.2 hfields)))

theorem ordersClause (orders : List Order) : Yields R I (s.ordersClause orders) Spelling := by
  have hkeyword : Quiet " ORDER BY " := .word (by decide)
  have horder (o : Order) : Yields R I (s.order o) (Free Quiet) := by
    have hdirection : Quiet o.direction.sql := .word (by cases o.direction <;> decide)
    apply (hs.column o.column).next
    intro field hfield
    exact .free ((hfield.append .space).append hdirection)
  unfold Scope.ordersClause
  split
  · exact .pure Quiet.empty
  · apply (Yields.mapFree fun o _ => horder o).next
    intro parts hparts
    exact .pure (hkeyword.append (Quiet.comma.intercalate hparts))

theorem join {j : Join Query} (hj : j.Safe R (Query.Safe R)) :
    Yields R I (s.join j) Spelling := by
  have hkind : Quiet (" " ++ j.kind.sql ++ " ") := .word (by cases j.kind <;> decide)
  apply (hs.table hj.table).bind
  intro table xs htable
  apply (hs.conditionsAfter (.word (by decide)) hj.on).last
  intro on ys hon
  exact (htable.behind hkind).append hon

theorem impliedJoins :
    Yields R I s.impliedJoins (Free fun js => ∀ j ∈ js, j.Safe R (Query.Safe R)) := by
  apply (Yields.note _).next
  rintro _ _ p _ _ hp ⟨⟩
  obtain ⟨hjoins, hstate⟩ := hs.resolver.joins hp.state
  exact ⟨⟨hstate, hp.pending⟩, [], (List.append_nil _).symm, hjoins, rfl⟩

theorem joinsClause {select : Select Query} (hselect : select.Safe R (Query.Safe R)) :
    Yields R I (s.joinsClause select) Spelling := by
  apply hs.impliedJoins.next
  intro implied himplied
  have hall := List.forall_mem_append.2 ⟨hselect.joins, himplied⟩
  apply (Yields.mapM fun j hmem => hs.join (hall j (mem_of_mem_unseen hmem))).last
  intro parts xs hparts
  exact hparts.intercalate (.word (by decide))

theorem lockClause (select : Select Query) : Quiet (s.lockClause select) := by
  have hlock (mode : Option LockMode) : Quiet (s.lockSql mode) := by
    match mode with
    | none => exact Quiet.empty
    | some .write => exact hs.platform.quiet_locks.1
    | some .read => exact hs.platform.quiet_locks.2
  have hmode : Quiet (if select.aggregate.isSome then "" else s.lockSql select.lock) := by
    split
    · exact Quiet.empty
    · exact hlock _
  unfold Scope.lockClause
  revert hmode
  generalize (if select.aggregate.isSome then "" else s.lockSql select.lock) = lock
  intro hmode
  simp only
  split
  · exact Quiet.empty
  · exact Quiet.space.append hmode

theorem target (kind : StatementKind) {t : Option (TableRef Query)}
    (ht : ∀ u ∈ t, u.Safe R (Query.Safe R)) :
    Yields R I (s.target kind t) (Free Quiet) := by
  cases t with
  | none => exact .throw _
  | some t =>
    apply (hs.resolveTable (ht t rfl)).next
    intro u _
    obtain ⟨source, label⟩ := u
    cases source with
    | name name =>
      simp only
      split
      · exact .throw _
      · exact .free (hs.tableName name)
    | query q => exact .throw _

theorem assigned (type : Option TypeName) (converted : Bool) {o : Operand Query}
    (ho : o.Safe R (Query.Safe R)) : Yields R I (s.assigned type converted o) Spelling := by
  cases ho with
  | value v =>
    apply (bind type converted v).last
    rintro _ _ ⟨x, rfl⟩
    exact .one x
  | query hq => exact hs.parenthesized hq
  | fragment hf => exact hs.fragmentText hf
  | transformer _ => exact .throw _

/-- A quoted column, and a text that is spelled with its values. -/
def Pair (pair : String × String) (xs : List Scalar) : Prop :=
  Quiet pair.1 ∧ Spelling pair.2 xs

theorem assignment {a : Assignment Query} (ha : a.operand.Safe R (Query.Safe R)) :
    Yields R I (s.assignment a) Pair := by
  obtain ⟨column, operand, type⟩ := a
  apply (Yields.consult (C := fun _ => True) fun _ _ _ hx hf =>
    ⟨trivial, hs.resolver.field hx hf⟩).next
  intro field _
  have hpair (converted : Bool) {o : Operand Query} (ho : o.Safe R (Query.Safe R)) :
      Yields R I (do let sql ← s.assigned field.type converted o; return (s.quote field.name, sql))
        Pair :=
    (hs.assigned field.type converted ho).last fun _ _ hsql => ⟨hs.quote field.name, hsql⟩
  cases ha with
  | value v => exact hpair false (.value v)
  | query hq => exact hpair false (.query hq)
  | fragment hf => exact hpair false (.fragment hf)
  | transformer h =>
    apply (Yields.ask fun t ht => h _ _ _ t hs.platform ht).next
    intro t ht
    exact hpair true ht

omit hs in
theorem columns_quiet {pairs : List (String × String)} {xs : List Scalar}
    (h : Each Pair pairs xs) : ∀ column ∈ pairs.map (·.1), Quiet column := by
  induction h with
  | nil => exact nofun
  | cons hpair _ ih => exact List.forall_mem_cons.2 ⟨hpair.1, ih⟩

omit hs in
theorem insertVerb (insert : Insert Query) : Quiet (s.insertVerb insert) := by
  unfold Scope.insertVerb
  split
  · split <;> exact .word (by decide)
  · split <;> exact .word (by decide)

omit hs in
theorem columnList {columns : List String} (h : ∀ column ∈ columns, Quiet column) :
    Quiet (Scope.columnList columns) := by
  have hopen : Quiet " (" := .word (by decide)
  exact (hopen.append (Quiet.comma.intercalate h)).append (.word (by decide))

theorem projectedColumns (q : Query) :
    Quiet (((s.projectedColumns? q).map Scope.columnList).getD "") := by
  unfold Scope.projectedColumns?
  cases q.statement with
  | select select =>
    simp only
    split
    · exact Quiet.empty
    · cases select.columns.mapM Projection.outputName? with
      | none => exact Quiet.empty
      | some names => exact columnList (List.forall_mem_map.2 fun name _ => hs.quote _)
  | insert _ => exact Quiet.empty
  | update _ => exact Quiet.empty
  | delete _ => exact Quiet.empty

theorem insertRows {rows : InsertSource Query} (hrows : rows.Safe R (Query.Safe R)) :
    Yields R I (s.insertRows rows) Spelling := by
  cases hrows with
  | @assignments items hitems =>
    simp only [Scope.insertRows]
    split
    · exact .pure (Quiet.space.append hs.platform.quiet_defaultValues)
    · apply (Yields.mapM fun a ha => hs.assignment (hitems a ha)).last
      intro pairs xs hpairs
      have hvalues := (hpairs.map (f := Prod.snd) fun _ _ hpair => hpair.2).columnList
      exact hvalues.behind ((columnList (columns_quiet hpairs)).append (.word (by decide)))
  | @query q hq =>
    apply (hs.query hq).last
    intro sql xs hsql
    exact hsql.behind ((hs.projectedColumns q).append .space)

theorem insert {insert : Insert Query} (hinsert : insert.Safe R (Query.Safe R)) :
    Yields R I (s.insert insert) Spelling := by
  apply (hs.target .insert hinsert.table).next
  intro table htable
  apply (hs.insertRows hinsert.source).last
  intro sql xs hsql
  exact hsql.behind (((insertVerb insert).append (.word (by decide))).append htable)

theorem update {update : Update Query} (hupdate : update.Safe R (Query.Safe R)) :
    Yields R I (s.update update) Spelling := by
  apply (hs.target .update hupdate.table).next
  intro table htable
  simp only
  split
  · exact .throw _
  · apply (Yields.mapM fun a ha => hs.assignment (hupdate.assignments a ha)).bind
    intro pairs xs hpairs
    apply (hs.conditionsAfter (.word (by decide)) hupdate.filters).last
    intro sql ys hsql
    have hsets : Each Spelling (pairs.map fun pair => pair.1 ++ " = " ++ pair.2) xs :=
      hpairs.map fun pair _ hpair => hpair.2.behind (hpair.1.append (.word (by decide)))
    have hverb : Quiet "UPDATE " := .word (by decide)
    have hhead := (hverb.append htable).append (.word (by decide) : Quiet " SET ")
    exact ((hsets.intercalate .comma).behind hhead).append hsql

theorem delete {delete : Delete Query} (hdelete : delete.Safe R (Query.Safe R)) :
    Yields R I (s.delete delete) Spelling := by
  have hverb : Quiet "DELETE FROM " := .word (by decide)
  apply (hs.target .delete hdelete.table).next
  intro table htable
  apply (hs.conditionsAfter (.word (by decide)) hdelete.filters).last
  intro sql xs hsql
  exact hsql.behind (hverb.append htable)

end Scope.Safe

end ParamSql
