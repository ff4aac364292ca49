import ParamSql.Proofs.Writes

namespace ParamSql

open Marked

variable {σ : Type}

theorem Scope.plain_columnList {columns : List String} (h : ∀ name ∈ columns, Plain name) :
    Plain (columnList columns) :=
  ((by decide : Plain " (").append (Plain.intercalate (by decide) h)).append (by decide)

theorem Scope.values_columnList (columns values : List String) :
    columnList columns ++ " VALUES" ++ columnList values =
      columnList columns ++ " VALUES (" ++ ", ".intercalate values ++ ")" := by
  rw [show " VALUES (" = " VALUES" ++ " (" from rfl]
  simp only [columnList, String.append_assoc]

theorem plain_outputNames {ps : List Projection} (hps : ∀ p ∈ ps, p.Clean) {names : List String}
    (h : ps.mapM Projection.outputName? = some names) : ∀ name ∈ names, Plain name := by
  induction ps generalizing names with
  | nil =>
    obtain rfl : [] = names := Option.some.inj h
    exact fun _ hmem => absurd hmem List.not_mem_nil
  | cons p ps ih =>
    rw [List.forall_mem_cons] at hps
    rw [List.mapM_cons] at h
    obtain ⟨name, hname, h⟩ := Option.bind_eq_some_iff.1 h
    obtain ⟨rest, hrest, h⟩ := Option.bind_eq_some_iff.1 h
    obtain rfl : name :: rest = names := Option.some.inj h
    refine List.forall_mem_cons.2 ⟨?_, ih hps.2 hrest⟩
    obtain ⟨column, label⟩ := p
    obtain ⟨hcolumn, hlabel⟩ := hps.1
    cases label with
    | some label =>
      obtain rfl : label = name := Option.some.inj hname
      exact hlabel label rfl
    | none =>
      cases hcolumn with
      | name hs =>
        obtain rfl := Option.some.inj hname
        exact hs
      | fragment _ => exact nomatch hname

namespace Scope.Clean

variable {s : Scope σ} {I : σ → Prop} (hs : s.Clean I)

include hs

theorem defaultValues : Plain s.platform.defaultValues := by
  obtain ⟨d, hd⟩ := hs.platform
  unfold Scope.platform
  rw [hd]
  cases d <;> decide

omit hs in
theorem insertVerb (insert : Insert Query) : Plain (s.insertVerb insert) := by
  unfold Scope.insertVerb
  split
  · split <;> decide
  · split <;> decide

theorem projectedColumns? {q : Query} (hq : q.Clean) {names : List String}
    (h : s.projectedColumns? q = some names) : ∀ name ∈ names, Plain name := by
  have hstatement := hq.unfold.statement
  unfold Scope.projectedColumns? at h
  revert h hstatement
  generalize q.statement = statement
  intro h hstatement
  cases hstatement with
  | select hselect =>
    simp only at h
    split at h
    · exact nomatch h
    · obtain ⟨outputs, houtputs, rfl⟩ := Option.map_eq_some_iff.1 h
      refine List.forall_mem_map.2 fun name hname => hs.quote (Text.plain_lastSegment ?_)
      exact plain_outputNames hselect.columns houtputs name hname
  | insert _ => exact nomatch h
  | update _ => exact nomatch h
  | delete _ => exact nomatch h

end Scope.Clean

namespace Inline.Faithful

variable {s : Inline σ} {I : σ → Prop} {base : List Scalar} (h : s.Faithful I)

include h

theorem source {t : TableSource Query} (ht : t.Clean Query.Clean) :
    Lockstep True (Progress.Twin I base) (s.toScope.source t) (s.source t) (Writes I base) := by
  cases ht with
  | name hname => exact .writes (.lit (h.scope.tableName hname)) (by simp)
  | query hq =>
    exact (h.query base hq).nextBound fun sql text htext =>
      .writes (htext.between (by decide) (by decide)) (by simp)

theorem table {t : TableRef Query} (ht : t.Clean Query.Clean) :
    Lockstep True (Progress.Twin I base) (s.toScope.table t) (s.table t) (Writes I base) := by
  apply (h.scope.resolveTable ht).nextTwin
  intro u hu
  apply (h.source hu.source).nextBound
  intro sql text htext
  exact .writes (htext.append (.lit (h.scope.aliased (by decide) hu.label))) (by simp)

theorem tablesClause {tables : List (TableRef Query)} (ht : ∀ t ∈ tables, t.Clean Query.Clean) :
    Lockstep True (Progress.Twin I base) (s.toScope.tablesClause tables) (s.tablesClause tables)
      (Writes I base) := by
  unfold Scope.tablesClause Inline.tablesClause
  split
  · exact .writes ⟨rfl, List.not_mem_nil⟩ (by simp)
  · refine (Lockstep.mapTexts (fun t hmem _ => h.table (ht t (mem_of_mem_unseen hmem)))
      base).nextBound fun parts texts hparts => ?_
    exact .writes ((Shows.lit (by decide)).append (.join (by decide) hparts)) (by simp)

theorem join {j : Join Query} (hj : j.Clean Query.Clean) :
    Lockstep True (Progress.Twin I base) (s.toScope.join j) (s.joinText j) (Writes I base) := by
  have hkind : Plain (" " ++ j.kind.sql ++ " ") := by cases j.kind <;> decide
  apply (h.table hj.table).nextBound
  intro table text htable
  apply (h.conditionsAfter (by decide) hj.on).nextBound
  intro on onText hon
  exact .writes (((Shows.lit hkind).append htable).append hon) (by simp)

theorem joinsClause {select : Select Query} (hselect : select.Clean Query.Clean) :
    Lockstep True (Progress.Twin I base) (s.toScope.joinsClause select) (s.joinsClause select)
      (Writes I base) := by
  apply h.scope.impliedJoins.nextTwin
  intro implied himplied
  have hall := List.forall_mem_append.2 ⟨hselect.joins, himplied⟩
  refine (Lockstep.mapTexts (fun j hmem _ => h.join (hall j (mem_of_mem_unseen hmem)))
    base).nextBound fun parts texts hparts => ?_
  exact .writes (.join (by decide) hparts) (by simp)

theorem assigned (type : Option TypeName) (converted : Bool) {o : Operand Query}
    (ho : o.Clean Query.Clean) :
    Lockstep True (Progress.Twin I base) (s.toScope.assigned type converted o)
      (s.assigned type converted o) (Writes I base) := by
  cases ho with
  | value v => exact (Scope.Clean.bind _ _ _).bind fun _ x => .writes (.one x) (by simp)
  | query hq =>
    exact (h.query base hq).nextBound fun sql text htext =>
      .writes (htext.between (by decide) (by decide)) (by simp)
  | fragment hf => exact .litWrites (h.scope.fragment hf)
  | transformer _ _ => exact .throw fun _ => rfl

/-- An assignment, and the same with its value inline. -/
structure PairShows (pair : String × String) (inlined : String × Marked) : Prop where
  same : pair.1 = inlined.1
  column : Plain pair.1
  text : Shows pair.2 inlined.2

omit h in
theorem plain_columns {xs : List (String × String)} {ys : List (String × Marked)}
    (h : List.Forall₂ PairShows xs ys) : ∀ name ∈ xs.map (·.1), Plain name := by
  induction h with
  | nil => exact fun _ hmem => absurd hmem List.not_mem_nil
  | cons hpair _ ih => exact List.forall_mem_cons.2 ⟨hpair.column, ih⟩

theorem assignment {a : Assignment Query} (ha : a.Clean Query.Clean) :
    Lockstep True (Progress.Twin I base) (s.toScope.assignment a) (s.assignment a)
      fun x y p q => PairShows x y ∧ Progress.Twin I (base ++ y.2.values) p q := by
  obtain ⟨column, operand, type⟩ := a
  obtain ⟨hcolumn, hoperand⟩ := ha
  refine (Progress.Twin.consult fun _ _ _ hx hf =>
    h.scope.resolver.field hcolumn hx hf).nextTwin fun field hfield => ?_
  have hpair : ∀ {converted : Bool} {o : Operand Query}, o.Clean Query.Clean →
      Lockstep True (Progress.Twin I base)
        (do let sql ← s.toScope.assigned field.type converted o; return (s.quote field.name, sql))
        (do let text ← s.assigned field.type converted o; return (s.quote field.name, text))
        fun x y p q => PairShows x y ∧ Progress.Twin I (base ++ y.2.values) p q :=
    fun ho => (h.assigned _ _ ho).nextBound fun sql text htext =>
      .pure fun _ _ hpq => ⟨⟨rfl, h.scope.quote hfield, htext⟩, hpq⟩
  cases hoperand with
  | value v => exact hpair (.value v)
  | query hq => exact hpair (.query hq)
  | fragment hf => exact hpair (.fragment hf)
  | transformer _ hoperands =>
    exact (Progress.Twin.ask (C := fun t => t.operand.Clean Query.Clean) fun t ht =>
      hoperands _ _ _ _ hcolumn h.scope.platform ht).nextTwin fun t ht => hpair ht

theorem assignments {as : List (Assignment Query)} (ha : ∀ a ∈ as, a.Clean Query.Clean)
    (base : List Scalar) :
    Lockstep True (Progress.Twin I base) (as.mapM s.toScope.assignment) (as.mapM s.assignment)
      fun xs ys p q => List.Forall₂ PairShows xs ys ∧
        Progress.Twin I (base ++ ys.flatMap fun y => y.2.values) p q :=
  Lockstep.mapWrites (fun a hmem _ => h.assignment (ha a hmem)) base

theorem insertRows {rows : InsertSource Query} (hrows : rows.Clean Query.Clean) :
    Lockstep True (Progress.Twin I base) (s.toScope.insertRows rows) (s.insertRows rows)
      (Writes I base) := by
  cases hrows with
  | @assignments items hitems =>
    simp only [Scope.insertRows, Inline.insertRows]
    split
    · exact .writes (.lit (Plain.append (by decide) h.scope.defaultValues)) (by simp)
    · apply (h.assignments hitems base).nextBound
      intro xs ys hpairs
      have hcolumns : xs.map Prod.fst = ys.map Prod.fst := by
        rw [← List.forall₂_eq_eq_eq, List.forall₂_map_left_iff, List.forall₂_map_right_iff]
        exact hpairs.imp fun _ _ hpair => hpair.same
      have htexts : List.Forall₂ Shows (xs.map Prod.snd) (ys.map Prod.snd) := by
        rw [List.forall₂_map_left_iff, List.forall₂_map_right_iff]
        exact hpairs.imp fun _ _ hpair => hpair.text
      have hhead : Plain (Scope.columnList (ys.map (·.1)) ++ " VALUES (") :=
        (Scope.plain_columnList (hcolumns ▸ plain_columns hpairs)).append (by decide)
      refine .writes ?_ (by simp [List.flatMap_map])
      rw [hcolumns, Scope.values_columnList]
      exact ((Shows.lit hhead).append (.join (by decide) htexts)).append (.lit (by decide))
  | query hq =>
    apply (h.query base hq).nextBound
    intro sql text htext
    refine .writes ((Shows.lit (Plain.append ?_ (by decide))).append htext) (by simp)
    cases hcolumns : s.projectedColumns? _ with
    | none => exact (by decide : Plain "")
    | some names => exact Scope.plain_columnList (h.scope.projectedColumns? hq hcolumns)

theorem insert {insert : Insert Query} (hinsert : insert.Clean Query.Clean) :
    Lockstep True (Progress.Twin I base) (s.toScope.insert insert) (s.insert insert)
      (Writes I base) := by
  apply (h.scope.target _ hinsert.table).nextTwin
  intro table htable
  apply (h.insertRows hinsert.source).nextBound
  intro sql text htext
  have hhead := ((Scope.Clean.insertVerb (s := s.toScope) insert).append
    (by decide : Plain " INTO ")).append htable
  exact .writes ((Shows.lit hhead).append htext) (by simp)

theorem update {update : Update Query} (hupdate : update.Clean Query.Clean) :
    Lockstep True (Progress.Twin I base) (s.toScope.update update) (s.update update)
      (Writes I base) := by
  apply (h.scope.target _ hupdate.table).nextTwin
  intro table htable
  simp only
  split
  · exact .throw fun _ => rfl
  · apply (h.assignments hupdate.assignments base).nextBound
    intro xs ys hpairs
    apply (h.conditionsAfter (by decide) hupdate.filters).nextBound
    intro sql text htext
    have hpieces : List.Forall₂ Shows (xs.map fun pair => pair.1 ++ " = " ++ pair.2)
        (ys.map fun pair => lit (pair.1 ++ " = ") ++ pair.2) := by
      rw [List.forall₂_map_left_iff, List.forall₂_map_right_iff]
      apply hpairs.imp
      intro x y hpair
      rw [← hpair.same]
      exact (Shows.lit (hpair.column.append (by decide))).append hpair.text
    have hhead := ((by decide : Plain "UPDATE ").append htable).append (by decide : Plain " SET ")
    exact .writes (((Shows.lit hhead).append (.join (by decide) hpieces)).append htext)
      (by simp [List.flatMap_map])

theorem delete {delete : Delete Query} (hdelete : delete.Clean Query.Clean) :
    Lockstep True (Progress.Twin I base) (s.toScope.delete delete) (s.delete delete)
      (Writes I base) := by
  apply (h.scope.target _ hdelete.table).nextTwin
  intro table htable
  apply (h.conditionsAfter (by decide) hdelete.filters).nextBound
  intro sql text htext
  exact .writes ((Shows.lit (Plain.append (by decide) htable)).append htext) (by simp)

end Inline.Faithful

end ParamSql
