import ParamSql.Proofs.Fill
import ParamSql.Proofs.Reworded

namespace ParamSql

variable {σ : Type}

theorem Scope.columnList_reworded {w : Wording} {as bs : List String}
    (habs : List.Forall₂ w.Text as bs) : w.Text (columnList as) (columnList bs) :=
  ((Wording.Text.intercalate _ habs).after _).before _

namespace Scope.Reworded

open Render.Reworded

variable {w : Wording} {G : Query → Query → Prop} {S : σ → σ → Prop} {s t : Scope σ}
  (h : Scope.Reworded w G S s t)

include h

theorem platform_eq (hw : w.compared) : s.platform = t.platform := by
  rw [h.left, h.right, w.same hw]

theorem resolveCondition {c d : Condition Query} (hcd : Condition.Reworded w G c d) :
    Render.Reworded w G S (Condition.Reworded w G) (s.resolveCondition c)
      (t.resolveCondition d) := by
  rw [Scope.resolveCondition, Scope.resolveCondition, h.resolver]
  apply (consult (h.hooks.condition hcd) fun _ _ => id).next
  intro a b hab
  refine (Render.lockstep_modify fun _ _ hpq => ?_).next fun _ _ _ => .ends hab.1
  exact ⟨hpq.state, List.rel_append hpq.pending hab.2, hpq.bound⟩

theorem pieces (n : Nat) (outermost : Bool) {cs ds : List (Condition Query)}
    (hcs : List.Forall₂ (Condition.Reworded w G) cs ds) :
    Render.Reworded w G S (List.Forall₂ (Piece.Reworded w)) (s.pieces n outermost cs)
      (t.pieces n outermost ds) := by
  induction n generalizing outermost cs ds with
  | zero =>
    cases hcs with
    | nil => exact .ends .nil
    | cons _ _ => exact .throw fun _ => rfl
  | succ n ih =>
    cases hcs with
    | nil => exact .ends .nil
    | cons hc hrest =>
      rw [pieces_cons, pieces_cons]
      apply (h.resolveCondition hc).next
      intro c d hcd
      have htext : Render.Reworded w G S w.Piece (s.pieceText n c) (t.pieceText n d) := by
        cases hcd with
        | comparison g hcd =>
          exact (h.comparison hcd).mono (fun _ _ => id) fun _ _ _ _ hend =>
            ⟨hend.1.piece, hend.2⟩
        | group g hms =>
          exact .map ((ih false hms).mono (fun _ _ => id) fun _ _ _ _ hend =>
            ⟨Piece.joined_reworded hend.1, hend.2⟩)
        | fragment g hf => exact h.fragment hf
      have hadded : Render.Reworded w G S (List.Forall₂ (Condition.Reworded w G))
          (takenBy (σ := σ) outermost) (takenBy outermost) := by
        cases outermost with
        | true => exact fun p q hpq => .ok ⟨hpq.pending, hpq.state, .nil, hpq.bound⟩
        | false => exact .ends .nil
      have hgroup : isGroup c = isGroup d := by cases hcd <;> rfl
      apply htext.next
      intro a b hab
      apply hadded.next
      intro as bs habs
      apply (ih outermost (List.rel_append hrest habs)).next
      intro ps qs hpqs
      exact .ends (.cons ⟨hcd.glue_eq, hab, hgroup⟩ hpqs)

theorem conditions {cs ds : List (Condition Query)}
    (hcs : List.Forall₂ (Condition.Reworded w G) cs ds) :
    Render.Reworded w G S w.Piece (s.conditions cs) (t.conditions ds) := by
  unfold Scope.conditions
  rw [Condition.Reworded.sizes_eq hcs, h.growth]
  exact .map ((h.pieces _ true hcs).mono (fun _ _ => id) fun _ _ _ _ hend =>
    ⟨Piece.joined_reworded hend.1, hend.2⟩)

theorem conditionsAfter (keyword : String) {cs ds : List (Condition Query)}
    (hcs : List.Forall₂ (Condition.Reworded w G) cs ds) :
    Render.Reworded w G S w.Text (s.conditionsAfter keyword cs) (t.conditionsAfter keyword ds) := by
  apply (h.conditions hcs).next
  intro a b hab
  refine .ends fun hw => ?_
  have hempty : a = "" ↔ b = "" := hab.2 hw
  by_cases ha : a = ""
  · rw [if_pos ha, if_pos (hempty.1 ha)]
  · rw [if_neg ha, if_neg (mt hempty.2 ha)]
    exact hab.1.after keyword hw

theorem aggregate (function : AggregateFunction) {a b : String} (hab : w.Text a b) :
    w.Text (s.platform.aggregate function a) (t.platform.aggregate function b) := by
  rw [h.left, h.right]
  exact (hab.after (function.sql ++ "(")).before ")"

theorem aggregateColumn {distinct distinct' : Bool} (hdistinct : w.compared → distinct = distinct')
    (a : Aggregate) :
    Render.Reworded w G S w.Text (s.aggregateColumn distinct a)
      (t.aggregateColumn distinct' a) := by
  unfold Scope.aggregateColumn
  split
  · exact .ends (.refl _)
  · apply (h.column _).next
    intro a b hab
    have hword : w.Text (if distinct then "DISTINCT " else "")
        (if distinct' then "DISTINCT " else "") := fun hw => by rw [hdistinct hw]
    exact .ends (hword.append (h.columnText hab))

theorem projection {p q : Projection} (hpq : Projection.Reworded w p q) :
    Render.Reworded w G S w.Text (s.projection p) (t.projection q) := by
  obtain ⟨column, label⟩ := p
  obtain ⟨column', _⟩ := q
  obtain ⟨hcolumn, rfl⟩ := hpq
  have halias := h.aliased " AS " label
  cases hcolumn with
  | name name =>
    exact (h.column name).next fun _ _ hab => .ends ((h.columnText hab).append halias)
  | fragment hf => exact (h.fragment hf).next fun _ _ hab => .ends (hab.append halias)

theorem star : Render.Reworded w G S w.Text s.star t.star := by
  apply h.root.nextSame
  intro table
  cases table with
  | none => exact .ends (.refl _)
  | some table => exact .ends ((h.quote table).before ".*")

theorem columnsClause {c d : Select Query} (hcd : Select.Reworded w G c d) :
    Render.Reworded w G S w.Text (s.columnsClause c) (t.columnsClause d) := by
  have hdistinct (hw : w.compared) : (d.distinct && s.platform.isKeyword "DISTINCT") =
      (d.distinct && t.platform.isKeyword "DISTINCT") := by rw [h.platform_eq hw]
  have hempty : c.columns.isEmpty = d.columns.isEmpty := forall₂_isEmpty hcd.columns
  unfold Scope.columnsClause
  rw [hcd.aggregate, hcd.distinct, hempty]
  cases d.aggregate with
  | some a =>
    exact (h.aggregateColumn hdistinct a).next fun _ _ hab =>
      .ends (((h.aggregate a.function hab).after "SELECT ").before " AS aggregate")
  | none =>
    have hselect {a b : String} (hab : w.Text a b) : w.Text
        ((if (d.distinct && s.platform.isKeyword "DISTINCT") = true then "SELECT DISTINCT "
          else "SELECT ") ++ a)
        ((if (d.distinct && t.platform.isKeyword "DISTINCT") = true then "SELECT DISTINCT "
          else "SELECT ") ++ b) := by
      intro hw
      rw [hdistinct hw]
      exact hab.after _ hw
    simp only
    split
    · exact h.star.next fun _ _ hab => .ends (hselect hab)
    · have hparts := Lockstep.mapM hcd.columns fun _ _ => h.projection
      exact Lockstep.next (.map (hparts.mono (fun _ _ => id) fun _ _ _ _ hend =>
        ⟨.intercalate _ hend.1, hend.2⟩)) fun _ _ hab => .ends (hselect hab)

theorem source {a b : TableSource Query} (hab : TableSource.Alike G a b) :
    Render.Reworded w G S w.Text (s.source a) (t.source b) := by
  cases hab with
  | name name => exact .ends (h.tableName name)
  | query hq => exact (h.query hq).next fun _ _ hsql => .ends ((hsql.after "(").before ")")

theorem resolveTable {a b : TableRef Query} (hab : TableRef.Alike G a b) :
    Render.Reworded w G S (TableRef.Alike G) (s.resolveTable a) (t.resolveTable b) := by
  rw [Scope.resolveTable, Scope.resolveTable, h.resolver]
  exact consult (h.hooks.table hab) fun _ _ => id

theorem table {a b : TableRef Query} (hab : TableRef.Alike G a b) :
    Render.Reworded w G S w.Text (s.table a) (t.table b) := by
  apply (h.resolveTable hab).next
  intro c d hcd
  apply (h.source hcd.source).next
  intro sql sql' hsql
  rw [hcd.label]
  exact .ends (hsql.append (h.aliased _ _))

theorem tablesClause {as bs : List (TableRef Query)}
    (habs : List.Forall₂ (TableRef.Alike G) as bs) :
    Render.Reworded w G S w.Text (s.tablesClause as) (t.tablesClause bs) := by
  have hempty : as.isEmpty = bs.isEmpty := forall₂_isEmpty habs
  unfold Scope.tablesClause
  rw [hempty]
  split
  · exact .ends (.refl _)
  · have hunseen := forall₂_unseen (fun _ _ hab => hab.key_eq) habs []
    exact (Lockstep.mapM hunseen fun _ _ => h.table).next fun _ _ hparts =>
      .ends ((Wording.Text.intercalate _ hparts).after _)

theorem join {j k : Join Query} (hjk : Join.Reworded w G j k) :
    Render.Reworded w G S w.Text (s.join j) (t.join k) := by
  apply (h.table hjk.table).next
  intro table table' htable
  apply (h.conditionsAfter " ON " hjk.on).next
  intro on on' hon
  rw [hjk.kind]
  exact .ends ((htable.after _).append hon)

theorem impliedJoins :
    Render.Reworded w G S (List.Forall₂ (Join.Reworded w G)) s.impliedJoins t.impliedJoins := by
  unfold Scope.impliedJoins
  rw [h.resolver]
  apply (note _).next
  intro _ _ _ p q hpq
  obtain ⟨hjoins, hstate⟩ := h.hooks.joins hpq.state
  exact .ok ⟨hjoins, hstate, hpq.pending, hpq.bound⟩

theorem joinsClause {c d : Select Query} (hcd : Select.Reworded w G c d) :
    Render.Reworded w G S w.Text (s.joinsClause c) (t.joinsClause d) := by
  apply h.impliedJoins.next
  intro js ks hjks
  have hseen : c.tables.filterMap TableRef.key? = d.tables.filterMap TableRef.key? := by
    have htables := hcd.tables
    revert htables
    generalize c.tables = as, d.tables = bs
    intro habs
    induction habs with
    | nil => rfl
    | cons hab _ ih => rw [List.filterMap_cons, List.filterMap_cons, hab.key_eq, ih]
  simp only [hseen]
  have hunseen := forall₂_unseen (fun _ _ hjk => hjk.table.key_eq)
    (List.rel_append hcd.joins hjks) (d.tables.filterMap TableRef.key?)
  exact (Lockstep.mapM hunseen fun _ _ => h.join).next fun _ _ hparts =>
    .ends (.intercalate _ hparts)

theorem groupsClause (groups : List String) :
    Render.Reworded w G S w.Text (s.groupsClause groups) (t.groupsClause groups) := by
  unfold Scope.groupsClause
  split
  · exact .ends (.refl _)
  · have hcolumn (name : String) : Render.Reworded w G S (fun a b => w.Text a.name b.name)
        (s.column name) (t.column name) :=
      (h.column name).mono (fun _ _ => id) fun _ _ _ _ hend => ⟨h.columnText hend.1, hend.2⟩
    apply (mapEach hcolumn groups).next
    rintro as bs ⟨habs, _⟩
    have hnames : List.Forall₂ w.Text (as.map Field.name) (bs.map Field.name) := by
      rw [List.forall₂_map_left_iff, List.forall₂_map_right_iff]
      exact habs
    exact .ends ((Wording.Text.intercalate _ hnames).after _)

theorem order (o : Order) : Render.Reworded w G S w.Text (s.order o) (t.order o) :=
  (h.column _).next fun _ _ hab => .ends (((h.columnText hab).before " ").before _)

theorem ordersClause (orders : List Order) :
    Render.Reworded w G S w.Text (s.ordersClause orders) (t.ordersClause orders) := by
  unfold Scope.ordersClause
  split
  · exact .ends (.refl _)
  · exact (mapEach h.order orders).next fun _ _ hparts =>
      .ends ((Wording.Text.intercalate _ hparts.1).after _)

theorem lockClause {c d : Select Query} (hcd : Select.Reworded w G c d) :
    w.Text (s.lockClause c) (t.lockClause d) := by
  intro hw
  have hlock (mode : Option LockMode) : s.lockSql mode = t.lockSql mode := by
    cases mode with
    | none => rfl
    | some mode => cases mode <;> simp only [Scope.lockSql, h.platform_eq hw]
  rw [Scope.lockClause, Scope.lockClause, hcd.aggregate, hcd.lock, hlock]

theorem target (kind : StatementKind) {a b : Option (TableRef Query)}
    (hab : Option.Rel (TableRef.Alike G) a b) :
    Render.Reworded w G S w.Text (s.target kind a) (t.target kind b) := by
  cases hab with
  | none => exact .throw fun _ => rfl
  | some hab =>
    apply (h.resolveTable hab).next
    intro c d hcd
    obtain ⟨source, label⟩ := c
    obtain ⟨source', label'⟩ := d
    cases hcd.source with
    | name name =>
      simp only
      split
      · exact .throw fun _ => rfl
      · exact .ends (h.tableName name)
    | query _ => exact .throw fun _ => rfl

theorem assigned {T : Transform Query → Transform Query → Prop} (type : Option TypeName)
    (converted : Bool) {o p : Operand Query} (hop : Operand.Reworded w G T o p) :
    Render.Reworded w G S w.Text (s.assigned type converted o) (t.assigned type converted p) := by
  cases hop with
  | value v => exact (h.bind _ _ v).next fun _ _ _ => .ends (.refl _)
  | query hq => exact (h.query hq).next fun _ _ hsql => .ends ((hsql.after "(").before ")")
  | fragment hf => exact h.fragment hf
  | transformer _ => exact .throw fun _ => rfl

theorem assignment {a b : Assignment Query} (hab : Assignment.Reworded w G a b) :
    Render.Reworded w G S (fun x y => w.Text x.1 y.1 ∧ w.Text x.2 y.2) (s.assignment a)
      (t.assignment b) := by
  obtain ⟨column, operand, type⟩ := a
  obtain ⟨_, operand', _⟩ := b
  obtain ⟨rfl, hoperand, rfl⟩ := hab
  apply (h.field column type).next
  rintro field _ ⟨rfl, _⟩
  have hquote := h.quote field.name
  cases hoperand with
  | value v =>
    exact (h.assigned _ _ (.value (T := fun _ _ => True) v)).next fun _ _ hsql =>
      .ends ⟨hquote, hsql⟩
  | query hq =>
    exact (h.assigned _ _ (.query (T := fun _ _ => True) hq)).next fun _ _ hsql =>
      .ends ⟨hquote, hsql⟩
  | fragment hf =>
    exact (h.assigned _ _ (.fragment (T := fun _ _ => True) hf)).next fun _ _ hsql =>
      .ends ⟨hquote, hsql⟩
  | transformer hf =>
    simp only [h.left, h.right]
    apply (ask _ (hf column "=")).next
    intro x y hxy
    exact (h.assigned _ _ hxy.operand).next fun _ _ hsql => .ends ⟨hquote, hsql⟩

theorem insertRows {a b : InsertSource Query} (hab : InsertSource.Reworded w G a b) :
    Render.Reworded w G S w.Text (s.insertRows a) (t.insertRows b) := by
  cases hab with
  | @assignments as bs hassigned =>
    have hempty : as.isEmpty = bs.isEmpty := forall₂_isEmpty hassigned
    simp only [Scope.insertRows, hempty]
    split
    · exact .ends ((h.word Platform.defaultValues).after " ")
    · apply (Lockstep.mapM hassigned fun _ _ => h.assignment).next
      intro xs ys hxys
      have hcolumns : List.Forall₂ w.Text (xs.map (·.1)) (ys.map (·.1)) := by
        rw [List.forall₂_map_left_iff, List.forall₂_map_right_iff]
        exact hxys.imp fun _ _ hxy => hxy.1
      have hvalues : List.Forall₂ w.Text (xs.map (·.2)) (ys.map (·.2)) := by
        rw [List.forall₂_map_left_iff, List.forall₂_map_right_iff]
        exact hxys.imp fun _ _ hxy => hxy.2
      exact .ends (((columnList_reworded hcolumns).before _).append
        (columnList_reworded hvalues))
  | query hq =>
    apply (h.query hq).next
    intro sql sql' hsql
    refine .ends (Wording.Text.append (.before ?_ " ") hsql)
    have hprojected := h.projected hq
    revert hprojected
    generalize s.projectedColumns? _ = as, t.projectedColumns? _ = bs
    intro hprojected
    cases hprojected with
    | none => exact .refl _
    | some habs => exact columnList_reworded habs

theorem insert {a b : Insert Query} (hab : Insert.Reworded w G a b) :
    Render.Reworded w G S w.Text (s.insert a) (t.insert b) := by
  have hverb : w.Text (s.insertVerb a) (t.insertVerb b) := by
    intro hw
    simp only [Scope.insertVerb, hab.ignore, hab.replace, h.platform_eq hw]
  apply (h.target _ hab.table).next
  intro table table' htable
  apply (h.insertRows hab.source).next
  intro rows rows' hrows
  exact .ends (((hverb.before _).append htable).append hrows)

theorem update {a b : Update Query} (hab : Update.Reworded w G a b) :
    Render.Reworded w G S w.Text (s.update a) (t.update b) := by
  apply (h.target _ hab.table).next
  intro table table' htable
  have hempty : a.assignments.isEmpty = b.assignments.isEmpty := forall₂_isEmpty hab.assignments
  simp only [hempty]
  split
  · exact .throw fun _ => rfl
  · apply (Lockstep.mapM hab.assignments fun _ _ => h.assignment).next
    intro xs ys hxys
    have hparts : List.Forall₂ w.Text (xs.map fun pair => pair.1 ++ " = " ++ pair.2)
        (ys.map fun pair => pair.1 ++ " = " ++ pair.2) := by
      rw [List.forall₂_map_left_iff, List.forall₂_map_right_iff]
      exact hxys.imp fun _ _ hxy => (hxy.1.before _).append hxy.2
    exact (h.conditionsAfter _ hab.filters).next fun _ _ hfilters =>
      .ends ((((htable.after _).before _).append (.intercalate _ hparts)).append hfilters)

theorem delete {a b : Delete Query} (hab : Delete.Reworded w G a b) :
    Render.Reworded w G S w.Text (s.delete a) (t.delete b) := by
  apply (h.target _ hab.table).next
  intro table table' htable
  exact (h.conditionsAfter _ hab.filters).next fun _ _ hfilters =>
    .ends ((htable.after _).append hfilters)

end Scope.Reworded

end ParamSql
