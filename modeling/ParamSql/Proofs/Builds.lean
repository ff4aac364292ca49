import ParamSql.Compile.Run
import ParamSql.Proofs.Guided

namespace ParamSql

variable {σ : Type}

/-- The class `J` holds what is put together of its members, and what tables are rendered by. -/
structure Scope.BuildsTables (s : Scope σ) (J : (α : Type) → Render σ α → Prop) : Prop where
  pure {α : Type} (a : α) : J α (Pure.pure a)
  throw {α : Type} (e : CompileError) : J α (MonadExcept.throw e)
  bind {α β : Type} {f : Render σ α} {k : α → Render σ β} : J α f → (∀ a, J β (k a)) → J β (f >>= k)
  query (q : Query) : J String (s.query q)
  resolved (t : TableRef Query) : J (TableRef Query) (s.resolveTable t)

/-- The class `J` holds what is put together of its members, and what clauses are rendered by. -/
structure Scope.Builds (s : Scope σ) (J : (α : Type) → Render σ α → Prop) : Prop
    extends s.BuildsTables J where
  bindAll (scalars : List Scalar) : J Unit (Render.bindAll scalars)
  converted (answer : Except CompileError Scalar) : J Scalar (Render.ask .convert answer)
  transform (answer : Except CompileError (Transformed (Operand Query))) :
    J (Transformed (Operand Query)) (Render.ask .transform answer)
  fragmentAsked : J Unit (Render.note (.asked .fragment))
  refusal (e : CompileError) : J String (Render.heed (.error e))
  root : J (Option String) s.root
  field (name : String) (type : Option TypeName) :
    J Field (Render.consult (.field name type) (s.compiler.resolver.field name type))
  condition (c : Condition Query) : J (Condition Query) (s.resolveCondition c)
  pending : J (List (Condition Query)) Scope.takePending

namespace Scope.BuildsTables

variable {α β : Type} {s : Scope σ} {J : (α : Type) → Render σ α → Prop} (h : s.BuildsTables J)

include h

theorem lift (answer : Except CompileError α) : J α (Render.lift answer) := by
  cases answer with
  | ok a => exact h.pure a
  | error e => exact h.throw e

theorem mapM {k : α → Render σ β} (hk : ∀ a, J β (k a)) (as : List α) :
    J (List β) (as.mapM k) := by
  induction as with
  | nil =>
    rw [List.mapM_nil]
    exact h.pure _
  | cons a as ih =>
    rw [List.mapM_cons]
    exact h.bind (hk a) fun _ => h.bind ih fun _ => h.pure _

theorem forM {k : α → Render σ PUnit} (hk : ∀ a, J PUnit (k a)) (as : List α) :
    J PUnit (as.forM k) := by
  induction as with
  | nil => exact h.pure _
  | cons a as ih => exact h.bind (hk a) fun _ => ih

theorem tableText (t : TableRef Query) : J String (s.table t) := by
  apply h.bind (h.resolved t)
  intro resolved
  have hsource : J String (s.source resolved.source) := by
    cases resolved.source with
    | name name => exact h.pure _
    | query q => exact h.bind (h.query q) fun _ => h.pure _
  exact h.bind hsource fun _ => h.pure _

theorem tablesClause (tables : List (TableRef Query)) : J String (s.tablesClause tables) := by
  unfold Scope.tablesClause
  split
  · exact h.pure _
  · exact h.bind (h.mapM h.tableText _) fun _ => h.pure _

theorem target (kind : StatementKind) (t : Option (TableRef Query)) :
    J String (s.target kind t) := by
  cases t with
  | none => exact h.throw _
  | some t =>
    apply h.bind (h.resolved t)
    intro resolved
    cases resolved.source with
    | name name =>
      simp only
      split
      · exact h.throw _
      · exact h.pure _
    | query q => exact h.throw _

end Scope.BuildsTables

namespace Scope.Builds

variable {s : Scope σ} {J : (α : Type) → Render σ α → Prop} (h : s.Builds J)

include h

theorem column (name : String) : J Field (s.column name) :=
  h.bind (h.field name none) fun _ => h.pure _

theorem answer (f : Fragment) : J String (s.answer f) := by
  induction f with
  | text sql => exact h.pure sql
  | fail e => exact h.refusal e
  | column name next ih => exact h.bind (h.column name) fun field => ih field.name
  | root next ih => exact h.bind h.root ih
  | look next ih => exact ih _

theorem fragment (f : Fragment) : J String (s.fragment f) :=
  h.bind h.fragmentAsked fun _ => h.answer f

theorem bindValue (type : Option TypeName) (converted : Bool) (value : Value) :
    J Unit (s.bind type converted value) := by
  have hscalar : J Scalar (s.scalar type converted value) := by
    unfold Scope.scalar
    split
    · split
      · exact h.pure _
      · exact h.converted _
    · exact h.converted _
  exact h.bind hscalar fun _ => h.bindAll _

variable {subject : Subject} {token : String}

theorem single (operator : String) (value : Value) :
    J String (s.single subject operator value) :=
  h.bind (h.bindValue _ _ value) fun _ => h.pure _

theorem expanded (operator : Operator) (items : List Value) :
    J String (s.expanded subject operator token items) := by
  rw [expanded_eq]
  split
  · exact h.throw _
  · exact h.bind (h.mapM (h.single _) items) fun _ => h.pure _

theorem membership (negated : Bool) (items : List Value) :
    J String (s.membership subject negated items) := by
  unfold Scope.membership
  simp only
  split
  · exact h.pure _
  · exact h.bind (h.forM (h.bindValue _ _) _) fun _ => h.pure _

theorem range (value : Value) : J String (s.range subject token value) := by
  cases hlist : value.isList with
  | false =>
    rw [range_of_not_list hlist]
    exact h.bind (h.bindValue _ _ value) fun _ => h.pure _
  | true =>
    obtain ⟨items, rfl⟩ := Value.eq_list hlist
    match items with
    | [low, high] =>
      exact h.bind (h.bindValue _ _ low) fun _ =>
        h.bind (h.bindValue _ _ high) fun _ => h.pure _
    | [] => exact h.throw _
    | [_] => exact h.throw _
    | _ :: _ :: _ :: _ => exact h.throw _

theorem equality (negated : Bool) (value : Value) :
    J String (s.equality subject negated value) := by
  cases value with
  | list items => exact h.membership negated items
  | null => exact h.pure _
  | _ => exact h.single _ _

theorem plain (operator : Operator) (value : Value) :
    J String (s.plain subject operator token value) := by
  have hspread : J String (s.spread subject operator token value) := by
    cases value with
    | list items => exact h.expanded operator items
    | _ => exact h.single _ _
  cases operator with
  | equal => exact h.equality false value
  | notEqual => exact h.equality true value
  | oneOf => exact h.membership false value.items
  | noneOf => exact h.membership true value.items
  | between => exact h.range value
  | notBetween => exact h.bind (h.range value) fun _ => h.pure _
  | _ => exact hspread

theorem comparison (c : Comparison Query) : J String (s.comparison c) := by
  have htransformed : J (Comparison Query) (s.transformed c) := by
    unfold Scope.transformed
    split
    · exact h.bind (h.transform _) fun _ => h.pure _
    · exact h.pure c
  apply h.bind htransformed
  intro c
  apply h.bind (h.column c.column)
  intro field
  apply h.bind (h.lift _)
  intro operator
  cases c.operand with
  | value value => exact h.plain operator value
  | query q => exact h.bind (h.query q) fun _ => h.lift _
  | fragment f => exact h.bind (h.fragment f) fun _ => h.lift _
  | transformer _ => exact h.throw _

theorem pieces (n : Nat) (outermost : Bool) (list : List (Condition Query)) :
    J (List Piece) (s.pieces n outermost list) := by
  induction n generalizing outermost list with
  | zero =>
    cases list with
    | nil => exact h.pure []
    | cons first rest => exact h.throw _
  | succ n ih =>
    cases list with
    | nil => exact h.pure []
    | cons first rest =>
      rw [pieces_cons]
      apply h.bind (h.condition first)
      intro c
      have htext : J String (s.pieceText n c) := by
        cases c with
        | comparison g c => exact h.comparison c
        | group g members =>
          simp only [pieceText, map_eq_pure_bind]
          exact h.bind (ih false members) fun _ => h.pure _
        | fragment g f => exact h.fragment f
      have hadded : J (List (Condition Query)) (takenBy outermost) := by
        cases outermost with
        | false => exact h.pure []
        | true => exact h.pending
      apply h.bind htext
      intro text
      apply h.bind hadded
      intro added
      exact h.bind (ih outermost _) fun _ => h.pure _

theorem conditionsAfter (keyword : String) (list : List (Condition Query)) :
    J String (s.conditionsAfter keyword list) := by
  have hconditions : J String (s.conditions list) := by
    rw [Scope.conditions, map_eq_pure_bind]
    exact h.bind (h.pieces _ true list) fun _ => h.pure _
  exact h.bind hconditions fun _ => h.pure _

theorem columnsClause (select : Select Query) : J String (s.columnsClause select) := by
  have hprojection (p : Projection) : J String (s.projection p) := by
    obtain ⟨column, label⟩ := p
    cases column with
    | name name => exact h.bind (h.column name) fun _ => h.pure _
    | fragment f => exact h.bind (h.fragment f) fun _ => h.pure _
  have hstar : J String s.star := by
    apply h.bind h.root
    intro table
    cases table <;> exact h.pure _
  unfold Scope.columnsClause
  cases select.aggregate with
  | some a =>
    simp only [Scope.aggregateColumn]
    split
    · exact h.bind (h.pure _) fun _ => h.pure _
    · exact h.bind (h.bind (h.column _) fun _ => h.pure _) fun _ => h.pure _
  | none =>
    simp only
    split
    · exact h.bind hstar fun _ => h.pure _
    · rw [map_eq_pure_bind]
      exact h.bind (h.bind (h.mapM hprojection _) fun _ => h.pure _) fun _ => h.pure _

theorem join (j : Join Query) : J String (s.join j) :=
  h.bind (h.tableText j.table) fun _ => h.bind (h.conditionsAfter _ j.on) fun _ => h.pure _

theorem joinsClause (himplied : J (List (Join Query)) s.impliedJoins) (select : Select Query) :
    J String (s.joinsClause select) :=
  h.bind himplied fun _ => h.bind (h.mapM h.join _) fun _ => h.pure _

theorem groupsClause (groups : List String) : J String (s.groupsClause groups) := by
  unfold Scope.groupsClause
  split
  · exact h.pure _
  · exact h.bind (h.mapM h.column _) fun _ => h.pure _

theorem ordersClause (orders : List Order) : J String (s.ordersClause orders) := by
  have horder (o : Order) : J String (s.order o) :=
    h.bind (h.column _) fun _ => h.pure _
  unfold Scope.ordersClause
  split
  · exact h.pure _
  · exact h.bind (h.mapM horder _) fun _ => h.pure _

theorem assignment (a : Assignment Query) : J (String × String) (s.assignment a) := by
  obtain ⟨column, operand, type⟩ := a
  apply h.bind (h.field column type)
  intro field
  have hassigned (converted : Bool) (operand : Operand Query) :
      J String (s.assigned field.type converted operand) := by
    cases operand with
    | value value => exact h.bind (h.bindValue _ _ value) fun _ => h.pure _
    | query q => exact h.bind (h.query q) fun _ => h.pure _
    | fragment f => exact h.fragment f
    | transformer _ => exact h.throw _
  cases operand with
  | transformer transform =>
    exact h.bind (h.transform _) fun _ => h.bind (hassigned true _) fun _ => h.pure _
  | _ => exact h.bind (hassigned false _) fun _ => h.pure _

theorem insert (insert : Insert Query) : J String (s.insert insert) := by
  have hrows : J String (s.insertRows insert.source) := by
    cases insert.source with
    | assignments items =>
      simp only [Scope.insertRows]
      split
      · exact h.pure _
      · exact h.bind (h.mapM h.assignment _) fun _ => h.pure _
    | query q => exact h.bind (h.query q) fun _ => h.pure _
  exact h.bind (h.target _ _) fun _ => h.bind hrows fun _ => h.pure _

theorem update (update : Update Query) : J String (s.update update) := by
  apply h.bind (h.target _ _)
  intro table
  simp only
  split
  · exact h.bind (h.throw _) fun _ => h.bind (h.mapM h.assignment _) fun _ =>
      h.bind (h.conditionsAfter _ _) fun _ => h.pure _
  · exact h.bind (h.mapM h.assignment _) fun _ =>
      h.bind (h.conditionsAfter _ _) fun _ => h.pure _

theorem delete (delete : Delete Query) : J String (s.delete delete) :=
  h.bind (h.target _ _) fun _ => h.bind (h.conditionsAfter _ _) fun _ => h.pure _

end Scope.Builds

end ParamSql
