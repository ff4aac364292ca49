import ParamSql.Proofs.Binding

namespace ParamSql

variable {σ τ : Type}

/-- The same progress, with states in the relation `v`, whatever the journals. -/
structure Progress.Beside (v : σ → τ → Prop) (p : Progress σ) (q : Progress τ) : Prop where
  state : v p.state q.state
  pending : p.pending = q.pending
  bound : p.bound = q.bound

/-- Two resolvers of which the second gives the answers of the first from states in the relation
`v`, but for tables. Where the first refuses for a cause in `E` the second may answer anything. -/
structure Resolver.Beside (E : CompileError → Prop) (v : σ → τ → Prop) (r : Resolver σ)
    (r' : Resolver τ) : Prop where
  start : v r.start r'.start
  select (s : Select Query) : Follows E v (r.select s) (r'.select s) (Same v)
  insert (s : Insert Query) : Follows E v (r.insert s) (r'.insert s) (Same v)
  update (s : Update Query) : Follows E v (r.update s) (r'.update s) (Same v)
  delete (s : Delete Query) : Follows E v (r.delete s) (r'.delete s) (Same v)
  field (name : String) (type : Option TypeName) :
    Follows E v (r.field name type) (r'.field name type) (Same v)
  root {x : σ} {y : τ} : v x y → r.root x = r'.root y
  condition (c : Condition Query) : Follows E v (r.condition c) (r'.condition c) (Same v)
  joins {x : σ} {y : τ} : v x y → (r.joins x).1 = (r'.joins y).1 ∧ v (r.joins x).2 (r'.joins y).2

/-- Two scopes in which the same is rendered to the same text, unless the first gives it up for a
cause in `E`. -/
structure Scope.Beside (E : CompileError → Prop) (v : σ → τ → Prop) (s : Scope σ) (t : Scope τ) :
    Prop where
  platform : s.platform = t.platform
  quoted : s.quoted = t.quoted
  types (declared : Option TypeName) (value : Value) :
    Upheld E (s.compiler.types.scalar declared value) (t.compiler.types.scalar declared value)
  growth : s.compiler.limits.growth = t.compiler.limits.growth
  resolver : s.compiler.resolver.Beside E v t.compiler.resolver
  table (u : TableRef Query) :
    Follows E (Progress.Beside v) (s.table u) (t.table u) (Same (Progress.Beside v))
  query (q : Query) :
    Follows E (Progress.Beside v) (s.query q) (t.query q) (Same (Progress.Beside v))

namespace Progress.Beside

variable {E : CompileError → Prop} {v : σ → τ → Prop} {α : Type}

theorem binding : Progress.Binding (Progress.Beside v) where
  bound h := h.bound
  rebound _ h := ⟨h.state, h.pending, rfl⟩
  journal _ _ h := ⟨h.state, h.pending, h.bound⟩

theorem consult {β : Type} {R : α → β → Prop} {call : Call} {hook : Hook σ α} {hook' : Hook τ β}
    (h : Follows E v hook hook' (Ends R v)) :
    Follows E (Progress.Beside v) (Render.consult call hook) (Render.consult call hook')
      (Ends R (Progress.Beside v)) := by
  intro p q hpq
  rw [Render.consult_eq, Render.consult_eq]
  rcases h.cases hpq.state with
    ⟨e, x, hx, he⟩ | ⟨a, b, x, y, hx, hy, hab, hxy⟩ | ⟨e, x, y, hx, hy⟩
  · rw [hx]
    exact .inl ⟨e, _, rfl, he⟩
  · rw [hx, hy]
    exact .inr (.ok ⟨hab, hxy, hpq.pending, hpq.bound⟩)
  · rw [hx, hy]
    exact .inr (.error fun _ => rfl)

end Progress.Beside

namespace Scope.Beside

open Progress.Beside Progress.Binding

variable {E : CompileError → Prop} {v : σ → τ → Prop} {s : Scope σ} {t : Scope τ}
  (h : s.Beside E v t)

include h

theorem quote (name : String) : s.quote name = t.quote name := by
  rw [Scope.quote, Scope.quote, h.platform, h.quoted]

theorem aliased (word : String) (label : Option String) :
    s.aliased word label = t.aliased word label := by
  cases label with
  | none => rfl
  | some name => rw [Scope.aliased, Scope.aliased, h.quote]

theorem operatorSql (operator : Operator) : s.operatorSql operator = t.operatorSql operator := by
  rw [Scope.operatorSql, Scope.operatorSql, h.platform]

theorem nullCheck (negated : Bool) (column : String) :
    s.nullCheck negated column = t.nullCheck negated column := by
  rw [Scope.nullCheck, Scope.nullCheck, h.platform]

theorem column (name : String) :
    Follows E (Progress.Beside v) (s.column name) (t.column name) (Same (Progress.Beside v)) := by
  apply (consult (h.resolver.field name none)).nextSame
  intro field
  exact .ends (by rw [h.quote])

theorem root :
    Follows E (Progress.Beside v) s.root t.root (Same (Progress.Beside v)) := by
  apply (binding.note _).next
  intro _ _ _
  apply Follows.of_lockstep
  intro p q hpq
  exact .ok ⟨h.resolver.root hpq.state, hpq⟩

theorem answer (f : Fragment) :
    Follows E (Progress.Beside v) (s.answer f) (t.answer f) (Same (Progress.Beside v)) := by
  induction f with
  | text sql => exact .ends rfl
  | fail e => exact binding.heed (.inr rfl)
  | column name next ih => exact (h.column name).nextSame fun field => ih field.name
  | root next ih => exact h.root.nextSame ih
  | look next ih =>
    have hsame : (⟨s.platform, s.quote⟩ : Surroundings) = ⟨t.platform, t.quote⟩ := by
      rw [h.platform, funext h.quote]
    rw [Scope.answer, Scope.answer, hsame]
    exact ih _

theorem fragment (f : Fragment) :
    Follows E (Progress.Beside v) (s.fragment f) (t.fragment f) (Same (Progress.Beside v)) :=
  (binding.note _).next fun _ _ _ => h.answer f

theorem bind (type : Option TypeName) (converted : Bool) (value : Value) :
    Follows E (Progress.Beside v) (s.bind type converted value) (t.bind type converted value)
      (Stays (Progress.Beside v)) := by
  have hscalar : Follows E (Progress.Beside v) (s.scalar type converted value)
      (t.scalar type converted value) (Same (Progress.Beside v)) := by
    rw [Scope.scalar, Scope.scalar]
    split
    · split
      · exact .ends rfl
      · exact binding.ask _ (h.types _ _)
    · exact binding.ask _ (h.types _ _)
  exact hscalar.nextSame fun scalar => binding.bindAll [scalar]

variable {subject : Subject} {token : String}

theorem single (operator : String) (value : Value) :
    Follows E (Progress.Beside v) (s.single subject operator value)
      (t.single subject operator value) (Same (Progress.Beside v)) :=
  (h.bind _ _ value).next fun _ _ _ => .ends rfl

theorem expanded (operator : Operator) (items : List Value) :
    Follows E (Progress.Beside v) (s.expanded subject operator token items)
      (t.expanded subject operator token items) (Same (Progress.Beside v)) := by
  rw [expanded_eq, expanded_eq, h.operatorSql]
  split
  · exact .throw
  · exact (Follows.mapM (h.single _) items).nextSame fun _ => .ends rfl

theorem membership (negated : Bool) (items : List Value) :
    Follows E (Progress.Beside v) (s.membership subject negated items)
      (t.membership subject negated items) (Same (Progress.Beside v)) := by
  simp only [Scope.membership, h.nullCheck]
  split
  · exact .ends rfl
  · exact (Follows.forM (h.bind _ _) _).next fun _ _ _ => .ends rfl

theorem range (value : Value) :
    Follows E (Progress.Beside v) (s.range subject token value) (t.range subject token value)
      (Same (Progress.Beside v)) := by
  cases hlist : value.isList with
  | false =>
    rw [range_of_not_list hlist, range_of_not_list hlist, h.platform]
    exact (h.bind _ _ value).next fun _ _ _ => .ends rfl
  | true =>
    obtain ⟨items, rfl⟩ := Value.eq_list hlist
    match items with
    | [low, high] =>
      apply (h.bind _ _ low).next
      intro _ _ _
      apply (h.bind _ _ high).next
      intro _ _ _
      exact .ends (by rw [h.platform])
    | [] => exact .throw
    | [_] => exact .throw
    | _ :: _ :: _ :: _ => exact .throw

theorem equality (negated : Bool) (value : Value) :
    Follows E (Progress.Beside v) (s.equality subject negated value)
      (t.equality subject negated value) (Same (Progress.Beside v)) := by
  cases value with
  | list items => exact h.membership negated items
  | null => exact .ends (h.nullCheck negated _)
  | _ => exact h.single _ _

theorem plain (operator : Operator) (value : Value) :
    Follows E (Progress.Beside v) (s.plain subject operator token value)
      (t.plain subject operator token value) (Same (Progress.Beside v)) := by
  have hsingle (value : Value) : Follows E (Progress.Beside v)
      (s.single subject (s.operatorSql operator) value)
      (t.single subject (t.operatorSql operator) value) (Same (Progress.Beside v)) := by
    rw [h.operatorSql]
    exact h.single _ value
  have hspread : Follows E (Progress.Beside v) (s.spread subject operator token value)
      (t.spread subject operator token value) (Same (Progress.Beside v)) := by
    cases value with
    | list items => exact h.expanded operator items
    | _ => exact hsingle _
  cases operator with
  | equal => exact h.equality false value
  | notEqual => exact h.equality true value
  | oneOf => exact h.membership false value.items
  | noneOf => exact h.membership true value.items
  | between => exact h.range value
  | notBetween => exact (h.range value).nextSame fun _ => .ends (by rw [h.platform])
  | _ => exact hspread

theorem verbatim (column : String) (operator : Operator) (rhs : String) :
    s.verbatim column operator token rhs = t.verbatim column operator token rhs := by
  cases operator with
  | between => rfl
  | notBetween => rfl
  | _ => simp only [Scope.verbatim, h.operatorSql]

theorem comparison (c : Comparison Query) :
    Follows E (Progress.Beside v) (s.comparison c) (t.comparison c)
      (Same (Progress.Beside v)) := by
  have htransformed : Follows E (Progress.Beside v) (s.transformed c) (t.transformed c)
      (Same (Progress.Beside v)) := by
    obtain ⟨column, operator, operand, converted⟩ := c
    cases operand with
    | transformer transform =>
      simp only [Scope.transformed, h.platform]
      exact (binding.ask _ (.inr rfl)).nextSame fun _ => .ends rfl
    | _ => exact .ends rfl
  apply htransformed.nextSame
  intro c
  apply (h.column c.column).nextSame
  intro field
  apply (lift _).nextSame
  intro operator
  cases c.operand with
  | value value => exact h.plain operator value
  | query q =>
    apply (h.query q).nextSame
    intro sql
    rw [h.verbatim]
    exact lift _
  | fragment f =>
    apply (h.fragment f).nextSame
    intro sql
    rw [h.verbatim]
    exact lift _
  | transformer _ => exact .throw

theorem resolveCondition (c : Condition Query) :
    Follows E (Progress.Beside v) (s.resolveCondition c) (t.resolveCondition c)
      (Same (Progress.Beside v)) := by
  apply (consult (h.resolver.condition c)).nextSame
  rintro ⟨d, added⟩
  apply Follows.next (R := fun _ _ => True) (P := Progress.Beside v)
  · apply Follows.of_lockstep
    intro p q hpq
    exact .ok ⟨trivial, hpq.state, congrArg (· ++ added) hpq.pending, hpq.bound⟩
  · exact fun _ _ _ => .ends rfl

theorem pieces (n : Nat) (outermost : Bool) (list : List (Condition Query)) :
    Follows E (Progress.Beside v) (s.pieces n outermost list) (t.pieces n outermost list)
      (Same (Progress.Beside v)) := by
  induction n generalizing outermost list with
  | zero =>
    cases list with
    | nil => exact .ends rfl
    | cons first rest => exact .throw
  | succ n ih =>
    cases list with
    | nil => exact .ends rfl
    | cons first rest =>
      rw [pieces_cons, pieces_cons]
      apply (h.resolveCondition first).nextSame
      intro c
      have htext : Follows E (Progress.Beside v) (s.pieceText n c) (t.pieceText n c)
          (Same (Progress.Beside v)) := by
        cases c with
        | comparison g c => exact h.comparison c
        | group g members => exact (ih false members).mapSame _
        | fragment g f => exact h.fragment f
      have hadded : Follows E (Progress.Beside v) (takenBy outermost : Render σ _)
          (takenBy outermost) (Same (Progress.Beside v)) := by
        cases outermost with
        | false => exact .ends rfl
        | true =>
          apply Follows.of_lockstep
          intro p q hpq
          exact .ok ⟨hpq.pending, hpq.state, rfl, hpq.bound⟩
      apply htext.nextSame
      intro text
      apply hadded.nextSame
      intro added
      exact (ih outermost _).nextSame fun _ => .ends rfl

theorem conditions (list : List (Condition Query)) :
    Follows E (Progress.Beside v) (s.conditions list) (t.conditions list)
      (Same (Progress.Beside v)) := by
  rw [Scope.conditions, Scope.conditions, h.growth]
  exact (h.pieces _ true list).mapSame _

theorem conditionsAfter (keyword : String) (list : List (Condition Query)) :
    Follows E (Progress.Beside v) (s.conditionsAfter keyword list) (t.conditionsAfter keyword list)
      (Same (Progress.Beside v)) :=
  (h.conditions list).nextSame fun _ => .ends rfl

theorem aggregateColumn (distinct : Bool) (a : Aggregate) :
    Follows E (Progress.Beside v) (s.aggregateColumn distinct a) (t.aggregateColumn distinct a)
      (Same (Progress.Beside v)) := by
  rw [Scope.aggregateColumn, Scope.aggregateColumn]
  split
  · exact .ends rfl
  · exact (h.column _).nextSame fun _ => .ends rfl

theorem projection (p : Projection) :
    Follows E (Progress.Beside v) (s.projection p) (t.projection p)
      (Same (Progress.Beside v)) := by
  obtain ⟨column, label⟩ := p
  cases column with
  | name name => exact (h.column name).nextSame fun _ => .ends (by rw [h.aliased])
  | fragment f => exact (h.fragment f).nextSame fun _ => .ends (by rw [h.aliased])

theorem star :
    Follows E (Progress.Beside v) s.star t.star (Same (Progress.Beside v)) := by
  apply h.root.nextSame
  intro table
  cases table with
  | none => exact .ends rfl
  | some table => exact .ends (by rw [h.quote])

theorem columnsClause (select : Select Query) :
    Follows E (Progress.Beside v) (s.columnsClause select) (t.columnsClause select)
      (Same (Progress.Beside v)) := by
  rw [Scope.columnsClause, Scope.columnsClause, h.platform]
  cases select.aggregate with
  | some a => exact (h.aggregateColumn _ a).nextSame fun _ => .ends rfl
  | none =>
    simp only
    split
    · exact h.star.nextSame fun _ => .ends rfl
    · exact ((Follows.mapM h.projection _).mapSame _).nextSame fun _ => .ends rfl

theorem tablesClause (tables : List (TableRef Query)) :
    Follows E (Progress.Beside v) (s.tablesClause tables) (t.tablesClause tables)
      (Same (Progress.Beside v)) := by
  rw [Scope.tablesClause, Scope.tablesClause]
  split
  · exact .ends rfl
  · exact (Follows.mapM h.table _).nextSame fun _ => .ends rfl

theorem join (j : Join Query) :
    Follows E (Progress.Beside v) (s.join j) (t.join j) (Same (Progress.Beside v)) := by
  apply (h.table j.table).nextSame
  intro table
  exact (h.conditionsAfter _ j.on).nextSame fun _ => .ends rfl

theorem joinsClause (select : Select Query) :
    Follows E (Progress.Beside v) (s.joinsClause select) (t.joinsClause select)
      (Same (Progress.Beside v)) := by
  have himplied : Follows E (Progress.Beside v) s.impliedJoins t.impliedJoins
      (Same (Progress.Beside v)) := by
    apply (binding.note _).next
    intro _ _ _
    apply Follows.of_lockstep
    intro p q hpq
    obtain ⟨hjoins, hstate⟩ := h.resolver.joins hpq.state
    exact .ok ⟨hjoins, hstate, hpq.pending, hpq.bound⟩
  apply himplied.nextSame
  intro implied
  exact (Follows.mapM h.join _).nextSame fun _ => .ends rfl

theorem groupsClause (groups : List String) :
    Follows E (Progress.Beside v) (s.groupsClause groups) (t.groupsClause groups)
      (Same (Progress.Beside v)) := by
  rw [Scope.groupsClause, Scope.groupsClause]
  split
  · exact .ends rfl
  · exact (Follows.mapM h.column _).nextSame fun _ => .ends rfl

theorem ordersClause (orders : List Order) :
    Follows E (Progress.Beside v) (s.ordersClause orders) (t.ordersClause orders)
      (Same (Progress.Beside v)) := by
  have horder (o : Order) : Follows E (Progress.Beside v) (s.order o) (t.order o)
      (Same (Progress.Beside v)) := (h.column _).nextSame fun _ => .ends rfl
  rw [Scope.ordersClause, Scope.ordersClause]
  split
  · exact .ends rfl
  · exact (Follows.mapM horder _).nextSame fun _ => .ends rfl

theorem lockClause (select : Select Query) : s.lockClause select = t.lockClause select := by
  have hlock (mode : Option LockMode) : s.lockSql mode = t.lockSql mode := by
    cases mode with
    | none => rfl
    | some mode => cases mode <;> simp only [lockSql, h.platform]
  rw [Scope.lockClause, Scope.lockClause, hlock]

theorem assigned (type : Option TypeName) (converted : Bool) (o : Operand Query) :
    Follows E (Progress.Beside v) (s.assigned type converted o) (t.assigned type converted o)
      (Same (Progress.Beside v)) := by
  cases o with
  | value value => exact (h.bind _ _ value).next fun _ _ _ => .ends rfl
  | query q => exact (h.query q).nextSame fun _ => .ends rfl
  | fragment f => exact h.fragment f
  | transformer _ => exact .throw

theorem assignment (a : Assignment Query) :
    Follows E (Progress.Beside v) (s.assignment a) (t.assignment a)
      (Same (Progress.Beside v)) := by
  obtain ⟨column, operand, type⟩ := a
  apply (consult (h.resolver.field column type)).nextSame
  intro field
  have hquote := h.quote field.name
  cases operand with
  | transformer transform =>
    simp only [h.platform]
    apply (binding.ask _ (.inr rfl)).nextSame
    intro r
    exact (h.assigned _ _ _).nextSame fun _ => .ends (by rw [hquote])
  | _ => exact (h.assigned _ _ _).nextSame fun _ => .ends (by rw [hquote])

theorem projectedColumns? (q : Query) : s.projectedColumns? q = t.projectedColumns? q := by
  simp only [Scope.projectedColumns?, h.quote]

theorem insertRows (source : InsertSource Query) :
    Follows E (Progress.Beside v) (s.insertRows source) (t.insertRows source)
      (Same (Progress.Beside v)) := by
  cases source with
  | assignments items =>
    simp only [Scope.insertRows, h.platform]
    split
    · exact .ends rfl
    · exact (Follows.mapM h.assignment _).nextSame fun _ => .ends rfl
  | query q => exact (h.query q).nextSame fun _ => .ends (by rw [h.projectedColumns?])

section Mutation

variable (htarget : ∀ kind u, Follows E (Progress.Beside v) (s.target kind u) (t.target kind u)
  (Same (Progress.Beside v)))

include htarget

theorem insert (insert : Insert Query) :
    Follows E (Progress.Beside v) (s.insert insert) (t.insert insert)
      (Same (Progress.Beside v)) := by
  apply (htarget _ _).nextSame
  intro table
  apply (h.insertRows insert.source).nextSame
  intro rows
  exact .ends (by rw [insertVerb, insertVerb, h.platform])

theorem update (update : Update Query) :
    Follows E (Progress.Beside v) (s.update update) (t.update update)
      (Same (Progress.Beside v)) := by
  apply (htarget _ _).nextSame
  intro table
  simp only
  split
  · exact .throw
  · apply (Follows.mapM h.assignment _).nextSame
    intro pairs
    exact (h.conditionsAfter _ _).nextSame fun _ => .ends rfl

theorem delete (delete : Delete Query) :
    Follows E (Progress.Beside v) (s.delete delete) (t.delete delete)
      (Same (Progress.Beside v)) := by
  apply (htarget _ _).nextSame
  intro table
  exact (h.conditionsAfter _ _).nextSame fun _ => .ends rfl

end Mutation

end Scope.Beside

theorem Scope.beside_of_query {E : CompileError → Prop} {v : σ → τ → Prop} {s : Scope σ}
    {t : Scope τ} (hplatform : s.platform = t.platform) (hquoted : s.quoted = t.quoted)
    (hdatabase : s.database = t.database)
    (htypes : ∀ declared value, Upheld E (s.compiler.types.scalar declared value)
      (t.compiler.types.scalar declared value))
    (hgrowth : s.compiler.limits.growth = t.compiler.limits.growth)
    (hresolver : s.compiler.resolver.Beside E v t.compiler.resolver)
    (htable : ∀ u, Follows E v (s.compiler.resolver.table u) (t.compiler.resolver.table u)
      (Same v))
    (hquery : ∀ q, Follows E (Progress.Beside v) (s.query q) (t.query q)
      (Same (Progress.Beside v))) :
    s.Beside E v t := by
  have hquote (name : String) : s.quote name = t.quote name := by
    rw [Scope.quote, Scope.quote, hplatform, hquoted]
  refine ⟨hplatform, hquoted, htypes, hgrowth, hresolver, fun u => ?_, hquery⟩
  have hsource (source : TableSource Query) : Follows E (Progress.Beside v)
      (s.source source) (t.source source) (Same (Progress.Beside v)) := by
    cases source with
    | name name =>
      refine .ends ?_
      simp only [Scope.tableName, hdatabase, hquote]
    | query q => exact (hquery q).nextSame fun _ => .ends rfl
  have haliased (label : Option String) : s.aliased " " label = t.aliased " " label := by
    cases label with
    | none => rfl
    | some name => rw [Scope.aliased, Scope.aliased, hquote]
  apply (Progress.Beside.consult (htable u)).nextSame
  intro resolved
  apply (hsource resolved.source).nextSame
  intro sql
  exact .ends (by rw [haliased])

/-- Two scopes of the same settings that compile nested queries to the same, unless the first is
given up, and whose resolvers answer alike for tables too. -/
theorem Scope.beside_of_nested {E : CompileError → Prop} {v : σ → τ → Prop} {s : Scope σ}
    {t : Scope τ} (hconnection : s.compiler.connection = t.compiler.connection)
    (hplatform : s.platform = t.platform) (hquoted : s.quoted = t.quoted)
    (hdatabase : s.database = t.database)
    (htypes : ∀ declared value, Upheld E (s.compiler.types.scalar declared value)
      (t.compiler.types.scalar declared value))
    (hgrowth : s.compiler.limits.growth = t.compiler.limits.growth)
    (hresolver : s.compiler.resolver.Beside E v t.compiler.resolver)
    (htable : ∀ u, Follows E v (s.compiler.resolver.table u) (t.compiler.resolver.table u)
      (Same v))
    (hnested : ∀ d q, (s.nested d q).UpTo E (t.nested d q)) :
    s.Beside E v t := by
  apply beside_of_query hplatform hquoted hdatabase htypes hgrowth hresolver htable
  intro q
  have hd : t.databaseOf q = s.databaseOf q := by
    simp only [Scope.databaseOf, hdatabase, hconnection, hplatform]
  apply Progress.Beside.binding.query
  rw [hd]
  cases s.databaseOf q with
  | ok d => exact .inl ⟨d, d, rfl, rfl, hnested d q⟩
  | error e => exact .inr ⟨e, rfl, rfl⟩

theorem Resolver.Beside.refl {E : CompileError → Prop} (r : Resolver σ) : r.Beside E Eq r where
  start := rfl
  select _ := .refl
  insert _ := .refl
  update _ := .refl
  delete _ := .refl
  field _ _ := .refl
  root h := h ▸ rfl
  condition _ := .refl
  joins h := h ▸ ⟨rfl, rfl⟩

theorem Scope.beside_of_upTo {E : CompileError → Prop} (c : Compiler σ) (quoted : Bool)
    (database : Option String) {nested nested' : Option String → Query → Compilation}
    (h : ∀ d q, (nested d q).UpTo E (nested' d q)) :
    Scope.Beside E Eq ⟨c, quoted, database, nested⟩ ⟨c, quoted, database, nested'⟩ :=
  beside_of_nested rfl rfl rfl rfl (fun _ _ => .inr rfl) rfl (.refl _) (fun _ => .refl) h

theorem Scope.target_beside {E : CompileError → Prop} {P : Progress σ → Progress τ → Prop}
    {s : Scope σ} {t : Scope τ} (hname : ∀ name, s.tableName name = t.tableName name)
    (hresolve : ∀ u, Follows E P (s.resolveTable u) (t.resolveTable u) (Same P))
    (kind : StatementKind) (u : Option (TableRef Query)) :
    Follows E P (s.target kind u) (t.target kind u) (Same P) := by
  cases u with
  | none => exact .throw
  | some u =>
    apply (hresolve u).nextSame
    intro resolved
    cases resolved.source with
    | query _ => exact .throw
    | name name =>
      simp only [hname]
      split
      · exact .throw
      · exact .ends rfl

open Assemble in
theorem Scope.Beside.works {E : CompileError → Prop} {v : σ → τ → Prop} {s : Scope σ}
    {t : Scope τ} (h : s.Beside E v t) (select : Select Query) :
    WorksBeside E (Progress.Beside v) (s.works select) (t.works select) := by
  simp only [Scope.works, Scope.body, List.cons_append, List.nil_append]
  refine .cons ⟨rfl, h.columnsClause select⟩ ?_
  refine .cons ⟨rfl, h.tablesClause _⟩ ?_
  refine .cons ⟨rfl, h.groupsClause _⟩ ?_
  refine .cons ⟨rfl, h.conditionsAfter _ _⟩ ?_
  refine .cons ⟨rfl, h.ordersClause _⟩ ?_
  refine .cons ⟨rfl, h.conditionsAfter _ _⟩ ?_
  refine .cons ⟨rfl, h.joinsClause select⟩ ?_
  exact .cons ⟨rfl, .ends (h.lockClause select)⟩ .nil

open Assemble in
/-- A SELECT is assembled in both scopes to the same. -/
theorem Scope.Beside.select {E : CompileError → Prop} {v : σ → τ → Prop} {s : Scope σ}
    {t : Scope τ} (h : s.Beside E v t) (select : Select Query) :
    Follows E (Assembly.Beside (Progress.Beside v)) (s.select select) (t.select select)
      (Same (Assembly.Beside (Progress.Beside v))) := by
  refine select_beside Progress.Beside.binding (h.works select) fun cache => ?_
  rw [selectSql, selectSql, h.platform]

theorem Scope.Beside.within {α : Type} {E : CompileError → Prop} {v : σ → τ → Prop} {s : Scope σ}
    {t : Scope τ} (h : s.Beside E v t) (kind : StatementKind) (cache : Cache) {prepare : Hook σ α}
    {prepare' : Hook τ α} (hprepare : Follows E v prepare prepare' (Same v))
    {assemble : α → Assemble σ String} {assemble' : α → Assemble τ String}
    (hassemble : ∀ a, Follows E (Assembly.Beside (Progress.Beside v)) (assemble a) (assemble' a)
      (Same (Assembly.Beside (Progress.Beside v)))) :
    (Compiler.within s kind cache prepare assemble).UpTo E
      (Compiler.within t kind cache prepare' assemble') := by
  apply Compiler.within_beside (P := Progress.Beside v) kind cache h.resolver.start
  · exact fun _ _ _ _ hxy => ⟨hxy, rfl, rfl⟩
  · exact hprepare
  · rintro a _ rfl
    exact hassemble a

/-- Compiles a statement that changes tables, in a scope. -/
def Scope.mutation (s : Scope σ) (kind : StatementKind) (q : Query) : Compilation :=
  match q.statement with
  | .insert insert =>
    Compiler.within s .insert q.cache (s.compiler.resolver.insert insert) fun insert =>
      Assemble.segment .whole false (s.insert insert)
  | .update update =>
    Compiler.within s .update q.cache (s.compiler.resolver.update update) fun update =>
      Assemble.segment .whole false (s.update update)
  | .delete delete =>
    Compiler.within s .delete q.cache (s.compiler.resolver.delete delete) fun delete =>
      Assemble.segment .whole false (s.delete delete)
  | .select _ => ⟨.error (Compiler.mismatch kind .select), q.cache, []⟩

theorem Scope.Beside.mutation {E : CompileError → Prop} {v : σ → τ → Prop} {s : Scope σ}
    {t : Scope τ} (h : s.Beside E v t)
    (htarget : ∀ kind u, Follows E (Progress.Beside v) (s.target kind u) (t.target kind u)
      (Same (Progress.Beside v))) (kind : StatementKind) (q : Query) :
    (s.mutation kind q).UpTo E (t.mutation kind q) := by
  have hwhole {f : Render σ String} {g : Render τ String}
      (hfg : Follows E (Progress.Beside v) f g (Same (Progress.Beside v))) :=
    Assemble.segment_beside Progress.Beside.binding .whole false hfg
  rw [Scope.mutation, Scope.mutation]
  cases q.statement with
  | select _ => exact .refl _
  | insert s =>
    exact h.within .insert q.cache (h.resolver.insert s) fun s => hwhole (h.insert htarget s)
  | update s =>
    exact h.within .update q.cache (h.resolver.update s) fun s => hwhole (h.update htarget s)
  | delete s =>
    exact h.within .delete q.cache (h.resolver.delete s) fun s => hwhole (h.delete htarget s)

end ParamSql
