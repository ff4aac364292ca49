import ParamSql.Proofs.Beside

namespace ParamSql

variable {σ : Type}

/-- A table named by itself, with the database it is in. Names that are dotted stay. -/
def TableRef.placed (database : Option String) (t : TableRef Query) : TableRef Query :=
  match database, t.source with
  | some d, .name name =>
    if name.toList.contains '.' then t else { t with source := .name (d ++ "." ++ name) }
  | _, _ => t

/-- The resolver that places each table after the hook for tables. -/
def Resolver.placing (r : Resolver σ) (database : Option String) : Resolver σ :=
  { r with table := fun t => TableRef.placed database <$> r.table t }

namespace Compiler

/-- The compiler that writes a database before each table that has none. -/
def placing (c : Compiler σ) (database : Option String) : Compiler σ :=
  { c with resolver := c.resolver.placing database }

/-- A scope that knows no database of its own; its tables are placed in the given one. -/
def placedScope (c : Compiler σ) (database : Option String) (quoted : Bool)
    (nested : Query → Compilation) : Scope σ :=
  ⟨c.placing database, quoted, none, fun _ => nested⟩

/-- Compiles a SELECT inside the queries of a path, innermost first. Its tables are placed by the
path; which databases nested queries are compiled for plays no part. -/
def selectPlaced (c : Compiler σ) (place : List Query → Option String) :
    Nat → List Query → Query → Compilation
  | 0, _, q => ⟨.error (.exceeded .nesting), q.cache, []⟩
  | n + 1, path, q =>
    c.attempt .select q fun q =>
      match q.statement with
      | .select select =>
        match select.derivedAggregate? with
        | some a => c.derived q select a (c.selectPlaced place n path)
        | none =>
          let scope := c.placedScope (place path) q.quoted fun r =>
            c.selectPlaced place n (r :: path) r
          within scope .select q.cache (c.resolver.select select) scope.select
      | statement => ⟨.error (mismatch .select statement.kind), q.cache, []⟩

/-- Compiles a statement that changes tables, with the tables of nested queries placed. -/
def mutationPlaced (c : Compiler σ) (place : List Query → Option String) (kind : StatementKind)
    (q : Query) : Compilation :=
  c.attempt kind q fun q =>
    let scope := c.placedScope (place []) q.quoted fun r =>
      c.selectPlaced place c.limits.nesting [r] r
    match q.statement with
    | .insert s =>
      within scope .insert q.cache (c.resolver.insert s) fun s =>
        Assemble.segment .whole false (scope.insert s)
    | .update s =>
      within scope .update q.cache (c.resolver.update s) fun s =>
        Assemble.segment .whole false (scope.update s)
    | .delete s =>
      within scope .delete q.cache (c.resolver.delete s) fun s =>
        Assemble.segment .whole false (scope.delete s)
    | .select _ => ⟨.error (mismatch kind .select), q.cache, []⟩

/-- Compiles a query with the tables of nested queries placed by the queries around them. -/
def compilePlaced (c : Compiler σ) (place : List Query → Option String) (q : Query) :
    Except CompileError Compiled :=
  match q.statement.kind with
  | .select => (c.selectPlaced place c.limits.nesting [] q).outcome
  | kind => (c.mutationPlaced place kind q).outcome

/-- Whether a connection is another one than the compiler's. -/
def isForeign (c : Compiler σ) (k : Connection) : Bool :=
  k.name ≠ c.connection.name

/-- The database of the nearest query that is bound to another connection. -/
def nearestForeign (c : Compiler σ) (path : List Query) : Option String :=
  ((path.filterMap Query.connection).find? c.isForeign).bind Connection.database

/-- The database of the nearest query that is bound to any connection, if that is another one. -/
def nearestBound (c : Compiler σ) (path : List Query) : Option String :=
  ((path.filterMap Query.connection).head?.filter c.isForeign).bind Connection.database

variable {c : Compiler σ} {path : List Query} {q r : Query}

theorem databaseOf_nearestForeign {s : Scope σ} (hc : s.compiler = c)
    (hs : s.database = c.nearestForeign path) {d : Option String} (hd : s.databaseOf r = .ok d) :
    d = c.nearestForeign (r :: path) := by
  subst hc
  rw [nearestForeign, List.filterMap_cons]
  unfold Scope.databaseOf at hd
  revert hd
  cases r.connection with
  | none =>
    intro hd
    rw [← Except.ok.inj hd]
    exact hs
  | some k =>
    simp only [List.find?_cons, isForeign]
    by_cases hname : k.name = s.compiler.connection.name
    · rw [if_pos hname]
      intro hd
      rw [← Except.ok.inj hd]
      simp only [hname, ne_eq, not_true_eq_false, decide_false]
      exact hs
    · rw [if_neg hname]
      split
      · intro hd
        rw [← Except.ok.inj hd]
        simp [hname]
      · exact nofun

theorem databaseOf_cases {s t : Scope σ}
    (hconnection : s.compiler.connection = t.compiler.connection)
    (hplatform : s.platform = t.platform) (r : Query) :
    (∃ d d', s.databaseOf r = .ok d ∧ t.databaseOf r = .ok d') ∨
      ∃ e, s.databaseOf r = .error e ∧ t.databaseOf r = .error e := by
  unfold Scope.databaseOf
  rw [hconnection, hplatform]
  cases r.connection with
  | none => exact .inl ⟨_, _, rfl, rfl⟩
  | some k =>
    simp only
    split
    · exact .inl ⟨_, _, rfl, rfl⟩
    · split
      · exact .inl ⟨_, _, rfl, rfl⟩
      · exact .inr ⟨_, rfl, rfl⟩

/-- Tables are named in a scope as they are placed in a scope without a database. -/
theorem source_placed {quoted : Bool} {d : Option String}
    {nested : Option String → Query → Compilation} {nested' : Query → Compilation}
    (t : TableRef Query)
    (hquery : ∀ r, Follows (fun _ => False) (Progress.Beside Eq)
      ((⟨c, quoted, d, nested⟩ : Scope σ).query r) ((c.placedScope d quoted nested').query r)
      (Same (Progress.Beside Eq))) :
    Follows (fun _ => False) (Progress.Beside Eq)
      ((⟨c, quoted, d, nested⟩ : Scope σ).source t.source)
      ((c.placedScope d quoted nested').source (t.placed d).source)
      (Same (Progress.Beside Eq)) := by
  obtain ⟨source, label⟩ := t
  cases source with
  | query r =>
    have hplaced : (TableRef.mk (.query r) label).placed d = ⟨.query r, label⟩ := by
      cases d <;> rfl
    rw [hplaced]
    exact (hquery r).nextSame fun _ => .ends rfl
  | name name =>
    cases d with
    | none => exact .ends rfl
    | some d =>
      simp only [TableRef.placed]
      split
      · rename_i hdotted
        exact .ends (by simp only [Scope.tableName, hdotted]; rfl)
      · rename_i hdotted
        exact .ends (by simp only [Scope.tableName, hdotted]; rfl)

theorem label_placed (d : Option String) (t : TableRef Query) : (t.placed d).label = t.label := by
  obtain ⟨source, label⟩ := t
  cases d with
  | none => rfl
  | some d =>
    cases source with
    | query r => rfl
    | name name =>
      simp only [TableRef.placed]
      split <;> rfl

theorem resolveTable_placed {s t : Scope σ} {d : Option String}
    (ht : t.compiler.resolver = s.compiler.resolver.placing d) (u : TableRef Query) :
    Follows (fun _ => False) (Progress.Beside Eq) (s.resolveTable u) (t.resolveTable u)
      (Ends (fun a b => b = a.placed d) (Progress.Beside Eq)) := by
  rw [Scope.resolveTable, Scope.resolveTable, ht]
  apply Progress.Beside.consult
  apply Follows.of_lockstep
  rintro x _ rfl
  simp only [Resolver.placing]
  change InStep True _ _ (EStateM.map _ _ x)
  unfold EStateM.map
  cases s.compiler.resolver.table u x with
  | ok a y => exact .ok ⟨rfl, rfl⟩
  | error e y => exact .error fun _ => rfl

theorem placing_beside {E : CompileError → Prop} (r : Resolver σ) (d : Option String) :
    r.Beside E Eq (r.placing d) where
  start := rfl
  select _ := .refl
  insert _ := .refl
  update _ := .refl
  delete _ := .refl
  field _ _ := .refl
  root h := h ▸ rfl
  condition _ := .refl
  joins h := h ▸ ⟨rfl, rfl⟩

theorem scope_placed {n : Nat} (quoted : Bool) (path : List Query)
    (hn : ∀ path r, (c.selectIn n (c.nearestForeign path) r).UpTo (fun _ => False)
      (c.selectPlaced c.nearestForeign n path r)) :
    Scope.Beside (fun _ => False) Eq (⟨c, quoted, c.nearestForeign path, c.selectIn n⟩ : Scope σ)
      (c.placedScope (c.nearestForeign path) quoted fun r =>
        c.selectPlaced c.nearestForeign n (r :: path) r) := by
  have hquery (r : Query) : Follows (fun _ => False) (Progress.Beside Eq)
      ((⟨c, quoted, c.nearestForeign path, c.selectIn n⟩ : Scope σ).query r)
      ((c.placedScope (c.nearestForeign path) quoted fun r =>
        c.selectPlaced c.nearestForeign n (r :: path) r).query r)
      (Same (Progress.Beside Eq)) := by
    apply Progress.Beside.binding.query
    have hcases := databaseOf_cases
      (s := ⟨c, quoted, c.nearestForeign path, c.selectIn n⟩)
      (t := c.placedScope (c.nearestForeign path) quoted fun r =>
        c.selectPlaced c.nearestForeign n (r :: path) r) rfl rfl r
    rcases hcases with ⟨d, d', hd, hd'⟩ | herror
    · have hnested := hn (r :: path) r
      rw [← databaseOf_nearestForeign rfl rfl hd] at hnested
      exact .inl ⟨d, d', hd, hd', hnested⟩
    · exact .inr herror
  refine ⟨rfl, rfl, fun _ _ => .inr rfl, rfl, placing_beside _ _, fun u => ?_, hquery⟩
  apply (resolveTable_placed rfl u).next
  rintro resolved _ rfl
  apply (source_placed resolved hquery).nextSame
  intro sql
  rw [label_placed]
  exact .ends rfl

/-- A SELECT inside the queries of a path is compiled for the database that the path tells. -/
theorem selectIn_placed (n : Nat) (path : List Query) (q : Query) :
    (c.selectIn n (c.nearestForeign path) q).UpTo (fun _ => False)
      (c.selectPlaced c.nearestForeign n path q) := by
  -- The rows of an aggregate stay in the same place, so the path is general and not the database.
  induction n generalizing path q with
  | zero => exact .refl _
  | succ n ih =>
    rw [selectIn, selectPlaced]
    apply attempt_beside rfl rfl
    intro _ _
    cases q.statement with
    | select select =>
      simp only
      cases select.derivedAggregate? with
      | some a => exact derived_beside rfl rfl a (ih path _)
      | none =>
        have hscope := scope_placed q.quoted path ih
        exact hscope.within .select q.cache .refl hscope.select
    | _ => exact .refl _

theorem target_placed {quoted : Bool} {nested : Option String → Query → Compilation}
    {nested' : Query → Compilation} (kind : StatementKind) (u : Option (TableRef Query)) :
    Follows (fun _ => False) (Progress.Beside Eq)
      ((⟨c, quoted, none, nested⟩ : Scope σ).target kind u)
      ((c.placedScope none quoted nested').target kind u) (Same (Progress.Beside Eq)) := by
  apply Scope.target_beside
  · exact fun _ => rfl
  · intro u
    apply (resolveTable_placed (d := none) rfl u).mono fun _ _ => id
    rintro resolved _ p q ⟨rfl, hpq⟩
    exact ⟨rfl, hpq⟩

theorem mutationIn_placed (kind : StatementKind) (q : Query) :
    (c.mutationIn kind q).UpTo (fun _ => False) (c.mutationPlaced c.nearestForeign kind q) := by
  have hscope := scope_placed (c := c) q.quoted [] (selectIn_placed c.limits.nesting)
  apply attempt_beside rfl rfl
  intro _ _
  exact hscope.mutation target_placed kind q

/-- Every query is compiled as with its tables placed, at every depth: in the database of the
nearest query that is bound to another connection than the compiler's. A query bound to the
compiler's own connection does not count, so its tables are looked for where the query around it
has its own. -/
theorem compile_eq_compilePlaced (c : Compiler σ) (q : Query) :
    (c.compile q).result = c.compilePlaced c.nearestForeign q := by
  rw [compile_result, compilePlaced]
  cases q.statement.kind with
  | select => exact (selectIn_placed c.limits.nesting [] q).outcome
  | insert => exact (mutationIn_placed .insert q).outcome
  | update => exact (mutationIn_placed .update q).outcome
  | delete => exact (mutationIn_placed .delete q).outcome

/-- Where the innermost bound query is bound to another connection, it is that one. -/
theorem nearestForeign_eq_nearestBound {c : Compiler σ} {path : List Query}
    (h : ∀ k ∈ (path.filterMap Query.connection).head?, c.isForeign k) :
    c.nearestForeign path = c.nearestBound path := by
  rw [nearestForeign, nearestBound]
  cases hbound : path.filterMap Query.connection with
  | nil => rfl
  | cons k rest =>
    have hk : c.isForeign k := h k (by rw [hbound]; rfl)
    rw [List.find?_cons, hk, List.head?_cons, Option.filter, if_pos hk]

end Compiler

/-- The values of a column of a table, maybe of another connection. -/
def Query.valuesOf (column table : String) (connection : Option Connection)
    (filters : List (Condition Query)) : Query :=
  { Query.ofStatement (.select { columns := [.named column], tables := [.table table], filters })
    with connection := connection }

/-- Users in the logs of an archive, of the teams of the connection `default`. -/
def Query.archivedUsers : Query :=
  let teams := valuesOf "id" "teams" (some ⟨"default", "mysql", some "main"⟩) []
  let logs := valuesOf "user_id" "logs" (some ⟨"archive", "mysql", some "archive_db"⟩)
    [.compare "team_id" "in" (.query teams)]
  .ofStatement <| .select
    { tables := [.table "users"], filters := [.compare "id" "in" (.query logs)] }

set_option maxRecDepth 2000 in
/-- The teams are of the compiler's own connection, but they are looked for in the archive. -/
theorem Compiler.compile_ne_compilePlaced_nearestBound :
    ((ofDialect .mysql).compile .archivedUsers).result ≠
      (ofDialect .mysql).compilePlaced (ofDialect .mysql).nearestBound .archivedUsers := by
  have hcompile : ((ofDialect .mysql).compile .archivedUsers).result =
      .ok ⟨"SELECT users.* FROM users WHERE id IN (SELECT user_id FROM archive_db.logs " ++
        "WHERE team_id IN (SELECT id FROM archive_db.teams))", []⟩ := by cbv
  have hplaced : (ofDialect .mysql).compilePlaced (ofDialect .mysql).nearestBound .archivedUsers =
      .ok ⟨"SELECT users.* FROM users WHERE id IN (SELECT user_id FROM archive_db.logs " ++
        "WHERE team_id IN (SELECT id FROM teams))", []⟩ := by cbv
  rw [hcompile, hplaced]
  simp

end ParamSql
