import ParamSql.Proofs.Embedded

namespace ParamSql

variable {σ : Type}

namespace Compiler

/-- What nested queries are compiled to, in place of what they come to. -/
abbrev Alteration : Type :=
  Query → Compilation → Compilation

/-- Compiles a SELECT with the compilations of the queries nested in it altered. -/
def selectAltered (c : Compiler σ) (alter : Alteration) :
    Nat → Option String → Query → Compilation
  | 0, _, q => ⟨.error (.exceeded .nesting), q.cache, []⟩
  | n + 1, database, q =>
    c.attempt .select q fun q =>
      match q.statement with
      | .select select =>
        match select.derivedAggregate? with
        | some a => c.derived q select a (c.selectAltered alter n database)
        | none =>
          let scope : Scope σ :=
            ⟨c, q.quoted, database, fun d r => alter r (c.selectAltered alter n d r)⟩
          within scope .select q.cache (c.resolver.select select) scope.select
      | statement => ⟨.error (mismatch .select statement.kind), q.cache, []⟩

/-- Compiles a statement that changes tables, with the compilations of nested queries altered. -/
def mutationAltered (c : Compiler σ) (alter : Alteration) (kind : StatementKind) (q : Query) :
    Compilation :=
  c.attempt kind q fun q =>
    let scope : Scope σ :=
      ⟨c, q.quoted, none, fun d r => alter r (c.selectAltered alter c.limits.nesting d r)⟩
    match q.statement with
    | .insert s =>
      within scope .insert q.cache (c.resolver.insert s) fun s =>
        Assemble.segment .whole false (scope.insert s)
    | .update s =>
      within scope .update q.cache (c.resolver.update s) fun s =>
        Assemble.segment .whole false (scope.update s)
    | .delete s =>
      within scope .delete q.cache (c.resolver.delete s) fun s =>
        Assemble.segment .whole false (scope.delete s)
    | .select _ => ⟨.error (mismatch kind .select), q.cache, []⟩

/-- Compiles a query with the compilations of nested queries altered, at all depths. -/
def compileAltered (c : Compiler σ) (alter : Alteration) (q : Query) :
    Except CompileError Compiled :=
  match q.statement.kind with
  | .select => (c.selectAltered alter c.limits.nesting none q).outcome
  | kind => (c.mutationAltered alter kind q).outcome

/-- Whether a nested query is rendered: it matters what it is compiled to. -/
def Renders (c : Compiler σ) (q r : Query) : Prop :=
  ∃ alter : Alteration, (∀ other, other ≠ r → ∀ done, alter other done = done) ∧
    c.compileAltered alter q ≠ (c.compile q).result

/-- A query that may stand in others: not bound, or bound to a connection of the compiler's name or
of its platform. -/
def Admits (c : Compiler σ) (r : Query) : Prop :=
  ∀ k ∈ r.connection, k.name = c.connection.name ∨ k.platform = c.platform.name

variable {c : Compiler σ} {alter : Alteration} {q r : Query}

theorem databaseOf_of_not_admits {s : Scope σ} (hc : s.compiler = c) (hr : ¬ c.Admits r) :
    ∃ e, s.databaseOf r = .error e := by
  subst hc
  unfold Scope.databaseOf
  cases hk : r.connection with
  | none => exact absurd (fun k hk' => by rw [hk] at hk'; cases hk') hr
  | some k =>
    have hforeign : ¬(k.name = s.compiler.connection.name ∨ k.platform = s.platform.name) := by
      intro hor
      refine hr fun k' hk' => ?_
      rw [hk, Option.mem_some_iff] at hk'
      exact hk' ▸ hor
    obtain ⟨hname, hplatform⟩ := not_or.1 hforeign
    exact ⟨_, (if_neg hname).trans (if_neg hplatform)⟩

/-- A scope beside the one in which what may not stand in others is altered. -/
theorem scope_altered (halter : ∀ r, c.Admits r → ∀ done, alter r done = done) (quoted : Bool)
    (database : Option String) {nested nested' : Option String → Query → Compilation}
    (hnested : ∀ d r, (nested d r).UpTo (fun _ => False) (nested' d r)) :
    Scope.Beside (fun _ => False) Eq (⟨c, quoted, database, nested⟩ : Scope σ)
      ⟨c, quoted, database, fun d r => alter r (nested' d r)⟩ := by
  refine Scope.beside_of_query rfl rfl rfl (fun _ _ => .inr rfl) rfl (.refl _) (fun _ => .refl)
    fun r => ?_
  apply Progress.Beside.binding.query
  by_cases hr : c.Admits r
  · have hsame : Scope.databaseOf ⟨c, quoted, database, fun d r => alter r (nested' d r)⟩ r =
        Scope.databaseOf ⟨c, quoted, database, nested⟩ r := rfl
    rw [hsame]
    cases Scope.databaseOf ⟨c, quoted, database, nested⟩ r with
    | ok d =>
      refine .inl ⟨d, d, rfl, rfl, ?_⟩
      simp only [halter r hr]
      exact hnested d r
    | error e => exact .inr ⟨e, rfl, rfl⟩
  · obtain ⟨e, he⟩ := databaseOf_of_not_admits
      (s := ⟨c, quoted, database, nested⟩) rfl hr
    exact .inr ⟨e, he, he⟩

theorem selectIn_altered (halter : ∀ r, c.Admits r → ∀ done, alter r done = done) (n : Nat)
    (database : Option String) (q : Query) :
    (c.selectIn n database q).UpTo (fun _ => False) (c.selectAltered alter n database q) := by
  induction n generalizing database q with
  | zero => exact .refl _
  | succ n ih =>
    rw [selectIn, selectAltered]
    apply attempt_beside rfl rfl
    intro _ _
    cases q.statement with
    | select select =>
      simp only
      cases select.derivedAggregate? with
      | some a => exact derived_beside rfl rfl a (ih database _)
      | none =>
        have hscope := scope_altered halter q.quoted database ih
        exact hscope.within .select q.cache .refl hscope.select
    | _ => exact .refl _

theorem mutationIn_altered (halter : ∀ r, c.Admits r → ∀ done, alter r done = done)
    (kind : StatementKind) (q : Query) :
    (c.mutationIn kind q).UpTo (fun _ => False) (c.mutationAltered alter kind q) := by
  have hscope := scope_altered halter q.quoted none (selectIn_altered halter c.limits.nesting)
  have htarget (kind : StatementKind) (u : Option (TableRef Query)) :
      Follows (fun _ => False) (Progress.Beside Eq) ((c.scope q).target kind u)
        ((⟨c, q.quoted, none, fun d r => alter r (c.selectAltered alter c.limits.nesting d r)⟩ :
          Scope σ).target kind u) (Same (Progress.Beside Eq)) :=
    Scope.target_beside (fun _ => rfl) (fun u => Progress.Beside.consult .refl) kind u
  apply attempt_beside rfl rfl
  intro _ _
  exact hscope.mutation htarget kind q

/-- It does not matter what queries that may not stand in others are compiled to. -/
theorem compileAltered_eq (halter : ∀ r, c.Admits r → ∀ done, alter r done = done) (q : Query) :
    c.compileAltered alter q = (c.compile q).result := by
  rw [compile_result, compileAltered]
  cases q.statement.kind with
  | select => exact (selectIn_altered halter c.limits.nesting none q).outcome.symm
  | insert => exact (mutationIn_altered halter .insert q).outcome.symm
  | update => exact (mutationIn_altered halter .update q).outcome.symm
  | delete => exact (mutationIn_altered halter .delete q).outcome.symm

/-- Every query that is rendered as part of another, at any depth and in any position, is not bound,
or bound to a connection of the compiler's name or of its platform. -/
theorem admits_of_renders (h : c.Renders q r) : c.Admits r := by
  obtain ⟨alter, hothers, hmatters⟩ := h
  by_contra hr
  refine hmatters (compileAltered_eq (fun other hother done => hothers other ?_ done) q)
  rintro rfl
  exact hr hother

/-- Another connection of the same platform. -/
def archive : Connection :=
  ⟨"archive", "mysql", some "archive_db"⟩

/-- Users in the logs of the archive. -/
def loggedUsers : Query :=
  .valuesOf "user_id" "logs" (some archive) []

theorem compileAltered_usersWithin {r : Query} (hr : r.connection = some archive)
    {e : CompileError} (halter : ∀ done, alter r done = ⟨.error e, {}, []⟩) :
    (ofDialect .mysql).compileAltered alter (.usersWithin r) = .error e := by
  obtain ⟨statement, connection, quoted, cache⟩ := r
  obtain rfl : connection = some archive := hr
  change (selectAltered _ alter (999 + 1) none _).outcome = _
  generalize 999 = n
  rw [selectAltered]
  -- The evaluation stops where it would have to know the altered compilation.
  cbv
  simp only [archive] at halter
  simp only [halter]
  rfl

open Classical in
theorem renders_loggedUsers :
    (ofDialect .mysql).Renders (.usersWithin loggedUsers) loggedUsers ∧
      (ofDialect .mysql).Admits loggedUsers := by
  have hrenders : (ofDialect .mysql).Renders (.usersWithin loggedUsers) loggedUsers := by
    refine ⟨fun other done => if other = loggedUsers then ⟨.error (.exceeded .nesting), {}, []⟩
      else done, fun other hother done => if_neg hother, ?_⟩
    rw [compileAltered_usersWithin rfl fun done => if_pos rfl]
    have hcompile : ((ofDialect .mysql).compile (.usersWithin loggedUsers)).result =
        .ok ⟨"SELECT users.* FROM users WHERE id IN " ++
          "(SELECT user_id FROM archive_db.logs)", []⟩ := by
      cbv
    rw [hcompile]
    intro hsame
    cases hsame
  exact ⟨hrenders, admits_of_renders hrenders⟩

end Compiler

end ParamSql
