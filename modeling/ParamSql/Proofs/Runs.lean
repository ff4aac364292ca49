import ParamSql.Proofs.Respects
import ParamSql.Compile.Run

namespace ParamSql

/-- What may be done with a query: an edit, a compilation, or a compilation as of some kind. -/
inductive Step
  | edit (e : Edit)
  | compile
  | compileAs (kind : StatementKind)

/-- The query for the rows of a SELECT, bound as the given query is. -/
def Query.forRows (q : Query) (select : Select Query) : Query where
  statement := .select { select with aggregate := none }
  connection := q.connection
  quoted := q.quoted
  cache := {}

theorem Scope.query_eq {σ : Type} (s : Scope σ) (q : Query) (p : Progress σ) :
    s.query q p =
      match s.databaseOf q with
      | .error e => .error e p
      | .ok database =>
        match (s.nested database q).result with
        | .error e => .error e
          { p with journal := p.journal ++ (s.nested database q).journal }
        | .ok sql => .ok sql
          { p with
            journal := p.journal ++ (s.nested database q).journal
            bound := p.bound ++ (s.nested database q).cache.bindings } := by
  unfold Scope.query
  cases s.databaseOf q with
  | error e => rfl
  | ok database =>
    change EStateM.bind (Render.lift (s.nested database q).result) _ _ = _
    simp only
    cases (s.nested database q).result <;> rfl

namespace Compiler

variable {σ : Type} (c : Compiler σ)

/-- The query after a step, whether it succeeds or fails. -/
def step (q : Query) : Step → Query
  | .edit e => q.edit e
  | .compile => (c.compile q).query
  | .compileAs kind => (c.compileAs kind q).query

def run (q : Query) (steps : List Step) : Query :=
  steps.foldl c.step q

/-- What every edit and every compilation keeps, a run keeps. -/
theorem run_keeps {I : Query → Prop} (hedit : ∀ q e, I q → I (q.edit e))
    (hcompile : ∀ q kind, I q → I (c.compileAs kind q).query) {q : Query} (h : I q)
    (steps : List Step) : I (c.run q steps) := by
  induction steps generalizing q with
  | nil => exact h
  | cons step steps ih =>
    apply ih
    cases step with
    | edit e => exact hedit q e h
    | compile => exact hcompile q q.statement.kind h
    | compileAs kind => exact hcompile q kind h

variable {c} {kind : StatementKind} {q : Query} {work : Query → Compilation}

theorem attempt_of_ne (h : q.statement.kind ≠ kind) :
    c.attempt kind q work = ⟨.error (mismatch kind q.statement.kind), q.cache, []⟩ :=
  if_pos h

theorem attempt_of_compiled {sql : String} (h : q.statement.kind = kind)
    (hcompiled : q.cache.compiled = some sql) :
    c.attempt kind q work = ⟨.ok sql, q.cache, []⟩ := by
  rw [attempt, if_neg (fun hne => hne h), hcompiled]

theorem attempt_result (h : q.statement.kind = kind) (hcompiled : q.cache.compiled = none) :
    (c.attempt kind q work).result = (work q).result := by
  rw [attempt, if_neg (fun hne => hne h), hcompiled]
  simp only
  split <;> rfl

theorem attempt_cache (h : q.statement.kind = kind) (hcompiled : q.cache.compiled = none) :
    (c.attempt kind q work).cache =
      match (work q).result with
      | .ok sql => { (work q).cache with compiled := some sql }
      | .error _ => (work q).cache := by
  rw [attempt, if_neg (fun hne => hne h), hcompiled]
  cases hwork : (work q).result <;> simp only [hwork]

theorem derived_eq (c : Compiler σ) (q : Query) (select : Select Query) (a : Aggregate)
    (nested : Query → Compilation) :
    c.derived q select a nested =
      match (nested (q.forRows select)).result with
      | .error e => ⟨.error e, q.cache, (nested (q.forRows select)).journal⟩
      | .ok sql =>
        ⟨.ok ("SELECT " ++ c.platform.aggregate a.function "*" ++ " AS aggregate FROM (" ++ sql ++
            ") AS derived_query"),
          (q.cache.invalidate []).put .columns
            ⟨some ("SELECT " ++ c.platform.aggregate a.function "*" ++ " AS aggregate FROM (" ++
              sql ++ ") AS derived_query"), (nested (q.forRows select)).cache.bindings⟩,
          (nested (q.forRows select)).journal⟩ :=
  rfl

theorem within_eq {α : Type} (s : Scope σ) (kind : StatementKind) (cache : Cache)
    (prepare : Hook σ α) (assemble : α → Assemble σ String) :
    within s kind cache prepare assemble =
      match prepare s.compiler.resolver.start with
      | .error e x => close (.error e) ⟨{ cache with compiling := true },
          ⟨x, [], [], [.asked (.prepare kind), .refused e]⟩⟩
      | .ok t x =>
        match assemble t ⟨{ cache with compiling := true }, ⟨x, [], [],
          .asked (.prepare kind) :: Journal.ofLogs (Log.statement s.compiler.level kind)⟩⟩ with
        | .ok sql a => close (.ok sql) a
        | .error e a => close (.error e) a := by
  unfold within
  simp only
  change (match EStateM.bind (Assemble.render (Render.consult (.prepare kind) prepare))
      (fun t => EStateM.bind (Assemble.render (Render.log (Log.statement s.compiler.level kind)))
        fun _ => assemble t) _ with
    | .ok sql a => close (.ok sql) a
    | .error e a => close (.error e) a) = _
  unfold EStateM.bind Assemble.render
  rw [Render.consult_eq]
  cases prepare s.compiler.resolver.start with
  | ok t x => rfl
  | error e x => rfl

end Compiler

end ParamSql
