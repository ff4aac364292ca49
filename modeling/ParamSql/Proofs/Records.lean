import ParamSql.Proofs.Along
import ParamSql.Proofs.Memo
import ParamSql.Proofs.Runs

namespace ParamSql

variable {σ α β : Type}

/-- A question that is neither the first nor the last of a compilation. -/
def Call.isInner : Call → Bool
  | .prepare _ | .clear => false
  | _ => true

/-- What a stretch of a journal is about. -/
inductive Stretch
  /-- Steps between the start and the end of a compilation. -/
  | steps
  /-- The work of a compilation, without the word that it starts and the logs of its outcome. -/
  | work (kind : StatementKind)
  /-- A compilation, whether it is started or not. -/
  | whole (kind : StatementKind)

/-- What is logged when a compilation has succeeded, or failed with an error. -/
inductive Log.Closes (level : LogLevel) (kind : StatementKind) :
    Option CompileError → List LogEvent → Prop
  | success (sql : String) (scalars : List Scalar) :
    Closes level kind none (Log.success level kind sql scalars)
  | failure (e : CompileError) : Closes level kind (some e) (Log.failure level kind e.message)

/-- The journals of what ends with an error, or with none. -/
inductive Journal.Records (level : LogLevel) : Stretch → Option CompileError → Journal → Prop
  | nil : Records level .steps none []
  | failed (e : CompileError) : Records level .steps (some e) []
  | asked {call : Call} (h : call.isInner = true) : Records level .steps none [.asked call]
  | refused (e : CompileError) : Records level .steps (some e) [.refused e]
  | nested {e : Option CompileError} {j : Journal} :
    Records level (.whole .select) e j → Records level .steps e j
  | append {e : Option CompileError} {j k : Journal} :
    Records level .steps none j → Records level .steps e k → Records level .steps e (j ++ k)
  /-- The resolver refuses the statement. -/
  | unprepared (kind : StatementKind) (e : CompileError) :
    Records level (.work kind) (some e) [.asked (.prepare kind), .refused e, .asked .clear]
  | prepared (kind : StatementKind) {e : Option CompileError} {j : Journal} :
    Records level .steps e j → Records level (.work kind) e
      (.asked (.prepare kind) :: Journal.ofLogs (Log.statement level kind) ++ j ++ [.asked .clear])
  /-- An aggregate over distinct rows is the work of another compilation. -/
  | derived {e : Option CompileError} {j : Journal} :
    Records level (.whole .select) e j → Records level (.work .select) e j
  | unstarted (kind : StatementKind) (e : Option CompileError) : Records level (.whole kind) e []
  | started {kind : StatementKind} {e : Option CompileError} {j : Journal} {logs : List LogEvent} :
    Records level (.work kind) e j → Log.Closes level kind e logs →
      Records level (.whole kind) e (.started kind :: j ++ Journal.ofLogs logs)

/-- The error that a program ends with, if it fails. -/
def failure? {ε : Type} : EStateM.Result ε σ α → Option ε
  | .ok _ _ => none
  | .error e _ => some e

/-- The error in place of a result. -/
def error? {ε : Type} : Except ε α → Option ε
  | .ok _ => none
  | .error e => some e

/-- What a rendering adds to the journal is in the grammar, whether it succeeds or fails. -/
def Render.Recorded (level : LogLevel) (f : Render σ α) : Prop :=
  ∀ p, ∃ j, (endState (f p)).journal = p.journal ++ j ∧
    Journal.Records level .steps (failure? (f p)) j

/-- What an assembly adds to the journal is in the grammar. -/
def Assemble.Recorded (level : LogLevel) (f : Assemble σ α) : Prop :=
  ∀ a, ∃ j, (Assemble.endOf (f a)).progress.journal = a.progress.journal ++ j ∧
    Journal.Records level .steps (failure? (f a)) j

/-- The journal of a compilation is in the grammar, by its result. -/
def Compilation.Recorded (level : LogLevel) (stretch : Stretch) (done : Compilation) : Prop :=
  Journal.Records level stretch (error? done.result) done.journal

namespace Render

variable {level : LogLevel}

theorem recorded_pure (a : α) : Recorded level (Pure.pure a : Render σ α) :=
  fun _ => ⟨[], (List.append_nil _).symm, .nil⟩

theorem recorded_throw (e : CompileError) : Recorded level (MonadExcept.throw e : Render σ α) :=
  fun _ => ⟨[], (List.append_nil _).symm, .failed e⟩

theorem Recorded.bind {f : Render σ α} {k : α → Render σ β} (hf : f.Recorded level)
    (hk : ∀ a, (k a).Recorded level) : (f >>= k).Recorded level := by
  intro p
  obtain ⟨j, hj, hrecords⟩ := hf p
  cases hrun : f p with
  | error e q =>
    rw [hrun] at hj hrecords
    rw [bind_of_error hrun]
    exact ⟨j, hj, hrecords⟩
  | ok a q =>
    rw [hrun] at hj hrecords
    obtain ⟨i, hi, hnext⟩ := hk a q
    rw [bind_of_ok hrun]
    refine ⟨j ++ i, ?_, hrecords.append hnext⟩
    rw [hi, show q.journal = p.journal ++ j from hj, List.append_assoc]

theorem recorded_of_silent {f : Render σ α}
    (hf : ∀ p, ∃ a q, f p = .ok a q ∧ q.journal = p.journal) : f.Recorded level := by
  intro p
  obtain ⟨a, q, hrun, hq⟩ := hf p
  rw [hrun]
  exact ⟨[], by rw [List.append_nil]; exact hq, .nil⟩

theorem recorded_note {call : Call} (h : call.isInner = true) :
    Recorded level (note (.asked call) : Render σ Unit) :=
  fun _ => ⟨[.asked call], rfl, .asked h⟩

theorem recorded_heed (answer : Except CompileError α) :
    Recorded level (heed answer : Render σ α) := by
  cases answer with
  | ok a => exact recorded_pure a
  | error e => exact fun _ => ⟨[.refused e], rfl, .refused e⟩

theorem recorded_ask {call : Call} (h : call.isInner = true) (answer : Except CompileError α) :
    Recorded level (ask call answer : Render σ α) :=
  (recorded_note h).bind fun _ => recorded_heed answer

theorem recorded_consult {call : Call} (h : call.isInner = true) (hook : Hook σ α) :
    Recorded level (consult call hook) := by
  intro p
  rw [consult_eq]
  cases hook p.state with
  | ok a x => exact ⟨[.asked call], rfl, .asked h⟩
  | error e x =>
    exact ⟨[.asked call, .refused e], List.append_assoc .., .append (.asked h) (.refused e)⟩

end Render

namespace Assemble

variable {level : LogLevel} {work : Render σ String}

theorem recorded_clause (hwork : work.Recorded level) (cl : Clause) :
    (clause cl work).Recorded level := by
  intro a
  cases hkept : a.cache.isMissing cl with
  | false =>
    rw [clause_of_kept hkept]
    exact ⟨[], (List.append_nil _).symm, .nil⟩
  | true =>
    have hrun := hwork { a.progress with bound := [] }
    rw [clause_of_missing hkept]
    revert hrun
    cases work { a.progress with bound := [] } <;> exact id

theorem recorded_segment (hwork : work.Recorded level) (cl : Clause) (keep : Bool) :
    (Assemble.segment cl keep work).Recorded level := by
  intro a
  have hrun := hwork { a.progress with bound := [] }
  unfold Assemble.segment
  revert hrun
  cases work { a.progress with bound := [] } <;> exact id

theorem recorded_fill {works : List (Work σ)} (hworks : ∀ w ∈ works, w.2.Recorded level) :
    (fill works).Recorded level := by
  induction works with
  | nil => exact fun a => ⟨[], (List.append_nil _).symm, .nil⟩
  | cons w works ih =>
    intro a
    obtain ⟨j, hj, hrecords⟩ := recorded_clause (hworks w (List.mem_cons_self ..)) w.1 a
    rw [fill_cons]
    cases hfirst : clause w.1 w.2 a with
    | error e b =>
      rw [hfirst] at hj hrecords
      exact ⟨j, hj, hrecords⟩
    | ok _ b =>
      rw [hfirst] at hj hrecords
      obtain ⟨i, hi, hrest⟩ := ih (fun v hv => hworks v (List.mem_cons_of_mem _ hv)) b
      refine ⟨j ++ i, ?_, hrecords.append hrest⟩
      rw [hi, show b.progress.journal = a.progress.journal ++ j from hj, List.append_assoc]

end Assemble

/-- The compilations of nested queries are recorded. -/
def Scope.NestedRecorded (s : Scope σ) : Prop :=
  ∀ database q, (s.nested database q).Recorded s.compiler.level (.whole .select)

namespace Scope.NestedRecorded

open Render Assemble

variable {s : Scope σ} (h : s.NestedRecorded)

include h

theorem query (q : Query) : (s.query q).Recorded s.compiler.level := by
  intro p
  rw [query_eq]
  cases s.databaseOf q with
  | error e => exact ⟨[], (List.append_nil _).symm, .failed e⟩
  | ok database =>
    have hnested : Journal.Records _ _ _ _ := h database q
    refine ⟨(s.nested database q).journal, ?_⟩
    revert hnested
    simp only
    cases (s.nested database q).result <;> exact fun hnested => ⟨rfl, hnested.nested⟩

theorem builds : s.Builds fun _ f => f.Recorded s.compiler.level where
  pure := recorded_pure
  throw := recorded_throw
  bind := Recorded.bind
  query := h.query
  resolved _ := recorded_consult rfl _
  bindAll _ := recorded_of_silent fun _ => ⟨_, _, rfl, rfl⟩
  converted := recorded_ask rfl
  transform := recorded_ask rfl
  fragmentAsked := recorded_note rfl
  refusal _ := recorded_heed _
  root := (recorded_note rfl).bind fun _ => recorded_of_silent fun _ => ⟨_, _, rfl, rfl⟩
  field _ _ := recorded_consult rfl _
  condition _ := (recorded_consult rfl _).bind fun _ =>
    recorded_of_silent fun _ => ⟨_, _, rfl, rfl⟩
  pending := recorded_of_silent fun _ => ⟨_, _, rfl, rfl⟩

theorem works (select : Select Query) :
    ∀ w ∈ s.works select, w.2.Recorded s.compiler.level := by
  have himplied : s.impliedJoins.Recorded s.compiler.level :=
    (recorded_note rfl).bind fun _ => recorded_of_silent fun _ => ⟨_, _, rfl, rfl⟩
  intro w hw
  simp only [Scope.works, body, List.cons_append, List.nil_append, List.mem_cons, List.not_mem_nil,
    or_false] at hw
  rcases hw with rfl | rfl | rfl | rfl | rfl | rfl | rfl | rfl
  · exact h.builds.columnsClause select
  · exact h.builds.tablesClause _
  · exact h.builds.groupsClause _
  · exact h.builds.conditionsAfter _ _
  · exact h.builds.ordersClause _
  · exact h.builds.conditionsAfter _ _
  · exact h.builds.joinsClause himplied select
  · exact recorded_pure _

theorem select (select : Select Query) : (s.select select).Recorded s.compiler.level := by
  intro a
  have hfill := recorded_fill (h.works select) (dropped a)
  have hdropped : (dropped a).progress = a.progress := by
    unfold dropped
    split <;> rfl
  rw [hdropped] at hfill
  rw [select_eq]
  revert hfill
  cases fill (s.works select) (dropped a) <;> exact id

end Scope.NestedRecorded

namespace Compiler

variable {c : Compiler σ} {kind : StatementKind} {q : Query}

theorem within_recorded {s : Scope σ} {cache : Cache} {prepare : Hook σ α}
    {assemble : α → Assemble σ String} (h : ∀ t, (assemble t).Recorded s.compiler.level) :
    (within s kind cache prepare assemble).Recorded s.compiler.level (.work kind) := by
  rw [within_eq]
  cases prepare s.compiler.resolver.start with
  | error e x => exact .unprepared kind e
  | ok t x =>
    simp only
    obtain ⟨j, hj, hrecords⟩ := h t ⟨{ cache with compiling := true }, ⟨x, [], [],
      .asked (.prepare kind) :: Journal.ofLogs (Log.statement s.compiler.level kind)⟩⟩
    revert hj hrecords
    generalize assemble t _ = result
    intro hj hrecords
    cases result with
    | ok sql a =>
      change Journal.Records _ _ _ (a.progress.journal ++ [.asked .clear])
      rw [show a.progress.journal = _ from hj]
      exact .prepared kind hrecords
    | error e a =>
      change Journal.Records _ _ _ (a.progress.journal ++ [.asked .clear])
      rw [show a.progress.journal = _ from hj]
      exact .prepared kind hrecords

/-- A compilation that is started is recorded if its work is. -/
theorem attempt_recorded {work : Query → Compilation}
    (h : q.statement.kind = kind → (work q).Recorded c.level (.work kind)) :
    (c.attempt kind q work).Recorded c.level (.whole kind) := by
  by_cases hkind : q.statement.kind = kind
  · cases hcompiled : q.cache.compiled with
    | some sql =>
      rw [attempt_of_compiled hkind hcompiled]
      exact .unstarted kind _
    | none =>
      have hwork := h hkind
      rw [Compilation.Recorded] at hwork
      rw [attempt, if_neg fun hne => hne hkind, hcompiled]
      cases hresult : (work q).result with
      | ok sql =>
        rw [hresult] at hwork
        simp only [hresult]
        exact .started hwork (.success sql _)
      | error e =>
        rw [hresult] at hwork
        simp only [hresult]
        exact .started hwork (.failure e)
  · rw [attempt_of_ne hkind]
    exact .unstarted kind _

theorem derived_recorded {select : Select Query} {a : Aggregate} {nested : Query → Compilation}
    (h : (nested (q.forRows select)).Recorded c.level (.whole .select)) :
    (c.derived q select a nested).Recorded c.level (.work .select) := by
  rw [Compilation.Recorded] at h
  rw [derived_eq]
  cases hresult : (nested (q.forRows select)).result with
  | ok sql =>
    rw [hresult] at h
    exact .derived h
  | error e =>
    rw [hresult] at h
    exact .derived h

theorem selectIn_recorded (c : Compiler σ) (n : Nat) (database : Option String) (q : Query) :
    (c.selectIn n database q).Recorded c.level (.whole .select) := by
  induction n generalizing database q with
  | zero => exact .unstarted .select _
  | succ n ih =>
    apply attempt_recorded
    intro hkind
    cases hs : q.statement with
    | select select =>
      simp only
      cases select.derivedAggregate? with
      | some a => exact derived_recorded (ih database _)
      | none =>
        have hscope : Scope.NestedRecorded (⟨c, q.quoted, database, c.selectIn n⟩ : Scope σ) := ih
        exact within_recorded hscope.select
    | _ =>
      rw [hs] at hkind
      cases hkind

theorem compilation_recorded (c : Compiler σ) (kind : StatementKind) (q : Query) :
    (c.compilation kind q).Recorded c.level (.whole kind) := by
  have hscope : (c.scope q).NestedRecorded := c.selectIn_recorded c.limits.nesting
  have hmutation (hkind : kind ≠ .select) :
      (c.mutationIn kind q).Recorded c.level (.whole kind) := by
    apply attempt_recorded
    rintro rfl
    cases hs : q.statement with
    | select select => exact absurd (by rw [hs]; rfl) hkind
    | insert s => exact within_recorded fun t => Assemble.recorded_segment (hscope.builds.insert t) _ _
    | update s => exact within_recorded fun t => Assemble.recorded_segment (hscope.builds.update t) _ _
    | delete s => exact within_recorded fun t => Assemble.recorded_segment (hscope.builds.delete t) _ _
  cases kind with
  | select => exact c.selectIn_recorded _ none q
  | _ => exact hmutation (by decide)

end Compiler

end ParamSql
