import ParamSql.Compile.Interpolation
import ParamSql.Proofs.Mapped
import ParamSql.Proofs.Records

namespace ParamSql

variable {σ α β : Type}

theorem exists_split_of_not_mem {as list bs before after : List α} {x : α} (has : x ∉ as)
    (hbs : x ∉ bs) (h : as ++ list ++ bs = before ++ x :: after) :
    ∃ first rest, before = as ++ first ∧ list = first ++ x :: rest ∧ after = rest ++ bs := by
  rw [List.append_assoc, List.append_eq_append_iff] at h
  obtain ⟨first, rfl, h⟩ | ⟨first, rfl, h⟩ := h
  · rw [List.append_eq_append_iff] at h
    obtain ⟨rest, rfl, rfl⟩ | ⟨rest, rfl, h⟩ := h
    · exact absurd (List.mem_append_right _ (List.mem_cons_self ..)) hbs
    · cases rest with
      | nil => exact absurd (by rw [← show x :: after = bs from h]; exact List.mem_cons_self ..) hbs
      | cons y rest =>
        obtain ⟨rfl, rfl⟩ := List.cons.inj h
        exact ⟨first, rest, rfl, rfl, rfl⟩
  · cases first with
    | nil =>
      cases list with
      | nil => exact absurd (by rw [← show x :: after = bs from h]; exact List.mem_cons_self ..) hbs
      | cons y rest =>
        obtain ⟨rfl, rfl⟩ := List.cons.inj h
        exact ⟨[], rest, by simp, rfl, rfl⟩
    | cons y first =>
      obtain ⟨rfl, _⟩ := List.cons.inj h
      exact absurd (List.mem_append_right _ (List.mem_cons_self ..)) has

def Call.isPrepare : Call → Bool
  | .prepare _ => true
  | _ => false

namespace Journal

/-- No collaborator has refused. -/
def Unrefused (j : Journal) : Prop :=
  ∀ e, .refused e ∉ j

/-- How many resolvers have been given a statement. -/
def prepared (j : Journal) : Nat :=
  j.calls.countP Call.isPrepare

/-- How many resolvers have been cleared. -/
def cleared (j : Journal) : Nat :=
  j.calls.count .clear

variable {i j : Journal}

@[simp] theorem calls_append : calls (i ++ j) = i.calls ++ j.calls :=
  List.filterMap_append ..

@[simp] theorem calls_ofLogs (logs : List LogEvent) : calls (ofLogs logs) = [] := by
  induction logs with
  | nil => rfl
  | cons log logs ih => exact ih

@[simp] theorem prepared_append : prepared (i ++ j) = i.prepared + j.prepared := by
  rw [prepared, calls_append, List.countP_append]
  rfl

@[simp] theorem cleared_append : cleared (i ++ j) = i.cleared + j.cleared := by
  rw [cleared, calls_append, List.count_append]
  rfl

theorem unrefused_ofLogs (logs : List LogEvent) : Unrefused (ofLogs logs) := by
  intro e h
  obtain ⟨log, _, hlog⟩ := List.mem_map.1 h
  cases hlog

/-- Every resolver that was given a statement has been cleared, and a refusal is the end: it is the
outcome, and after it the open resolvers are cleared, one after the other, and nothing else is
asked. -/
structure Stops (e : Option CompileError) (j : Journal) : Prop where
  balanced : j.prepared = j.cleared
  refusal {before after : Journal} {x : CompileError} : j = before ++ .refused x :: after →
    e = some x ∧ before.Unrefused ∧ after.Unrefused ∧
      ∃ n, before.prepared = before.cleared + n ∧ after.calls = List.replicate n .clear

variable {e : Option CompileError}

theorem Stops.of_unrefused (hj : j.Unrefused) (h : j.prepared = j.cleared) : Stops e j where
  balanced := h
  refusal hsplit := absurd (hsplit ▸ List.mem_append_right _ (List.mem_cons_self ..)) (hj _)

theorem Stops.unrefused (h : Stops none j) : j.Unrefused := by
  intro e he
  obtain ⟨before, after, rfl⟩ := List.append_of_mem he
  exact nomatch (h.refusal rfl).1

/-- What stops, stops between the events at the start of some resolvers and those at their end. -/
theorem Stops.between {n : Nat} (h : Stops e j) (before after : Journal)
    (hbefore : before.Unrefused) (hafter : after.Unrefused)
    (hopen : before.prepared = before.cleared + n)
    (hclose : after.calls = List.replicate n .clear) : Stops e (before ++ j ++ after) where
  balanced := by
    have hcleared : after.cleared = n := by rw [cleared, hclose, List.count_replicate_self]
    have hprepared : after.prepared = 0 := by
      rw [prepared, hclose, List.countP_replicate]
      rfl
    have hbalanced := h.balanced
    simp only [prepared_append, cleared_append]
    omega
  refusal := by
    intro first rest x hsplit
    obtain ⟨first, rest, rfl, hj, rfl⟩ :=
      exists_split_of_not_mem (hbefore x) (hafter x) hsplit
    obtain ⟨he, hfirst, hrest, m, hm, hcalls⟩ := h.refusal hj
    refine ⟨he, ?_, ?_, m + n, ?_, ?_⟩
    · intro y hy
      exact (List.mem_append.1 hy).elim (hbefore y) (hfirst y)
    · intro y hy
      exact (List.mem_append.1 hy).elim (hrest y) (hafter y)
    · simp only [prepared_append, cleared_append]
      omega
    · rw [calls_append, hcalls, hclose, List.replicate_append_replicate]

theorem stops_refused (x : CompileError) : Stops (some x) [.refused x] where
  balanced := rfl
  refusal := by
    intro before after y hsplit
    cases before with
    | nil =>
      obtain ⟨hxy, rfl⟩ := List.cons.inj hsplit
      cases hxy
      exact ⟨rfl, fun _ => List.not_mem_nil, fun _ => List.not_mem_nil, 0, rfl, rfl⟩
    | cons first before =>
      obtain ⟨_, hnil⟩ := List.cons.inj hsplit
      exact absurd hnil.symm (List.append_ne_nil_of_right_ne_nil _ (List.cons_ne_nil _ _))

theorem Records.stops {level : LogLevel} {stretch : Stretch} (h : Records level stretch e j) :
    Stops e j := by
  induction h with
  | nil => exact .of_unrefused (fun _ => List.not_mem_nil) rfl
  | failed x => exact .of_unrefused (fun _ => List.not_mem_nil) rfl
  | @asked call hcall =>
    apply Stops.of_unrefused
    · intro x hx
      exact nomatch List.mem_singleton.1 hx
    · cases call <;> first | rfl | exact nomatch hcall
  | refused x => exact stops_refused x
  | nested _ ih => exact ih
  | append _ _ ihj ihk =>
    have hbetween := ihk.between (n := 0) _ [] ihj.unrefused (fun _ => List.not_mem_nil)
      ihj.balanced rfl
    rwa [List.append_nil] at hbetween
  | unprepared kind x =>
    apply (stops_refused x).between (n := 1) [.asked (.prepare kind)] [.asked .clear]
    · exact fun y hy => nomatch List.mem_singleton.1 hy
    · exact fun y hy => nomatch List.mem_singleton.1 hy
    · rfl
    · rfl
  | prepared kind _ ih =>
    apply ih.between (n := 1) (.asked (.prepare kind) :: ofLogs (Log.statement level kind))
      [.asked .clear]
    · intro x hx
      rcases List.mem_cons.1 hx with hx | hx
      · cases hx
      · exact unrefused_ofLogs _ x hx
    · exact fun y hy => nomatch List.mem_singleton.1 hy
    · change List.countP _ (.prepare kind :: calls (ofLogs _)) =
        List.count _ (.prepare kind :: calls (ofLogs _)) + 1
      rw [calls_ofLogs]
      rfl
    · rfl
  | derived _ ih => exact ih
  | unstarted kind e => exact .of_unrefused (fun _ => List.not_mem_nil) rfl
  | @started kind _ _ logs _ _ ih =>
    apply ih.between (n := 0) [.started kind] (ofLogs logs)
    · exact fun y hy => nomatch List.mem_singleton.1 hy
    · exact unrefused_ofLogs logs
    · rfl
    · exact calls_ofLogs logs

end Journal

/-- What a compilation leaves of a cache: no compilation is under way, and a failure brings no
text. -/
structure Compilation.Settles (before : Cache) (done : Compilation) : Prop where
  idle : done.cache.compiling = false
  unfinished {e : CompileError} : done.result = .error e → done.cache.compiled = before.compiled

namespace Compiler

open Assemble

variable {c : Compiler σ} {kind : StatementKind} {q : Query}

theorem within_settles {s : Scope σ} {cache : Cache} {prepare : Hook σ α}
    {assemble : α → Assemble σ String}
    (h : ∀ t a, (endOf (assemble t a)).cache.compiled = a.cache.compiled) :
    (within s kind cache prepare assemble).Settles cache := by
  rw [within_eq]
  cases prepare s.compiler.resolver.start with
  | error e x => exact ⟨rfl, fun _ => rfl⟩
  | ok t x =>
    simp only
    have hcompiled := h t ⟨{ cache with compiling := true }, ⟨x, [], [],
      .asked (.prepare kind) :: Journal.ofLogs (Log.statement s.compiler.level kind)⟩⟩
    revert hcompiled
    cases assemble t _ <;> exact fun hcompiled => ⟨rfl, fun _ => hcompiled⟩

theorem attempt_settles {work : Query → Compilation} (hq : q.cache.compiling = false)
    (h : q.statement.kind = kind → (work q).Settles q.cache) :
    (c.attempt kind q work).Settles q.cache := by
  by_cases hkind : q.statement.kind = kind
  · cases hcompiled : q.cache.compiled with
    | some sql =>
      rw [attempt_of_compiled hkind hcompiled]
      exact ⟨hq, fun _ => rfl⟩
    | none =>
      obtain ⟨hidle, hunfinished⟩ := h hkind
      constructor
      · rw [attempt_cache hkind hcompiled]
        split <;> exact hidle
      · intro e he
        rw [attempt_result hkind hcompiled] at he
        rw [attempt_cache hkind hcompiled, he]
        exact hunfinished he
  · rw [attempt_of_ne hkind]
    exact ⟨hq, fun _ => rfl⟩

theorem derived_settles {select : Select Query} {a : Aggregate} {nested : Query → Compilation}
    (hq : q.cache.compiling = false) : (c.derived q select a nested).Settles q.cache := by
  rw [derived_eq]
  cases (nested (q.forRows select)).result with
  | error e => exact ⟨hq, fun _ => rfl⟩
  | ok sql => exact ⟨(Cache.compiling_invalidate _ _).trans hq, nofun⟩

theorem selectIn_settles (hq : q.cache.compiling = false) (n : Nat) (database : Option String) :
    (c.selectIn n database q).Settles q.cache := by
  cases n with
  | zero => exact ⟨hq, fun _ => rfl⟩
  | succ n =>
    apply attempt_settles hq
    intro hkind
    cases hs : q.statement with
    | select select =>
      simp only
      cases select.derivedAggregate? with
      | some a => exact derived_settles hq
      | none => exact within_settles fun t a => Scope.compiled_select a
    | _ =>
      rw [hs] at hkind
      cases hkind

theorem compilation_settles (hq : q.cache.compiling = false) (kind : StatementKind) :
    (c.compilation kind q).Settles q.cache := by
  have hsegment (work : Render σ String) (a : Assembly σ) :
      (endOf (Assemble.segment .whole false work a)).cache.compiled = a.cache.compiled := by
    unfold Assemble.segment
    cases work { a.progress with bound := [] } <;> rfl
  have hmutation (hkind : kind ≠ .select) : (c.mutationIn kind q).Settles q.cache := by
    apply attempt_settles hq
    rintro rfl
    cases hs : q.statement with
    | select select => exact absurd (by rw [hs]; rfl) hkind
    | _ => exact within_settles fun t => hsegment _
  cases kind with
  | select => exact selectIn_settles hq _ none
  | _ => exact hmutation (by decide)

end Compiler

/-- A call on a query as a statement of a kind leaves nothing behind but what the query keeps. -/
structure Outcome.Tidy (level : LogLevel) (kind : StatementKind) (q : Query) (o : Outcome α) :
    Prop where
  idle : o.query.cache.compiling = false
  statement : o.query.statement = q.statement
  connection : o.query.connection = q.connection
  quoted : o.query.quoted = q.quoted
  /-- Every resolver is given its statement first and cleared last, those of nested queries in
  between. -/
  bracketed : Journal.Records level (.whole kind) (error? o.result) o.journal
  unfinished {e : CompileError} : o.result = .error e → o.query.cache.compiled = q.cache.compiled

/-- The first refusal of a collaborator is the outcome, and all that is asked after it is that the
resolvers be cleared that were given a statement and have not been cleared. -/
structure Outcome.Heeds (o : Outcome α) : Prop where
  refusal {before after : Journal} {e : CompileError} : o.journal = before ++ .refused e :: after →
    o.result = .error e ∧ before.Unrefused ∧ after.Unrefused ∧
      after.calls = List.replicate (before.prepared - before.cleared) .clear
  success {a : α} : o.result = .ok a → o.journal.Unrefused

theorem error?_map (f : α → β) (result : Except CompileError α) :
    error? (result.map f) = error? result := by
  cases result <;> rfl

theorem error?_eq_some {result : Except CompileError α} {e : CompileError} :
    error? result = some e ↔ result = .error e := by
  cases result <;> simp [error?]

theorem error?_eq_none {result : Except CompileError α} :
    error? result = none ↔ ∃ a, result = .ok a := by
  cases result <;> simp [error?]

theorem Outcome.Tidy.map {level : LogLevel} {kind : StatementKind} {q : Query} {o : Outcome α}
    (h : o.Tidy level kind q) (f : α → β) :
    Outcome.Tidy level kind q ⟨o.result.map f, o.query, o.journal⟩ where
  idle := h.idle
  statement := h.statement
  connection := h.connection
  quoted := h.quoted
  bracketed := by
    rw [error?_map]
    exact h.bracketed
  unfinished he := by
    rw [← error?_eq_some, error?_map, error?_eq_some] at he
    exact h.unfinished he

theorem Outcome.heeds {level : LogLevel} {stretch : Stretch} {o : Outcome α}
    (h : Journal.Records level stretch (error? o.result) o.journal) : o.Heeds where
  refusal hsplit := by
    obtain ⟨he, hbefore, hafter, n, hn, hcalls⟩ := h.stops.refusal hsplit
    refine ⟨error?_eq_some.1 he, hbefore, hafter, ?_⟩
    rw [hcalls, hn, Nat.add_sub_cancel_left]
  success ha := by
    have hstops := h.stops
    rw [ha] at hstops
    exact hstops.unrefused

namespace Compiler

theorem compileAs_tidy (c : Compiler σ) {q : Query} (hq : q.cache.compiling = false)
    (kind : StatementKind) : (c.compileAs kind q).Tidy c.level kind q where
  idle := (compilation_settles hq kind).idle
  statement := rfl
  connection := rfl
  quoted := rfl
  bracketed := c.compilation_recorded kind q
  unfinished := (compilation_settles hq kind).unfinished

theorem run_idle (c : Compiler σ) {q : Query} (hq : q.cache.compiling = false)
    (steps : List Step) : (c.run q steps).cache.compiling = false := by
  apply c.run_keeps (I := fun q => q.cache.compiling = false) _ _ hq
  · intro q e hq
    unfold Query.edit
    split
    · exact hq
    · exact (Cache.compiling_invalidate _ _).trans hq
  · intro q kind hq
    exact (c.compileAs_tidy hq kind).idle

/-- Every call on a query leaves it idle and as it was but for what it keeps, and clears every
resolver that it has given a statement. -/
theorem calls_tidy (c : Compiler σ) {q : Query} (hq : q.cache.compiling = false) :
    (∀ kind, (c.compileAs kind q).Tidy c.level kind q) ∧
      (c.compile q).Tidy c.level q.statement.kind q ∧
      (c.interpolate q).Tidy c.level q.statement.kind q := by
  have hcompile : (c.compile q).Tidy c.level q.statement.kind q :=
    (c.compileAs_tidy hq q.statement.kind).map _
  exact ⟨c.compileAs_tidy hq, hcompile, hcompile.map _⟩

/-- A SELECT from the rows of another one, in which a fragment refuses. -/
def refusedInside : Query :=
  Query.ofStatement (.select {
    tables := [⟨.query (Query.ofStatement (.select {
      tables := [.table "orders"]
      filters := [.fragment .and (.fail (.external "no"))] })), some "rows"⟩] })

theorem calls_tidy_refusedInside :
    refusedInside.cache.compiling = false ∧
      ((ofDialect .mysql).compile refusedInside).result = .error (.external "no") ∧
      ((ofDialect .mysql).compile refusedInside).Tidy .off .select refusedInside :=
  ⟨rfl, rfl, ((ofDialect .mysql).calls_tidy (q := refusedInside) rfl).2.1⟩

end Compiler

end ParamSql
