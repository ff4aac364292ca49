import ParamSql.Config
import ParamSql.Proofs.Cleanup

namespace ParamSql

variable {σ α β : Type}

def LogEvent.isOutcome : LogEvent → Bool
  | .finished .. => true
  | _ => false

/-- A warning of a failure, or the outcome of one. -/
def LogEvent.isSetback : LogEvent → Bool
  | .failed .. | .finished _ false => true
  | _ => false

def Event.isStart : Event → Bool
  | .started _ => true
  | _ => false

/-- What a failure leaves to happen: resolvers are cleared and outcomes are logged. -/
def Event.isLast : Event → Bool
  | .asked .clear | .logged _ => true
  | _ => false

/-- The compilations under way after an event, innermost first, by those before it. An outcome has
to be that of the innermost. -/
def Event.track? (running : List StatementKind) : Event → Option (List StatementKind)
  | .started kind => some (kind :: running)
  | .logged (.finished kind _) =>
    match running with
    | innermost :: rest => if innermost = kind then some rest else none
    | [] => none
  | _ => some running

/-- What a compilation logs at its end if it fails. -/
def Log.setback (e : CompileError) (kind : StatementKind) : List LogEvent :=
  [.failed kind e.message, .finished kind false]

namespace Journal

/-- The compilations under way after a journal, by those before it. -/
def track? (running : List StatementKind) (j : Journal) : Option (List StatementKind) :=
  j.foldlM Event.track? running

/-- No failure is logged. -/
def Smooth (j : Journal) : Prop :=
  ∀ log ∈ j.logs, log.isSetback = false

/-- Whenever a resolver is given a statement, a compilation of its kind has just been started. -/
def Grounded (j : Journal) : Prop :=
  ∀ before after kind, j = before ++ .asked (.prepare kind) :: after →
    ∃ first, before = first ++ [.started kind]

/-- A failure is logged by the compilations that are under way where it happens, from the innermost
out. From there on nothing else is logged, and nothing is started or asked but that resolvers be
cleared. -/
structure Fails (e : CompileError) (j : Journal) (before after : Journal)
    (running : List StatementKind) : Prop where
  split : j = before ++ after
  smooth : before.Smooth
  track? (outer : List StatementKind) : before.track? outer = some (running ++ outer)
  logs : after.logs = running.flatMap (Log.setback e)
  last : ∀ event ∈ after, event.isLast = true

/-- A journal mirrors the compilations of a call on a statement of a kind, which ends with an error,
or with none. -/
structure Mirrors (kind : StatementKind) (e : Option CompileError) (j : Journal) : Prop where
  /-- Every compilation that is started reports its outcome, and those inside it before. -/
  track? : j.track? [] = some []
  count : j.logs.countP LogEvent.isOutcome = j.countP Event.isStart
  grounded : j.Grounded
  smooth : e = none → j.Smooth
  /-- If the compilation that the call asks for is started and fails, it is the outermost of those
  that log the failure. -/
  fails {x : CompileError} : e = some x → j ≠ [] →
    ∃ before after inner, j.Fails x before after (inner ++ [kind])

section

variable {i j : Journal} {level : LogLevel} {stretch : Stretch} {e : Option CompileError}

@[simp] theorem logs_append : logs (i ++ j) = i.logs ++ j.logs :=
  List.filterMap_append ..

@[simp] theorem logs_ofLogs (events : List LogEvent) : logs (ofLogs events) = events := by
  induction events with
  | nil => rfl
  | cons event events ih => exact congrArg (event :: ·) ih

theorem track?_append (running : List StatementKind) :
    track? running (i ++ j) = (track? running i).bind fun next => track? next j :=
  List.foldlM_append ..

theorem track?_append_of_some {running next : List StatementKind}
    (h : track? running i = some next) : track? running (i ++ j) = track? next j := by
  rw [track?_append, h]
  rfl

theorem track?_cons_asked (running : List StatementKind) (call : Call) (j : Journal) :
    track? running (.asked call :: j) = track? running j :=
  rfl

theorem track?_ofLogs {events : List LogEvent} (h : ∀ log ∈ events, log.isOutcome = false)
    (running : List StatementKind) : track? running (ofLogs events) = some running := by
  induction events with
  | nil => rfl
  | cons event events ih =>
    obtain ⟨hevent, hevents⟩ := List.forall_mem_cons.1 h
    have hstep : Event.track? running (.logged event) = some running := by
      cases event <;> first | rfl | exact nomatch hevent
    change (Event.track? running (.logged event)).bind (fun next => track? next (ofLogs events)) = _
    rw [hstep]
    exact ih hevents

theorem Smooth.append (hi : i.Smooth) (hj : j.Smooth) : (i ++ j).Smooth := by
  intro log hlog
  rw [logs_append] at hlog
  exact (List.mem_append.1 hlog).elim (hi log) (hj log)

theorem smooth_of_logs_eq_nil (h : j.logs = []) : j.Smooth := by
  intro log hlog
  rw [h] at hlog
  cases hlog

theorem Grounded.append (hi : i.Grounded) (hj : j.Grounded) : (i ++ j).Grounded := by
  intro before after kind h
  rcases List.append_eq_append_iff.1 h with ⟨first, rfl, hsplit⟩ | ⟨first, hsplit, hrest⟩
  · obtain ⟨start, rfl⟩ := hj first after kind hsplit
    exact ⟨i ++ start, (List.append_assoc ..).symm⟩
  · cases first with
    | nil =>
      obtain ⟨start, hstart⟩ := hj [] after kind hrest.symm
      exact absurd hstart.symm (List.append_ne_nil_of_right_ne_nil _ (List.cons_ne_nil _ _))
    | cons x first =>
      obtain ⟨rfl, _⟩ := List.cons.inj hrest
      exact hi before first kind hsplit

theorem grounded_of_forall (h : ∀ kind, .asked (.prepare kind) ∉ j) : j.Grounded := by
  intro before after kind hsplit
  exact absurd (hsplit ▸ List.mem_append_right _ List.mem_cons_self) (h kind)

theorem grounded_ofLogs (events : List LogEvent) : (ofLogs events).Grounded := by
  apply grounded_of_forall
  intro kind hmem
  obtain ⟨log, _, hlog⟩ := List.mem_map.1 hmem
  cases hlog

theorem grounded_start (kind : StatementKind) :
    Grounded [.started kind, .asked (.prepare kind)] := by
  intro before after other hsplit
  match before with
  | [] => cases (List.cons.inj hsplit).1
  | [first] =>
    obtain ⟨rfl, hrest⟩ := List.cons.inj hsplit
    cases (List.cons.inj hrest).1
    exact ⟨[], rfl⟩
  | _ :: _ :: before =>
    have hlength := congrArg List.length hsplit
    simp only [List.length_cons, List.length_append, List.length_nil] at hlength
    omega

theorem length_of_track? {running next : List StatementKind} {event : Event}
    (h : event.track? running = some next) :
    List.countP Event.isStart [event] + running.length =
      (logs [event]).countP LogEvent.isOutcome + next.length := by
  cases event with
  | started kind =>
    cases h
    change 1 + running.length = 0 + (running.length + 1)
    omega
  | asked call =>
    cases h
    rfl
  | refused e =>
    cases h
    rfl
  | logged log =>
    cases log with
    | finished kind success =>
      cases running with
      | nil => cases h
      | cons innermost rest =>
        rw [Event.track?] at h
        split at h
        · cases h
          change 0 + (next.length + 1) = 1 + next.length
          omega
        · cases h
    | _ =>
      cases h
      rfl

theorem count_of_track? {running next : List StatementKind} (h : track? running j = some next) :
    j.countP Event.isStart + running.length = j.logs.countP LogEvent.isOutcome + next.length := by
  induction j generalizing running with
  | nil =>
    cases h
    rfl
  | cons event j ih =>
    change (Event.track? running event).bind (fun next => track? next j) = some next at h
    obtain ⟨middle, hstep, hrest⟩ := Option.bind_eq_some_iff.1 h
    have hevent := length_of_track? hstep
    have hj := ih hrest
    rw [← List.singleton_append, logs_append, List.countP_append, List.countP_append]
    omega

end

end Journal

namespace Log

variable {level : LogLevel} {kind : StatementKind}

theorem mem_of_mem_gated {asked : LogLevel} {log : LogEvent} {events : List LogEvent}
    (h : log ∈ gated level asked events) : log ∈ events := by
  unfold gated at h
  split at h
  · exact h
  · cases h

theorem failure_eq (h : level.covers .basic = true) (e : CompileError) :
    failure level kind e.message = setback e kind := by
  rw [failure, failed, finished, gated, gated, if_pos h, if_pos h]
  rfl

theorem success_eq (h : level.covers .basic = true) (sql : String) (scalars : List Scalar) :
    success level kind sql scalars = compiled level kind sql scalars ++ [.finished kind true] := by
  rw [success, finished, gated, if_pos h]

theorem compiled_cases {sql : String} {scalars : List Scalar} {log : LogEvent}
    (h : log ∈ compiled level kind sql scalars) :
    (∃ shown count, log = .compiled kind shown count) ∨ ∃ i text, log = .binding kind i text := by
  rcases List.mem_append.1 h with hlog | hlog
  · exact .inl ⟨_, _, List.mem_singleton.1 (mem_of_mem_gated hlog)⟩
  · obtain ⟨⟨scalar, i⟩, _, rfl⟩ := List.mem_map.1 (mem_of_mem_gated hlog)
    exact .inr ⟨_, _, rfl⟩

theorem smooth_success (sql : String) (scalars : List Scalar) :
    ∀ log ∈ success level kind sql scalars, log.isSetback = false := by
  intro log hlog
  rcases List.mem_append.1 hlog with hlog | hlog
  · rcases compiled_cases hlog with ⟨_, _, rfl⟩ | ⟨_, _, rfl⟩ <;> rfl
  · obtain rfl := List.mem_singleton.1 (mem_of_mem_gated hlog)
    rfl

theorem statement_cases {log : LogEvent} (h : log ∈ statement level kind) :
    log = .statement kind :=
  List.mem_singleton.1 (mem_of_mem_gated h)

end Log

namespace Journal

variable {level : LogLevel} {stretch : Stretch} {e : Option CompileError} {j : Journal}

theorem track?_statement (kind : StatementKind) (running : List StatementKind) :
    track? running (ofLogs (Log.statement level kind)) = some running :=
  track?_ofLogs (fun _ hlog => Log.statement_cases hlog ▸ rfl) running

theorem track?_closes {kind : StatementKind} {logs : List LogEvent}
    (hlevel : level.covers .basic = true) (h : Log.Closes level kind e logs)
    (running : List StatementKind) : track? (kind :: running) (ofLogs logs) = some running := by
  have hfinished (success : Bool) :
      track? (kind :: running) (ofLogs [.finished kind success]) = some running := by
    change (Event.track? (kind :: running) (.logged (.finished kind success))).bind some = _
    rw [Event.track?, if_pos rfl]
    rfl
  cases h with
  | success sql scalars =>
    rw [Log.success_eq hlevel, ofLogs, List.map_append]
    refine (track?_append_of_some (track?_ofLogs ?_ _)).trans (hfinished true)
    intro log hlog
    rcases Log.compiled_cases hlog with ⟨_, _, rfl⟩ | ⟨_, _, rfl⟩ <;> rfl
  | failure e =>
    rw [Log.failure_eq hlevel]
    exact hfinished false

/-- All that is started in a stretch has reported its outcome at the end of it. -/
theorem Records.tracked (hlevel : level.covers .basic = true) (h : Records level stretch e j)
    (running : List StatementKind) : j.track? running = some running := by
  induction h generalizing running with
  | nil => rfl
  | failed e => rfl
  | asked h => rfl
  | refused e => rfl
  | nested _ ih => exact ih running
  | append _ _ ihj ihk => exact (track?_append_of_some (ihj running)).trans (ihk running)
  | unprepared kind e => rfl
  | prepared kind _ ih =>
    rw [List.cons_append, List.cons_append, track?_cons_asked, List.append_assoc,
      track?_append_of_some (track?_statement kind running), track?_append_of_some (ih running)]
    rfl
  | derived _ ih => exact ih running
  | unstarted kind e => rfl
  | @started kind _ j logs _ hcloses ih =>
    change track? (kind :: running) (j ++ ofLogs logs) = _
    rw [track?_append_of_some (ih _)]
    exact track?_closes hlevel hcloses running

theorem smooth_statement (kind : StatementKind) : (ofLogs (Log.statement level kind)).Smooth := by
  rw [Smooth, logs_ofLogs]
  exact fun _ hlog => Log.statement_cases hlog ▸ rfl

theorem Records.smooth (h : Records level stretch e j) (he : e = none) : j.Smooth := by
  induction h with
  | nil => exact smooth_of_logs_eq_nil rfl
  | failed e => exact smooth_of_logs_eq_nil rfl
  | asked h => exact smooth_of_logs_eq_nil rfl
  | refused e => exact smooth_of_logs_eq_nil rfl
  | nested _ ih => exact ih he
  | append _ _ ihj ihk => exact (ihj rfl).append (ihk he)
  | unprepared kind e => exact smooth_of_logs_eq_nil rfl
  | prepared kind _ ih =>
    exact ((smooth_statement kind).append (ih he)).append (smooth_of_logs_eq_nil rfl)
  | derived _ ih => exact ih he
  | unstarted kind e => exact smooth_of_logs_eq_nil rfl
  | started _ hcloses ih =>
    cases hcloses with
    | failure e => cases he
    | success sql scalars =>
      apply (ih rfl).append
      rw [Smooth, logs_ofLogs]
      exact Log.smooth_success sql scalars

/-- The start of a compilation whose work a stretch is. -/
def opening : Stretch → Journal
  | .work kind => [.started kind]
  | _ => []

/-- Resolvers are given their statements at the starts of compilations only. -/
theorem Records.grounded (h : Records level stretch e j) : (opening stretch ++ j).Grounded := by
  induction h with
  | nil => exact grounded_of_forall fun _ => List.not_mem_nil
  | failed e => exact grounded_of_forall fun _ => List.not_mem_nil
  | @asked call hcall =>
    apply grounded_of_forall
    intro kind hmem
    cases List.mem_singleton.1 hmem
    cases hcall
  | refused e => exact grounded_of_forall fun _ hmem => nomatch List.mem_singleton.1 hmem
  | nested _ ih => exact ih
  | append _ _ ihj ihk => exact ihj.append ihk
  | unprepared kind e =>
    refine (grounded_start kind).append (j := [.refused e, .asked .clear]) (grounded_of_forall ?_)
    simp
  | @prepared kind _ j _ ih =>
    have hrest : (ofLogs (Log.statement level kind) ++ j ++ [Event.asked .clear]).Grounded :=
      ((grounded_ofLogs _).append ih).append (grounded_of_forall fun _ => by simp)
    exact (grounded_start kind).append hrest
  | derived _ ih => exact Grounded.append (grounded_of_forall fun _ => by simp [opening]) ih
  | unstarted kind e => exact grounded_of_forall fun _ => List.not_mem_nil
  | started _ _ ih => exact ih.append (grounded_ofLogs _)

section

variable {i before after : Journal} {x : CompileError} {running : List StatementKind}

theorem fails_here (x : CompileError) (hlogs : i.logs = [])
    (htrack : ∀ outer, i.track? outer = some outer) : i.Fails x i [] [] :=
  ⟨(List.append_nil i).symm, smooth_of_logs_eq_nil hlogs, htrack, rfl, nofun⟩

theorem Fails.behind (h : j.Fails x before after running) (hi : i.Smooth)
    (htrack : ∀ outer, i.track? outer = some outer) :
    (i ++ j).Fails x (i ++ before) after running where
  split := by rw [h.split, List.append_assoc]
  smooth := hi.append h.smooth
  track? outer := (track?_append_of_some (htrack outer)).trans (h.track? outer)
  logs := h.logs
  last := h.last

theorem Fails.cleared (h : j.Fails x before after running) :
    Fails x (j ++ [.asked .clear]) before (after ++ [.asked .clear]) running where
  split := by rw [h.split, List.append_assoc]
  smooth := h.smooth
  track? := h.track?
  logs := by
    rw [logs_append, h.logs]
    exact List.append_nil _
  last := by
    intro event hevent
    rcases List.mem_append.1 hevent with hevent | hevent
    · exact h.last event hevent
    · exact List.mem_singleton.1 hevent ▸ rfl

theorem Fails.closed (h : j.Fails x before after running) (kind : StatementKind) :
    Fails x (.started kind :: j ++ ofLogs (Log.setback x kind)) (.started kind :: before)
      (after ++ ofLogs (Log.setback x kind)) (running ++ [kind]) where
  split := by
    rw [h.split, List.cons_append, List.cons_append, List.append_assoc]
  smooth := h.smooth
  track? outer := by
    change before.track? (kind :: outer) = _
    rw [h.track?, List.append_assoc]
    rfl
  logs := by rw [logs_append, h.logs, logs_ofLogs, List.flatMap_append, List.flatMap_singleton]
  last := by
    intro event hevent
    rcases List.mem_append.1 hevent with hevent | hevent
    · exact h.last event hevent
    · obtain ⟨log, _, rfl⟩ := List.mem_map.1 hevent
      rfl

end

/-- Where a stretch fails, the compilations under way report it and those before have succeeded. -/
theorem Records.fails (hlevel : level.covers .basic = true) (h : Records level stretch e j)
    {x : CompileError} (he : e = some x) :
    ∃ before after running, j.Fails x before after running := by
  induction h with
  | nil => cases he
  | failed e => exact ⟨_, _, _, fails_here x rfl fun _ => rfl⟩
  | asked h => cases he
  | refused e => exact ⟨_, _, _, fails_here x rfl fun _ => rfl⟩
  | nested _ ih => exact ih he
  | append hj _ _ ihk =>
    obtain ⟨before, after, running, hfails⟩ := ihk he
    exact ⟨_, _, _, hfails.behind (hj.smooth rfl) (hj.tracked hlevel)⟩
  | unprepared kind e =>
    have hrefused : Fails x [.asked (.prepare kind), .refused e] _ [] [] :=
      fails_here x rfl fun _ => rfl
    exact ⟨_, _, _, hrefused.cleared⟩
  | prepared kind _ ih =>
    obtain ⟨before, after, running, hfails⟩ := ih he
    exact ⟨_, _, _, (hfails.behind (i := .asked (.prepare kind) :: ofLogs (Log.statement level kind))
      (smooth_statement kind) (track?_statement kind)).cleared⟩
  | derived _ ih => exact ih he
  | unstarted kind e => exact ⟨_, _, _, fails_here x rfl fun _ => rfl⟩
  | @started kind _ _ _ _ hcloses ih =>
    cases hcloses with
    | success sql scalars => cases he
    | failure e =>
      obtain ⟨before, after, running, hfails⟩ := ih he
      obtain rfl := Option.some.inj he
      rw [Log.failure_eq hlevel]
      exact ⟨_, _, _, hfails.closed kind⟩

/-- The journal of a compilation mirrors the compilations in it. -/
theorem Records.mirrors (hlevel : level.covers .basic = true) {kind : StatementKind}
    (h : Records level (.whole kind) e j) : j.Mirrors kind e where
  track? := h.tracked hlevel []
  count := by
    have hcount := count_of_track? (h.tracked hlevel [])
    omega
  grounded := h.grounded
  smooth := h.smooth
  fails := by
    intro x he hj
    cases h with
    | unstarted => exact absurd rfl hj
    | started hwork hcloses =>
      obtain ⟨before, after, inner, hfails⟩ := hwork.fails hlevel he
      subst he
      cases hcloses with
      | failure =>
        rw [Log.failure_eq hlevel]
        exact ⟨_, _, inner, hfails.closed kind⟩

/-- A call on a query as a statement of a kind reports what it compiles. A query that keeps its text
and one of another kind are not compiled. The first argument is how deep queries may be nested. -/
structure Reports (nesting : Nat) (kind : StatementKind) (q : Query) (e : Option CompileError)
    (j : Journal) : Prop where
  mirrors : j.Mirrors kind e
  unstarted : q.statement.kind ≠ kind ∨ q.cache.compiled.isSome → j = []
  started : 0 < nesting → q.statement.kind = kind → q.cache.compiled = none →
    ∃ rest, j = .started kind :: rest

end Journal

namespace Compiler

variable {c : Compiler σ} {kind : StatementKind} {q : Query} {work : Query → Compilation}

theorem attempt_unstarted (h : q.statement.kind ≠ kind ∨ q.cache.compiled.isSome) :
    (c.attempt kind q work).journal = [] := by
  by_cases hkind : q.statement.kind = kind
  · obtain ⟨sql, hsql⟩ := Option.isSome_iff_exists.1 (h.resolve_left (not_not_intro hkind))
    rw [attempt_of_compiled hkind hsql]
  · rw [attempt_of_ne hkind]

theorem attempt_started (hkind : q.statement.kind = kind) (hcompiled : q.cache.compiled = none) :
    ∃ logs, (c.attempt kind q work).journal =
      .started kind :: (work q).journal ++ Journal.ofLogs logs := by
  rw [attempt, if_neg fun hne => hne hkind, hcompiled]
  simp only
  split
  · exact ⟨_, rfl⟩
  · exact ⟨_, rfl⟩

theorem derived_journal {select : Select Query} {a : Aggregate} {nested : Query → Compilation} :
    (c.derived q select a nested).journal = (nested (q.forRows select)).journal := by
  rw [derived_eq]
  split <;> rfl

theorem selectIn_reports (hlevel : c.level.covers .basic = true) (n : Nat)
    (database : Option String) (q : Query) :
    Journal.Reports n .select q (error? (c.selectIn n database q).result)
      (c.selectIn n database q).journal where
  mirrors := Journal.Records.mirrors hlevel (c.selectIn_recorded n database q)
  unstarted h := by
    cases n with
    | zero => rfl
    | succ n => exact attempt_unstarted h
  started hn hkind hcompiled := by
    obtain ⟨n, rfl⟩ := Nat.exists_eq_add_of_lt hn
    obtain ⟨logs, hlogs⟩ := attempt_started hkind hcompiled
    exact ⟨_, hlogs⟩

theorem compilation_reports (hlevel : c.level.covers .basic = true) (kind : StatementKind)
    (q : Query) :
    Journal.Reports c.limits.nesting kind q (error? (c.compilation kind q).result)
      (c.compilation kind q).journal where
  mirrors := Journal.Records.mirrors hlevel (c.compilation_recorded kind q)
  unstarted h := by
    cases kind with
    | select => exact (selectIn_reports hlevel _ none q).unstarted h
    | _ => exact attempt_unstarted h
  started hn hkind hcompiled := by
    cases kind with
    | select => exact (selectIn_reports hlevel _ none q).started hn hkind hcompiled
    | _ =>
      obtain ⟨logs, hlogs⟩ := attempt_started hkind hcompiled
      exact ⟨_, hlogs⟩

/-- Every compilation reports its outcome once, whether a call asks for it or another compilation
does, and stands in the journal of the latter. -/
structure Reporting (c : Compiler σ) : Prop where
  compileAs (kind : StatementKind) (q : Query) : Journal.Reports c.limits.nesting kind q
    (error? (c.compileAs kind q).result) (c.compileAs kind q).journal
  compile (q : Query) : Journal.Reports c.limits.nesting q.statement.kind q
    (error? (c.compile q).result) (c.compile q).journal
  interpolate (q : Query) : Journal.Reports c.limits.nesting q.statement.kind q
    (error? (c.interpolate q).result) (c.interpolate q).journal
  nested (n : Nat) (database : Option String) (q : Query) : Journal.Reports n .select q
    (error? (c.selectIn n database q).result) (c.selectIn n database q).journal
  rendered {s : Scope σ} {q : Query} {database : Option String} (p : Progress σ) :
    s.databaseOf q = .ok database →
      (endState (s.query q p)).journal = p.journal ++ (s.nested database q).journal
  derived {n : Nat} {database : Option String} {q : Query} {select : Select Query} {a : Aggregate} :
    q.statement = .select select → select.derivedAggregate? = some a → q.cache.compiled = none →
      ∃ logs, (c.selectIn (n + 1) database q).journal =
        .started .select :: (c.selectIn n database (q.forRows select)).journal ++
          Journal.ofLogs logs

end Compiler

end ParamSql
