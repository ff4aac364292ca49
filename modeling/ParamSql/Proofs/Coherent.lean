import Mathlib
import ParamSql.Proofs.Memo
import ParamSql.Proofs.Runs

namespace ParamSql

variable {σ : Type}

namespace Edit

variable {s : Select Query} {e : Edit}

theorem tables_onSelect (h : .tables ∉ e.touches) : (e.onSelect s).tables = s.tables := by
  cases e with
  | table t => simp [touches] at h
  | _ => rfl

theorem lock_onSelect (h : .lock ∉ e.touches) :
    (e.onSelect s).aggregate = s.aggregate ∧ (e.onSelect s).lock = s.lock := by
  cases e with
  | aggregate a => simp [touches] at h
  | lock mode => simp [touches] at h
  | _ => exact ⟨rfl, rfl⟩

theorem rows_onSelect (h : ∀ clause ∈ Clause.joinDependent, clause ∉ e.touches) :
    (e.onSelect s).rows = s.rows := by
  have hcolumns := h .columns (by decide)
  have hjoins := h .joins (by decide)
  have hfilters := h .filters (by decide)
  have hgroups := h .groups (by decide)
  have hhaving := h .having (by decide)
  have horders := h .orders (by decide)
  cases e with
  | table t => simp [touches] at hcolumns
  | column p => simp [touches] at hcolumns
  | columns names => simp [touches] at hcolumns
  | distinct flag => simp [touches] at hcolumns
  | aggregate a => simp [touches] at hcolumns
  | filter c => simp [touches] at hfilters
  | join j => simp [touches] at hjoins
  | group name => simp [touches] at hgroups
  | having c => simp [touches] at hhaving
  | order o => simp [touches] at horders
  | _ => rfl

end Edit

namespace Scope

open Assemble

variable {s : Scope σ} {select : Select Query} {cache : Cache}

theorem Kept.congr {cache' : Cache} (h : s.Kept select cache)
    (hslots : ∀ clause, cache'.slot clause = cache.slot clause) : s.Kept select cache' := by
  refine ⟨by rw [hslots]; exact h.whole, by rw [hslots]; exact h.tables,
    by rw [hslots]; exact h.lock, fun hall => ?_⟩
  have hmissing : cache'.isMissing = cache.isMissing := by
    funext clause
    rw [Cache.isMissing, Cache.isMissing, hslots]
  rw [hmissing] at hall
  obtain ⟨other, hrows, t, x, j, b, hprepared, hfill, hreached⟩ := h.joined hall
  refine ⟨other, hrows, t, x, j, b, hprepared, hfill, fun clause hclause => ?_⟩
  rw [hslots]
  exact hreached clause hclause

theorem Kept.blank (h : ∀ clause, cache.slot clause = {}) : s.Kept select cache := by
  refine ⟨h _, .inl (by rw [h]), .inl (by rw [h]), fun hall => ?_⟩
  rw [List.any_eq_false] at hall
  exact absurd (by rw [Cache.isMissing, h]; rfl) (hall .joins (by decide))

theorem Kept.edit (h : s.Kept select cache) (hidle : cache.compiling = false) {e : Edit}
    (hne : e.touches ≠ []) : s.Kept (e.onSelect select) (cache.invalidate e.touches) where
  whole := by
    rw [Cache.slot_invalidate hidle hne]
    split
    · rfl
    · exact h.whole
  tables := by
    rw [Cache.slot_invalidate hidle hne]
    split
    · exact .inl rfl
    · rw [Edit.tables_onSelect ‹_›]
      exact h.tables
  lock := by
    rw [Cache.slot_invalidate hidle hne]
    split
    · exact .inl rfl
    · obtain ⟨haggregate, hlock⟩ := Edit.lock_onSelect (s := select) ‹.lock ∉ e.touches›
      rw [lockClause, haggregate, hlock]
      exact h.lock
  joined hall := by
    rw [List.any_eq_false] at hall
    have huntouched : ∀ clause ∈ Clause.joinDependent, clause ∉ e.touches := by
      intro clause hclause htouched
      apply hall clause hclause
      rw [Cache.isMissing, Cache.slot_invalidate hidle hne, if_pos htouched]
      rfl
    have hslots : ∀ clause ∈ Clause.joinDependent,
        (cache.invalidate e.touches).slot clause = cache.slot clause := fun clause hclause => by
      rw [Cache.slot_invalidate hidle hne, if_neg (huntouched clause hclause)]
    have hbefore : Clause.joinDependent.any cache.isMissing = false := by
      rw [List.any_eq_false]
      intro clause hclause
      have hkept := hall clause hclause
      rwa [Cache.isMissing, hslots clause hclause] at hkept
    obtain ⟨other, hrows, t, x, j, b, hprepared, hfill, hreached⟩ := h.joined hbefore
    refine ⟨other, hrows.trans (Edit.rows_onSelect huntouched).symm, t, x, j, b, hprepared, hfill,
      fun clause hclause => ?_⟩
    rw [hslots clause hclause]
    exact hreached clause hclause

end Scope

/-- The outcome of a compilation: text and bindings, or the cause of its failure. -/
def Compilation.outcome (d : Compilation) : Except CompileError Compiled :=
  d.result.map fun sql => ⟨sql, d.cache.bindings⟩

theorem Compilation.outcome_congr {d d' : Compilation} (hresult : d.result = d'.result)
    (hslots : ∀ clause, d.cache.slot clause = d'.cache.slot clause) : d.outcome = d'.outcome := by
  rw [outcome, outcome, hresult, Cache.bindings_congr hslots]

namespace Compiler

open Assemble

variable {c : Compiler σ} {q : Query} {kind : StatementKind}

theorem compile_result (c : Compiler σ) (q : Query) :
    (c.compile q).result = (c.compilation q.statement.kind q).outcome :=
  rfl

theorem outcome_attempt {work : Query → Compilation} (h : q.statement.kind = kind)
    (hcompiled : q.cache.compiled = none) :
    (c.attempt kind q work).outcome = (work q).outcome := by
  apply Compilation.outcome_congr (attempt_result h hcompiled)
  intro clause
  rw [attempt_cache h hcompiled]
  split
  · exact Cache.slot_with_compiled _ _ _
  · rfl

/-- A SELECT is compiled to the same from what is soundly kept and from nothing, and what is kept
afterwards is sound. -/
theorem within_select {s : Scope σ} {select : Select Query} {cache : Cache}
    (hr : s.compiler.resolver.Additive) (h : s.Kept select cache) :
    (within s .select cache (s.compiler.resolver.select select) s.select).outcome =
        (within s .select {} (s.compiler.resolver.select select) s.select).outcome ∧
      s.Kept select (within s .select cache (s.compiler.resolver.select select) s.select).cache ∧
      (within s .select cache (s.compiler.resolver.select select) s.select).cache.compiled =
        cache.compiled ∧
      (within s .select cache (s.compiler.resolver.select select) s.select).cache.compiling =
        false := by
  have hopen : s.Kept select { cache with compiling := true } :=
    h.congr fun _ => Cache.slot_with_compiling _ _ _
  rw [within_eq, within_eq]
  cases hprepared : s.compiler.resolver.select select s.compiler.resolver.start with
  | error e x => exact ⟨rfl, hopen.congr fun _ => Cache.slot_with_compiling _ _ _, rfl, rfl⟩
  | ok t x =>
    simp only
    generalize .asked (.prepare .select) ::
      Journal.ofLogs (Log.statement s.compiler.level .select) = j
    have hagree := hopen.select_agree hr hprepared j
    have hafter := hopen.after hr hprepared j
    have hcompiled :
        (endOf (s.select t ⟨{ cache with compiling := true }, ⟨x, [], [], j⟩⟩)).cache.compiled =
          cache.compiled := Scope.compiled_select _
    rw [show ({ ({} : Cache) with compiling := true } : Cache) = .begun from rfl]
    rcases hagree.both with ⟨sql, _, a, b, ha, hb, rfl, hslots⟩ | ⟨e, a, b, ha, hb⟩
    · rw [ha] at hafter hcompiled
      rw [ha, hb]
      refine ⟨Compilation.outcome_congr rfl fun clause => ?_,
        hafter.congr fun _ => Cache.slot_with_compiling _ _ _, hcompiled, rfl⟩
      simp only [close, Cache.slot_with_compiling]
      exact hslots clause
    · rw [ha] at hafter hcompiled
      rw [ha, hb]
      exact ⟨rfl, hafter.congr fun _ => Cache.slot_with_compiling _ _ _, hcompiled, rfl⟩

/-- The compilation of a statement that changes tables. -/
def withinWhole {α : Type} (s : Scope σ) (kind : StatementKind) (cache : Cache)
    (prepare : Hook σ α) (render : α → Render σ String) : Compilation :=
  within s kind cache prepare fun t => Assemble.segment .whole false (render t)

theorem withinWhole_agrees {α : Type} (kind : StatementKind) (s : Scope σ) (prepare : Hook σ α)
    (render : α → Render σ String) {cache : Cache} (h : Cache.Unfilled cache) :
    (withinWhole s kind cache prepare render).outcome =
        (withinWhole s kind {} prepare render).outcome ∧
      Cache.Unfilled (withinWhole s kind cache prepare render).cache ∧
      (withinWhole s kind cache prepare render).cache.compiled = cache.compiled ∧
      (withinWhole s kind cache prepare render).cache.compiling = false := by
  unfold withinWhole
  rw [within_eq, within_eq]
  cases prepare s.compiler.resolver.start with
  | error e x => exact ⟨rfl, (h.with_compiling true).with_compiling false, rfl, rfl⟩
  | ok t x =>
    simp only [Assemble.segment]
    generalize render t _ = result
    cases result with
    | error e p =>
      exact ⟨rfl, ((h.with_compiling true).put _).with_compiling false, rfl, rfl⟩
    | ok sql p =>
      have hours := ((h.with_compiling true).put ⟨none, p.bound⟩).with_compiling false
      have hempty := Cache.unfilled_empty.with_compiling true
      have hfresh := (hempty.put ⟨none, p.bound⟩).with_compiling false
      exact ⟨congrArg (fun b => (Except.ok ⟨sql, b⟩ : Except CompileError Compiled))
        (hours.bindings.trans hfresh.bindings.symm), hours, rfl, rfl⟩

/-- The scope of a SELECT that is not nested, in which nested queries may be nested `n` deep. -/
def selectScope (c : Compiler σ) (q : Query) (n : Nat) : Scope σ :=
  ⟨c, q.quoted, none, c.selectIn n⟩

/-- What a query keeps, is sound. -/
structure Sound (c : Compiler σ) (q : Query) (cache : Cache) : Prop where
  idle : cache.compiling = false
  select {n : Nat} {s : Select Query} : c.limits.nesting = n + 1 → q.statement = .select s →
    (c.selectScope q n).Kept s cache
  other : q.statement.kind ≠ .select → Cache.Unfilled cache

/-- What a query keeps is sound, and its text, if it keeps that, is what it is compiled to from
nothing. -/
structure Coherent (c : Compiler σ) (q : Query) : Prop where
  sound : Sound c q q.cache
  compiled {sql : String} : q.cache.compiled = some sql →
    (c.compile q.fresh).result = .ok ⟨sql, q.cache.bindings⟩

theorem Coherent.fresh (c : Compiler σ) (q : Query) : Coherent c q.fresh where
  sound := ⟨rfl, fun _ _ => .blank fun clause => by cases clause <;> rfl,
    fun _ => Cache.unfilled_empty⟩
  compiled := nofun

theorem Coherent.edit (h : Coherent c q) (e : Edit) : Coherent c (q.edit e) := by
  unfold Query.edit
  split
  · exact h
  have hidle := h.sound.idle
  refine ⟨⟨?_, ?_, ?_⟩, fun {sql} hsql => ?_⟩
  · exact (Cache.compiling_invalidate _ _).trans hidle
  · intro n s hn hs
    -- Either everything is dropped, or the edit is one of the statement and drops what it touches.
    rcases e.change_cases q with hall | ⟨hne, hchange⟩
    · refine .blank fun clause => ?_
      simp only [hall]
      exact Cache.slot_invalidate_nil hidle clause
    · simp only [hchange] at hs
      cases hstatement : q.statement with
      | select s' =>
        rw [hstatement] at hs
        obtain rfl : e.onSelect s' = s := Statement.select.inj hs
        have hscope : c.selectScope { e.change q with cache := q.cache.invalidate e.touches } n =
            c.selectScope q n := by simp only [hchange, selectScope]
        rw [hscope]
        exact (h.sound.select hn hstatement).edit hidle hne
      | _ => rw [hstatement] at hs; exact nomatch hs
  · intro hkind clause hclause
    rcases e.change_cases q with hall | ⟨hne, hchange⟩
    · simp only [hall]
      exact Cache.slot_invalidate_nil hidle clause
    · simp only [hchange, Edit.kind_onStatement] at hkind
      simp only [Cache.slot_invalidate hidle hne, h.sound.other hkind clause hclause]
      split <;> rfl
  · rw [Cache.compiled_invalidate hidle] at hsql
    exact nomatch hsql

theorem Sound.with_compiled {cache : Cache} (h : Sound c q cache) (compiled : Option String) :
    Sound c q { cache with compiled := compiled } where
  idle := h.idle
  select hn hs := (h.select hn hs).congr fun _ => Cache.slot_with_compiled _ _ _
  other hkind := fun clause hclause => by
    rw [Cache.slot_with_compiled, h.other hkind clause hclause]

theorem Sound.of_cache {cache cache' : Cache} (h : Sound c q cache) :
    Sound c { q with cache := cache' } cache where
  idle := h.idle
  select hn hs := h.select hn hs
  other hkind := h.other hkind

theorem query_of_cache {kind : StatementKind} (h : (c.compilation kind q).cache = q.cache) :
    (c.compileAs kind q).query = q := by
  change { q with cache := (c.compilation kind q).cache } = q
  rw [h]
  cases q
  rfl

/-- If the work on a query that keeps no text comes to the same as from nothing and keeps what is
sound, so does its compilation. -/
theorem Coherent.attempt {work : Query → Compilation} (h : Coherent c q)
    (hkind : q.statement.kind = kind)
    (hcompilation : ∀ r, c.compilation kind r = c.attempt kind r work)
    (hwork : q.cache.compiled = none → (work q).outcome = (work q.fresh).outcome ∧
      Sound c q (work q).cache ∧ (work q).cache.compiled = none) :
    (c.compile q).result = (c.compile q.fresh).result ∧ Coherent c (c.compile q).query := by
  subst hkind
  cases hcompiled : q.cache.compiled with
  | some sql =>
    have hattempt : c.attempt q.statement.kind q work = ⟨.ok sql, q.cache, []⟩ :=
      attempt_of_compiled rfl hcompiled
    rw [compile_result, h.compiled hcompiled, hcompilation, hattempt]
    refine ⟨rfl, ?_⟩
    have hquery : (c.compile q).query = q := query_of_cache (by rw [hcompilation, hattempt])
    rw [hquery]
    exact h
  | none =>
    obtain ⟨houtcome, hsound, hnone⟩ := hwork hcompiled
    have hsame : (c.compile q).result = (c.compile q.fresh).result := by
      rw [compile_result, compile_result, hcompilation]
      change _ = (c.compilation q.statement.kind q.fresh).outcome
      rw [hcompilation, outcome_attempt rfl hcompiled, houtcome]
      exact (outcome_attempt (q := q.fresh) rfl rfl).symm
    refine ⟨hsame, ⟨?_, fun {sql} hsql => ?_⟩⟩
    · apply Sound.of_cache (q := q)
      change Sound c q (c.compilation q.statement.kind q).cache
      rw [hcompilation, attempt_cache rfl hcompiled]
      split
      · exact hsound.with_compiled _
      · exact hsound
    · -- The text that is kept now is the one of this compilation, or there is none.
      apply hsame.symm.trans
      change (c.compilation q.statement.kind q).cache.compiled = some sql at hsql
      rw [hcompilation, attempt_cache rfl hcompiled] at hsql
      rw [compile_result]
      change _ = Except.ok (⟨sql, (c.compilation q.statement.kind q).cache.bindings⟩ : Compiled)
      rw [Compilation.outcome, hcompilation, attempt_result rfl hcompiled]
      split at hsql
      · rw [‹(work q).result = _›]
        exact congrArg (fun s => Except.ok (⟨s, _⟩ : Compiled)) (Option.some.inj hsql)
      · rw [hnone] at hsql
        exact nomatch hsql

theorem derived_agrees {select : Select Query} {a : Aggregate} {nested : Query → Compilation}
    (h : Sound c q q.cache) (hcompiled : q.cache.compiled = none)
    (hs : q.statement = .select select) :
    (c.derived q select a nested).outcome = (c.derived q.fresh select a nested).outcome ∧
      Sound c q (c.derived q select a nested).cache ∧
      (c.derived q select a nested).cache.compiled = none := by
  rw [derived_eq, derived_eq, show q.fresh.forRows select = q.forRows select from rfl]
  simp only [Query.fresh]
  generalize nested (q.forRows select) = done
  cases done.result with
  | error e => exact ⟨rfl, h, hcompiled⟩
  | ok sql =>
    simp only
    have hslots : ∀ (slot : Slot) (clause : Clause),
        ((q.cache.invalidate []).put .columns slot).slot clause =
          ((({} : Cache).invalidate []).put .columns slot).slot clause := by
      intro slot clause
      by_cases hclause : clause = .columns
      · rw [hclause, Cache.slot_put_self, Cache.slot_put_self]
      · rw [Cache.slot_put_ne _ _ hclause, Cache.slot_put_ne _ _ hclause,
          Cache.slot_invalidate_nil h.idle, Cache.slot_invalidate_nil rfl]
    refine ⟨Compilation.outcome_congr rfl (hslots _), ⟨?_, fun _ _ => ?_, fun hkind => ?_⟩, ?_⟩
    · exact (Cache.compiling_invalidate _ _).trans h.idle
    · -- The whole text stands in the slot of the columns, so the joins are missing.
      refine Scope.Kept.congr ?_ (hslots _)
      refine ⟨rfl, .inl rfl, .inl rfl, fun hall => ?_⟩
      rw [List.any_eq_false] at hall
      exact absurd rfl (hall .joins (by decide))
    · exact absurd (by rw [hs]; rfl) hkind
    · exact (Cache.compiled_put _ _ _).trans (Cache.compiled_invalidate h.idle _)

theorem whole_agrees {α : Type} {prepare : Hook σ α} {render : α → Render σ String}
    {s : Scope σ} (h : Sound c q q.cache) (hcompiled : q.cache.compiled = none)
    (hkind : q.statement.kind ≠ .select) :
    (withinWhole s kind q.cache prepare render).outcome =
        (withinWhole s kind {} prepare render).outcome ∧
      Sound c q (withinWhole s kind q.cache prepare render).cache ∧
      (withinWhole s kind q.cache prepare render).cache.compiled = none := by
  obtain ⟨houtcome, hunfilled, hnone, hidle⟩ :=
    withinWhole_agrees kind s prepare render (h.other hkind)
  refine ⟨houtcome, ⟨hidle, fun _ hs => ?_, fun _ => hunfilled⟩, hnone.trans hcompiled⟩
  exact absurd (by rw [hs]; rfl) hkind

theorem Coherent.compile_exceeded (h : Coherent c q) (hkind : q.statement.kind = .select)
    (hn : c.limits.nesting = 0) :
    (c.compile q).result = (c.compile q.fresh).result ∧ Coherent c (c.compile q).query := by
  have hrefused (r : Query) :
      c.compilation .select r = ⟨.error (.exceeded .nesting), r.cache, []⟩ := by
    change c.selectIn c.limits.nesting none r = _
    rw [hn]
    rfl
  constructor
  · rw [compile_result, compile_result]
    change _ = (c.compilation q.statement.kind q.fresh).outcome
    rw [hkind, hrefused, hrefused]
    rfl
  · change Coherent c (c.compileAs q.statement.kind q).query
    rw [query_of_cache (by rw [hkind, hrefused])]
    exact h

theorem Coherent.compile_select (hr : c.resolver.Additive) (h : Coherent c q)
    {select : Select Query} (hs : q.statement = .select select) :
    (c.compile q).result = (c.compile q.fresh).result ∧ Coherent c (c.compile q).query := by
  have hkind : q.statement.kind = .select := by rw [hs]; rfl
  cases hn : c.limits.nesting with
  | zero => exact h.compile_exceeded hkind hn
  | succ n =>
    apply h.attempt hkind fun r => (congrArg (c.selectIn · none r) hn).trans rfl
    intro hcompiled
    simp only [hs, Query.fresh]
    cases select.derivedAggregate? with
    | some a => exact derived_agrees h.sound hcompiled hs
    | none =>
      obtain ⟨houtcome, hafter, hnone, hidle⟩ := within_select hr (h.sound.select hn hs)
      refine ⟨houtcome, ⟨hidle, ?_, fun hne => absurd hkind hne⟩, hnone.trans hcompiled⟩
      intro m t hm ht
      obtain rfl : n = m := Nat.succ.inj (hn.symm.trans hm)
      obtain rfl : select = t := Statement.select.inj (hs.symm.trans ht)
      exact hafter

/-- A coherent query is compiled to the same as from nothing, and stays coherent. -/
theorem Coherent.compile (hr : c.resolver.Additive) (h : Coherent c q) :
    (c.compile q).result = (c.compile q.fresh).result ∧ Coherent c (c.compile q).query := by
  have hsound := h.sound
  cases hs : q.statement with
  | select select => exact h.compile_select hr hs
  | insert insert =>
    have hkind : q.statement.kind = .insert := by rw [hs]; rfl
    apply h.attempt hkind (fun _ => rfl)
    intro hcompiled
    simp only [hs, Query.fresh]
    exact whole_agrees hsound hcompiled (by rw [hkind]; decide)
  | update update =>
    have hkind : q.statement.kind = .update := by rw [hs]; rfl
    apply h.attempt hkind (fun _ => rfl)
    intro hcompiled
    simp only [hs, Query.fresh]
    exact whole_agrees hsound hcompiled (by rw [hkind]; decide)
  | delete delete =>
    have hkind : q.statement.kind = .delete := by rw [hs]; rfl
    apply h.attempt hkind (fun _ => rfl)
    intro hcompiled
    simp only [hs, Query.fresh]
    exact whole_agrees hsound hcompiled (by rw [hkind]; decide)

theorem compileAs_of_ne (h : q.statement.kind ≠ kind) : (c.compileAs kind q).query = q := by
  apply query_of_cache
  cases kind with
  | select =>
    change (c.selectIn c.limits.nesting none q).cache = q.cache
    cases c.limits.nesting with
    | zero => rfl
    | succ n => rw [selectIn, attempt_of_ne h]
  | _ =>
    change (c.mutationIn _ q).cache = q.cache
    rw [mutationIn, attempt_of_ne h]

/-- Every run from a query of which nothing is kept is coherent. -/
theorem Coherent.run (hr : c.resolver.Additive) (q : Query) (steps : List Step) :
    Coherent c (c.run q.fresh steps) := by
  refine c.run_keeps (fun _ e h => h.edit e) (fun r kind h => ?_) (.fresh c q) steps
  by_cases hkind : r.statement.kind = kind
  · rw [← hkind]
    exact (h.compile hr).2
  · rw [compileAs_of_ne hkind]
    exact h

/-- After any run, the next compilation comes to the same text and bindings, or the same error, as
that of the query without anything kept. -/
theorem compile_run_eq_compile_fresh (hr : c.resolver.Additive) (q : Query) (steps : List Step) :
    (c.compile (c.run q.fresh steps)).result =
      (c.compile (c.run q.fresh steps).fresh).result :=
  ((Coherent.run hr q steps).compile hr).1

end Compiler

theorem Resolver.declared_additive (types : List (String × TypeName)) :
    (declared types).Additive where
  extended := by
    intro s t x h
    injection h with hst _
    exact ⟨[], by rw [← hst, List.append_nil]⟩
  steady := by
    intro s s' t t' x x' hrows h h'
    injection h with hst hx
    injection h' with hst' hx'
    simp only [Select.rows, Select.mk.injEq] at hrows
    subst hst hst' hx hx'
    exact ⟨hrows.2.2.2.2.2.1, by rw [hrows.2.2.2.1]⟩
  table := ⟨.ok, fun _ _ => rfl⟩

namespace Compiler

theorem compile_run_limited :
    (Resolver.declared []).Additive ∧
      ((ofDialect .mysql).compile ((ofDialect .mysql).run (Query.empty .select).fresh
        [.edit (.table (.table "users")), .compile,
          .edit (.filter (.compare "age" ">" (.value (.text "18")))), .compileAs .insert,
          .edit (.limit (some 5)), .compile, .edit (.lock (some .write))])).result =
        .ok ⟨"SELECT users.* FROM users WHERE age > ? LIMIT 5 FOR UPDATE", [.text "18"]⟩ := by
  refine ⟨Resolver.declared_additive [], ?_⟩
  rw [compile_run_eq_compile_fresh (Resolver.declared_additive [])]
  cbv

/-- The compiler that hides deleted rows wherever the number of rows is limited. -/
def pager : Compiler (Option String) :=
  { ofDialect .mysql with
    resolver :=
      { Resolver.declared [] with
        select := fun s => Resolver.remember s.tables.head?
          (if s.limit.isSome then
            { s with filters := s.filters ++ [.compare "deleted" "=" (.value (.integer 0))] }
          else s) } }

theorem pager_extending : pager.resolver.Extending where
  extended := by
    intro s t x h
    injection h with hst _
    rw [← hst]
    split
    · exact ⟨_, rfl⟩
    · exact ⟨[], by rw [List.append_nil]⟩
  table := ⟨.ok, fun _ _ => rfl⟩

/-- A SELECT that is compiled and then limited. -/
def limitedUsers : Query :=
  pager.run (Query.empty .select).fresh
    [.edit (.table (.table "users")), .compile, .edit (.limit (some 5))]

/-- A filter that a resolver adds because of a limit is missed by a query that was compiled before
it got the limit. -/
theorem compile_limitedUsers_ne :
    pager.resolver.Extending ∧
      (pager.compile limitedUsers).result = .ok ⟨"SELECT users.* FROM users LIMIT 5", []⟩ ∧
      (pager.compile limitedUsers).result ≠ (pager.compile limitedUsers.fresh).result := by
  have hkept : (pager.compile limitedUsers).result =
      .ok ⟨"SELECT users.* FROM users LIMIT 5", []⟩ := by
    cbv
  have hfresh : (pager.compile limitedUsers.fresh).result =
      .ok ⟨"SELECT users.* FROM users WHERE deleted = ? LIMIT 5", [.integer 0]⟩ := by
    cbv
  refine ⟨pager_extending, hkept, ?_⟩
  rw [hkept, hfresh]
  intro hsame
  injection hsame with hsame
  injection hsame with _ hbindings
  cases hbindings

end Compiler

end ParamSql
