import Mathlib
import ParamSql.Proofs.Cleanup
import ParamSql.Proofs.YieldsSelect

namespace ParamSql

variable {σ α : Type} {R : String → Prop} {I : σ → Prop}

/-- A compiled statement that is spelled as the marked text. -/
structure Compiled.SpelledAs (d : Compiled) (m : Marked) : Prop where
  spelled : m.Spelled
  text : d.sql.toList = m.text
  bindings : d.bindings = m.values

/-- What a compilation leaves behind is spelled: its text with the bindings, and what a query of the
kind now keeps. -/
structure Compilation.Spelled (kind : StatementKind) (done : Compilation) : Prop where
  result {sql : String} : done.result = .ok sql → Spelling sql done.cache.bindings
  cache : done.cache.Spelled kind

namespace Compiler

variable {c : Compiler σ} {q : Query} {kind : StatementKind}

theorem attempt_spelled {work : Query → Compilation} (hq : q.cache.Spelled q.statement.kind)
    (hwork : q.statement.kind = kind → q.cache.compiled = none → (work q).Spelled kind) :
    (c.attempt kind q work).Spelled q.statement.kind := by
  by_cases hkind : q.statement.kind = kind
  · cases hcompiled : q.cache.compiled with
    | some sql =>
      rw [attempt_of_compiled hkind hcompiled]
      refine ⟨?_, hq⟩
      rintro _ ⟨⟩
      exact hq.compiled sql hcompiled
    | none =>
      obtain ⟨hresult, hcache⟩ := hwork hkind hcompiled
      have hkept : (c.attempt kind q work).cache = _ := attempt_cache hkind hcompiled
      rw [hkind]
      cases hdone : (work q).result with
      | error e =>
        rw [hdone] at hkept
        refine ⟨fun hok => ?_, by rw [hkept]; exact hcache⟩
        rw [attempt_result hkind hcompiled, hdone] at hok
        cases hok
      | ok sql =>
        rw [hdone] at hkept
        rw [hdone] at hresult
        refine ⟨fun hok => ?_, by rw [hkept]; exact hcache.with_compiled (hresult rfl)⟩
        rw [attempt_result hkind hcompiled, hdone] at hok
        cases hok
        rw [hkept, Cache.bindings_with_compiled]
        exact hresult rfl
  · rw [attempt_of_ne hkind]
    exact ⟨nofun, hq⟩

theorem within_select_spelled {s : Scope σ} (hs : s.Safe R I) {select : Select Query}
    (hselect : select.Safe R (Query.Safe R)) {cache : Cache} (hcache : cache.Spelled .select)
    (hcompiled : cache.compiled = none) :
    (within s .select cache (s.compiler.resolver.select select) s.select).Spelled .select := by
  have hopened : Cache.Underway { cache with compiling := true } :=
    Cache.Underway.with_compiling ⟨hcache, hcompiled⟩ true
  rw [within_eq]
  cases hprepared : s.compiler.resolver.select select s.compiler.resolver.start with
  | error e x => exact ⟨nofun, hopened.spelled.with_compiling false⟩
  | ok t x =>
    simp only
    generalize .asked (.prepare .select) ::
      Journal.ofLogs (Log.statement s.compiler.level .select) = j
    obtain ⟨ht, hx⟩ := hs.resolver.select hselect hs.resolver.start hprepared
    obtain ⟨hfares, htext⟩ := hs.select (a := ⟨{ cache with compiling := true }, ⟨x, [], [], j⟩⟩)
      ht hopened ⟨hx, nofun⟩
    revert hfares htext
    generalize s.select t _ = result
    intro hfares htext
    cases hfares with
    | error e hcache => exact ⟨nofun, hcache.spelled.with_compiling false⟩
    | ok sql hcache _ =>
      refine ⟨?_, hcache.spelled.with_compiling false⟩
      rintro _ ⟨⟩
      have hspelling := htext sql _ rfl
      rwa [← Cache.bindings_with_compiling _ false] at hspelling

theorem within_whole_spelled {s : Scope σ} {prepare : Hook σ α} {render : α → Render σ String}
    (hprepare : ∀ t x, prepare s.compiler.resolver.start = .ok t x →
      I x ∧ Render.Yields R I (render t) Spelling)
    {cache : Cache} (hcache : cache.Spelled kind) (hkind : kind ≠ .select)
    (hcompiled : cache.compiled = none) :
    (within s kind cache prepare fun t => Assemble.segment .whole false (render t)).Spelled
      kind := by
  have hopened := hcache.with_compiling true
  rw [within_eq]
  cases hprepared : prepare s.compiler.resolver.start with
  | error e x => exact ⟨nofun, hopened.with_compiling false⟩
  | ok t x =>
    simp only [Assemble.segment]
    generalize .asked (.prepare kind) ::
      Journal.ofLogs (Log.statement s.compiler.level kind) = j
    obtain ⟨hx, hrender⟩ := hprepare t x hprepared
    cases hresult : render t ⟨x, [], [], j⟩ with
    | error e p => exact ⟨nofun, (hopened.put_whole hkind hcompiled _).with_compiling false⟩
    | ok sql p =>
      obtain ⟨_, xs, hxs, hsql⟩ := hrender ⟨x, [], [], j⟩ sql p ⟨hx, nofun⟩ hresult
      obtain rfl : p.bound = xs := hxs
      refine ⟨?_, (hopened.put_whole hkind hcompiled _).with_compiling false⟩
      rintro _ ⟨⟩
      change Spelling sql (Cache.bindings { Cache.put _ .whole _ with compiling := false })
      rw [Cache.bindings_with_compiling, ((hopened.others hkind).put _).bindings]
      exact hsql

theorem derived_spelled (hd : c.platform.BuiltIn) (hcache : q.cache.Spelled .select)
    (hidle : q.cache.compiling = false) {select : Select Query} {a : Aggregate}
    {nested : Query → Compilation} (hnested : (nested (q.forRows select)).Spelled .select) :
    (c.derived q select a nested).Spelled .select := by
  rw [derived_eq]
  cases hresult : (nested (q.forRows select)).result with
  | error e => exact ⟨nofun, hcache⟩
  | ok sql =>
    have hverb : Quiet "SELECT " := .word (by decide)
    have hhead : Quiet ("SELECT " ++ c.platform.aggregate a.function "*" ++
        " AS aggregate FROM (") :=
      (hverb.append (hd.quiet_aggregate _ (.word (by decide)))).append (.word (by decide))
    have htext := (hnested.result hresult).between hhead (.word (by decide) :
      Quiet ") AS derived_query")
    have hblank : Cache.Underway (q.cache.invalidate []) :=
      ⟨.blank hidle, Cache.compiled_invalidate hidle []⟩
    have hcolumns : Cache.Underway (Cache.put _ .columns
        ⟨some _, (nested (q.forRows select)).cache.bindings⟩) :=
      hblank.put (by decide) <| by
        rintro _ ⟨⟩
        exact ⟨htext, nofun⟩
    refine ⟨?_, hcolumns.spelled⟩
    rintro _ ⟨⟩
    change Spelling _ (Cache.bindings (Cache.put _ .columns _))
    rw [Cache.bindings_put_columns hidle]
    exact htext

/-- Safe SELECTs are compiled to spelled text, however deep they are nested. -/
theorem selectIn_spelled (hd : c.platform.BuiltIn) (hr : c.resolver.Safe R I) (n : Nat)
    (database : Option String) (hquoted : q.quoted = true) (hq : q.SafeBy R (Query.Safe R)) :
    (c.selectIn n database q).Spelled q.statement.kind := by
  induction n generalizing database q with
  | zero => exact ⟨nofun, hq.cache hquoted⟩
  | succ n ih =>
    rw [selectIn]
    apply attempt_spelled (hq.cache hquoted)
    intro hkind hcompiled
    have hstatement := hq.statement
    have hcache := hq.cache hquoted
    rw [hkind] at hcache
    cases hs : q.statement with
    | select select =>
      rw [hs] at hstatement
      cases hstatement with
      | select hselect =>
        simp only
        cases select.derivedAggregate? with
        | some a =>
          apply derived_spelled hd hcache hq.idle
          apply ih database (q := q.forRows select) hquoted
          exact ⟨.select { hselect with }, rfl, fun _ => .empty⟩
        | none =>
          apply within_select_spelled (I := I) _ hselect hcache hcompiled
          refine ⟨hd, hquoted, hr, ?_⟩
          intro database r sql hsafe hok
          obtain ⟨hquoted, hsafe⟩ := hsafe.unfold
          exact (ih database hquoted hsafe).result hok
    | insert _ => rw [hs] at hkind; exact nomatch hkind
    | update _ => rw [hs] at hkind; exact nomatch hkind
    | delete _ => rw [hs] at hkind; exact nomatch hkind

theorem scope_safe (hd : c.platform.BuiltIn) (hr : c.resolver.Safe R I) (hquoted : q.quoted = true) :
    (c.scope q).Safe R I := by
  refine ⟨hd, hquoted, hr, ?_⟩
  intro database r sql hsafe hok
  obtain ⟨hquoted, hsafe⟩ := hsafe.unfold
  exact (selectIn_spelled hd hr _ database hquoted hsafe).result hok

theorem mutationIn_spelled (hd : c.platform.BuiltIn) (hr : c.resolver.Safe R I)
    (hkind : kind ≠ .select) (hquoted : q.quoted = true) (hq : q.SafeBy R (Query.Safe R)) :
    (c.mutationIn kind q).Spelled q.statement.kind := by
  apply attempt_spelled (hq.cache hquoted)
  intro heq hcompiled
  have hs := scope_safe hd hr hquoted
  have hstatement := hq.statement
  have hcache := hq.cache hquoted
  rw [heq] at hcache
  have hwhole {α : Type} {prepare : Hook σ α} {render : α → Render σ String}
      (hprepare : ∀ t x, prepare c.resolver.start = .ok t x →
        I x ∧ Render.Yields R I (render t) Spelling) :=
    within_whole_spelled (s := c.scope q) hprepare hcache hkind hcompiled
  cases hq : q.statement with
  | select _ =>
    rw [hq] at heq
    exact absurd heq.symm hkind
  | insert insert =>
    rw [hq] at hstatement heq
    cases hstatement with
    | insert hinsert =>
      cases heq
      apply hwhole
      intro t x ht
      obtain ⟨hsafe, hx⟩ := hr.insert hinsert hr.start ht
      exact ⟨hx, hs.insert hsafe⟩
  | update update =>
    rw [hq] at hstatement heq
    cases hstatement with
    | update hupdate =>
      cases heq
      apply hwhole
      intro t x ht
      obtain ⟨hsafe, hx⟩ := hr.update hupdate hr.start ht
      exact ⟨hx, hs.update hsafe⟩
  | delete delete =>
    rw [hq] at hstatement heq
    cases hstatement with
    | delete hdelete =>
      cases heq
      apply hwhole
      intro t x ht
      obtain ⟨hsafe, hx⟩ := hr.delete hdelete hr.start ht
      exact ⟨hx, hs.delete hsafe⟩

theorem compilation_spelled (hd : c.platform.BuiltIn) (hr : c.resolver.Safe R I)
    (kind : StatementKind) (hquoted : q.quoted = true) (hq : q.SafeBy R (Query.Safe R)) :
    (c.compilation kind q).Spelled q.statement.kind := by
  cases kind with
  | select => exact selectIn_spelled hd hr _ none hquoted hq
  | insert => exact mutationIn_spelled hd hr nofun hquoted hq
  | update => exact mutationIn_spelled hd hr nofun hquoted hq
  | delete => exact mutationIn_spelled hd hr nofun hquoted hq

theorem compileAs_safe (hd : c.platform.BuiltIn) (hr : c.resolver.Safe R I) (kind : StatementKind)
    (hq : q.SafeBy R (Query.Safe R)) :
    (c.compileAs kind q).query.SafeBy R (Query.Safe R) where
  statement := hq.statement
  idle := (compilation_settles hq.idle kind).idle
  cache := by
    intro hquoted
    exact (compilation_spelled (q := q) hd hr kind hquoted hq).cache

/-- A run by safe edits leaves a query safe. -/
theorem run_safe (hd : c.platform.BuiltIn) (hr : c.resolver.Safe R I)
    (hq : q.SafeBy R (Query.Safe R)) {steps : List Step}
    (hsteps : ∀ e, .edit e ∈ steps → e.Safe R) :
    (c.run q steps).SafeBy R (Query.Safe R) := by
  induction steps generalizing q with
  | nil => exact hq
  | cons step steps ih =>
    apply ih _ fun e he => hsteps e (List.mem_cons_of_mem _ he)
    cases step with
    | edit e => exact (hsteps e (List.mem_cons_self ..)).edit hq
    | compile => exact compileAs_safe hd hr q.statement.kind hq
    | compileAs kind => exact compileAs_safe hd hr kind hq

/-- A safe query that quotes its names is compiled to a text that is spelled in one way. -/
theorem compile_spelled (hd : c.platform.BuiltIn) (hr : c.resolver.Safe R I)
    (hquoted : q.quoted = true) (hq : q.SafeBy R (Query.Safe R)) {d : Compiled}
    (hok : (c.compile q).result = .ok d) :
    ∃ m : Marked, d.SpelledAs m ∧ ∀ n : Marked, d.SpelledAs n → n = m := by
  have hdone := compilation_spelled hd hr q.statement.kind hquoted hq
  change (c.compilation q.statement.kind q).result.map _ = _ at hok
  cases hresult : (c.compilation q.statement.kind q).result with
  | error e =>
    rw [hresult] at hok
    cases hok
  | ok sql =>
    rw [hresult] at hok
    cases hok
    obtain ⟨m, hm, htext, hvalues⟩ := hdone.result hresult
    refine ⟨m, ⟨hm, htext, hvalues⟩, fun n hn => ?_⟩
    exact hn.spelled.unique hm (hn.text.symm.trans htext) (hn.bindings.symm.trans hvalues)

theorem interpolated_of_spelledAs {d : Compiled} {m : Marked} (h : d.SpelledAs m) :
    c.interpolated d = String.ofList (m.written fun x => (c.platform.quoteLiteral x).toList) := by
  rw [interpolated, h.text, h.bindings, Interpolation.scan_spelled h.spelled]

/-- After any run of safe edits and compilations, a query that quotes its names is interpolated to
what it is compiled to, with a literal of each binding in the place of its placeholder and every
other character as it is; a failure is passed on. What the names and the bindings are does not
matter, and the text alone tells which of its characters are placeholders. -/
theorem interpolate_run_written (hd : c.platform.BuiltIn) (hr : c.resolver.Safe R I)
    (hq : q.SafeBy R (Query.Safe R)) {steps : List Step}
    (hsteps : ∀ e, .edit e ∈ steps → e.Safe R) (hquoted : (c.run q steps).quoted = true) :
    match (c.compile (c.run q steps)).result with
    | .error e => (c.interpolate (c.run q steps)).result = .error e
    | .ok d => ∃ m : Marked, d.SpelledAs m ∧ (∀ n : Marked, d.SpelledAs n → n = m) ∧
        (c.interpolate (c.run q steps)).result =
          .ok (String.ofList (m.written fun x => (c.platform.quoteLiteral x).toList)) := by
  have hsafe := run_safe hd hr hq hsteps
  have hinterpolate : (c.interpolate (c.run q steps)).result =
      (c.compile (c.run q steps)).result.map c.interpolated := rfl
  rw [hinterpolate]
  cases hresult : (c.compile (c.run q steps)).result with
  | error e => rfl
  | ok d =>
    obtain ⟨m, hm, hunique⟩ := compile_spelled hd hr hquoted hsafe hresult
    exact ⟨m, hm, hunique, congrArg Except.ok (interpolated_of_spelledAs hm)⟩

/-- A query built clause by clause, with placeholders, quotes and backslashes in its names and
values. -/
def oddSteps : List Step :=
  [.edit (.table (.table "a?b`c")), .compile, .edit (.quoted true),
    .edit (.having (.compare "n?" ">" (.value (.text "7")))), .compile,
    .edit (.column ⟨.fragment (.ofColumn "z'" (some "LOWER")), some "?"⟩),
    .edit (.filter (.compare "u\\?.x`\x22y" "=" (.value (.text "it's ?")))),
    .edit (.filter (.fragment .or (.text "1 = 2")))]

/-- What it is compiled to. -/
def oddCompiled : Compiled where
  sql := "SELECT LOWER(`z'`) AS `?` FROM `a?b``c` WHERE `u\\?`.`x``\x22y` = ? OR 1 = 2 " ++
    "HAVING `n?` > ?"
  bindings := [.text "it's ?", .text "7"]

theorem interpolate_run_oddSteps :
    ((ofDialect .mysql).compile ((ofDialect .mysql).run (Query.empty .select) oddSteps)).result =
      .ok oddCompiled ∧
    ((ofDialect .mysql).interpolate
      ((ofDialect .mysql).run (Query.empty .select) oddSteps)).result =
      .ok ("SELECT LOWER(`z'`) AS `?` FROM `a?b``c` WHERE `u\\?`.`x``\x22y` = 'it''s ?' " ++
        "OR 1 = 2 HAVING `n?` > '7'") := by
  have hcompiled : ((ofDialect .mysql).compile
      ((ofDialect .mysql).run (Query.empty .select) oddSteps)).result = .ok oddCompiled := by
    cbv
  have hsteps : ∀ e, .edit e ∈ oddSteps → e.Safe fun _ => True := by
    simp only [oddSteps, List.mem_cons, Step.edit.injEq, reduceCtorEq, List.not_mem_nil,
      or_false, false_or]
    rintro e (rfl | rfl | rfl | rfl | rfl | rfl)
    · exact .table ⟨.name _, fun _ _ => trivial⟩
    · exact .quoted true
    · exact .having (.comparison .and (.value _))
    · exact .column (.fragment (.ofColumn _ fun _ hf => Option.some.inj hf ▸ .word (by decide)))
    · exact .filter (.comparison .and (.value _))
    · exact .filter (.fragment .or (.raw (by decide)))
  have hwritten := interpolate_run_written (c := ofDialect .mysql) ⟨.mysql, rfl⟩
    (Resolver.declared_safe [] fun _ => True) (Query.empty_safe .select) hsteps rfl
  rw [hcompiled] at hwritten
  obtain ⟨m, hm, _, hresult⟩ := hwritten
  refine ⟨hcompiled, ?_⟩
  rw [hresult, ← Interpolation.scan_spelled hm.spelled, ← hm.text, ← hm.bindings]
  rfl

end Compiler

end ParamSql
