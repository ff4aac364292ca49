import ParamSql.Proofs.Tagged

namespace ParamSql

open Marked

variable {σ : Type}

/-- A result and its bindings, and the same with values inline. -/
inductive ResultShows (bindings : List Scalar) :
    Except CompileError String → Except CompileError Marked → Prop
  | ok {sql : String} {text : Marked} (h : Shows sql text) (hbindings : bindings = text.values) :
    ResultShows bindings (.ok sql) (.ok text)
  | error (e : CompileError) : ResultShows bindings (.error e) (.error e)

/-- What a compilation leaves behind of a query of a kind, and the same with values inline. -/
structure Compilation.Shows (kind : StatementKind) (d : Compilation) (r : InlineOutcome) :
    Prop where
  result : ResultShows d.cache.bindings d.result r.result
  cache : d.cache.Clean kind
  ledger : d.cache.ledger = r.ledger

theorem Inline.faithful {s : Inline σ} {I : σ → Prop} (hs : s.toScope.Clean I)
    (hnested : ∀ database q, (∀ name ∈ database, Plain name) → q.Clean →
      ResultShows (s.nested database q).cache.bindings (s.nested database q).result
        (s.nestedText database q)) : s.Faithful I := by
  refine ⟨hs, fun {q} base hq => ?_⟩
  refine (Progress.Twin.lift (C := fun database => ∀ name ∈ database, Plain name)
    fun database hdatabase => ?_).nextTwin fun database hdatabase => ?_
  · unfold Scope.databaseOf at hdatabase
    split at hdatabase
    · obtain rfl := Except.ok.inj hdatabase
      exact hs.database
    · rename_i connection hconnection
      split at hdatabase
      · obtain rfl := Except.ok.inj hdatabase
        exact hs.database
      · split at hdatabase
        · obtain rfl := Except.ok.inj hdatabase
          exact hq.unfold.connection connection hconnection
        · exact nomatch hdatabase
  · have hresult := hnested database q hdatabase hq
    revert hresult
    generalize s.nested database q = done, s.nestedText database q = text
    obtain ⟨result, cache, journal⟩ := done
    intro hresult
    simp only at hresult
    cases hresult with
    | ok hshows hbindings =>
      intro p q hpq
      exact .ok ⟨hshows, hpq.state, hpq.pending, by rw [← hpq.bound, ← hbindings], hpq.sound,
        hpq.clean⟩
    | error e => exact fun _ _ _ => .error fun _ => rfl

namespace Draft

variable {q : Query} {kind : StatementKind} {work : Draft → InlineOutcome}

theorem attempt_of_ne (h : q.statement.kind ≠ kind) :
    (of q).attempt kind work =
      ⟨.error (Compiler.mismatch kind q.statement.kind), q.cache.ledger⟩ :=
  if_pos h

theorem attempt_of_eq (h : q.statement.kind = kind) :
    (of q).attempt kind work =
      match q.cache.ledger.compiled with
      | some text => ⟨.ok text, q.cache.ledger⟩
      | none =>
        match (work (of q)).result with
        | .ok text =>
          { work (of q) with ledger := { (work (of q)).ledger with compiled := some text } }
        | .error _ => work (of q) :=
  if_neg fun hne => hne h

end Draft

namespace Compiler

variable {c : Compiler σ} {I : σ → Prop} {q : Query} {kind : StatementKind}

theorem attempt_shows (hq : q.Clean) {work : Query → Compilation} {inlined : Draft → InlineOutcome}
    (hwork : q.statement.kind = kind → q.cache.compiled = none →
      (work q).Shows kind (inlined (.of q))) :
    (c.attempt kind q work).Shows q.statement.kind ((Draft.of q).attempt kind inlined) := by
  have hcache := hq.unfold.cache
  by_cases hkind : q.statement.kind = kind
  · rw [Draft.attempt_of_eq hkind]
    cases hcompiled : q.cache.compiled with
    | some sql =>
      obtain ⟨hshows, hbindings⟩ := Shows.of_balanced (hcache.compiled sql hcompiled)
      rw [attempt_of_compiled hkind hcompiled, Cache.ledger, hcompiled]
      refine ⟨.ok hshows hbindings, hcache, ?_⟩
      rw [Cache.ledger, hcompiled]
      rfl
    | none =>
      have hdone := hwork hkind hcompiled
      have hresult : (c.attempt kind q work).result = (work q).result :=
        attempt_result hkind hcompiled
      have hkept : (c.attempt kind q work).cache = _ := attempt_cache hkind hcompiled
      rw [Cache.ledger, hcompiled, hkind]
      revert hdone hresult hkept
      generalize c.attempt kind q work = d, work q = done, inlined (.of q) = r
      obtain ⟨_, cache, _⟩ := d
      obtain ⟨result, cache', _⟩ := done
      obtain ⟨text, ledger⟩ := r
      -- A text that has just been compiled is kept by both, and it shows what both have kept.
      rintro ⟨hshown, hclean, hledger⟩ hresult hkept
      simp only at hshown hclean hledger hresult hkept
      subst hresult hkept hledger
      cases hshown with
      | error e => exact ⟨.error e, hclean, rfl⟩
      | @ok sql text hshows hbindings =>
        obtain ⟨hkept, hledger⟩ := hclean.with_compiled hshows hbindings
        refine ⟨.ok hshows ?_, hkept, hledger⟩
        rw [Cache.bindings_with_compiled]
        exact hbindings
  · rw [attempt_of_ne hkind, Draft.attempt_of_ne hkind]
    exact ⟨.error _, hcache, rfl⟩

theorem within_select_shows {s : Inline σ} (hs : s.Faithful I) {select : Select Query}
    (hselect : select.Clean Query.Clean) {cache : Cache} (hcache : cache.Clean .select)
    (hcompiled : cache.compiled = none) :
    (within s.toScope .select cache (s.compiler.resolver.select select) s.toScope.select).Shows
      .select
      (s.compiler.inlineWithin cache.ledger (s.compiler.resolver.select select) s.select) := by
  have hkept := (hcache.twin hcompiled).with_compiling true
  rw [within_eq, inlineWithin]
  cases hprepared : s.compiler.resolver.select select s.compiler.resolver.start with
  | error e x =>
    have hclosed := hkept.with_compiling false
    exact ⟨.error e, hclosed.clean rfl, hclosed.ledger_eq⟩
  | ok t x =>
    simp only
    generalize .asked (.prepare .select) ::
      Journal.ofLogs (Log.statement s.compiler.level .select) = j
    obtain ⟨hprepared, hstate⟩ := hs.scope.resolver.select hselect hs.scope.resolver.start hprepared
    have hresult := hs.select (a := ⟨{ cache with compiling := true }, ⟨x, [], [], j⟩⟩)
      (b := ⟨cache.ledger, ⟨x, [], [], []⟩⟩) hprepared
      ⟨hkept, rfl, rfl, rfl, hstate, fun _ hmem => absurd hmem List.not_mem_nil⟩
    revert hresult
    generalize s.toScope.select t _ = r, s.select t _ = r'
    intro hresult
    cases hresult with
    | ok h =>
      have hclosed := h.kept.with_compiling false
      refine ⟨.ok h.shows ?_, hclosed.clean rfl, hclosed.ledger_eq⟩
      exact (Cache.bindings_with_compiling ..).trans h.bindings
    | error e h =>
      have hclosed := h.with_compiling false
      exact ⟨.error e, hclosed.clean rfl, hclosed.ledger_eq⟩

theorem close_whole_shows {cache : Cache} (hcache : cache.Clean kind) (hkind : kind ≠ .select)
    (hcompiled : cache.compiled = none) (p : Progress σ) {result : Except CompileError String}
    {text : Except CompileError Marked} (hresult : ResultShows p.bound result text) :
    (close result
      ⟨Cache.put { cache with compiling := true } .whole ⟨none, p.bound⟩, p⟩).Shows kind
      ⟨text, cache.ledger⟩ := by
  obtain ⟨hclean, hledger, hbindings⟩ := hcache.put_whole hkind hcompiled p.bound
  have hput : ({ (Cache.put { cache with compiling := true } .whole ⟨none, p.bound⟩) with
      compiling := false } : Cache) = cache.put .whole ⟨none, p.bound⟩ := by
    rw [← hcache.idle]
    rfl
  rw [close, hput]
  refine ⟨?_, hclean, hledger⟩
  rw [hbindings]
  exact hresult

theorem within_whole_shows {α : Type} {s : Scope σ} {prepare : Hook σ α}
    {render : α → Render σ String} {text : α → Render σ Marked}
    (hprepare : ∀ t x, prepare s.compiler.resolver.start = .ok t x → I x ∧
      Lockstep True (Progress.Twin I []) (render t) (text t) (Writes I []))
    {cache : Cache} (hcache : cache.Clean kind) (hkind : kind ≠ .select)
    (hcompiled : cache.compiled = none) :
    (within s kind cache prepare fun t => Assemble.segment .whole false (render t)).Shows kind
      (s.compiler.inlineWithin cache.ledger prepare fun t => InlineAssemble.render (text t)) := by
  rw [within_eq, inlineWithin]
  cases hprepared : prepare s.compiler.resolver.start with
  | error e x =>
    refine ⟨.error e, ?_, ?_⟩
    · change Cache.Clean kind { { cache with compiling := true } with compiling := false }
      rw [Cache.reopened hcache.idle]
      exact hcache
    · change Cache.ledger { { cache with compiling := true } with compiling := false } = _
      rw [Cache.reopened hcache.idle]
  | ok t x =>
    simp only [Assemble.segment, InlineAssemble.render]
    generalize .asked (.prepare kind) ::
      Journal.ofLogs (Log.statement s.compiler.level kind) = j
    obtain ⟨hstate, hwrites⟩ := hprepare t x hprepared
    have hresult := hwrites ⟨x, [], [], j⟩ ⟨x, [], [], []⟩
      ⟨rfl, rfl, rfl, hstate, fun _ hmem => absurd hmem List.not_mem_nil⟩
    rcases hresult.both with ⟨sql, m, p, q, hp, hq, h⟩ | ⟨e, p, q, hp, hq⟩
    · rw [hp, hq]
      exact close_whole_shows hcache hkind hcompiled _ (.ok h.1 h.2.bound)
    · rw [hp, hq]
      exact close_whole_shows hcache hkind hcompiled _ (.error _)

theorem derived_shows (hd : c.platform.BuiltIn) (hq : q.Clean) {select : Select Query}
    {a : Aggregate} (hs : q.statement = .select select) {nested : Query → Compilation}
    {inlined : Draft → InlineOutcome}
    (hnested : ∀ r : Query, r.Clean → r.statement.kind = .select →
      (nested r).Shows .select (inlined (.of r))) :
    (c.derived q select a nested).Shows .select (c.inlineDerived (.of q) select a inlined) := by
  obtain ⟨hstatement, hconnection, hcache⟩ := hq.unfold
  have hkind : q.statement.kind = .select := by rw [hs]; rfl
  rw [hs] at hstatement
  rw [hkind] at hcache
  have hselect : Statement.Clean Query.Clean (.select { select with aggregate := none }) := by
    cases hstatement with
    | select h =>
      exact .select ⟨h.columns, by simp, h.tables, h.joins, h.filters, h.groups, h.having, h.orders⟩
  have hinner : (q.forRows select).Clean := .fold ⟨hselect, hconnection, .empty⟩
  have hdone := hnested _ hinner rfl
  rw [derived_eq, inlineDerived]
  rw [show Draft.of ((Draft.of q).query.forRows select) = .of (q.forRows select) from rfl]
  revert hdone
  generalize nested (q.forRows select) = done, inlined (.of (q.forRows select)) = r
  obtain ⟨result, cache, journal⟩ := done
  obtain ⟨text, ledger⟩ := r
  rintro ⟨hresult, _, _⟩
  simp only at hresult
  cases hresult with
  | error e => exact ⟨.error e, hcache, rfl⟩
  | @ok sql text hshows hbindings =>
    have hclean : (q.cache.invalidate []).Clean .select := hcache.invalidate fun _ => rfl
    have hblank := hclean.twin (Cache.compiled_invalidate hcache.idle [])
    rw [Cache.ledger_invalidate hcache.idle] at hblank
    have hhead :
        Plain ("SELECT " ++ c.platform.aggregate a.function "*" ++ " AS aggregate FROM (") :=
      (Plain.append (by decide) (hd.plain_aggregate _ (by decide))).append (by decide)
    have htext := hshows.between (b := ") AS derived_query") hhead (by decide)
    have hcolumns : SlotShows .columns _ _ := .kept htext (by simp)
    have hkept := hblank.put (by decide) hcolumns
    simp only [values_append, values_lit, List.nil_append, List.append_nil, ← hbindings] at hkept
    refine ⟨.ok htext ?_, hkept.clean ?_, hkept.ledger_eq⟩
    · simp only [values_append, values_lit, List.nil_append, List.append_nil, ← hbindings]
      exact Cache.bindings_put_columns hcache.idle _
    · exact (Cache.compiling_invalidate _ _).trans hcache.idle

/-- SELECTs are compiled as with values inline, however deep they are nested. -/
theorem selectIn_shows (hd : c.platform.BuiltIn) (hr : c.resolver.Clean I) (n : Nat)
    {database : Option String} (hdatabase : ∀ name ∈ database, Plain name) (hq : q.Clean) :
    (c.selectIn n database q).Shows q.statement.kind (c.inlineSelectIn n database (.of q)) := by
  induction n generalizing database q with
  | zero => exact ⟨.error _, hq.unfold.cache, rfl⟩
  | succ n ih =>
    rw [selectIn, inlineSelectIn]
    apply attempt_shows hq
    intro hkind hcompiled
    obtain ⟨hstatement, _, hcache⟩ := hq.unfold
    rw [hkind] at hcache
    simp only [Draft.of, Query.fresh]
    cases hs : q.statement with
    | select select =>
      rw [hs] at hstatement
      cases hstatement with
      | select hselect =>
        simp only
        cases select.derivedAggregate? with
        | some a =>
          apply derived_shows hd hq hs
          intro r hr hkind
          rw [← hkind]
          exact ih hdatabase hr
        | none =>
          refine within_select_shows (I := I) (s := ⟨⟨c, q.quoted, database, c.selectIn n⟩, _⟩) ?_
            hselect hcache hcompiled
          apply Inline.faithful ⟨hd, hr, hdatabase⟩
          intro database r hdatabase hr
          exact (ih hdatabase hr).result
    | insert _ => rw [hs] at hkind; exact nomatch hkind
    | update _ => rw [hs] at hkind; exact nomatch hkind
    | delete _ => rw [hs] at hkind; exact nomatch hkind

theorem inlineScope_faithful (hd : c.platform.BuiltIn) (hr : c.resolver.Clean I) (q : Query) :
    (c.inlineScope q).Faithful I :=
  Inline.faithful ⟨hd, hr, nofun⟩ fun _ _ hdatabase hq =>
    (selectIn_shows hd hr _ hdatabase hq).result

theorem mutationIn_shows (hd : c.platform.BuiltIn) (hr : c.resolver.Clean I)
    (hkind : kind ≠ .select) (hq : q.Clean) :
    (c.mutationIn kind q).Shows q.statement.kind (c.inlineMutation kind (.of q)) := by
  apply attempt_shows hq
  intro heq hcompiled
  obtain ⟨hstatement, _, hcache⟩ := hq.unfold
  rw [heq] at hcache
  have hs := inlineScope_faithful hd hr q.fresh
  have hwhole {α : Type} {prepare : Hook σ α} {render : α → Render σ String}
      {text : α → Render σ Marked}
      (hprepare : ∀ t x, prepare c.resolver.start = .ok t x → I x ∧
        Lockstep True (Progress.Twin I []) (render t) (text t) (Writes I [])) :=
    within_whole_shows (s := c.scope q.fresh) hprepare hcache hkind hcompiled
  simp only [Draft.of, show q.fresh.statement = q.statement from rfl]
  cases hq : q.statement with
  | select _ =>
    rw [hq] at heq
    exact absurd heq.symm hkind
  | insert insert =>
    rw [hq] at hstatement heq
    cases hstatement with
    | insert hinsert =>
      cases heq
      apply hwhole
      intro t x ht
      obtain ⟨hclean, hstate⟩ := hr.insert hinsert hr.start ht
      exact ⟨hstate, hs.insert hclean⟩
  | update update =>
    rw [hq] at hstatement heq
    cases hstatement with
    | update hupdate =>
      cases heq
      apply hwhole
      intro t x ht
      obtain ⟨hclean, hstate⟩ := hr.update hupdate hr.start ht
      exact ⟨hstate, hs.update hclean⟩
  | delete delete =>
    rw [hq] at hstatement heq
    cases hstatement with
    | delete hdelete =>
      cases heq
      apply hwhole
      intro t x ht
      obtain ⟨hclean, hstate⟩ := hr.delete hdelete hr.start ht
      exact ⟨hstate, hs.delete hclean⟩

theorem compilation_shows (hd : c.platform.BuiltIn) (hr : c.resolver.Clean I) (kind : StatementKind)
    (hq : q.Clean) :
    (c.compilation kind q).Shows q.statement.kind (c.inlineCompilation kind (.of q)) := by
  cases kind with
  | select => exact selectIn_shows hd hr _ nofun hq
  | insert => exact mutationIn_shows hd hr nofun hq
  | update => exact mutationIn_shows hd hr nofun hq
  | delete => exact mutationIn_shows hd hr nofun hq

end Compiler

end ParamSql
