import Mathlib
import ParamSql.Proofs.Coherent
import ParamSql.Proofs.Placeholders

namespace ParamSql

open Marked

variable {σ : Type}

namespace Edit.Clean

variable {e : Edit} (he : e.Clean)

include he

theorem onSelect {s : Select Query} (hs : s.Clean Query.Clean) :
    (e.onSelect s).Clean Query.Clean := by
  cases he with
  | table h => exact { hs with tables := forall_mem_concat hs.tables h }
  | column h => exact { hs with columns := forall_mem_concat hs.columns h }
  | columns h =>
    refine { hs with columns := List.forall_mem_append.2 ⟨hs.columns, ?_⟩ }
    exact List.forall_mem_map.2 fun name hname => ⟨.name (h name hname), nofun⟩
  | distinct flag => exact { hs with }
  | aggregate h => exact { hs with aggregate := h }
  | filter h => exact { hs with filters := forall_mem_concat hs.filters h }
  | join h => exact { hs with joins := forall_mem_concat hs.joins h }
  | group h => exact { hs with groups := forall_mem_concat hs.groups h }
  | having h => exact { hs with having := forall_mem_concat hs.having h }
  | order h => exact { hs with orders := forall_mem_concat hs.orders h }
  | limit n => exact { hs with }
  | offset n => exact { hs with }
  | lock mode => exact { hs with }
  | _ => exact hs

theorem onInsert {s : Insert Query} (hs : s.Clean Query.Clean) :
    (e.onInsert s).Clean Query.Clean := by
  cases he with
  | @table t h => exact ⟨fun _ ht => Option.some.inj ht ▸ h, hs.source⟩
  | @assign a h =>
    refine ⟨hs.table, ?_⟩
    change InsertSource.Clean Query.Clean (assigned s.source a)
    have hsource := hs.source
    revert hsource
    generalize s.source = source
    intro hsource
    cases hsource with
    | assignments hitems => exact .assignments (forall_mem_concat hitems h)
    | query _ => exact .assignments (List.forall_mem_singleton.2 h)
  | rows h => exact ⟨hs.table, .query h⟩
  | ignore flag => exact ⟨hs.table, hs.source⟩
  | replace flag => exact ⟨hs.table, hs.source⟩
  | _ => exact hs

theorem onUpdate {s : Update Query} (hs : s.Clean Query.Clean) :
    (e.onUpdate s).Clean Query.Clean := by
  cases he with
  | table h => exact { hs with table := fun _ ht => Option.some.inj ht ▸ h }
  | assign h => exact { hs with assignments := forall_mem_concat hs.assignments h }
  | filter h => exact { hs with filters := forall_mem_concat hs.filters h }
  | _ => exact hs

theorem onDelete {s : Delete Query} (hs : s.Clean Query.Clean) :
    (e.onDelete s).Clean Query.Clean := by
  cases he with
  | table h => exact { hs with table := fun _ ht => Option.some.inj ht ▸ h }
  | filter h => exact { hs with filters := forall_mem_concat hs.filters h }
  | _ => exact hs

theorem onStatement {s : Statement Query} (hs : s.Clean Query.Clean) :
    (e.onStatement s).Clean Query.Clean := by
  cases hs with
  | select hs => exact .select (he.onSelect hs)
  | insert hs => exact .insert (he.onInsert hs)
  | update hs => exact .update (he.onUpdate hs)
  | delete hs => exact .delete (he.onDelete hs)

theorem change {q : Query} (hq : q.Clean) :
    (e.change q).statement.Clean Query.Clean ∧ ∀ c ∈ (e.change q).connection, c.Clean := by
  obtain ⟨hstatement, hconnection, _⟩ := hq.unfold
  have hedited := he.onStatement hstatement
  cases he with
  | statement h => exact ⟨h, hconnection⟩
  | connection h => exact ⟨hstatement, fun _ hc => Option.some.inj hc ▸ h⟩
  | quoted flag => exact ⟨hstatement, hconnection⟩
  | _ => exact ⟨hedited, hconnection⟩

theorem edit {q : Query} (hq : q.Clean) : (q.edit e).Clean := by
  unfold Query.edit
  split
  · exact hq
  · obtain ⟨hstatement, hconnection⟩ := he.change hq
    refine .fold ⟨hstatement, hconnection, hq.unfold.cache.invalidate fun hne => ?_⟩
    -- Slots are left only by edits of the statement, which keep its kind.
    obtain ⟨_, hchange⟩ := (e.change_cases q).resolve_left hne
    simp only [hchange, Edit.kind_onStatement]

end Edit.Clean

theorem TableRef.Clean.key? {t : TableRef Query} (h : t.Clean Query.Clean) :
    ∀ name ∈ t.key?, Plain name := by
  obtain ⟨source, label⟩ := t
  obtain ⟨hsource, hlabel⟩ := h
  cases label with
  | some label => exact hlabel
  | none =>
    cases hsource with
    | name hname => exact fun _ hkey => Option.some.inj hkey ▸ hname
    | query _ => exact nofun

theorem Resolver.declared_clean (types : List (String × TypeName)) :
    (declared types).Clean fun state => ∀ name ∈ state, Plain name := by
  have hremember {table : Option (TableRef Query)} (h : ∀ t ∈ table, t.Clean Query.Clean) :
      ∀ name ∈ table.bind TableRef.key?, Plain name := by
    cases table with
    | none => exact nofun
    | some t => exact (h t rfl).key?
  refine ⟨nofun, ?_, ?_, ?_, ?_, ?_, ?_, fun hx hroot => hx _ hroot, ?_, fun hx => ⟨nofun, hx⟩⟩
  · rintro s _ _ _ hs _ ⟨⟩
    exact ⟨hs, hremember fun t ht => hs.tables t (List.mem_of_mem_head? ht)⟩
  · rintro s _ _ _ hs _ ⟨⟩
    exact ⟨hs, hremember hs.table⟩
  · rintro s _ _ _ hs _ ⟨⟩
    exact ⟨hs, hremember hs.table⟩
  · rintro s _ _ _ hs _ ⟨⟩
    exact ⟨hs, hremember hs.table⟩
  · rintro name _ _ _ _ hname hx ⟨⟩
    exact ⟨hname, hx⟩
  · rintro t _ _ _ ht hx ⟨⟩
    exact ⟨ht, hx⟩
  · rintro d _ _ _ hd hx ⟨⟩
    exact ⟨⟨hd, nofun⟩, hx⟩

theorem Draft.of_edit {q : Query} (h : q.cache.compiling = false) (e : Edit) :
    Draft.of (q.edit e) = (Draft.of q).edit e := by
  have hidle : e.isIdle q.fresh = e.isIdle q := by cases e <;> rfl
  unfold Query.edit Draft.edit
  rw [show (Draft.of q).query = q.fresh from rfl, hidle]
  split
  · rfl
  · have hchange : ∀ cache, ({ e.change q with cache := cache } : Query).fresh = e.change q.fresh :=
      fun _ => by cases e <;> rfl
    rw [Draft.of, hchange, Cache.ledger_invalidate h]
    rfl

namespace Compiler

variable {c : Compiler σ} {I : σ → Prop} {q : Query}

theorem compileAs_shows (hd : c.platform.BuiltIn) (hr : c.resolver.Clean I) (kind : StatementKind)
    (hq : q.Clean) :
    (c.compileAs kind q).query.Clean ∧
      Draft.of (c.compileAs kind q).query =
        ⟨q.fresh, (c.inlineCompilation kind (.of q)).ledger⟩ := by
  have hdone := compilation_shows hd hr kind hq
  obtain ⟨hstatement, hconnection, _⟩ := hq.unfold
  refine ⟨.fold ⟨hstatement, hconnection, hdone.cache⟩, ?_⟩
  exact congrArg (Draft.mk q.fresh) hdone.ledger

/-- A run by clean edits leaves a query clean, and in step with its draft. -/
theorem run_shows (hd : c.platform.BuiltIn) (hr : c.resolver.Clean I) (hq : q.Clean)
    {steps : List Step} (hsteps : ∀ e, .edit e ∈ steps → e.Clean) :
    (c.run q steps).Clean ∧ Draft.of (c.run q steps) = c.inlineRun (.of q) steps := by
  induction steps generalizing q with
  | nil => exact ⟨hq, rfl⟩
  | cons step steps ih =>
    have hrest := fun e he => hsteps e (List.mem_cons_of_mem _ he)
    have hstep : (c.step q step).Clean ∧ Draft.of (c.step q step) = c.inlineStep (.of q) step := by
      cases step with
      | edit e =>
        exact ⟨(hsteps e (List.mem_cons_self ..)).edit hq, Draft.of_edit hq.unfold.cache.idle e⟩
      | compile => exact compileAs_shows hd hr q.statement.kind hq
      | compileAs kind => exact compileAs_shows hd hr kind hq
    obtain ⟨hclean, hrun⟩ := ih hstep.1 hrest
    refine ⟨hclean, hrun.trans ?_⟩
    rw [hstep.2]
    rfl

/-- A clean query is compiled to as many placeholders as bindings; with each binding in the place of
its placeholder, that is what is compiled with the values inline. -/
theorem compile_shows (hd : c.platform.BuiltIn) (hr : c.resolver.Clean I) (hq : q.Clean) :
    (∀ d, (c.compile q).result = .ok d → Balanced d.sql d.bindings) ∧
      c.inlineCompile (.of q) =
        (c.compile q).result.map fun d => tag d.sql.toList d.bindings := by
  have hdone := (compilation_shows hd hr q.statement.kind hq).result
  rw [compile_result, Compilation.outcome, inlineCompile]
  change _ ∧ (c.inlineCompilation q.statement.kind (.of q)).result = _
  revert hdone
  generalize c.compilation q.statement.kind q = d,
    (c.inlineCompilation q.statement.kind (.of q)).result = r
  obtain ⟨result, cache, journal⟩ := d
  intro hdone
  simp only at hdone
  cases hdone with
  | error e =>
    refine ⟨?_, rfl⟩
    rintro _ ⟨⟩
  | ok hshows hbindings =>
    have htag := hshows.tag
    rw [← hbindings] at htag
    refine ⟨?_, congrArg Except.ok htag.2.symm⟩
    rintro _ ⟨⟩
    exact htag.1

theorem inlineCompile_run (ha : c.resolver.Additive) (hd : c.platform.BuiltIn)
    (hr : c.resolver.Clean I) (hq : q.fresh.Clean) {steps : List Step}
    (hsteps : ∀ e, .edit e ∈ steps → e.Clean) :
    c.inlineCompile (c.inlineRun (.of q.fresh) steps) =
      c.inlineCompile (.of (c.run q.fresh steps).fresh) := by
  obtain ⟨hclean, hrun⟩ := run_shows hd hr hq hsteps
  have hfresh : (c.run q.fresh steps).fresh.Clean := by
    obtain ⟨hstatement, hconnection, _⟩ := hclean.unfold
    exact .fold ⟨hstatement, hconnection, .empty⟩
  rw [← hrun, (compile_shows hd hr hclean).2, (compile_shows hd hr hfresh).2,
    ((Coherent.run ha q steps).compile ha).1]

/-- After any run of edits and compilations, a query is compiled to as many placeholders as
bindings; with each binding in the place of its placeholder, that is what is compiled with the
values inline, or both fail for the same cause. What is kept is likewise what is kept with the
values inline, so the query may be nested in others; if the resolver adds filters alone, that is the
statement written from nothing. -/
theorem compile_run_eq_inline (hd : c.platform.BuiltIn) (hr : c.resolver.Clean I) (hq : q.Clean)
    {steps : List Step} (hsteps : ∀ e, .edit e ∈ steps → e.Clean) :
    (c.run q steps).Clean ∧ Draft.of (c.run q steps) = c.inlineRun (.of q) steps ∧
      (∀ d, (c.compile (c.run q steps)).result = .ok d →
        d.sql.toList.count '?' = d.bindings.length) ∧
      c.inlineCompile (c.inlineRun (.of q) steps) =
        (c.compile (c.run q steps)).result.map (fun d => tag d.sql.toList d.bindings) ∧
      (c.resolver.Additive → q = q.fresh → c.inlineCompile (c.inlineRun (.of q) steps) =
        c.inlineCompile (.of (c.run q steps).fresh)) := by
  obtain ⟨hclean, hrun⟩ := run_shows hd hr hq hsteps
  obtain ⟨hcount, hshows⟩ := compile_shows hd hr hclean
  refine ⟨hclean, hrun, hcount, hrun ▸ hshows, fun ha hfresh => ?_⟩
  rw [hfresh] at hq ⊢
  exact inlineCompile_run ha hd hr hq hsteps

theorem Query.empty_clean : ∀ kind : StatementKind, (Query.empty kind).Clean
  | .select =>
    .fold ⟨.select ⟨nofun, nofun, nofun, nofun, nofun, nofun, nofun, nofun⟩, nofun, .empty⟩
  | .insert => .fold ⟨.insert ⟨nofun, .assignments nofun⟩, nofun, .empty⟩
  | .update => .fold ⟨.update ⟨nofun, nofun, nofun⟩, nofun, .empty⟩
  | .delete => .fold ⟨.delete ⟨nofun, nofun⟩, nofun, .empty⟩

theorem TableRef.table_clean {name : String} (h : Plain name) :
    (TableRef.table name).Clean Query.Clean :=
  ⟨.name h, nofun⟩

/-- A query built clause by clause, between compilations that succeed and fail. -/
def joinedSteps : List Step :=
  [.edit (.table (.table "users")), .edit (.having (.compare "total" ">" (.value (.text "7")))),
    .compile, .compileAs .delete,
    .edit (.join ⟨.inner, .table "orders", [.compare "kind" "=" (.value (.text "a"))]⟩),
    .edit (.filter (.compare "age" "in" (.value (.list [.text "18", .null]))))]

theorem compile_run_eq_inline_joined :
    (ofDialect .mysql).inlineCompile
        (.of ((ofDialect .mysql).run (Query.empty .select) joinedSteps).fresh) =
      .ok (lit ("SELECT users.* FROM users INNER JOIN orders ON kind = ") ++ one (.text "a") ++
        lit " WHERE (age IN (" ++ one (.text "18") ++ lit ") OR age IS NULL) HAVING total > " ++
        one (.text "7")) := by
  have hcondition {column operator : String} {v : Value} (hcolumn : Plain column) :
      (Condition.compare column operator (.value v) : Condition Query).Clean Query.Clean :=
    .comparison .and ⟨hcolumn, .value v⟩
  have hsteps : ∀ e, .edit e ∈ joinedSteps → e.Clean := by
    simp only [joinedSteps, List.mem_cons, Step.edit.injEq, reduceCtorEq, List.not_mem_nil,
      or_false, false_or]
    rintro e (rfl | rfl | rfl | rfl)
    · exact .table (TableRef.table_clean (by decide))
    · exact .having (hcondition (by decide))
    · refine .join ⟨TableRef.table_clean (by decide), ?_⟩
      exact List.forall_mem_singleton.2 (hcondition (by decide))
    · exact .filter (hcondition (by decide))
  obtain ⟨_, _, _, hshows, hfresh⟩ := compile_run_eq_inline (c := ofDialect .mysql) ⟨.mysql, rfl⟩
    (Resolver.declared_clean []) (Query.empty_clean .select) hsteps
  rw [← hfresh (Resolver.declared_additive []) rfl, hshows]
  cbv

end Compiler

end ParamSql
