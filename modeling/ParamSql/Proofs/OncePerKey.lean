import ParamSql.Proofs.Coherent
import ParamSql.Proofs.Shown

namespace ParamSql

variable {σ : Type}

/-- The hook for tables hands back what it is given, unless it refuses. -/
def Resolver.LeavesTables (r : Resolver σ) : Prop :=
  ∀ {t u : TableRef Query} {x y : σ}, r.table t x = .ok u y → u = t

/-- A SELECT without the tables and joins that are not the first of their key. -/
def Select.unrepeated (select : Select Query) : Select Query :=
  { select with
    tables := firsts TableRef.key? [] select.tables
    joins := firsts (·.table.key?) (select.tables.filterMap TableRef.key?) select.joins }

/-- After any run, what is kept of a SELECT shows the tables and joins of the prepared one. -/
theorem Compiler.keepsShown_run {c : Compiler σ} (hr : c.resolver.Additive) (q : Query)
    (steps : List Step) {n : Nat} {select t : Select Query} {x : σ}
    (hn : c.limits.nesting = n + 1) (hselect : (c.run q.fresh steps).statement = .select select)
    (hprepared : c.resolver.select select c.resolver.start = .ok t x) :
    (c.selectScope (c.run q.fresh steps) n).KeepsShown t (c.run q.fresh steps).cache :=
  ((Coherent.run hr q steps).sound.select hn hselect).keepsShown hr hprepared

namespace Scope

open Assemble

variable {s : Scope σ} {select : Select Query}

theorem tablesClause_firsts (s : Scope σ) (tables : List (TableRef Query)) :
    s.tablesClause (firsts TableRef.key? [] tables) = s.tablesClause tables := by
  have hempty : (firsts TableRef.key? [] tables).isEmpty = tables.isEmpty := by
    rw [Bool.eq_iff_iff, List.isEmpty_iff, List.isEmpty_iff, firsts_eq_nil]
  rw [tablesClause, tablesClause, hempty, ← unseen_eq_firsts, unseen_unseen]

theorem joinsClause_unrepeated (s : Scope σ) (select : Select Query) :
    s.joinsClause select.unrepeated = s.joinsClause select := by
  have hseen (key : String) :
      key ∈ (firsts TableRef.key? [] select.tables).filterMap TableRef.key? ↔
        key ∈ select.tables.filterMap TableRef.key? := by
    rw [← unseen_eq_firsts, mem_keys_unseen, and_iff_right List.not_mem_nil]
  have hleft (implied : List (Join Query)) :
      unseen (·.table.key?)
        ((firsts TableRef.key? [] select.tables).filterMap TableRef.key?)
        (firsts (·.table.key?) (select.tables.filterMap TableRef.key?) select.joins ++ implied) =
      unseen (·.table.key?) (select.tables.filterMap TableRef.key?) (select.joins ++ implied) := by
    rw [unseen_congr hseen, ← unseen_eq_firsts, unseen_unseen_append]
  simp only [joinsClause, Select.unrepeated, hleft]

/-- What is left out has no part in the compilation, not even in its failure. -/
theorem select_unrepeated (s : Scope σ) (select : Select Query) (a : Assembly σ) :
    s.select select.unrepeated a = s.select select a := by
  have hworks : s.works select.unrepeated = s.works select := by
    rw [works, works, body, body, s.joinsClause_unrepeated]
    simp only [Select.unrepeated, tablesClause_firsts]
    rfl
  rw [select_eq, select_eq, hworks]
  rfl

theorem beforeJoins_of_observed {τ : Type} {o : Observer σ τ} {A B : Assembly (σ × τ)}
    {a : Assembly σ} (hA : Assembly.Beside (Progress.Beside fun x y => x.1 = y) A a)
    (h : fill ((o.scope s).beforeJoins select) A = .ok () B) :
    ∃ b, fill (s.beforeJoins select) a = .ok () b ∧ B.progress.state.1 = b.progress.state := by
  have hworks : WorksBeside (fun _ => False) (Progress.Beside fun x y => x.1 = y)
      ((o.scope s).beforeJoins select) (s.beforeJoins select) :=
    List.forall₂_take 6 ((o.scope_beside s).works select)
  obtain ⟨_, b, hb, _, hBb⟩ :=
    ((fill_beside Progress.Beside.binding hworks).lockstep A a hA).of_ok h
  exact ⟨b, hb, hBb.progress.state⟩

theorem early_sublist_handed (hr : s.compiler.resolver.Retains) {a b : Assembly σ} {sql : String}
    (hany : Clause.joinDependent.any a.cache.isMissing = true)
    (h : s.select select a = .ok sql b) :
    (s.joinRecord select a).early.Sublist (s.handed select a) := by
  let start : Assembly (σ × JoinRecord) := ⟨a.cache, a.progress.noting ⟨[], [], false⟩⟩
  have hdropped : dropped start = { start with cache := a.cache.discard Clause.joinDependent } :=
    if_pos hany
  have hmissing : (dropped start).cache.isMissing .joins = true :=
    missing_dropped (a := start) hany (by decide)
  obtain ⟨B, hB⟩ := (Observer.joinRecord s.compiler.resolver).select_ok ⟨[], [], false⟩ h
  obtain ⟨C, _, _, hC, hjoins, _, hstate⟩ := fill_joins hmissing (select_ok hB).1
  obtain ⟨c, hc, hCc⟩ := beforeJoins_of_observed (a := dropped a)
    (by rw [hdropped, dropped, if_pos hany]; exact ⟨rfl, rfl, rfl, rfl⟩) hC
  have horder := beforeJoins_keeps (along_inOrder hr) select (a := dropped start)
    (by rw [hdropped]; exact ⟨rfl, List.nil_sublist _⟩)
  rw [hC] at horder
  have hearly : (s.joinRecord select a).early = C.progress.state.2.early := by
    rw [joinRecord, hB, ← early_of_joins hjoins]
    exact congrArg (·.2.early) hstate
  rw [hearly, handed, hc]
  exact hCc ▸ horder.2

/-- A SELECT shows the first table of each key, and of the joins, the implied ones last, those
whose key no table and no earlier join has; it shows each key, and none twice. -/
theorem select_shows_firsts (hr : s.compiler.resolver.LeavesTables) {a : Assembly σ}
    (hkept : s.KeepsShown select a.cache) :
    s.select select.unrepeated a = s.select select a ∧
      ∀ {sql b}, s.select select a = .ok sql b → ∃ implied tables joined,
        s.ShowsTables select.tables tables (b.cache.slot .tables) ∧
        s.ShowsJoins select.tables (select.joins ++ implied) joined (b.cache.slot .joins) ∧
        sql = s.selectSql select b.cache ∧
        (tables ++ joined).map Shown.table = select.firstReferences implied ∧
        ((select.firstReferences implied).filterMap TableRef.key?).Nodup ∧
        (∀ key, key ∈ (select.firstReferences implied).filterMap TableRef.key? ↔
          key ∈ (select.references implied).filterMap TableRef.key?) ∧
        (Clause.joinDependent.any a.cache.isMissing = true → implied = s.handed select a ∧
          (s.compiler.resolver.Retains → (s.joinRecord select a).early.Sublist implied)) := by
  refine ⟨s.select_unrepeated select a, fun {sql b} h => ?_⟩
  obtain ⟨tables, htables⟩ := select_shows_tables hkept h
  obtain ⟨implied, joined, hjoined, himplied⟩ := select_shows_joins hkept h
  refine ⟨implied, tables, joined, htables, hjoined, (select_ok h).2, ?_,
    select.nodup_keys_firstReferences implied, fun _ => select.mem_keys_firstReferences implied,
    fun hany => ?_⟩
  · refine (forall₂_eq ?_ (resolved_of_shows htables hjoined)).symm
    exact fun ⟨_, _, htable⟩ => (hr htable).symm
  · obtain rfl := himplied hany
    exact ⟨rfl, fun hretains => early_sublist_handed hretains hany h⟩

/-- A scope in which users belong to teams, and every nested query comes to the same. -/
def guild : Scope (List (Join Query)) where
  compiler :=
    { connection := ⟨"default", "mysql", none⟩
      platform := Dialect.mysql.platform
      types := .builtins
      resolver := .related [("team.name", "teams.name", ⟨.left, .table "teams", []⟩)] }
  quoted := false
  database := none
  nested _ q := ⟨.ok "SELECT ?", { q.cache with columns := ⟨some "SELECT ?", [.bool true]⟩ }, []⟩

/-- Two tables are there twice, a join is of a table of another name, and two are of one table. -/
def crowded : Select Query where
  columns := [.named "team.name"]
  tables := [.table "users", ⟨.query (.ofStatement (.select {})), none⟩, .table "users",
    ⟨.query (.ofStatement (.select {})), none⟩, ⟨.name "posts", some "p"⟩]
  joins := [⟨.inner, ⟨.name "drafts", some "p"⟩, []⟩, ⟨.inner, .table "roles", []⟩,
    ⟨.left, .table "roles", []⟩]

theorem crowded_shows_firsts : ∃ b tables joined,
    guild.select crowded ⟨.begun, ⟨[], [], [], []⟩⟩ =
      .ok ("SELECT teams.name FROM users, (SELECT ?), (SELECT ?), posts p INNER JOIN roles " ++
        "LEFT JOIN teams") b ∧
    guild.ShowsTables crowded.tables tables (b.cache.slot .tables) ∧
    (tables ++ joined).map Shown.table =
      [.table "users", ⟨.query (.ofStatement (.select {})), none⟩,
        ⟨.query (.ofStatement (.select {})), none⟩, ⟨.name "posts", some "p"⟩, .table "roles",
        .table "teams"] := by
  have hleaves : guild.compiler.resolver.LeavesTables := by
    intro t u x y h
    cases h
    rfl
  have hrun : (guild.select crowded).run' ⟨.begun, ⟨[], [], [], []⟩⟩ =
      some ("SELECT teams.name FROM users, (SELECT ?), (SELECT ?), posts p INNER JOIN roles " ++
        "LEFT JOIN teams") := by cbv
  obtain ⟨b, hb⟩ := ok_of_run' hrun
  have hkept := guild.keepsShown_begun crowded
  obtain ⟨implied, tables, joined, htables, _, _, hfirsts, _, _, himplied⟩ :=
    (select_shows_firsts (a := ⟨.begun, ⟨[], [], [], []⟩⟩) hleaves hkept).2 hb
  have hhanded : guild.handed crowded ⟨.begun, ⟨[], [], [], []⟩⟩ =
      [⟨.left, .table "teams", []⟩] := by cbv
  refine ⟨b, tables, joined, hb, htables, ?_⟩
  rw [hfirsts, (himplied rfl).1, hhanded]
  cbv

end Scope

end ParamSql
