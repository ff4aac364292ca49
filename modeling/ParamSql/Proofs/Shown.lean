import ParamSql.Proofs.Firsts
import ParamSql.Proofs.Implied

namespace ParamSql

variable {σ α : Type}

/-- A table that a clause shows, as the resolver wants it. -/
structure Shown where
  table : TableRef Query
  text : String
  bound : List Scalar

/-- A rendering that binds behind what is bound already. -/
def Render.Binds (f : Render σ α) : Prop :=
  ∀ p q a, f p = .ok a q → p.bound <+: q.bound

namespace Render

theorem binds_modify {f : Progress σ → Progress σ} (h : ∀ p, p.bound <+: (f p).bound) :
    Binds (modify f : Render σ PUnit) := by
  intro p q _ hrun
  injection hrun with _ hq
  exact hq ▸ h p

theorem Binds.bind {β : Type} {f : Render σ α} {k : α → Render σ β} (hf : f.Binds)
    (hk : ∀ a, (k a).Binds) : (f >>= k).Binds := by
  intro p q b hrun
  obtain ⟨a, p', hfirst, hrun⟩ := ok_of_bind hrun
  exact (hf _ _ _ hfirst).trans (hk a _ _ _ hrun)

theorem binds_pure (a : α) : Binds (Pure.pure a : Render σ α) := by
  intro p q b hrun
  injection hrun with _ hq
  exact hq ▸ List.prefix_rfl

theorem binds_throw (e : CompileError) : Binds (MonadExcept.throw e : Render σ α) :=
  fun _ _ _ h => nomatch h

theorem binds_note (e : Event) : Binds (note e : Render σ Unit) :=
  binds_modify fun _ => List.prefix_rfl

theorem binds_heed (answer : Except CompileError α) : Binds (heed answer : Render σ α) := by
  cases answer with
  | ok a => exact binds_pure a
  | error e => exact (binds_note _).bind fun _ => binds_throw e

theorem binds_consult (call : Call) (hook : Hook σ α) : Binds (consult call hook) := by
  intro p q a hrun
  rw [consult_eq] at hrun
  cases hhook : hook p.state with
  | ok a x =>
    rw [hhook] at hrun
    injection hrun with _ hq
    exact hq ▸ List.prefix_rfl
  | error e x =>
    rw [hhook] at hrun
    cases hrun

end Render

open Render in
/-- Every rendering binds behind what is bound already. -/
theorem Scope.binds (s : Scope σ) : s.Builds fun _ f => f.Binds where
  pure := binds_pure
  throw := binds_throw
  bind := Binds.bind
  query q := by
    intro p p' sql hrun
    rw [query_eq] at hrun
    split at hrun
    · cases hrun
    · split at hrun
      · cases hrun
      · injection hrun with _ hq
        exact hq ▸ List.prefix_append ..
  resolved _ := binds_consult _ _
  bindAll _ := binds_modify fun _ => List.prefix_append ..
  converted answer := (binds_note _).bind fun _ => binds_heed answer
  transform answer := (binds_note _).bind fun _ => binds_heed answer
  fragmentAsked := binds_note _
  refusal _ := binds_heed _
  root := (binds_note _).bind fun _ => by
    intro p q a hrun
    injection hrun with _ hq
    exact hq ▸ List.prefix_rfl
  field _ _ := binds_consult _ _
  condition _ := by
    apply (binds_consult _ _).bind
    rintro ⟨c, added⟩
    exact (binds_modify fun _ => by exact List.prefix_rfl).bind fun _ => binds_pure c
  pending := by
    intro p q a hrun
    injection hrun with _ hq
    exact hq ▸ List.prefix_rfl

theorem shown_of_mapM {f : α → Render σ String} {P : α → Shown → Prop}
    (h : ∀ {a p q text}, f a p = .ok text q →
      ∃ x, P a x ∧ x.text = text ∧ q.bound = p.bound ++ x.bound)
    {as : List α} {p q : Progress σ} {texts : List String} (hrun : as.mapM f p = .ok texts q) :
    ∃ shown, List.Forall₂ P as shown ∧ shown.map Shown.text = texts ∧
      q.bound = p.bound ++ shown.flatMap Shown.bound := by
  induction as generalizing p texts with
  | nil =>
    cases hrun
    exact ⟨[], .nil, rfl, (List.append_nil _).symm⟩
  | cons a as ih =>
    rw [List.mapM_cons] at hrun
    obtain ⟨text, p', hfirst, hrun⟩ := ok_of_bind hrun
    obtain ⟨others, q', hrest, hrun⟩ := ok_of_bind hrun
    cases hrun
    obtain ⟨x, hx, rfl, hbound⟩ := h hfirst
    obtain ⟨shown, hshown, rfl, hothers⟩ := ih hrest
    refine ⟨x :: shown, .cons hx hshown, rfl, ?_⟩
    rw [hothers, hbound, List.append_assoc, List.flatMap_cons]

namespace Scope

open Assemble

/-- The text of a table and the bindings in it. A nested query brings in its own. -/
inductive Renders (s : Scope σ) : TableRef Query → String → List Scalar → Prop
  | name (name : String) (label : Option String) :
    s.Renders ⟨.name name, label⟩ (s.tableName name ++ s.aliased " " label) []
  | query {q : Query} {database : Option String} {sql : String} (label : Option String) :
    s.databaseOf q = .ok database → (s.nested database q).result = .ok sql →
    s.Renders ⟨.query q, label⟩ ("(" ++ sql ++ ")" ++ s.aliased " " label)
      (s.nested database q).cache.bindings

/-- A table shown is what the resolver makes of the given one, rendered. -/
def Shows (s : Scope σ) (t : TableRef Query) (x : Shown) : Prop :=
  (∃ y z, s.compiler.resolver.table t y = .ok x.table z) ∧ s.Renders x.table x.text x.bound

/-- A join shown is its table behind the kind of the join, and the conditions behind the table. -/
def ShowsJoin (s : Scope σ) (j : Join Query) (x : Shown) : Prop :=
  ∃ table p q on xs, s.Shows j.table table ∧ s.conditionsAfter " ON " j.on p = .ok on q ∧
    q.bound = p.bound ++ xs ∧
    x = ⟨table.table, " " ++ j.kind.sql ++ " " ++ table.text ++ on, table.bound ++ xs⟩

/-- A FROM clause shows the first table of each key. -/
def ShowsTables (s : Scope σ) (tables : List (TableRef Query)) (shown : List Shown)
    (slot : Slot) : Prop :=
  List.Forall₂ s.Shows (firsts TableRef.key? [] tables) shown ∧
    slot = ⟨some (if tables = [] then "" else " FROM " ++ ", ".intercalate (shown.map Shown.text)),
      shown.flatMap Shown.bound⟩

/-- The JOIN clauses show the first join of each key that no table in FROM has. -/
def ShowsJoins (s : Scope σ) (tables : List (TableRef Query)) (joins : List (Join Query))
    (shown : List Shown) (slot : Slot) : Prop :=
  List.Forall₂ s.ShowsJoin (firsts (·.table.key?) (tables.filterMap TableRef.key?) joins) shown ∧
    slot = ⟨some ("".intercalate (shown.map Shown.text)), shown.flatMap Shown.bound⟩

variable {s : Scope σ} {p q : Progress σ}

theorem source_ok {source : TableSource Query} {text : String} (h : s.source source p = .ok text q)
    (label : Option String) :
    ∃ xs, s.Renders ⟨source, label⟩ (text ++ s.aliased " " label) xs ∧
      q.bound = p.bound ++ xs := by
  cases source with
  | name name =>
    cases h
    exact ⟨[], .name name label, (List.append_nil _).symm⟩
  | query nested =>
    obtain ⟨sql, p', hquery, h⟩ := ok_of_bind h
    cases h
    rw [query_eq] at hquery
    split at hquery
    · cases hquery
    · rename_i database hdatabase
      split at hquery
      · cases hquery
      · rename_i sql' hsql
        injection hquery with hsql' hq
        subst hsql' hq
        exact ⟨_, .query label hdatabase hsql, rfl⟩

theorem table_ok {t : TableRef Query} {text : String} (h : s.table t p = .ok text q) :
    ∃ x, s.Shows t x ∧ x.text = text ∧ q.bound = p.bound ++ x.bound := by
  obtain ⟨resolved, p', hresolved, h⟩ := ok_of_bind h
  obtain ⟨sql, q', hsource, h⟩ := ok_of_bind h
  cases h
  rw [resolveTable, Render.consult_eq] at hresolved
  split at hresolved
  · rename_i u z htable
    injection hresolved with hu hp
    subst hu hp
    obtain ⟨xs, hrenders, hbound⟩ := source_ok hsource u.label
    exact ⟨⟨u, _, xs⟩, ⟨⟨_, z, htable⟩, hrenders⟩, rfl, hbound⟩
  · cases hresolved

theorem join_ok {j : Join Query} {text : String} (h : s.join j p = .ok text q) :
    ∃ x, s.ShowsJoin j x ∧ x.text = text ∧ q.bound = p.bound ++ x.bound := by
  obtain ⟨sql, p', htable, h⟩ := ok_of_bind h
  obtain ⟨on, q', hon, h⟩ := ok_of_bind h
  cases h
  obtain ⟨table, hshows, rfl, hbound⟩ := table_ok htable
  obtain ⟨xs, hxs⟩ := s.binds.conditionsAfter _ _ _ _ _ hon
  refine ⟨_, ⟨table, p', q, on, xs, hshows, hon, hxs.symm, rfl⟩, rfl, ?_⟩
  rw [← hxs, hbound, List.append_assoc]

theorem tablesClause_shows {tables : List (TableRef Query)} {sql : String}
    (h : s.tablesClause tables p = .ok sql q) (hp : p.bound = []) :
    ∃ shown, s.ShowsTables tables shown ⟨some sql, q.bound⟩ := by
  cases tables with
  | nil =>
    cases h
    exact ⟨[], .nil, by rw [hp, if_pos rfl]; rfl⟩
  | cons first rest =>
    obtain ⟨texts, q', hparts, h⟩ := ok_of_bind h
    cases h
    obtain ⟨shown, hshown, rfl, hbound⟩ := shown_of_mapM table_ok hparts
    rw [unseen_eq_firsts] at hshown
    exact ⟨shown, hshown, by rw [hbound, hp, if_neg (List.cons_ne_nil _ _)]; rfl⟩

theorem joinsClause_shows {select : Select Query} {sql : String}
    (h : s.joinsClause select p = .ok sql q) (hp : p.bound = []) :
    ∃ shown, s.ShowsJoins select.tables
      (select.joins ++ (s.compiler.resolver.joins p.state).1) shown ⟨some sql, q.bound⟩ := by
  obtain ⟨texts, j, rfl, hparts⟩ := joinsClause_ok h
  obtain ⟨shown, hshown, rfl, hbound⟩ := shown_of_mapM join_ok hparts
  rw [unseen_eq_firsts] at hshown
  exact ⟨shown, hshown, by rw [hbound, hp]; rfl⟩

/-- The joins that the resolver hands over for a SELECT, when all clauses in front of them are
rendered. -/
def handed (s : Scope σ) (select : Select Query) (a : Assembly σ) : List (Join Query) :=
  (s.compiler.resolver.joins
    (endOf (fill (s.beforeJoins select) (dropped a))).progress.state).1

/-- What is kept of a SELECT shows its tables and joins, unless it is to be rendered anew. -/
structure KeepsShown (s : Scope σ) (select : Select Query) (cache : Cache) : Prop where
  tables : cache.isMissing .tables = true ∨
    ∃ shown, s.ShowsTables select.tables shown (cache.slot .tables)
  joins : Clause.joinDependent.any cache.isMissing = true ∨ ∃ implied shown,
    s.ShowsJoins select.tables (select.joins ++ implied) shown (cache.slot .joins)

variable {select : Select Query} {a b : Assembly σ} {sql : String}

theorem keepsShown_begun (s : Scope σ) (select : Select Query) : s.KeepsShown select .begun :=
  ⟨.inl rfl, .inl rfl⟩

/-- What is soundly kept of a SELECT shows the tables and joins of the prepared one. -/
theorem Kept.keepsShown (hr : s.compiler.resolver.Additive) {cache : Cache}
    (h : s.Kept select cache) {t : Select Query} {x : σ}
    (hprepared : s.compiler.resolver.select select s.compiler.resolver.start = .ok t x) :
    s.KeepsShown t cache := by
  obtain ⟨added, rfl⟩ := hr.extended hprepared
  constructor
  · rcases h.tables.missing_or with hmissing | ⟨_, text, htext, hfixed⟩
    · exact .inl hmissing
    · obtain ⟨j, hrun⟩ := hfixed ⟨s.compiler.resolver.start, [], [], []⟩
      obtain ⟨shown, hshown⟩ := tablesClause_shows hrun rfl
      refine .inr ⟨shown, ?_⟩
      rw [← htext] at hshown
      exact hshown
  · cases hany : Clause.joinDependent.any cache.isMissing with
    | true => exact .inl rfl
    | false =>
      obtain ⟨other, hrows, t, _, j, c, hother, hfill, hslots⟩ := h.joined hany
      obtain ⟨added', rfl⟩ := hr.extended hother
      obtain ⟨p, text, q, hp, hjoins, hslot⟩ := fill_renders
        (w := (.joins, s.joinsClause { other with filters := other.filters ++ added' }))
        (s.body_nodup _) (by simp [body]) rfl hfill
      obtain ⟨shown, hshown⟩ := joinsClause_shows hjoins hp
      rw [← hslot, hslots .joins (by decide)] at hshown
      change s.ShowsJoins other.rows.tables (other.rows.joins ++ _) shown _ at hshown
      rw [hrows] at hshown
      exact .inr ⟨_, shown, hshown⟩

theorem select_shows_tables (hkept : s.KeepsShown select a.cache)
    (h : s.select select a = .ok sql b) :
    ∃ shown, s.ShowsTables select.tables shown (b.cache.slot .tables) := by
  have hfill := (select_ok h).1
  have hbegin : (dropped a).cache.slot .tables = a.cache.slot .tables :=
    slot_dropped a (by decide)
  cases hmissing : (dropped a).cache.isMissing .tables with
  | true =>
    obtain ⟨p, text, q, hp, htables, hslot⟩ :=
      fill_renders (s.works_nodup select) (s.tables_mem_works select) hmissing hfill
    rw [hslot]
    exact tablesClause_shows htables hp
  | false =>
    rw [fill_kept hfill hmissing, hbegin]
    rw [Cache.isMissing, hbegin] at hmissing
    exact hkept.tables.resolve_left (Bool.eq_false_iff.1 hmissing)

theorem select_shows_joins (hkept : s.KeepsShown select a.cache)
    (h : s.select select a = .ok sql b) :
    ∃ implied shown,
      s.ShowsJoins select.tables (select.joins ++ implied) shown (b.cache.slot .joins) ∧
        (Clause.joinDependent.any a.cache.isMissing = true → implied = s.handed select a) := by
  have hfill := (select_ok h).1
  cases hany : Clause.joinDependent.any a.cache.isMissing with
  | true =>
    have hmissing : (dropped a).cache.isMissing .joins = true :=
      missing_dropped hany (by decide)
    rw [works_eq] at hfill
    obtain ⟨c, text, p, hbefore, hjoins, hlock⟩ :=
      fill_missing hmissing (by simp [beforeJoins]) hfill
    have hhanded : s.handed select a = (s.compiler.resolver.joins c.progress.state).1 := by
      rw [handed, hbefore]
      rfl
    obtain ⟨shown, hshown⟩ := joinsClause_shows hjoins rfl
    rw [(fill_lock hlock).1, Cache.slot_put_self]
    exact ⟨_, shown, hshown, fun _ => hhanded.symm⟩
  | false =>
    have hdropped : dropped a = a := if_neg (Bool.eq_false_iff.1 hany)
    rw [hdropped] at hfill
    have hjoins : a.cache.isMissing .joins = false :=
      Bool.eq_false_iff.2 (List.any_eq_false.1 hany .joins (by decide))
    obtain ⟨implied, shown, hshown⟩ := hkept.joins.resolve_left (Bool.eq_false_iff.1 hany)
    rw [fill_kept hfill hjoins]
    exact ⟨implied, shown, hshown, fun hall => absurd hall Bool.false_ne_true⟩

end Scope

namespace Select

/-- The tables and the tables of the joins, the implied ones included. -/
def references (select : Select Query) (implied : List (Join Query)) : List (TableRef Query) :=
  select.tables ++ (select.joins ++ implied).map Join.table

/-- Those of them that are the first of their key. -/
def firstReferences (select : Select Query) (implied : List (Join Query)) :
    List (TableRef Query) :=
  firsts TableRef.key? [] select.tables ++
    (firsts (·.table.key?) (select.tables.filterMap TableRef.key?)
      (select.joins ++ implied)).map Join.table

variable (select : Select Query) (implied : List (Join Query))

theorem firstReferences_sublist :
    (select.firstReferences implied).Sublist (select.references implied) :=
  (firsts_sublist _ _).append ((firsts_sublist _ _).map _)

theorem mem_keys_firstReferences {key : String} :
    key ∈ (select.firstReferences implied).filterMap TableRef.key? ↔
      key ∈ (select.references implied).filterMap TableRef.key? := by
  have hjoins : key ∈ (unseen (fun j : Join Query => j.table.key?)
      (select.tables.filterMap TableRef.key?) (select.joins ++ implied)).filterMap
        (TableRef.key? ∘ Join.table) ↔ _ := mem_keys_unseen
  rw [firstReferences, references, List.filterMap_append, List.filterMap_append,
    List.filterMap_map, List.filterMap_map, List.mem_append, List.mem_append, ← unseen_eq_firsts,
    ← unseen_eq_firsts, mem_keys_unseen, hjoins]
  simp only [List.not_mem_nil, not_false_eq_true, true_and, Function.comp_def]
  tauto

theorem nodup_keys_firstReferences :
    ((select.firstReferences implied).filterMap TableRef.key?).Nodup := by
  simp only [firstReferences, List.filterMap_append, List.filterMap_map, ← unseen_eq_firsts]
  refine List.nodup_append'.2 ⟨nodup_keys_unseen _ _, nodup_keys_unseen _ _, ?_⟩
  intro key htable hjoin
  exact (mem_keys_unseen.1 hjoin).1 (mem_keys_unseen.1 htable).2

end Select

theorem Scope.resolved_of_shows {s : Scope σ} {select : Select Query} {implied : List (Join Query)}
    {tables joined : List Shown} {x y : Slot} (htables : s.ShowsTables select.tables tables x)
    (hjoined : s.ShowsJoins select.tables (select.joins ++ implied) joined y) :
    List.Forall₂ (fun t u => ∃ y z, s.compiler.resolver.table t y = .ok u z)
      (select.firstReferences implied) ((tables ++ joined).map Shown.table) := by
  rw [List.map_append]
  refine List.rel_append ?_ ?_
  · exact List.forall₂_map_right_iff.2 (htables.1.imp fun t x h => h.1)
  · rw [List.forall₂_map_left_iff, List.forall₂_map_right_iff]
    refine hjoined.1.imp fun j x h => ?_
    obtain ⟨table, _, _, _, _, hshows, _, _, rfl⟩ := h
    exact hshows.1

end ParamSql
