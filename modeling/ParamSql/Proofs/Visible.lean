import ParamSql.Proofs.Shown

namespace ParamSql

variable {σ : Type}

/-- Of the given tables, those that the resolver gives one name, or one other name, have one
key. -/
def Resolver.KeepsApart (r : Resolver σ) (tables : List (TableRef Query)) : Prop :=
  tables.Pairwise fun t u => ∀ {t' u' : TableRef Query} {w x y z : σ} {name : String},
    r.table t w = .ok t' x → r.table u y = .ok u' z →
    t'.key? = some name → u'.key? = some name → ∃ key, t.key? = some key ∧ u.key? = some key

theorem pairwise_of_forall₂ {α β : Type} {R : α → β → Prop} {P : α → α → Prop} {Q : β → β → Prop}
    {as : List α} {bs : List β} (h : List.Forall₂ R as bs)
    (hPQ : ∀ {a a' b b'}, R a b → R a' b' → P a a' → Q b b') (has : as.Pairwise P) :
    bs.Pairwise Q := by
  induction h with
  | nil => exact .nil
  | cons hab hrest ih =>
    obtain ⟨hfirst, has⟩ := List.pairwise_cons.1 has
    refine List.pairwise_cons.2 ⟨fun b' hb' => ?_, ih has⟩
    obtain ⟨a', ha', hab'⟩ := forall₂_exists hrest hb'
    exact hPQ hab hab' (hfirst a' ha')

namespace Scope

open Assemble

variable {s : Scope σ} {select : Select Query}

/-- A SELECT shows no two tables by one name, unless the resolver gives one name to tables of
different keys. -/
theorem select_nodup_visible {a b : Assembly σ} {sql : String}
    (hkept : s.KeepsShown select a.cache) (h : s.select select a = .ok sql b) :
    ∃ implied tables joined,
      s.ShowsTables select.tables tables (b.cache.slot .tables) ∧
      s.ShowsJoins select.tables (select.joins ++ implied) joined (b.cache.slot .joins) ∧
      sql = s.selectSql select b.cache ∧
      (Clause.joinDependent.any a.cache.isMissing = true → implied = s.handed select a) ∧
      (s.compiler.resolver.KeepsApart (select.references implied) →
        (((tables ++ joined).map Shown.table).filterMap TableRef.key?).Nodup) := by
  obtain ⟨tables, htables⟩ := select_shows_tables hkept h
  obtain ⟨implied, joined, hjoined, himplied⟩ := select_shows_joins hkept h
  refine ⟨implied, tables, joined, htables, hjoined, (select_ok h).2, himplied, fun happart => ?_⟩
  have hkeys := List.pairwise_filterMap.1 (select.nodup_keys_firstReferences implied)
  have hnames := (happart.sublist (select.firstReferences_sublist implied)).and hkeys
  refine List.pairwise_filterMap.2
    (pairwise_of_forall₂ (resolved_of_shows htables hjoined) ?_ hnames)
  rintro t u x y ⟨_, _, ht⟩ ⟨_, _, hu⟩ ⟨hone, hdistinct⟩ name hname _ hname' rfl
  obtain ⟨key, hkey, hkey'⟩ := hone ht hu hname hname'
  exact hdistinct key hkey key hkey' rfl

end Scope

/-- What stands for a table in a list of such. -/
def TableRef.renamed (tables : List (String × TableRef Query)) (t : TableRef Query) :
    TableRef Query :=
  match t.name? with
  | some name => (List.lookup name tables).getD t
  | none => t

/-- The resolver that knows other tables by some names. -/
def Resolver.renames (tables : List (String × TableRef Query)) : Resolver Unit where
  start := ()
  table t := pure (t.renamed tables)

theorem Resolver.renames_keepsApart {pairs : List (String × TableRef Query)}
    {tables : List (TableRef Query)}
    (h : tables.Pairwise fun t u => (t.renamed pairs).key? = (u.renamed pairs).key? →
      t.key? = u.key? ∧ t.key?.isSome) : (Resolver.renames pairs).KeepsApart tables := by
  refine h.imp fun {t u} htu => ?_
  intro t' u' _ _ _ _ name ht hu hname hname'
  cases ht
  cases hu
  obtain ⟨hsame, hkey⟩ := htu (hname.trans hname'.symm)
  exact ⟨t.key?.get hkey, (Option.some_get hkey).symm, hsame ▸ (Option.some_get hkey).symm⟩

namespace Scope

/-- A scope in which people and persons are both users. -/
def people : Scope Unit where
  compiler :=
    { connection := ⟨"default", "mysql", none⟩
      platform := Dialect.mysql.platform
      types := .builtins
      resolver := .renames
        [("people", ⟨.name "users", some "u"⟩), ("persons", ⟨.name "users", some "u"⟩)] }
  quoted := false
  database := none
  nested _ q := ⟨.error (.exceeded .nesting), q.cache, []⟩

def peopleOfTeams : Select Query where
  tables := [.table "people", .table "teams", .table "people"]

theorem people_nodup_visible : ∃ b tables joined,
    people.select peopleOfTeams ⟨.begun, ⟨(), [], [], []⟩⟩ =
      .ok "SELECT * FROM users u, teams" b ∧
    people.ShowsTables peopleOfTeams.tables tables (b.cache.slot .tables) ∧
    (((tables ++ joined).map Shown.table).filterMap TableRef.key?).Nodup := by
  have hrun : (people.select peopleOfTeams).run' ⟨.begun, ⟨(), [], [], []⟩⟩ =
      some "SELECT * FROM users u, teams" := by cbv
  obtain ⟨b, hb⟩ := ok_of_run' hrun
  have hkept := people.keepsShown_begun peopleOfTeams
  obtain ⟨implied, tables, joined, htables, _, _, himplied, hnodup⟩ :=
    select_nodup_visible (a := ⟨.begun, ⟨(), [], [], []⟩⟩) hkept hb
  obtain rfl : implied = [] := himplied rfl
  have hapart : people.compiler.resolver.KeepsApart (peopleOfTeams.references []) :=
    Resolver.renames_keepsApart (by decide)
  exact ⟨b, tables, joined, hb, htables, hnodup hapart⟩

def peopleAndPersons : Select Query where
  tables := [.table "people", .table "persons"]

/-- Two tables of different keys are shown by one name. -/
theorem people_visible_twice : ∃ b tables,
    people.select peopleAndPersons ⟨.begun, ⟨(), [], [], []⟩⟩ =
      .ok "SELECT * FROM users u, users u" b ∧
    people.ShowsTables peopleAndPersons.tables tables (b.cache.slot .tables) ∧
    ¬ ((tables.map Shown.table).filterMap TableRef.key?).Nodup := by
  have hrun : (people.select peopleAndPersons).run' ⟨.begun, ⟨(), [], [], []⟩⟩ =
      some "SELECT * FROM users u, users u" := by cbv
  obtain ⟨b, hb⟩ := ok_of_run' hrun
  have hkept := people.keepsShown_begun peopleAndPersons
  obtain ⟨tables, htables⟩ := select_shows_tables hkept hb
  refine ⟨b, tables, hb, htables, fun hnodup => ?_⟩
  have hshows := htables.1
  have hboth : firsts TableRef.key? [] peopleAndPersons.tables = peopleAndPersons.tables := by cbv
  rw [hboth] at hshows
  obtain ⟨x, _, ⟨⟨_, _, hx⟩, _⟩, hrest, rfl⟩ := List.forall₂_cons_left_iff.1 hshows
  obtain ⟨y, _, ⟨⟨_, _, hy⟩, _⟩, hnil, rfl⟩ := List.forall₂_cons_left_iff.1 hrest
  have hsame : x.table = y.table := by
    injection hx with hx
    injection hy with hy
    exact hx.symm.trans hy
  have hu : y.table.key? = some "u" := by
    injection hy with hy
    rw [← hy]
    rfl
  simp [hsame, hu] at hnodup

end Scope

end ParamSql
