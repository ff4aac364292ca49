import ParamSql.Proofs.Placement
import ParamSql.Proofs.RewordedCompiled

namespace ParamSql

variable {σ : Type}

/-- Two nested queries of which one is the other. -/
def Query.Twice (T : Query → Prop) (q r : Query) : Prop :=
  q = r ∧ T q

/-- A query never compiled that takes no notice of the dialect: its fragments and transformers may
look at the platform, but what they ask for, bind and refuse does not depend on it. The queries
nested in it are in `T`. -/
def Query.Neutral (T : Query → Prop) (q : Query) : Prop :=
  ∀ d d', q.Reworded (.translated d d') (Query.Twice T) q

/-- A resolver that takes what is neutral to what is neutral. -/
def Resolver.Neutral (r : Resolver σ) (T : Query → Prop) (S : σ → σ → Prop) : Prop :=
  ∀ d d', r.Rewords (.translated d d') (Query.Twice T) S

namespace Compiler

/-- The compiler for the same connection, had it the platform of a dialect. -/
def speaking (c : Compiler σ) (d : Dialect) : Compiler σ :=
  { c with
    connection := { c.connection with platform := d.name }
    platform := d.platform }

variable {c : Compiler σ} {T : Query → Prop} {S : σ → σ → Prop} {q : Query}

theorem speaking_rewords (hooks : c.resolver.Neutral T S) (hneutral : ∀ q, T q → q.Neutral T)
    (hnative : ∀ q, T q → ∀ k ∈ q.connection, k.name = c.connection.name) (d d' : Dialect) :
    Rewords (.translated d d') (Query.Twice T) S (c.speaking d) (c.speaking d') where
  left := rfl
  right := rfl
  connection := rfl
  types := rfl
  limits := rfl
  resolver := rfl
  hooks := hooks d d'
  nested := by
    rintro q _ ⟨rfl, hq⟩
    exact hneutral q hq d d'
  native := .inr fun q _ hq => hnative q hq.2

/-- Without nested queries that are bound to another connection, a query that takes no notice of the
dialect is compiled for every dialect with the same bindings, or for each it fails for the same
cause. -/
theorem compile_speaking (hooks : c.resolver.Neutral T S) (hneutral : ∀ q, T q → q.Neutral T)
    (hnative : ∀ q, T q → ∀ k ∈ q.connection, k.name = c.connection.name) (h : q.Neutral T) :
    (∃ xs, ∀ d, ∃ sql, ((c.speaking d).compile q).result = .ok ⟨sql, xs⟩) ∨
      ∃ e, ∀ d, ((c.speaking d).compile q).result = .error e := by
  have hsame (d : Dialect) := compile_reworded (speaking_rewords hooks hneutral hnative .mysql d)
    (h .mysql d)
  revert hsame
  generalize ((c.speaking .mysql).compile q).result = x
  intro hsame
  cases x with
  | ok x =>
    refine .inl ⟨x.bindings, fun d => ?_⟩
    have hd := hsame d
    revert hd
    generalize ((c.speaking d).compile q).result = y
    intro hd
    cases hd with
    | @ok _ y hxy => exact ⟨y.sql, by rw [hxy.2]⟩
    | left hd => exact absurd trivial hd
  | error e =>
    refine .inr ⟨e, fun d => ?_⟩
    have hd := hsame d
    revert hd
    generalize ((c.speaking d).compile q).result = y
    intro hd
    cases hd with
    | error hd => rw [hd trivial]
    | right hd => exact absurd trivial hd

/-- The ids of teams of a kind. -/
def teamsOf (kind : String) : Query :=
  .valuesOf "id" "teams" none [.compare "kind" "=" (.value (.text kind))]

/-- The distinct names of users that match a pattern and are in teams of a kind, all but the first
ones, and locked. -/
def matchingUsers : Query :=
  .ofStatement (.select
    { columns := [.named "name"]
      distinct := true
      tables := [.table "users"]
      filters := [.compare "name" "~=" (.value (.text "^a")),
        .compare "team_id" "in" (.query (teamsOf "club"))]
      offset := some 5
      lock := some .read })

theorem teamsOf_neutral (T : Query → Prop) (kind : String) : (teamsOf kind).Neutral T := by
  refine fun d d' => ⟨.select ⟨.cons ⟨.name _, rfl⟩ .nil, rfl, rfl, .cons ⟨.name _, rfl⟩ .nil,
    .nil, ?_, rfl, .nil, rfl, rfl, rfl, rfl⟩, rfl, rfl, rfl, rfl⟩
  exact .cons (.comparison .and ⟨rfl, rfl, .value _, rfl⟩) .nil

theorem matchingUsers_neutral : matchingUsers.Neutral (· = teamsOf "club") := by
  refine fun d d' => ⟨.select ⟨.cons ⟨.name _, rfl⟩ .nil, rfl, rfl, .cons ⟨.name _, rfl⟩ .nil,
    .nil, ?_, rfl, .nil, rfl, rfl, rfl, rfl⟩, rfl, rfl, rfl, rfl⟩
  exact .cons (.comparison .and ⟨rfl, rfl, .value _, rfl⟩)
    (.cons (.comparison .and ⟨rfl, rfl, .query ⟨rfl, rfl⟩, rfl⟩) .nil)

set_option maxRecDepth 2000 in
theorem compile_speaking_matchingUsers :
    (((ofDialect .mysql).speaking .postgres).compile matchingUsers).result =
        .ok ⟨"SELECT DISTINCT name FROM users WHERE name ~ ? AND team_id IN " ++
          "(SELECT id FROM teams WHERE kind = ?) OFFSET 5 FOR SHARE", [.text "^a", .text "club"]⟩ ∧
      ∀ d, ∃ sql, (((ofDialect .mysql).speaking d).compile matchingUsers).result =
        .ok ⟨sql, [.text "^a", .text "club"]⟩ := by
  have hpostgres : (((ofDialect .mysql).speaking .postgres).compile matchingUsers).result =
      .ok ⟨"SELECT DISTINCT name FROM users WHERE name ~ ? AND team_id IN " ++
        "(SELECT id FROM teams WHERE kind = ?) OFFSET 5 FOR SHARE",
          [.text "^a", .text "club"]⟩ := by
    cbv
  refine ⟨hpostgres, ?_⟩
  rcases compile_speaking (c := ofDialect .mysql) (S := Eq)
    (fun d d' => Resolver.declared_rewords (fun _ => trivial) [])
    (by rintro q rfl; exact teamsOf_neutral _ _) (by rintro q rfl k hk; cases hk)
    matchingUsers_neutral with ⟨xs, hok⟩ | ⟨e, herror⟩
  · obtain ⟨sql, hsql⟩ := hok .postgres
    rw [hpostgres] at hsql
    rw [(Compiled.mk.inj (Except.ok.inj hsql)).2]
    exact hok
  · have hfailed := herror .postgres
    rw [hpostgres] at hfailed
    cases hfailed

end Compiler

end ParamSql
