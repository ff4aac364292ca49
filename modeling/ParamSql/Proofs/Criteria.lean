import ParamSql.Proofs.Boolean
import ParamSql.Proofs.Outline

namespace ParamSql

/-- A comparison of a column with a value. -/
structure Criterion where
  glue : Glue
  column : String
  /-- The token of the operator, as written. -/
  token : String
  value : Value
  /-- Whether the value is a scalar already, or its items are. -/
  converted : Bool

namespace Criterion

variable {σ : Type}

def condition {Q : Type} (c : Criterion) : Condition Q :=
  .comparison c.glue ⟨c.column, c.token, .value c.value, c.converted⟩

/-- The left-hand side of a comparison, by the declared types of the columns. -/
def subject (c : Criterion) (s : Scope σ) (columns : List (String × TypeName)) : Subject :=
  ⟨s.quote c.column, Resolver.declaredType? columns c.column, c.converted⟩

/-- What a comparison comes to, by the declared types of the columns. -/
def outcome (s : Scope σ) (columns : List (String × TypeName)) (c : Criterion) :
    Except CompileError (String × List Scalar) := do
  let operator ← Operator.ofToken c.token
  s.outcome (c.subject s columns) operator c.token c.value

end Criterion

namespace Scope

open Condition

theorem conditions_written {σ : Type} {s : Scope σ} (hs : s.Unhooked)
    (list : List (Condition Query)) {p : Progress σ} (hp : p.pending = []) :
    InStep True
      (fun sql texts p' q => sql = Piece.joined (piecesFrom (texts.getD · "") 0 list) ∧
        Progress.Idle p' q)
      (s.conditions list p) ((leavesOf list).mapM s.leafText p) := by
  have hpieces := (pieces_written hs (sizes list + s.compiler.limits.growth) true
    (Nat.le_add_right ..)).bind (k := fun ps => Pure.pure (Piece.joined ps)) (l := Pure.pure)
    (L := fun sql texts p' q => sql = Piece.joined (piecesFrom (texts.getD · "") 0 list) ∧
      Progress.Idle p' q) fun ps texts => .pure fun p' q h =>
        ⟨congrArg Piece.joined (h.2.1 _ 0 (Fits.getD [] texts)), h.2.2⟩
  rw [bind_pure] at hpieces
  rw [conditions, map_eq_pure_bind]
  exact hpieces p p ⟨rfl, rfl, hp, hp⟩

variable {s : Scope (Option String)} {columns : List (String × TypeName)}
  (hresolver : s.compiler.resolver = .declared columns)

include hresolver

theorem unhooked_of_declared : s.Unhooked := by
  intro c
  rw [hresolver]
  rfl

theorem column_comesTo (name : String) :
    (s.column name).ComesTo
      (.ok (⟨s.quote name, Resolver.declaredType? columns name⟩, [])) := by
  intro p
  rw [column_eq, hresolver, List.append_nil]
  exact ⟨_, rfl⟩

theorem leafText_comesTo (c : Criterion) :
    (s.leafText c.condition).ComesTo (c.outcome s columns) := by
  change (s.comparison ⟨c.column, c.token, .value c.value, c.converted⟩).ComesTo _
  rw [comparison_eq, Criterion.outcome]
  apply (column_comesTo hresolver c.column).after
  cases Operator.ofToken c.token with
  | ok operator =>
    exact (Render.ComesTo.pure operator).after (s.plain_comesTo (c.subject s columns) ..)
  | error e => exact Render.ComesTo.stop (.throw e)

variable {list : List (Condition Query)} {cs : List Criterion}
  (hlist : leavesOf list = cs.map Criterion.condition)

include hlist

/-- The comparisons of a list are rendered one after the other, at all depths. -/
theorem leaves_comesTo :
    ((leavesOf list).mapM s.leafText).ComesTo
      ((cs.mapM (Criterion.outcome s columns)).map fun rs => (rs.map (·.1), rs.flatMap (·.2))) := by
  rw [hlist, List.mapM_map]
  exact Render.ComesTo.mapM fun c _ => leafText_comesTo hresolver c

variable {p : Progress (Option String)} (hp : p.pending = [])

include hp

/-- Where all comparisons are compiled, the text of the list is put together from theirs, and their
scalars are bound in their order. -/
theorem conditions_of_outcomes {rs : List (String × List Scalar)}
    (h : cs.mapM (Criterion.outcome s columns) = .ok rs) :
    ∃ q, s.conditions list p =
        .ok (Piece.joined (piecesFrom ((rs.map (·.1)).getD · "") 0 list)) q ∧
      q.bound = p.bound ++ rs.flatMap (·.2) := by
  have hleaves := leaves_comesTo hresolver hlist
  rw [h] at hleaves
  obtain ⟨j, hj⟩ := hleaves p
  rcases (conditions_written (unhooked_of_declared hresolver) list hp).both with
    ⟨sql, texts, q, q', hq, hq', rfl, hidle⟩ | ⟨e, q, q', _, hq'⟩
  · cases hj.symm.trans hq'
    exact ⟨q, hq, hidle.bound⟩
  · cases hj.symm.trans hq'

theorem conditions_of_outcomes_error {e : CompileError}
    (h : cs.mapM (Criterion.outcome s columns) = .error e) :
    ∃ q, s.conditions list p = .error e q := by
  have hleaves := leaves_comesTo hresolver hlist
  rw [h] at hleaves
  obtain ⟨q₀, hq₀⟩ := hleaves p
  rcases (conditions_written (unhooked_of_declared hresolver) list hp).both with
    ⟨sql, texts, q, q', _, hq', _⟩ | ⟨e', q, q', hq, hq'⟩
  · cases hq₀.symm.trans hq'
  · cases hq₀.symm.trans hq'
    exact ⟨q, hq⟩

theorem outcomes_of_conditions {sql : String} {q : Progress (Option String)}
    (h : s.conditions list p = .ok sql q) :
    ∃ rs, cs.mapM (Criterion.outcome s columns) = .ok rs := by
  cases hrs : cs.mapM (Criterion.outcome s columns) with
  | ok rs => exact ⟨rs, rfl⟩
  | error e =>
    obtain ⟨q', hq'⟩ := conditions_of_outcomes_error hresolver hlist hp hrs
    cases h.symm.trans hq'

end Scope

end ParamSql
