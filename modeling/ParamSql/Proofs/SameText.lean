import ParamSql.Proofs.Memo
import ParamSql.Proofs.Runs
import ParamSql.Proofs.Shapes

namespace ParamSql

variable {σ : Type}

/-- Progress of renderings of one shape, whatever they have bound. -/
abbrev Progress.Shaped (S : σ → σ → Prop) : Progress σ → Progress σ → Prop :=
  Progress.Alike False (fun _ _ => True) Query.Shaped S fun _ _ => True

/-- A resolver whose hooks do not look at values. -/
abbrev Resolver.Blind (r : Resolver σ) (S : σ → σ → Prop) : Prop :=
  r.Respects False (fun _ _ => True) Query.Shaped S

namespace Scope

variable {s : Scope σ} {S : σ → σ → Prop}

theorem scalar_quiet (s : Scope σ) (type : Option TypeName) (converted : Bool) (v : Value)
    (p : Progress σ) :
    (∃ x j, s.scalar type converted v p = .ok x { p with journal := j }) ∨
      ∃ e p', s.scalar type converted v p = .error e p' := by
  have hask (call : Call) (answer : Except CompileError Scalar) :
      (∃ x j, Render.ask call answer p = .ok x { p with journal := j }) ∨
        ∃ e p', Render.ask call answer p = .error e p' := by
    cases answer with
    | ok x => exact .inl ⟨x, _, rfl⟩
    | error e => exact .inr ⟨e, _, rfl⟩
  unfold scalar
  cases converted with
  | false => exact hask _ _
  | true =>
    simp only
    cases v.scalar? with
    | some x => exact .inl ⟨x, p.journal, rfl⟩
    | none => exact hask _ _

theorem bind_shaped (type : Option TypeName) (converted : Bool) (v w : Value) :
    Lockstep False (Progress.Shaped S) (s.bind type converted v) (s.bind type converted w)
      (Stays (Progress.Shaped S)) := by
  refine Lockstep.next (R := fun _ _ => True) (P := Progress.Shaped S) (fun p q h => ?_)
    fun x y _ => Render.lockstep_modify fun p q h => ⟨h.state, h.pending, trivial⟩
  rcases s.scalar_quiet type converted v p with ⟨x, j, hx⟩ | ⟨e, p', hx⟩ <;>
    rcases s.scalar_quiet type converted w q with ⟨y, k, hy⟩ | ⟨e', q', hy⟩ <;> rw [hx, hy]
  · exact .ok ⟨trivial, h.state, h.pending, trivial⟩
  · exact .left id
  · exact .right id
  · exact .error nofun

theorem databaseOf_shaped {q r : Query} (h : q.Shaped r) : s.databaseOf q = s.databaseOf r := by
  unfold databaseOf
  rw [h.unfold.connection]

theorem projectedColumns_shaped {q r : Query} (h : q.Shaped r) :
    s.projectedColumns? q = s.projectedColumns? r := by
  have hstatement := h.unfold.statement
  unfold projectedColumns?
  revert hstatement
  generalize q.statement = a, r.statement = b
  intro hstatement
  cases hstatement with
  | select h => simp only [h.columns, h.aggregate]
  | _ => rfl

/-- A scope renders what is of one shape to the same text if it does so for nested queries. -/
theorem guided_shaped (hr : s.compiler.resolver.Blind S)
    (hnested : ∀ database q r, q.Shaped r →
      Answers False Eq (s.nested database q).result (s.nested database r).result) :
    s.Guided False (fun _ _ => True) Query.Shaped (Progress.Shaped S) := by
  refine guided hr (fun type converted v w _ => bind_shaped type converted v w)
    (fun {q r} hqr => ?_) projectedColumns_shaped
  unfold query
  rw [databaseOf_shaped hqr]
  apply (Render.lockstep_lift (.of_eq (fun _ => rfl) _)).nextSame
  intro database
  apply (Render.lockstep_modify fun _ _ h => ⟨h.state, h.pending, h.bound⟩).next
  intro _ _ _
  apply (Render.lockstep_lift (hnested database q r hqr)).nextSame
  intro sql
  exact (Render.lockstep_modify fun _ _ h => ⟨h.state, h.pending, trivial⟩).next
    fun _ _ _ => .ends rfl

end Scope

/-- Assemblies of one shape. -/
structure Assembly.Shaped (S : σ → σ → Prop) (a b : Assembly σ) : Prop where
  cache : a.cache.SameTexts b.cache
  progress : Progress.Shaped S a.progress b.progress

theorem Cache.SameTexts.put {x y : Cache} (h : x.SameTexts y) (clause : Clause) {s t : Slot}
    (hst : s.fragment = t.fragment) : (x.put clause s).SameTexts (y.put clause t) where
  slots other := by
    by_cases hother : other = clause
    · rw [hother, slot_put_self, slot_put_self, hst]
    · rw [slot_put_ne _ _ hother, slot_put_ne _ _ hother, h.slots]
  compiled := by rw [compiled_put, compiled_put, h.compiled]

theorem Cache.SameTexts.discard {x y : Cache} (h : x.SameTexts y) (clauses : List Clause) :
    (x.discard clauses).SameTexts (y.discard clauses) where
  slots clause := by
    rw [slot_discard, slot_discard]
    split
    · rfl
    · exact h.slots clause
  compiled := by rw [compiled_discard, compiled_discard, h.compiled]

theorem Cache.SameTexts.with_compiling {x y : Cache} (h : x.SameTexts y) (compiling : Bool) :
    Cache.SameTexts { x with compiling := compiling } { y with compiling := compiling } where
  slots clause := by
    rw [slot_with_compiling, slot_with_compiling]
    exact h.slots clause
  compiled := h.compiled

namespace Assemble

variable {S : σ → σ → Prop}

theorem clause_shaped (clause : Clause) {f g : Render σ String}
    (h : Lockstep False (Progress.Shaped S) f g (Same (Progress.Shaped S))) :
    Lockstep False (Assembly.Shaped S) (Assemble.clause clause f) (Assemble.clause clause g)
      (Stays (Assembly.Shaped S)) := by
  intro a b hab
  have hmissing := hab.cache.isMissing clause
  cases hb : b.cache.isMissing clause with
  | false =>
    rw [clause_of_kept (hmissing.trans hb), clause_of_kept hb]
    exact .ok ⟨trivial, hab⟩
  | true =>
    rw [clause_of_missing (hmissing.trans hb), clause_of_missing hb]
    have hrun := h { a.progress with bound := [] } { b.progress with bound := [] }
      ⟨hab.progress.state, hab.progress.pending, trivial⟩
    revert hrun
    generalize f { a.progress with bound := [] } = x, g { b.progress with bound := [] } = y
    intro hrun
    cases hrun with
    | ok hpq =>
      obtain ⟨rfl, hpq⟩ := hpq
      exact .ok ⟨trivial, hab.cache.put clause rfl, hpq⟩
    | error _ => exact .error False.elim
    | left _ => exact .left id
    | right _ => exact .right id

abbrev Works (S : σ → σ → Prop) : Work σ → Work σ → Prop := fun w v =>
  w.1 = v.1 ∧ Lockstep False (Progress.Shaped S) w.2 v.2 (Same (Progress.Shaped S))

theorem fill_shaped {ws vs : List (Work σ)} (h : List.Forall₂ (Works S) ws vs) :
    Lockstep False (Assembly.Shaped S) (fill ws) (fill vs) (Stays (Assembly.Shaped S)) := by
  induction h with
  | nil => exact .ends trivial
  | @cons w v ws vs hwv _ ih =>
    obtain ⟨clause, f⟩ := w
    obtain ⟨_, g⟩ := v
    obtain ⟨rfl, hfg⟩ := hwv
    exact (clause_shaped clause hfg).next fun _ _ _ => ih

end Assemble

namespace Scope

open Assemble

variable {s : Scope σ} {S : σ → σ → Prop}

theorem dropped_shaped {a b : Assembly σ} (h : Assembly.Shaped S a b) :
    Assembly.Shaped S (dropped a) (dropped b) := by
  have hmissing : a.cache.isMissing = b.cache.isMissing := funext h.cache.isMissing
  rw [dropped, dropped, hmissing]
  split
  · exact ⟨h.cache.discard _, h.progress⟩
  · exact h

theorem Guided.body {strict : Prop} {W : Value → Value → Prop} {G : Query → Query → Prop}
    {P : Progress σ → Progress σ → Prop} (h : s.Guided strict W G P) {t u : Select Query}
    (htu : Select.Alike strict W G t u) :
    List.Forall₂ (fun w v => w.1 = v.1 ∧ Lockstep strict P w.2 v.2 (Same P)) (s.body t)
      (s.body u) := by
  refine .cons ⟨rfl, h.columnsClause htu⟩ ?_
  refine .cons ⟨rfl, h.toSeated.tablesClause htu.tables⟩ ?_
  refine .cons ⟨rfl, htu.groups ▸ h.groupsClause _⟩ ?_
  refine .cons ⟨rfl, h.conditionsAfter _ htu.having⟩ ?_
  refine .cons ⟨rfl, htu.orders ▸ h.ordersClause _⟩ ?_
  refine .cons ⟨rfl, h.conditionsAfter _ htu.filters⟩ ?_
  exact .cons ⟨rfl, h.joinsClause htu⟩ .nil

theorem Guided.works {strict : Prop} {W : Value → Value → Prop} {G : Query → Query → Prop}
    {P : Progress σ → Progress σ → Prop} (h : s.Guided strict W G P) {t u : Select Query}
    (htu : Select.Alike strict W G t u) :
    List.Forall₂ (fun w v => w.1 = v.1 ∧ Lockstep strict P w.2 v.2 (Same P)) (s.works t)
      (s.works u) := by
  have hlock : s.lockClause t = s.lockClause u := by
    rw [lockClause, lockClause, htu.aggregate, htu.lock]
  exact List.rel_append (h.body htu) (.cons ⟨rfl, .ends hlock⟩ .nil)

theorem select_shaped (h : s.Guided False (fun _ _ => True) Query.Shaped (Progress.Shaped S))
    {t u : Select Query} (htu : Select.Alike False (fun _ _ => True) Query.Shaped t u) :
    Lockstep False (Assembly.Shaped S) (s.select t) (s.select u) (Same (Assembly.Shaped S)) := by
  intro a b hab
  have hfill := fill_shaped (h.works htu) _ _ (dropped_shaped hab)
  rw [select_eq, select_eq]
  revert hfill
  generalize fill (s.works t) (dropped a) = x, fill (s.works u) (dropped b) = y
  intro hfill
  cases hfill with
  | @ok _ _ a b hab =>
    refine .ok ⟨?_, hab.2⟩
    rw [s.selectSql_congr t hab.2.cache.slots, selectSql, selectSql, htu.limit, htu.offset]
  | error _ => exact .error False.elim
  | left _ => exact .left id
  | right _ => exact .right id

end Scope

end ParamSql
