import ParamSql.Proofs.Coherent
import ParamSql.Proofs.Follows

namespace ParamSql

variable {σ τ α β : Type}

/-- A relation of progress with the same bindings, whatever the journals. -/
structure Progress.Binding (P : Progress σ → Progress τ → Prop) : Prop where
  bound {p : Progress σ} {q : Progress τ} : P p q → p.bound = q.bound
  rebound {p : Progress σ} {q : Progress τ} (scalars : List Scalar) :
    P p q → P { p with bound := scalars } { q with bound := scalars }
  journal {p : Progress σ} {q : Progress τ} (j j' : Journal) :
    P p q → P { p with journal := j } { q with journal := j' }

/-- Compilations of the same outcome, unless the first is given up. -/
def Compilation.UpTo (E : CompileError → Prop) (x y : Compilation) : Prop :=
  (∃ e, x.result = .error e ∧ E e) ∨ x.outcome = y.outcome

namespace Compilation

variable {E : CompileError → Prop} {x y : Compilation}

theorem outcome_of_ok {sql : String} (h : x.result = .ok sql) :
    x.outcome = .ok ⟨sql, x.cache.bindings⟩ := by
  rw [outcome, h]
  rfl

theorem outcome_of_error {e : CompileError} (h : x.result = .error e) :
    x.outcome = .error e := by
  rw [outcome, h]
  rfl

theorem outcome_cases (h : x.outcome = y.outcome) :
    (∃ sql, x.result = .ok sql ∧ y.result = .ok sql ∧ x.cache.bindings = y.cache.bindings) ∨
      ∃ e, x.result = .error e ∧ y.result = .error e := by
  cases hx : x.result with
  | ok sql =>
    rw [outcome_of_ok hx] at h
    cases hy : y.result with
    | ok sql' =>
      rw [outcome_of_ok hy] at h
      obtain ⟨rfl, hbindings⟩ := Compiled.mk.inj (Except.ok.inj h)
      exact .inl ⟨sql, rfl, rfl, hbindings⟩
    | error e =>
      rw [outcome_of_error hy] at h
      cases h
  | error e =>
    rw [outcome_of_error hx] at h
    cases hy : y.result with
    | ok sql =>
      rw [outcome_of_ok hy] at h
      cases h
    | error e' =>
      rw [outcome_of_error hy] at h
      cases h
      exact .inr ⟨e, rfl, rfl⟩

theorem UpTo.refl (x : Compilation) : x.UpTo E x :=
  .inr rfl

theorem UpTo.failed {e : CompileError} (hx : x.result = .error e) (hy : y.result = .error e) :
    x.UpTo E y :=
  .inr ((outcome_of_error hx).trans (outcome_of_error hy).symm)

theorem UpTo.outcome_of_ne {e : CompileError} (h : x.UpTo (fun e' => e' = e) y)
    (hx : x.result ≠ .error e) : x.outcome = y.outcome := by
  rcases h with ⟨_, he, rfl⟩ | h
  · exact absurd he hx
  · exact h

theorem UpTo.outcome (h : x.UpTo (fun _ => False) y) : x.outcome = y.outcome := by
  rcases h with ⟨_, _, he⟩ | h
  · exact he.elim
  · exact h

end Compilation

namespace Progress.Binding

variable {E : CompileError → Prop} {P : Progress σ → Progress τ → Prop}
  (hP : Progress.Binding P)

include hP

theorem note (e : Event) : Follows E P (Render.note e) (Render.note e) (Stays P) :=
  .of_lockstep fun _ _ h => .ok ⟨trivial, hP.journal _ _ h⟩

theorem bindAll (scalars : List Scalar) :
    Follows E P (Render.bindAll scalars) (Render.bindAll scalars) (Stays P) := by
  apply Follows.of_lockstep
  intro p q h
  have hboth := hP.rebound (p.bound ++ scalars) h
  nth_rewrite 2 [hP.bound h] at hboth
  exact .ok ⟨trivial, hboth⟩

theorem heed {x y : Except CompileError α} (h : Upheld E x y) :
    Follows E P (Render.heed x) (Render.heed y) (Same P) := by
  rcases h with ⟨e, rfl, he⟩ | rfl
  · exact fun _ _ _ => .inl ⟨e, _, rfl, he⟩
  · cases x with
    | ok a => exact .ends rfl
    | error e => exact (hP.note _).next fun _ _ _ => .throw

theorem ask (call : Call) {x y : Except CompileError α} (h : Upheld E x y) :
    Follows E P (Render.ask call x) (Render.ask call y) (Same P) :=
  (hP.note _).next fun _ _ _ => hP.heed h

omit hP in
theorem lift (answer : Except CompileError α) :
    Follows E P (Render.lift answer) (Render.lift answer) (Same P) := by
  cases answer with
  | ok a => exact .ends rfl
  | error e => exact .throw

/-- Nested queries are rendered to the same text if they are compiled to the same. -/
theorem query {s : Scope σ} {t : Scope τ} {q r : Query}
    (h : (∃ d d', s.databaseOf q = .ok d ∧ t.databaseOf r = .ok d' ∧
        (s.nested d q).UpTo E (t.nested d' r)) ∨
      ∃ e, s.databaseOf q = .error e ∧ t.databaseOf r = .error e) :
    Follows E P (s.query q) (t.query r) (Same P) := by
  unfold Scope.query
  rcases h with ⟨d, d', hd, hd', h⟩ | ⟨e, he, he'⟩
  · rw [hd, hd']
    change Follows E P (do
      modify fun p => { p with journal := p.journal ++ (s.nested d q).journal }
      let sql ← Render.lift (s.nested d q).result
      Render.bindAll (s.nested d q).cache.bindings
      return sql) (do
      modify fun p => { p with journal := p.journal ++ (t.nested d' r).journal }
      let sql ← Render.lift (t.nested d' r).result
      Render.bindAll (t.nested d' r).cache.bindings
      return sql) _
    revert h
    generalize s.nested d q = x, t.nested d' r = y
    rintro (⟨e, hx, he⟩ | h)
    · intro p p' _
      refine .inl ⟨e, { p with journal := p.journal ++ x.journal }, ?_, he⟩
      rw [hx]
      rfl
    · apply Follows.next (R := fun _ _ => True) (P := P)
      · exact .of_lockstep fun p p' hp => .ok ⟨trivial, hP.journal _ _ hp⟩
      · intro _ _ _
        rcases Compilation.outcome_cases h with ⟨sql, hx, hy, hbindings⟩ | ⟨e, hx, hy⟩
        · rw [hx, hy, hbindings]
          apply (lift (.ok sql)).nextSame
          intro sql
          exact (hP.bindAll _).next fun _ _ _ => .ends rfl
        · rw [hx, hy]
          exact .of_lockstep fun _ _ _ => .error fun _ => rfl
  · rw [he, he']
    exact .throw

end Progress.Binding

/-- Two assemblies that keep the same, at progress in the relation `P`. -/
structure Assembly.Beside (P : Progress σ → Progress τ → Prop) (a : Assembly σ) (b : Assembly τ) :
    Prop where
  cache : a.cache = b.cache
  progress : P a.progress b.progress

namespace Assemble

variable {E : CompileError → Prop} {P : Progress σ → Progress τ → Prop}
  (hP : Progress.Binding P)

include hP

theorem segment_beside (cl : Clause) (keep : Bool) {f : Render σ String} {g : Render τ String}
    (h : Follows E P f g (Same P)) :
    Follows E (Assembly.Beside P) (segment cl keep f) (segment cl keep g)
      (Same (Assembly.Beside P)) := by
  rintro ⟨cache, p⟩ ⟨_, q⟩ ⟨rfl, hpq⟩
  have hrun := h.cases (hP.rebound [] hpq)
  unfold segment
  revert hrun
  generalize f { p with bound := [] } = x, g { q with bound := [] } = y
  rintro (⟨e, p', rfl, he⟩ | ⟨a, _, p', q', rfl, rfl, rfl, hpq⟩ | ⟨e, p', q', rfl, rfl⟩)
  · exact .inl ⟨e, _, rfl, he⟩
  · exact .inr (.ok ⟨rfl, by rw [hP.bound hpq], hpq⟩)
  · exact .inr (.error fun _ => rfl)

theorem clause_beside (cl : Clause) {f : Render σ String} {g : Render τ String}
    (h : Follows E P f g (Same P)) :
    Follows E (Assembly.Beside P) (clause cl f) (clause cl g) (Same (Assembly.Beside P)) := by
  intro a b hab
  change (∃ e a', (if a.cache.isMissing cl then Functor.discard (segment cl true f)
      else Pure.pure ()) a = .error e a' ∧ E e) ∨
    InStep True _ ((if a.cache.isMissing cl then Functor.discard (segment cl true f)
      else Pure.pure ()) a)
      ((if b.cache.isMissing cl then Functor.discard (segment cl true g) else Pure.pure ()) b)
  rw [hab.cache]
  split
  · exact (segment_beside hP cl true h).mapSame _ a b hab
  · exact .inr (.ok ⟨rfl, hab⟩)

/-- Works on the same clauses in the same order, in step. -/
abbrev WorksBeside (E : CompileError → Prop) (P : Progress σ → Progress τ → Prop) :
    List (Work σ) → List (Work τ) → Prop :=
  List.Forall₂ fun w x => w.1 = x.1 ∧ Follows E P w.2 x.2 (Same P)

theorem fill_beside {ws : List (Work σ)} {vs : List (Work τ)} (h : WorksBeside E P ws vs) :
    Follows E (Assembly.Beside P) (fill ws) (fill vs) (Same (Assembly.Beside P)) := by
  induction h with
  | nil => exact .ends rfl
  | @cons w x ws vs hwx _ ih =>
    obtain ⟨clause, f⟩ := w
    obtain ⟨_, g⟩ := x
    obtain ⟨rfl, hfg⟩ := hwx
    exact (clause_beside hP clause hfg).nextSame fun _ => ih

open Scope in
theorem select_beside {s : Scope σ} {t : Scope τ} {select select' : Select Query}
    (hworks : WorksBeside E P (s.works select) (t.works select'))
    (hsql : ∀ cache, s.selectSql select cache = t.selectSql select' cache) :
    Follows E (Assembly.Beside P) (s.select select) (t.select select')
      (Same (Assembly.Beside P)) := by
  intro a b hab
  have hdropped : Assembly.Beside P (dropped a) (dropped b) := by
    rw [dropped, dropped, hab.cache]
    split
    · exact ⟨rfl, hab.progress⟩
    · exact hab
  rw [select_eq, select_eq]
  rcases (fill_beside hP hworks).cases hdropped with
    ⟨e, a', ha, he⟩ | ⟨_, _, a', b', ha, hb, _, hab⟩ | ⟨e, a', b', ha, hb⟩
  · refine .inl ⟨e, a', ?_, he⟩
    rw [ha]
  · rw [ha, hb]
    refine .inr (.ok ⟨?_, hab⟩)
    rw [hab.cache, hsql]
  · rw [ha, hb]
    exact .inr (.error fun _ => rfl)

end Assemble

namespace Compiler

variable {E : CompileError → Prop} {P : Progress σ → Progress τ → Prop} {c : Compiler σ}
  {c' : Compiler τ} {kind : StatementKind} {q r : Query}

theorem attempt_beside (hkind : q.statement.kind = r.statement.kind) (hcache : q.cache = r.cache)
    {work work' : Query → Compilation}
    (h : q.statement.kind = kind → q.cache.compiled = none → (work q).UpTo E (work' r)) :
    (c.attempt kind q work).UpTo E (c'.attempt kind r work') := by
  by_cases hq : q.statement.kind = kind
  · have hr : r.statement.kind = kind := hkind.symm.trans hq
    cases hcompiled : q.cache.compiled with
    | some sql =>
      rw [attempt_of_compiled hq hcompiled, attempt_of_compiled hr (hcache ▸ hcompiled), hcache]
      exact .refl _
    | none =>
      have hcompiled' : r.cache.compiled = none := hcache ▸ hcompiled
      rcases h hq hcompiled with ⟨e, he, hE⟩ | h
      · exact .inl ⟨e, (attempt_result hq hcompiled).trans he, hE⟩
      · exact .inr (by rw [outcome_attempt hq hcompiled, outcome_attempt hr hcompiled', h])
  · rw [attempt_of_ne hq, attempt_of_ne (hkind ▸ hq), hkind]
    exact .failed rfl rfl

theorem within_beside {S : σ → τ → Prop} {R : α → β → Prop} {s : Scope σ}
    {t : Scope τ} (kind : StatementKind) (cache : Cache)
    (hstart : S s.compiler.resolver.start t.compiler.resolver.start)
    (hbegin : ∀ x y j j', S x y → P ⟨x, [], [], j⟩ ⟨y, [], [], j'⟩)
    {prepare : Hook σ α} {prepare' : Hook τ β}
    (hprepare : Follows E S prepare prepare' (Ends R S)) {assemble : α → Assemble σ String}
    {assemble' : β → Assemble τ String}
    (hassemble : ∀ a b, R a b → Follows E (Assembly.Beside P) (assemble a) (assemble' b)
      (Same (Assembly.Beside P))) :
    (within s kind cache prepare assemble).UpTo E (within t kind cache prepare' assemble') := by
  rw [within_eq, within_eq]
  rcases hprepare.cases hstart with
    ⟨e, x, hx, he⟩ | ⟨a, b, x, y, hx, hy, hab, hxy⟩ | ⟨e, x, y, hx, hy⟩
  · rw [hx]
    exact .inl ⟨e, rfl, he⟩
  · rw [hx, hy]
    simp only
    generalize .asked (.prepare kind) ::
        Journal.ofLogs (Log.statement s.compiler.level kind) = i,
      .asked (.prepare kind) :: Journal.ofLogs (Log.statement t.compiler.level kind) = j
    have hbegun : Assembly.Beside P ⟨{ cache with compiling := true }, ⟨x, [], [], i⟩⟩
      ⟨{ cache with compiling := true }, ⟨y, [], [], j⟩⟩ := ⟨rfl, hbegin x y i j hxy⟩
    rcases (hassemble a b hab).cases hbegun with
      ⟨e, a', ha, he⟩ | ⟨sql, _, a', b', ha, hb, rfl, hab⟩ | ⟨e, a', b', ha, hb⟩
    · rw [ha]
      exact .inl ⟨e, rfl, he⟩
    · rw [ha, hb]
      refine .inr (Compilation.outcome_congr rfl fun clause => ?_)
      simp only [close, hab.cache]
    · rw [ha, hb]
      exact .failed rfl rfl
  · rw [hx, hy]
    exact .failed rfl rfl

theorem derived_beside (hplatform : c.platform = c'.platform) (hcache : q.cache = r.cache)
    {select select' : Select Query} (a : Aggregate) {nested nested' : Query → Compilation}
    (h : (nested (q.forRows select)).UpTo E (nested' (r.forRows select'))) :
    (c.derived q select a nested).UpTo E (c'.derived r select' a nested') := by
  rw [derived_eq, derived_eq, hplatform, hcache]
  revert h
  generalize nested (q.forRows select) = x, nested' (r.forRows select') = y
  rintro (⟨e, hx, he⟩ | h)
  · rw [hx]
    exact .inl ⟨e, rfl, he⟩
  · rcases Compilation.outcome_cases h with ⟨sql, hx, hy, hbindings⟩ | ⟨e, hx, hy⟩
    · rw [hx, hy, hbindings]
      exact .inr rfl
    · rw [hx, hy]
      exact .failed rfl rfl

end Compiler

end ParamSql
