import ParamSql.Proofs.Embedded

namespace ParamSql

variable {σ : Type}

namespace Select

def unlocked {Q : Type} (s : Select Q) : Select Q :=
  { s with lock := none }

/-- A SELECT whose lock is never written: an aggregate that is not over rows of another query, or
any SELECT if the platform has no words for locks. -/
def NeverLocks {Q : Type} (p : Platform) (s : Select Q) : Prop :=
  (s.aggregate.isSome = true ∧ s.derivedAggregate? = none) ∨
    (p.writeLock = "" ∧ p.readLock = "")

/-- SELECTs alike but for locks that are never written. -/
structure AlikeButLock (p : Platform) (G : Query → Query → Prop) (s t : Select Query) : Prop where
  unlocked : Select.Alike True Eq G s.unlocked t.unlocked
  lock : s.NeverLocks p ∨ s.lock = t.lock

variable {p : Platform} {G : Query → Query → Prop} {s t : Select Query}

theorem Alike.alikeButLock (h : Select.Alike True Eq G s t) : AlikeButLock p G s t where
  unlocked := { h with lock := rfl }
  lock := .inr h.lock

namespace AlikeButLock

variable (h : AlikeButLock p G s t)

include h

theorem aggregate_eq : s.aggregate = t.aggregate :=
  h.unlocked.aggregate

theorem derivedAggregate?_eq : s.derivedAggregate? = t.derivedAggregate? := by
  have hdistinct : s.distinct = t.distinct := h.unlocked.distinct
  rw [derivedAggregate?, derivedAggregate?, h.aggregate_eq, hdistinct]

theorem rows {a : Aggregate} (ha : s.derivedAggregate? = some a) :
    AlikeButLock p G { s with aggregate := none } { t with aggregate := none } where
  unlocked := { h.unlocked with aggregate := rfl }
  lock := by
    rcases h.lock with (⟨_, hnone⟩ | hwords) | hlock
    · rw [ha] at hnone
      cases hnone
    · exact .inl (.inr hwords)
    · exact .inr hlock

theorem lockClause_eq {scope : Scope σ} (hp : scope.platform = p) :
    scope.lockClause s = scope.lockClause t := by
  subst hp
  rw [Scope.lockClause, Scope.lockClause, ← h.aggregate_eq]
  rcases h.lock with (⟨haggregate, _⟩ | ⟨hwrite, hread⟩) | hlock
  · rw [haggregate]
    rfl
  · have hsilent (lock : Option LockMode) : scope.lockSql lock = "" := by
      cases lock with
      | none => rfl
      | some mode => cases mode <;> assumption
    rw [hsilent, hsilent]
  · rw [hlock]

end AlikeButLock

end Select

inductive Statement.AlikeButLock (p : Platform) (G : Query → Query → Prop) :
    Statement Query → Statement Query → Prop
  | select {s t : Select Query} (h : Select.AlikeButLock p G s t) :
    AlikeButLock p G (.select s) (.select t)
  | alike {a b : Statement Query} (h : Statement.Alike True Eq G a b) : AlikeButLock p G a b

/-- Queries that are the same but for locks that are never written, their own or those of nested
queries, which are in the relation `G`. -/
structure Query.SameButLocks (p : Platform) (G : Query → Query → Prop) (q r : Query) : Prop where
  statement : Statement.AlikeButLock p G q.statement r.statement
  connection : q.connection = r.connection
  quoted : q.quoted = r.quoted
  cache : q.cache = r.cache

/-- A resolver that takes alike to alike, whatever the locks that are never written. -/
structure Resolver.IgnoresLocks (r : Resolver σ) (p : Platform) (G : Query → Query → Prop)
    (S : σ → σ → Prop) : Prop extends r.Respects True Eq G S where
  unlocked {s t : Select Query} : Select.AlikeButLock p G s t →
    Lockstep True S (r.select s) (r.select t) (Ends (Select.AlikeButLock p G) S)

theorem Resolver.declared_ignoresLocks (types : List (String × TypeName)) (p : Platform)
    (G : Query → Query → Prop) : (declared types).IgnoresLocks p G Eq where
  toRespects := declared_respects types
  unlocked h := remember_respects h (forall₂_head? h.unlocked.tables)

namespace Query.SameButLocks

variable {p : Platform} {G : Query → Query → Prop} {q r : Query} (h : q.SameButLocks p G r)

include h

theorem kind_eq : q.statement.kind = r.statement.kind := by
  obtain ⟨statement, _, _, _⟩ := h
  revert statement
  generalize q.statement = a, r.statement = b
  intro statement
  cases statement with
  | select _ => rfl
  | alike h => exact h.kind_eq

theorem projectedColumns_eq (s : Scope σ) : s.projectedColumns? q = s.projectedColumns? r := by
  obtain ⟨statement, _, _, _⟩ := h
  unfold Scope.projectedColumns?
  revert statement
  generalize q.statement = a, r.statement = b
  intro statement
  cases statement with
  | select h =>
    have hcolumns := h.unlocked.columns
    simp only [Select.unlocked] at hcolumns
    simp only [hcolumns, h.aggregate_eq]
  | alike h =>
    cases h with
    | select h => simp only [h.columns, h.aggregate]
    | _ => rfl

end Query.SameButLocks

namespace Scope

open Assemble

variable {s : Scope σ} {G : Query → Query → Prop} {S : σ → σ → Prop}

theorem select_butLock (h : s.Guided True Eq G (Progress.Interchanged G S)) {t u : Select Query}
    (htu : Select.AlikeButLock s.platform G t u) :
    Follows (fun _ => False) (Assembly.Beside (Progress.Interchanged G S)) (s.select t) (s.select u)
      (Same (Assembly.Beside (Progress.Interchanged G S))) := by
  have hbody : WorksBeside (fun _ => False) (Progress.Interchanged G S) (s.body t) (s.body u) :=
    (h.body htu.unlocked).imp fun _ _ hwork => ⟨hwork.1, .of_lockstep hwork.2⟩
  apply Assemble.select_beside Progress.binding_interchanged
  · exact List.rel_append hbody (.cons ⟨rfl, .ends (htu.lockClause_eq rfl)⟩ .nil)
  · intro cache
    have hlimit : t.limit = u.limit := htu.unlocked.limit
    have hoffset : t.offset = u.offset := htu.unlocked.offset
    rw [Scope.selectSql, Scope.selectSql, hlimit, hoffset]

end Scope

namespace Compiler

variable {c : Compiler σ} {G : Query → Query → Prop} {S : σ → σ → Prop} {q r : Query}

section

variable (hhooks : c.resolver.IgnoresLocks c.platform G S)
  (hG : ∀ q r, G q r → q = r ∨ q.SameButLocks c.platform G r)

include hhooks hG

theorem guided_butLocks {quoted : Bool} {database : Option String}
    {nested : Option String → Query → Compilation}
    (hnested : ∀ d q r, q.SameButLocks c.platform G r →
      (nested d q).UpTo (fun _ => False) (nested d r)) :
    Scope.Guided ⟨c, quoted, database, nested⟩ True Eq G (Progress.Interchanged G S) := by
  apply Scope.guided hhooks.toRespects
  · rintro type converted v _ rfl
    exact Progress.lenient_interchanged.bind type converted v
  · intro q r hqr
    rcases hG q r hqr with rfl | hsame
    · exact Progress.lenient_interchanged.query q
    · apply Follows.lockstep
      apply Progress.binding_interchanged.query
      have hdatabase (s : Scope σ) : s.databaseOf r = s.databaseOf q := by
        rw [Scope.databaseOf, Scope.databaseOf, hsame.connection]
      rw [hdatabase]
      cases hd : Scope.databaseOf ⟨c, quoted, database, nested⟩ q with
      | ok d => exact .inl ⟨d, d, rfl, rfl, hnested d q r hsame⟩
      | error e => exact .inr ⟨e, rfl, rfl⟩
  · intro q r hqr
    rcases hG q r hqr with rfl | hsame
    · rfl
    · exact hsame.projectedColumns_eq _

/-- Locks that are never written are not seen, with any number of levels of nesting. -/
theorem selectIn_butLocks (n : Nat) (database : Option String)
    (h : q.SameButLocks c.platform G r) :
    (c.selectIn n database q).UpTo (fun _ => False) (c.selectIn n database r) := by
  induction n generalizing database q r with
  | zero => exact .failed rfl rfl
  | succ n ih =>
    have hselect {s t : Select Query} (hst : Select.AlikeButLock c.platform G s t)
        (hs : q.statement = .select s) (ht : r.statement = .select t) :
        (c.selectIn (n + 1) database q).UpTo (fun _ => False)
          (c.selectIn (n + 1) database r) := by
      apply attempt_beside h.kind_eq h.cache
      intro _ _
      simp only [hs, ht, ← h.quoted, ← h.cache, ← hst.derivedAggregate?_eq]
      cases hcase : s.derivedAggregate? with
      | some a =>
        exact derived_beside rfl h.cache a
          (ih database ⟨.select (hst.rows hcase), h.connection, h.quoted, rfl⟩)
      | none =>
        apply within_beside (P := Progress.Interchanged G S) .select q.cache hhooks.start
        · exact fun _ _ _ _ hxy => ⟨hxy, .nil, rfl⟩
        · exact .of_lockstep (hhooks.unlocked hst)
        · exact fun a b hab => Scope.select_butLock (guided_butLocks hhooks hG fun d q r => ih d) hab
    have statement := h.statement
    generalize hq : q.statement = a at statement
    generalize hr : r.statement = b at statement
    cases statement with
    | select hst => exact hselect hst hq hr
    | alike hab =>
      cases hab with
      | select hst => exact hselect hst.alikeButLock hq hr
      | _ =>
        apply attempt_beside h.kind_eq h.cache
        intro hkind _
        rw [hq] at hkind
        cases hkind

theorem mutationIn_butLocks (kind : StatementKind) (h : q.SameButLocks c.platform G r) :
    (c.mutationIn kind q).UpTo (fun _ => False) (c.mutationIn kind r) := by
  have hscope : c.scope r = c.scope q := by rw [Compiler.scope, Compiler.scope, h.quoted]
  have hguided : (c.scope q).Guided True Eq G (Progress.Interchanged G S) :=
    guided_butLocks hhooks hG fun d _ _ => selectIn_butLocks hhooks hG _ d
  have hwithin {α : Type} {R : α → α → Prop} {kind : StatementKind} {prepare prepare' : Hook σ α}
      {render : α → Render σ String} (hprepare : Lockstep True S prepare prepare' (Ends R S))
      (hrender : ∀ a b, R a b → Lockstep True (Progress.Interchanged G S) (render a) (render b)
        (Same (Progress.Interchanged G S))) :
      (within (c.scope q) kind q.cache prepare fun t => Assemble.segment .whole false
        (render t)).UpTo (fun _ => False) (within (c.scope q) kind q.cache prepare' fun t =>
          Assemble.segment .whole false (render t)) := by
    apply within_beside (P := Progress.Interchanged G S) kind q.cache hhooks.start
    · exact fun _ _ _ _ hxy => ⟨hxy, .nil, rfl⟩
    · exact .of_lockstep hprepare
    · intro a b hab
      apply Assemble.segment_beside Progress.binding_interchanged
      exact .of_lockstep (hrender a b hab)
  apply attempt_beside h.kind_eq h.cache
  intro _ _
  simp only [hscope, ← h.cache]
  have statement := h.statement
  generalize q.statement = a at statement
  generalize r.statement = b at statement
  cases statement with
  | select _ => exact .failed rfl rfl
  | alike hab =>
    cases hab with
    | select _ => exact .failed rfl rfl
    | insert h => exact hwithin (hhooks.insert h) fun _ _ => hguided.insert
    | update h => exact hwithin (hhooks.update h) fun _ _ => hguided.update
    | delete h => exact hwithin (hhooks.delete h) fun _ _ => hguided.delete

theorem compilation_butLocks (kind : StatementKind) (h : q.SameButLocks c.platform G r) :
    (c.compilation kind q).UpTo (fun _ => False) (c.compilation kind r) := by
  cases kind with
  | select => exact selectIn_butLocks hhooks hG _ none h
  | _ => exact mutationIn_butLocks hhooks hG _ h

/-- Queries that are the same but for locks of aggregates, their own or those of queries nested in
them, are compiled to the same; so are queries that the compiler has made of them, whatever these
keep. Aggregates over distinct rows are not among them, unless the platform has no locks. -/
theorem compile_eq_of_sameButLocks (h : q.SameButLocks c.platform G r) :
    (c.compile q).result = (c.compile r).result ∧
      (c.resolver.Additive → ∀ q' r', c.Made q' → c.Made r' → q'.fresh = q.fresh →
        r'.fresh = r.fresh → (c.compile q').result = (c.compile r').result) := by
  have hcompile {q r : Query} (h : q.SameButLocks c.platform G r) :
      (c.compile q).result = (c.compile r).result := by
    rw [compile_result, compile_result, ← h.kind_eq]
    exact (compilation_butLocks hhooks hG _ h).outcome
  refine ⟨hcompile h, fun hadd q' r' hq hr hqq hrr => ?_⟩
  have hfresh : q.fresh.SameButLocks c.platform G r.fresh :=
    ⟨h.statement, h.connection, h.quoted, rfl⟩
  rw [hq.compile_eq hadd, hr.compile_eq hadd, hqq, hrr, hcompile hfresh]

end

/-- The highest id of the users, with a lock. -/
def highestId (lock : Option LockMode) : Query :=
  .ofStatement (.select
    { aggregate := some ⟨.max, "id"⟩, tables := [.table "users"], lock := lock })

/-- One query with a lock, and one without. -/
def LockedOrNot (q r : Query) : Prop :=
  q = highestId (some .write) ∧ r = highestId none

theorem highestId_sameButLocks : (highestId (some .write)).SameButLocks (ofDialect .mysql).platform
    LockedOrNot (highestId none) where
  statement := by
    have htables : List.Forall₂ (TableRef.Alike LockedOrNot) [.table "users"] [.table "users"] :=
      .cons ⟨.name _, rfl⟩ .nil
    exact .select ⟨⟨rfl, rfl, rfl, htables, .nil, .nil, rfl, .nil, rfl, rfl, rfl, rfl⟩,
      .inl (.inl ⟨rfl, rfl⟩)⟩
  connection := rfl
  quoted := rfl
  cache := rfl

theorem compile_usersWithin_highestId :
    ((ofDialect .mysql).compile (.usersWithin (highestId (some .write)))).result =
        .ok ⟨"SELECT users.* FROM users WHERE id IN (SELECT MAX(id) AS aggregate FROM users)", []⟩ ∧
      ((ofDialect .mysql).compile (.usersWithin (highestId (some .write)))).result =
        ((ofDialect .mysql).compile (.usersWithin (highestId none))).result := by
  refine ⟨by cbv, (compile_eq_of_sameButLocks (G := LockedOrNot)
    (Resolver.declared_ignoresLocks [] (ofDialect .mysql).platform LockedOrNot) ?_ ?_).1⟩
  · rintro q r ⟨rfl, rfl⟩
    exact .inr highestId_sameButLocks
  · exact ⟨.alike (Query.usersWithin_alike ⟨rfl, rfl⟩), rfl, rfl, rfl⟩

/-- How many distinct users there are, with a lock. -/
def distinctUsers (lock : Option LockMode) : Query :=
  .ofStatement (.select
    { aggregate := some ⟨.count, "*"⟩, distinct := true, tables := [.table "users"], lock := lock })

/-- The distinct rows are selected with the lock of the aggregate. -/
theorem compile_distinctUsers_locked_ne :
    ((ofDialect .mysql).compile (distinctUsers (some .write))).result ≠
      ((ofDialect .mysql).compile (distinctUsers none)).result := by
  have hlocked : ((ofDialect .mysql).compile (distinctUsers (some .write))).result =
      .ok ⟨"SELECT COUNT(*) AS aggregate FROM (SELECT DISTINCT users.* FROM users FOR UPDATE) " ++
        "AS derived_query", []⟩ := by cbv
  have hfree : ((ofDialect .mysql).compile (distinctUsers none)).result =
      .ok ⟨"SELECT COUNT(*) AS aggregate FROM (SELECT DISTINCT users.* FROM users) " ++
        "AS derived_query", []⟩ := by cbv
  rw [hlocked, hfree]
  simp

end Compiler

end ParamSql
