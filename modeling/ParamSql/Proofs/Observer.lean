import ParamSql.Proofs.Along
import ParamSql.Proofs.Beside

namespace ParamSql

variable {σ τ α : Type}

/-- What is noted beside the state of a resolver, whenever one of its hooks has answered. -/
structure Observer (σ τ : Type) where
  start : τ
  /-- By the states before and after a field is resolved. -/
  field : σ → σ → τ → τ := fun _ _ y => y
  /-- By a condition and those added for it. -/
  condition : Condition Query → List (Condition Query) → τ → τ := fun _ _ y => y
  joins : τ → τ := id

def Hook.watched (hook : Hook σ α) (watch : σ → α → σ → τ → τ) : Hook (σ × τ) α := fun x =>
  match hook x.1 with
  | .ok a y => .ok a (y, watch x.1 a y x.2)
  | .error e y => .error e (y, x.2)

def Hook.unwatched (hook : Hook σ α) : Hook (σ × τ) α :=
  Hook.watched hook fun _ _ _ y => y

namespace Observer

def resolver (o : Observer σ τ) (r : Resolver σ) : Resolver (σ × τ) where
  start := (r.start, o.start)
  select s := Hook.unwatched (r.select s)
  insert s := Hook.unwatched (r.insert s)
  update s := Hook.unwatched (r.update s)
  delete s := Hook.unwatched (r.delete s)
  field name type := Hook.watched (r.field name type) fun x _ x' => o.field x x'
  table t := Hook.unwatched (r.table t)
  root x := r.root x.1
  condition c := Hook.watched (r.condition c) fun _ answer _ => o.condition c answer.2
  joins x := ((r.joins x.1).1, (r.joins x.1).2, o.joins x.2)
  clear x := (r.clear x.1, x.2)

def compiler (o : Observer σ τ) (c : Compiler σ) : Compiler (σ × τ) where
  connection := c.connection
  platform := c.platform
  types := c.types
  resolver := o.resolver c.resolver
  quoted := c.quoted
  level := c.level
  limits := c.limits

/-- The scope in which the observer takes its notes. Nested queries are not observed, as each has a
resolver of its own. -/
def scope (o : Observer σ τ) (s : Scope σ) : Scope (σ × τ) :=
  ⟨o.compiler s.compiler, s.quoted, s.database, s.nested⟩

end Observer

/-- The same progress, with notes beside the resolver's state. -/
def Progress.noting (p : Progress σ) (notes : τ) : Progress (σ × τ) :=
  ⟨(p.state, notes), p.pending, p.bound, p.journal⟩

theorem Observer.field_eq (o : Observer σ τ) (r : Resolver σ) (name : String)
    (type : Option TypeName) (x : σ × τ) :
    (o.resolver r).field name type x =
      match r.field name type x.1 with
      | .ok a y => .ok a (y, o.field x.1 y x.2)
      | .error e y => .error e (y, x.2) := by
  change Hook.watched (r.field name type) (fun x _ x' => o.field x x') x = _
  rw [Hook.watched]
  cases r.field name type x.1 <;> rfl

theorem Observer.condition_eq (o : Observer σ τ) (r : Resolver σ) (c : Condition Query)
    (x : σ × τ) :
    (o.resolver r).condition c x =
      match r.condition c x.1 with
      | .ok answer y => .ok answer (y, o.condition c answer.2 x.2)
      | .error e y => .error e (y, x.2) := by
  change Hook.watched (r.condition c) (fun _ answer _ => o.condition c answer.2) x = _
  rw [Hook.watched]
  cases r.condition c x.1 <;> rfl

theorem Hook.endState_watched {hook : Hook σ α} {watch : σ → α → σ → τ → τ}
    {P : σ × τ → Prop} {x : σ} {y : τ} (hok : ∀ a x', hook x = .ok a x' → P (x', watch x a x' y))
    (herror : ∀ e x', hook x = .error e x' → P (x', y)) :
    P (endState (Hook.watched hook watch (x, y))) := by
  unfold Hook.watched
  cases hx : hook x with
  | ok a x' => exact hok a x' hx
  | error e x' => exact herror e x' hx

/-- A hook that clauses are rendered by takes a state to another, whether it answers or refuses. -/
inductive Resolver.Moves (r : Resolver σ) (x : σ) : σ → Prop
  | field (name : String) (type : Option TypeName) : Moves r x (endState (r.field name type x))
  | table (t : TableRef Query) : Moves r x (endState (r.table t x))
  | condition (c : Condition Query) : Moves r x (endState (r.condition c x))

/-- What holds of every move and the notes taken of it, holds of renderings as a whole. -/
theorem Observer.scope_along {o : Observer σ τ} {s : Scope σ} {P : σ × τ → σ × τ → Prop}
    (hrefl : ∀ x, P x x) (htrans : ∀ {x y z}, P x y → P y z → P x z)
    (hmove : ∀ x x' y, s.compiler.resolver.Moves x x' → P (x, y) (x', y))
    (hfield : ∀ x x' y, s.compiler.resolver.Moves x x' → P (x, y) (x', o.field x x' y))
    (hcondition : ∀ c added x x' y, s.compiler.resolver.Moves x x' →
      P (x, y) (x', o.condition c added y)) : (o.scope s).Along P where
  refl := hrefl
  trans := htrans
  table t x := by
    have hmoves := Resolver.Moves.table (r := s.compiler.resolver) (x := x.1) t
    change P x (endState (Hook.watched (s.compiler.resolver.table t) (fun _ _ _ y => y) (x.1, x.2)))
    apply Hook.endState_watched
    · intro a x' ha
      rw [ha] at hmoves
      exact hmove _ _ _ hmoves
    · intro e x' he
      rw [he] at hmoves
      exact hmove _ _ _ hmoves
  field name type x := by
    have hmoves := Resolver.Moves.field (r := s.compiler.resolver) (x := x.1) name type
    change P x (endState (Hook.watched (s.compiler.resolver.field name type)
      (fun x _ x' => o.field x x') (x.1, x.2)))
    apply Hook.endState_watched
    · intro a x' ha
      rw [ha] at hmoves
      exact hfield _ _ _ hmoves
    · intro e x' he
      rw [he] at hmoves
      exact hmove _ _ _ hmoves
  condition c x := by
    have hmoves := Resolver.Moves.condition (r := s.compiler.resolver) (x := x.1) c
    change P x (endState (Hook.watched (s.compiler.resolver.condition c)
      (fun _ answer _ => o.condition c answer.2) (x.1, x.2)))
    apply Hook.endState_watched
    · intro a x' ha
      rw [ha] at hmoves
      exact hcondition _ _ _ _ _ hmoves
    · intro e x' he
      rw [he] at hmoves
      exact hmove _ _ _ hmoves

theorem Observer.scope_keeps {o : Observer σ τ} {s : Scope σ} {I : σ × τ → Prop}
    (hmove : ∀ x x' y, s.compiler.resolver.Moves x x' → I (x, y) → I (x', y))
    (hfield : ∀ x x' y, s.compiler.resolver.Moves x x' → I (x, y) → I (x', o.field x x' y))
    (hcondition : ∀ c added x x' y, s.compiler.resolver.Moves x x' → I (x, y) →
      I (x', o.condition c added y)) : (o.scope s).Along fun x y => I x → I y :=
  Observer.scope_along (P := fun x y => I x → I y) (fun _ => id) (fun hxy hyz => hyz ∘ hxy) hmove
    hfield hcondition

theorem Hook.watched_beside (hook : Hook σ α) (watch : σ → α → σ → τ → τ) :
    Follows (fun _ => False) (fun (x : σ × τ) y => x.1 = y) (Hook.watched hook watch) hook
      (Same fun x y => x.1 = y) := by
  apply Follows.of_lockstep
  rintro x _ rfl
  unfold Hook.watched
  cases hook x.1 with
  | ok a y => exact .ok ⟨rfl, rfl⟩
  | error e y => exact .error fun _ => rfl

theorem Hook.unwatched_beside (hook : Hook σ α) :
    Follows (fun _ => False) (fun (x : σ × τ) y => x.1 = y) (Hook.unwatched hook) hook
      (Same fun x y => x.1 = y) :=
  Hook.watched_beside hook _

theorem Observer.resolver_beside (o : Observer σ τ) (r : Resolver σ) :
    (o.resolver r).Beside (fun _ => False) (fun x y => x.1 = y) r where
  start := rfl
  select s := Hook.unwatched_beside (r.select s)
  insert s := Hook.unwatched_beside (r.insert s)
  update s := Hook.unwatched_beside (r.update s)
  delete s := Hook.unwatched_beside (r.delete s)
  field name type := Hook.watched_beside (r.field name type) fun x _ x' => o.field x x'
  root h := h ▸ rfl
  condition c := Hook.watched_beside (r.condition c) fun _ answer _ => o.condition c answer.2
  joins h := h ▸ ⟨rfl, rfl⟩

/-- Whatever is rendered in an observed scope is rendered alike without the observer. -/
theorem Observer.scope_beside (o : Observer σ τ) (s : Scope σ) :
    (o.scope s).Beside (fun _ => False) (fun x y => x.1 = y) s :=
  Scope.beside_of_nested rfl rfl rfl rfl (fun _ _ => .inr rfl) rfl (o.resolver_beside _)
    (fun u => Hook.unwatched_beside (s.compiler.resolver.table u)) fun _ _ => .refl _

theorem Observer.select_ok (o : Observer σ τ) (notes : τ) {s : Scope σ} {select : Select Query}
    {a b : Assembly σ} {sql : String} (h : s.select select a = .ok sql b) :
    ∃ B, (o.scope s).select select ⟨a.cache, a.progress.noting notes⟩ = .ok sql B := by
  have hstep := ((o.scope_beside s).select select).lockstep
    ⟨a.cache, a.progress.noting notes⟩ a ⟨rfl, rfl, rfl, rfl⟩
  rcases hstep.both with ⟨_, _, B, _, hB, hb, rfl, _⟩ | ⟨_, _, _, _, hb⟩
  · rw [h] at hb
    injection hb with hsql
    exact ⟨B, hsql ▸ hB⟩
  · rw [h] at hb
    cases hb

end ParamSql
