import ParamSql.Proofs.Guided

namespace ParamSql

variable {σ : Type}

/-- The hooks of a resolver take alike to alike, and keep the relation `S` of states. -/
structure Resolver.Respects (r : Resolver σ) (strict : Prop) (W : Value → Value → Prop)
    (G : Query → Query → Prop) (S : σ → σ → Prop) : Prop where
  start : S r.start r.start
  select {a b : Select Query} : Select.Alike strict W G a b →
    Lockstep strict S (r.select a) (r.select b) (Ends (Select.Alike strict W G) S)
  insert {a b : Insert Query} : Insert.Alike strict W G a b →
    Lockstep strict S (r.insert a) (r.insert b) (Ends (Insert.Alike strict W G) S)
  update {a b : Update Query} : Update.Alike strict W G a b →
    Lockstep strict S (r.update a) (r.update b) (Ends (Update.Alike strict W G) S)
  delete {a b : Delete Query} : Delete.Alike strict W G a b →
    Lockstep strict S (r.delete a) (r.delete b) (Ends (Delete.Alike strict W G) S)
  field (name : String) (type : Option TypeName) :
    Lockstep strict S (r.field name type) (r.field name type) (Same S)
  table {t u : TableRef Query} : TableRef.Alike G t u →
    Lockstep strict S (r.table t) (r.table u) (Ends (TableRef.Alike G) S)
  root {x y : σ} : S x y → r.root x = r.root y
  condition {c d : Condition Query} : Condition.Alike strict W G c d →
    Lockstep strict S (r.condition c) (r.condition d)
      (Ends (fun a b => Condition.Alike strict W G a.1 b.1 ∧
        List.Forall₂ (Condition.Alike strict W G) a.2 b.2) S)
  joins {x y : σ} : S x y →
    List.Forall₂ (Join.Alike strict W G) (r.joins x).1 (r.joins y).1 ∧
      S (r.joins x).2 (r.joins y).2

/-- Progress alike, whatever the journal. -/
structure Progress.Alike (strict : Prop) (W : Value → Value → Prop) (G : Query → Query → Prop)
    (S : σ → σ → Prop) (B : List Scalar → List Scalar → Prop) (p q : Progress σ) : Prop where
  state : S p.state q.state
  pending : List.Forall₂ (Condition.Alike strict W G) p.pending q.pending
  bound : B p.bound q.bound

namespace Render

variable {strict : Prop} {P : Progress σ → Progress σ → Prop} {α β : Type}

theorem lockstep_modify {f g : Progress σ → Progress σ} (h : ∀ p q, P p q → P (f p) (g q)) :
    Lockstep strict P (modify f : Render σ PUnit) (modify g) (Stays P) :=
  fun p q hpq => .ok ⟨trivial, h p q hpq⟩

theorem consult_eq (call : Call) (hook : Hook σ α) (p : Progress σ) :
    consult call hook p =
      match hook p.state with
      | .ok a state => .ok a { p with journal := p.journal ++ [.asked call], state := state }
      | .error e state => .error e
        { p with journal := p.journal ++ [.asked call] ++ [.refused e], state := state } := by
  change EStateM.bind (onState hook) heed { p with journal := p.journal ++ [.asked call] } = _
  unfold EStateM.bind onState
  cases hook p.state <;> rfl

theorem lockstep_consult {S : σ → σ → Prop} {R R' : α → β → Prop} {call call' : Call}
    {hook : Hook σ α} {hook' : Hook σ β} (h : Lockstep strict S hook hook' (Ends R S))
    (hstate : ∀ p q, P p q → S p.state q.state)
    (hend : ∀ p q a b x y j j', P p q → R a b → S x y →
      R' a b ∧ P { p with journal := j, state := x } { q with journal := j', state := y }) :
    Lockstep strict P (consult call hook) (consult call' hook') (Ends R' P) := by
  intro p q hpq
  rw [consult_eq, consult_eq]
  have hhook := h _ _ (hstate p q hpq)
  revert hhook
  generalize hook p.state = x, hook' q.state = y
  intro hhook
  cases hhook with
  | ok hxy => exact .ok (hend _ _ _ _ _ _ _ _ hpq hxy.1 hxy.2)
  | error h => exact .error h
  | left h => exact .left h
  | right h => exact .right h

end Render

section

variable {s : Scope σ} {strict : Prop} {W : Value → Value → Prop} {G : Query → Query → Prop}
  {S : σ → σ → Prop} {B : List Scalar → List Scalar → Prop}

/-- Progress alike is kept by the steps of rendering, if it is by the binding of values and by the
compilation of nested queries. -/
theorem Scope.guided (hr : s.compiler.resolver.Respects strict W G S)
    (bind : ∀ (type : Option TypeName) (converted : Bool) {v w : Value}, W v w →
      Lockstep strict (Progress.Alike strict W G S B) (s.bind type converted v)
        (s.bind type converted w) (Stays (Progress.Alike strict W G S B)))
    (query : ∀ {q r : Query}, G q r →
      Lockstep strict (Progress.Alike strict W G S B) (s.query q) (s.query r)
        (Same (Progress.Alike strict W G S B)))
    (projected : ∀ {q r : Query}, G q r → s.projectedColumns? q = s.projectedColumns? r) :
    s.Guided strict W G (Progress.Alike strict W G S B) where
  note e := Render.lockstep_modify fun _ _ h => ⟨h.state, h.pending, h.bound⟩
  field name type := Render.lockstep_consult (hr.field name type) (fun _ _ h => h.state)
    fun _ _ _ _ _ _ _ _ h hR hS => ⟨hR, hS, h.pending, h.bound⟩
  root h := hr.root h.state
  bind := bind
  query := query
  table htu := Render.lockstep_consult (hr.table htu) (fun _ _ h => h.state)
    fun _ _ _ _ _ _ _ _ h hR hS => ⟨hR, hS, h.pending, h.bound⟩
  condition hcd := by
    refine (Render.lockstep_consult (hr.condition hcd) (fun _ _ h => h.state)
      fun _ _ _ _ _ _ _ _ h hR hS => ⟨hR, hS, h.pending, h.bound⟩).next fun a b hab => ?_
    refine (Render.lockstep_modify fun _ _ h => ?_).next fun _ _ _ => .ends hab.1
    exact ⟨h.state, List.rel_append h.pending hab.2, h.bound⟩
  pending := fun p q h => .ok ⟨h.pending, h.state, .nil, h.bound⟩
  joins := by
    refine (Render.lockstep_modify fun _ _ h => ⟨h.state, h.pending, h.bound⟩).next
      fun _ _ _ p q h => ?_
    have hjoins := hr.joins h.state
    exact .ok ⟨hjoins.1, hjoins.2, h.pending, h.bound⟩
  projected := projected

end

theorem Resolver.remember_respects {strict : Prop} {G : Query → Query → Prop} {α : Type}
    {R : α → α → Prop} {a b : α} {t u : Option (TableRef Query)} (hab : R a b)
    (htu : Option.Rel (TableRef.Alike G) t u) :
    Lockstep strict Eq (remember t a) (remember u b) (Ends R Eq) := by
  have hkey : t.bind TableRef.key? = u.bind TableRef.key? := by
    cases htu with
    | none => rfl
    | some htu => exact htu.key_eq
  exact fun _ _ _ => .ok ⟨hab, hkey⟩

theorem forall₂_head? {α : Type} {R : α → α → Prop} {as bs : List α} (h : List.Forall₂ R as bs) :
    Option.Rel R as.head? bs.head? := by
  cases h with
  | nil => exact .none
  | cons h _ => exact .some h

theorem Resolver.declared_respects {strict : Prop} {W : Value → Value → Prop}
    {G : Query → Query → Prop} (types : List (String × TypeName)) :
    (declared types).Respects strict W G Eq := by
  refine ⟨rfl, fun h => remember_respects h (forall₂_head? h.tables),
    fun h => remember_respects h h.table, fun h => remember_respects h h.table,
    fun h => remember_respects h h.table, fun _ _ => .ends rfl,
    fun h => .ends h, id, fun h => .ends ⟨h, .nil⟩, fun h => ⟨.nil, h⟩⟩

end ParamSql
