import ParamSql.Proofs.Builds
import ParamSql.Proofs.Mapped
import ParamSql.Proofs.Respects

namespace ParamSql

variable {σ α β : Type}

/-- The state at the end of a program, after success or failure. -/
def endState {ε : Type} : EStateM.Result ε σ α → σ
  | .ok _ x => x
  | .error _ x => x

theorem bind_of_ok {ε : Type} {f : EStateM ε σ α} {k : α → EStateM ε σ β} {x y : σ} {a : α}
    (h : f x = .ok a y) : (f >>= k) x = k a y := by
  change EStateM.bind f k x = _
  rw [EStateM.bind, h]

theorem bind_of_error {ε : Type} {f : EStateM ε σ α} {k : α → EStateM ε σ β} {x y : σ} {e : ε}
    (h : f x = .error e y) : (f >>= k) x = .error e y := by
  change EStateM.bind f k x = _
  rw [EStateM.bind, h]

theorem endState_bind_pure {ε : Type} (f : EStateM ε σ α) (g : α → β) (x : σ) :
    endState ((f >>= fun a => pure (g a)) x) = endState (f x) := by
  change endState (EStateM.bind f _ x) = _
  unfold EStateM.bind
  cases f x <;> rfl

theorem ok_of_bind {ε : Type} {f : EStateM ε σ α} {k : α → EStateM ε σ β} {x z : σ} {b : β}
    (h : (f >>= k) x = .ok b z) : ∃ a y, f x = .ok a y ∧ k a y = .ok b z := by
  change EStateM.bind f k x = _ at h
  unfold EStateM.bind at h
  cases hf : f x with
  | ok a y =>
    rw [hf] at h
    exact ⟨a, y, rfl, h⟩
  | error e y =>
    rw [hf] at h
    cases h

theorem ok_of_run' {ε : Type} {f : EStateM ε σ α} {x : σ} {a : α} (h : f.run' x = some a) :
    ∃ y, f x = .ok a y := by
  delta EStateM.run' EStateM.run at h
  cases hf : f x with
  | ok b y =>
    rw [hf] at h
    cases h
    exact ⟨y, rfl⟩
  | error e y =>
    rw [hf] at h
    cases h

theorem forall₂_of_mapM {ε : Type} {f : α → EStateM ε σ β} {as : List α} {bs : List β} {x y : σ}
    (h : as.mapM f x = .ok bs y) :
    List.Forall₂ (fun a b => ∃ x' y', f a x' = .ok b y') as bs := by
  induction as generalizing bs x with
  | nil =>
    cases h
    exact .nil
  | cons a as ih =>
    rw [List.mapM_cons] at h
    obtain ⟨b, x₁, hfirst, h⟩ := ok_of_bind h
    obtain ⟨others, x₂, hrest, h⟩ := ok_of_bind h
    cases h
    exact .cons ⟨x, x₁, hfirst⟩ (ih hrest)

/-- The states before and after a rendering are in the relation `P`. -/
def Render.Along (P : σ → σ → Prop) (f : Render σ α) : Prop :=
  ∀ p, P p.state (endState (f p)).state

/-- The hook for tables takes a state to one in the relation `P`, which is reflexive and
transitive. -/
structure Scope.TablesAlong (s : Scope σ) (P : σ → σ → Prop) : Prop where
  refl (x : σ) : P x x
  trans {x y z : σ} : P x y → P y z → P x z
  table (t : TableRef Query) (x : σ) : P x (endState (s.compiler.resolver.table t x))

/-- The hooks that clauses are rendered by take a state to one in the relation `P`. -/
structure Scope.Along (s : Scope σ) (P : σ → σ → Prop) : Prop extends s.TablesAlong P where
  field (name : String) (type : Option TypeName) (x : σ) :
    P x (endState (s.compiler.resolver.field name type x))
  condition (c : Condition Query) (x : σ) : P x (endState (s.compiler.resolver.condition c x))

namespace Scope.TablesAlong

variable {s : Scope σ} {P : σ → σ → Prop} (h : s.TablesAlong P)

include h

theorem pure (a : α) : Render.Along P (Pure.pure a : Render σ α) :=
  fun p => h.refl p.state

theorem throw (e : CompileError) : Render.Along P (MonadExcept.throw e : Render σ α) :=
  fun p => h.refl p.state

theorem bind {f : Render σ α} {k : α → Render σ β} (hf : f.Along P) (hk : ∀ a, (k a).Along P) :
    (f >>= k).Along P := by
  intro p
  have hfirst := hf p
  change P p.state (endState (EStateM.bind f k p)).state
  unfold EStateM.bind
  revert hfirst
  cases f p with
  | ok a q => exact fun hfirst => h.trans hfirst (hk a q)
  | error e q => exact id

theorem of_state {f : Render σ α} (hf : ∀ p, (endState (f p)).state = p.state) :
    f.Along P := by
  intro p
  rw [hf]
  exact h.refl _

theorem note (e : Event) : Render.Along P (Render.note e : Render σ Unit) :=
  h.of_state fun _ => rfl

theorem heed (answer : Except CompileError α) :
    Render.Along P (Render.heed answer : Render σ α) := by
  cases answer with
  | ok a => exact h.pure a
  | error e => exact h.bind (h.note _) fun _ => h.throw e

theorem ask (call : Call) (answer : Except CompileError α) :
    Render.Along P (Render.ask call answer : Render σ α) :=
  h.bind (h.note _) fun _ => h.heed answer

omit h in
theorem consult {call : Call} {hook : Hook σ α} (hhook : ∀ x, P x (endState (hook x))) :
    (Render.consult call hook).Along P := by
  intro p
  have hend := hhook p.state
  rw [Render.consult_eq]
  revert hend
  cases hook p.state <;> exact id

theorem query (q : Query) : (s.query q).Along P := by
  have hlift {γ : Type} (answer : Except CompileError γ) :
      (Render.lift answer : Render σ γ).Along P :=
    h.of_state fun _ => by cases answer <;> rfl
  apply h.bind (hlift _)
  intro database
  apply h.bind (h.of_state fun _ => rfl)
  intro _
  apply h.bind (hlift _)
  intro sql
  exact h.bind (h.of_state fun _ => rfl) fun _ => h.pure _

theorem builds : s.BuildsTables fun _ f => f.Along P where
  pure := h.pure
  throw := h.throw
  bind := h.bind
  query := h.query
  resolved t := consult (h.table t)

end Scope.TablesAlong

/-- Renderings go along with the relation. -/
theorem Scope.Along.builds {s : Scope σ} {P : σ → σ → Prop} (h : s.Along P) :
    s.Builds fun _ f => f.Along P where
  toBuildsTables := h.toTablesAlong.builds
  bindAll _ := h.of_state fun _ => rfl
  converted answer := h.ask .convert answer
  transform answer := h.ask .transform answer
  fragmentAsked := h.note _
  refusal e := h.heed (.error e)
  root := h.of_state fun _ => rfl
  field name type := Scope.TablesAlong.consult (h.field name type)
  condition c := h.bind (Scope.TablesAlong.consult (h.condition c)) fun _ =>
    h.bind (h.of_state fun _ => rfl) fun _ => h.pure _
  pending := h.of_state fun _ => rfl

end ParamSql
