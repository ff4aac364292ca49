import ParamSql.Proofs.Identical

namespace ParamSql

variable {σ : Type}

/-- A relation of progress that does not look at journals, and that stays if the same bindings are
added. -/
structure Progress.Lenient (P : Progress σ → Progress σ → Prop) : Prop where
  journal {p q : Progress σ} (j j' : Journal) :
    P p q → P { p with journal := j } { q with journal := j' }
  bound {p q : Progress σ} (scalars : List Scalar) :
    P p q → P { p with bound := p.bound ++ scalars } { q with bound := q.bound ++ scalars }

namespace Progress.Lenient

variable {P : Progress σ → Progress σ → Prop} (hP : Progress.Lenient P) {strict : Prop}
  {s : Scope σ}

include hP

theorem note (e e' : Event) : Lockstep strict P (Render.note e) (Render.note e') (Stays P) :=
  Render.lockstep_modify fun _ _ h => hP.journal _ _ h

theorem bindAll (scalars : List Scalar) :
    Lockstep strict P (Render.bindAll scalars) (Render.bindAll scalars) (Stays P) :=
  Render.lockstep_modify fun _ _ h => hP.bound scalars h

theorem ask {α : Type} (call : Call) (answer : Except CompileError α) :
    Lockstep strict P (Render.ask call answer) (Render.ask call answer) (Same P) :=
  (hP.note _ _).next fun _ _ _ => Render.lockstep_heed (.of_eq (fun _ => rfl) _)

theorem scalar (type : Option TypeName) (converted : Bool) (v : Value) :
    Lockstep strict P (s.scalar type converted v) (s.scalar type converted v) (Same P) := by
  unfold Scope.scalar
  cases converted with
  | false => exact hP.ask _ _
  | true =>
    simp only
    cases v.scalar? with
    | some scalar => exact .ends rfl
    | none => exact hP.ask _ _

theorem bind (type : Option TypeName) (converted : Bool) (v : Value) :
    Lockstep strict P (s.bind type converted v) (s.bind type converted v) (Stays P) :=
  (hP.scalar type converted v).nextSame fun scalar => hP.bindAll [scalar]

theorem query (q : Query) : Lockstep strict P (s.query q) (s.query q) (Same P) := by
  apply (Render.lockstep_lift (.of_eq (fun _ => rfl) _)).nextSame
  intro database
  apply (Render.lockstep_modify fun _ _ h => hP.journal _ _ h).next
  intro _ _ _
  apply (Render.lockstep_lift (.of_eq (fun _ => rfl) _)).nextSame
  intro sql
  exact (hP.bindAll _).next fun _ _ _ => .ends rfl

theorem steady (hstate : ∀ {p q : Progress σ}, P p q → p.state = q.state)
    (hmove : ∀ {p q : Progress σ} (x : σ), P p q → P { p with state := x } { q with state := x }) :
    s.Steady True Eq Eq P := by
  refine ⟨fun e => hP.note e e, fun name type => ?_, fun h => by rw [hstate h],
    fun type converted _ _ h => h ▸ hP.bind type converted _, fun h => h ▸ hP.query _⟩
  refine Render.lockstep_consult (S := Eq) (R := Eq) (fun x y hxy => ?_) (fun _ _ => hstate)
    fun _ _ _ _ x _ _ _ h hR hS => ⟨hR, hS ▸ hP.journal _ _ (hmove x h)⟩
  subst hxy
  cases s.compiler.resolver.field name type x with
  | ok f y => exact .ok ⟨rfl, rfl⟩
  | error e y => exact .error fun _ => rfl

end Progress.Lenient

/-- The same progress, but for the journal. -/
abbrev Progress.Silent : Progress σ → Progress σ → Prop :=
  Progress.Alike True Eq Eq Eq Eq

abbrev Progress.SameState : Progress σ → Progress σ → Prop :=
  Progress.Alike True Eq Eq Eq fun _ _ => True

theorem Progress.Alike.of_eq {B : List Scalar → List Scalar → Prop} {p q : Progress σ}
    (hstate : p.state = q.state) (hpending : p.pending = q.pending) (hbound : B p.bound q.bound) :
    Progress.Alike True Eq Eq Eq B p q :=
  ⟨hstate, hpending ▸ Condition.Alike.refls (fun _ => rfl) (fun _ => rfl) _, hbound⟩

theorem Progress.lenient_silent : Progress.Lenient (@Progress.Silent σ) where
  journal _ _ h := ⟨h.state, h.pending, h.bound⟩
  bound _ h := ⟨h.state, h.pending, congrArg (· ++ _) h.bound⟩

/-- No rendering looks at the journal. -/
theorem Scope.guided_silent (s : Scope σ) : s.Guided True Eq Eq Progress.Silent :=
  s.guided s.compiler.resolver.respects_eq
    (fun type converted _ _ h => h ▸ Progress.lenient_silent.bind type converted _)
    (fun h => h ▸ Progress.lenient_silent.query _) fun h => h ▸ rfl

def Resolver.TablePure (r : Resolver σ) : Prop :=
  ∃ answer : TableRef Query → Except CompileError (TableRef Query), ∀ t x,
    r.table t x =
      match answer t with
      | .ok u => .ok u x
      | .error e => .error e x

/-- A rendering that from any progress ends with the text and the bindings of a slot, and leaves
the state and the pending conditions. -/
def Render.Fixed (work : Render σ String) (slot : Slot) : Prop :=
  ∃ sql, slot.fragment = some sql ∧ ∀ p : Progress σ, ∃ j,
    work { p with bound := [] } = .ok sql { p with bound := slot.bindings, journal := j }

/-- A rendering that comes to the same from any progress, if it comes to anything. -/
def Render.Constant (work : Render σ String) : Prop :=
  ∀ (p p' : Progress σ) (sql : String), work { p with bound := [] } = .ok sql p' →
    work.Fixed ⟨some sql, p'.bound⟩

theorem Render.constant_pure (sql : String) : Render.Constant (pure sql : Render σ String) := by
  intro p p' _ h
  cases h
  exact ⟨sql, rfl, fun q => ⟨q.journal, rfl⟩⟩

/-- Progress with the same bindings, from the given states and pending conditions. -/
structure Progress.From (x y : σ × List (Condition Query)) (p q : Progress σ) : Prop where
  left : (p.state, p.pending) = x
  right : (q.state, q.pending) = y
  bound : p.bound = q.bound

theorem Progress.lenient_from (x y : σ × List (Condition Query)) :
    Progress.Lenient (Progress.From x y) where
  journal _ _ h := ⟨h.left, h.right, h.bound⟩
  bound _ h := ⟨h.left, h.right, congrArg (· ++ _) h.bound⟩

theorem Scope.seated_from {s : Scope σ} (hr : s.compiler.resolver.TablePure)
    (x y : σ × List (Condition Query)) : s.Seated True Eq (Progress.From x y) where
  query h := h ▸ (Progress.lenient_from x y).query _
  table := by
    rintro t u htu p q ⟨hp, hq, hpq⟩
    obtain rfl := htu.eq
    obtain ⟨answer, hanswer⟩ := hr
    unfold Scope.resolveTable
    rw [Render.consult_eq, Render.consult_eq, hanswer, hanswer]
    cases answer t with
    | ok u => exact .ok ⟨.refl (fun _ => rfl) u, hp, hq, hpq⟩
    | error e => exact .error fun _ => rfl

theorem Scope.tablesClause_constant {s : Scope σ} (hr : s.compiler.resolver.TablePure)
    (tables : List (TableRef Query)) : (s.tablesClause tables).Constant := by
  refine fun p p' sql h => ⟨sql, rfl, fun q => ?_⟩
  have hpq := (seated_from hr (p.state, p.pending) (q.state, q.pending)).tablesClause
    (forall₂_refl (.refl fun _ => rfl) tables) { p with bound := [] } { q with bound := [] }
    ⟨rfl, rfl, rfl⟩
  obtain ⟨_, q', hrun, rfl, -, hright, hbound⟩ := hpq.of_ok h
  obtain ⟨state, pending, bound, journal⟩ := q'
  obtain ⟨rfl, rfl⟩ := Prod.mk.inj hright
  obtain rfl : p'.bound = bound := hbound
  exact ⟨journal, hrun⟩

end ParamSql
