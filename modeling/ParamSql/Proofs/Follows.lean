import ParamSql.Proofs.Lockstep

namespace ParamSql

variable {ε σ τ α β γ δ : Type}

/-- From states in the relation `pre` the programs end in strict step, unless the first fails for a
cause in `E`. -/
def Follows (E : ε → Prop) (pre : σ → τ → Prop) (f : EStateM ε σ α) (g : EStateM ε τ β)
    (post : α → β → σ → τ → Prop) : Prop :=
  ∀ s t, pre s t → (∃ e s', f s = .error e s' ∧ E e) ∨ InStep True post (f s) (g t)

/-- An answer that the second gives as the first does, unless the first is a refusal for a cause in
`E`. -/
def Upheld (E : ε → Prop) (x y : Except ε α) : Prop :=
  (∃ e, x = .error e ∧ E e) ∨ x = y

namespace Follows

variable {E : ε → Prop} {pre P : σ → τ → Prop} {f : EStateM ε σ α} {g : EStateM ε τ β}
  {post mid : α → β → σ → τ → Prop}

theorem of_lockstep (h : Lockstep True pre f g post) : Follows E pre f g post :=
  fun s t hst => .inr (h s t hst)

theorem refl {f : EStateM ε σ α} : Follows E Eq f f (Same Eq) :=
  of_lockstep (.refl (fun _ => rfl) f)

/-- The first is given up, or both succeed, or both fail for the same cause. -/
theorem cases (h : Follows E pre f g post) {s : σ} {t : τ} (hst : pre s t) :
    (∃ e s', f s = .error e s' ∧ E e) ∨
      (∃ a b s' t', f s = .ok a s' ∧ g t = .ok b t' ∧ post a b s' t') ∨
        ∃ e s' t', f s = .error e s' ∧ g t = .error e t' :=
  (h s t hst).imp id InStep.both

theorem lockstep (h : Follows (fun _ => False) pre f g post) : Lockstep True pre f g post := by
  intro s t hst
  rcases h s t hst with ⟨_, _, _, he⟩ | hstep
  · exact he.elim
  · exact hstep

theorem ends {R : α → β → Prop} {a : α} {b : β} (h : R a b) :
    Follows E P (Pure.pure a : EStateM ε σ α) (Pure.pure b : EStateM ε τ β) (Ends R P) :=
  of_lockstep (.ends h)

theorem throw {e : ε} :
    Follows E pre (throw e : EStateM ε σ α) (throw e : EStateM ε τ β) post :=
  of_lockstep (.throw fun _ => rfl)

theorem mono {pre' : σ → τ → Prop} {post' : α → β → σ → τ → Prop}
    (h : Follows E pre f g post) (hpre : ∀ s t, pre' s t → pre s t)
    (hpost : ∀ a b s t, post a b s t → post' a b s t) : Follows E pre' f g post' :=
  fun s t hst => (h s t (hpre s t hst)).imp id fun hstep => hstep.mono hpost

theorem bind {k : α → EStateM ε σ γ} {l : β → EStateM ε τ δ} {L : γ → δ → σ → τ → Prop}
    (h : Follows E pre f g mid) (hk : ∀ a b, Follows E (mid a b) (k a) (l b) L) :
    Follows E pre (f >>= k) (g >>= l) L := by
  intro s t hst
  change (∃ e s', EStateM.bind f k s = .error e s' ∧ E e) ∨
    InStep True L (EStateM.bind f k s) (EStateM.bind g l t)
  unfold EStateM.bind
  rcases h.cases hst with
    ⟨e, s', hs, he⟩ | ⟨a, b, s', t', hs, ht, hmid⟩ | ⟨e, s', t', hs, ht⟩
  · rw [hs]
    exact .inl ⟨e, s', rfl, he⟩
  · rw [hs, ht]
    exact hk a b s' t' hmid
  · rw [hs, ht]
    exact .inr (.error fun _ => rfl)

theorem next {R : α → β → Prop} {k : α → EStateM ε σ γ} {l : β → EStateM ε τ δ}
    {L : γ → δ → σ → τ → Prop} (h : Follows E pre f g (Ends R P))
    (hk : ∀ a b, R a b → Follows E P (k a) (l b) L) : Follows E pre (f >>= k) (g >>= l) L :=
  h.bind fun a b s t hst => hk a b hst.1 s t hst.2

theorem nextSame {f : EStateM ε σ α} {g : EStateM ε τ α} {k : α → EStateM ε σ γ}
    {l : α → EStateM ε τ δ} {L : γ → δ → σ → τ → Prop} (h : Follows E pre f g (Same P))
    (hk : ∀ a, Follows E P (k a) (l a) L) : Follows E pre (f >>= k) (g >>= l) L :=
  h.next fun a _ hab => hab ▸ hk a

theorem mapSame {f : EStateM ε σ α} {g : EStateM ε τ α} (k : α → β)
    (h : Follows E pre f g (Same P)) : Follows E pre (k <$> f) (k <$> g) (Same P) := by
  rw [map_eq_pure_bind, map_eq_pure_bind]
  exact h.nextSame fun _ => ends rfl

theorem mapM {k : α → EStateM ε σ β} {l : α → EStateM ε τ β}
    (hk : ∀ a, Follows E P (k a) (l a) (Same P)) (as : List α) :
    Follows E P (as.mapM k) (as.mapM l) (Same P) := by
  induction as with
  | nil =>
    rw [List.mapM_nil, List.mapM_nil]
    exact ends rfl
  | cons a as ih =>
    rw [List.mapM_cons, List.mapM_cons]
    exact (hk a).nextSame fun _ => ih.nextSame fun _ => ends rfl

theorem forM {k : α → EStateM ε σ PUnit} {l : α → EStateM ε τ PUnit}
    (hk : ∀ a, Follows E P (k a) (l a) (Stays P)) (as : List α) :
    Follows E P (as.forM k) (as.forM l) (Stays P) := by
  induction as with
  | nil => exact ends trivial
  | cons a as ih => exact (hk a).next fun _ _ _ => ih

end Follows

end ParamSql
