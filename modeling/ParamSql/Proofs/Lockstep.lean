import Mathlib.Data.List.Forall2

namespace ParamSql

variable {ε σ τ α β γ δ : Type}

theorem forall₂_isEmpty {R : α → β → Prop} {as : List α} {bs : List β} (h : List.Forall₂ R as bs) :
    as.isEmpty = bs.isEmpty := by
  cases h <;> rfl

/-- Two answers of collaborators, or two refusals. -/
inductive Answers (strict : Prop) (R : α → β → Prop) : Except ε α → Except ε β → Prop
  | ok {a : α} {b : β} (h : R a b) : Answers strict R (.ok a) (.ok b)
  | error {e e' : ε} (h : strict → e = e') : Answers strict R (.error e) (.error e')
  | left {a : α} {e : ε} (h : ¬ strict) : Answers strict R (.ok a) (.error e)
  | right {b : β} {e : ε} (h : ¬ strict) : Answers strict R (.error e) (.ok b)

theorem Answers.of_eq {strict : Prop} {R : α → α → Prop} (hR : ∀ a, R a a) (x : Except ε α) :
    Answers strict R x x := by
  cases x with
  | ok a => exact .ok (hR a)
  | error e => exact .error fun _ => rfl

theorem Answers.mono {strict : Prop} {R R' : α → β → Prop} {x : Except ε α} {y : Except ε β}
    (h : Answers strict R x y) (hR : ∀ a b, R a b → R' a b) : Answers strict R' x y := by
  cases h with
  | ok h => exact .ok (hR _ _ h)
  | error h => exact .error h
  | left h => exact .left h
  | right h => exact .right h

/-- Two ends of programs. Those that succeed end as `post` says; if `strict`, both succeed, or both
fail for the same cause. -/
inductive InStep (strict : Prop) (post : α → β → σ → τ → Prop) :
    EStateM.Result ε σ α → EStateM.Result ε τ β → Prop
  | ok {a : α} {b : β} {s : σ} {t : τ} (h : post a b s t) : InStep strict post (.ok a s) (.ok b t)
  | error {e e' : ε} {s : σ} {t : τ} (h : strict → e = e') :
      InStep strict post (.error e s) (.error e' t)
  | left {a : α} {e : ε} {s : σ} {t : τ} (h : ¬ strict) :
      InStep strict post (.ok a s) (.error e t)
  | right {b : β} {e : ε} {s : σ} {t : τ} (h : ¬ strict) :
      InStep strict post (.error e s) (.ok b t)

theorem InStep.mono {strict : Prop} {post post' : α → β → σ → τ → Prop}
    {x : EStateM.Result ε σ α} {y : EStateM.Result ε τ β} (h : InStep strict post x y)
    (hpost : ∀ a b s t, post a b s t → post' a b s t) : InStep strict post' x y := by
  cases h with
  | ok h => exact .ok (hpost _ _ _ _ h)
  | error h => exact .error h
  | left h => exact .left h
  | right h => exact .right h

theorem InStep.of_ok {post : α → β → σ → τ → Prop} {x : EStateM.Result ε σ α}
    {y : EStateM.Result ε τ β} (h : InStep True post x y) {a : α} {s : σ} (hx : x = .ok a s) :
    ∃ b t, y = .ok b t ∧ post a b s t := by
  subst hx
  cases h with
  | ok h => exact ⟨_, _, rfl, h⟩
  | left h => exact absurd trivial h

theorem InStep.of_error {post : α → β → σ → τ → Prop} {x : EStateM.Result ε σ α}
    {y : EStateM.Result ε τ β} (h : InStep True post x y) {e : ε} {s : σ} (hx : x = .error e s) :
    ∃ t, y = .error e t := by
  subst hx
  cases h with
  | @error _ e' _ t h => exact ⟨t, by rw [h trivial]⟩
  | right h => exact absurd trivial h

theorem InStep.both {post : α → β → σ → τ → Prop} {x : EStateM.Result ε σ α}
    {y : EStateM.Result ε τ β} (h : InStep True post x y) :
    (∃ a b s t, x = .ok a s ∧ y = .ok b t ∧ post a b s t) ∨
      ∃ e s t, x = .error e s ∧ y = .error e t := by
  cases h with
  | @ok a b s t h => exact .inl ⟨a, b, s, t, rfl, rfl, h⟩
  | @error e _ s t h => exact .inr ⟨e, s, t, rfl, h trivial ▸ rfl⟩
  | left h => exact absurd trivial h
  | right h => exact absurd trivial h

/-- Two programs that from states in the relation `pre` end in step. -/
def Lockstep (strict : Prop) (pre : σ → τ → Prop) (f : EStateM ε σ α) (g : EStateM ε τ β)
    (post : α → β → σ → τ → Prop) : Prop :=
  ∀ s t, pre s t → InStep strict post (f s) (g t)

def Ends (R : α → β → Prop) (P : σ → τ → Prop) (a : α) (b : β) (s : σ) (t : τ) : Prop :=
  R a b ∧ P s t

/-- The same result in related states. -/
abbrev Same (P : σ → τ → Prop) : α → α → σ → τ → Prop :=
  Ends Eq P

abbrev Stays (P : σ → τ → Prop) : α → β → σ → τ → Prop :=
  Ends (fun _ _ => True) P

namespace Lockstep

variable {strict : Prop} {pre P : σ → τ → Prop} {f : EStateM ε σ α} {g : EStateM ε τ β}
  {post mid : α → β → σ → τ → Prop}

theorem pure {a : α} {b : β} (h : ∀ s t, pre s t → post a b s t) :
    Lockstep strict pre (pure a : EStateM ε σ α) (pure b : EStateM ε τ β) post :=
  fun s t hst => .ok (h s t hst)

theorem ends {R : α → β → Prop} {a : α} {b : β} (h : R a b) :
    Lockstep strict P (Pure.pure a : EStateM ε σ α) (Pure.pure b : EStateM ε τ β) (Ends R P) :=
  fun _ _ hst => .ok ⟨h, hst⟩

theorem throw {e e' : ε} (h : strict → e = e') :
    Lockstep strict pre (throw e : EStateM ε σ α) (throw e' : EStateM ε τ β) post :=
  fun _ _ _ => .error h

theorem throw_left (h : ¬ strict) {e : ε} :
    Lockstep strict pre (MonadExcept.throw e : EStateM ε σ α) g post := by
  intro s t _
  change InStep strict post (.error e s) (g t)
  cases g t with
  | ok => exact .right h
  | error => exact .error fun hs => absurd hs h

theorem throw_right (h : ¬ strict) {e : ε} :
    Lockstep strict pre f (MonadExcept.throw e : EStateM ε τ β) post := by
  intro s t _
  change InStep strict post (f s) (.error e t)
  cases f s with
  | ok => exact .left h
  | error => exact .error fun hs => absurd hs h

theorem refl {R : α → α → Prop} (hR : ∀ a, R a a) (f : EStateM ε σ α) :
    Lockstep strict Eq f f (Ends R Eq) := by
  rintro s _ rfl
  cases f s with
  | ok a t => exact .ok ⟨hR a, rfl⟩
  | error e t => exact .error fun _ => rfl

theorem mono {pre' : σ → τ → Prop} {post' : α → β → σ → τ → Prop}
    (h : Lockstep strict pre f g post) (hpre : ∀ s t, pre' s t → pre s t)
    (hpost : ∀ a b s t, post a b s t → post' a b s t) : Lockstep strict pre' f g post' :=
  fun s t hst => (h s t (hpre s t hst)).mono hpost

theorem bind {k : α → EStateM ε σ γ} {l : β → EStateM ε τ δ} {L : γ → δ → σ → τ → Prop}
    (h : Lockstep strict pre f g mid)
    (hk : ∀ a b, Lockstep strict (mid a b) (k a) (l b) L) :
    Lockstep strict pre (f >>= k) (g >>= l) L := by
  intro s t hst
  change InStep strict L (EStateM.bind f k s) (EStateM.bind g l t)
  have hfg := h s t hst
  unfold EStateM.bind
  revert hfg
  generalize f s = x, g t = y
  intro hfg
  cases hfg with
  | ok h => exact hk _ _ _ _ h
  | error h => exact .error h
  | @left a e s' t' h =>
    change InStep strict L (k a s') _
    cases k a s' with
    | ok => exact .left h
    | error => exact .error fun hs => absurd hs h
  | @right b e s' t' h =>
    change InStep strict L _ (l b t')
    cases l b t' with
    | ok => exact .right h
    | error => exact .error fun hs => absurd hs h

/-- A program that leaves related states related may go ahead of the other. -/
theorem ahead {a : α} {k : α → EStateM ε σ γ} {g : EStateM ε τ δ} {L : γ → δ → σ → τ → Prop}
    (hf : ∀ s t, P s t → ∃ s', f s = .ok a s' ∧ P s' t) (hk : Lockstep strict P (k a) g L) :
    Lockstep strict P (f >>= k) g L := by
  intro s t hst
  obtain ⟨s', hs', hst'⟩ := hf s t hst
  change InStep strict L (EStateM.bind f k s) (g t)
  rw [EStateM.bind, hs']
  exact hk s' t hst'

theorem next {R : α → β → Prop} {k : α → EStateM ε σ γ} {l : β → EStateM ε τ δ}
    {L : γ → δ → σ → τ → Prop} (h : Lockstep strict pre f g (Ends R P))
    (hk : ∀ a b, R a b → Lockstep strict P (k a) (l b) L) :
    Lockstep strict pre (f >>= k) (g >>= l) L :=
  h.bind fun a b s t hst => hk a b hst.1 s t hst.2

theorem nextSame {f : EStateM ε σ α} {g : EStateM ε τ α} {k : α → EStateM ε σ γ}
    {l : α → EStateM ε τ δ} {L : γ → δ → σ → τ → Prop}
    (h : Lockstep strict pre f g (Same P)) (hk : ∀ a, Lockstep strict P (k a) (l a) L) :
    Lockstep strict pre (f >>= k) (g >>= l) L :=
  h.next fun a _ hab => hab ▸ hk a

theorem map {R : γ → δ → Prop} {k : α → γ} {l : β → δ}
    (h : Lockstep strict pre f g (Ends (fun a b => R (k a) (l b)) P)) :
    Lockstep strict pre (k <$> f) (l <$> g) (Ends R P) := by
  rw [map_eq_pure_bind, map_eq_pure_bind]
  exact h.next fun _ _ hab => ends hab

theorem mapM {R : α → β → Prop} {S : γ → δ → Prop} {as : List α} {bs : List β}
    {k : α → EStateM ε σ γ} {l : β → EStateM ε τ δ} (h : List.Forall₂ R as bs)
    (hk : ∀ a b, R a b → Lockstep strict P (k a) (l b) (Ends S P)) :
    Lockstep strict P (as.mapM k) (bs.mapM l) (Ends (List.Forall₂ S) P) := by
  induction h with
  | nil =>
    rw [List.mapM_nil, List.mapM_nil]
    exact ends .nil
  | cons hab _ ih =>
    rw [List.mapM_cons, List.mapM_cons]
    exact (hk _ _ hab).next fun _ _ hcd => ih.next fun _ _ hcds => ends (.cons hcd hcds)

theorem mapSame {k : α → EStateM ε σ γ} {l : α → EStateM ε τ γ}
    (hk : ∀ a, Lockstep strict P (k a) (l a) (Same P)) (as : List α) :
    Lockstep strict P (as.mapM k) (as.mapM l) (Same P) := by
  have hsame : List.Forall₂ Eq as as := List.forall₂_eq_eq_eq ▸ rfl
  apply (mapM (S := Eq) hsame fun a _ hab => hab ▸ hk a).mono (fun _ _ => id)
  intro xs ys s t hxy
  rw [List.forall₂_eq_eq_eq] at hxy
  exact hxy

theorem forM {R : α → β → Prop} {as : List α} {bs : List β} {k : α → EStateM ε σ PUnit}
    {l : β → EStateM ε τ PUnit} (h : List.Forall₂ R as bs)
    (hk : ∀ a b, R a b → Lockstep strict P (k a) (l b) (Stays P)) :
    Lockstep strict P (as.forM k) (bs.forM l) (Stays P) := by
  induction h with
  | nil => exact ends trivial
  | cons hab _ ih => exact (hk _ _ hab).next fun _ _ _ => ih

end Lockstep

end ParamSql
