import ParamSql.Proofs.Respects

namespace ParamSql

section Reflexive

variable {Q : Type} {strict : Prop} {W : Value → Value → Prop} {G : Q → Q → Prop}

theorem forall₂_refl {α : Type} {R : α → α → Prop} (h : ∀ a, R a a) (as : List α) :
    List.Forall₂ R as as :=
  List.forall₂_same.2 fun a _ => h a

theorem Value.Alike.refl (hW : ∀ v, W v v) (v : Value) : Value.Alike W v v :=
  ⟨hW v, rfl, rfl, forall₂_refl (fun a => ⟨hW a, rfl⟩) _⟩

section

variable (hW : ∀ v, W v v) (hG : ∀ q, G q q)

include hW hG

theorem Operand.Settled.refl (o : Operand Q) : Operand.Settled strict W G o o := by
  cases o with
  | value v => exact .value (.refl hW v)
  | query q => exact .query (hG q)
  | fragment f => exact .fragment f
  | transformer f => exact .transformer fun _ => rfl

theorem Operand.Alike.refl (o : Operand Q) : Operand.Alike strict W G o o := by
  cases o with
  | value v => exact .value (.refl hW v)
  | query q => exact .query (hG q)
  | fragment f => exact .fragment f
  | transformer f =>
    exact .transformer fun _ _ _ => .of_eq (fun t => ⟨rfl, rfl, .refl hW hG t.operand⟩) _

theorem Comparison.Alike.refl (c : Comparison Q) : Comparison.Alike strict W G c c :=
  ⟨rfl, rfl, .refl hW hG _, rfl⟩

end

mutual

theorem Condition.Alike.refl (hW : ∀ v, W v v) (hG : ∀ q, G q q) :
    ∀ c : Condition Q, Condition.Alike strict W G c c
  | .comparison g c => .comparison g (.refl hW hG c)
  | .group g members => .group g (Condition.Alike.refls hW hG members)
  | .fragment g f => .fragment g f

theorem Condition.Alike.refls (hW : ∀ v, W v v) (hG : ∀ q, G q q) :
    ∀ cs : List (Condition Q), List.Forall₂ (Condition.Alike strict W G) cs cs
  | [] => .nil
  | c :: cs => .cons (Condition.Alike.refl hW hG c) (Condition.Alike.refls hW hG cs)

end

variable (hW : ∀ v, W v v) (hG : ∀ q, G q q)

include hW hG

omit hW in
theorem TableRef.Alike.refl (t : TableRef Q) : TableRef.Alike G t t := by
  obtain ⟨source, label⟩ := t
  cases source with
  | name s => exact ⟨.name s, rfl⟩
  | query q => exact ⟨.query (hG q), rfl⟩

theorem Join.Alike.refl (j : Join Q) : Join.Alike strict W G j j :=
  ⟨rfl, .refl hG _, Condition.Alike.refls hW hG _⟩

theorem Select.Alike.refl (s : Select Q) : Select.Alike strict W G s s where
  columns := rfl
  aggregate := rfl
  distinct := rfl
  tables := forall₂_refl (.refl hG) _
  joins := forall₂_refl (.refl hW hG) _
  filters := Condition.Alike.refls hW hG _
  groups := rfl
  having := Condition.Alike.refls hW hG _
  orders := rfl
  limit := rfl
  offset := rfl
  lock := rfl

theorem Assignment.Alike.refl (a : Assignment Q) : Assignment.Alike strict W G a a :=
  ⟨rfl, .refl hW hG _, rfl⟩

theorem InsertSource.Alike.refl (s : InsertSource Q) : InsertSource.Alike strict W G s s := by
  cases s with
  | assignments items => exact .assignments (forall₂_refl (.refl hW hG) _)
  | query q => exact .query (hG q)

omit hW in
theorem TableRef.Alike.refl? (t : Option (TableRef Q)) : Option.Rel (TableRef.Alike G) t t := by
  cases t with
  | none => exact .none
  | some t => exact .some (.refl hG t)

theorem Insert.Alike.refl (s : Insert Q) : Insert.Alike strict W G s s :=
  ⟨TableRef.Alike.refl? hG _, .refl hW hG _, rfl, rfl⟩

theorem Update.Alike.refl (s : Update Q) : Update.Alike strict W G s s :=
  ⟨TableRef.Alike.refl? hG _, forall₂_refl (.refl hW hG) _, Condition.Alike.refls hW hG _⟩

theorem Delete.Alike.refl (s : Delete Q) : Delete.Alike strict W G s s :=
  ⟨TableRef.Alike.refl? hG _, Condition.Alike.refls hW hG _⟩

end Reflexive

section Equal

variable {Q : Type}

theorem forall₂_eq {α : Type} {R : α → α → Prop} (h : ∀ {a b}, R a b → a = b) {as bs : List α}
    (hab : List.Forall₂ R as bs) : as = bs := by
  induction hab with
  | nil => rfl
  | cons hab _ ih => rw [h hab, ih]

theorem Operand.Settled.eq {o p : Operand Q} (h : Operand.Settled True Eq Eq o p) : o = p := by
  cases h with
  | value h => rw [h.whole]
  | query h => rw [h]
  | fragment f => rfl
  | transformer h => rw [h trivial]

theorem Transformed.Alike.eq {t u : Transformed (Operand Q)}
    (h : Transformed.Alike True Eq Eq t u) : t = u := by
  obtain ⟨column, operator, operand⟩ := t
  obtain ⟨_, _, operand'⟩ := u
  obtain ⟨rfl, rfl, hoperand⟩ := h
  obtain rfl : operand = operand' := hoperand.eq
  rfl

theorem Operand.Alike.eq {o p : Operand Q} (h : Operand.Alike True Eq Eq o p) : o = p := by
  cases h with
  | value h => rw [h.whole]
  | query h => rw [h]
  | fragment f => rfl
  | @transformer f g h =>
    have hfg : f = g := by
      funext column operator platform
      have ha := h column operator platform
      revert ha
      generalize f column operator platform = x, g column operator platform = y
      intro ha
      cases ha with
      | ok h => rw [h.eq]
      | error h => rw [h trivial]
      | left h => exact absurd trivial h
      | right h => exact absurd trivial h
    rw [hfg]

theorem Comparison.Alike.eq {c d : Comparison Q} (h : Comparison.Alike True Eq Eq c d) :
    c = d := by
  obtain ⟨column, operator, operand, converted⟩ := c
  obtain ⟨_, _, operand', _⟩ := d
  obtain ⟨rfl, rfl, hoperand, rfl⟩ := h
  obtain rfl : operand = operand' := hoperand.eq
  rfl

mutual

theorem Condition.Alike.eq :
    ∀ {c d : Condition Q}, Condition.Alike True Eq Eq c d → c = d
  | _, _, .comparison g h => congrArg (Condition.comparison g) h.eq
  | _, _, .group g h => congrArg (Condition.group g) (Condition.Alike.eqs h)
  | _, _, .fragment _ _ => rfl

theorem Condition.Alike.eqs :
    ∀ {cs ds : List (Condition Q)}, List.Forall₂ (Condition.Alike True Eq Eq) cs ds → cs = ds
  | _, _, .nil => rfl
  | _, _, .cons h hs => congrArg₂ List.cons (Condition.Alike.eq h) (Condition.Alike.eqs hs)

end

theorem TableRef.Alike.eq {t u : TableRef Q} (h : TableRef.Alike Eq t u) : t = u := by
  obtain ⟨source, label⟩ := t
  obtain ⟨source', _⟩ := u
  obtain ⟨hsource, rfl⟩ := h
  cases hsource with
  | name s => rfl
  | query h => rw [h]

theorem TableRef.Alike.eq? {t u : Option (TableRef Q)} (h : Option.Rel (TableRef.Alike Eq) t u) :
    t = u := by
  cases h with
  | none => rfl
  | some h => rw [h.eq]

theorem Join.Alike.eq {j k : Join Q} (h : Join.Alike True Eq Eq j k) : j = k := by
  obtain ⟨kind, table, on⟩ := j
  obtain ⟨_, table', on'⟩ := k
  obtain ⟨rfl, htable, hon⟩ := h
  obtain rfl : table = table' := htable.eq
  obtain rfl : on = on' := Condition.Alike.eqs hon
  rfl

theorem Select.Alike.eq {s t : Select Q} (h : Select.Alike True Eq Eq s t) : s = t := by
  obtain ⟨_, _, _, _, _, _, _, _, _, _, _, _⟩ := s
  obtain ⟨rfl, rfl, rfl, htables, hjoins, hfilters, rfl, hhaving, rfl, rfl, rfl, rfl⟩ := h
  simp only at htables hjoins hfilters hhaving
  rw [forall₂_eq TableRef.Alike.eq htables, forall₂_eq Join.Alike.eq hjoins,
    Condition.Alike.eqs hfilters, Condition.Alike.eqs hhaving]

theorem Assignment.Alike.eq {a b : Assignment Q} (h : Assignment.Alike True Eq Eq a b) :
    a = b := by
  obtain ⟨column, operand, type⟩ := a
  obtain ⟨_, operand', _⟩ := b
  obtain ⟨rfl, hoperand, rfl⟩ := h
  obtain rfl : operand = operand' := hoperand.eq
  rfl

theorem InsertSource.Alike.eq {s t : InsertSource Q} (h : InsertSource.Alike True Eq Eq s t) :
    s = t := by
  cases h with
  | assignments h => rw [forall₂_eq Assignment.Alike.eq h]
  | query h => rw [h]

theorem Insert.Alike.eq {s t : Insert Q} (h : Insert.Alike True Eq Eq s t) : s = t := by
  obtain ⟨_, _, _, _⟩ := s
  obtain ⟨htable, hsource, rfl, rfl⟩ := h
  simp only at htable hsource
  rw [TableRef.Alike.eq? htable, hsource.eq]

theorem Update.Alike.eq {s t : Update Q} (h : Update.Alike True Eq Eq s t) : s = t := by
  obtain ⟨_, _, _⟩ := s
  obtain ⟨htable, hassignments, hfilters⟩ := h
  simp only at htable hassignments hfilters
  rw [TableRef.Alike.eq? htable, forall₂_eq Assignment.Alike.eq hassignments,
    Condition.Alike.eqs hfilters]

theorem Delete.Alike.eq {s t : Delete Q} (h : Delete.Alike True Eq Eq s t) : s = t := by
  obtain ⟨_, _⟩ := s
  obtain ⟨htable, hfilters⟩ := h
  simp only at htable hfilters
  rw [TableRef.Alike.eq? htable, Condition.Alike.eqs hfilters]

end Equal

variable {σ : Type}

theorem Resolver.respects_eq (r : Resolver σ) : r.Respects True Eq Eq Eq where
  start := rfl
  select h := h.eq ▸ Lockstep.refl (.refl (fun _ => rfl) fun _ => rfl) _
  insert h := h.eq ▸ Lockstep.refl (.refl (fun _ => rfl) fun _ => rfl) _
  update h := h.eq ▸ Lockstep.refl (.refl (fun _ => rfl) fun _ => rfl) _
  delete h := h.eq ▸ Lockstep.refl (.refl (fun _ => rfl) fun _ => rfl) _
  field _ _ := Lockstep.refl (fun _ => rfl) _
  table h := h.eq ▸ Lockstep.refl (.refl fun _ => rfl) _
  root h := h ▸ rfl
  condition h := h.eq ▸ Lockstep.refl (fun _ => ⟨.refl (fun _ => rfl) (fun _ => rfl) _,
    Condition.Alike.refls (fun _ => rfl) (fun _ => rfl) _⟩) _
  joins h := h ▸ ⟨forall₂_refl (.refl (fun _ => rfl) fun _ => rfl) _, rfl⟩

end ParamSql
