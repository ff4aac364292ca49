import Mathlib.Data.List.Forall2
import ParamSql.Conversion.Registry

namespace ParamSql

theorem forall₂_exists {α β : Type} {R : α → β → Prop} {as : List α} {bs : List β}
    (h : List.Forall₂ R as bs) {b : β} (hb : b ∈ bs) : ∃ a ∈ as, R a b := by
  induction h with
  | nil => cases hb
  | cons hab _ ih =>
    rcases List.mem_cons.1 hb with rfl | hb
    · exact ⟨_, List.mem_cons_self .., hab⟩
    · obtain ⟨a, ha, hab⟩ := ih hb
      exact ⟨a, List.mem_cons_of_mem _ ha, hab⟩

theorem map_eq_ok_iff {ε α β : Type} {answer : Except ε α} {f : α → β} {b : β} :
    answer.map f = .ok b ↔ ∃ a, answer = .ok a ∧ f a = b := by
  cases answer with
  | error e => exact iff_of_false nofun nofun
  | ok a =>
    rw [Except.map, Except.ok.injEq]
    exact ⟨fun h => ⟨a, rfl, h⟩, fun ⟨_, h, hb⟩ => Except.ok.inj h ▸ hb⟩

theorem exists_of_bind {ε α β : Type} {answer : Except ε α} {k : α → Except ε β} {b : β}
    (h : answer >>= k = .ok b) : ∃ a, answer = .ok a ∧ k a = .ok b := by
  cases answer with
  | error e => cases h
  | ok a => exact ⟨a, rfl, h⟩

section

variable {ε α β : Type} {f : α → Except ε β}

theorem mapM_eq_ok_iff {as : List α} {bs : List β} :
    as.mapM f = .ok bs ↔ List.Forall₂ (fun a b => f a = .ok b) as bs := by
  induction as generalizing bs with
  | nil =>
    rw [List.forall₂_nil_left_iff]
    exact ⟨fun h => (Except.ok.inj h).symm, fun h => congrArg Except.ok h.symm⟩
  | cons a as ih =>
    rw [List.mapM_cons, List.forall₂_cons_left_iff]
    constructor
    · intro h
      obtain ⟨b, ha, h⟩ := exists_of_bind h
      obtain ⟨others, has, h⟩ := exists_of_bind h
      exact ⟨b, others, ha, ih.1 has, (Except.ok.inj h).symm⟩
    · rintro ⟨b, others, ha, has, rfl⟩
      rw [ha, ih.2 has]
      rfl

theorem exists_mapM_eq_ok {as : List α} (h : ∀ a ∈ as, ∃ b, f a = .ok b) :
    ∃ bs, as.mapM f = .ok bs := by
  induction as with
  | nil => exact ⟨[], rfl⟩
  | cons a as ih =>
    rw [List.forall_mem_cons] at h
    obtain ⟨b, hb⟩ := h.1
    obtain ⟨bs, hbs⟩ := ih h.2
    exact ⟨b :: bs, by rw [List.mapM_cons, hb, hbs]; rfl⟩

theorem mapM_eq_error {before after : List α} {a : α} {e : ε}
    (hbefore : ∀ b ∈ before, ∃ r, f b = .ok r) (ha : f a = .error e) :
    (before ++ a :: after).mapM f = .error e := by
  obtain ⟨bs, hbs⟩ := exists_mapM_eq_ok hbefore
  rw [List.mapM_append, hbs, List.mapM_cons, ha]
  rfl

/-- A failure of the whole is that of the first item that fails. -/
theorem mapM_eq_error_iff {as : List α} {e : ε} :
    as.mapM f = .error e ↔ ∃ before a after, as = before ++ a :: after ∧
      (∀ b ∈ before, ∃ r, f b = .ok r) ∧ f a = .error e := by
  constructor
  · intro h
    induction as with
    | nil => cases h
    | cons a as ih =>
      rw [List.mapM_cons] at h
      cases ha : f a with
      | error e' =>
        rw [ha] at h
        cases h
        exact ⟨[], a, as, rfl, nofun, ha⟩
      | ok b =>
        rw [ha] at h
        cases has : as.mapM f with
        | error e' =>
          rw [has] at h
          cases h
          obtain ⟨before, c, after, rfl, hbefore, hc⟩ := ih has
          exact ⟨a :: before, c, after, rfl, List.forall_mem_cons.2 ⟨⟨b, ha⟩, hbefore⟩, hc⟩
        | ok bs =>
          rw [has] at h
          cases h
  · rintro ⟨before, a, after, rfl, hbefore, ha⟩
    exact mapM_eq_error hbefore ha

theorem mapM_filter {p : α → Bool} {q : β → Bool} (hkeep : ∀ a b, f a = .ok b → q b = p a)
    (hdropped : ∀ a, p a = false → ∃ b, f a = .ok b) (as : List α) :
    (as.filter p).mapM f = (as.mapM f).map (List.filter q) := by
  induction as with
  | nil => rfl
  | cons a as ih =>
    cases hp : p a with
    | true =>
      rw [List.filter_cons_of_pos hp, List.mapM_cons, List.mapM_cons, ih]
      cases ha : f a with
      | error e => rfl
      | ok b =>
        cases as.mapM f with
        | error e => rfl
        | ok bs =>
          have hb : q b = true := by rw [hkeep a b ha, hp]
          exact congrArg Except.ok (List.filter_cons_of_pos hb).symm
    | false =>
      obtain ⟨b, ha⟩ := hdropped a hp
      have hb : ¬q b = true := by rw [hkeep a b ha, hp]; exact Bool.false_ne_true
      rw [List.filter_cons_of_neg (by rw [hp]; exact Bool.false_ne_true), List.mapM_cons, ha, ih]
      cases as.mapM f with
      | error e => rfl
      | ok bs => exact congrArg Except.ok (List.filter_cons_of_neg hb).symm

end

section

variable {α β γ : Type}

theorem mapM_eq_some_iff {f : α → Option β} {as : List α} {bs : List β} :
    as.mapM f = some bs ↔ List.Forall₂ (fun a b => f a = some b) as bs := by
  induction as generalizing bs with
  | nil =>
    rw [List.forall₂_nil_left_iff]
    exact ⟨fun h => (Option.some.inj h).symm, fun h => congrArg some h.symm⟩
  | cons a as ih =>
    rw [List.mapM_cons, List.forall₂_cons_left_iff]
    constructor
    · intro h
      obtain ⟨b, hb, h⟩ := Option.bind_eq_some_iff.1 h
      obtain ⟨others, hothers, h⟩ := Option.bind_eq_some_iff.1 h
      exact ⟨b, others, hb, ih.1 hothers, (Option.some.inj h).symm⟩
    · rintro ⟨b, others, hb, hothers, rfl⟩
      rw [hb, ih.2 hothers]
      rfl

theorem map_mapM (f : α → Option β) (g : β → γ) (as : List α) :
    (as.mapM f).map (List.map g) = as.mapM fun a => (f a).map g := by
  induction as with
  | nil => rfl
  | cons a as ih =>
    rw [List.mapM_cons, List.mapM_cons, ← ih]
    cases f a with
    | none => rfl
    | some b => cases as.mapM f <;> rfl

end

theorem TypeRegistry.itemValues_eq (convert : ValueType) (items : List Value) :
    itemValues convert items = (items.mapM convert).map (List.map fun x => .text x.display) := by
  induction items with
  | nil => rfl
  | cons item rest ih =>
    rw [itemValues, List.mapM_cons, ih]
    cases convert item with
    | error e => rfl
    | ok x => cases rest.mapM convert <;> rfl

theorem TypeName.items_or_whole (t : TypeName) (v : Value) :
    (t.isList = true ∧ ∃ items, v = .list items) ∨ (t.isList = true → v.isList = false) := by
  cases hlist : t.isList with
  | false => exact .inr nofun
  | true =>
    cases v with
    | list items => exact .inl ⟨rfl, items, rfl⟩
    | _ => exact .inr fun _ => rfl

theorem TypeRegistry.scalarOf_of_some {types : TypeRegistry} {t : TypeName} {convert : ValueType}
    (h : types.get? t.name = some convert) {v : Value} (hv : t.isList = true → v.isList = false) :
    types.scalarOf t v = convert v := by
  simp only [scalarOf, h]
  split
  · rename_i items hlist
    exact absurd (hv hlist) Bool.noConfusion
  · rfl

theorem TypeRegistry.scalarOf_list {types : TypeRegistry} {t : TypeName} {convert : ValueType}
    (h : types.get? t.name = some convert) (hlist : t.isList = true) (items : List Value) :
    types.scalarOf t (.list items) =
      itemValues convert items >>= fun values => BuiltinType.list.scalar (.list values) := by
  simp only [scalarOf, h, hlist]

end ParamSql
