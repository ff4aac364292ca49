import ParamSql.Query.Edit

namespace ParamSql

namespace Edit

variable {e : Edit}

theorem kind_onStatement (s : Statement Query) : (e.onStatement s).kind = s.kind := by
  cases s <;> rfl

/-- An edit either touches all of the query or changes its statement alone. -/
theorem change_cases (e : Edit) (q : Query) :
    e.touches = [] ∨
      (e.touches ≠ [] ∧ e.change q = { q with statement := e.onStatement q.statement }) := by
  cases e <;> first | exact .inl rfl | exact .inr ⟨List.cons_ne_nil _ _, rfl⟩

end Edit

namespace Cache

@[simp] theorem compiled_put (cache : Cache) (clause : Clause) (slot : Slot) :
    (cache.put clause slot).compiled = cache.compiled := by
  cases clause <;> rfl

theorem isMissing_put_self (cache : Cache) (clause : Clause) (slot : Slot) :
    (cache.put clause slot).isMissing clause = slot.fragment.isNone := by
  rw [Cache.isMissing, slot_put_self]

theorem isMissing_put_ne (cache : Cache) {clause other : Clause} (slot : Slot)
    (h : other ≠ clause) : (cache.put clause slot).isMissing other = cache.isMissing other := by
  rw [Cache.isMissing, Cache.isMissing, slot_put_ne cache slot h]

theorem slot_discard (cache : Cache) (clauses : List Clause) (clause : Clause) :
    (cache.discard clauses).slot clause =
      if clause ∈ clauses then {} else cache.slot clause := by
  induction clauses generalizing cache with
  | nil => rfl
  | cons first rest ih =>
    change ((cache.put first {}).discard rest).slot clause = _
    rw [ih]
    by_cases hrest : clause ∈ rest
    · rw [if_pos hrest, if_pos (List.mem_cons_of_mem _ hrest)]
    · rw [if_neg hrest]
      by_cases hfirst : clause = first
      · rw [hfirst, slot_put_self, if_pos (List.mem_cons_self ..)]
      · rw [slot_put_ne _ _ hfirst,
          if_neg fun hmem => (List.mem_cons.1 hmem).elim hfirst hrest]

theorem compiling_discard (cache : Cache) (clauses : List Clause) :
    (cache.discard clauses).compiling = cache.compiling := by
  induction clauses generalizing cache with
  | nil => rfl
  | cons first rest ih =>
    change ((cache.put first {}).discard rest).compiling = _
    rw [ih]
    cases first <;> rfl

theorem compiled_invalidate {cache : Cache} (h : cache.compiling = false) (clauses : List Clause) :
    (cache.invalidate clauses).compiled = none := by
  rw [invalidate, if_neg (Bool.eq_false_iff.1 h)]

theorem compiling_invalidate (cache : Cache) (clauses : List Clause) :
    (cache.invalidate clauses).compiling = cache.compiling := by
  unfold invalidate
  split
  · rfl
  · exact compiling_discard ..

theorem slot_with_compiled (cache : Cache) (compiled : Option String) (clause : Clause) :
    ({ cache with compiled := compiled } : Cache).slot clause = cache.slot clause := by
  cases clause <;> rfl

theorem slot_with_compiling (cache : Cache) (compiling : Bool) (clause : Clause) :
    ({ cache with compiling := compiling } : Cache).slot clause = cache.slot clause := by
  cases clause <;> rfl

theorem slot_invalidate_nil {cache : Cache} (h : cache.compiling = false) (clause : Clause) :
    (cache.invalidate []).slot clause = {} := by
  rw [invalidate, if_neg (Bool.eq_false_iff.1 h), slot_with_compiled, slot_discard]
  cases clause <;> rfl

theorem slot_invalidate {cache : Cache} (h : cache.compiling = false) {clauses : List Clause}
    (hne : clauses ≠ []) (clause : Clause) :
    (cache.invalidate clauses).slot clause =
      if clause ∈ clauses then {} else cache.slot clause := by
  rw [invalidate, if_neg (Bool.eq_false_iff.1 h), slot_with_compiled, slot_discard]
  cases clauses with
  | nil => exact absurd rfl hne
  | cons => rfl

theorem slot_invalidate_or {cache : Cache} (h : cache.compiling = false) (clauses : List Clause)
    (clause : Clause) :
    (cache.invalidate clauses).slot clause = {} ∨
      (clauses ≠ [] ∧ (cache.invalidate clauses).slot clause = cache.slot clause) := by
  by_cases hne : clauses = []
  · subst hne
    exact .inl (slot_invalidate_nil h clause)
  · rw [slot_invalidate h hne]
    split
    · exact .inl rfl
    · exact .inr ⟨hne, rfl⟩

theorem bindings_congr {x y : Cache} (h : ∀ clause, x.slot clause = y.slot clause) :
    x.bindings = y.bindings := by
  have hwhole : x.whole = y.whole := h .whole
  simp only [bindings, hwhole, h]

theorem slot_put_whole (cache : Cache) (slot : Slot) (clause : Clause) :
    (cache.put .whole slot).slot clause = if clause = .whole then slot else cache.slot clause := by
  cases clause <;> rfl

theorem reopened {cache : Cache} (h : cache.compiling = false) :
    ({ { cache with compiling := true } with compiling := false } : Cache) = cache := by
  rw [← h]

theorem bindings_with_compiled (cache : Cache) (compiled : Option String) :
    ({ cache with compiled := compiled } : Cache).bindings = cache.bindings :=
  bindings_congr fun _ => slot_with_compiled ..

theorem bindings_with_compiling (cache : Cache) (compiling : Bool) :
    ({ cache with compiling := compiling } : Cache).bindings = cache.bindings :=
  bindings_congr fun _ => slot_with_compiling ..

theorem bindings_of_whole {cache : Cache} (h : cache.slot .whole = {}) :
    cache.bindings = Clause.textOrder.flatMap fun clause => (cache.slot clause).bindings := by
  rw [Cache.bindings, show cache.whole = {} from h]
  rfl

theorem bindings_put_columns {cache : Cache} (h : cache.compiling = false) (slot : Slot) :
    ((cache.invalidate []).put .columns slot).bindings = slot.bindings := by
  have hslot (clause : Clause) : ((cache.invalidate []).put .columns slot).slot clause =
      if clause = .columns then slot else {} := by
    by_cases hclause : clause = .columns
    · rw [hclause, slot_put_self, if_pos rfl]
    · rw [slot_put_ne _ _ hclause, slot_invalidate_nil h, if_neg hclause]
  rw [bindings_of_whole ((hslot .whole).trans (if_neg nofun))]
  simp [hslot, Clause.textOrder]

theorem compiled_discard (cache : Cache) (clauses : List Clause) :
    (cache.discard clauses).compiled = cache.compiled := by
  induction clauses generalizing cache with
  | nil => rfl
  | cons first rest ih =>
    change ((cache.put first {}).discard rest).compiled = _
    rw [ih, compiled_put]

/-- No clause in the order of the text keeps anything: that is so unless the query is a SELECT. -/
def Unfilled (cache : Cache) : Prop :=
  ∀ clause ∈ Clause.textOrder, cache.slot clause = {}

theorem Unfilled.bindings {cache : Cache} (h : Unfilled cache) :
    cache.bindings = cache.whole.bindings := by
  have hempty : (Clause.textOrder.flatMap fun clause => (cache.slot clause).bindings) = [] := by
    rw [List.flatMap_eq_nil_iff]
    intro clause hclause
    rw [h clause hclause]
  rw [Cache.bindings, hempty]
  split
  · exact (List.isEmpty_iff.1 ‹_›).symm
  · rfl

theorem unfilled_empty : Unfilled {} :=
  fun clause _ => by cases clause <;> rfl

theorem Unfilled.put {cache : Cache} (h : Unfilled cache) (slot : Slot) :
    Unfilled (cache.put .whole slot) := by
  intro clause hclause
  rw [slot_put_ne, h clause hclause]
  rintro rfl
  simp [Clause.textOrder] at hclause

theorem Unfilled.with_compiling {cache : Cache} (h : Unfilled cache) (compiling : Bool) :
    Unfilled { cache with compiling := compiling } := by
  intro clause hclause
  rw [slot_with_compiling, h clause hclause]

end Cache

end ParamSql
