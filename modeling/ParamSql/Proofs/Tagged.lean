import ParamSql.Proofs.WritesSelect

namespace ParamSql

open Marked

theorem Shows.of_balanced {sql : String} {bindings : List Scalar} (h : Balanced sql bindings) :
    Shows sql (Marked.tag sql.toList bindings) ∧
      bindings = (Marked.tag sql.toList bindings).values := by
  obtain ⟨htext, hvalues, hclean⟩ := tag_of_count h
  exact ⟨⟨htext.symm, hclean⟩, hvalues.symm⟩

theorem SlotShows.of_balanced {clause : Clause} {slot : Slot}
    (h : ∀ sql ∈ slot.fragment, Balanced sql slot.bindings)
    (hlock : clause = .lock → ∀ sql ∈ slot.fragment, slot.bindings = []) :
    SlotShows clause slot slot.marked := by
  obtain ⟨fragment, bindings⟩ := slot
  cases fragment with
  | none => exact .missing bindings
  | some sql =>
    obtain ⟨hshows, hvalues⟩ := Shows.of_balanced (h sql rfl)
    have hkept : SlotShows clause ⟨some sql, _⟩ (some _) :=
      .kept hshows fun heq => hvalues.symm.trans (hlock heq sql rfl)
    rw [← hvalues] at hkept
    exact hkept

namespace Cache

variable {cache : Cache} {ledger : Ledger} {kind : StatementKind}

theorem Clean.empty : Clean kind {} where
  idle := rfl
  slots clause := by cases clause <;> exact nofun
  compiled := nofun
  lock := nofun
  whole := rfl
  select _ := rfl
  others _ := unfilled_empty

theorem Clean.invalidate (h : cache.Clean kind) {clauses : List Clause} {kind' : StatementKind}
    (hkind : clauses ≠ [] → kind' = kind) : (cache.invalidate clauses).Clean kind' where
  idle := (compiling_invalidate _ _).trans h.idle
  slots clause := by
    rcases slot_invalidate_or h.idle clauses clause with hslot | ⟨_, hslot⟩ <;> rw [hslot]
    · exact nofun
    · exact h.slots clause
  compiled := by
    rw [compiled_invalidate h.idle]
    exact nofun
  lock := by
    rcases slot_invalidate_or h.idle clauses .lock with hslot | ⟨_, hslot⟩ <;> rw [hslot]
    · exact nofun
    · exact h.lock
  whole := by
    rcases slot_invalidate_or h.idle clauses .whole with hslot | ⟨_, hslot⟩ <;> rw [hslot]
    exact h.whole
  select heq := by
    rcases slot_invalidate_or h.idle clauses .whole with hslot | ⟨hne, hslot⟩ <;> rw [hslot]
    exact h.select ((hkind hne).symm.trans heq)
  others hother clause hclause := by
    rcases slot_invalidate_or h.idle clauses clause with hslot | ⟨hne, hslot⟩ <;> rw [hslot]
    exact h.others (fun heq => hother ((hkind hne).trans heq)) clause hclause

theorem Clean.twin (h : cache.Clean .select) (hcompiled : cache.compiled = none) :
    cache.Twin cache.ledger where
  slots clause := .of_balanced (h.slots clause) fun heq => by subst heq; exact h.lock
  whole := h.select rfl
  cache := hcompiled
  ledger := by rw [Cache.ledger, hcompiled]; rfl

theorem Twin.with_compiling (h : cache.Twin ledger) (compiling : Bool) :
    Cache.Twin { cache with compiling := compiling } ledger where
  slots clause := by
    rw [slot_with_compiling]
    exact h.slots clause
  whole := h.whole
  cache := h.cache
  ledger := h.ledger

/-- What is kept with values inline is what is kept, each value in the place of its placeholder. -/
theorem Twin.ledger_eq (h : cache.Twin ledger) : cache.ledger = ledger := by
  obtain ⟨kept, compiled⟩ := ledger
  obtain rfl : compiled = none := h.ledger
  rw [Cache.ledger, h.cache]
  exact congrArg (Ledger.mk · none) (funext fun clause => (h.slots clause).marked)

theorem Twin.clean (h : cache.Twin ledger) (hidle : cache.compiling = false) :
    cache.Clean .select where
  idle := hidle
  slots clause := (h.slots clause).balanced
  compiled := by rw [h.cache]; exact nofun
  lock := (h.slots .lock).lock.2.2
  whole := by rw [h.whole]
  select _ := h.whole
  others hne := absurd rfl hne

theorem Clean.put_whole (h : cache.Clean kind) (hkind : kind ≠ .select)
    (hcompiled : cache.compiled = none) (bindings : List Scalar) :
    (cache.put .whole ⟨none, bindings⟩).Clean kind ∧
      (cache.put .whole ⟨none, bindings⟩).ledger = cache.ledger ∧
      (cache.put .whole ⟨none, bindings⟩).bindings = bindings := by
  refine ⟨⟨h.idle, fun clause => ?_, ?_, h.lock, rfl, fun heq => absurd heq hkind,
    fun hne => (h.others hne).put _⟩, ?_, ((h.others hkind).put _).bindings⟩
  · rw [slot_put_whole]
    split
    · exact nofun
    · exact h.slots clause
  · rw [compiled_put, hcompiled]
    exact nofun
  · rw [Cache.ledger, Cache.ledger, compiled_put, hcompiled]
    refine congrArg (Ledger.mk · none) (funext fun clause => ?_)
    rw [slot_put_whole]
    split
    · rw [‹clause = .whole›, Slot.marked, Slot.marked, h.whole]
      rfl
    · rfl

theorem ledger_invalidate (h : cache.compiling = false) (clauses : List Clause) :
    (cache.invalidate clauses).ledger = cache.ledger.invalidate clauses := by
  rw [Cache.ledger, compiled_invalidate h, Ledger.invalidate]
  refine congrArg (Ledger.mk · none) (funext fun clause => ?_)
  rw [Ledger.kept_discard]
  cases clauses with
  | nil =>
    rw [slot_invalidate_nil h, if_pos (by cases clause <;> decide)]
    rfl
  | cons first rest =>
    rw [slot_invalidate h (List.cons_ne_nil _ _)]
    change Slot.marked (if clause ∈ first :: rest then {} else cache.slot clause) =
      if clause ∈ first :: rest then none else (cache.slot clause).marked
    split <;> rfl

theorem Clean.with_compiled (h : cache.Clean kind) {sql : String} {text : Marked}
    (hshows : Shows sql text) (hbindings : cache.bindings = text.values) :
    Cache.Clean kind { cache with compiled := some sql } ∧
      Cache.ledger { cache with compiled := some sql } =
        { cache.ledger with compiled := some text } := by
  have htag := hshows.tag
  rw [← hbindings] at htag
  refine ⟨⟨h.idle, fun clause => ?_, ?_, h.lock, h.whole, h.select, fun hne clause hclause => ?_⟩,
    ?_⟩
  · rw [slot_with_compiled]
    exact h.slots clause
  · rintro _ ⟨⟩
    rw [bindings_with_compiled]
    exact htag.1
  · rw [slot_with_compiled]
    exact h.others hne clause hclause
  · rw [Cache.ledger, bindings_with_compiled]
    simp only [Option.map_some, htag.2, slot_with_compiled]
    rfl

end Cache

end ParamSql
