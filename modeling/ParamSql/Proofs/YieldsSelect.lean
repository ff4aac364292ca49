import ParamSql.Proofs.Memo
import ParamSql.Proofs.YieldsClauses

namespace ParamSql

open Assemble Render

variable {σ α : Type} {R : String → Prop} {I : σ → Prop}

/-- What a SELECT keeps while it is compiled: spelled clauses, and no whole text. -/
structure Cache.Underway (cache : Cache) : Prop where
  spelled : cache.Spelled .select
  compiled : cache.compiled = none

namespace Cache.Underway

variable {cache : Cache} {clause : Clause}

theorem of_slots (h : cache.Underway) (cache' : Cache) (hcompiled : cache'.compiled = none)
    (hslots : ∀ clause, ∀ sql ∈ (cache'.slot clause).fragment,
      Spelling sql (cache'.slot clause).bindings ∧ (clause = .lock → Quiet sql))
    (hwhole : cache'.slot .whole = cache.slot .whole) : cache'.Underway where
  spelled := by
    refine ⟨fun clause sql hsql => (hslots clause sql hsql).1,
      fun sql hsql => (hslots .lock sql hsql).2 rfl, ?_, fun _ => hwhole.trans (h.spelled.select rfl),
      fun hne => absurd rfl hne⟩
    rw [hcompiled]
    exact nofun
  compiled := hcompiled

theorem slot (h : cache.Underway) (clause : Clause) : ∀ sql ∈ (cache.slot clause).fragment,
    Spelling sql (cache.slot clause).bindings ∧ (clause = .lock → Quiet sql) := by
  intro sql hsql
  refine ⟨h.spelled.slots clause sql hsql, ?_⟩
  rintro rfl
  exact h.spelled.lock sql hsql

theorem put (h : cache.Underway) (hwhole : clause ≠ .whole) {slot : Slot}
    (hslot : ∀ sql ∈ slot.fragment, Spelling sql slot.bindings ∧ (clause = .lock → Quiet sql)) :
    (cache.put clause slot).Underway := by
  apply h.of_slots _ ((compiled_put ..).trans h.compiled) _ (slot_put_ne _ _ hwhole.symm)
  intro other
  by_cases hother : other = clause
  · subst hother
    rw [slot_put_self]
    exact hslot
  · rw [slot_put_ne _ _ hother]
    exact h.slot other

theorem discard (h : cache.Underway) {clauses : List Clause} (hwhole : .whole ∉ clauses) :
    (cache.discard clauses).Underway := by
  apply h.of_slots _ ((compiled_discard ..).trans h.compiled)
  · intro clause
    rw [slot_discard]
    split
    · exact nofun
    · exact h.slot clause
  · rw [slot_discard, if_neg hwhole]

theorem with_compiling (h : cache.Underway) (compiling : Bool) :
    Cache.Underway { cache with compiling := compiling } := by
  refine h.of_slots { cache with compiling := compiling } h.compiled (fun clause => ?_)
    (slot_with_compiling ..)
  rw [slot_with_compiling]
  exact h.slot clause

theorem texts (h : cache.Underway) {clauses : List Clause}
    (hkept : ∀ clause ∈ clauses, cache.isMissing clause = false) :
    Each Spelling (clauses.filterMap fun clause => (cache.slot clause).fragment)
      (clauses.flatMap fun clause => (cache.slot clause).bindings) := by
  induction clauses with
  | nil => exact .nil
  | cons clause clauses ih =>
    rw [List.forall_mem_cons] at hkept
    obtain ⟨sql, hsql⟩ := Option.isSome_iff_exists.1 (Option.isNone_eq_false_iff.1 hkept.1)
    rw [List.filterMap_cons, hsql, List.flatMap_cons]
    exact .cons (h.spelled.slots clause sql hsql) (ih hkept.2)

end Cache.Underway

/-- An end of an assembly that keeps spelled clauses; after a success the rendering may go on. -/
inductive Assembly.Fares (R : String → Prop) (I : σ → Prop) :
    EStateM.Result CompileError (Assembly σ) α → Prop
  | ok (x : α) {a : Assembly σ} (hcache : a.cache.Underway) (hprogress : a.progress.Safe R I) :
    Fares R I (.ok x a)
  | error (e : CompileError) {a : Assembly σ} (hcache : a.cache.Underway) : Fares R I (.error e a)

/-- A clause that yields a spelled text; the lock has no values. -/
structure Assemble.Work.Spells (w : Work σ) (R : String → Prop) (I : σ → Prop) : Prop where
  whole : w.1 ≠ .whole
  yields : Yields R I w.2 fun sql xs => Spelling sql xs ∧ (w.1 = .lock → Quiet sql)

namespace Assembly

variable {a : Assembly σ}

theorem fares_clause (hcache : a.cache.Underway) (hprogress : a.progress.Safe R I) {w : Work σ}
    (hw : w.Spells R I) : Fares R I (Assemble.clause w.1 w.2 a) := by
  cases hmissing : a.cache.isMissing w.1 with
  | false =>
    rw [clause_of_kept hmissing]
    exact .ok () hcache hprogress
  | true =>
    rw [clause_of_missing hmissing]
    cases hwork : w.2 { a.progress with bound := [] } with
    | error e p => exact .error e (hcache.put hw.whole nofun)
    | ok sql p =>
      obtain ⟨hp, xs, hxs, hsql⟩ := hw.yields { a.progress with bound := [] } sql p
        ⟨hprogress.state, hprogress.pending⟩ hwork
      have hslot : ∀ text ∈ (⟨some sql, p.bound⟩ : Slot).fragment,
          Spelling text p.bound ∧ (w.1 = .lock → Quiet text) := by
        rintro _ ⟨⟩
        rw [hxs]
        exact hsql
      exact .ok () (hcache.put hw.whole hslot) hp

theorem fares_fill (hcache : a.cache.Underway) (hprogress : a.progress.Safe R I)
    {works : List (Work σ)} (hworks : ∀ w ∈ works, w.Spells R I) :
    Fares R I (Assemble.fill works a) := by
  induction works generalizing a with
  | nil => exact .ok _ hcache hprogress
  | cons w works ih =>
    rw [List.forall_mem_cons] at hworks
    have hfirst := fares_clause hcache hprogress hworks.1
    rw [fill_cons]
    revert hfirst
    generalize Assemble.clause w.1 w.2 a = result
    intro hfirst
    cases hfirst with
    | ok _ hcache hprogress => exact ih hcache hprogress hworks.2
    | error e hcache => exact .error e hcache

end Assembly

namespace Scope.Safe

variable {s : Scope σ} (hs : s.Safe R I)

include hs

theorem works {select : Select Query} (hselect : select.Safe R (Query.Safe R)) :
    ∀ w ∈ s.works select, w.Spells R I := by
  have hwork {clause : Clause} {f : Render σ String} (hwhole : clause ≠ .whole)
      (hlock : clause ≠ .lock) (hf : Yields R I f Spelling) : Work.Spells (clause, f) R I := by
    refine ⟨hwhole, fun p sql q hp hok => ?_⟩
    obtain ⟨hq, xs, hxs, hsql⟩ := hf p sql q hp hok
    exact ⟨hq, xs, hxs, hsql, fun heq => absurd heq hlock⟩
  have hkeyword {keyword : String} (h : Ordinary keyword) {cs : List (Condition Query)}
      (hcs : ∀ c ∈ cs, c.Safe R (Query.Safe R)) :
      Yields R I (s.conditionsAfter keyword cs) Spelling :=
    hs.conditionsAfter (.word h) hcs
  intro w hw
  simp only [Scope.works, Scope.body, List.cons_append, List.nil_append, List.mem_cons,
    List.not_mem_nil, or_false] at hw
  rcases hw with rfl | rfl | rfl | rfl | rfl | rfl | rfl | rfl
  · exact hwork (by decide) (by decide) (hs.columnsClause hselect)
  · exact hwork (by decide) (by decide) (hs.tablesClause hselect.tables)
  · exact hwork (by decide) (by decide) (hs.groupsClause _)
  · exact hwork (by decide) (by decide) (hkeyword (by decide) hselect.having)
  · exact hwork (by decide) (by decide) (hs.ordersClause _)
  · exact hwork (by decide) (by decide) (hkeyword (by decide) hselect.filters)
  · exact hwork (by decide) (by decide) (hs.joinsClause hselect)
  · have hlock : Quiet (s.lockClause select) := hs.lockClause select
    have hwhole : Clause.lock ≠ .whole := by decide
    exact ⟨hwhole, .pure ⟨hlock, fun _ => hlock⟩⟩

theorem selectSql (select : Select Query) {cache : Cache} (hcache : cache.Underway)
    (hall : ∀ clause ∈ Clause.textOrder, cache.isMissing clause = false) :
    Spelling (s.selectSql select cache) cache.bindings := by
  have hbody := (hcache.texts hall).intercalate Quiet.empty
  rw [← Cache.bindings_of_whole (hcache.spelled.select rfl)] at hbody
  have hlock : Quiet (cache.lock.fragment.getD "") := by
    cases hfragment : cache.lock.fragment with
    | none => exact Quiet.empty
    | some sql => exact hcache.spelled.lock sql hfragment
  apply Spelling.before _ hlock
  split
  · exact hs.platform.spelling_limited hbody _ _
  · exact hbody

theorem select {select : Select Query} {a : Assembly σ}
    (hselect : select.Safe R (Query.Safe R)) (hcache : a.cache.Underway)
    (hprogress : a.progress.Safe R I) :
    Assembly.Fares R I (s.select select a) ∧
      ∀ sql b, s.select select a = .ok sql b → Spelling sql b.cache.bindings := by
  have hdropped : (dropped a).cache.Underway ∧ (dropped a).progress.Safe R I := by
    unfold dropped
    split
    · exact ⟨hcache.discard (by decide), hprogress⟩
    · exact ⟨hcache, hprogress⟩
  have hfill := Assembly.fares_fill hdropped.1 hdropped.2 (hs.works hselect)
  have hkept {b : Assembly σ} := Assemble.fill_ok (a := dropped a) (b := b) (s.works_nodup select)
  rw [Scope.select_eq]
  revert hfill hkept
  generalize Assemble.fill (s.works select) (dropped a) = result
  intro hfill hkept
  cases hfill with
  | error e hcache => exact ⟨.error e hcache, fun _ _ hok => nomatch hok⟩
  | ok _ hcache hprogress =>
    refine ⟨.ok _ hcache hprogress, ?_⟩
    rintro _ _ ⟨⟩
    apply hs.selectSql select hcache
    intro clause hclause
    have hmem : clause ∈ (s.works select).map Prod.fst := by
      cases clause <;> simp [Scope.works, Scope.body, Clause.textOrder] at hclause ⊢
    obtain ⟨w, hw, rfl⟩ := List.mem_map.1 hmem
    exact hkept rfl w hw

end Scope.Safe

end ParamSql
