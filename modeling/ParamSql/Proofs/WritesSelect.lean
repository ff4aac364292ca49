import ParamSql.Proofs.Ledger
import ParamSql.Proofs.Memo
import ParamSql.Proofs.WritesClauses

namespace ParamSql

open Marked

variable {σ : Type}

/-- What is kept of a clause, and the same with its values inline. No value stands in a lock. -/
inductive SlotShows (clause : Clause) : Slot → Option Marked → Prop
  | missing (bindings : List Scalar) : SlotShows clause ⟨none, bindings⟩ none
  | kept {sql : String} {text : Marked} (h : Shows sql text)
    (hlock : clause = .lock → text.values = []) :
    SlotShows clause ⟨some sql, text.values⟩ (some text)

/-- What is kept of a SELECT that is being compiled, and the same with its values inline. -/
structure Cache.Twin (cache : Cache) (ledger : Ledger) : Prop where
  slots (clause : Clause) : SlotShows clause (cache.slot clause) (ledger.kept clause)
  whole : cache.slot .whole = {}
  cache : cache.compiled = none
  ledger : ledger.compiled = none

/-- Assemblies that keep the same, and whose renderings have come equally far. -/
structure Assembly.Twin (I : σ → Prop) (a : Assembly σ) (b : InlineAssembly σ) : Prop where
  kept : a.cache.Twin b.ledger
  progress : Progress.Twin I a.progress.bound a.progress b.progress

/-- Ends of assemblies. Those that fail do so for the same cause and keep the same. -/
inductive Abreast {α β : Type} (post : α → β → Assembly σ → InlineAssembly σ → Prop) :
    EStateM.Result CompileError (Assembly σ) α → EStateM.Result CompileError (InlineAssembly σ) β →
      Prop
  | ok {x : α} {y : β} {a : Assembly σ} {b : InlineAssembly σ} (h : post x y a b) :
    Abreast post (.ok x a) (.ok y b)
  | error (e : CompileError) {a : Assembly σ} {b : InlineAssembly σ} (h : a.cache.Twin b.ledger) :
    Abreast post (.error e a) (.error e b)

namespace SlotShows

variable {clause : Clause} {slot : Slot} {m : Option Marked}

theorem isNone (h : SlotShows clause slot m) : slot.fragment.isNone = m.isNone := by
  cases h <;> rfl

theorem marked (h : SlotShows clause slot m) : slot.marked = m := by
  cases h with
  | missing => rfl
  | kept h => exact congrArg some h.tag.2

theorem balanced (h : SlotShows clause slot m) :
    ∀ sql ∈ slot.fragment, Balanced sql slot.bindings := by
  cases h with
  | missing => exact nofun
  | kept h =>
    rintro _ ⟨⟩
    exact h.tag.1

theorem lock (h : SlotShows .lock slot m) :
    Shows (slot.fragment.getD "") (m.getD []) ∧ (m.getD []).values = [] ∧
      ∀ sql ∈ slot.fragment, slot.bindings = [] := by
  cases h with
  | missing => exact ⟨⟨rfl, List.not_mem_nil⟩, rfl, nofun⟩
  | kept h hlock => exact ⟨h, hlock rfl, fun _ _ => hlock rfl⟩

end SlotShows

namespace Cache.Twin

variable {cache : Cache} {ledger : Ledger} {clause : Clause}

theorem isMissing (h : cache.Twin ledger) (clause : Clause) :
    cache.isMissing clause = (ledger.kept clause).isNone :=
  (h.slots clause).isNone

theorem put (h : cache.Twin ledger) (hwhole : clause ≠ .whole) {slot : Slot} {text : Marked}
    (hslot : SlotShows clause slot (some text)) :
    (cache.put clause slot).Twin (ledger.put clause text) where
  slots other := by
    by_cases hother : other = clause
    · subst hother
      rw [slot_put_self, Ledger.kept_put_self]
      exact hslot
    · rw [slot_put_ne _ _ hother, Ledger.kept_put_ne _ _ hother]
      exact h.slots other
  whole := (slot_put_ne _ _ hwhole.symm).trans h.whole
  cache := (compiled_put ..).trans h.cache
  ledger := h.ledger

theorem put_missing (h : cache.Twin ledger) (hwhole : clause ≠ .whole)
    (hmissing : ledger.kept clause = none) (bindings : List Scalar) :
    (cache.put clause ⟨none, bindings⟩).Twin ledger where
  slots other := by
    by_cases hother : other = clause
    · subst hother
      rw [slot_put_self, hmissing]
      exact .missing bindings
    · rw [slot_put_ne _ _ hother]
      exact h.slots other
  whole := (slot_put_ne _ _ hwhole.symm).trans h.whole
  cache := (compiled_put ..).trans h.cache
  ledger := h.ledger

theorem discard (h : cache.Twin ledger) (clauses : List Clause) :
    (cache.discard clauses).Twin (ledger.discard clauses) where
  slots clause := by
    rw [slot_discard, Ledger.kept_discard]
    split
    · exact .missing []
    · exact h.slots clause
  whole := by
    rw [slot_discard]
    split
    · rfl
    · exact h.whole
  cache := (compiled_discard ..).trans h.cache
  ledger := h.ledger

theorem texts (h : cache.Twin ledger) {clauses : List Clause}
    (hkept : ∀ clause ∈ clauses, cache.isMissing clause = false) :
    List.Forall₂ Shows (clauses.filterMap fun clause => (cache.slot clause).fragment)
        (clauses.filterMap ledger.kept) ∧
      (clauses.flatMap fun clause => (cache.slot clause).bindings) =
        (clauses.filterMap ledger.kept).flatMap values := by
  induction clauses with
  | nil => exact ⟨.nil, rfl⟩
  | cons clause clauses ih =>
    rw [List.forall_mem_cons] at hkept
    obtain ⟨hshows, hbindings⟩ := ih hkept.2
    have hslot := h.slots clause
    have hfirst := hkept.1
    rw [List.filterMap_cons, List.filterMap_cons, List.flatMap_cons, hbindings]
    rw [Cache.isMissing] at hfirst
    revert hslot hfirst
    generalize cache.slot clause = slot, ledger.kept clause = text
    intro hslot hfirst
    cases hslot with
    | missing => cases hfirst
    | kept hsql => exact ⟨.cons hsql hshows, rfl⟩

end Cache.Twin

namespace InlineAssemble

variable {cl : Clause} {work : Render σ Marked} {a : InlineAssembly σ}

theorem clause_of_kept {text : Marked} (h : a.ledger.kept cl = some text) :
    clause cl work a = .ok () a := by
  rw [clause, h]

theorem clause_of_missing (h : a.ledger.kept cl = none) :
    clause cl work a =
      match work a.progress with
      | .ok text progress => .ok () ⟨a.ledger.put cl text, progress⟩
      | .error e progress => .error e { a with progress := progress } := by
  cases hwork : work a.progress with
  | ok text progress => simp only [clause, h, hwork]
  | error e progress => simp only [clause, h, hwork]

theorem fill_cons (w : Clause × Render σ Marked) (works : List (Clause × Render σ Marked))
    (a : InlineAssembly σ) :
    fill (w :: works) a =
      match clause w.1 w.2 a with
      | .ok _ a => fill works a
      | .error e a => .error e a := by
  change EStateM.bind (clause w.1 w.2) (fun _ => fill works) a = _
  unfold EStateM.bind
  cases clause w.1 w.2 a <;> rfl

end InlineAssemble

/-- A clause, and the same with its values inline. -/
structure WorkShows (I : σ → Prop) (w : Assemble.Work σ) (v : Clause × Render σ Marked) : Prop where
  clause : w.1 = v.1
  whole : v.1 ≠ .whole
  writes : Lockstep True (Progress.Twin I []) w.2 v.2 fun sql text p q =>
    Writes I [] sql text p q ∧ (v.1 = .lock → text.values = [])

namespace Assembly.Twin

variable {I : σ → Prop} {a : Assembly σ} {b : InlineAssembly σ}

theorem missing (h : Assembly.Twin I a b) {clause : Clause} (hwhole : clause ≠ .whole)
    (hmissing : b.ledger.kept clause = none)
    {x : EStateM.Result CompileError (Progress σ) String}
    {y : EStateM.Result CompileError (Progress σ) Marked}
    (hxy : InStep True (fun sql text p q =>
      Writes I [] sql text p q ∧ (clause = .lock → text.values = [])) x y) :
    Abreast (fun _ _ => Assembly.Twin I)
      (match x with
        | .ok sql p => .ok () ⟨a.cache.put clause ⟨some sql, p.bound⟩, p⟩
        | .error e p => .error e ⟨a.cache.put clause ⟨none, p.bound⟩, p⟩)
      (match y with
        | .ok text q => .ok () ⟨b.ledger.put clause text, q⟩
        | .error e q => .error e { b with progress := q }) := by
  cases hxy with
  | @ok sql m p q hpq =>
    obtain ⟨⟨hshows, hpq⟩, hlock⟩ := hpq
    have hbound : p.bound = m.values := hpq.bound
    refine .ok ⟨h.kept.put hwhole ?_, hpq.state, hpq.pending, rfl, hpq.sound, hpq.clean⟩
    rw [hbound]
    exact .kept hshows hlock
  | error he =>
    rw [he trivial]
    exact .error _ (h.kept.put_missing hwhole hmissing _)
  | left he => exact absurd trivial he
  | right he => exact absurd trivial he

theorem clause (h : Assembly.Twin I a b) {w : Assemble.Work σ} {v : Clause × Render σ Marked}
    (hw : WorkShows I w v) :
    Abreast (fun _ _ => Assembly.Twin I) (Assemble.clause w.1 w.2 a)
      (InlineAssemble.clause v.1 v.2 b) := by
  obtain ⟨clause, work⟩ := w
  obtain ⟨_, text⟩ := v
  obtain ⟨rfl, hwhole, hwrites⟩ := hw
  have hmissing := h.kept.isMissing clause
  cases hkept : b.ledger.kept clause with
  | some m =>
    rw [hkept] at hmissing
    rw [Assemble.clause_of_kept hmissing, InlineAssemble.clause_of_kept hkept]
    exact .ok h
  | none =>
    rw [hkept] at hmissing
    rw [Assemble.clause_of_missing hmissing, InlineAssemble.clause_of_missing hkept]
    exact h.missing hwhole hkept (hwrites _ _
      ⟨h.progress.state, h.progress.pending, rfl, h.progress.sound, h.progress.clean⟩)

theorem fill (h : Assembly.Twin I a b) {works : List (Assemble.Work σ)}
    {texts : List (Clause × Render σ Marked)} (hworks : List.Forall₂ (WorkShows I) works texts) :
    Abreast (fun _ _ => Assembly.Twin I) (Assemble.fill works a) (InlineAssemble.fill texts b) := by
  induction hworks generalizing a b with
  | nil => exact .ok h
  | @cons w v works texts hw _ ih =>
    have hfirst := h.clause hw
    rw [Assemble.fill_cons, InlineAssemble.fill_cons]
    revert hfirst
    generalize Assemble.clause w.1 w.2 a = x, InlineAssemble.clause v.1 v.2 b = y
    intro hfirst
    cases hfirst with
    | ok h => exact ih h
    | error e h => exact .error e h

theorem dropped (h : Assembly.Twin I a b) :
    Assembly.Twin I (Scope.dropped a) (InlineAssemble.dropped b) := by
  have hmissing : a.cache.isMissing = fun clause => (b.ledger.kept clause).isNone :=
    funext h.kept.isMissing
  rw [Scope.dropped, InlineAssemble.dropped, hmissing]
  split
  · exact ⟨h.kept.discard _, h.progress⟩
  · exact h

end Assembly.Twin

theorem plain_toString (n : Nat) : Plain (toString n) := by
  intro hmem
  rw [Nat.toString_eq_repr, Nat.toList_repr] at hmem
  have hdigit := Nat.isDigit_of_mem_toDigits (by decide) (by decide) hmem
  exact absurd hdigit (by decide)

theorem Dialect.limited_eq (d : Dialect) (sql : String) (limit offset : Option UInt64) :
    d.limited sql limit offset = sql ++ d.limited "" limit offset := by
  simp only [limited, String.append_assoc, String.empty_append]

theorem Dialect.plain_lock (d : Dialect) : Plain d.writeLock ∧ Plain d.readLock := by
  cases d <;> decide

theorem Dialect.plain_limited (d : Dialect) (limit offset : Option UInt64) :
    Plain (d.limited "" limit offset) := by
  have hlimit (n : UInt64) : Plain (" LIMIT " ++ toString n.toNat) :=
    Plain.append (by decide) (plain_toString _)
  have hoffset (n : UInt64) : Plain (" OFFSET " ++ toString n.toNat) :=
    Plain.append (by decide) (plain_toString _)
  have hunlimited : Plain d.unlimited := by cases d <;> decide
  have hempty : Plain "" := by decide
  cases limit <;> cases offset
  · exact (hempty.append hempty).append hempty
  · exact (hempty.append hunlimited).append (hoffset _)
  · exact (hempty.append (hlimit _)).append hempty
  · exact (hempty.append (hlimit _)).append (hoffset _)

namespace Scope.Clean

variable {s : Scope σ} {I : σ → Prop} (hs : s.Clean I)

include hs

theorem limited (sql : String) (limit offset : Option UInt64) :
    s.platform.limited sql limit offset = sql ++ s.platform.limited "" limit offset ∧
      Plain (s.platform.limited "" limit offset) := by
  obtain ⟨d, hd⟩ := hs.platform
  unfold Scope.platform
  rw [hd]
  exact ⟨d.limited_eq sql limit offset, d.plain_limited limit offset⟩

theorem lockClause (select : Select Query) : Plain (s.lockClause select) := by
  obtain ⟨d, hd⟩ := hs.platform
  have hempty : Plain "" := by decide
  have hlock (mode : Option LockMode) : Plain (s.lockSql mode) := by
    unfold Scope.lockSql Scope.platform
    rw [hd]
    match mode with
    | none => exact hempty
    | some .write => exact d.plain_lock.1
    | some .read => exact d.plain_lock.2
  have hmode : Plain (if select.aggregate.isSome then "" else s.lockSql select.lock) := by
    split
    · exact hempty
    · exact hlock _
  unfold Scope.lockClause
  revert hmode
  generalize (if select.aggregate.isSome then "" else s.lockSql select.lock) = lock
  intro hmode
  simp only
  split
  · exact hempty
  · exact (by decide : Plain " ").append hmode

end Scope.Clean

namespace Inline.Faithful

variable {s : Inline σ} {I : σ → Prop} (h : s.Faithful I)

include h

theorem works {select : Select Query} (hselect : select.Clean Query.Clean) :
    List.Forall₂ (WorkShows I) (s.toScope.works select) (s.works select) := by
  have hwork {clause : Clause} {f : Render σ String} {g : Render σ Marked}
      (hwhole : clause ≠ .whole) (hlock : clause ≠ .lock)
      (hfg : Lockstep True (Progress.Twin I []) f g (Writes I [])) :
      WorkShows I (clause, f) (clause, g) :=
    ⟨rfl, hwhole, fun p q hpq => (hfg p q hpq).mono fun _ _ _ _ hwrites =>
      ⟨hwrites, fun heq => absurd heq hlock⟩⟩
  simp only [Scope.works, Scope.body, Inline.works, List.cons_append, List.nil_append]
  refine .cons (hwork (by decide) (by decide) (.litWrites (h.scope.columnsClause hselect))) ?_
  refine .cons (hwork (by decide) (by decide) (h.tablesClause hselect.tables)) ?_
  refine .cons (hwork (by decide) (by decide) (.litWrites (h.scope.groupsClause hselect.groups))) ?_
  refine .cons (hwork (by decide) (by decide) (h.conditionsAfter (by decide) hselect.having)) ?_
  refine .cons (hwork (by decide) (by decide) (.litWrites (h.scope.ordersClause hselect.orders))) ?_
  refine .cons (hwork (by decide) (by decide) (h.conditionsAfter (by decide) hselect.filters)) ?_
  refine .cons (hwork (by decide) (by decide) (h.joinsClause hselect)) ?_
  have hwhole : Clause.lock ≠ .whole := by decide
  refine .cons ⟨rfl, hwhole, ?_⟩ .nil
  refine .pure fun p q hpq => ⟨⟨.lit (h.scope.lockClause select), ?_⟩, fun _ => values_lit _⟩
  rw [values_lit]
  exact hpq

/-- An assembled SELECT, and the same with its values inline. -/
structure Assembled (sql : String) (text : Marked) (a : Assembly σ) (b : InlineAssembly σ) :
    Prop where
  shows : Shows sql text
  bindings : a.cache.bindings = text.values
  kept : a.cache.Twin b.ledger

theorem selectText (select : Select Query) {cache : Cache} {ledger : Ledger}
    (hkept : cache.Twin ledger)
    (hall : ∀ clause ∈ Clause.textOrder, cache.isMissing clause = false) :
    Shows (s.selectSql select cache) (s.selectText select ledger) ∧
      cache.bindings = (s.selectText select ledger).values := by
  obtain ⟨hbody, hbindings⟩ := hkept.texts hall
  obtain ⟨hlock, hnone, _⟩ := (hkept.slots .lock).lock
  have hjoined := Shows.join (show Plain "" by decide) hbody
  constructor
  · refine Shows.append ?_ hlock
    simp only [Inline.limitText]
    split
    · obtain ⟨hsql, hplain⟩ := h.scope.limited
        ("".intercalate (Clause.textOrder.filterMap fun c => (cache.slot c).fragment))
        select.limit select.offset
      rw [hsql]
      exact hjoined.append (.lit hplain)
    · rw [show lit "" = [] from rfl, List.append_nil]
      exact hjoined
  · rw [Cache.bindings_of_whole hkept.whole, hbindings, Inline.selectText, values_append,
      values_append, values_lit, hnone, values_join, List.append_nil, List.append_nil]

theorem select {select : Select Query} {a : Assembly σ} {b : InlineAssembly σ}
    (hselect : select.Clean Query.Clean) (hab : Assembly.Twin I a b) :
    Abreast Assembled (s.toScope.select select a) (s.select select b) := by
  have hfill := hab.dropped.fill (h.works hselect)
  have hkept {a' : Assembly σ} := Assemble.fill_ok (a := Scope.dropped a) (b := a')
    (s.toScope.works_nodup select)
  rw [Scope.select_eq, Inline.select]
  revert hfill hkept
  generalize Assemble.fill (s.toScope.works select) (Scope.dropped a) = x,
    InlineAssemble.fill (s.works select) (InlineAssemble.dropped b) = y
  intro hfill hkept
  cases hfill with
  | ok htwin =>
    have hall : ∀ clause ∈ Clause.textOrder, Cache.isMissing _ clause = false :=
      fun clause hclause => by
        have hmem : clause ∈ (s.toScope.works select).map Prod.fst := by
          cases clause <;> simp [Scope.works, Scope.body, Clause.textOrder] at hclause ⊢
        obtain ⟨w, hw, rfl⟩ := List.mem_map.1 hmem
        exact hkept rfl w hw
    obtain ⟨hshows, hbindings⟩ := h.selectText select htwin.kept hall
    exact .ok ⟨hshows, hbindings, htwin.kept⟩
  | error e htwin => exact .error e htwin

end Inline.Faithful

end ParamSql
