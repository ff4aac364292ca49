import ParamSql.Proofs.Fill

namespace ParamSql

variable {σ : Type}

/-- A SELECT as to the rows it is about, not how many of them it gives and how it locks them. -/
def Select.rows {Q : Type} (s : Select Q) : Select Q :=
  { s with limit := none, offset := none, lock := none }

/-- The resolver prepares a SELECT by adding filters, and its hook for tables is a pure function. -/
structure Resolver.Extending (r : Resolver σ) : Prop where
  extended {s t : Select Query} {x : σ} : r.select s r.start = .ok t x →
    ∃ added, t = { s with filters := s.filters ++ added }
  table : r.TablePure

/-- What an extending resolver adds and remembers is the same for the same rows. It must not look
at the limits or the lock: a change of these keeps the WHERE clause. -/
structure Resolver.Additive (r : Resolver σ) : Prop extends r.Extending where
  steady {s s' t t' : Select Query} {x x' : σ} : s.rows = s'.rows →
    r.select s r.start = .ok t x → r.select s' r.start = .ok t' x' →
    t.filters = t'.filters ∧ x = x'

/-- What a query keeps when its first compilation begins: nothing. -/
abbrev Cache.begun : Cache :=
  { compiling := true }

theorem Cache.slot_begun (clause : Clause) : begun.slot clause = {} := by
  cases clause <;> rfl

namespace Scope

open Assemble

/-- The clauses of a SELECT but for the lock, in the order in which they are compiled. -/
def body (s : Scope σ) (select : Select Query) : List (Work σ) :=
  [(.columns, s.columnsClause select),
   (.tables, s.tablesClause select.tables),
   (.groups, s.groupsClause select.groups),
   (.having, s.conditionsAfter " HAVING " select.having),
   (.orders, s.ordersClause select.orders),
   (.filters, s.conditionsAfter " WHERE " select.filters),
   (.joins, s.joinsClause select)]

/-- The clauses of a SELECT, in the order in which they are compiled. -/
def works (s : Scope σ) (select : Select Query) : List (Work σ) :=
  s.body select ++ [(.lock, pure (s.lockClause select))]

/-- An assembly without the clauses that depend on joins, unless it keeps all of them. -/
def dropped (a : Assembly σ) : Assembly σ :=
  if Clause.joinDependent.any a.cache.isMissing then
    { a with cache := a.cache.discard Clause.joinDependent }
  else a

theorem select_eq (s : Scope σ) (select : Select Query) (a : Assembly σ) :
    s.select select a =
      match fill (s.works select) (dropped a) with
      | .ok _ b => .ok (s.selectSql select b.cache) b
      | .error e b => .error e b := by
  have hseq : s.select select = (do
      dropJoinDependent
      fill (s.works select)
      return s.selectSql select (← get).cache) := by
    simp only [Scope.select, fill, works, body, List.cons_append, List.nil_append, List.forM,
      bind_assoc, pure_bind]
  rw [hseq]
  change EStateM.bind (fill (s.works select)) _ (dropped a) = _
  unfold EStateM.bind
  cases fill (s.works select) (dropped a) <;> rfl

theorem select_ok {s : Scope σ} {select : Select Query} {a b : Assembly σ} {sql : String}
    (h : s.select select a = .ok sql b) :
    fill (s.works select) (dropped a) = .ok () b ∧ sql = s.selectSql select b.cache := by
  rw [select_eq] at h
  cases hfill : fill (s.works select) (dropped a) with
  | error e c =>
    rw [hfill] at h
    cases h
  | ok _ c =>
    rw [hfill] at h
    injection h with hsql hc
    subst hsql hc
    exact ⟨rfl, rfl⟩

theorem selectSql_congr (s : Scope σ) (select : Select Query) {x y : Cache}
    (h : ∀ clause, (x.slot clause).fragment = (y.slot clause).fragment) :
    s.selectSql select x = s.selectSql select y := by
  have hlock : x.lock.fragment = y.lock.fragment := h .lock
  simp only [selectSql, h, hlock]

theorem body_silent (s : Scope σ) (select : Select Query) :
    ∀ w ∈ s.body select, Lockstep True Progress.Silent w.2 w.2 (Same Progress.Silent) := by
  have h := s.guided_silent
  have hselect : Select.Alike True Eq Eq select select := .refl (fun _ => rfl) (fun _ => rfl) _
  intro w hw
  simp only [body, List.mem_cons, List.not_mem_nil, or_false] at hw
  rcases hw with rfl | rfl | rfl | rfl | rfl | rfl | rfl
  · exact h.columnsClause hselect
  · exact h.toSeated.tablesClause hselect.tables
  · exact h.groupsClause _
  · exact h.conditionsAfter _ hselect.having
  · exact h.ordersClause _
  · exact h.conditionsAfter _ hselect.filters
  · exact h.joinsClause hselect

theorem works_silent (s : Scope σ) (select : Select Query) :
    ∀ w ∈ s.works select, Lockstep True Progress.Silent w.2 w.2 (Same Progress.Silent) := by
  intro w hw
  rcases List.mem_append.1 hw with hw | hw
  · exact s.body_silent select w hw
  · rw [List.mem_singleton.1 hw]
    exact .ends rfl

theorem works_nodup (s : Scope σ) (select : Select Query) :
    ((s.works select).map Prod.fst).Nodup := by
  change [Clause.columns, .tables, .groups, .having, .orders, .filters, .joins, .lock].Nodup
  decide

theorem body_nodup (s : Scope σ) (select : Select Query) :
    ((s.body select).map Prod.fst).Nodup := by
  change [Clause.columns, .tables, .groups, .having, .orders, .filters, .joins].Nodup
  decide

/-- Compilation from nothing comes to the slots that depend on joins. -/
def Reaches (s : Scope σ) (select : Select Query) (cache : Cache) : Prop :=
  ∃ t x j b, s.compiler.resolver.select select s.compiler.resolver.start = .ok t x ∧
    fill (s.body t) ⟨.begun, ⟨x, [], [], j⟩⟩ = .ok () b ∧
    ∀ clause ∈ Clause.joinDependent, b.cache.slot clause = cache.slot clause

/-- What is kept of a SELECT is sound: the FROM clause and the lock are right, and the clauses that
depend on joins are those of a compilation from nothing, unless one of them is missing. -/
structure Kept (s : Scope σ) (select : Select Query) (cache : Cache) : Prop where
  whole : cache.slot .whole = {}
  tables : Right (s.tablesClause select.tables) (cache.slot .tables)
  lock : Right (pure (s.lockClause select) : Render σ String) (cache.slot .lock)
  joined : Clause.joinDependent.any cache.isMissing = false →
    ∃ other : Select Query, other.rows = select.rows ∧ s.Reaches other cache

theorem ahead_begun {ws : List (Work σ)} {p q : Progress σ} (h : Progress.SameState p q) :
    Ahead ws ⟨.begun, p⟩ ⟨.begun, q⟩ where
  progress := h
  missing w _ := by rw [Cache.isMissing, Cache.slot_begun]; rfl
  due w _ := .inl (by rw [Cache.isMissing, Cache.slot_begun]; rfl)
  done _ _ := rfl

variable {s : Scope σ} {select t : Select Query} {x : σ} {cache : Cache}

theorem Reaches.run (hr : s.compiler.resolver.Additive) {other : Select Query}
    (h : s.Reaches other cache) (hrows : other.rows = select.rows)
    (hprepared : s.compiler.resolver.select select s.compiler.resolver.start = .ok t x)
    (j : Journal) : ∃ b, fill (s.body t) ⟨.begun, ⟨x, [], [], j⟩⟩ = .ok () b ∧
      ∀ clause ∈ Clause.joinDependent, b.cache.slot clause = cache.slot clause := by
  obtain ⟨t', x', j', b', hprepared', hfill, hslots⟩ := h
  obtain ⟨hfilters, rfl⟩ := hr.steady hrows hprepared' hprepared
  have hbody : s.body t' = s.body t := by
    obtain ⟨added, rfl⟩ := hr.extended hprepared
    obtain ⟨added', rfl⟩ := hr.extended hprepared'
    simp only at hfilters
    change s.body { other.rows with filters := other.filters ++ added' } =
      s.body { select.rows with filters := select.filters ++ added }
    rw [hrows, hfilters]
  have hagree := fill_ahead (s.body_nodup t) (s.body_silent t) ⟨.begun, ⟨x', [], [], j⟩⟩
    ⟨.begun, ⟨x', [], [], j'⟩⟩ (ahead_begun (.of_eq rfl rfl trivial))
  rw [← hbody, hfill] at hagree
  rw [← hbody]
  revert hagree
  generalize fill (s.body t') ⟨.begun, ⟨x', [], [], j⟩⟩ = result
  intro hagree
  cases hagree with
  | @ok _ _ b _ h =>
    refine ⟨b, rfl, fun clause hclause => ?_⟩
    rw [h.2.done clause List.not_mem_nil, hslots clause hclause]
  | right h => exact absurd trivial h

theorem works_cases {w : Work σ} (hw : w ∈ s.works select) :
    w.1 ∈ Clause.joinDependent ∨ w = (.tables, s.tablesClause select.tables) ∨
      w = (.lock, pure (s.lockClause select)) := by
  simp only [works, body, List.cons_append, List.nil_append, List.mem_cons, List.not_mem_nil,
    or_false] at hw
  rcases hw with rfl | rfl | rfl | rfl | rfl | rfl | rfl | rfl
  all_goals simp [Clause.joinDependent]

theorem tables_mem_works (s : Scope σ) (select : Select Query) :
    (.tables, s.tablesClause select.tables) ∈ s.works select :=
  .tail _ (.head _)

theorem lock_mem_works (s : Scope σ) (select : Select Query) :
    (.lock, pure (s.lockClause select)) ∈ s.works select :=
  List.mem_append_right _ (.head _)

theorem clause_of_not_works {clause : Clause}
    (h : clause ∉ (s.works select).map Prod.fst) : clause = .whole := by
  change clause ∉ [Clause.columns, .tables, .groups, .having, .orders, .filters, .joins, .lock] at h
  cases clause <;> first | rfl | exact absurd (by decide) h

theorem Kept.right (hr : s.compiler.resolver.Additive) (h : s.Kept select cache)
    (hprepared : s.compiler.resolver.select select s.compiler.resolver.start = .ok t x)
    {w : Work σ} (hw : w ∈ s.works t) :
    w.1 ∈ Clause.joinDependent ∨ (w.1 ∉ Clause.joinDependent ∧ Right w.2 (cache.slot w.1) ∧
      w.2.Constant) := by
  obtain ⟨added, rfl⟩ := hr.extended hprepared
  rcases works_cases hw with hw | rfl | rfl
  · exact .inl hw
  · exact .inr ⟨by simp [Clause.joinDependent], h.tables, tablesClause_constant hr.table _⟩
  · exact .inr ⟨by simp [Clause.joinDependent], h.lock, Render.constant_pure _⟩

theorem Kept.ahead (hr : s.compiler.resolver.Additive) (h : s.Kept select cache)
    (hprepared : s.compiler.resolver.select select s.compiler.resolver.start = .ok t x)
    (p : Progress σ) :
    Ahead (s.works t) ⟨cache.discard Clause.joinDependent, p⟩ ⟨.begun, p⟩ where
  progress := .of_eq rfl rfl trivial
  missing w _ := by rw [Cache.isMissing, Cache.slot_begun]; rfl
  due w hw := by
    rw [Cache.isMissing, Cache.slot_discard]
    rcases h.right hr hprepared hw with hw | ⟨hnot, hright, _⟩
    · rw [if_pos hw]
      exact .inl rfl
    · rw [if_neg hnot]
      exact hright.missing_or.imp id And.right
  done clause hclause := by
    rw [clause_of_not_works hclause, Cache.slot_discard, if_neg (by decide), h.whole]
    rfl

theorem fill_works {a b : Assembly σ} (h : fill (s.body t) a = .ok () b)
    (hlock : a.cache.isMissing .lock = true) :
    ∃ b', fill (s.works t) a = .ok () b' ∧
      ∀ clause ≠ .lock, b'.cache.slot clause = b.cache.slot clause := by
  have hmissing : b.cache.isMissing .lock = true := by
    have hslot : (endOf (fill (s.body t) a)).cache.slot .lock = a.cache.slot .lock :=
      fill_slot (by simp [body])
    rw [h] at hslot
    rwa [Cache.isMissing, show b.cache.slot .lock = _ from hslot]
  have hput : clause .lock (pure (s.lockClause t)) b = _ := clause_of_missing hmissing
  refine ⟨⟨b.cache.put .lock ⟨some (s.lockClause t), []⟩, { b.progress with bound := [] }⟩, ?_,
    fun clause hclause => Cache.slot_put_ne _ _ hclause⟩
  rw [works, fill_append, h]
  change fill [(.lock, pure (s.lockClause t))] b = _
  rw [fill_cons, hput]
  rfl

theorem fill_body {a b : Assembly σ} (h : fill (s.works t) a = .ok () b) :
    ∃ b', fill (s.body t) a = .ok () b' ∧
      ∀ clause ≠ .lock, b'.cache.slot clause = b.cache.slot clause := by
  rw [works, fill_append] at h
  cases hbody : fill (s.body t) a with
  | error e b' => rw [hbody] at h; exact nomatch h
  | ok _ b' =>
    rw [hbody] at h
    refine ⟨b', rfl, fun clause hclause => ?_⟩
    have hslot : (endOf (fill [(.lock, pure (s.lockClause t))] b')).cache.slot clause =
        b'.cache.slot clause := fill_slot (by simpa using hclause)
    rw [show fill _ b' = _ from h] at hslot
    exact hslot.symm

/-- If no clause that depends on joins is missing, compilation from what is kept succeeds, and so
does compilation from nothing; both come to the same slots. -/
theorem Kept.complete (hr : s.compiler.resolver.Additive) (h : s.Kept select cache)
    (hprepared : s.compiler.resolver.select select s.compiler.resolver.start = .ok t x)
    (hall : Clause.joinDependent.any cache.isMissing = false) (j : Journal) :
    ∃ a b, fill (s.works t) ⟨cache, ⟨x, [], [], j⟩⟩ = .ok () a ∧
      fill (s.works t) ⟨.begun, ⟨x, [], [], j⟩⟩ = .ok () b ∧
      ∀ clause, a.cache.slot clause = b.cache.slot clause := by
  obtain ⟨other, hrows, hreaches⟩ := h.joined hall
  obtain ⟨c, hc, hslots⟩ := hreaches.run hr hrows hprepared j
  obtain ⟨b, hb, hbody⟩ := fill_works hc rfl
  -- The clauses that depend on joins are all kept; FROM and the lock may have to be rendered.
  have haim : ∀ w ∈ s.works t,
      (cache.isMissing w.1 = false ∧ cache.slot w.1 = b.cache.slot w.1) ∨
        (Right w.2 (cache.slot w.1) ∧ w.2.Constant) := by
    intro w hw
    rcases h.right hr hprepared hw with hjoins | ⟨_, hright⟩
    · have hlock : w.1 ≠ .lock := by
        intro heq
        rw [heq] at hjoins
        simp [Clause.joinDependent] at hjoins
      rw [List.any_eq_false] at hall
      exact .inl ⟨Bool.eq_false_iff.2 (hall _ hjoins), by rw [hbody _ hlock, hslots _ hjoins]⟩
    · exact .inr hright
  obtain ⟨a, ha, hslots⟩ := fill_resume (a := ⟨cache, ⟨x, [], [], j⟩⟩) (s.works_nodup t) hb
    Cache.slot_begun haim
  refine ⟨a, b, ha, hb, fun clause => ?_⟩
  by_cases hclause : clause ∈ (s.works t).map Prod.fst
  · obtain ⟨w, hw, rfl⟩ := List.mem_map.1 hclause
    exact hslots w hw
  · have ha' := fill_slot (a := ⟨cache, ⟨x, [], [], j⟩⟩) hclause
    have hb' := fill_slot (a := ⟨.begun, ⟨x, [], [], j⟩⟩) hclause
    rw [ha] at ha'
    rw [hb] at hb'
    refine ha'.trans (.trans ?_ hb'.symm)
    rw [clause_of_not_works hclause]
    exact h.whole

/-- Compilations from what is kept and from nothing fill the slots alike, or fail alike. -/
theorem Kept.fill_agree (hr : s.compiler.resolver.Additive) (h : s.Kept select cache)
    (hprepared : s.compiler.resolver.select select s.compiler.resolver.start = .ok t x)
    (j : Journal) :
    InStep True (fun _ _ a b => ∀ clause, a.cache.slot clause = b.cache.slot clause)
      (fill (s.works t) (dropped ⟨cache, ⟨x, [], [], j⟩⟩))
      (fill (s.works t) ⟨.begun, ⟨x, [], [], j⟩⟩) := by
  cases hany : Clause.joinDependent.any cache.isMissing with
  | true =>
    rw [dropped, if_pos hany]
    -- What depends on joins is rendered again, by the same resolver states as from nothing.
    refine (fill_ahead (s.works_nodup t) (s.works_silent t) _ _
      (h.ahead hr hprepared ⟨x, [], [], j⟩)).mono fun _ _ a b hab => ?_
    exact fun clause => hab.2.done clause List.not_mem_nil
  | false =>
    obtain ⟨a, b, ha, hb, hab⟩ := h.complete hr hprepared hany j
    rw [dropped, if_neg (Bool.eq_false_iff.1 hany), ha, hb]
    exact .ok hab

theorem Kept.select_agree (hr : s.compiler.resolver.Additive) (h : s.Kept select cache)
    (hprepared : s.compiler.resolver.select select s.compiler.resolver.start = .ok t x)
    (j : Journal) :
    InStep True (fun sql sql' a b => sql = sql' ∧
        ∀ clause, a.cache.slot clause = b.cache.slot clause)
      (s.select t ⟨cache, ⟨x, [], [], j⟩⟩) (s.select t ⟨.begun, ⟨x, [], [], j⟩⟩) := by
  have hbegun : dropped (⟨.begun, ⟨x, [], [], j⟩⟩ : Assembly σ) = ⟨.begun, ⟨x, [], [], j⟩⟩ := rfl
  rw [select_eq, select_eq, hbegun]
  rcases (h.fill_agree hr hprepared j).both with ⟨_, _, a, b, ha, hb, hab⟩ | ⟨e, a, b, ha, hb⟩
  · rw [ha, hb]
    exact .ok ⟨s.selectSql_congr t fun clause => congrArg Slot.fragment (hab clause), hab⟩
  · rw [ha, hb]
    exact .error fun _ => rfl

theorem endOf_select (a : Assembly σ) :
    endOf (s.select t a) = endOf (fill (s.works t) (dropped a)) := by
  rw [select_eq]
  cases fill (s.works t) (dropped a) <;> rfl

theorem compiled_select (a : Assembly σ) :
    (endOf (s.select t a)).cache.compiled = a.cache.compiled := by
  rw [endOf_select, fill_compiled, dropped]
  split
  · exact Cache.compiled_discard ..
  · rfl

theorem slot_dropped (a : Assembly σ) {clause : Clause} (h : clause ∉ Clause.joinDependent) :
    (dropped a).cache.slot clause = a.cache.slot clause := by
  unfold dropped
  split
  · exact (Cache.slot_discard _ _ _).trans (if_neg h)
  · rfl

theorem missing_dropped {a : Assembly σ} (hany : Clause.joinDependent.any a.cache.isMissing = true)
    {clause : Clause} (h : clause ∈ Clause.joinDependent) :
    (dropped a).cache.isMissing clause = true := by
  rw [dropped, if_pos hany, Cache.isMissing, Cache.slot_discard, if_pos h]
  rfl

theorem Kept.missing_of_error (hr : s.compiler.resolver.Additive) (h : s.Kept select cache)
    (hprepared : s.compiler.resolver.select select s.compiler.resolver.start = .ok t x)
    {j : Journal} {e : CompileError} {a : Assembly σ}
    (hfail : fill (s.works t) (dropped ⟨cache, ⟨x, [], [], j⟩⟩) = .error e a) :
    a.cache.isMissing .joins = true := by
  cases hany : Clause.joinDependent.any cache.isMissing with
  | false =>
    obtain ⟨b, _, hb, _⟩ := h.complete hr hprepared hany j
    rw [dropped, if_neg (Bool.eq_false_iff.1 hany), hb] at hfail
    cases hfail
  | true =>
    -- The joins are the last clause that can fail: only the lock is rendered behind them.
    have hdropped : (dropped ⟨cache, ⟨x, [], [], j⟩⟩).cache.isMissing .joins = true :=
      missing_dropped hany (by decide)
    rw [works, fill_append] at hfail
    cases hbody : fill (s.body t) (dropped ⟨cache, ⟨x, [], [], j⟩⟩) with
    | error e' b =>
      rw [hbody] at hfail
      injection hfail with _ hb
      rw [← hb]
      have hsplit : s.body t = (s.body t).dropLast ++ [(s.body t).getLast (by simp [body])] :=
        (List.dropLast_append_getLast _).symm
      rw [hsplit] at hbody
      exact fill_error hdropped (by simp [body]) hbody
    | ok _ b =>
      rw [hbody] at hfail
      simp only [fill_cons] at hfail
      cases hlock : b.cache.isMissing .lock with
      | false =>
        rw [clause_of_kept hlock] at hfail
        cases hfail
      | true =>
        rw [clause_of_missing hlock] at hfail
        cases hfail

/-- What is kept of a SELECT after its compilation is sound, whether it succeeds or fails. -/
theorem Kept.after (hr : s.compiler.resolver.Additive) (h : s.Kept select cache)
    (hprepared : s.compiler.resolver.select select s.compiler.resolver.start = .ok t x)
    (j : Journal) :
    s.Kept select (endOf (s.select t ⟨cache, ⟨x, [], [], j⟩⟩)).cache := by
  have hbegin : ∀ clause ∉ Clause.joinDependent,
      (dropped ⟨cache, ⟨x, [], [], j⟩⟩).cache.slot clause = cache.slot clause :=
    fun clause => slot_dropped ⟨cache, ⟨x, [], [], j⟩⟩
  have hkeeps : ∀ w ∈ s.works t, w.1 ∉ Clause.joinDependent →
      Right w.2 ((endOf (fill (s.works t) (dropped ⟨cache, ⟨x, [], [], j⟩⟩))).cache.slot w.1) := by
    intro w hw hnot
    obtain ⟨_, hright, hconstant⟩ := (h.right hr hprepared hw).resolve_left hnot
    refine fill_right hconstant (fun v hv hvw => ?_) (by rw [hbegin _ hnot]; exact hright)
    exact congrArg Prod.snd (List.inj_on_of_nodup_map (s.works_nodup t) hv hw hvw)
  have hextended := hr.extended hprepared
  have hagree := h.fill_agree hr hprepared j
  rw [endOf_select]
  refine ⟨?_, ?_, ?_, fun hall => ?_⟩
  · rw [fill_slot (by simp [works, body]), hbegin _ (by decide)]
    exact h.whole
  · obtain ⟨added, rfl⟩ := hextended
    exact hkeeps _ (s.tables_mem_works _) (by simp [Clause.joinDependent])
  · obtain ⟨added, rfl⟩ := hextended
    exact hkeeps _ (s.lock_mem_works _) (by simp [Clause.joinDependent])
  · refine ⟨select, rfl, t, x, j, ?_⟩
    cases hours : fill (s.works t) (dropped ⟨cache, ⟨x, [], [], j⟩⟩) with
    | error e a =>
      -- The clauses that depend on joins are under no condition while one of them is missing.
      rw [hours] at hall
      have hmissing := h.missing_of_error hr hprepared hours
      rw [List.any_eq_false] at hall
      exact absurd hmissing (hall .joins (by decide))
    | ok _ a =>
      obtain ⟨_, b, hfresh, hslots⟩ := hagree.of_ok hours
      obtain ⟨c, hc, hbody⟩ := fill_body hfresh
      refine ⟨c, hprepared, hc, fun clause hclause => ?_⟩
      have hlock : clause ≠ .lock := by
        rintro rfl
        simp [Clause.joinDependent] at hclause
      rw [hbody _ hlock]
      exact (hslots clause).symm

end Scope

end ParamSql
