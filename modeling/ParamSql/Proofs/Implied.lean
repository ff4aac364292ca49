import ParamSql.Proofs.Along
import ParamSql.Proofs.Observer

namespace ParamSql

variable {σ : Type}

/-- The joins that fields have brought in, before and after they were handed over. -/
structure JoinRecord where
  early : List (Join Query)
  late : List (Join Query)
  handed : Bool

/-- The joins that wait in one state and did not in another, if none has been dropped. -/
def Resolver.brought (r : Resolver σ) (x y : σ) : List (Join Query) :=
  (r.joins y).1.drop (r.joins x).1.length

/-- The observer that writes down which joins each field brings in. -/
def Observer.joinRecord (r : Resolver σ) : Observer σ JoinRecord where
  start := ⟨[], [], false⟩
  field x x' y :=
    if y.handed then { y with late := y.late ++ r.brought x x' }
    else { y with early := y.early ++ r.brought x x' }
  joins y := { y with handed := true }

/-- The hooks add joins to those that wait, and drop none. -/
def Resolver.Retains (r : Resolver σ) : Prop :=
  ∀ x y, r.Moves x y → (r.joins x).1 <+: (r.joins y).1

theorem mem_intercalate {text : String} {texts : List String} (h : text ∈ texts) :
    ∃ before after, "".intercalate texts = before ++ text ++ after := by
  induction texts with
  | nil => cases h
  | cons first rest ih =>
    have hcons : "".intercalate (first :: rest) = first ++ "".intercalate rest := by
      cases rest with
      | nil => rw [String.intercalate_singleton, String.intercalate_nil, String.append_empty]
      | cons second rest => rw [String.intercalate_cons_cons, String.append_empty]
    rw [hcons]
    rcases List.mem_cons.1 h with rfl | h
    · exact ⟨"", "".intercalate rest, by rw [String.empty_append]⟩
    · obtain ⟨before, after, hrest⟩ := ih h
      exact ⟨first ++ before, after, by simp only [hrest, String.append_assoc]⟩

theorem mem_unseen {α : Type} (key? : α → Option String) {entries : List α} {a : α}
    (h : a ∈ entries) (seen : List String) :
    (∃ key ∈ seen, key? a = some key) ∨
      ∃ b ∈ unseen key? seen entries, b = a ∨ ∃ key, key? a = some key ∧ key? b = some key := by
  induction entries generalizing seen with
  | nil => cases h
  | cons first rest ih =>
    have hlift {others : List α} (hothers : ∃ b ∈ others, b = a ∨
          ∃ key, key? a = some key ∧ key? b = some key) :
        ∃ b ∈ first :: others, b = a ∨ ∃ key, key? a = some key ∧ key? b = some key := by
      obtain ⟨b, hb, hab⟩ := hothers
      exact ⟨b, List.mem_cons_of_mem _ hb, hab⟩
    rw [unseen]
    cases hkey : key? first with
    | none =>
      rcases List.mem_cons.1 h with rfl | h
      · exact .inr ⟨a, List.mem_cons_self .., .inl rfl⟩
      · exact (ih h seen).imp id hlift
    | some key =>
      simp only
      split
      · rename_i hseen
        rcases List.mem_cons.1 h with rfl | h
        · exact .inl ⟨key, List.contains_iff_mem.1 hseen, hkey⟩
        · exact ih h seen
      · rcases List.mem_cons.1 h with rfl | h
        · exact .inr ⟨a, List.mem_cons_self .., .inl rfl⟩
        · rcases ih h (key :: seen) with ⟨other, hother, ha⟩ | hothers
          · rcases List.mem_cons.1 hother with rfl | hother
            · exact .inr ⟨first, List.mem_cons_self .., .inr ⟨other, ha, hkey⟩⟩
            · exact .inl ⟨other, hother, ha⟩
          · exact .inr (hlift hothers)

namespace Scope

variable {s : Scope σ}

/-- A clause holds a join as it is rendered at some progress. -/
def Holds (s : Scope σ) (clause : String) (j : Join Query) : Prop :=
  ∃ p p' text before after, s.join j p = .ok text p' ∧ clause = before ++ text ++ after

theorem joinsClause_ok {select : Select Query} {p p' : Progress σ} {sql : String}
    (h : s.joinsClause select p = .ok sql p') :
    ∃ parts j, sql = "".intercalate parts ∧
      (unseen (·.table.key?) (select.tables.filterMap TableRef.key?)
        (select.joins ++ (s.compiler.resolver.joins p.state).1)).mapM s.join
        { p with journal := j, state := (s.compiler.resolver.joins p.state).2 } = .ok parts p' := by
  have himplied : s.impliedJoins p = .ok (s.compiler.resolver.joins p.state).1
      { p with
        journal := p.journal ++ [.asked .joins]
        state := (s.compiler.resolver.joins p.state).2 } := rfl
  rw [joinsClause, bind_of_ok himplied] at h
  obtain ⟨parts, q, hparts, h⟩ := ok_of_bind h
  injection h with hsql hq
  subst hsql hq
  exact ⟨parts, _, rfl, hparts⟩

/-- A clause of joins holds each implied join, or another of the same key, unless the key is that
of a table in FROM. -/
theorem joinsClause_holds {select : Select Query} {p p' : Progress σ} {sql : String}
    (h : s.joinsClause select p = .ok sql p') {j : Join Query}
    (hj : j ∈ (s.compiler.resolver.joins p.state).1) :
    (∃ key ∈ select.tables.filterMap TableRef.key?, j.table.key? = some key) ∨
      ∃ k, s.Holds sql k ∧
        (k = j ∨ ∃ key, j.table.key? = some key ∧ k.table.key? = some key) := by
  obtain ⟨parts, journal, rfl, hparts⟩ := joinsClause_ok h
  refine (mem_unseen (fun j : Join Query => j.table.key?)
    (List.mem_append_right select.joins hj) _).imp id ?_
  rintro ⟨k, hk, hkj⟩
  obtain ⟨text, htext, x, y, hrun⟩ := forall₂_exists (forall₂_of_mapM hparts).flip hk
  obtain ⟨before, after, hclause⟩ := mem_intercalate htext
  exact ⟨k, ⟨x, y, text, before, after, hrun, hclause⟩, hkj⟩

end Scope

/-- The joins brought in so far wait, and none has been handed over. -/
def Resolver.Waits (r : Resolver σ) (x : σ × JoinRecord) : Prop :=
  x.2.handed = false ∧ ∀ j ∈ x.2.early, j ∈ (r.joins x.1).1

/-- The joins brought in by fields were the given ones when they were handed over. -/
def JoinRecord.Settled (early : List (Join Query)) (x : σ × JoinRecord) : Prop :=
  x.2.handed = true ∧ x.2.early = early

namespace Scope

variable {s : Scope σ}

/-- What holds of the joins brought in so far and those that wait, if neither what comes behind
those that wait nor what comes behind both undoes it, holds along every rendering until the joins
are handed over. -/
theorem along_gathering (hr : s.compiler.resolver.Retains)
    {I : List (Join Query) → List (Join Query) → Prop}
    (hbehind : ∀ {early waiting} others, I early waiting → I early (waiting ++ others))
    (hboth : ∀ {early waiting} others, I early waiting → I (early ++ others) (waiting ++ others)) :
    ((Observer.joinRecord s.compiler.resolver).scope s).Along fun x y =>
      (x.2.handed = false ∧ I x.2.early (s.compiler.resolver.joins x.1).1) →
        (y.2.handed = false ∧ I y.2.early (s.compiler.resolver.joins y.1).1) := by
  have hgrow {x x' : σ} {early} (hmove : s.compiler.resolver.Moves x x')
      (h : I early (s.compiler.resolver.joins x).1) : I early (s.compiler.resolver.joins x').1 := by
    obtain ⟨others, hothers⟩ := hr x x' hmove
    exact hothers ▸ hbehind others h
  apply Observer.scope_keeps
  · exact fun x x' _ hmove h => ⟨h.1, hgrow hmove h.2⟩
  · rintro x x' record hmove ⟨hhanded, h⟩
    obtain ⟨others, hothers⟩ := hr x x' hmove
    have hbrought : s.compiler.resolver.brought x x' = others := by
      rw [Resolver.brought, ← hothers, List.drop_left]
    have hfield : (Observer.joinRecord s.compiler.resolver).field x x' record =
        { record with early := record.early ++ others } := by
      change (if record.handed then _ else _) = _
      rw [if_neg (Bool.eq_false_iff.1 hhanded), hbrought]
    rw [hfield, ← hothers]
    exact ⟨hhanded, hboth others h⟩
  · exact fun _ _ x x' _ hmove h => ⟨h.1, hgrow hmove h.2⟩

theorem along_waits (hr : s.compiler.resolver.Retains) :
    ((Observer.joinRecord s.compiler.resolver).scope s).Along fun x y =>
      s.compiler.resolver.Waits x → s.compiler.resolver.Waits y := by
  apply along_gathering hr (I := fun early waiting => ∀ j ∈ early, j ∈ waiting)
  · exact fun others h j hj => List.mem_append_left others (h j hj)
  · intro early waiting others h j hj
    rw [List.mem_append] at hj ⊢
    exact hj.imp (h j) id

theorem along_inOrder (hr : s.compiler.resolver.Retains) :
    ((Observer.joinRecord s.compiler.resolver).scope s).Along fun x y =>
      (x.2.handed = false ∧ x.2.early.Sublist (s.compiler.resolver.joins x.1).1) →
        (y.2.handed = false ∧ y.2.early.Sublist (s.compiler.resolver.joins y.1).1) :=
  along_gathering hr (fun _ h => h.trans (List.sublist_append_left ..))
    fun others h => h.append_right others

theorem along_settled (s : Scope σ) (early : List (Join Query)) :
    ((Observer.joinRecord s.compiler.resolver).scope s).Along fun x y =>
      JoinRecord.Settled early x → JoinRecord.Settled early y := by
  apply Observer.scope_keeps
  · exact fun _ _ _ _ => id
  · rintro x x' record _ ⟨hhanded, hearly⟩
    change JoinRecord.Settled early (x', if record.handed then _ else _)
    rw [if_pos hhanded]
    exact ⟨hhanded, hearly⟩
  · exact fun _ _ _ _ _ _ => id

theorem tablesAlong_record (s : Scope σ) :
    ((Observer.joinRecord s.compiler.resolver).scope s).TablesAlong fun x y => x.2 = y.2 where
  refl _ := rfl
  trans := Eq.trans
  table t x := by
    change x.2 = (endState (Hook.watched (s.compiler.resolver.table t) (fun _ _ _ y => y)
      (x.1, x.2))).2
    exact Hook.endState_watched (P := fun z => x.2 = z.2) (fun _ _ _ => rfl) fun _ _ _ => rfl

end Scope

namespace Assemble

theorem clause_keeps {I : σ → Prop} {work : Render σ String}
    (h : work.Along fun x y => I x → I y) (cl : Clause) {a : Assembly σ}
    (ha : I a.progress.state) : I (endOf (clause cl work a)).progress.state := by
  cases hkept : a.cache.isMissing cl with
  | false =>
    rw [clause_of_kept hkept]
    exact ha
  | true =>
    have hend := h { a.progress with bound := [] } ha
    rw [clause_of_missing hkept]
    revert hend
    cases work { a.progress with bound := [] } <;> exact id

theorem clause_still_kept {cl : Clause} (hcl : cl ∉ Clause.joinDependent) {work : Render σ String}
    {a : Assembly σ} (h : Clause.joinDependent.any a.cache.isMissing = false) :
    Clause.joinDependent.any (endOf (clause cl work a)).cache.isMissing = false := by
  rw [List.any_eq_false] at h ⊢
  intro other hother
  have hslot : (endOf (clause cl work a)).cache.slot other = a.cache.slot other :=
    clause_slot fun heq => hcl (heq ▸ hother)
  rw [Cache.isMissing, hslot]
  exact h other hother

end Assemble

namespace Scope

open Assemble

variable {s : Scope σ}

/-- The clauses in front of the joins, in the order in which they are compiled. -/
def beforeJoins (s : Scope σ) (select : Select Query) : List (Work σ) :=
  [(.columns, s.columnsClause select),
   (.tables, s.tablesClause select.tables),
   (.groups, s.groupsClause select.groups),
   (.having, s.conditionsAfter " HAVING " select.having),
   (.orders, s.ordersClause select.orders),
   (.filters, s.conditionsAfter " WHERE " select.filters)]

theorem works_eq (s : Scope σ) (select : Select Query) :
    s.works select = s.beforeJoins select ++
      [(.joins, s.joinsClause select), (.lock, pure (s.lockClause select))] :=
  rfl

theorem beforeJoins_keeps {I : σ → Prop} (h : s.Along fun x y => I x → I y)
    (select : Select Query) {a : Assembly σ} (ha : I a.progress.state) :
    I (endOf (fill (s.beforeJoins select) a)).progress.state := by
  refine fill_keeps (I := fun b => I b.progress.state) (fun w hw b hb => ?_) ha
  simp only [beforeJoins, List.mem_cons, List.not_mem_nil, or_false] at hw
  rcases hw with rfl | rfl | rfl | rfl | rfl | rfl
  · exact clause_keeps (h.builds.columnsClause select) _ hb
  · exact clause_keeps (h.builds.tablesClause _) _ hb
  · exact clause_keeps (h.builds.groupsClause _) _ hb
  · exact clause_keeps (h.builds.conditionsAfter _ _) _ hb
  · exact clause_keeps (h.builds.ordersClause _) _ hb
  · exact clause_keeps (h.builds.conditionsAfter _ _) _ hb

theorem fill_lock {select : Select Query} {a b : Assembly σ}
    (h : fill [(.lock, (pure (s.lockClause select) : Render σ String))] a = .ok () b) :
    b.cache.slot .joins = a.cache.slot .joins ∧ b.progress.state = a.progress.state := by
  have hslot : (endOf (fill [(.lock, (pure (s.lockClause select) : Render σ String))] a)).cache.slot
      .joins = a.cache.slot .joins := fill_slot (by simp)
  have hstate : (endOf (fill [(.lock, (pure (s.lockClause select) : Render σ String))]
      a)).progress.state = a.progress.state := by
    refine fill_keeps (I := fun b => b.progress.state = a.progress.state) (fun w hw b hb => ?_) rfl
    rw [List.mem_singleton.1 hw]
    exact clause_keeps (I := fun x => x = a.progress.state) (fun _ => id) .lock hb
  rw [h] at hslot hstate
  exact ⟨hslot, hstate⟩

theorem fill_joins {select : Select Query} {a b : Assembly σ}
    (hmissing : a.cache.isMissing .joins = true) (h : fill (s.works select) a = .ok () b) :
    ∃ c sql p, fill (s.beforeJoins select) a = .ok () c ∧
      s.joinsClause select { c.progress with bound := [] } = .ok sql p ∧
      (b.cache.slot .joins).fragment = some sql ∧ b.progress.state = p.state := by
  rw [works_eq] at h
  obtain ⟨c, sql, p, hbefore, hjoins, h⟩ := fill_missing hmissing (by simp [beforeJoins]) h
  obtain ⟨hslot, hstate⟩ := fill_lock h
  refine ⟨c, sql, p, hbefore, hjoins, ?_, hstate⟩
  rw [hslot, Cache.slot_put_self]

/-- The joins that the fields of a SELECT bring in while it is assembled. -/
def joinRecord (s : Scope σ) (select : Select Query) (a : Assembly σ) : JoinRecord :=
  (endOf (((Observer.joinRecord s.compiler.resolver).scope s).select select
    ⟨a.cache, a.progress.noting ⟨[], [], false⟩⟩)).progress.state.2

theorem holds_of_observed {τ : Type} {o : Observer σ τ} {clause : String} {j : Join Query}
    (h : (o.scope s).Holds clause j) : s.Holds clause j := by
  obtain ⟨p, p', text, before, after, hrun, hclause⟩ := h
  have hbeside := ((o.scope_beside s).join j).lockstep p ⟨p.state.1, p.pending, p.bound, p.journal⟩
    ⟨rfl, rfl, rfl⟩
  obtain ⟨_, q, hq, rfl, _⟩ := hbeside.of_ok hrun
  exact ⟨_, q, text, before, after, hq, hclause⟩

theorem early_of_joins {s : Scope σ} {select : Select Query}
    {p p' : Progress (σ × JoinRecord)} {sql : String}
    (h : ((Observer.joinRecord s.compiler.resolver).scope s).joinsClause select p = .ok sql p') :
    p'.state.2.early = p.state.2.early := by
  obtain ⟨parts, journal, _, hparts⟩ := joinsClause_ok h
  have halong := along_settled s p.state.2.early
  have hsettled := halong.builds.mapM halong.builds.join
    (unseen (·.table.key?) (select.tables.filterMap TableRef.key?) (select.joins ++
      (((Observer.joinRecord s.compiler.resolver).scope s).compiler.resolver.joins p.state).1))
    { p with
      journal := journal
      state :=
        (((Observer.joinRecord s.compiler.resolver).scope s).compiler.resolver.joins p.state).2 }
    ⟨rfl, rfl⟩
  rw [hparts] at hsettled
  exact hsettled.2

theorem record_of_kept (s : Scope σ) (select : Select Query) {a : Assembly (σ × JoinRecord)}
    (hkept : Clause.joinDependent.any a.cache.isMissing = false) :
    (endOf (fill (((Observer.joinRecord s.compiler.resolver).scope s).works select)
      a)).progress.state.2 = a.progress.state.2 := by
  have hkeeps : (endOf (fill (((Observer.joinRecord s.compiler.resolver).scope s).works select)
      a)).progress.state.2 = a.progress.state.2 ∧ Clause.joinDependent.any
        (endOf (fill (((Observer.joinRecord s.compiler.resolver).scope s).works select)
          a)).cache.isMissing = false := by
    refine fill_keeps (I := fun b => b.progress.state.2 = a.progress.state.2 ∧
      Clause.joinDependent.any b.cache.isMissing = false) ?_ ⟨rfl, hkept⟩
    rintro w hw b ⟨hrecord, hb⟩
    rcases works_cases hw with hjoins | rfl | rfl
    · have hclause : b.cache.isMissing w.1 = false :=
        Bool.eq_false_iff.2 (List.any_eq_false.1 hb w.1 hjoins)
      rw [clause_of_kept hclause]
      exact ⟨hrecord, hb⟩
    · have htables := (tablesAlong_record s).builds.tablesClause select.tables
      refine ⟨?_, clause_still_kept (by simp [Clause.joinDependent]) hb⟩
      exact clause_keeps (I := fun x : σ × JoinRecord => x.2 = a.progress.state.2)
        (fun p hp => (htables p).symm.trans hp) .tables hrecord
    · refine ⟨?_, clause_still_kept (by simp [Clause.joinDependent]) hb⟩
      exact clause_keeps (I := fun x : σ × JoinRecord => x.2 = a.progress.state.2) (fun _ => id)
        .lock hrecord
  exact hkeeps.1

/-- The clause of joins that an observed assembly comes to holds what fields brought in before the
joins were rendered. -/
theorem fill_holds_implied (hr : s.compiler.resolver.Retains) {select : Select Query}
    {a b : Assembly (σ × JoinRecord)} (ha : a.progress.state.2 = ⟨[], [], false⟩)
    (h : fill (((Observer.joinRecord s.compiler.resolver).scope s).works select) (dropped a) =
      .ok () b) :
    ∀ j ∈ b.progress.state.2.early,
      (∃ key ∈ select.tables.filterMap TableRef.key?, j.table.key? = some key) ∨
        ∃ clause k, b.cache.joins.fragment = some clause ∧ s.Holds clause k ∧
          (k = j ∨ ∃ key, j.table.key? = some key ∧ k.table.key? = some key) := by
  intro j hj
  cases hany : Clause.joinDependent.any a.cache.isMissing with
  | true =>
    rw [dropped, if_pos hany] at h
    have hmissing : (a.cache.discard Clause.joinDependent).isMissing .joins = true := by
      rw [Cache.isMissing, Cache.slot_discard, if_pos (by decide)]
      rfl
    obtain ⟨c, clause, p, hc, hjoins, hclause, hstate⟩ := fill_joins hmissing h
    have hnone : s.compiler.resolver.Waits a.progress.state := by
      refine ⟨by rw [ha], fun k hk => ?_⟩
      rw [ha] at hk
      cases hk
    have hwaits := beforeJoins_keeps (along_waits hr) select
      (a := { a with cache := a.cache.discard Clause.joinDependent }) hnone
    rw [hc] at hwaits
    rw [hstate, early_of_joins hjoins] at hj
    refine (joinsClause_holds hjoins (hwaits.2 j hj)).imp id ?_
    rintro ⟨k, hholds, hkj⟩
    exact ⟨clause, k, hclause, holds_of_observed hholds, hkj⟩
  | false =>
    rw [dropped, if_neg (Bool.eq_false_iff.1 hany)] at h
    have hrecord := record_of_kept s select hany
    rw [h, ha] at hrecord
    rw [show b.progress.state.2 = _ from hrecord] at hj
    cases hj

/-- No join that a field brings in is lost, if it is brought in before the joins are rendered: the
clause of joins holds it, or another join of the same key, unless a table in FROM has its key. -/
theorem select_holds_implied (hr : s.compiler.resolver.Retains) {select : Select Query}
    {a b : Assembly σ} {sql : String} (h : s.select select a = .ok sql b) :
    ∀ j ∈ (s.joinRecord select a).early,
      (∃ key ∈ select.tables.filterMap TableRef.key?, j.table.key? = some key) ∨
        ∃ clause k, b.cache.joins.fragment = some clause ∧ s.Holds clause k ∧
          (k = j ∨ ∃ key, j.table.key? = some key ∧ k.table.key? = some key) := by
  have hbeside := ((Observer.joinRecord s.compiler.resolver).scope_beside s).select select
  have hstep := hbeside.lockstep ⟨a.cache, a.progress.noting ⟨[], [], false⟩⟩ a
    ⟨rfl, rfl, rfl, rfl⟩
  rcases hstep.both with ⟨_, _, B, _, hB, hb, rfl, hBb⟩ | ⟨_, _, _, _, hb⟩
  · rw [h] at hb
    injection hb with _ hb
    subst hb
    rw [joinRecord, hB, ← hBb.cache]
    rw [select_eq] at hB
    cases hfill : fill (((Observer.joinRecord s.compiler.resolver).scope s).works select)
        (dropped ⟨a.cache, a.progress.noting ⟨[], [], false⟩⟩) with
    | error e C =>
      rw [hfill] at hB
      cases hB
    | ok _ C =>
      rw [hfill] at hB
      injection hB with _ hB
      subst hB
      exact fill_holds_implied hr rfl hfill
  · rw [h] at hb
    cases hb

end Scope

/-- The resolver that knows fields of related tables: each has a column, and brings in a join. -/
def Resolver.related (relations : List (String × String × Join Query)) :
    Resolver (List (Join Query)) where
  start := []
  field name type waiting :=
    match relations.lookup name with
    | some (column, join) => .ok ⟨column, type⟩ (waiting ++ [join])
    | none => .ok ⟨name, type⟩ waiting
  joins waiting := (waiting, [])

theorem Resolver.related_retains (relations : List (String × String × Join Query)) :
    (related relations).Retains := by
  intro x y h
  cases h with
  | field name type =>
    simp only [related]
    cases relations.lookup name with
    | none => exact List.prefix_refl x
    | some relation => exact List.prefix_append x _
  | table t => exact List.prefix_refl x
  | condition c => exact List.prefix_refl x

namespace Scope

/-- A scope in which authors are joined on their countries, which are another related table. -/
def books : Scope (List (Join Query)) where
  compiler :=
    { connection := ⟨"default", "mysql", none⟩
      platform := Dialect.mysql.platform
      types := .builtins
      resolver := .related
        [("author.name", "authors.name", ⟨.left, .table "authors",
          [.compare "author.country" "=" (.fragment (.ofColumn "country.code" none))]⟩),
         ("country.code", "countries.code", ⟨.inner, .table "countries", []⟩)] }
  quoted := false
  database := none
  nested _ q := ⟨.error (.exceeded .nesting), q.cache, []⟩

def byAuthor : Select Query where
  columns := [.named "title"]
  tables := [.table "books"]
  orders := [⟨"author.name", .ascending⟩]

theorem books_select : ∃ b, books.select byAuthor ⟨.begun, ⟨[], [], [], []⟩⟩ =
      .ok ("SELECT title FROM books LEFT JOIN authors ON author.country = countries.code " ++
        "ORDER BY authors.name ASC") b ∧
    b.cache.joins.fragment = some " LEFT JOIN authors ON author.country = countries.code" := by
  have htext : (books.select byAuthor).run' ⟨.begun, ⟨[], [], [], []⟩⟩ =
      some ("SELECT title FROM books LEFT JOIN authors ON author.country = countries.code " ++
        "ORDER BY authors.name ASC") := by cbv
  have hclause : (Assemble.endOf (books.select byAuthor
      ⟨.begun, ⟨[], [], [], []⟩⟩)).cache.joins.fragment =
      some " LEFT JOIN authors ON author.country = countries.code" := by cbv
  rw [EStateM.run', EStateM.run] at htext
  cases hrun : books.select byAuthor ⟨.begun, ⟨[], [], [], []⟩⟩ with
  | ok sql b =>
    rw [hrun] at htext hclause
    obtain rfl := Option.some.inj htext
    exact ⟨b, rfl, hclause⟩
  | error e b =>
    rw [hrun] at htext
    cases htext

theorem books_holds_authors : ∃ b clause k,
    books.select byAuthor ⟨.begun, ⟨[], [], [], []⟩⟩ =
      .ok ("SELECT title FROM books LEFT JOIN authors ON author.country = countries.code " ++
        "ORDER BY authors.name ASC") b ∧
    b.cache.joins.fragment = some clause ∧ books.Holds clause k ∧
    k.table.key? = some "authors" := by
  obtain ⟨b, hb, _⟩ := books_select
  have hearly : (books.joinRecord byAuthor ⟨.begun, ⟨[], [], [], []⟩⟩).early =
      [⟨.left, .table "authors",
        [.compare "author.country" "=" (.fragment (.ofColumn "country.code" none))]⟩] := by cbv
  rcases select_holds_implied (Resolver.related_retains _) hb _
    (hearly ▸ List.mem_singleton_self _) with ⟨key, hkey, hauthors⟩ | ⟨clause, k, hclause, hk, hkj⟩
  · have hbooks : key ∈ ["books"] := hkey
    have hkeys : some "authors" = some key := hauthors
    rw [List.mem_singleton.1 hbooks] at hkeys
    simp at hkeys
  · refine ⟨b, clause, k, hb, hclause, hk, ?_⟩
    rcases hkj with rfl | ⟨key, hauthors, hkey⟩
    · rfl
    · exact hkey.trans hauthors.symm

/-- The condition of a join brings in another join when it is too late. -/
theorem books_lacks_countries : ∃ b clause,
    books.select byAuthor ⟨.begun, ⟨[], [], [], []⟩⟩ =
      .ok ("SELECT title FROM books LEFT JOIN authors ON author.country = countries.code " ++
        "ORDER BY authors.name ASC") b ∧
    b.cache.joins.fragment = some clause ∧
    ∃ j ∈ (books.joinRecord byAuthor ⟨.begun, ⟨[], [], [], []⟩⟩).late,
      j.table.key? = some "countries" ∧ ¬ books.Holds clause j := by
  obtain ⟨b, hb, hclause⟩ := books_select
  have hlate : (books.joinRecord byAuthor ⟨.begun, ⟨[], [], [], []⟩⟩).late =
      [⟨.inner, .table "countries", []⟩] := by cbv
  refine ⟨b, _, hb, hclause, _, hlate ▸ List.mem_singleton_self _, rfl, ?_⟩
  rintro ⟨p, p', text, before, after, hrun, happend⟩
  have htext : (books.join ⟨.inner, .table "countries", []⟩).run' p =
      some " INNER JOIN countries" := by cbv
  rw [EStateM.run', EStateM.run, hrun] at htext
  obtain rfl := Option.some.inj htext
  -- The letter is in the text of the join, but not in the clause.
  have hletter : " LEFT JOIN authors ON author.country = countries.code".toList.contains 'R' =
      false := by cbv
  rw [happend] at hletter
  simp at hletter

end Scope

end ParamSql
