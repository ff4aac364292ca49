import ParamSql.Proofs.Clean
import ParamSql.Proofs.Inline

namespace ParamSql

theorem Text.mem_of_mem_cut {sep : Char} {cs segment : List Char} (h : segment ∈ cut sep cs)
    {c : Char} (hc : c ∈ segment) : c ∈ cs := by
  induction cs generalizing segment with
  | nil =>
    rw [cut, List.mem_singleton] at h
    rw [h] at hc
    exact hc
  | cons first rest ih =>
    rw [cut] at h
    split at h
    · rcases List.mem_cons.1 h with rfl | h
      · exact absurd hc List.not_mem_nil
      · exact List.mem_cons_of_mem _ (ih h hc)
    · split at h
      · rw [List.mem_singleton.1 h] at hc
        exact (List.mem_singleton.1 hc) ▸ List.mem_cons_self ..
      · rename_i head tail hcut
        rcases List.mem_cons.1 h with rfl | h
        · rcases List.mem_cons.1 hc with rfl | hc
          · exact List.mem_cons_self ..
          · exact List.mem_cons_of_mem _ (ih (by rw [hcut]; exact List.mem_cons_self ..) hc)
        · exact List.mem_cons_of_mem _ (ih (by rw [hcut]; exact List.mem_cons_of_mem _ h) hc)

theorem Text.mem_of_mem_doubled {p : Char → Bool} {cs : List Char} {c : Char}
    (h : c ∈ doubled p cs) : c ∈ cs := by
  induction cs with
  | nil => exact h
  | cons first rest ih =>
    rw [doubled] at h
    split at h <;> simp only [List.mem_cons] at h ⊢
    · exact h.elim .inl fun h => h.imp id ih
    · exact h.imp id ih

theorem Text.plain_segment {sep : Char} {s segment : String} (hs : Plain s)
    (h : segment ∈ segments sep s) : Plain segment := by
  obtain ⟨cs, hcs, rfl⟩ := List.mem_map.1 h
  rw [Plain, String.toList_ofList]
  exact fun hmem => hs (mem_of_mem_cut hcs hmem)

theorem Text.plain_lastSegment {sep : Char} {s : String} (hs : Plain s) :
    Plain (lastSegment sep s) := by
  unfold lastSegment
  cases hlast : (segments sep s).getLast? with
  | none => decide
  | some segment => exact plain_segment hs (List.mem_of_getLast? hlast)

theorem Dialect.plain_quoteName (d : Dialect) (quoted : Bool) {name : String} (h : Plain name) :
    Plain (d.platform.quoteName quoted name) := by
  unfold Platform.quoteName
  cases quoted with
  | false => exact h
  | true =>
    apply Plain.intercalate (by decide)
    intro s hs
    obtain ⟨segment, hsegment, rfl⟩ := List.mem_map.1 hs
    have hplain := Text.plain_segment h hsegment
    unfold Platform.quoteSegment
    split
    · exact hplain
    · change Plain (String.ofList (Text.delimited d.identifierQuote _ segment.toList))
      have hquote : '?' ≠ d.identifierQuote := by cases d <;> decide
      rw [Plain, String.toList_ofList, Text.delimited, List.mem_append, List.mem_cons, not_or,
        not_or, List.mem_singleton]
      exact ⟨⟨hquote, fun hmem => hplain (Text.mem_of_mem_doubled hmem)⟩, hquote⟩

theorem Platform.BuiltIn.plain_aggregate {p : Platform} (hp : p.BuiltIn)
    (function : AggregateFunction) {column : String} (h : Plain column) :
    Plain (p.aggregate function column) := by
  obtain ⟨d, rfl⟩ := hp
  refine (Plain.append (Plain.append ?_ (by decide)) h).append (by decide)
  cases function <;> decide

variable {σ : Type}

/-- A resolver whose hooks give plain names and statements of plain names for such, and keep an
invariant of its states. -/
structure Resolver.Clean (r : Resolver σ) (I : σ → Prop) : Prop where
  start : I r.start
  select {s t : Select Query} {x y : σ} : s.Clean Query.Clean → I x → r.select s x = .ok t y →
    t.Clean Query.Clean ∧ I y
  insert {s t : Insert Query} {x y : σ} : s.Clean Query.Clean → I x → r.insert s x = .ok t y →
    t.Clean Query.Clean ∧ I y
  update {s t : Update Query} {x y : σ} : s.Clean Query.Clean → I x → r.update s x = .ok t y →
    t.Clean Query.Clean ∧ I y
  delete {s t : Delete Query} {x y : σ} : s.Clean Query.Clean → I x → r.delete s x = .ok t y →
    t.Clean Query.Clean ∧ I y
  field {name : String} {type : Option TypeName} {f : Field} {x y : σ} : Plain name → I x →
    r.field name type x = .ok f y → Plain f.name ∧ I y
  table {t u : TableRef Query} {x y : σ} : t.Clean Query.Clean → I x → r.table t x = .ok u y →
    u.Clean Query.Clean ∧ I y
  root {x : σ} {name : String} : I x → r.root x = some name → Plain name
  condition {c : Condition Query} {d : Condition Query × List (Condition Query)} {x y : σ} :
    c.Clean Query.Clean → I x → r.condition c x = .ok d y →
    (d.1.Clean Query.Clean ∧ ∀ e ∈ d.2, e.Clean Query.Clean) ∧ I y
  joins {x : σ} : I x → (∀ j ∈ (r.joins x).1, j.Clean Query.Clean) ∧ I (r.joins x).2

/-- The progress of a rendering with `base` bound and that of one with the values inline. -/
structure Progress.Twin (I : σ → Prop) (base : List Scalar) (p q : Progress σ) : Prop where
  state : p.state = q.state
  pending : p.pending = q.pending
  bound : p.bound = base
  sound : I p.state
  clean : ∀ c ∈ p.pending, c.Clean Query.Clean

/-- The same result, with a property, and nothing bound. -/
abbrev Twins (I : σ → Prop) (base : List Scalar) {α : Type} (C : α → Prop) :
    α → α → Progress σ → Progress σ → Prop :=
  Ends (fun a b => a = b ∧ C a) (Progress.Twin I base)

/-- A text, and the same with the values inline that have been bound. -/
def Writes (I : σ → Prop) (base : List Scalar) (s : String) (m : Marked) (p q : Progress σ) :
    Prop :=
  Shows s m ∧ Progress.Twin I (base ++ m.values) p q

/-- A scope of a built-in dialect, with a resolver of plain names, in a database of a plain name. -/
structure Scope.Clean (s : Scope σ) (I : σ → Prop) : Prop where
  platform : s.compiler.platform.BuiltIn
  resolver : s.compiler.resolver.Clean I
  database : ∀ name ∈ s.database, Plain name

namespace Progress.Twin

variable {I : σ → Prop} {base : List Scalar} {α β : Type}

theorem modify {f g : Progress σ → Progress σ}
    (h : ∀ p q, Progress.Twin I base p q → Progress.Twin I base (f p) (g q)) :
    Lockstep True (Progress.Twin I base) (modify f : Render σ PUnit) (modify g)
      (Stays (Progress.Twin I base)) :=
  Render.lockstep_modify h

theorem note (e e' : Event) :
    Lockstep True (Progress.Twin I base) (Render.note e) (Render.note e')
      (Stays (Progress.Twin I base)) :=
  modify fun _ _ h => ⟨h.state, h.pending, h.bound, h.sound, h.clean⟩

theorem consult {C : α → Prop} {call : Call} {hook : Hook σ α}
    (h : ∀ x a y, I x → hook x = .ok a y → C a ∧ I y) :
    Lockstep True (Progress.Twin I base) (Render.consult call hook) (Render.consult call hook)
      (Twins I base C) := by
  intro p q hpq
  rw [Render.consult_eq, Render.consult_eq, ← hpq.state]
  cases hhook : hook p.state with
  | ok a y =>
    obtain ⟨hC, hI⟩ := h _ _ _ hpq.sound hhook
    exact .ok ⟨⟨rfl, hC⟩, rfl, hpq.pending, hpq.bound, hI, hpq.clean⟩
  | error e y => exact .error fun _ => rfl

theorem ask {C : α → Prop} {call : Call} {answer : Except CompileError α}
    (h : ∀ a, answer = .ok a → C a) :
    Lockstep True (Progress.Twin I base) (Render.ask call answer) (Render.ask call answer)
      (Twins I base C) := by
  apply (note _ _).next
  intro _ _ _
  cases answer with
  | ok a => exact .ends ⟨rfl, h a rfl⟩
  | error e => exact Render.lockstep_heed (.error fun _ => rfl)

theorem lift {C : α → Prop} {answer : Except CompileError α} (h : ∀ a, answer = .ok a → C a) :
    Lockstep True (Progress.Twin I base) (Render.lift answer) (Render.lift answer)
      (Twins I base C) := by
  cases answer with
  | ok a => exact .ends ⟨rfl, h a rfl⟩
  | error e => exact .throw fun _ => rfl

end Progress.Twin

section Rules

variable {I : σ → Prop} {base now : List Scalar} {α β γ δ : Type}
  {pre : Progress σ → Progress σ → Prop}

theorem Lockstep.nextTwin {C : α → Prop} {f g : Render σ α} {k : α → Render σ γ}
    {l : α → Render σ δ} {L : γ → δ → Progress σ → Progress σ → Prop}
    (h : Lockstep True pre f g (Twins I base C))
    (hk : ∀ a, C a → Lockstep True (Progress.Twin I base) (k a) (l a) L) :
    Lockstep True pre (f >>= k) (g >>= l) L := by
  apply h.next
  intro a b hab
  obtain ⟨rfl, hC⟩ := hab
  exact hk a hC

theorem Lockstep.nextBound {R : α → β → Prop} {V : β → List Scalar} {f : Render σ α}
    {g : Render σ β} {k : α → Render σ γ} {l : β → Render σ δ}
    {L : γ → δ → Progress σ → Progress σ → Prop}
    (h : Lockstep True pre f g fun a b p q => R a b ∧ Progress.Twin I (base ++ V b) p q)
    (hk : ∀ a b, R a b →
      Lockstep True (Progress.Twin I (base ++ V b)) (k a) (l b) L) :
    Lockstep True pre (f >>= k) (g >>= l) L :=
  h.bind fun a b p q hpq => hk a b hpq.1 p q hpq.2

theorem Lockstep.twins {C : α → Prop} {a : α} (h : C a) :
    Lockstep True (Progress.Twin I base) (Pure.pure a : Render σ α) (Pure.pure a)
      (Twins I base C) :=
  .ends ⟨rfl, h⟩

theorem Lockstep.writes {s : String} {m : Marked} (h : Shows s m)
    (hnow : now = base ++ m.values) :
    Lockstep True (Progress.Twin I now) (Pure.pure s : Render σ String) (Pure.pure m)
      (Writes I base) :=
  .pure fun _ _ hpq => ⟨h, hnow ▸ hpq⟩

theorem Lockstep.litWrites {f : Render σ String} (h : Lockstep True pre f f (Twins I base Plain)) :
    Lockstep True pre f (Marked.lit <$> f) (Writes I base) := by
  have hnext := h.nextTwin (k := Pure.pure) (l := fun s => Pure.pure (Marked.lit s))
    (L := Writes I base) fun s hs => .writes (.lit hs) (by simp)
  rw [bind_pure] at hnext
  rw [map_eq_pure_bind]
  exact hnext

theorem Lockstep.mapTwins {C : β → Prop} {as : List α} {k : α → Render σ β}
    (hk : ∀ a ∈ as, Lockstep True (Progress.Twin I base) (k a) (k a) (Twins I base C)) :
    Lockstep True (Progress.Twin I base) (as.mapM k) (as.mapM k)
      (Twins I base fun bs => ∀ b ∈ bs, C b) := by
  induction as with
  | nil =>
    rw [List.mapM_nil]
    exact .twins fun _ h => absurd h List.not_mem_nil
  | cons a as ih =>
    rw [List.mapM_cons]
    apply (hk a (List.mem_cons_self ..)).nextTwin
    intro b hb
    refine (ih fun a ha => hk a (List.mem_cons_of_mem _ ha)).nextTwin fun bs hbs => .twins ?_
    exact List.forall_mem_cons.2 ⟨hb, hbs⟩

theorem Lockstep.mapWrites {R : β → γ → Prop} {values : γ → List Scalar} {as : List α}
    {k : α → Render σ β} {l : α → Render σ γ}
    (hk : ∀ a ∈ as, ∀ base, Lockstep True (Progress.Twin I base) (k a) (l a)
      fun x y p q => R x y ∧ Progress.Twin I (base ++ values y) p q) (base : List Scalar) :
    Lockstep True (Progress.Twin I base) (as.mapM k) (as.mapM l)
      fun xs ys p q => List.Forall₂ R xs ys ∧ Progress.Twin I (base ++ ys.flatMap values) p q := by
  induction as generalizing base with
  | nil =>
    rw [List.mapM_nil, List.mapM_nil]
    exact .pure fun _ _ hpq => ⟨.nil, by rwa [List.flatMap_nil, List.append_nil]⟩
  | cons a as ih =>
    rw [List.mapM_cons, List.mapM_cons]
    apply (hk a (List.mem_cons_self ..) base).bind
    intro x y p q hxy
    refine Lockstep.bind (ih (fun a ha => hk a (List.mem_cons_of_mem _ ha)) (base ++ values y)) ?_
      p q hxy.2
    exact fun xs ys => .pure fun _ _ hpq =>
      ⟨.cons hxy.1 hpq.1, by rw [List.flatMap_cons, ← List.append_assoc]; exact hpq.2⟩

theorem Lockstep.mapTexts {as : List α} {k : α → Render σ String} {l : α → Render σ Marked}
    (hk : ∀ a ∈ as, ∀ base, Lockstep True (Progress.Twin I base) (k a) (l a) (Writes I base))
    (base : List Scalar) :
    Lockstep True (Progress.Twin I base) (as.mapM k) (as.mapM l) fun ss ms p q =>
      List.Forall₂ Shows ss ms ∧ Progress.Twin I (base ++ ms.flatMap Marked.values) p q :=
  Lockstep.mapWrites hk base

end Rules

namespace Scope.Clean

variable {s : Scope σ} {I : σ → Prop} (hs : s.Clean I) {base : List Scalar}

include hs

theorem quote {name : String} (h : Plain name) : Plain (s.quote name) := by
  obtain ⟨d, hd⟩ := hs.platform
  unfold Scope.quote Scope.platform
  rw [hd]
  exact d.plain_quoteName _ h

theorem aliased {word : String} (hword : Plain word) {label : Option String}
    (h : ∀ name ∈ label, Plain name) : Plain (s.aliased word label) := by
  cases label with
  | none => exact (by decide : Plain "")
  | some name => exact hword.append (hs.quote (h name rfl))

theorem tableName {name : String} (h : Plain name) : Plain (s.tableName name) := by
  unfold Scope.tableName
  split
  · rename_i database hdatabase
    split
    · exact hs.quote h
    · exact hs.quote (((hs.database database hdatabase).append (by decide)).append h)
  · exact hs.quote h

theorem column {name : String} (h : Plain name) :
    Lockstep True (Progress.Twin I base) (s.column name) (s.column name)
      (Twins I base fun f => Plain f.name) :=
  (Progress.Twin.consult fun _ _ _ hx hf => hs.resolver.field h hx hf).nextTwin
    fun _ hf => .twins (hs.quote hf)

theorem root : Lockstep True (Progress.Twin I base) s.root s.root
    (Twins I base fun table => ∀ name ∈ table, Plain name) := by
  apply (Progress.Twin.note _ _).next
  intro _ _ _ p q hpq
  have hroot : s.compiler.resolver.root p.state = s.compiler.resolver.root q.state := by
    rw [hpq.state]
  exact .ok ⟨⟨hroot, fun name hname => hs.resolver.root hpq.sound hname⟩, hpq⟩

theorem answer {f : Fragment} (h : f.Clean) :
    Lockstep True (Progress.Twin I base) (s.answer f) (s.answer f) (Twins I base Plain) := by
  induction h with
  | text h => exact .twins h
  | fail e => exact Render.lockstep_heed (.error fun _ => rfl)
  | column hname _ ih => exact (hs.column hname).nextTwin fun field hfield => ih _ hfield
  | root _ ih => exact hs.root.nextTwin ih
  | look _ ih => exact ih _ hs.platform fun _ => hs.quote

theorem fragment {f : Fragment} (h : f.Clean) :
    Lockstep True (Progress.Twin I base) (s.fragment f) (s.fragment f) (Twins I base Plain) :=
  (Progress.Twin.note _ _).next fun _ _ _ => hs.answer h

theorem resolveTable {t : TableRef Query} (h : t.Clean Query.Clean) :
    Lockstep True (Progress.Twin I base) (s.resolveTable t) (s.resolveTable t)
      (Twins I base fun u => u.Clean Query.Clean) :=
  Progress.Twin.consult fun _ _ _ hx hu => hs.resolver.table h hx hu

theorem resolveCondition {c : Condition Query} (h : c.Clean Query.Clean) :
    Lockstep True (Progress.Twin I base) (s.resolveCondition c) (s.resolveCondition c)
      (Twins I base fun d => d.Clean Query.Clean) := by
  refine (Progress.Twin.consult fun _ _ _ hx hd => hs.resolver.condition h hx hd).nextTwin
    fun d hd => ?_
  refine (Progress.Twin.modify fun p q hpq => ?_).next fun _ _ _ => .twins hd.1
  exact ⟨hpq.state, congrArg (· ++ d.2) hpq.pending, hpq.bound, hpq.sound,
    List.forall_mem_append.2 ⟨hpq.clean, hd.2⟩⟩

omit hs in
theorem takenBy (outermost : Bool) :
    Lockstep True (Progress.Twin I base) (takenBy outermost) (Scope.takenBy outermost)
      (Twins I base fun cs => ∀ c ∈ cs, c.Clean Query.Clean) := by
  cases outermost with
  | false => exact .twins fun _ h => absurd h List.not_mem_nil
  | true =>
    exact fun p q hpq => .ok ⟨⟨hpq.pending, hpq.clean⟩, hpq.state, rfl, hpq.bound, hpq.sound,
      fun _ h => absurd h List.not_mem_nil⟩

theorem impliedJoins :
    Lockstep True (Progress.Twin I base) s.impliedJoins s.impliedJoins
      (Twins I base fun js => ∀ j ∈ js, j.Clean Query.Clean) := by
  apply (Progress.Twin.note _ _).next
  intro _ _ _ p q hpq
  obtain ⟨hjoins, hI⟩ := hs.resolver.joins hpq.sound
  have hsame : s.compiler.resolver.joins p.state = s.compiler.resolver.joins q.state := by
    rw [hpq.state]
  exact .ok ⟨⟨congrArg Prod.fst hsame, hjoins⟩, congrArg Prod.snd hsame, hpq.pending, hpq.bound,
    hI, hpq.clean⟩

theorem aggregateColumn (distinct : Bool) {a : Aggregate} (h : Plain a.column) :
    Lockstep True (Progress.Twin I base) (s.aggregateColumn distinct a)
      (s.aggregateColumn distinct a) (Twins I base Plain) := by
  unfold Scope.aggregateColumn
  split
  · exact .twins (by decide)
  · refine (hs.column h).nextTwin fun field hfield => .twins (Plain.append ?_ hfield)
    cases distinct <;> decide

theorem projection {p : Projection} (h : p.Clean) :
    Lockstep True (Progress.Twin I base) (s.projection p) (s.projection p)
      (Twins I base Plain) := by
  obtain ⟨column, label⟩ := p
  obtain ⟨hcolumn, hlabel⟩ := h
  have haliased : Plain (s.aliased " AS " label) := hs.aliased (by decide) hlabel
  cases hcolumn with
  | name hname =>
    exact (hs.column hname).nextTwin fun _ hfield => .twins (Plain.append hfield haliased)
  | fragment hf => exact (hs.fragment hf).nextTwin fun _ hsql => .twins (hsql.append haliased)

theorem star : Lockstep True (Progress.Twin I base) s.star s.star (Twins I base Plain) := by
  apply hs.root.nextTwin
  intro table htable
  cases table with
  | none => exact .twins (by decide)
  | some name => exact .twins ((hs.quote (htable name rfl)).append (by decide))

theorem columnsClause {select : Select Query} (h : select.Clean Query.Clean) :
    Lockstep True (Progress.Twin I base) (s.columnsClause select) (s.columnsClause select)
      (Twins I base Plain) := by
  have haggregate := h.aggregate
  unfold Scope.columnsClause
  cases hselect : select.aggregate with
  | some a =>
    refine (hs.aggregateColumn _ (haggregate a hselect)).nextTwin fun column hcolumn => .twins ?_
    exact (Plain.append (by decide) (hs.platform.plain_aggregate _ hcolumn)).append (by decide)
  | none =>
    have hverb : Plain (if (select.distinct && s.platform.isKeyword "DISTINCT") = true then
        "SELECT DISTINCT " else "SELECT ") := by
      split <;> decide
    simp only
    split
    · exact hs.star.nextTwin fun columns hcolumns => .twins (hverb.append hcolumns)
    · rw [map_eq_pure_bind]
      refine Lockstep.nextTwin (C := Plain) ?_ fun columns hcolumns =>
        .twins (hverb.append hcolumns)
      refine (Lockstep.mapTwins fun p hp => hs.projection (h.columns p hp)).nextTwin
        fun parts hparts => .twins (Plain.intercalate (by decide) hparts)

theorem groupsClause {groups : List String} (h : ∀ name ∈ groups, Plain name) :
    Lockstep True (Progress.Twin I base) (s.groupsClause groups) (s.groupsClause groups)
      (Twins I base Plain) := by
  unfold Scope.groupsClause
  split
  · exact .twins (by decide)
  · refine (Lockstep.mapTwins fun name hname => hs.column (h name hname)).nextTwin
      fun fields hfields => .twins (Plain.append (by decide) (Plain.intercalate (by decide) ?_))
    exact List.forall_mem_map.2 hfields

theorem order {o : Order} (h : Plain o.column) :
    Lockstep True (Progress.Twin I base) (s.order o) (s.order o) (Twins I base Plain) := by
  refine (hs.column h).nextTwin fun field hfield => .twins ((hfield.append (by decide)).append ?_)
  cases o.direction <;> decide

theorem ordersClause {orders : List Order} (h : ∀ o ∈ orders, Plain o.column) :
    Lockstep True (Progress.Twin I base) (s.ordersClause orders) (s.ordersClause orders)
      (Twins I base Plain) := by
  unfold Scope.ordersClause
  split
  · exact .twins (by decide)
  · exact (Lockstep.mapTwins fun o ho => hs.order (h o ho)).nextTwin fun parts hparts =>
      .twins (Plain.append (by decide) (Plain.intercalate (by decide) hparts))

theorem target (kind : StatementKind) {t : Option (TableRef Query)}
    (h : ∀ u ∈ t, u.Clean Query.Clean) :
    Lockstep True (Progress.Twin I base) (s.target kind t) (s.target kind t)
      (Twins I base Plain) := by
  cases t with
  | none => exact .throw fun _ => rfl
  | some t =>
    apply (hs.resolveTable (h t rfl)).nextTwin
    intro u hu
    obtain ⟨source, label⟩ := u
    cases hu.source with
    | name hname =>
      simp only
      split
      · exact .throw fun _ => rfl
      · exact .twins (hs.tableName hname)
    | query _ => exact .throw fun _ => rfl

omit hs in
theorem bind (type : Option TypeName) (converted : Bool) (v : Value) :
    Lockstep True (Progress.Twin I base) (s.bind type converted v) (s.scalar type converted v)
      fun _ x => Progress.Twin I (base ++ [x]) := by
  have hscalar : Lockstep True (Progress.Twin I base) (s.scalar type converted v)
      (s.scalar type converted v) (Twins I base fun _ => True) := by
    unfold Scope.scalar
    cases converted with
    | false => exact Progress.Twin.ask fun _ _ => trivial
    | true =>
      simp only
      cases v.scalar? with
      | some x => exact .twins trivial
      | none => exact Progress.Twin.ask fun _ _ => trivial
  have hbind := hscalar.nextTwin (k := fun x => Render.bindAll [x]) (l := Pure.pure)
    (L := fun _ x => Progress.Twin I (base ++ [x])) fun x _ p q hpq =>
      .ok ⟨hpq.state, hpq.pending, congrArg (· ++ [x]) hpq.bound, hpq.sound, hpq.clean⟩
  rw [bind_pure] at hbind
  exact hbind

omit hs in
theorem bindAll (type : Option TypeName) (converted : Bool) (vs : List Value)
    (base : List Scalar) :
    Lockstep True (Progress.Twin I base) (vs.forM (s.bind type converted))
      (vs.mapM (s.scalar type converted)) fun _ xs p q =>
        xs.length = vs.length ∧ Progress.Twin I (base ++ xs) p q := by
  induction vs generalizing base with
  | nil =>
    rw [List.mapM_nil]
    exact .pure fun _ _ hpq => ⟨rfl, by rwa [List.append_nil]⟩
  | cons v vs ih =>
    rw [List.mapM_cons]
    apply (bind type converted v).bind
    intro _ x
    have hrest := (ih (base ++ [x])).bind (k := Pure.pure) (l := fun xs => Pure.pure (x :: xs))
      (L := fun _ xs p q => xs.length = (v :: vs).length ∧ Progress.Twin I (base ++ xs) p q)
      fun _ xs => .pure fun p q hpq => ⟨congrArg (· + 1) hpq.1, by
        rw [← List.append_cons] at hpq
        exact hpq.2⟩
    rw [bind_pure] at hrest
    exact hrest

theorem transformed {c : Comparison Query} (h : c.Clean Query.Clean) :
    Lockstep True (Progress.Twin I base) (s.transformed c) (s.transformed c)
      (Twins I base fun d => d.Clean Query.Clean) := by
  obtain ⟨column, operator, operand, converted⟩ := c
  obtain ⟨hcolumn, hoperand⟩ := h
  cases hoperand with
  | value v => exact .twins ⟨hcolumn, .value v⟩
  | query hq => exact .twins ⟨hcolumn, .query hq⟩
  | fragment hf => exact .twins ⟨hcolumn, .fragment hf⟩
  | transformer hcolumns hoperands =>
    refine (Progress.Twin.ask (C := fun t => Plain t.column ∧ t.operand.Clean Query.Clean)
      fun t ht => ⟨?_, ?_⟩).nextTwin fun t ht => .twins ⟨ht.1, ht.2⟩
    · exact hcolumns _ _ _ _ hcolumn hs.platform ht
    · exact hoperands _ _ _ _ hcolumn hs.platform ht

end Scope.Clean

end ParamSql
