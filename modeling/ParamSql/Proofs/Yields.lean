import ParamSql.Proofs.Guided
import ParamSql.Proofs.Runs
import ParamSql.Proofs.Safe

namespace ParamSql

variable {σ α β : Type} {R : String → Prop} {I : σ → Prop}

/-- A resolver whose hooks give safe statements for such and keep an invariant of its states; the
root table has a name in `R`. -/
structure Resolver.Safe (r : Resolver σ) (R : String → Prop) (I : σ → Prop) : Prop where
  start : I r.start
  select {s t : Select Query} {x y : σ} : s.Safe R (Query.Safe R) → I x →
    r.select s x = .ok t y → t.Safe R (Query.Safe R) ∧ I y
  insert {s t : Insert Query} {x y : σ} : s.Safe R (Query.Safe R) → I x →
    r.insert s x = .ok t y → t.Safe R (Query.Safe R) ∧ I y
  update {s t : Update Query} {x y : σ} : s.Safe R (Query.Safe R) → I x →
    r.update s x = .ok t y → t.Safe R (Query.Safe R) ∧ I y
  delete {s t : Delete Query} {x y : σ} : s.Safe R (Query.Safe R) → I x →
    r.delete s x = .ok t y → t.Safe R (Query.Safe R) ∧ I y
  field {name : String} {type : Option TypeName} {f : Field} {x y : σ} : I x →
    r.field name type x = .ok f y → I y
  table {t u : TableRef Query} {x y : σ} : t.Safe R (Query.Safe R) → I x →
    r.table t x = .ok u y → u.Safe R (Query.Safe R) ∧ I y
  root {x : σ} {name : String} : I x → r.root x = some name → R name
  condition {c : Condition Query} {d : Condition Query × List (Condition Query)} {x y : σ} :
    c.Safe R (Query.Safe R) → I x → r.condition c x = .ok d y →
    (d.1.Safe R (Query.Safe R) ∧ ∀ e ∈ d.2, e.Safe R (Query.Safe R)) ∧ I y
  joins {x : σ} : I x → (∀ j ∈ (r.joins x).1, j.Safe R (Query.Safe R)) ∧ I (r.joins x).2

theorem Resolver.declared_safe (types : List (String × TypeName)) (R : String → Prop) :
    (declared types).Safe R fun state => ∀ name ∈ state, R name := by
  have hremember {table : Option (TableRef Query)}
      (h : ∀ t ∈ table, t.Safe R (Query.Safe R)) : ∀ name ∈ table.bind TableRef.key?, R name := by
    cases table with
    | none => exact nofun
    | some t => exact (h t rfl).key
  refine ⟨nofun, ?_, ?_, ?_, ?_, ?_, ?_, fun hx hroot => hx _ hroot, ?_, fun hx => ⟨nofun, hx⟩⟩
  · rintro s _ _ _ hs _ ⟨⟩
    exact ⟨hs, hremember fun t ht => hs.tables t (List.mem_of_mem_head? ht)⟩
  · rintro s _ _ _ hs _ ⟨⟩
    exact ⟨hs, hremember hs.table⟩
  · rintro s _ _ _ hs _ ⟨⟩
    exact ⟨hs, hremember hs.table⟩
  · rintro s _ _ _ hs _ ⟨⟩
    exact ⟨hs, hremember hs.table⟩
  · rintro _ _ _ _ _ hx ⟨⟩
    exact hx
  · rintro t _ _ _ ht hx ⟨⟩
    exact ⟨ht, hx⟩
  · rintro d _ _ _ hd hx ⟨⟩
    exact ⟨⟨hd, nofun⟩, hx⟩

/-- A progress with safe conditions pending. -/
structure Progress.Safe (p : Progress σ) (R : String → Prop) (I : σ → Prop) : Prop where
  state : I p.state
  pending : ∀ c ∈ p.pending, c.Safe R (Query.Safe R)

/-- From a safe progress the rendering fails, or ends in a safe progress again with a result that
is in a relation to the values bound on the way. -/
def Render.Yields (R : String → Prop) (I : σ → Prop) (f : Render σ α)
    (L : α → List Scalar → Prop) : Prop :=
  ∀ p a q, p.Safe R I → f p = .ok a q → q.Safe R I ∧ ∃ xs, q.bound = p.bound ++ xs ∧ L a xs

/-- A result with a property, and no values. -/
def Free (C : α → Prop) (a : α) (xs : List Scalar) : Prop :=
  C a ∧ xs = []

theorem Each.free {C : α → Prop} {as : List α} {xs : List Scalar} (h : Each (Free C) as xs) :
    Free (fun as => ∀ a ∈ as, C a) as xs := by
  induction h with
  | nil => exact ⟨nofun, rfl⟩
  | cons ha _ ih =>
    obtain ⟨ha, rfl⟩ := ha
    obtain ⟨has, rfl⟩ := ih
    exact ⟨List.forall_mem_cons.2 ⟨ha, has⟩, rfl⟩

namespace Render.Yields

variable {f : Render σ α} {k : α → Render σ β} {L : β → List Scalar → Prop}
  {M : α → List Scalar → Prop} {C : α → Prop}

theorem pure {a : α} (h : M a []) : Yields R I (Pure.pure a) M := by
  rintro p _ _ hp ⟨⟩
  exact ⟨hp, [], (List.append_nil _).symm, h⟩

theorem throw (e : CompileError) : Yields R I (MonadExcept.throw e : Render σ α) M :=
  fun _ _ _ _ hok => nomatch hok

theorem bind (h : Yields R I f M)
    (hk : ∀ a xs, M a xs → Yields R I (k a) fun b ys => L b (xs ++ ys)) :
    Yields R I (f >>= k) L := by
  intro p b q hp hok
  change EStateM.bind f k p = _ at hok
  unfold EStateM.bind at hok
  cases hf : f p with
  | error e r =>
    rw [hf] at hok
    cases hok
  | ok a r =>
    rw [hf] at hok
    obtain ⟨hr, xs, hxs, ha⟩ := h p a r hp hf
    obtain ⟨hq, ys, hys, hb⟩ := hk a xs ha r b q hr hok
    refine ⟨hq, xs ++ ys, ?_, hb⟩
    rw [hys, hxs, List.append_assoc]

theorem next (h : Yields R I f (Free C)) (hk : ∀ a, C a → Yields R I (k a) L) :
    Yields R I (f >>= k) L := by
  apply h.bind
  rintro a _ ⟨ha, rfl⟩
  exact hk a ha

theorem last {g : α → β} (h : Yields R I f M) (hg : ∀ a xs, M a xs → L (g a) xs) :
    Yields R I (f >>= fun a => Pure.pure (g a)) L := by
  apply h.bind
  intro a xs ha
  apply pure
  rw [List.append_nil]
  exact hg a xs ha

theorem free {a : α} (h : C a) : Yields R I (Pure.pure a : Render σ α) (Free C) :=
  pure ⟨h, rfl⟩

theorem mapM {as : List α} (hk : ∀ a ∈ as, Yields R I (k a) L) :
    Yields R I (as.mapM k) (Each L) := by
  induction as with
  | nil =>
    rw [List.mapM_nil]
    exact pure .nil
  | cons a as ih =>
    rw [List.mapM_cons]
    rw [List.forall_mem_cons] at hk
    apply hk.1.bind
    intro b xs hb
    exact (ih hk.2).last fun bs ys hbs => .cons hb hbs

theorem mapFree {C : β → Prop} {as : List α} (hk : ∀ a ∈ as, Yields R I (k a) (Free C)) :
    Yields R I (as.mapM k) (Free fun bs => ∀ b ∈ bs, C b) := by
  have hlast := (mapM hk).last (g := id) fun bs xs hbs => hbs.free
  rwa [show (fun bs => Pure.pure (id bs)) = (Pure.pure : List β → Render σ (List β)) from rfl,
    bind_pure] at hlast

theorem note (e : Event) : Yields R I (Render.note e : Render σ Unit) (Free fun _ => True) := by
  rintro p _ _ hp ⟨⟩
  exact ⟨⟨hp.state, hp.pending⟩, [], (List.append_nil _).symm, trivial, rfl⟩

theorem consult {call : Call} {hook : Hook σ α}
    (h : ∀ x a y, I x → hook x = .ok a y → C a ∧ I y) :
    Yields R I (Render.consult call hook) (Free C) := by
  intro p a q hp hok
  rw [Render.consult_eq] at hok
  cases hhook : hook p.state with
  | error e y =>
    rw [hhook] at hok
    cases hok
  | ok b y =>
    rw [hhook] at hok
    cases hok
    obtain ⟨ha, hy⟩ := h _ _ _ hp.state hhook
    exact ⟨⟨hy, hp.pending⟩, [], (List.append_nil _).symm, ha, rfl⟩

theorem heed {answer : Except CompileError α} (h : ∀ a, answer = .ok a → C a) :
    Yields R I (Render.heed answer : Render σ α) (Free C) := by
  cases answer with
  | ok a => exact free (h a rfl)
  | error e => exact fun _ _ _ _ hok => nomatch hok

theorem ask {call : Call} {answer : Except CompileError α} (h : ∀ a, answer = .ok a → C a) :
    Yields R I (Render.ask call answer : Render σ α) (Free C) :=
  (note _).next fun _ _ => heed h

theorem lift {answer : Except CompileError α} (h : ∀ a, answer = .ok a → M a []) :
    Yields R I (Render.lift answer : Render σ α) M := by
  cases answer with
  | ok a => exact pure (h a rfl)
  | error e => exact throw e

theorem bindAll (xs : List Scalar) :
    Yields R I (Render.bindAll xs : Render σ Unit) fun _ ys => ys = xs := by
  rintro p _ _ hp ⟨⟩
  exact ⟨⟨hp.state, hp.pending⟩, xs, rfl, rfl⟩

end Render.Yields

open Render

namespace Platform.BuiltIn

variable {p : Platform} (hp : p.BuiltIn)

include hp

theorem quiet_quoteName (name : String) : Quiet (p.quoteName true name) := by
  obtain ⟨d, rfl⟩ := hp
  have hdot : Quiet "." := .word (by decide)
  apply hdot.intercalate
  intro s hs
  obtain ⟨segment, _, rfl⟩ := List.mem_map.1 hs
  unfold Platform.quoteSegment
  split
  · rename_i hstar
    rw [hstar]
    exact .word (by decide)
  · exact .name d segment

theorem quiet_regexOperator : Quiet p.regexOperator := by
  obtain ⟨d, rfl⟩ := hp
  cases d <;> exact .word (by decide)

theorem quiet_nullCheck {column : String} (h : Quiet column) :
    Quiet (p.isNull column) ∧ Quiet (p.isNotNull column) := by
  obtain ⟨d, rfl⟩ := hp
  exact ⟨h.append (.word (by decide)), h.append (.word (by decide))⟩

theorem between_eq (column low high : String) :
    p.between column low high = column ++ " BETWEEN " ++ low ++ " AND " ++ high := by
  obtain ⟨d, rfl⟩ := hp
  rfl

theorem negation_eq (sql : String) : p.negation sql = "NOT (" ++ sql ++ ")" := by
  obtain ⟨d, rfl⟩ := hp
  rfl

end Platform.BuiltIn

/-- A scope of a built-in dialect that quotes names, with a safe resolver; nested queries that are
safe are compiled to spelled text. -/
structure Scope.Safe (s : Scope σ) (R : String → Prop) (I : σ → Prop) : Prop where
  platform : s.compiler.platform.BuiltIn
  quoted : s.quoted = true
  resolver : s.compiler.resolver.Safe R I
  nested (database : Option String) {q : Query} {sql : String} : q.Safe R →
    (s.nested database q).result = .ok sql → Spelling sql (s.nested database q).cache.bindings

/-- A rendered condition is a text that is spelled with its values. -/
def Piece.Spelled (piece : Piece) (xs : List Scalar) : Prop :=
  Spelling piece.text xs

theorem Piece.spelling_glued {texts : List (Glue × String)} {xs : List Scalar}
    (h : Each (fun t => Spelling t.2) texts xs) :
    Spelling (glued texts) xs := by
  induction h with
  | nil => exact Quiet.empty
  | @cons t _ _ _ ht _ ih =>
    obtain ⟨g, text⟩ := t
    have hglue : Quiet (" " ++ g.sql ++ " ") := .word (by cases g <;> decide)
    exact (ht.behind hglue).append ih

theorem Piece.spelling_chain {texts : List (Glue × String)} {xs : List Scalar}
    (h : Each (fun t => Spelling t.2) texts xs) :
    Spelling (chain texts) xs := by
  cases h with
  | nil => exact Quiet.empty
  | cons ht hrest => exact ht.append (spelling_glued hrest)

theorem Piece.spelling_joined {pieces : List Piece} {xs : List Scalar}
    (h : Each Piece.Spelled pieces xs) : Spelling (joined pieces) xs := by
  have hkept := h.filter (p := fun piece => piece.text != "") fun piece xs hpiece hempty => by
    obtain ⟨g, text, isGroup⟩ := piece
    obtain rfl : text = "" := by simpa using hempty
    exact Spelling.values_eq_nil hpiece
  apply spelling_chain
  apply hkept.map
  intro piece xs hpiece
  change Spelling (piece.shown _) xs
  unfold Piece.shown
  split
  · exact Spelling.parenthesized hpiece
  · exact hpiece

namespace Scope.Safe

variable {s : Scope σ} (hs : s.Safe R I)

include hs

theorem quote (name : String) : Quiet (s.quote name) := by
  unfold Scope.quote Scope.platform
  rw [hs.quoted]
  exact hs.platform.quiet_quoteName name

theorem column (name : String) : Yields R I (s.column name) (Free fun f => Quiet f.name) := by
  apply (Yields.consult fun x f y hx hf => ⟨trivial, hs.resolver.field hx hf⟩).next
  intro field _
  exact .free (hs.quote field.name)

theorem root : Yields R I s.root (Free fun table => ∀ name ∈ table, R name) := by
  apply (Yields.note _).next
  rintro _ _ p _ _ hp ⟨⟩
  exact ⟨hp, [], (List.append_nil _).symm, fun name hname => hs.resolver.root hp.state hname, rfl⟩

theorem answer {f : Fragment} (hf : f.Safe R) : Yields R I (s.answer f) (Free Quiet) := by
  induction hf with
  | text h => exact .free h
  | fail e => exact .heed nofun
  | column _ ih => exact (hs.column _).next fun field hfield => ih _ hfield
  | root _ ih => exact hs.root.next ih
  | look _ ih => exact ih _ hs.platform hs.quote

theorem fragment {f : Fragment} (hf : f.Safe R) : Yields R I (s.fragment f) (Free Quiet) :=
  (Yields.note _).next fun _ _ => hs.answer hf

theorem fragmentText {f : Fragment} (hf : f.Safe R) : Yields R I (s.fragment f) Spelling := by
  intro p sql q hp hok
  obtain ⟨hq, xs, hxs, hsql, rfl⟩ := hs.fragment hf p sql q hp hok
  exact ⟨hq, [], hxs, hsql⟩

theorem query {q : Query} (hq : q.Safe R) : Yields R I (s.query q) Spelling := by
  intro p sql r hp hok
  rw [Scope.query_eq] at hok
  cases hdatabase : s.databaseOf q with
  | error e =>
    rw [hdatabase] at hok
    cases hok
  | ok database =>
    simp only [hdatabase] at hok
    cases hresult : (s.nested database q).result with
    | error e =>
      rw [hresult] at hok
      cases hok
    | ok text =>
      rw [hresult] at hok
      cases hok
      exact ⟨⟨hp.state, hp.pending⟩, _, rfl, hs.nested database hq hresult⟩

theorem parenthesized {q : Query} (hq : q.Safe R) :
    Yields R I (do let sql ← s.query q; return "(" ++ sql ++ ")") Spelling :=
  (hs.query hq).last fun _ _ hsql => hsql.parenthesized

omit hs in
theorem bind (type : Option TypeName) (converted : Bool) (value : Value) :
    Yields R I (s.bind type converted value) fun _ xs => ∃ x, xs = [x] := by
  have hscalar : Yields R I (s.scalar type converted value) (Free fun _ => True) := by
    unfold Scope.scalar
    split
    · split
      · exact .free trivial
      · exact .ask fun _ _ => trivial
    · exact .ask fun _ _ => trivial
  apply hscalar.next
  intro x _ p a q hp hok
  obtain ⟨hq, xs, hxs, rfl⟩ := Yields.bindAll [x] p a q hp hok
  exact ⟨hq, [x], hxs, x, rfl⟩

omit hs in
theorem bindEach (type : Option TypeName) (converted : Bool) (values : List Value) :
    Yields R I (values.forM (s.bind type converted)) fun _ xs => xs.length = values.length := by
  induction values with
  | nil => exact .pure rfl
  | cons value values ih =>
    apply (bind type converted value).bind
    rintro _ _ ⟨x, rfl⟩ p a q hp hok
    obtain ⟨hq, xs, hxs, hlength⟩ := ih p a q hp hok
    exact ⟨hq, xs, hxs, congrArg (· + 1) hlength⟩

theorem operatorSql (operator : Operator) : Quiet (s.operatorSql operator) := by
  unfold Scope.operatorSql
  split
  · exact hs.platform.quiet_regexOperator
  · exact .word (by cases operator <;> decide)

section Subject

variable {subject : Subject} (hsubject : Quiet subject.column)

include hsubject

theorem nullCheck (negated : Bool) : Quiet (s.nullCheck negated subject.column) := by
  obtain ⟨hnull, hnotNull⟩ := hs.platform.quiet_nullCheck hsubject
  unfold Scope.nullCheck
  split
  · exact hnotNull
  · exact hnull

omit hs in
theorem single {operator : String} (hoperator : Quiet operator) (value : Value) :
    Yields R I (s.single subject operator value) Spelling := by
  apply (bind _ _ value).last
  rintro _ _ ⟨x, rfl⟩
  have hhead : Quiet (subject.column ++ " " ++ operator ++ " ") :=
    ((hsubject.append .space).append hoperator).append .space
  have htext := (Spelling.one x).behind hhead
  rwa [String.append_assoc] at htext

theorem expanded (operator : Operator) (token : String) (items : List Value) :
    Yields R I (s.expanded subject operator token items) Spelling := by
  rw [Scope.expanded_eq]
  split
  · exact .throw _
  · apply (Yields.mapM fun value _ => single hsubject (hs.operatorSql operator) value).last
    intro parts xs hparts
    have hglue : Quiet (if operator.isNegative = true then " AND " else " OR ") := by
      split <;> exact .word (by decide)
    have hjoined := hparts.intercalate hglue
    split
    · exact hjoined.parenthesized
    · exact hjoined

omit hs hsubject in
theorem places {values : List Value} {xs : List Scalar} (h : xs.length = values.length) :
    Spelling (",".intercalate (values.map fun _ => "?")) xs := by
  apply Each.intercalate _ (.word (by decide))
  induction values generalizing xs with
  | nil =>
    rw [List.length_eq_zero_iff.1 h]
    exact .nil
  | cons value values ih =>
    obtain ⟨x, xs, rfl⟩ := List.exists_cons_of_length_eq_add_one h
    exact .cons (.one x) (ih (Nat.succ.inj h))

theorem membership (negated : Bool) (items : List Value) :
    Yields R I (s.membership subject negated items) Spelling := by
  have htest := hs.nullCheck hsubject negated
  unfold Scope.membership
  simp only
  split
  · exact .pure htest
  · apply (bindEach _ _ _).last
    intro _ xs hlength
    have hkeyword : Quiet (if negated = true then " NOT IN (" else " IN (") := by
      split <;> exact .word (by decide)
    have hglue : Quiet (if negated = true then " AND " else " OR ") := by
      split <;> exact .word (by decide)
    have hclosing : Quiet ")" := .word (by decide)
    have hlist := (places hlength).between (hsubject.append hkeyword) hclosing
    split
    · exact ((hlist.between (.word (by decide)) hglue).before htest).before hclosing
    · exact hlist

theorem range (token : String) (value : Value) :
    Yields R I (s.range subject token value) Spelling := by
  have hand : Quiet " AND " := .word (by decide)
  have hbetween : Quiet (subject.column ++ " BETWEEN ") := hsubject.append (.word (by decide))
  cases hlist : value.isList with
  | false =>
    rw [Scope.range_of_not_list hlist]
    apply (bind _ _ value).last
    rintro _ _ ⟨x, rfl⟩
    rw [Scope.platform, hs.platform.between_eq]
    exact (Spelling.one x).behind ((hbetween.append (.word (by decide))).append hand)
  | true =>
    obtain ⟨items, rfl⟩ := Value.eq_list hlist
    match items with
    | [low, high] =>
      apply (bind _ _ low).bind
      rintro _ _ ⟨x, rfl⟩
      apply (bind _ _ high).last
      rintro _ _ ⟨y, rfl⟩
      rw [Scope.platform, hs.platform.between_eq]
      exact (((Spelling.one x).behind hbetween).before hand).append (.one y)
    | [] => exact .throw _
    | [_] => exact .throw _
    | _ :: _ :: _ :: _ => exact .throw _

theorem equality (negated : Bool) (value : Value) :
    Yields R I (s.equality subject negated value) Spelling := by
  have hoperator : Quiet (if negated = true then "!=" else "=") := by
    split <;> exact .word (by decide)
  have hsingle : Yields R I (s.single subject (if negated = true then "!=" else "=") value)
      Spelling := single hsubject hoperator value
  cases value with
  | list items => exact hs.membership hsubject negated items
  | null => exact .pure (hs.nullCheck hsubject negated)
  | _ => exact hsingle

theorem plain (operator : Operator) (token : String) (value : Value) :
    Yields R I (s.plain subject operator token value) Spelling := by
  have hspread : Yields R I (s.spread subject operator token value) Spelling := by
    cases value with
    | list items => exact hs.expanded hsubject operator token items
    | _ => exact single hsubject (hs.operatorSql operator) _
  cases operator with
  | equal => exact hs.equality hsubject false value
  | notEqual => exact hs.equality hsubject true value
  | oneOf => exact hs.membership hsubject false value.items
  | noneOf => exact hs.membership hsubject true value.items
  | between => exact hs.range hsubject token value
  | notBetween =>
    apply (hs.range hsubject token value).last
    intro sql xs hsql
    rw [Scope.platform, hs.platform.negation_eq]
    exact hsql.between (.word (by decide)) (.word (by decide))
  | _ => exact hspread

end Subject

theorem verbatim {column : String} (hcolumn : Quiet column) (operator : Operator) (token : String)
    {rhs : String} {xs : List Scalar} (hrhs : Spelling rhs xs) :
    Yields R I (lift (s.verbatim column operator token rhs)) fun sql ys =>
      Spelling sql (xs ++ ys) := by
  have hhead : Quiet (column ++ " " ++ s.operatorSql operator ++ " ") :=
    ((hcolumn.append .space).append (hs.operatorSql operator)).append .space
  have htext : Spelling (column ++ " " ++ s.operatorSql operator ++ " " ++ rhs) (xs ++ []) := by
    rw [List.append_nil]
    exact hrhs.behind hhead
  apply Yields.lift
  intro sql hsql
  cases operator with
  | between => cases hsql
  | notBetween => cases hsql
  | _ =>
    cases hsql
    exact htext

theorem transformed {c : Comparison Query} (hc : c.operand.Safe R (Query.Safe R)) :
    Yields R I (s.transformed c) (Free fun d => d.operand.Safe R (Query.Safe R)) := by
  obtain ⟨column, token, operand, converted⟩ := c
  cases hc with
  | value v => exact .free (.value v)
  | query hq => exact .free (.query hq)
  | fragment hf => exact .free (.fragment hf)
  | transformer h =>
    apply (Yields.ask fun t ht => h _ _ _ t hs.platform ht).next
    intro t ht
    exact .free ht

theorem compared {c : Comparison Query} (hc : c.operand.Safe R (Query.Safe R)) :
    Yields R I (s.compared c) Spelling := by
  obtain ⟨column, token, operand, converted⟩ := c
  apply (hs.column column).next
  intro field hfield
  apply (Yields.lift (M := Free fun _ => True) fun _ _ => ⟨trivial, rfl⟩).next
  intro operator _
  cases hc with
  | value v => exact hs.plain hfield operator token v
  | query hq =>
    apply (hs.query hq).bind
    intro sql xs hsql
    exact hs.verbatim hfield operator token hsql.parenthesized
  | fragment hf =>
    apply (hs.fragmentText hf).bind
    intro sql xs hsql
    exact hs.verbatim hfield operator token hsql
  | transformer _ => exact .throw _

theorem comparison {c : Comparison Query} (hc : c.operand.Safe R (Query.Safe R)) :
    Yields R I (s.comparison c) Spelling :=
  (hs.transformed hc).next fun _ hd => hs.compared hd

theorem resolveCondition {c : Condition Query} (hc : c.Safe R (Query.Safe R)) :
    Yields R I (s.resolveCondition c) (Free fun d => d.Safe R (Query.Safe R)) := by
  apply (Yields.consult fun x d y hx hd => hs.resolver.condition hc hx hd).next
  rintro d ⟨hd, hadded⟩ p _ _ hp ⟨⟩
  exact ⟨⟨hp.state, List.forall_mem_append.2 ⟨hp.pending, hadded⟩⟩, [],
    (List.append_nil _).symm, hd, rfl⟩

omit hs in
theorem takenBy (outermost : Bool) :
    Yields R I (Scope.takenBy outermost : Render σ _)
      (Free fun cs => ∀ c ∈ cs, c.Safe R (Query.Safe R)) := by
  cases outermost with
  | false => exact .free nofun
  | true =>
    rintro p _ _ hp ⟨⟩
    exact ⟨⟨hp.state, nofun⟩, [], (List.append_nil _).symm, hp.pending, rfl⟩

theorem pieces (n : Nat) (outermost : Bool) {cs : List (Condition Query)}
    (hcs : ∀ c ∈ cs, c.Safe R (Query.Safe R)) :
    Yields R I (s.pieces n outermost cs) (Each Piece.Spelled) := by
  induction n generalizing outermost cs with
  | zero =>
    cases cs with
    | nil => exact .pure .nil
    | cons first rest => exact .throw _
  | succ n ih =>
    cases cs with
    | nil => exact .pure .nil
    | cons first rest =>
      rw [List.forall_mem_cons] at hcs
      rw [Scope.pieces_cons]
      apply (hs.resolveCondition hcs.1).next
      intro c hc
      have htext : Yields R I (s.pieceText n c) Spelling := by
        cases hc with
        | comparison g hc => exact hs.comparison hc
        | group g hmembers =>
          simp only [pieceText, map_eq_pure_bind]
          exact (ih false hmembers).last fun _ _ => Piece.spelling_joined
        | fragment g hf => exact hs.fragmentText hf
      apply htext.bind
      intro text xs htext
      apply (takenBy outermost).next
      intro added hadded
      apply (ih outermost (List.forall_mem_append.2 ⟨hcs.2, hadded⟩)).last
      intro others ys hothers
      exact .cons htext hothers

theorem conditionsAfter {keyword : String} (hkeyword : Quiet keyword) {cs : List (Condition Query)}
    (hcs : ∀ c ∈ cs, c.Safe R (Query.Safe R)) :
    Yields R I (s.conditionsAfter keyword cs) Spelling := by
  have hconditions : Yields R I (s.conditions cs) Spelling := by
    rw [Scope.conditions, map_eq_pure_bind]
    exact (hs.pieces _ true hcs).last fun _ _ => Piece.spelling_joined
  apply hconditions.last
  intro sql xs hsql
  split
  · rename_i hempty
    rw [hempty] at hsql
    exact hsql
  · exact hsql.behind hkeyword

end Scope.Safe

end ParamSql
