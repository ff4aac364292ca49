import ParamSql.Proofs.Binding
import ParamSql.Proofs.Respects
import ParamSql.Proofs.Truth
import ParamSql.Proofs.Wording

namespace ParamSql

variable {σ : Type}

/-- The hooks of a resolver take rewordings to rewordings, and keep the relation `S` of states. -/
structure Resolver.Rewords (r : Resolver σ) (w : Wording) (G : Query → Query → Prop)
    (S : σ → σ → Prop) : Prop where
  start : S r.start r.start
  select {a b : Select Query} : Select.Reworded w G a b →
    Lockstep True S (r.select a) (r.select b) (Ends (Select.Reworded w G) S)
  insert {a b : Insert Query} : Insert.Reworded w G a b →
    Lockstep True S (r.insert a) (r.insert b) (Ends (Insert.Reworded w G) S)
  update {a b : Update Query} : Update.Reworded w G a b →
    Lockstep True S (r.update a) (r.update b) (Ends (Update.Reworded w G) S)
  delete {a b : Delete Query} : Delete.Reworded w G a b →
    Lockstep True S (r.delete a) (r.delete b) (Ends (Delete.Reworded w G) S)
  field (name : String) (type : Option TypeName) :
    Lockstep True S (r.field name type) (r.field name type)
      (Ends (fun a b => a = b ∧ w.columns name a.name) S)
  table {t u : TableRef Query} : TableRef.Alike G t u →
    Lockstep True S (r.table t) (r.table u) (Ends (TableRef.Alike G) S)
  root {x y : σ} : S x y → r.root x = r.root y
  condition {c d : Condition Query} : Condition.Reworded w G c d →
    Lockstep True S (r.condition c) (r.condition d)
      (Ends (fun a b => Condition.Reworded w G a.1 b.1 ∧
        List.Forall₂ (Condition.Reworded w G) a.2 b.2) S)
  joins {x y : σ} : S x y →
    List.Forall₂ (Join.Reworded w G) (r.joins x).1 (r.joins y).1 ∧ S (r.joins x).2 (r.joins y).2

theorem Resolver.declared_rewords {w : Wording} {G : Query → Query → Prop}
    (hcolumns : ∀ name, w.columns name name) (types : List (String × TypeName)) :
    (declared types).Rewords w G Eq where
  start := rfl
  select h := remember_respects h (forall₂_head? h.tables)
  insert h := remember_respects h h.table
  update h := remember_respects h h.table
  delete h := remember_respects h h.table
  field name _ := .ends ⟨rfl, hcolumns name⟩
  table h := .ends h
  root := id
  condition h := .ends ⟨h, .nil⟩
  joins h := ⟨.nil, h⟩

/-- Progress that is the same but for the wording, whatever the journals. -/
structure Progress.Reworded (w : Wording) (G : Query → Query → Prop) (S : σ → σ → Prop)
    (p q : Progress σ) : Prop where
  state : S p.state q.state
  pending : List.Forall₂ (Condition.Reworded w G) p.pending q.pending
  bound : p.bound = q.bound

theorem Progress.binding_reworded {w : Wording} {G : Query → Query → Prop} {S : σ → σ → Prop} :
    Progress.Binding (Progress.Reworded w G S) where
  bound h := h.bound
  rebound _ h := ⟨h.state, h.pending, rfl⟩
  journal _ _ h := ⟨h.state, h.pending, h.bound⟩

/-- Renderings that succeed with results in the relation `R`, or fail for the same cause; they bind
the same. -/
abbrev Render.Reworded (w : Wording) (G : Query → Query → Prop) (S : σ → σ → Prop) {α β : Type}
    (R : α → β → Prop) (f : Render σ α) (g : Render σ β) : Prop :=
  Lockstep True (Progress.Reworded w G S) f g (Ends R (Progress.Reworded w G S))

/-- Two scopes for two wordings, in which nested queries in the relation `G` are rendered to texts
that differ at most in the quotes of identifiers. -/
structure Scope.Reworded (w : Wording) (G : Query → Query → Prop) (S : σ → σ → Prop)
    (s t : Scope σ) : Prop where
  left : s.platform = w.left.platform
  right : t.platform = w.right.platform
  quoting : w.quoting s.quoted t.quoted
  database : s.database = t.database
  types : s.compiler.types = t.compiler.types
  growth : s.compiler.limits.growth = t.compiler.limits.growth
  resolver : t.compiler.resolver = s.compiler.resolver
  hooks : s.compiler.resolver.Rewords w G S
  query {q r : Query} : G q r → Render.Reworded w G S w.Text (s.query q) (t.query r)
  projected {q r : Query} : G q r →
    Option.Rel (List.Forall₂ w.Text) (s.projectedColumns? q) (t.projectedColumns? r)

/-- Fields of one column, as two scopes quote it. -/
structure Field.Reworded (w : Wording) (s t : Scope σ) (name : String) (a b : Field) : Prop where
  column : ∃ column, w.columns name column ∧ a.name = s.quote column ∧ b.name = t.quote column
  type : a.type = b.type

structure Piece.Reworded (w : Wording) (p q : Piece) : Prop where
  glue : p.glue = q.glue
  text : w.Piece p.text q.text
  isGroup : p.isGroup = q.isGroup

section

variable {w : Wording} {Q : Type} {G : Q → Q → Prop}

theorem Condition.Reworded.glue_eq {c d : Condition Q} (h : Condition.Reworded w G c d) :
    c.glue = d.glue := by
  cases h <;> rfl

mutual

theorem Condition.Reworded.size_eq : ∀ {c d : Condition Q}, Condition.Reworded w G c d →
    c.size = d.size
  | _, _, .comparison _ _ => rfl
  | _, _, .group _ h => congrArg (1 + ·) (Condition.Reworded.sizes_eq h)
  | _, _, .fragment _ _ => rfl

theorem Condition.Reworded.sizes_eq : ∀ {cs ds : List (Condition Q)},
    List.Forall₂ (Condition.Reworded w G) cs ds → Condition.sizes cs = Condition.sizes ds
  | _, _, .nil => rfl
  | _, _, .cons h hs =>
    congrArg₂ (· + ·) (Condition.Reworded.size_eq h) (Condition.Reworded.sizes_eq hs)

end

end

namespace Piece

variable {w : Wording} {ps qs : List Piece}

theorem Reworded.shown {p q : Piece} (h : p.Reworded w q) (alone : Bool) :
    w.Text (p.shown alone) (q.shown alone) := by
  rw [Piece.shown, Piece.shown, h.isGroup]
  split
  · exact (h.text.1.after "(").before ")"
  · exact h.text.1

theorem glued_reworded (h : List.Forall₂ (Piece.Reworded w) ps qs) (alone : Bool) :
    w.Text (glued (ps.map fun p => (p.glue, p.shown alone)))
      (glued (qs.map fun q => (q.glue, q.shown alone))) := by
  induction h with
  | nil => exact .refl _
  | cons hpq _ ih =>
    simp only [List.map_cons, glued, hpq.glue]
    exact ((hpq.shown alone).after _).append ih

theorem shownOf_reworded (hw : w.compared) (h : List.Forall₂ (Piece.Reworded w) ps qs) :
    List.Forall₂ (Piece.Reworded w) (shownOf ps) (shownOf qs) := by
  induction h with
  | nil => exact .nil
  | @cons p q _ _ hpq _ ih =>
    have hempty : p.text = "" ↔ q.text = "" := hpq.text.2 hw
    unfold shownOf
    rw [List.filter_cons, List.filter_cons]
    by_cases hp : p.text = ""
    · rw [if_neg (by simp [hp]), if_neg (by simp [hempty.1 hp])]
      exact ih
    · rw [if_pos (by simp [hp]), if_pos (by simp [mt hempty.2 hp])]
      exact .cons hpq ih

theorem joined_reworded (h : List.Forall₂ (Piece.Reworded w) ps qs) :
    w.Piece (joined ps) (joined qs) := by
  have hboth (hw : w.compared) : w.Piece (joined ps) (joined qs) := by
    have hshown := shownOf_reworded hw h
    generalize hps : shownOf ps = as at hshown
    generalize hqs : shownOf qs = bs at hshown
    cases hshown with
    | nil =>
      rw [joined_of_nil hps, joined_of_nil hqs]
      exact .refl _
    | @cons p q rest rest' hpq hrest =>
      have hp : p ∈ shownOf ps := hps ▸ List.mem_cons_self
      have hq : q ∈ shownOf qs := hqs ▸ List.mem_cons_self
      rw [joined_of_cons hps, joined_of_cons hqs, h.length_eq]
      have hfirst : w.Solid (p.shown (qs.length ≤ 1)) (q.shown (qs.length ≤ 1)) :=
        ⟨hpq.shown _, shown_ne_empty (by simpa using (List.mem_filter.1 hp).2) _,
          shown_ne_empty (by simpa using (List.mem_filter.1 hq).2) _⟩
      exact (hfirst.append (glued_reworded hrest _)).piece
  exact ⟨fun hw => (hboth hw).1 hw, fun hw => (hboth hw).2 hw⟩

end Piece

namespace Render.Reworded

variable {w : Wording} {G : Query → Query → Prop} {S : σ → σ → Prop} {α β γ : Type}

theorem note (e : Event) :
    Render.Reworded (σ := σ) w G S (fun _ _ => True) (Render.note e) (Render.note e) :=
  (Progress.binding_reworded.note e).lockstep

theorem bindAll (scalars : List Scalar) : Render.Reworded (σ := σ) w G S (fun _ _ => True)
    (Render.bindAll scalars) (Render.bindAll scalars) :=
  (Progress.binding_reworded.bindAll scalars).lockstep

theorem ask {R : α → β → Prop} (call : Call) {x : Except CompileError α}
    {y : Except CompileError β} (h : Answers True R x y) :
    Render.Reworded (σ := σ) w G S R (Render.ask call x) (Render.ask call y) :=
  (note _).next fun _ _ _ => lockstep_heed h

theorem consult {R R' : α → β → Prop} {call call' : Call} {hook : Hook σ α} {hook' : Hook σ β}
    (h : Lockstep True S hook hook' (Ends R S)) (hR : ∀ a b, R a b → R' a b) :
    Render.Reworded w G S R' (Render.consult call hook) (Render.consult call' hook') :=
  lockstep_consult h (fun _ _ hpq => hpq.state)
    fun _ _ _ _ _ _ _ _ hpq hab hxy => ⟨hR _ _ hab, hxy, hpq.pending, hpq.bound⟩

theorem mapEach {R : β → γ → Prop} {k : α → Render σ β} {l : α → Render σ γ}
    (h : ∀ a, Render.Reworded w G S R (k a) (l a)) (as : List α) :
    Render.Reworded w G S (fun bs cs => List.Forall₂ R bs cs ∧ bs.length = as.length)
      (as.mapM k) (as.mapM l) := by
  induction as with
  | nil =>
    rw [List.mapM_nil, List.mapM_nil]
    exact .ends ⟨.nil, rfl⟩
  | cons a as ih =>
    rw [List.mapM_cons, List.mapM_cons]
    exact (h a).next fun _ _ hbc => ih.next fun _ _ hrest =>
      .ends ⟨.cons hbc hrest.1, congrArg (· + 1) hrest.2⟩

end Render.Reworded

namespace Scope.Reworded

open Render.Reworded

variable {w : Wording} {G : Query → Query → Prop} {S : σ → σ → Prop} {s t : Scope σ}
  (h : Scope.Reworded w G S s t)

include h

theorem word (f : Platform → String) : w.Text (f s.platform) (f t.platform) := by
  rw [h.left, h.right]
  exact .word fun d => f d.platform

theorem quote (name : String) : w.Text (s.quote name) (t.quote name) := by
  rw [Scope.quote, Scope.quote, h.left, h.right]
  exact .quoted _ _ name

theorem aliased (word : String) (label : Option String) :
    w.Text (s.aliased word label) (t.aliased word label) := by
  cases label with
  | none => exact .refl _
  | some name => exact (h.quote name).after word

theorem tableName (name : String) : w.Text (s.tableName name) (t.tableName name) := by
  rw [Scope.tableName, Scope.tableName, h.database]
  cases t.database with
  | none => exact h.quote name
  | some database =>
    simp only
    split
    · exact h.quote name
    · exact h.quote _

theorem operatorSql (operator : Operator) :
    w.Text (s.operatorSql operator) (t.operatorSql operator) :=
  h.word fun platform => if operator = .regex then platform.regexOperator else operator.sql

theorem nullCheck (negated : Bool) {a b : String} (hab : w.Text a b) :
    w.Solid (s.nullCheck negated a) (t.nullCheck negated b) := by
  rw [Scope.nullCheck, Scope.nullCheck, h.left, h.right]
  cases negated with
  | false => exact hab.solid " IS NULL" (by decide)
  | true => exact hab.solid " IS NOT NULL" (by decide)

theorem between {a b : String} (hab : w.Text a b) (low high : String) :
    w.Solid (s.platform.between a low high) (t.platform.between b low high) := by
  rw [h.left, h.right]
  have hstart := hab.solid " BETWEEN " (by decide)
  exact ((hstart.append (.refl low)).append (.refl " AND ")).append (.refl high)

theorem field (name : String) (type : Option TypeName) :
    Render.Reworded w G S (fun a b => a = b ∧ w.columns name a.name)
      (Render.consult (.field name type) (s.compiler.resolver.field name type))
      (Render.consult (.field name type) (t.compiler.resolver.field name type)) := by
  rw [h.resolver]
  exact consult (h.hooks.field name type) fun _ _ => id

theorem column (name : String) :
    Render.Reworded w G S (Field.Reworded w s t name) (s.column name) (t.column name) := by
  apply (h.field name none).next
  rintro a _ ⟨rfl, hcolumn⟩
  exact .ends ⟨⟨a.name, hcolumn, rfl, rfl⟩, rfl⟩

theorem columnText {name : String} {a b : Field} (hab : Field.Reworded w s t name a b) :
    w.Text a.name b.name := by
  obtain ⟨column, _, ha, hb⟩ := hab.column
  rw [ha, hb]
  exact h.quote column

theorem root : Render.Reworded w G S Eq s.root t.root := by
  apply (note _).next
  intro _ _ _ p q hpq
  refine .ok ⟨?_, hpq⟩
  rw [h.resolver]
  exact h.hooks.root hpq.state

theorem answer {E : String → String → Prop} {f f' : Fragment} (hf : f.Reworded w E f') :
    Render.Reworded w G S E (s.answer f) (t.answer f') := by
  induction hf with
  | text hab => exact .ends hab
  | fail e => exact Render.lockstep_heed (.error fun _ => rfl)
  | column name _ ih =>
    apply (h.column name).next
    intro a b hab
    obtain ⟨column, hcolumn, ha, hb⟩ := hab.column
    rw [ha, hb, Scope.quote, Scope.quote, h.left, h.right]
    exact ih column _ _ hcolumn h.quoting
  | root _ ih => exact h.root.nextSame ih
  | look _ ih =>
    have hleft : s.quote = w.left.platform.quoteName s.quoted := by
      funext name
      rw [Scope.quote, h.left]
    have hright : t.quote = w.right.platform.quoteName t.quoted := by
      funext name
      rw [Scope.quote, h.right]
    rw [Scope.answer, Scope.answer, hleft, hright, h.left, h.right]
    exact ih _ _ h.quoting

theorem fragment {E : String → String → Prop} {f f' : Fragment} (hf : f.Reworded w E f') :
    Render.Reworded w G S E (s.fragment f) (t.fragment f') :=
  (note _).next fun _ _ _ => h.answer hf

theorem bind (type : Option TypeName) (converted : Bool) (value : Value) :
    Render.Reworded w G S (fun _ _ => True) (s.bind type converted value)
      (t.bind type converted value) := by
  have hscalar : Render.Reworded w G S Eq (s.scalar type converted value)
      (t.scalar type converted value) := by
    rw [Scope.scalar, Scope.scalar, h.types]
    split
    · split
      · exact .ends rfl
      · exact ask _ (.of_eq (fun _ => rfl) _)
    · exact ask _ (.of_eq (fun _ => rfl) _)
  exact hscalar.nextSame fun scalar => bindAll [scalar]

section Comparison

variable {a b : String} (hab : w.Text a b) (type : Option TypeName) (converted : Bool)
  {token : String}

include hab

theorem single {operator operator' : String} (hoperator : w.Text operator operator')
    (value : Value) :
    Render.Reworded w G S w.Solid (s.single ⟨a, type, converted⟩ operator value)
      (t.single ⟨b, type, converted⟩ operator' value) :=
  (h.bind _ _ value).next fun _ _ _ =>
    .ends (((hab.before " ").append hoperator).solid _ (by decide))

theorem expanded (operator : Operator) (items : List Value) :
    Render.Reworded w G S w.Solid (s.expanded ⟨a, type, converted⟩ operator token items)
      (t.expanded ⟨b, type, converted⟩ operator token items) := by
  rw [expanded_eq, expanded_eq]
  split
  · exact .throw fun _ => rfl
  · rename_i hitems
    apply (mapEach (h.single hab type converted (h.operatorSql operator)) items).next
    rintro xs ys ⟨hxys, hlength⟩
    have hne : xs ≠ [] := by
      rintro rfl
      exact hitems (List.isEmpty_iff.2 (List.length_eq_zero_iff.1 hlength.symm))
    refine .ends ?_
    have hjoined := Wording.Solid.intercalate (if operator.isNegative then " AND " else " OR ")
      hxys hne
    split
    · exact (hjoined.1.after "(").solid _ (by decide)
    · exact hjoined

theorem membership (negated : Bool) (items : List Value) :
    Render.Reworded w G S w.Solid (s.membership ⟨a, type, converted⟩ negated items)
      (t.membership ⟨b, type, converted⟩ negated items) := by
  have htest := h.nullCheck negated hab
  simp only [Scope.membership]
  split
  · exact .ends htest
  · apply Lockstep.next (R := fun _ _ => True) (P := Progress.Reworded w G S)
    · exact .forM (R := Eq) (List.forall₂_eq_eq_eq ▸ rfl)
        fun v _ hv => hv ▸ h.bind type converted v
    · intro _ _ _
      have hlist := ((hab.before (if negated then " NOT IN (" else " IN (")).before
        (",".intercalate ((items.filter fun item => !item.isNull).map fun _ => "?"))).solid
          ")" (by decide)
      refine .ends ?_
      split
      · exact (((hlist.1.after "(").before (if negated then " AND " else " OR ")).append
          htest.1).solid _ (by decide)
      · exact hlist

theorem range (value : Value) :
    Render.Reworded w G S w.Solid (s.range ⟨a, type, converted⟩ token value)
      (t.range ⟨b, type, converted⟩ token value) := by
  cases hlist : value.isList with
  | false =>
    rw [range_of_not_list hlist, range_of_not_list hlist]
    exact (h.bind _ _ value).next fun _ _ _ => .ends (h.between hab _ _)
  | true =>
    obtain ⟨items, rfl⟩ := Value.eq_list hlist
    match items with
    | [low, high] =>
      apply (h.bind _ _ low).next
      intro _ _ _
      apply (h.bind _ _ high).next
      intro _ _ _
      exact .ends (h.between hab _ _)
    | [] => exact .throw fun _ => rfl
    | [_] => exact .throw fun _ => rfl
    | _ :: _ :: _ :: _ => exact .throw fun _ => rfl

theorem equality (negated : Bool) (value : Value) :
    Render.Reworded w G S w.Solid (s.equality ⟨a, type, converted⟩ negated value)
      (t.equality ⟨b, type, converted⟩ negated value) := by
  cases value with
  | list items => exact h.membership hab type converted negated items
  | null => exact .ends (h.nullCheck negated hab)
  | _ => exact h.single hab type converted (.refl _) _

theorem plain (operator : Operator) (value : Value) :
    Render.Reworded w G S w.Solid (s.plain ⟨a, type, converted⟩ operator token value)
      (t.plain ⟨b, type, converted⟩ operator token value) := by
  have hspread : Render.Reworded w G S w.Solid
      (s.spread ⟨a, type, converted⟩ operator token value)
      (t.spread ⟨b, type, converted⟩ operator token value) := by
    cases value with
    | list items => exact h.expanded hab type converted operator items
    | _ => exact h.single hab type converted (h.operatorSql operator) _
  cases operator with
  | equal => exact h.equality hab type converted false value
  | notEqual => exact h.equality hab type converted true value
  | oneOf => exact h.membership hab type converted false value.items
  | noneOf => exact h.membership hab type converted true value.items
  | between => exact h.range hab type converted value
  | notBetween =>
    apply (h.range hab type converted value).next
    intro sql sql' hsql
    rw [h.left, h.right]
    exact .ends ((hsql.1.after "NOT (").solid _ (by decide))
  | _ => exact hspread

theorem verbatim (operator : Operator) (token : String) {rhs rhs' : String}
    (hrhs : w.Text rhs rhs') :
    Answers True w.Solid (s.verbatim a operator token rhs) (t.verbatim b operator token rhs') := by
  have hok (operator : Operator) : w.Solid (a ++ " " ++ s.operatorSql operator ++ " " ++ rhs)
      (b ++ " " ++ t.operatorSql operator ++ " " ++ rhs') :=
    (((hab.before " ").append (h.operatorSql operator)).solid _ (by decide)).append hrhs
  cases operator with
  | between => exact .error fun _ => rfl
  | notBetween => exact .error fun _ => rfl
  | _ => exact .ok (hok _)

end Comparison

theorem transformed {c d : Comparison Query}
    (hcd : Comparison.Reworded w G (Transform.Reworded w G) c d) :
    Render.Reworded w G S (Comparison.Reworded w G fun _ _ => True) (s.transformed c)
      (t.transformed d) := by
  obtain ⟨column, operator, operand, converted⟩ := c
  obtain ⟨_, _, operand', _⟩ := d
  obtain ⟨rfl, rfl, hoperand, rfl⟩ := hcd
  cases hoperand with
  | value v => exact .ends ⟨rfl, rfl, .value v, rfl⟩
  | query hq => exact .ends ⟨rfl, rfl, .query hq, rfl⟩
  | fragment hf => exact .ends ⟨rfl, rfl, .fragment hf, rfl⟩
  | transformer hf =>
    simp only [Scope.transformed, h.left, h.right]
    apply (ask _ (hf column operator)).next
    intro x y hxy
    exact .ends ⟨hxy.column, hxy.operator, hxy.operand, rfl⟩

theorem compared {c d : Comparison Query} (hcd : Comparison.Reworded w G (fun _ _ => True) c d) :
    Render.Reworded w G S w.Solid (s.compared c) (t.compared d) := by
  obtain ⟨column, operator, operand, converted⟩ := c
  obtain ⟨_, _, operand', _⟩ := d
  obtain ⟨rfl, rfl, hoperand, rfl⟩ := hcd
  apply (h.column column).next
  rintro ⟨a, type⟩ ⟨b, type'⟩ hfield
  have hab : w.Text a b := h.columnText hfield
  obtain rfl : type = type' := hfield.type
  apply (Render.lockstep_lift (.of_eq (fun _ => rfl) _)).nextSame
  intro op
  cases hoperand with
  | value v => exact h.plain hab type converted op v
  | query hq =>
    exact (h.query hq).next fun sql sql' hsql =>
      Render.lockstep_lift (h.verbatim hab op operator ((hsql.after "(").before ")"))
  | fragment hf =>
    exact (h.fragment hf).next fun sql sql' hsql =>
      Render.lockstep_lift (h.verbatim hab op operator hsql)
  | transformer _ => exact .throw fun _ => rfl

theorem comparison {c d : Comparison Query}
    (hcd : Comparison.Reworded w G (Transform.Reworded w G) c d) :
    Render.Reworded w G S w.Solid (s.comparison c) (t.comparison d) :=
  (h.transformed hcd).next fun _ _ => h.compared

end Scope.Reworded

end ParamSql
