import ParamSql.Proofs.Alike
import ParamSql.Compile.Conditions

namespace ParamSql

variable {σ : Type}

namespace Render

variable {strict : Prop} {P : Progress σ → Progress σ → Prop} {α β : Type}

theorem lockstep_heed {R : α → β → Prop} {x : Except CompileError α} {y : Except CompileError β}
    (h : Answers strict R x y) : Lockstep strict P (heed x) (heed y) (Ends R P) := by
  cases h with
  | ok h => exact .ends h
  | error h => exact fun p q _ => .error h
  | left h => exact fun p q _ => .left h
  | right h => exact fun p q _ => .right h

theorem lockstep_lift {R : α → β → Prop} {x : Except CompileError α} {y : Except CompileError β}
    (h : Answers strict R x y) : Lockstep strict P (lift x) (lift y) (Ends R P) := by
  cases h with
  | ok h => exact .ends h
  | error h => exact .throw h
  | left h => exact .throw_right h
  | right h => exact .throw_left h

end Render

/-- The steps that comparisons are rendered by keep the relation `P` of progress. Values in the
relation `W` are bound, and queries in the relation `G` compiled to the same text. -/
structure Scope.Steady (s : Scope σ) (strict : Prop) (W : Value → Value → Prop)
    (G : Query → Query → Prop) (P : Progress σ → Progress σ → Prop) : Prop where
  note (e : Event) : Lockstep strict P (Render.note e) (Render.note e) (Stays P)
  field (name : String) (type : Option TypeName) :
    Lockstep strict P (Render.consult (.field name type) (s.compiler.resolver.field name type))
      (Render.consult (.field name type) (s.compiler.resolver.field name type)) (Same P)
  root {p q : Progress σ} :
    P p q → s.compiler.resolver.root p.state = s.compiler.resolver.root q.state
  bind (type : Option TypeName) (converted : Bool) {v w : Value} :
    W v w → Lockstep strict P (s.bind type converted v) (s.bind type converted w) (Stays P)
  query {q r : Query} : G q r → Lockstep strict P (s.query q) (s.query r) (Same P)

theorem Value.eq_list {v : Value} (h : v.isList = true) : ∃ vs, v = .list vs := by
  cases v with
  | list vs => exact ⟨vs, rfl⟩
  | _ => simp [Value.isList] at h

theorem Value.eq_null {v : Value} (h : v.isNull = true) : v = .null := by
  cases v with
  | null => rfl
  | _ => simp [Value.isNull] at h

theorem Value.Alike.list_or {W : Value → Value → Prop} {v w : Value} (h : Value.Alike W v w) :
    (∃ vs ws, v = .list vs ∧ w = .list ws ∧
      List.Forall₂ (fun a b => W a b ∧ a.isNull = b.isNull) vs ws) ∨
    (v.isList = false ∧ w.isList = false) := by
  cases hv : v.isList with
  | true =>
    obtain ⟨vs, rfl⟩ := Value.eq_list hv
    obtain ⟨ws, rfl⟩ := Value.eq_list (h.isList.symm.trans hv)
    exact .inl ⟨vs, ws, rfl, rfl, h.items⟩
  | false => exact .inr ⟨rfl, h.isList.symm.trans hv⟩

namespace Scope

variable {s : Scope σ} {subject : Subject} {token : String} {v : Value}

theorem range_of_not_list (hv : v.isList = false) :
    s.range subject token v = do
      s.bindFor subject v
      return s.platform.between subject.column "0" "?" := by
  cases v with
  | list => simp [Value.isList] at hv
  | _ => rfl

theorem equality_of_not_list {negated : Bool} (hv : v.isList = false) (hn : v.isNull = false) :
    s.equality subject negated v = s.single subject (if negated then "!=" else "=") v := by
  cases v with
  | list => simp [Value.isList] at hv
  | null => simp [Value.isNull] at hn
  | _ => rfl

theorem expanded_eq (operator : Operator) (items : List Value) :
    s.expanded subject operator token items =
      if items.isEmpty then throw (.invalidValue token .emptyList)
      else do
        let parts ← items.mapM (s.single subject (s.operatorSql operator))
        let sql := (if operator.isNegative then " AND " else " OR ").intercalate parts
        return if 1 < items.length then "(" ++ sql ++ ")" else sql := by
  unfold Scope.expanded
  split <;> rfl

/-- A comparison with a value, or with each item of a list. -/
def spread (s : Scope σ) (subject : Subject) (operator : Operator) (token : String) :
    Value → Render σ String
  | .list items => s.expanded subject operator token items
  | value => s.single subject (s.operatorSql operator) value

end Scope

namespace Scope.Steady

variable {s : Scope σ} {strict : Prop} {W : Value → Value → Prop} {G : Query → Query → Prop}
  {P : Progress σ → Progress σ → Prop} (h : s.Steady strict W G P)

include h

theorem ask {α β : Type} {R : α → β → Prop} (call : Call) {x : Except CompileError α}
    {y : Except CompileError β} (hxy : Answers strict R x y) :
    Lockstep strict P (Render.ask call x) (Render.ask call y) (Ends R P) :=
  (h.note _).next fun _ _ _ => Render.lockstep_heed hxy

theorem column (name : String) : Lockstep strict P (s.column name) (s.column name) (Same P) :=
  (h.field name none).nextSame fun _ => .ends rfl

theorem answer (f : Fragment) : Lockstep strict P (s.answer f) (s.answer f) (Same P) := by
  induction f with
  | text sql => exact .ends rfl
  | fail e => exact Render.lockstep_heed (.error fun _ => rfl)
  | column name next ih => exact (h.column name).nextSame fun field => ih field.name
  | root next ih =>
    refine Lockstep.nextSame (P := P) ?_ ih
    apply (h.note _).next
    intro _ _ _
    exact fun p q hpq => .ok ⟨h.root hpq, hpq⟩
  | look next ih => exact ih _

theorem fragment (f : Fragment) : Lockstep strict P (s.fragment f) (s.fragment f) (Same P) :=
  (h.note _).next fun _ _ _ => h.answer f

variable {subject : Subject} {v w : Value} {vs ws : List Value}

theorem single (operator : String) (hvw : W v w) :
    Lockstep strict P (s.single subject operator v) (s.single subject operator w) (Same P) :=
  (h.bind _ _ hvw).next fun _ _ _ => .ends rfl

theorem expanded (operator : Operator) (token : String)
    (hvs : List.Forall₂ (fun a b => W a b ∧ a.isNull = b.isNull) vs ws) :
    Lockstep strict P (s.expanded subject operator token vs)
      (s.expanded subject operator token ws) (Same P) := by
  have hlength := hvs.length_eq
  have hempty : vs.isEmpty = ws.isEmpty := forall₂_isEmpty hvs
  rw [expanded_eq, expanded_eq, hempty, hlength]
  split
  · exact .throw fun _ => rfl
  · apply (Lockstep.mapM hvs fun a b hab => h.single _ hab.1).next
    intro xs ys hxys
    rw [List.forall₂_eq_eq_eq] at hxys
    exact .ends (by rw [hxys])

theorem membership (negated : Bool)
    (hvs : List.Forall₂ (fun a b => W a b ∧ a.isNull = b.isNull) vs ws) :
    Lockstep strict P (s.membership subject negated vs) (s.membership subject negated ws)
      (Same P) := by
  have hkept : List.Forall₂ W (vs.filter fun v => !v.isNull) (ws.filter fun w => !w.isNull) := by
    induction hvs with
    | nil => exact .nil
    | @cons a b _ _ hab _ ih =>
      rw [List.filter_cons, List.filter_cons, hab.2]
      split
      · exact .cons hab.1 ih
      · exact ih
  have hany : vs.any Value.isNull = ws.any Value.isNull := by
    clear hkept
    induction hvs with
    | nil => rfl
    | cons hab _ ih => rw [List.any_cons, List.any_cons, hab.2, ih]
  simp only [Scope.membership, hany]
  generalize vs.filter (fun v => !v.isNull) = as at hkept ⊢
  generalize ws.filter (fun w => !w.isNull) = bs at hkept ⊢
  have hempty : as.isEmpty = bs.isEmpty := forall₂_isEmpty hkept
  have hplaces : as.map (fun _ => "?") = bs.map fun _ => "?" := by
    rw [List.map_const', List.map_const', hkept.length_eq]
  rw [hempty, hplaces]
  split
  · exact .ends rfl
  · exact (Lockstep.forM hkept fun a b hab => h.bind _ _ hab).next fun _ _ _ => .ends rfl

theorem range (token : String) (hvw : Value.Alike W v w) :
    Lockstep strict P (s.range subject token v) (s.range subject token w) (Same P) := by
  rcases hvw.list_or with ⟨vs, ws, rfl, rfl, hvs⟩ | ⟨hv, hw⟩
  · match hvs with
    | .cons ha (.cons hb .nil) =>
      exact (h.bind _ _ ha.1).next fun _ _ _ => (h.bind _ _ hb.1).next fun _ _ _ => .ends rfl
    | .nil => exact .throw fun _ => rfl
    | .cons _ .nil => exact .throw fun _ => rfl
    | .cons _ (.cons _ (.cons _ hrest)) =>
      exact .throw fun _ => by simp [hrest.length_eq]
  · rw [range_of_not_list hv, range_of_not_list hw]
    exact (h.bind _ _ hvw.whole).next fun _ _ _ => .ends rfl

theorem equality (negated : Bool) (hvw : Value.Alike W v w) :
    Lockstep strict P (s.equality subject negated v) (s.equality subject negated w) (Same P) := by
  rcases hvw.list_or with ⟨vs, ws, rfl, rfl, hvs⟩ | ⟨hv, hw⟩
  · exact h.membership negated hvs
  · have hn := hvw.isNull
    cases hvn : v.isNull with
    | true =>
      rw [hvn] at hn
      rw [Value.eq_null hvn, Value.eq_null hn.symm]
      exact .ends rfl
    | false =>
      rw [hvn] at hn
      rw [equality_of_not_list hv hvn, equality_of_not_list hw hn.symm]
      exact h.single _ hvw.whole

theorem plain (operator : Operator) (token : String) (hvw : Value.Alike W v w) :
    Lockstep strict P (s.plain subject operator token v) (s.plain subject operator token w)
      (Same P) := by
  have hcompared : Lockstep strict P (s.spread subject operator token v)
      (s.spread subject operator token w) (Same P) := by
    rcases hvw.list_or with ⟨vs, ws, rfl, rfl, hvs⟩ | ⟨hv, hw⟩
    · exact h.expanded operator token hvs
    · have hs : Lockstep strict P (s.single subject (s.operatorSql operator) v)
        (s.single subject (s.operatorSql operator) w) (Same P) := h.single _ hvw.whole
      cases v with
      | list => simp [Value.isList] at hv
      | _ =>
        cases w with
        | list => simp [Value.isList] at hw
        | _ => exact hs
  cases operator with
  | equal => exact h.equality false hvw
  | notEqual => exact h.equality true hvw
  | oneOf => exact h.membership false hvw.items
  | noneOf => exact h.membership true hvw.items
  | between => exact h.range token hvw
  | notBetween => exact (h.range token hvw).nextSame fun _ => .ends rfl
  | _ => exact hcompared

theorem transformed {c d : Comparison Query} (hcd : Comparison.Alike strict W G c d) :
    Lockstep strict P (s.transformed c) (s.transformed d)
      (Ends (Comparison.Settled strict W G) P) := by
  obtain ⟨column, operator, operand, converted⟩ := c
  obtain ⟨_, _, operand', _⟩ := d
  obtain ⟨rfl, rfl, hoperand, rfl⟩ := hcd
  cases hoperand with
  | value hv => exact .ends ⟨rfl, rfl, .value hv, rfl⟩
  | query hq => exact .ends ⟨rfl, rfl, .query hq, rfl⟩
  | fragment f => exact .ends ⟨rfl, rfl, .fragment f, rfl⟩
  | transformer hf =>
    exact (h.ask _ (hf column operator s.platform)).next fun t u htu =>
      .ends ⟨htu.column, htu.operator, htu.operand, rfl⟩

theorem compared {c d : Comparison Query} (hcd : Comparison.Settled strict W G c d) :
    Lockstep strict P (s.compared c) (s.compared d) (Same P) := by
  obtain ⟨column, operator, operand, converted⟩ := c
  obtain ⟨_, _, operand', _⟩ := d
  obtain ⟨rfl, rfl, hoperand, rfl⟩ := hcd
  apply (h.column column).nextSame
  intro field
  apply (Render.lockstep_lift (.of_eq (fun _ => rfl) _)).nextSame
  intro op
  cases hoperand with
  | value hv => exact h.plain op operator hv
  | query hq =>
    exact (h.query hq).nextSame fun sql => Render.lockstep_lift (.of_eq (fun _ => rfl) _)
  | fragment f =>
    exact (h.fragment f).nextSame fun sql => Render.lockstep_lift (.of_eq (fun _ => rfl) _)
  | transformer _ => exact .throw fun _ => rfl

theorem comparison {c d : Comparison Query} (hcd : Comparison.Alike strict W G c d) :
    Lockstep strict P (s.comparison c) (s.comparison d) (Same P) :=
  (h.transformed hcd).next fun _ _ => h.compared

end Scope.Steady

end ParamSql
