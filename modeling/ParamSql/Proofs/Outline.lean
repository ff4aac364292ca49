import ParamSql.Proofs.Along
import ParamSql.Proofs.Mapped
import ParamSql.Proofs.Negation

namespace ParamSql

variable {σ α β : Type}

theorem Value.items_of_plain {v : Value} (h : v.isList = false) : v.items = [v] := by
  cases v with
  | list => cases h
  | _ => rfl

namespace Scope

variable {s : Scope σ} {subject : Subject}

/-- The outline of membership: of the items all but the nulls are bound. -/
def among (s : Scope σ) (column : String) (negated : Bool) (items : List Value) :
    List Value × String :=
  let test := s.nullCheck negated column
  let values := items.filter fun item => !item.isNull
  if values.isEmpty then ([], test)
  else
    let sql := column ++ (if negated then " NOT IN (" else " IN (") ++
      ",".intercalate (values.map fun _ => "?") ++ ")"
    (values,
      if items.any Value.isNull then
        "(" ++ sql ++ (if negated then " AND " else " OR ") ++ test ++ ")"
      else sql)

/-- The outline of equality, or of inequality. -/
def equals (s : Scope σ) (column : String) (negated : Bool) : Value → List Value × String
  | .list items => s.among column negated items
  | .null => ([], s.nullCheck negated column)
  | value => ([value], column ++ " " ++ (if negated then "!=" else "=") ++ " ?")

/-- The outline of a range. -/
def bounds (s : Scope σ) (column token : String) :
    Value → Except CompileError (List Value × String)
  | .list [low, high] => .ok ([low, high], s.platform.between column "?" "?")
  | .list items => .error (.invalidValue token (.boundCount items.length))
  | value => .ok ([value], s.platform.between column "0" "?")

/-- The outline of a comparison with a value, or with each item of a list. -/
def each (s : Scope σ) (column : String) (operator : Operator) (token : String) :
    Value → Except CompileError (List Value × String)
  | .list items =>
    let sql := (if operator.isNegative then " AND " else " OR ").intercalate
      (items.map fun _ => column ++ " " ++ s.operatorSql operator ++ " ?")
    if items.isEmpty then .error (.invalidValue token .emptyList)
    else .ok (items, if 1 < items.length then "(" ++ sql ++ ")" else sql)
  | value => .ok ([value], column ++ " " ++ s.operatorSql operator ++ " ?")

/-- The outline of a comparison with a value. -/
def outline (s : Scope σ) (column : String) (operator : Operator) (token : String)
    (value : Value) : Except CompileError (List Value × String) :=
  match operator with
  | .equal => .ok (s.equals column false value)
  | .notEqual => .ok (s.equals column true value)
  | .oneOf => .ok (s.among column false value.items)
  | .noneOf => .ok (s.among column true value.items)
  | .between => s.bounds column token value
  | .notBetween => (s.bounds column token value).map fun o => (o.1, s.platform.negation o.2)
  | .less | .atMost | .greater | .atLeast | .regex | .like | .notLike =>
    s.each column operator token value

/-- Binds the values of an outline and writes its text. -/
def follow (s : Scope σ) (subject : Subject) (o : List Value × String) : Render σ String := do
  o.1.forM (s.bindFor subject)
  return o.2

theorem values_among (column : String) (negated : Bool) (items : List Value) :
    (s.among column negated items).1 = items.filter fun item => !item.isNull := by
  simp only [among]
  split
  · exact (List.isEmpty_iff.1 ‹_›).symm
  · rfl

theorem values_equals (column : String) (negated : Bool) (value : Value) :
    (s.equals column negated value).1 = value.items.filter fun item => !item.isNull := by
  cases value with
  | list items => exact values_among column negated items
  | _ => rfl

theorem equals_of_plain {v : Value} (hnull : v.isNull = false) (hlist : v.isList = false)
    (column : String) (negated : Bool) :
    s.equals column negated v =
      ([v], column ++ " " ++ (if negated then "!=" else "=") ++ " ?") := by
  cases v with
  | null => cases hnull
  | list => cases hlist
  | _ => rfl

theorem bounds_of_plain {v : Value} (h : v.isList = false) (column token : String) :
    s.bounds column token v = .ok ([v], s.platform.between column "0" "?") := by
  cases v with
  | list => cases h
  | _ => rfl

theorem each_of_plain {v : Value} (h : v.isList = false) (column token : String)
    (operator : Operator) :
    s.each column operator token v =
      .ok ([v], column ++ " " ++ s.operatorSql operator ++ " ?") := by
  cases v with
  | list => cases h
  | _ => rfl

theorem values_bounds {column token sql : String} {value : Value} {values : List Value}
    (h : s.bounds column token value = .ok (values, sql)) : values = value.items := by
  cases hlist : value.isList with
  | true =>
    obtain ⟨items, rfl⟩ := Value.eq_list hlist
    match items with
    | [_, _] =>
      cases h
      rfl
    | [] | [_] | _ :: _ :: _ :: _ => cases h
  | false =>
    rw [bounds_of_plain hlist] at h
    cases h
    exact (Value.items_of_plain hlist).symm

theorem values_each {column token sql : String} {operator : Operator} {value : Value}
    {values : List Value} (h : s.each column operator token value = .ok (values, sql)) :
    values = value.items := by
  cases hlist : value.isList with
  | true =>
    obtain ⟨items, rfl⟩ := Value.eq_list hlist
    simp only [each] at h
    split at h
    · cases h
    · cases h
      rfl
  | false =>
    rw [each_of_plain hlist] at h
    cases h
    exact (Value.items_of_plain hlist).symm

theorem values_outline {column token sql : String} {operator : Operator} {value : Value}
    {values : List Value} (h : s.outline column operator token value = .ok (values, sql)) :
    values = value.items ∨ values = value.items.filter fun item => !item.isNull := by
  have hequals {negated : Bool} (h : s.equals column negated value = (values, sql)) :
      values = value.items.filter fun item => !item.isNull := by
    rw [← values_equals column negated value, h]
  have hamong {negated : Bool} (h : s.among column negated value.items = (values, sql)) :
      values = value.items.filter fun item => !item.isNull := by
    rw [← values_among column negated value.items, h]
  cases operator with
  | equal | notEqual => exact .inr (hequals (Except.ok.inj h))
  | oneOf | noneOf => exact .inr (hamong (Except.ok.inj h))
  | between => exact .inl (values_bounds h)
  | notBetween =>
    simp only [outline] at h
    cases hbounds : s.bounds column token value with
    | ok o =>
      rw [hbounds] at h
      cases h
      exact .inl (values_bounds hbounds)
    | error e =>
      rw [hbounds] at h
      cases h
  | _ => exact .inl (values_each h)

theorem membership_eq (negated : Bool) (items : List Value) :
    s.membership subject negated items =
      s.follow subject (s.among subject.column negated items) := by
  simp only [membership, among]
  split <;> rfl

theorem single_follow (operator : String) (value : Value) :
    s.single subject operator value =
      s.follow subject ([value], subject.column ++ " " ++ operator ++ " ?") :=
  single_eq operator value

theorem equality_eq (negated : Bool) (value : Value) :
    s.equality subject negated value =
      s.follow subject (s.equals subject.column negated value) := by
  cases value with
  | list items => exact membership_eq negated items
  | null => rfl
  | _ => exact single_follow _ _

theorem range_eq (token : String) (value : Value) :
    s.range subject token value =
      Render.lift (s.bounds subject.column token value) >>= s.follow subject := by
  cases hlist : value.isList with
  | false =>
    rw [range_of_not_list hlist, bounds_of_plain hlist]
    exact (bindEach_cons value [] _).symm
  | true =>
    obtain ⟨items, rfl⟩ := Value.eq_list hlist
    match items with
    | [low, high] =>
      change _ = s.follow subject ([low, high], _)
      rw [follow, bindEach_cons, bindEach_cons]
      rfl
    | [] => rfl
    | [_] => rfl
    | _ :: _ :: _ :: _ => rfl

theorem spread_eq (operator : Operator) (token : String) (value : Value) :
    s.spread subject operator token value =
      Render.lift (s.each subject.column operator token value) >>= s.follow subject := by
  cases hlist : value.isList with
  | false =>
    cases value with
    | list => simp [Value.isList] at hlist
    | _ => exact single_follow _ _
  | true =>
    obtain ⟨items, rfl⟩ := Value.eq_list hlist
    change s.expanded subject operator token items = _
    rw [expanded_eq, each]
    split
    · rfl
    · simp only [mapM_single_eq, bind_assoc, pure_bind]
      rfl

theorem plain_eq (operator : Operator) (token : String) (value : Value) :
    s.plain subject operator token value =
      Render.lift (s.outline subject.column operator token value) >>= s.follow subject := by
  cases operator with
  | equal => exact equality_eq false value
  | notEqual => exact equality_eq true value
  | oneOf => exact membership_eq false value.items
  | noneOf => exact membership_eq true value.items
  | between => exact range_eq token value
  | notBetween =>
    simp only [plain, outline, range_eq]
    cases s.bounds subject.column token value with
    | ok o =>
      simp only [follow, Except.map, Render.lift, pure_bind, bind_assoc]
    | error e => rfl
  | _ => exact spread_eq _ token value

end Scope

/-- The scalar that a value goes over as where it is compared with a subject, or why it has none. -/
def Subject.scalar (types : TypeRegistry) (subject : Subject) (value : Value) :
    Except CompileError Scalar :=
  if subject.converted then
    match value.scalar? with
    | some x => .ok x
    | none => types.scalar none value
  else types.scalar subject.type value

/-- What a rendering comes to from any progress: a result with the scalars that are bound for it, or
the cause of its failure. If it succeeds, nothing else of the progress changes but the journal. -/
def Render.ComesTo (f : Render σ α) : Except CompileError (α × List Scalar) → Prop
  | .ok (a, xs) => ∀ p, ∃ j, f p = .ok a { p with bound := p.bound ++ xs, journal := j }
  | .error e => ∀ p, ∃ q, f p = .error e q

namespace Render.ComesTo

variable {f : Render σ α} {k : α → Render σ β}

theorem pure (a : α) : ComesTo (Pure.pure a : Render σ α) (.ok (a, [])) :=
  fun p => ⟨p.journal, by rw [List.append_nil]; rfl⟩

theorem of_ok {a b : α} {xs : List Scalar} {p q : Progress σ} (hf : f.ComesTo (.ok (a, xs)))
    (h : f p = .ok b q) : b = a ∧ q.bound = p.bound ++ xs := by
  obtain ⟨j, hj⟩ := hf p
  cases hj.symm.trans h
  exact ⟨rfl, rfl⟩

theorem not_ok {e : CompileError} {a : α} {p q : Progress σ} (hf : f.ComesTo (.error e)) :
    f p ≠ .ok a q := by
  intro h
  obtain ⟨q', hq'⟩ := hf p
  cases hq'.symm.trans h

theorem throw (e : CompileError) : ComesTo (MonadExcept.throw e : Render σ α) (.error e) :=
  fun p => ⟨p, rfl⟩

theorem stop {e : CompileError} (hf : f.ComesTo (.error e)) : (f >>= k).ComesTo (.error e) := by
  intro p
  obtain ⟨q, hq⟩ := hf p
  exact ⟨q, bind_of_error hq⟩

theorem next {a : α} {xs : List Scalar} {o : Except CompileError (β × List Scalar)}
    (hf : f.ComesTo (.ok (a, xs))) (hk : (k a).ComesTo o) :
    (f >>= k).ComesTo (o.map fun r => (r.1, xs ++ r.2)) := by
  cases o with
  | ok r =>
    intro p
    obtain ⟨j, hj⟩ := hf p
    obtain ⟨j', hj'⟩ := hk { p with bound := p.bound ++ xs, journal := j }
    refine ⟨j', ?_⟩
    rw [bind_of_ok hj, hj', List.append_assoc]
  | error e =>
    intro p
    obtain ⟨j, hj⟩ := hf p
    obtain ⟨q, hq⟩ := hk { p with bound := p.bound ++ xs, journal := j }
    exact ⟨q, (bind_of_ok hj).trans hq⟩

theorem after {a : α} {o : Except CompileError (β × List Scalar)} (hf : f.ComesTo (.ok (a, [])))
    (hk : (k a).ComesTo o) : (f >>= k).ComesTo o := by
  have hnext := hf.next hk
  cases o with
  | ok r => exact hnext
  | error e => exact hnext

theorem last {o : Except CompileError (α × List Scalar)} (hf : f.ComesTo o) (g : α → β) :
    (f >>= fun a => Pure.pure (g a)).ComesTo (o.map fun r => (g r.1, r.2)) := by
  cases o with
  | ok r =>
    have hnext := hf.next (k := fun a => Pure.pure (g a)) (pure (g r.1))
    simpa only [Except.map, List.append_nil] using hnext
  | error e => exact hf.stop

theorem mapM {k : α → Render σ β} {outcome : α → Except CompileError (β × List Scalar)}
    {as : List α} (hk : ∀ a ∈ as, (k a).ComesTo (outcome a)) :
    (as.mapM k).ComesTo ((as.mapM outcome).map fun rs => (rs.map (·.1), rs.flatMap (·.2))) := by
  induction as with
  | nil => exact pure []
  | cons a as ih =>
    rw [List.forall_mem_cons] at hk
    obtain ⟨hfirst, hrest⟩ := hk
    rw [List.mapM_cons, List.mapM_cons]
    cases hr : outcome a with
    | error e =>
      rw [hr] at hfirst
      exact hfirst.stop
    | ok r =>
      rw [hr] at hfirst
      have hboth := hfirst.next (k := fun b => as.mapM k >>= fun bs => Pure.pure (b :: bs))
        ((ih hrest).last (r.1 :: ·))
      cases hrs : as.mapM outcome with
      | ok rs =>
        rw [hrs] at hboth
        exact hboth
      | error e =>
        rw [hrs] at hboth
        exact hboth

end Render.ComesTo

namespace Scope

variable {s : Scope σ}

theorem scalar_comesTo (subject : Subject) (value : Value) :
    (s.scalar subject.type subject.converted value).ComesTo
      ((subject.scalar s.compiler.types value).map fun x => (x, [])) := by
  have hask (answer : Except CompileError Scalar) :
      (Render.ask .convert answer : Render σ Scalar).ComesTo
        (answer.map fun x => (x, [])) := by
    cases answer with
    | ok x => exact fun p => ⟨_, by rw [List.append_nil]; rfl⟩
    | error e => exact fun p => ⟨_, rfl⟩
  unfold Scope.scalar Subject.scalar
  split
  · cases value.scalar? with
    | some x => exact .pure x
    | none => exact hask _
  · exact hask _

theorem bindEach_comesTo (subject : Subject) (values : List Value) :
    (values.forM (s.bindFor subject)).ComesTo
      ((values.mapM (subject.scalar s.compiler.types)).map fun xs => ((), xs)) := by
  induction values with
  | nil => exact .pure ()
  | cons value values ih =>
    have hscalar := s.scalar_comesTo subject value
    rw [List.mapM_cons]
    change (s.bindFor subject value >>= fun _ => values.forM _).ComesTo _
    cases hx : subject.scalar s.compiler.types value with
    | error e =>
      rw [hx] at hscalar
      exact (Render.ComesTo.stop hscalar).stop
    | ok x =>
      rw [hx] at hscalar
      have hbind : (s.bindFor subject value).ComesTo (.ok ((), [x])) :=
        hscalar.next (o := .ok ((), [x])) fun p => ⟨p.journal, rfl⟩
      have hboth := hbind.next (k := fun _ => values.forM (s.bindFor subject)) ih
      cases hxs : values.mapM (subject.scalar s.compiler.types) with
      | ok xs =>
        rw [hxs] at hboth
        exact hboth
      | error e =>
        rw [hxs] at hboth
        exact hboth

/-- What a comparison with a value comes to: the text of its outline, with the scalars of the values
in their order. -/
def outcome (s : Scope σ) (subject : Subject) (operator : Operator) (token : String)
    (value : Value) : Except CompileError (String × List Scalar) := do
  let o ← s.outline subject.column operator token value
  let xs ← o.1.mapM (subject.scalar s.compiler.types)
  return (o.2, xs)

theorem outcome_eq_ok_iff {subject : Subject} {operator : Operator} {token sql : String}
    {value : Value} {xs : List Scalar} :
    s.outcome subject operator token value = .ok (sql, xs) ↔
      ∃ values, s.outline subject.column operator token value = .ok (values, sql) ∧
        List.Forall₂ (fun v x => subject.scalar s.compiler.types v = .ok x) values xs := by
  rw [outcome]
  cases s.outline subject.column operator token value with
  | error e => exact ⟨nofun, nofun⟩
  | ok o =>
    simp only [← mapM_eq_ok_iff]
    change (o.1.mapM _ >>= fun xs => Except.ok (o.2, xs)) = _ ↔ _
    cases hxs : o.1.mapM (subject.scalar s.compiler.types) with
    | error e =>
      refine ⟨nofun, ?_⟩
      rintro ⟨values, ho, hvalues⟩
      cases ho
      cases hxs.symm.trans hvalues
    | ok ys =>
      constructor
      · intro h
        cases h
        exact ⟨o.1, rfl, hxs⟩
      · rintro ⟨values, ho, hvalues⟩
        cases ho
        cases hxs.symm.trans hvalues
        rfl

/-- A comparison with a value comes to what its outcome says. -/
theorem plain_comesTo (subject : Subject) (operator : Operator) (token : String) (value : Value) :
    (s.plain subject operator token value).ComesTo (s.outcome subject operator token value) := by
  rw [plain_eq, outcome]
  cases s.outline subject.column operator token value with
  | error e => exact Render.ComesTo.stop (.throw e)
  | ok o =>
    have hfollow := (bindEach_comesTo (s := s) subject o.1).last fun _ => o.2
    change (s.follow subject o).ComesTo (o.1.mapM _ >>= fun xs => .ok (o.2, xs))
    cases hxs : o.1.mapM (subject.scalar s.compiler.types) with
    | ok xs =>
      rw [hxs] at hfollow
      exact hfollow
    | error e =>
      rw [hxs] at hfollow
      exact hfollow

theorem comparison_eq (column token : String) (value : Value) (converted : Bool) :
    s.comparison ⟨column, token, .value value, converted⟩ = (do
      let field ← s.column column
      let operator ← Render.lift (Operator.ofToken token)
      s.plain ⟨field.name, field.type, converted⟩ operator token value) :=
  rfl

theorem comparison_of_ok {column token sql : String} {value : Value} {converted : Bool}
    {p q : Progress σ}
    (h : s.comparison ⟨column, token, .value value, converted⟩ p = .ok sql q) :
    ∃ field x operator xs, s.compiler.resolver.field column none p.state = .ok field x ∧
      Operator.ofToken token = .ok operator ∧ q.bound = p.bound ++ xs ∧
      s.outcome ⟨s.quote field.name, field.type, converted⟩ operator token value =
        .ok (sql, xs) := by
  rw [comparison_eq] at h
  obtain ⟨field, p₁, hcolumn, h⟩ := ok_of_bind h
  rw [column_eq] at hcolumn
  cases hfield : s.compiler.resolver.field column none p.state with
  | error e x =>
    rw [hfield] at hcolumn
    cases hcolumn
  | ok resolved x =>
    rw [hfield] at hcolumn
    cases hcolumn
    cases hoperator : Operator.ofToken token with
    | error e =>
      rw [hoperator] at h
      cases h
    | ok operator =>
      rw [hoperator] at h
      have hplain := s.plain_comesTo ⟨s.quote resolved.name, resolved.type, converted⟩ operator
        token value
      cases houtcome : s.outcome ⟨s.quote resolved.name, resolved.type, converted⟩ operator token
          value with
      | error e =>
        rw [houtcome] at hplain
        exact absurd h hplain.not_ok
      | ok r =>
        rw [houtcome] at hplain
        obtain ⟨rfl, hbound⟩ := hplain.of_ok h
        exact ⟨resolved, x, operator, r.2, rfl, rfl, hbound, houtcome⟩

/-- A comparison with a value is compiled to its outcome, where its column is resolved and its
operator known. -/
theorem comparison_of_outcome {column token sql : String} {value : Value} {converted : Bool}
    {p : Progress σ} {field : Field} {x : σ} {operator : Operator} {xs : List Scalar}
    (hfield : s.compiler.resolver.field column none p.state = .ok field x)
    (hoperator : Operator.ofToken token = .ok operator)
    (houtcome : s.outcome ⟨s.quote field.name, field.type, converted⟩ operator token value =
      .ok (sql, xs)) :
    ∃ q, s.comparison ⟨column, token, .value value, converted⟩ p = .ok sql q ∧
      q.bound = p.bound ++ xs := by
  have hcolumn := s.column_eq column p
  rw [hfield] at hcolumn
  have hplain := s.plain_comesTo ⟨s.quote field.name, field.type, converted⟩ operator token value
  rw [houtcome] at hplain
  obtain ⟨j, hj⟩ := hplain
    { p with journal := p.journal ++ [.asked (.field column none)], state := x }
  have hrun : s.comparison ⟨column, token, .value value, converted⟩ p =
      .ok sql { p with state := x, bound := p.bound ++ xs, journal := j } := by
    rw [comparison_eq, bind_of_ok hcolumn, hoperator]
    exact hj
  exact ⟨_, hrun, rfl⟩

end Scope

end ParamSql
