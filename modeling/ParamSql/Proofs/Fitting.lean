import ParamSql.Proofs.Criteria

namespace ParamSql

variable {σ : Type}

namespace Operator

/-- How many items a list on the right-hand side of an operator may have. -/
def TakesCount (operator : Operator) (n : Nat) : Prop :=
  match operator with
  | equal | notEqual | oneOf | noneOf => True
  | between | notBetween => n = 2
  | less | atMost | greater | atLeast | regex | like | notLike => 0 < n

/-- The values that fit an operator: all that are no lists, and lists without lists in them that
have as many items as the operator takes. -/
def Takes (operator : Operator) : Value → Prop
  | .list items => operator.TakesCount items.length ∧ ∀ item ∈ items, item.isList = false
  | _ => True

/-- Why a list of so many items does not fit an operator, if it does not. -/
def countFault? (operator : Operator) (n : Nat) : Option OperandFault :=
  match operator with
  | equal | notEqual | oneOf | noneOf => none
  | between | notBetween => if n = 2 then none else some (.boundCount n)
  | less | atMost | greater | atLeast | regex | like | notLike =>
    if n = 0 then some .emptyList else none

theorem takes_of_not_list {operator : Operator} {value : Value} (h : value.isList = false) :
    operator.Takes value := by
  cases value with
  | list => cases h
  | _ => trivial

theorem countFault?_eq_none_iff {operator : Operator} {n : Nat} :
    operator.countFault? n = none ↔ operator.TakesCount n := by
  cases operator <;> simp [countFault?, TakesCount, Nat.pos_iff_ne_zero]

end Operator

namespace Criterion

/-- A comparison with a known operator, and a value that fits it. -/
def Fits (c : Criterion) : Prop :=
  ∃ operator, Operator.ofToken? c.token = some operator ∧ operator.Takes c.value

/-- The fault of a comparison that does not fit: its token names no operator, or its operator does
not take as many items, or one of the items is a list, which cannot be bound. -/
def fault (c : Criterion) : CompileError :=
  match Operator.ofToken? c.token, c.value with
  | none, _ => .unsupportedOperator c.token
  | some operator, .list items =>
    match operator.countFault? items.length with
    | some fault => .invalidValue c.token fault
    | none => .conversion "mixed" .listValue
  | some _, _ => .conversion "mixed" .listValue

end Criterion

namespace Subject

variable {subject : Subject} (htype : subject.type = none) (types : TypeRegistry)

include htype

theorem scalar_of_not_list {v : Value} (hv : v.isList = false) :
    ∃ x, subject.scalar types v = .ok x := by
  unfold scalar
  rw [htype]
  cases v with
  | list => cases hv
  | _ => cases subject.converted <;> exact ⟨_, rfl⟩

theorem scalar_of_list {v : Value} (hv : v.isList = true) :
    subject.scalar types v = .error (.conversion "mixed" .listValue) := by
  obtain ⟨items, rfl⟩ := Value.eq_list hv
  unfold scalar
  rw [htype]
  cases subject.converted <;> rfl

theorem scalars_of_list {values : List Value} (h : ∃ v ∈ values, v.isList = true) :
    values.mapM (subject.scalar types) = .error (.conversion "mixed" .listValue) := by
  induction values with
  | nil => simp at h
  | cons value values ih =>
    cases hv : value.isList with
    | true => rw [List.mapM_cons, scalar_of_list htype types hv]; rfl
    | false =>
      obtain ⟨x, hx⟩ := scalar_of_not_list htype types hv
      have hrest : ∃ v ∈ values, v.isList = true := by simpa [hv] using h
      rw [List.mapM_cons, hx, ih hrest]
      rfl

end Subject

namespace Scope

variable {s : Scope σ} (column token : String) {operator : Operator} {items : List Value}

variable {column token} in
/-- Lists are to be bound if and only if there are lists among the items. -/
theorem exists_list_of_outline {value : Value} {values : List Value} {sql : String}
    (h : s.outline column operator token value = .ok (values, sql)) :
    (∃ v ∈ values, v.isList = true) ↔ ∃ item ∈ value.items, item.isList = true := by
  obtain rfl | rfl := values_outline h
  · rfl
  · have hnull {v : Value} (hv : v.isList = true) : v.isNull = false := by
      obtain ⟨vs, rfl⟩ := Value.eq_list hv
      rfl
    constructor
    · rintro ⟨v, hv, hlist⟩
      exact ⟨v, List.mem_of_mem_filter hv, hlist⟩
    · rintro ⟨v, hv, hlist⟩
      exact ⟨v, List.mem_filter.2 ⟨hv, by rw [hnull hlist]; rfl⟩, hlist⟩

theorem outline_of_countFault {fault : OperandFault}
    (h : operator.countFault? items.length = some fault) :
    s.outline column operator token (.list items) = .error (.invalidValue token fault) := by
  have hbounds (h : Operator.between.countFault? items.length = some fault) :
      s.bounds column token (.list items) = .error (.invalidValue token fault) := by
    match items with
    | [_, _] => cases h
    | [] | [_] | _ :: _ :: _ :: _ =>
      cases h
      rfl
  have heach (hempty : items.length = 0) (hfault : OperandFault.emptyList = fault) :
      s.each column operator token (.list items) = .error (.invalidValue token fault) := by
    obtain rfl := List.length_eq_zero_iff.1 hempty
    rw [← hfault]
    rfl
  cases operator with
  | equal | notEqual | oneOf | noneOf => cases h
  | between => exact hbounds h
  | notBetween =>
    change (s.bounds column token (.list items)).map _ = _
    rw [hbounds h]
    rfl
  | _ =>
    simp only [Operator.countFault?, Option.ite_none_right_eq_some, Option.some.injEq] at h
    exact heach h.1 h.2

theorem outline_of_takesCount (h : operator.TakesCount items.length) :
    ∃ o, s.outline column operator token (.list items) = .ok o := by
  have hbounds (h : items.length = 2) : ∃ o, s.bounds column token (.list items) = .ok o := by
    obtain ⟨low, high, rfl⟩ := List.length_eq_two.1 h
    exact ⟨_, rfl⟩
  have heach (h : 0 < items.length) : ∃ o, s.each column operator token (.list items) = .ok o := by
    cases items with
    | nil => cases h
    | cons item items => exact ⟨_, rfl⟩
  cases operator with
  | equal | notEqual | oneOf | noneOf => exact ⟨_, rfl⟩
  | between => exact hbounds h
  | notBetween =>
    obtain ⟨o, ho⟩ := hbounds h
    exact ⟨(o.1, s.platform.negation o.2), by rw [outline, ho]; rfl⟩
  | _ => exact heach h

theorem outline_of_plain {value : Value} (h : value.isList = false) :
    ∃ o, s.outline column operator token value = .ok o := by
  have hbounds := bounds_of_plain (s := s) h column token
  cases operator with
  | equal | notEqual | oneOf | noneOf => exact ⟨_, rfl⟩
  | between => exact ⟨_, hbounds⟩
  | notBetween => exact ⟨_, by rw [outline, hbounds]; rfl⟩
  | _ => exact ⟨_, each_of_plain h column token _⟩

theorem outline_of_takes (s : Scope σ) (column token : String) {operator : Operator}
    {value : Value} (h : operator.Takes value) :
    ∃ values sql, s.outline column operator token value = .ok (values, sql) ∧
      ∀ v ∈ values, v.isList = false := by
  have hitems : (∃ o, s.outline column operator token value = .ok o) ∧
      ∀ item ∈ value.items, item.isList = false := by
    cases hlist : value.isList with
    | false =>
      refine ⟨outline_of_plain column token hlist, ?_⟩
      rw [Value.items_of_plain hlist]
      simpa using hlist
    | true =>
      obtain ⟨items, rfl⟩ := Value.eq_list hlist
      exact ⟨outline_of_takesCount column token h.1, h.2⟩
  obtain ⟨⟨⟨values, sql⟩, houtline⟩, hitems⟩ := hitems
  refine ⟨values, sql, houtline, fun v hv => Bool.eq_false_iff.2 fun hlist => ?_⟩
  obtain ⟨item, hitem, hlist⟩ := (exists_list_of_outline houtline).1 ⟨v, hv, hlist⟩
  exact Bool.eq_false_iff.1 (hitems item hitem) hlist

end Scope

namespace Criterion

variable {s : Scope σ} {c : Criterion}

theorem outcome_eq {operator : Operator} (h : Operator.ofToken? c.token = some operator) :
    c.outcome s [] = s.outcome (c.subject s []) operator c.token c.value := by
  rw [Criterion.outcome, Operator.ofToken, h]
  rfl

theorem type_subject (c : Criterion) (s : Scope σ) : (c.subject s []).type = none := rfl

theorem Fits.outcome (h : c.Fits) : ∃ r, c.outcome s [] = .ok r := by
  obtain ⟨operator, hoperator, htakes⟩ := h
  obtain ⟨values, sql, houtline, hvalues⟩ :=
    s.outline_of_takes (c.subject s []).column c.token htakes
  obtain ⟨xs, hxs⟩ := exists_mapM_eq_ok fun v hv =>
    Subject.scalar_of_not_list (c.type_subject s) s.compiler.types (hvalues v hv)
  refine ⟨(sql, xs), ?_⟩
  rw [outcome_eq hoperator, Scope.outcome_eq_ok_iff]
  exact ⟨values, houtline, mapM_eq_ok_iff.1 hxs⟩

theorem outcome_of_not_fits (h : ¬ c.Fits) : c.outcome s [] = .error c.fault := by
  cases hoperator : Operator.ofToken? c.token with
  | none =>
    rw [Criterion.outcome, Operator.ofToken, fault, hoperator]
    rfl
  | some operator =>
    have htakes : ¬ operator.Takes c.value := fun htakes => h ⟨operator, hoperator, htakes⟩
    have hlist : c.value.isList = true := by
      by_contra hlist
      exact htakes (Operator.takes_of_not_list (Bool.eq_false_iff.2 hlist))
    obtain ⟨items, hitems⟩ := Value.eq_list hlist
    rw [hitems] at htakes
    rw [outcome_eq hoperator, Scope.outcome, fault, hoperator, hitems]
    cases hcount : operator.countFault? items.length with
    | some fault =>
      rw [Scope.outline_of_countFault _ _ hcount]
      simp only [hcount]
      rfl
    | none =>
      rw [Operator.countFault?_eq_none_iff] at hcount
      have hmember : ∃ item ∈ items, item.isList = true := by
        by_contra hnone
        exact htakes ⟨hcount, fun item hitem =>
          Bool.eq_false_iff.2 fun hlist => hnone ⟨item, hitem, hlist⟩⟩
      obtain ⟨⟨values, sql⟩, houtline⟩ :=
        Scope.outline_of_takesCount (s := s) (c.subject s []).column c.token hcount
      rw [houtline]
      change (values.mapM _ >>= fun xs => Except.ok (sql, xs)) = _
      rw [Subject.scalars_of_list (c.type_subject s) s.compiler.types
        ((Scope.exists_list_of_outline houtline).2 hmember)]
      simp only [Operator.countFault?_eq_none_iff.2 hcount]
      rfl

/-- A comparison comes to something if and only if it fits. -/
theorem outcome_ok_iff : (∃ r, c.outcome s [] = .ok r) ↔ c.Fits := by
  refine ⟨?_, Fits.outcome⟩
  rintro ⟨r, hr⟩
  by_contra hnot
  cases hr.symm.trans (outcome_of_not_fits hnot)

end Criterion

/-- Where no column has a declared type, a list of comparisons with values is compiled if and only
if each of them fits. If one does not, the list fails for the fault of the first that does not,
from left to right at all depths. -/
theorem Scope.conditions_ok_iff_fits {s : Scope (Option String)}
    (hresolver : s.compiler.resolver = .declared []) {list : List (Condition Query)}
    {cs : List Criterion} (hlist : Condition.leavesOf list = cs.map Criterion.condition)
    {p : Progress (Option String)} (hp : p.pending = []) :
    ((∃ sql q, s.conditions list p = .ok sql q) ↔ ∀ c ∈ cs, c.Fits) ∧
      ∀ before c after, cs = before ++ c :: after → (∀ b ∈ before, b.Fits) → ¬ c.Fits →
        ∃ q, s.conditions list p = .error c.fault q := by
  refine ⟨⟨?_, fun hfits => ?_⟩, ?_⟩
  · rintro ⟨sql, q, hok⟩ c hc
    obtain ⟨rs, hrs⟩ := outcomes_of_conditions hresolver hlist hp hok
    obtain ⟨r, _, hr⟩ := forall₂_exists (mapM_eq_ok_iff.1 hrs).flip hc
    exact Criterion.outcome_ok_iff.1 ⟨r, hr⟩
  · obtain ⟨rs, hrs⟩ := exists_mapM_eq_ok fun c hc => (hfits c hc).outcome (s := s)
    obtain ⟨q, hq, _⟩ := conditions_of_outcomes hresolver hlist hp hrs
    exact ⟨_, q, hq⟩
  · intro before c after hcs hbefore hc
    apply conditions_of_outcomes_error hresolver hlist hp
    rw [hcs]
    exact mapM_eq_error (fun b hb => (hbefore b hb).outcome) (Criterion.outcome_of_not_fits hc)

namespace Criterion

def cheap : Criterion := ⟨.and, "price", "<", .list [.integer 5, .integer 7], false⟩

def stocked : Criterion := ⟨.or, "stock", "Between ", .list [.integer 1], false⟩

def titled : Criterion := ⟨.and, "title", "~~", .null, false⟩

end Criterion

/-- Of two comparisons that do not fit the first decides, however deep it stands. -/
theorem Scope.conditions_ok_iff_fits_stocked :
    ∃ q, ((Compiler.ofDialect .mysql).scope (Query.empty .select)).conditions
      [.group .and [Criterion.cheap.condition, .group .or [Criterion.stocked.condition]],
        Criterion.titled.condition] ⟨none, [], [], []⟩ =
      .error (.invalidValue "Between " (.boundCount 1)) q := by
  have hcheap : Criterion.cheap.Fits := by
    refine ⟨.less, by cbv, Nat.succ_pos 1, ?_⟩
    simp [Value.isList]
  have hstocked : ¬ Criterion.stocked.Fits := by
    have htoken : Operator.ofToken? "Between " = some .between := by cbv
    rintro ⟨operator, hoperator, htakes⟩
    cases htoken.symm.trans hoperator
    exact absurd htakes.1 (by decide : ¬ 1 = 2)
  have hfault : Criterion.stocked.fault = .invalidValue "Between " (.boundCount 1) := by cbv
  rw [← hfault]
  exact (Scope.conditions_ok_iff_fits
    (s := (Compiler.ofDialect .mysql).scope (Query.empty .select)) rfl rfl rfl).2
      [.cheap] .stocked [.titled] rfl (by simpa using hcheap) hstocked

end ParamSql
