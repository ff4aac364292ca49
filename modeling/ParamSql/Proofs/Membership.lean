import ParamSql.Proofs.Kinds
import ParamSql.Proofs.Outline

namespace ParamSql

variable {σ : Type}

/-- A platform that tests for null in the common way. -/
structure Platform.TestsNull (p : Platform) : Prop where
  isNull (expression : String) : p.isNull expression = expression ++ " IS NULL"
  isNotNull (expression : String) : p.isNotNull expression = expression ++ " IS NOT NULL"

/-- Whether an operator asks of a list if the column's value is not among its items. None if it asks
something else. -/
def Operator.membership? : Operator → Option Bool
  | .equal | .oneOf => some false
  | .notEqual | .noneOf => some true
  | _ => none

/-- The scalar `v` is equal to one of the scalars that items are bound to, or it is null and so is
one of the items or all of them. -/
def Comparisons.IsAmong (m : Comparisons) (items : List Value) (xs : List Scalar) (v : Scalar) :
    Prop :=
  (v.isNull = false ∧ ∃ x ∈ xs, m.equal v x = true) ∨
    (v.isNull = true ∧
      ((∃ item ∈ items, item.isNull = true) ∨ ∀ item ∈ items, item.isNull = true))

/-- The scalar `v` is not null, and not equal to any of the scalars that items are bound to. -/
def Comparisons.IsApart (m : Comparisons) (xs : List Scalar) (v : Scalar) : Prop :=
  v.isNull = false ∧ ∀ x ∈ xs, m.equal v x = false

namespace Ternary

variable {holds : Scalar → Scalar → Bool} {v x : Scalar}

theorem compare_eq_yes (hx : x.isNull = false) :
    compare holds v x = yes ↔ v.isNull = false ∧ holds v x = true := by
  rw [compare, hx]
  cases v.isNull <;> simp [ofBool_eq_yes]

theorem compare_eq_no (hx : x.isNull = false) :
    compare holds v x = no ↔ v.isNull = false ∧ holds v x = false := by
  rw [compare, hx]
  cases v.isNull <;> simp [ofBool_eq_no]

end Ternary

section Truth

variable {m : Comparisons} {v : Scalar} {xs : List Scalar} (hxs : ∀ x ∈ xs, x.isNull = false)

include hxs

theorem Check.truth_among_eq_yes :
    (among xs).truth m v = .yes ↔ v.isNull = false ∧ ∃ x ∈ xs, m.equal v x = true := by
  rw [truth, Ternary.foldl_or_eq_yes]
  constructor
  · rintro (h | ⟨x, hx, h⟩)
    · cases h
    · rw [Ternary.compare_eq_yes (hxs x hx)] at h
      exact ⟨h.1, x, hx, h.2⟩
  · rintro ⟨hv, x, hx, h⟩
    exact .inr ⟨x, hx, (Ternary.compare_eq_yes (hxs x hx)).2 ⟨hv, h⟩⟩

theorem Check.truth_among_eq_no (hne : xs ≠ []) :
    (among xs).truth m v = .no ↔ m.IsApart xs v := by
  rw [truth, Ternary.foldl_or_eq_no]
  constructor
  · rintro ⟨_, h⟩
    have heach (x : Scalar) (hx : x ∈ xs) := (Ternary.compare_eq_no (hxs x hx)).1 (h x hx)
    exact ⟨(heach _ (List.head_mem hne)).1, fun x hx => (heach x hx).2⟩
  · rintro ⟨hv, h⟩
    exact ⟨rfl, fun x hx => (Ternary.compare_eq_no (hxs x hx)).2 ⟨hv, h x hx⟩⟩

end Truth

namespace Predicate

/-- Membership among scalars, and the test for null if there is a null besides or nothing at all. -/
def membership (negated hasNull : Bool) (xs : List Scalar) : Predicate :=
  if xs.isEmpty then ⟨.or, ⟨.null, negated⟩, []⟩
  else ⟨if negated then .and else .or, ⟨.among xs, negated⟩,
    if hasNull then [⟨.null, negated⟩] else []⟩

theorem bound_membership (negated hasNull : Bool) (xs : List Scalar) :
    (membership negated hasNull xs).bound = xs := by
  unfold membership
  split
  · exact (List.isEmpty_iff.1 ‹_›).symm
  · cases hasNull <;> exact List.append_nil xs

variable {m : Comparisons} {v : Scalar} {xs : List Scalar} (hxs : ∀ x ∈ xs, x.isNull = false)

include hxs

theorem truth_membership (hasNull : Bool) :
    (membership false hasNull xs).truth m v = .yes ↔
      (v.isNull = false ∧ ∃ x ∈ xs, m.equal v x = true) ∨
        (v.isNull = true ∧ (hasNull = true ∨ xs = [])) := by
  have hnull : (⟨.null, false⟩ : Test).truth m v = .yes ↔ v.isNull = true := Ternary.ofBool_eq_yes
  have hamong : (⟨.among xs, false⟩ : Test).truth m v = .yes ↔
      v.isNull = false ∧ ∃ x ∈ xs, m.equal v x = true := Check.truth_among_eq_yes hxs
  unfold membership
  by_cases hempty : xs = []
  · subst hempty
    change Test.truth m v ⟨.null, false⟩ = .yes ↔ _
    simpa using hnull
  · rw [if_neg (by simpa using hempty)]
    cases hasNull with
    | true =>
      change (Ternary.or _ _ = Ternary.yes) ↔ _
      rw [Ternary.or_eq_yes, hamong, hnull]
      simp
    | false =>
      change Test.truth m v ⟨.among xs, false⟩ = .yes ↔ _
      rw [hamong]
      simp [hempty]

theorem truth_membership_negated (hasNull : Bool) :
    (membership true hasNull xs).truth m v = .yes ↔ m.IsApart xs v := by
  have hnull : (⟨.null, true⟩ : Test).truth m v = .yes ↔ v.isNull = false :=
    Ternary.neg_eq_yes.trans Ternary.ofBool_eq_no
  unfold membership
  by_cases hempty : xs = []
  · subst hempty
    change Test.truth m v ⟨.null, true⟩ = .yes ↔ _
    simpa [Comparisons.IsApart] using hnull
  · have hamong : (⟨.among xs, true⟩ : Test).truth m v = .yes ↔ m.IsApart xs v :=
      Ternary.neg_eq_yes.trans (Check.truth_among_eq_no hxs hempty)
    rw [if_neg (by simpa using hempty)]
    cases hasNull with
    | true =>
      change (Ternary.and _ _ = Ternary.yes) ↔ _
      rw [Ternary.and_eq_yes, hamong, hnull]
      exact and_iff_left_of_imp And.left
    | false => exact hamong

end Predicate

namespace Scope

variable {s : Scope σ}

theorem nullCheck_of_testsNull (h : s.platform.TestsNull) (negated : Bool) (column : String) :
    s.nullCheck negated column = Test.sql column ⟨.null, negated⟩ := by
  cases negated with
  | false => exact h.isNull column
  | true => exact h.isNotNull column

/-- The outline of membership is the text of its predicate. -/
theorem sql_membership (h : s.platform.TestsNull) (column : String) (negated : Bool)
    (items : List Value) {xs : List Scalar}
    (hlength : xs.length = (items.filter fun item => !item.isNull).length) :
    (Predicate.membership negated (items.any Value.isNull) xs).sql column =
      (s.among column negated items).2 := by
  have hplaces : (xs.map fun _ => "?") =
      ((items.filter fun item => !item.isNull).map fun _ => "?") := by
    rw [List.map_const', List.map_const', hlength]
  have hempty : xs.isEmpty = (items.filter fun item => !item.isNull).isEmpty := by
    rw [Bool.eq_iff_iff, List.isEmpty_iff_length_eq_zero, List.isEmpty_iff_length_eq_zero, hlength]
  simp only [among, Predicate.membership, hempty, nullCheck_of_testsNull h]
  split
  · rfl
  · cases items.any Value.isNull with
    | true =>
      cases negated with
      | true => simp [Predicate.sql, Test.sql, Glue.sql, hplaces, String.append_assoc]
      | false => simp [Predicate.sql, Test.sql, Glue.sql, hplaces, String.append_assoc]
    | false => simp [Predicate.sql, Test.sql, hplaces]

theorem outline_of_membership {operator : Operator} {negated : Bool}
    (h : operator.membership? = some negated) (column token : String) (items : List Value) :
    s.outline column operator token (.list items) = .ok (s.among column negated items) := by
  cases operator <;> cases h <;> rfl

end Scope

theorem Subject.isNull_scalar {subject : Subject} {v : Value} {x : Scalar}
    (h : subject.scalar .builtins v = .ok x) : x.isNull = v.isNull := by
  unfold Subject.scalar at h
  split at h
  · cases hv : v.scalar? with
    | some y =>
      rw [hv] at h
      cases h
      exact v.isNull_scalar? hv
    | none =>
      rw [hv] at h
      exact TypeRegistry.isNull_scalar h
  · exact TypeRegistry.isNull_scalar h

/-- A comparison of a column with a list is compiled to a predicate for membership. The scalars of
the items other than the nulls are bound in their order, none of them null. The predicate holds of a
value of the column if and only if it is among the items, or if the operator is negative, if and
only if it is not null and apart from them. -/
theorem Scope.comparison_among {s : Scope σ} (htypes : s.compiler.types = .builtins)
    (hplatform : s.platform.TestsNull) {token : String} {operator : Operator} {negated : Bool}
    (htoken : Operator.ofToken? token = some operator)
    (hoperator : operator.membership? = some negated) (m : Comparisons) {column sql : String}
    {items : List Value} {converted : Bool} {p q : Progress σ}
    (h : s.comparison ⟨column, token, .value (.list items), converted⟩ p = .ok sql q) :
    ∃ field x xs truth, s.compiler.resolver.field column none p.state = .ok field x ∧
      q.bound = p.bound ++ xs ∧
      List.Forall₂ (fun item x => Subject.scalar .builtins
          ⟨s.quote field.name, field.type, converted⟩ item = .ok x)
        (items.filter fun item => !item.isNull) xs ∧
      (∀ x ∈ xs, x.isNull = false) ∧
      Asserts m (s.quote field.name) sql xs truth ∧
      ∀ v, truth v = .yes ↔ if negated then m.IsApart xs v else m.IsAmong items xs v := by
  obtain ⟨field, x, found, xs, hfield, hfound, hbound, houtcome⟩ := comparison_of_ok h
  obtain rfl : found = operator := by
    rw [Operator.ofToken, htoken] at hfound
    exact (Except.ok.inj hfound).symm
  rw [outcome_eq_ok_iff, outline_of_membership hoperator, htypes] at houtcome
  obtain ⟨values, houtline, hxs⟩ := houtcome
  have hamong : s.among (s.quote field.name) negated items = (values, sql) :=
    Except.ok.inj houtline
  obtain rfl : values = items.filter fun item => !item.isNull := by
    rw [← s.values_among (s.quote field.name) negated items, hamong]
  have hnull : ∀ x ∈ xs, x.isNull = false := by
    intro x hx
    obtain ⟨item, hitem, hscalar⟩ := forall₂_exists hxs hx
    rw [Subject.isNull_scalar hscalar]
    simpa using (List.mem_filter.1 hitem).2
  refine ⟨field, x, xs,
    fun v => (Predicate.membership negated (items.any Value.isNull) xs).truth m v,
    hfield, hbound, hxs, hnull, ?_, fun v => ?_⟩
  · have hasserts := (Predicate.membership negated (items.any Value.isNull) xs).asserts m
      (s.quote field.name)
    rwa [Predicate.bound_membership, sql_membership hplatform _ _ _ hxs.length_eq.symm,
      hamong] at hasserts
  · cases negated with
    | true => exact Predicate.truth_membership_negated hnull _
    | false =>
      have hnothing : xs = [] ↔ ∀ item ∈ items, item.isNull = true := by
        rw [← List.length_eq_zero_iff, ← hxs.length_eq, List.length_eq_zero_iff,
          List.filter_eq_nil_iff]
        simp
      rw [Predicate.truth_membership hnull, List.any_eq_true, hnothing]
      rfl

/-- With a null among the values, what is not among them is neither null nor one of the others. -/
theorem Scope.comparison_among_activity :
    ∃ q truth, activeUnder "!=" = .ok "(active NOT IN (?) AND active IS NOT NULL)" q ∧
      q.bound = [.bool true] ∧
      Asserts .exact "active" "(active NOT IN (?) AND active IS NOT NULL)" [.bool true] truth ∧
      ∀ v, truth v = .yes ↔ Comparisons.exact.IsApart [.bool true] v := by
  have hrun : activeUnder "!=" = .ok "(active NOT IN (?) AND active IS NOT NULL)"
      ⟨none, [], [.bool true], [.asked (.field "active" none), .asked .convert]⟩ := by cbv
  have htoken : Operator.ofToken? "!=" = some .notEqual := by cbv
  obtain ⟨field, x, xs, truth, hfield, hbound, _, _, hasserts, htruth⟩ :=
    Scope.comparison_among (s := .activity) rfl ⟨fun _ => rfl, fun _ => rfl⟩ htoken rfl .exact hrun
  cases hfield
  cases hbound
  exact ⟨_, truth, hrun, rfl, hasserts, htruth⟩

end ParamSql
