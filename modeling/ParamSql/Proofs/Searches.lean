import ParamSql.Proofs.Membership
import ParamSql.Proofs.Patterns

namespace ParamSql

variable {σ : Type}

/-- A database that takes texts for patterns where it is asked to. -/
def Comparisons.MatchesPatterns (m : Comparisons) : Prop :=
  ∀ subject pattern : String, m.like (.text subject) (.text pattern) = true ↔
    Pattern.Matches pattern.toList subject.toList

namespace Like

/-- The search for any of some terms or, negated, for none of them. -/
def anyOf (terms : List String) (negated : Bool) : Like :=
  if negated then (containsAny terms).negate else containsAny terms

/-- The pattern for a term that may stand anywhere. -/
def anywhere (term : String) : String :=
  (contains term).patternOf term

theorem patterns_anyOf {terms : List String} (h : 2 ≤ terms.length) (negated : Bool) :
    (anyOf terms negated).patterns = .list (terms.map fun term => .text (anywhere term)) := by
  match terms with
  | _ :: _ :: _ => cases negated <;> rfl

theorem isNegativeUnder_anyOf (terms : List String) (negated : Bool) (token : String) :
    (anyOf terms negated).isNegativeUnder token =
      (negated ^^ (Operator.ofToken? token).any Operator.isNegative) := by
  cases negated <;> rw [isNegativeUnder] <;> cases Operator.ofToken? token <;> rfl

theorem like_anywhere {m : Comparisons} (hm : m.MatchesPatterns) {term subject : String} :
    m.like (.text subject) (.text (anywhere term)) = true ↔ term.toList <:+: subject.toList := by
  rw [hm, ← matches_contains, matches_single rfl, anywhere]

end Like

namespace Predicate

variable {m : Comparisons} {v x : Scalar} {xs : List Scalar}

theorem truth_search : (search .or false x xs).truth m v =
    xs.foldl (fun t y => t.or (.compare m.like v y)) (.compare m.like v x) := by
  rw [truth, search, List.map_map, List.foldl_map]
  rfl

section

variable (hxs : ∀ y ∈ x :: xs, y.isNull = false)

include hxs

/-- A search holds of what one of its patterns matches. -/
theorem truth_search_eq_yes : (search .or false x xs).truth m v = .yes ↔
    v.isNull = false ∧ ∃ y ∈ x :: xs, m.like v y = true := by
  rw [List.forall_mem_cons] at hxs
  have hrest : (∃ y ∈ xs, Ternary.compare m.like v y = .yes) ↔
      ∃ y ∈ xs, v.isNull = false ∧ m.like v y = true :=
    exists_congr fun y => and_congr_right fun hy => Ternary.compare_eq_yes (hxs.2 y hy)
  rw [truth_search, Ternary.foldl_or_eq_yes, hrest, Ternary.compare_eq_yes hxs.1,
    List.exists_mem_cons_iff]
  constructor
  · rintro (⟨hv, hx⟩ | ⟨y, hy, hv, hlike⟩)
    · exact ⟨hv, .inl hx⟩
    · exact ⟨hv, .inr ⟨y, hy, hlike⟩⟩
  · rintro ⟨hv, hx | ⟨y, hy, hlike⟩⟩
    · exact .inl ⟨hv, hx⟩
    · exact .inr ⟨y, hy, hv, hlike⟩

theorem truth_search_negated_eq_yes : (search .and true x xs).truth m v = .yes ↔
    v.isNull = false ∧ ∀ y ∈ x :: xs, m.like v y = false := by
  rw [List.forall_mem_cons] at hxs
  have hnegated : search .and true x xs = (search .or false x xs).negate :=
    (negate_search .or false x xs).symm
  have hrest : (∀ y ∈ xs, Ternary.compare m.like v y = .no) ↔
      ∀ y ∈ xs, v.isNull = false ∧ m.like v y = false :=
    forall_congr' fun y => imp_congr_right fun hy => Ternary.compare_eq_no (hxs.2 y hy)
  rw [hnegated, truth_negate, Ternary.neg_eq_yes, truth_search, Ternary.foldl_or_eq_no, hrest,
    Ternary.compare_eq_no hxs.1, List.forall_mem_cons]
  constructor
  · rintro ⟨⟨hv, hx⟩, h⟩
    exact ⟨hv, hx, fun y hy => (h y hy).2⟩
  · rintro ⟨hv, hx, h⟩
    exact ⟨⟨hv, hx⟩, fun y hy => ⟨hv, h y hy⟩⟩

end

/-- Searches for terms that may stand anywhere: for one of them, or for none. -/
def finding (negative : Bool) (first : String) (rest : List String) : Predicate :=
  search (if negative then .and else .or) negative (.text (Like.anywhere first))
    (rest.map fun term => .text (Like.anywhere term))

theorem bound_finding (negative : Bool) (first : String) (rest : List String) :
    (finding negative first rest).bound =
      (first :: rest).map fun term => .text (Like.anywhere term) :=
  bound_search ..

theorem truth_finding (hm : m.MatchesPatterns) (negative : Bool) (first : String)
    (rest : List String) (subject : String) :
    (finding negative first rest).truth m (.text subject) = .yes ↔
      if negative then ∀ term ∈ first :: rest, ¬ term.toList <:+: subject.toList
      else ∃ term ∈ first :: rest, term.toList <:+: subject.toList := by
  have hlist : Scalar.text (Like.anywhere first) ::
      rest.map (fun term => Scalar.text (Like.anywhere term)) =
      (first :: rest).map fun term => .text (Like.anywhere term) :=
    rfl
  have htexts : ∀ y ∈ Scalar.text (Like.anywhere first) ::
      rest.map (fun term => Scalar.text (Like.anywhere term)), y.isNull = false := by
    rw [hlist]
    exact List.forall_mem_map.2 fun _ _ => rfl
  have hsubject : (Scalar.text subject).isNull = false := rfl
  cases negative with
  | true =>
    change (search .and true _ _).truth m _ = .yes ↔ _
    rw [truth_search_negated_eq_yes htexts, and_iff_right hsubject, hlist, List.forall_mem_map]
    simp only [if_true, ← Bool.not_eq_true, Like.like_anywhere hm]
  | false =>
    change (search .or false _ _).truth m _ = .yes ↔ _
    rw [truth_search_eq_yes htexts, and_iff_right hsubject, hlist]
    simp only [List.mem_map, exists_exists_and_eq_and, Like.like_anywhere hm]
    rfl

end Predicate

namespace Scope

variable {s : Scope σ}

theorem comparison_like (l : Like) (column token : String) (converted : Bool) (p : Progress σ) :
    s.comparison ⟨column, token, l.operand, converted⟩ p =
      s.comparison ⟨column, if l.isNegativeUnder token then ":notlike" else ":like",
        .value l.patterns, true⟩ { p with journal := p.journal ++ [.asked .transform] } :=
  rfl

theorem outline_finding (column token : String) (negative : Bool) (first : String)
    (rest : List String) :
    s.outline column (if negative then .notLike else .like) token
        (.list ((first :: rest).map fun term => .text (Like.anywhere term))) =
      .ok ((first :: rest).map fun term => .text (Like.anywhere term),
        (Predicate.finding negative first rest).sql column) := by
  have heach (sql : String) :
      ((first :: rest).map fun term => Value.text (Like.anywhere term)).map (fun _ => sql) =
        (Scalar.text (Like.anywhere first) ::
          rest.map fun term => .text (Like.anywhere term)).map fun _ => sql := by
    simp only [List.map_cons, List.map_map, Function.comp_def]
  have hlength : (Scalar.text (Like.anywhere first) ::
      rest.map fun term => .text (Like.anywhere term)).length =
      ((first :: rest).map fun term => Value.text (Like.anywhere term)).length := by
    simp only [List.length_cons, List.length_map]
  rw [Predicate.finding, Predicate.sql_search, ← heach, hlength]
  cases negative <;> rfl

theorem outcome_finding (column token : String) (type : Option TypeName) (negative : Bool)
    (first : String) (rest : List String) :
    s.outcome ⟨column, type, true⟩ (if negative then .notLike else .like) token
        (.list ((first :: rest).map fun term => .text (Like.anywhere term))) =
      .ok ((Predicate.finding negative first rest).sql column,
        (first :: rest).map fun term => .text (Like.anywhere term)) := by
  rw [outcome_eq_ok_iff]
  refine ⟨_, outline_finding column token negative first rest, ?_⟩
  rw [List.forall₂_map_left_iff, List.forall₂_map_right_iff, List.forall₂_same]
  exact fun _ _ => rfl

/-- A search for several terms is compiled to a predicate with their patterns bound. It holds of a
text in which one of the terms stands or, if it is negative, none of them. -/
theorem comparison_anyOf {m : Comparisons} (hm : m.MatchesPatterns) {terms : List String}
    (hterms : 2 ≤ terms.length) (negated : Bool) {column : String} (token : String)
    (converted : Bool) {p : Progress σ} {field : Field} {x : σ}
    (hfield : s.compiler.resolver.field column none p.state = .ok field x) :
    ∃ sql q truth,
      s.comparison ⟨column, token, (Like.anyOf terms negated).operand, converted⟩ p = .ok sql q ∧
      q.bound = p.bound ++ terms.map (fun term => .text (Like.anywhere term)) ∧
      Asserts m (s.quote field.name) sql (terms.map fun term => .text (Like.anywhere term)) truth ∧
      ∀ subject : String, truth (.text subject) = .yes ↔
        if negated ^^ (Operator.ofToken? token).any Operator.isNegative then
          ∀ term ∈ terms, ¬ term.toList <:+: subject.toList
        else ∃ term ∈ terms, term.toList <:+: subject.toList := by
  rw [← Like.isNegativeUnder_anyOf terms, comparison_like, Like.patterns_anyOf hterms]
  generalize (Like.anyOf terms negated).isNegativeUnder token = negative
  obtain ⟨first, rest, rfl⟩ : ∃ first rest, terms = first :: rest :=
    List.exists_cons_of_length_pos (Nat.lt_of_lt_of_le Nat.zero_lt_two hterms)
  have htoken : Operator.ofToken (if negative then ":notlike" else ":like") =
      .ok (if negative then .notLike else .like) := by
    cases negative <;> cbv
  obtain ⟨q, hrun, hbound⟩ := comparison_of_outcome
    (p := { p with journal := p.journal ++ [.asked .transform] }) hfield htoken
    (s.outcome_finding (s.quote field.name) _ field.type negative first rest)
  have hasserts := (Predicate.finding negative first rest).asserts m (s.quote field.name)
  rw [Predicate.bound_finding] at hasserts
  exact ⟨_, q, _, hrun, hbound, hasserts, Predicate.truth_finding hm negative first rest⟩

end Scope

/-- The pattern of a search for one term matches the texts in which the term stands at the front, at
the end or anywhere. A search for several terms is compiled to a predicate that holds of the texts
in which one of them stands, and its negation, by the search or by its operator, to one that holds
of the texts in which none does. -/
theorem Like.finds_terms :
    (∀ term subject : String,
      ((startsWith term).Matches subject ↔ term.toList <+: subject.toList) ∧
      ((endsWith term).Matches subject ↔ term.toList <:+ subject.toList) ∧
      ((contains term).Matches subject ↔ term.toList <:+: subject.toList)) ∧
    ∀ {σ : Type} (s : Scope σ) {m : Comparisons}, m.MatchesPatterns →
      ∀ {terms : List String}, 2 ≤ terms.length →
      ∀ (negated : Bool) (column token : String) (converted : Bool) (p : Progress σ) (field : Field)
        (x : σ), s.compiler.resolver.field column none p.state = .ok field x →
      ∃ sql q truth,
        s.comparison ⟨column, token, (anyOf terms negated).operand, converted⟩ p = .ok sql q ∧
        q.bound = p.bound ++ terms.map (fun term => .text (anywhere term)) ∧
        Asserts m (s.quote field.name) sql (terms.map fun term => .text (anywhere term)) truth ∧
        ∀ subject : String, truth (.text subject) = .yes ↔
          if negated ^^ (Operator.ofToken? token).any Operator.isNegative then
            ∀ term ∈ terms, ¬ term.toList <:+: subject.toList
          else ∃ term ∈ terms, term.toList <:+: subject.toList := by
  constructor
  · intro term subject
    exact ⟨matches_startsWith, matches_endsWith, matches_contains⟩
  · intro σ s m hm terms hterms negated column token converted p field x hfield
    exact s.comparison_anyOf hm hterms negated token converted hfield

/-- Scalars as they are compared where only texts are searched. -/
def Comparisons.ofPatterns : Comparisons where
  equal x y := x = y
  like
    | .text subject, .text pattern => Pattern.Matches pattern.toList subject.toList
    | _, _ => false
  atMost x y := x = y

def Scope.offers : Scope (Option String) where
  compiler :=
    { Compiler.ofDialect .mysql with resolver := .declared [("label", .plain "integer")] }
  quoted := false
  database := none
  nested _ q := ⟨.error (.exceeded .nesting), q.cache, []⟩

/-- Offers whose labels hold neither of two terms, which are made of wildcards in part. -/
theorem Like.finds_terms_offers :
    ∃ q truth,
      Scope.offers.comparison ⟨"label", "!=", (containsAny ["50%", "a_b"]).operand, false⟩
        ⟨none, [], [], []⟩ = .ok "(label NOT LIKE ? AND label NOT LIKE ?)" q ∧
      q.bound = [.text "%50\\%%", .text "%a\\_b%"] ∧
      Asserts .ofPatterns "label" "(label NOT LIKE ? AND label NOT LIKE ?)"
        [.text "%50\\%%", .text "%a\\_b%"] truth ∧
      truth (.text "500 axb") = .yes ∧ truth (.text "50% off") ≠ .yes := by
  have hrun : Scope.offers.comparison ⟨"label", "!=", (containsAny ["50%", "a_b"]).operand, false⟩
      ⟨none, [], [], []⟩ = .ok "(label NOT LIKE ? AND label NOT LIKE ?)"
        ⟨none, [], [.text "%50\\%%", .text "%a\\_b%"],
          [.asked .transform, .asked (.field "label" none)]⟩ := by
    cbv
  have hpatterns : Comparisons.ofPatterns.MatchesPatterns := fun _ _ => decide_eq_true_iff
  have hterms : 2 ≤ ["50%", "a_b"].length := by decide
  obtain ⟨sql, q, truth, hq, hbound, hasserts, htruth⟩ := finds_terms.2 Scope.offers hpatterns
    hterms false "label" "!=" false ⟨none, [], [], []⟩ _ _ rfl
  cases hrun.symm.trans hq
  have hnegative : (false ^^ (Operator.ofToken? "!=").any Operator.isNegative) = true := by cbv
  rw [hnegative] at htruth
  have hbound' : [Scalar.text "%50\\%%", .text "%a\\_b%"] =
      ["50%", "a_b"].map fun term => .text (anywhere term) := hbound
  refine ⟨_, truth, hrun, rfl, ?_, (htruth _).2 ?_, fun h => ?_⟩
  · rw [hbound']
    exact hasserts
  · decide
  · exact absurd ((htruth _).1 h) (by decide)

end ParamSql
