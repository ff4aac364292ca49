import Mathlib
import ParamSql.Proofs.Clean
import ParamSql.Proofs.SameText
import ParamSql.Proofs.Ternary
import ParamSql.Statement.Like

namespace ParamSql

variable {σ : Type}

/-- How a database compares scalars of which none is null. -/
structure Comparisons where
  equal : Scalar → Scalar → Bool
  like : Scalar → Scalar → Bool
  atMost : Scalar → Scalar → Bool

/-- What a test asks of a column, with the scalars that it binds. A range without a lower bound of
its own starts at zero. -/
inductive Check
  | null
  | equal (x : Scalar)
  | like (x : Scalar)
  | among (xs : List Scalar)
  | between (low : Option Scalar) (high : Scalar)
  deriving DecidableEq, Repr

structure Test where
  check : Check
  negated : Bool
  deriving DecidableEq, Repr

/-- A comparison with a null is not known to hold, nor not to hold. -/
def Ternary.compare (holds : Scalar → Scalar → Bool) (x y : Scalar) : Ternary :=
  if x.isNull || y.isNull then .unknown else .ofBool (holds x y)

namespace Check

def bound : Check → List Scalar
  | null => []
  | equal x => [x]
  | like x => [x]
  | among xs => xs
  | between low high => low.toList ++ [high]

/-- The truth of a check of a column that holds the scalar `v`. -/
def truth (m : Comparisons) (v : Scalar) : Check → Ternary
  | null => .ofBool v.isNull
  | equal x => .compare m.equal v x
  | like x => .compare m.like v x
  | among xs => xs.foldl (fun t x => t.or (.compare m.equal v x)) .no
  | between low high =>
    (Ternary.compare m.atMost (low.getD (.integer 0)) v).and (.compare m.atMost v high)

end Check

namespace Test

def bound (t : Test) : List Scalar :=
  t.check.bound

def truth (m : Comparisons) (v : Scalar) (t : Test) : Ternary :=
  if t.negated then (t.check.truth m v).neg else t.check.truth m v

/-- A test as it is written for a column. -/
def sql (column : String) (t : Test) : String :=
  match t.check with
  | .null => column ++ if t.negated then " IS NOT NULL" else " IS NULL"
  | .equal _ => column ++ " " ++ (if t.negated then "!=" else "=") ++ " ?"
  | .like _ => column ++ " " ++ (if t.negated then "NOT LIKE" else "LIKE") ++ " ?"
  | .among xs =>
    column ++ (if t.negated then " NOT IN (" else " IN (") ++
      ",".intercalate (xs.map fun _ => "?") ++ ")"
  | .between low _ =>
    let range := column ++ " BETWEEN " ++ (if low.isSome then "?" else "0") ++ " AND " ++ "?"
    if t.negated then "NOT (" ++ range ++ ")" else range

def negate (t : Test) : Test :=
  { t with negated := !t.negated }

theorem truth_negate (m : Comparisons) (v : Scalar) (t : Test) :
    t.negate.truth m v = (t.truth m v).neg := by
  obtain ⟨check, negated⟩ := t
  cases negated with
  | false => rfl
  | true => exact (Ternary.neg_neg _).symm

end Test

/-- What a text says of a column, for which bound scalars: boolean text over tests, with its truth
for each scalar that the column may hold. -/
def Asserts (m : Comparisons) (column sql : String) (xs : List Scalar) (truth : Scalar → Ternary) :
    Prop :=
  ∃ (tests : List Test) (tokens : List Token) (f : Formula),
    Token.spell (fun i => (tests[i]?.map (Test.sql column)).getD "") tokens = sql ∧
    Token.atoms tokens = List.range tests.length ∧
    tests.flatMap Test.bound = xs ∧
    Formula.read tokens = some f ∧
    ∀ v, f.ternary (fun i => (tests[i]?.map (Test.truth m v)).getD .unknown) = truth v

/-- The operator that negates a positive one. -/
def Operator.negation? : Operator → Option Operator
  | .equal => some .notEqual
  | .oneOf => some .noneOf
  | .like => some .notLike
  | .between => some .notBetween
  | _ => none

/-- Tests of one column with the same glue between them. -/
structure Predicate where
  glue : Glue
  first : Test
  rest : List Test
  deriving DecidableEq, Repr

namespace Predicate

def bound (p : Predicate) : List Scalar :=
  (p.first :: p.rest).flatMap Test.bound

def sql (column : String) (p : Predicate) : String :=
  if p.rest.isEmpty then p.first.sql column
  else "(" ++ (" " ++ p.glue.sql ++ " ").intercalate ((p.first :: p.rest).map (Test.sql column)) ++
    ")"

def truth (m : Comparisons) (v : Scalar) (p : Predicate) : Ternary :=
  (p.rest.map (Test.truth m v)).foldl p.glue.ternary (p.first.truth m v)

/-- The tests negated, with the other glue. -/
def negate (p : Predicate) : Predicate :=
  ⟨p.glue.dual, p.first.negate, p.rest.map Test.negate⟩

theorem bound_negate (p : Predicate) : p.negate.bound = p.bound := by
  change ((p.first :: p.rest).map Test.negate).flatMap Test.bound = _
  rw [List.flatMap_map]
  rfl

theorem truth_negate (m : Comparisons) (v : Scalar) (p : Predicate) :
    p.negate.truth m v = (p.truth m v).neg := by
  obtain ⟨glue, first, rest⟩ := p
  simp only [truth, negate, Test.truth_negate]
  generalize first.truth m v = t
  induction rest generalizing t with
  | nil => rfl
  | cons test rest ih =>
    simp only [List.map_cons, List.foldl_cons, Test.truth_negate]
    rw [← glue.neg_ternary, ih]

/-- Searches of a column for patterns. -/
def search (glue : Glue) (negated : Bool) (x : Scalar) (xs : List Scalar) : Predicate :=
  ⟨glue, ⟨.like x, negated⟩, xs.map fun x => ⟨.like x, negated⟩⟩

theorem negate_search (glue : Glue) (negated : Bool) (x : Scalar) (xs : List Scalar) :
    (search glue negated x xs).negate = search glue.dual (!negated) x xs := by
  rw [search, negate, List.map_map]
  rfl

theorem bound_search (glue : Glue) (negated : Bool) (x : Scalar) (xs : List Scalar) :
    (search glue negated x xs).bound = x :: xs := by
  change x :: (xs.map fun x => _).flatMap Test.bound = _
  rw [List.flatMap_map]
  exact congrArg (x :: ·) (List.flatMap_singleton' xs)

theorem sql_search (column : String) (glue : Glue) (negated : Bool) (x : Scalar)
    (xs : List Scalar) :
    (search glue negated x xs).sql column =
      let sql := (" " ++ glue.sql ++ " ").intercalate ((x :: xs).map fun _ =>
        column ++ " " ++ (if negated then "NOT LIKE" else "LIKE") ++ " ?")
      if 1 < (x :: xs).length then "(" ++ sql ++ ")" else sql := by
  have htests : ((x :: xs).map fun x => (⟨.like x, negated⟩ : Test)).map (Test.sql column) =
      (x :: xs).map fun _ =>
        column ++ " " ++ (if negated then "NOT LIKE" else "LIKE") ++ " ?" := by
    rw [List.map_map]
    rfl
  cases xs with
  | nil => rfl
  | cons y ys =>
    exact congrArg (fun texts => "(" ++ (" " ++ glue.sql ++ " ").intercalate texts ++ ")") htests

/-- The text of a predicate says what the predicate means. -/
theorem asserts (m : Comparisons) (column : String) (p : Predicate) :
    Asserts m column (p.sql column) p.bound fun v => p.truth m v := by
  obtain ⟨glue, first, rest⟩ := p
  have hrange : 0 :: List.range' 1 rest.length = List.range (first :: rest).length := by
    rw [List.range_eq_range', List.length_cons, List.range'_succ]
  -- The atoms stand for the tests in order.
  have hmap {β : Type} (f : Test → β) (b : β) :
      (0 :: List.range' 1 rest.length).map (fun i => ((first :: rest)[i]?.map f).getD b) =
        (first :: rest).map f := by
    rw [hrange]
    apply List.ext_getElem
    · simp
    · intro i hi _
      have hlength : i < (first :: rest).length := by simpa using hi
      rw [List.getElem_map, List.getElem_map, List.getElem_range, List.getElem?_eq_getElem hlength]
      rfl
  refine ⟨first :: rest, Token.chained glue 0 (List.range' 1 rest.length), _, ?_,
    (Token.atoms_chained ..).trans hrange, rfl, Formula.read_chained .., fun v => ?_⟩
  · rw [Token.spell_chained, hmap (Test.sql column)]
    simp only [List.isEmpty_iff, List.range'_eq_nil_iff, List.length_eq_zero_iff, sql]
    rfl
  · have htruths := hmap (Test.truth m v) .unknown
    rw [List.map_cons, List.map_cons, List.cons.injEq] at htruths
    rw [Formula.ternary_foldl_join, htruths.2]
    rfl

end Predicate

/-- Renderings of opposite meaning: both fail, or they come to texts of which the second says the
negation of what the first says, and end alike with the same scalars bound. -/
def Render.Opposed (m : Comparisons) (column : String) (f g : Render σ String) : Prop :=
  ∀ p, (∃ a b q xs truth, f p = .ok a q ∧ g p = .ok b q ∧ q.bound = p.bound ++ xs ∧
      Asserts m column a xs truth ∧ Asserts m column b xs fun v => (truth v).neg) ∨
    ∃ e e' q, f p = .error e q ∧ g p = .error e' q

theorem Render.Opposed.symm {m : Comparisons} {column : String} {f g : Render σ String}
    (h : Render.Opposed m column f g) : Render.Opposed m column g f := by
  intro p
  rcases h p with ⟨a, b, q, xs, truth, ha, hb, hxs, hasserts, hnegated⟩ | ⟨e, e', q, he, he'⟩
  · refine .inl ⟨b, a, q, xs, fun v => (truth v).neg, hb, ha, hxs, hnegated, ?_⟩
    simpa only [Ternary.neg_neg] using hasserts
  · exact .inr ⟨e', e, q, he', he⟩

namespace Scope

variable {s : Scope σ} {m : Comparisons} {subject : Subject}

theorem bindFor_cases (s : Scope σ) (subject : Subject) (value : Value) (p : Progress σ) :
    (∃ x j, s.bindFor subject value p =
        .ok () { p with bound := p.bound ++ [x], journal := j }) ∨
      ∃ e q, s.bindFor subject value p = .error e q := by
  change (∃ x j, EStateM.bind (s.scalar _ _ value) (fun x => Render.bindAll [x]) p = _) ∨
    ∃ e q, EStateM.bind (s.scalar _ _ value) (fun x => Render.bindAll [x]) p = _
  unfold EStateM.bind
  rcases s.scalar_quiet subject.type subject.converted value p with ⟨x, j, hx⟩ | ⟨e, q, he⟩
  · rw [hx]
    exact .inl ⟨x, j, rfl⟩
  · rw [he]
    exact .inr ⟨e, q, rfl⟩

theorem bindEach_cases (s : Scope σ) (subject : Subject) (values : List Value) (p : Progress σ) :
    (∃ xs q, values.forM (s.bindFor subject) p = .ok () q ∧ xs.length = values.length ∧
        q.bound = p.bound ++ xs) ∨
      ∃ e q, values.forM (s.bindFor subject) p = .error e q := by
  induction values generalizing p with
  | nil => exact .inl ⟨[], p, rfl, rfl, (List.append_nil _).symm⟩
  | cons value values ih =>
    change (∃ xs q, EStateM.bind (s.bindFor subject value) (fun _ => values.forM _) p = _ ∧ _) ∨
      ∃ e q, EStateM.bind (s.bindFor subject value) (fun _ => values.forM _) p = _
    unfold EStateM.bind
    rcases s.bindFor_cases subject value p with ⟨x, j, hx⟩ | ⟨e, q, he⟩
    · rw [hx]
      rcases ih { p with bound := p.bound ++ [x], journal := j } with
        ⟨xs, q, hq, hlength, hbound⟩ | ⟨e, q, he⟩
      · refine .inl ⟨x :: xs, q, hq, congrArg (· + 1) hlength, ?_⟩
        rw [hbound, List.append_assoc]
        rfl
      · exact .inr ⟨e, q, he⟩
    · rw [he]
      exact .inr ⟨e, q, rfl⟩

/-- Renderings that bind the same values and write a predicate and its negation are opposed. -/
theorem opposed_of_bindEach (values : List Value) {a b : String}
    (h : ∀ xs : List Scalar, xs.length = values.length → ∃ P : Predicate,
      P.bound = xs ∧ P.sql subject.column = a ∧ P.negate.sql subject.column = b) :
    Render.Opposed m subject.column (do values.forM (s.bindFor subject); return a)
      (do values.forM (s.bindFor subject); return b) := by
  intro p
  change (∃ a' b' q xs truth, EStateM.bind (values.forM _) (fun _ => pure a) p = _ ∧
    EStateM.bind (values.forM _) (fun _ => pure b) p = _ ∧ _) ∨
    ∃ e e' q, EStateM.bind (values.forM _) (fun _ => pure a) p = _ ∧
      EStateM.bind (values.forM _) (fun _ => pure b) p = _
  unfold EStateM.bind
  rcases s.bindEach_cases subject values p with ⟨xs, q, hq, hlength, hbound⟩ | ⟨e, q, he⟩
  · obtain ⟨P, rfl, rfl, rfl⟩ := h xs hlength
    rw [hq]
    refine .inl ⟨_, _, q, P.bound, fun v => P.truth m v, rfl, rfl, hbound, P.asserts m _, ?_⟩
    have hnegated := P.negate.asserts m subject.column
    simpa only [Predicate.bound_negate, Predicate.truth_negate] using hnegated
  · rw [he]
    exact .inr ⟨e, e, q, rfl, rfl⟩

theorem bindEach_cons {β : Type} (value : Value) (values : List Value) (next : Render σ β) :
    (do (value :: values).forM (s.bindFor subject); next) = (do
      s.bindFor subject value
      values.forM (s.bindFor subject)
      next) :=
  bind_assoc ..

theorem single_eq (operator : String) (value : Value) :
    s.single subject operator value = (do
      [value].forM (s.bindFor subject)
      return subject.column ++ " " ++ operator ++ " ?") := by
  rw [bindEach_cons]
  rfl

theorem mapM_single_eq (operator : String) (items : List Value) :
    items.mapM (s.single subject operator) = (do
      items.forM (s.bindFor subject)
      return items.map fun _ => subject.column ++ " " ++ operator ++ " ?") := by
  induction items with
  | nil => rfl
  | cons item items ih =>
    rw [bindEach_cons, List.mapM_cons, ih, Scope.single]
    simp only [bind_assoc, pure_bind, List.map_cons]

theorem opposed_throw (column : String) (e e' : CompileError) :
    Render.Opposed m column (throw e : Render σ String) (throw e') :=
  fun p => .inr ⟨e, e', p, rfl, rfl⟩

section BuiltIn

variable (hd : s.platform.BuiltIn)

include hd

theorem nullCheck_eq (negated : Bool) (column : String) :
    s.nullCheck negated column = Test.sql column ⟨.null, negated⟩ := by
  obtain ⟨d, hd⟩ := hd
  rw [Scope.nullCheck, hd]
  cases negated <;> rfl

theorem between_eq (column low high : String) :
    s.platform.between column low high = column ++ " BETWEEN " ++ low ++ " AND " ++ high := by
  obtain ⟨d, hd⟩ := hd
  rw [hd]
  rfl

theorem opposed_nullCheck :
    Render.Opposed m subject.column (pure (s.nullCheck false subject.column) : Render σ String)
      (pure (s.nullCheck true subject.column)) := by
  rw [nullCheck_eq hd, nullCheck_eq hd]
  refine opposed_of_bindEach (s := s) [] fun xs hxs => ?_
  exact ⟨⟨.or, ⟨.null, false⟩, []⟩, (List.length_eq_zero_iff.1 hxs).symm, rfl, rfl⟩

theorem opposed_membership (items : List Value) :
    Render.Opposed m subject.column (s.membership subject false items)
      (s.membership subject true items) := by
  simp only [Scope.membership]
  split
  · exact opposed_nullCheck hd
  · refine opposed_of_bindEach _ fun xs hxs => ?_
    have hplaces : ((items.filter fun item => !item.isNull).map fun _ => "?") =
        xs.map fun _ => "?" := by
      rw [List.map_const', List.map_const', hxs]
    rw [hplaces, nullCheck_eq hd, nullCheck_eq hd]
    split
    · refine ⟨⟨.or, ⟨.among xs, false⟩, [⟨.null, false⟩]⟩, List.append_nil xs, ?_, ?_⟩
      · simp [Predicate.sql, Test.sql, Glue.sql, String.append_assoc]
      · simp [Predicate.sql, Predicate.negate, Test.negate, Test.sql, Glue.sql, Glue.dual,
          String.append_assoc]
    · exact ⟨⟨.or, ⟨.among xs, false⟩, []⟩, List.append_nil xs, rfl, rfl⟩

theorem opposed_range (token token' : String) (value : Value) :
    Render.Opposed m subject.column (s.range subject token value) (do
      let sql ← s.range subject token' value
      return s.platform.negation sql) := by
  have hnegation (sql : String) : s.platform.negation sql = "NOT (" ++ sql ++ ")" := by
    obtain ⟨d, hd⟩ := hd
    rw [hd]
    rfl
  simp only [hnegation]
  cases hlist : value.isList with
  | false =>
    have hrange (token : String) : s.range subject token value = (do
        [value].forM (s.bindFor subject)
        return s.platform.between subject.column "0" "?") := by
      rw [range_of_not_list hlist, bindEach_cons]
      rfl
    rw [hrange, hrange, bind_assoc, between_eq hd]
    refine opposed_of_bindEach _ fun xs hxs => ?_
    obtain ⟨x, rfl⟩ := List.length_eq_one_iff.1 hxs
    exact ⟨⟨.or, ⟨.between none x, false⟩, []⟩, rfl, rfl, rfl⟩
  | true =>
    obtain ⟨items, rfl⟩ := Value.eq_list hlist
    match items with
    | [low, high] =>
      have hrange (token : String) : s.range subject token (.list [low, high]) = (do
          [low, high].forM (s.bindFor subject)
          return s.platform.between subject.column "?" "?") := by
        rw [bindEach_cons, bindEach_cons]
        rfl
      rw [hrange, hrange, bind_assoc, between_eq hd]
      refine opposed_of_bindEach _ fun xs hxs => ?_
      obtain ⟨x, y, rfl⟩ := List.length_eq_two.1 hxs
      exact ⟨⟨.or, ⟨.between (some x) y, false⟩, []⟩, rfl, rfl, rfl⟩
    | [] => exact opposed_throw _ _ _
    | [_] => exact opposed_throw _ _ _
    | _ :: _ :: _ :: _ => exact opposed_throw _ _ _

omit hd in
theorem opposed_search (token token' : String) (value : Value) :
    Render.Opposed m subject.column (s.spread subject .like token value)
      (s.spread subject .notLike token' value) := by
  cases hlist : value.isList with
  | false =>
    have hspread (op : Operator) (token : String) :
        s.spread subject op token value = s.single subject (s.operatorSql op) value := by
      cases value with
      | list => simp [Value.isList] at hlist
      | _ => rfl
    rw [hspread, hspread, single_eq, single_eq]
    refine opposed_of_bindEach _ fun xs hxs => ?_
    obtain ⟨x, rfl⟩ := List.length_eq_one_iff.1 hxs
    exact ⟨.search .or false x [], rfl, rfl, rfl⟩
  | true =>
    obtain ⟨items, rfl⟩ := Value.eq_list hlist
    change Render.Opposed m _ (s.expanded _ _ _ items) (s.expanded _ _ _ items)
    cases items with
    | nil => exact opposed_throw _ _ _
    | cons item items =>
      simp only [expanded_eq, mapM_single_eq, bind_assoc, pure_bind]
      refine opposed_of_bindEach _ fun xs hxs => ?_
      obtain ⟨x, xs, rfl⟩ := List.exists_of_length_succ xs hxs
      have heach (sql : String) :
          ((item :: items).map fun _ => sql) = (x :: xs).map fun _ => sql := by
        rw [List.map_const', List.map_const', hxs]
      refine ⟨.search .or false x xs, Predicate.bound_search .., ?_, ?_⟩
      · rw [Predicate.sql_search, heach, hxs]
        rfl
      · rw [Predicate.negate_search, Predicate.sql_search, heach, hxs]
        rfl

theorem opposed_equality (value : Value) :
    Render.Opposed m subject.column (s.equality subject false value)
      (s.equality subject true value) := by
  cases value with
  | list items => exact opposed_membership hd items
  | null => exact opposed_nullCheck hd
  | _ =>
    change Render.Opposed m _ (s.single subject "=" _) (s.single subject "!=" _)
    rw [single_eq, single_eq]
    refine opposed_of_bindEach _ fun xs hxs => ?_
    obtain ⟨x, rfl⟩ := List.length_eq_one_iff.1 hxs
    exact ⟨⟨.or, ⟨.equal x, false⟩, []⟩, rfl, rfl, rfl⟩

theorem opposed_plain {op op' : Operator} (hpair : op.negation? = some op')
    (token token' : String) (value : Value) :
    Render.Opposed m subject.column (s.plain subject op token value)
      (s.plain subject op' token' value) := by
  cases op <;> cases hpair
  case equal => exact opposed_equality hd value
  case oneOf => exact opposed_membership hd value.items
  case like => exact opposed_search token token' value
  case between => exact opposed_range hd token token' value

end BuiltIn

/-- Renderings of opposite meaning, said of what the resolver takes a column for. -/
def Opposed (s : Scope σ) (m : Comparisons) (column : String) (f g : Render σ String) : Prop :=
  ∀ p, (∃ field x a b q xs truth,
      s.compiler.resolver.field column none p.state = .ok field x ∧
      f p = .ok a q ∧ g p = .ok b q ∧ q.bound = p.bound ++ xs ∧
      Asserts m (s.quote field.name) a xs truth ∧
      Asserts m (s.quote field.name) b xs fun v => (truth v).neg) ∨
    ∃ e e' q, f p = .error e q ∧ g p = .error e' q

theorem column_eq (name : String) (p : Progress σ) :
    s.column name p =
      match s.compiler.resolver.field name none p.state with
      | .ok field x => .ok { field with name := s.quote field.name }
        { p with journal := p.journal ++ [.asked (.field name none)], state := x }
      | .error e x => .error e
        { p with
          journal := p.journal ++ [.asked (.field name none)] ++ [.refused e], state := x } := by
  change EStateM.bind (Render.consult _ _) (fun field => pure _) p = _
  rw [EStateM.bind, Render.consult_eq]
  cases s.compiler.resolver.field name none p.state <;> rfl

theorem opposed_compared {op op' : Operator} {token token' : String}
    (htoken : Operator.ofToken? token = some op) (htoken' : Operator.ofToken? token' = some op')
    (column : String) (value : Value) (converted : Bool)
    (h : ∀ name type, Render.Opposed m name (s.plain ⟨name, type, converted⟩ op token value)
      (s.plain ⟨name, type, converted⟩ op' token' value)) :
    s.Opposed m column (s.compared ⟨column, token, .value value, converted⟩)
      (s.compared ⟨column, token', .value value, converted⟩) := by
  have hcompared {op : Operator} {token : String} (htoken : Operator.ofToken? token = some op)
      (p : Progress σ) :
      s.compared ⟨column, token, .value value, converted⟩ p =
        EStateM.bind (s.column column)
          (fun field => s.plain ⟨field.name, field.type, converted⟩ op token value) p := by
    have hoperator : Operator.ofToken token = .ok op := by rw [Operator.ofToken, htoken]
    simp only [Scope.compared, hoperator]
    rfl
  intro p
  rw [hcompared htoken, hcompared htoken', EStateM.bind, EStateM.bind, column_eq]
  cases hfield : s.compiler.resolver.field column none p.state with
  | error e x => exact .inr ⟨e, e, _, rfl, rfl⟩
  | ok field x =>
    rcases h (s.quote field.name) field.type
        { p with journal := p.journal ++ [.asked (.field column none)], state := x } with
      ⟨a, b, q, xs, truth, ha, hb, hxs, hasserts, hnegated⟩ | ⟨e, e', q, he, he'⟩
    · exact .inl ⟨field, x, a, b, q, xs, truth, rfl, ha, hb, hxs, hasserts, hnegated⟩
    · exact .inr ⟨e, e', q, he, he'⟩

end Scope

theorem Like.isNegativeUnder_negation {positive negative : String} {op op' : Operator}
    (hpositive : Operator.ofToken? positive = some op)
    (hnegative : Operator.ofToken? negative = some op') (hpair : op.negation? = some op')
    (l : Like) : l.isNegativeUnder negative = !l.isNegativeUnder positive := by
  have hop : op'.isNegative = !op.isNegative := by
    cases op <;> cases hpair <;> rfl
  simp only [Like.isNegativeUnder, hpositive, hnegative, hop, Bool.xor_not]

/-- Under an operator and under its negation, a comparison with a value or with search terms fails
alike or means the opposite, with the same values bound. -/
theorem Scope.comparison_opposed {s : Scope σ} (hd : s.platform.BuiltIn)
    {positive negative : String} {op op' : Operator}
    (hpositive : Operator.ofToken? positive = some op)
    (hnegative : Operator.ofToken? negative = some op') (hpair : op.negation? = some op')
    (m : Comparisons) (column : String) {operand : Operand Query}
    (hoperand : (∃ value, operand = .value value) ∨ ∃ l : Like, operand = l.operand)
    (converted : Bool) :
    s.Opposed m column (s.comparison ⟨column, positive, operand, converted⟩)
      (s.comparison ⟨column, negative, operand, converted⟩) := by
  rcases hoperand with ⟨value, rfl⟩ | ⟨l, rfl⟩
  · exact opposed_compared hpositive hnegative column value converted fun _ _ =>
      opposed_plain hd hpair positive negative value
  · -- A search is compared by the operator that it is turned into.
    have hsearch (token : String) (p : Progress σ) :
        s.comparison ⟨column, token, l.operand, converted⟩ p =
          s.compared ⟨column, if l.isNegativeUnder token then ":notlike" else ":like",
            .value l.patterns, true⟩ { p with journal := p.journal ++ [.asked .transform] } :=
      rfl
    have hlike : Operator.ofToken? ":like" = some .like := by cbv
    have hnotLike : Operator.ofToken? ":notlike" = some .notLike := by cbv
    have hplain (name : String) (type : Option TypeName) (token token' : String) :
        Render.Opposed m name (s.plain ⟨name, type, true⟩ .like token l.patterns)
          (s.plain ⟨name, type, true⟩ .notLike token' l.patterns) :=
      opposed_plain hd rfl token token' l.patterns
    intro p
    rw [hsearch, hsearch, l.isNegativeUnder_negation hpositive hnegative hpair]
    cases l.isNegativeUnder positive with
    | false =>
      have hopposed := opposed_compared (s := s) hlike hnotLike column l.patterns true
        fun name type => hplain name type _ _
      exact hopposed { p with journal := p.journal ++ [.asked .transform] }
    | true =>
      have hopposed := opposed_compared (s := s) hnotLike hlike column l.patterns true
        fun name type => (hplain name type _ _).symm
      exact hopposed { p with journal := p.journal ++ [.asked .transform] }

/-- Scalars as they are compared where they have no order and no pattern matches. -/
def Comparisons.exact : Comparisons where
  equal x y := x = y
  like x y := x = y
  atMost x y := x = y

def Scope.activity : Scope (Option String) where
  compiler :=
    { Compiler.ofDialect .mysql with resolver := .declared [("active", .plain "boolean")] }
  quoted := false
  database := none
  nested _ q := ⟨.error (.exceeded .nesting), q.cache, []⟩

def Scope.activeUnder (operator : String) :
    EStateM.Result CompileError (Progress (Option String)) String :=
  activity.comparison ⟨"active", operator, .value (.list [.text "1", .null]), false⟩
    ⟨none, [], [], []⟩

/-- The null among the values has a test of its own on either side. -/
theorem Scope.comparison_opposed_activity :
    ∃ q truth, activeUnder "in" = .ok "(active IN (?) OR active IS NULL)" q ∧
      activeUnder "notin" = .ok "(active NOT IN (?) AND active IS NOT NULL)" q ∧
      q.bound = [.bool true] ∧
      Asserts .exact "active" "(active IN (?) OR active IS NULL)" [.bool true] truth ∧
      Asserts .exact "active" "(active NOT IN (?) AND active IS NOT NULL)" [.bool true]
        fun v => (truth v).neg := by
  have hin : activeUnder "in" = .ok "(active IN (?) OR active IS NULL)"
      ⟨none, [], [.bool true], [.asked (.field "active" none), .asked .convert]⟩ := by cbv
  have hnot : activeUnder "notin" = .ok "(active NOT IN (?) AND active IS NOT NULL)"
      ⟨none, [], [.bool true], [.asked (.field "active" none), .asked .convert]⟩ := by cbv
  have htoken : Operator.ofToken? "in" = some .oneOf := by cbv
  have htoken' : Operator.ofToken? "notin" = some .noneOf := by cbv
  rcases Scope.comparison_opposed (s := .activity) ⟨.mysql, rfl⟩ htoken htoken' rfl .exact "active"
      (.inl ⟨_, rfl⟩) false ⟨none, [], [], []⟩ with
    ⟨field, x, a, b, q, xs, truth, hfield, ha, hb, hbound, hasserts, hnegated⟩ | ⟨e, e', q, he, _⟩
  · cases hfield
    cases hin.symm.trans ha
    cases hnot.symm.trans hb
    cases hbound
    exact ⟨_, truth, hin, hnot, rfl, hasserts, hnegated⟩
  · cases hin.symm.trans he

end ParamSql
