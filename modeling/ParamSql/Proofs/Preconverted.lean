import ParamSql.Proofs.Criteria
import ParamSql.Proofs.Kinds

namespace ParamSql

variable {σ : Type}

/-- A value replaced by its scalar. If it has none it stays as it is. -/
def TypeRegistry.preconverted (types : TypeRegistry) (type : Option TypeName) (v : Value) : Value :=
  match types.scalar type v with
  | .ok x => x.value
  | .error _ => v

/-- Replaces each item of a list, or the value itself if it is no list. -/
def Value.mapItems (g : Value → Value) : Value → Value
  | list items => list (items.map g)
  | v => g v

/-- A comparison with a value that is converted beforehand, unless it is marked as converted
already. -/
def Comparison.preconverted {Q : Type} (types : TypeRegistry) (columns : List (String × TypeName))
    (c : Comparison Q) : Comparison Q :=
  match c.converted, c.operand with
  | false, .value v =>
    let g := types.preconverted (Resolver.declaredType? columns c.column)
    ⟨c.column, c.operator, .value (v.mapItems g), true⟩
  | _, _ => c

namespace Condition

variable {Q : Type}

mutual

/-- Replaces the comparisons of a condition, at all depths. -/
def mapComparisons (f : Comparison Q → Comparison Q) : Condition Q → Condition Q
  | comparison g c => comparison g (f c)
  | group g members => group g (mapComparisonsOf f members)
  | fragment g text => fragment g text

def mapComparisonsOf (f : Comparison Q → Comparison Q) : List (Condition Q) → List (Condition Q)
  | [] => []
  | first :: rest => mapComparisons f first :: mapComparisonsOf f rest

end

section

variable (f : Comparison Q → Comparison Q)

mutual

theorem leaves_mapComparisons : (c : Condition Q) →
    (c.mapComparisons f).leaves = c.leaves.map (mapComparisons f)
  | comparison _ _ => rfl
  | group _ members => leavesOf_mapComparisonsOf members
  | fragment _ _ => rfl

theorem leavesOf_mapComparisonsOf : (list : List (Condition Q)) →
    leavesOf (mapComparisonsOf f list) = (leavesOf list).map (mapComparisons f)
  | [] => rfl
  | first :: rest => by
    rw [mapComparisonsOf, leavesOf, leavesOf, List.map_append, leaves_mapComparisons first,
      leavesOf_mapComparisonsOf rest]

end

theorem glue_mapComparisons (c : Condition Q) : (c.mapComparisons f).glue = c.glue := by
  cases c <;> rfl

end

section

variable (f : Comparison Query → Comparison Query) (text : Nat → String)

theorem isGroup_mapComparisons (c : Condition Query) :
    Scope.isGroup (c.mapComparisons f) = Scope.isGroup c := by
  cases c <;> rfl

mutual

theorem written_mapComparisons : (i : Nat) → (c : Condition Query) →
    written text i (c.mapComparisons f) = written text i c
  | _, comparison _ _ => rfl
  | i, group _ members => congrArg Piece.joined (piecesFrom_mapComparisonsOf i members)
  | _, fragment _ _ => rfl

theorem piecesFrom_mapComparisonsOf : (i : Nat) → (list : List (Condition Query)) →
    piecesFrom text i (mapComparisonsOf f list) = piecesFrom text i list
  | _, [] => rfl
  | i, first :: rest => by
    rw [mapComparisonsOf, piecesFrom, piecesFrom, glue_mapComparisons, isGroup_mapComparisons,
      written_mapComparisons i first, leaves_mapComparisons, List.length_map,
      piecesFrom_mapComparisonsOf _ rest]

end

end

end Condition

namespace TypeRegistry

variable {type : Option TypeName} {v : Value}

theorem preconverted_of_ok {types : TypeRegistry} {x : Scalar} (h : types.scalar type v = .ok x) :
    types.preconverted type v = x.value := by
  rw [preconverted, h]

theorem isNull_preconverted : (builtins.preconverted type v).isNull = v.isNull := by
  cases hx : builtins.scalar type v with
  | ok x => rw [preconverted_of_ok hx, x.isNull_value, isNull_scalar hx]
  | error e => rw [preconverted, hx]

theorem isList_preconverted (types : TypeRegistry) (h : v.isList = false) :
    (types.preconverted type v).isList = false := by
  cases hx : types.scalar type v with
  | ok x => rw [preconverted_of_ok hx, x.isList_value]
  | error e => rwa [preconverted, hx]

end TypeRegistry

theorem Subject.scalar_preconverted {types : TypeRegistry} {column : String}
    {type : Option TypeName} {converted : Bool} (hraw : converted = false) {v : Value} {x : Scalar}
    (h : Subject.scalar types ⟨column, type, converted⟩ v = .ok x) :
    Subject.scalar types ⟨column, type, true⟩ (types.preconverted type v) = .ok x := by
  rw [scalar, if_neg (by simp [hraw])] at h
  rw [TypeRegistry.preconverted_of_ok h, scalar, if_pos rfl, Value.scalar?_value]

/-- A replacement of values that keeps the nulls and makes no list of what is none. -/
structure Value.KeepsShape (g : Value → Value) : Prop where
  isNull (v : Value) : (g v).isNull = v.isNull
  isList {v : Value} : v.isList = false → (g v).isList = false

namespace Value

variable {g : Value → Value} {v : Value}

theorem mapItems_of_plain (h : v.isList = false) : v.mapItems g = g v := by
  cases v with
  | list => cases h
  | _ => rfl

theorem items_mapItems (hg : KeepsShape g) : (v.mapItems g).items = v.items.map g := by
  cases hlist : v.isList with
  | true =>
    obtain ⟨items, rfl⟩ := eq_list hlist
    rfl
  | false =>
    rw [mapItems_of_plain hlist, items_of_plain (hg.isList hlist), items_of_plain hlist]
    rfl

end Value

namespace Scope

variable {s : Scope σ} {g : Value → Value} (hg : Value.KeepsShape g) (column token : String)

/-- The outline of values replaced by others. -/
def mapValues (g : Value → Value) (o : List Value × String) : List Value × String :=
  (o.1.map g, o.2)

include hg

theorem among_map (negated : Bool) (items : List Value) :
    s.among column negated (items.map g) = mapValues g (s.among column negated items) := by
  have hfilter : ((items.map g).filter fun item => !item.isNull) =
      (items.filter fun item => !item.isNull).map g := by
    rw [List.filter_map]
    congr 2
    funext item
    exact congrArg (!·) (hg.isNull item)
  have hany : (items.map g).any Value.isNull = items.any Value.isNull := by
    rw [List.any_map]
    congr 1
    funext item
    exact hg.isNull item
  simp only [among, hfilter, hany, List.isEmpty_map, List.map_map]
  split <;> rfl

theorem equals_mapItems (negated : Bool) (value : Value) :
    s.equals column negated (value.mapItems g) = mapValues g (s.equals column negated value) := by
  cases hlist : value.isList with
  | true =>
    obtain ⟨items, rfl⟩ := Value.eq_list hlist
    exact among_map hg column negated items
  | false =>
    rw [Value.mapItems_of_plain hlist]
    cases hnull : value.isNull with
    | true =>
      rw [Value.eq_null ((hg.isNull value).trans hnull), Value.eq_null hnull]
      rfl
    | false =>
      rw [equals_of_plain ((hg.isNull value).trans hnull) (hg.isList hlist),
        equals_of_plain hnull hlist]
      rfl

theorem bounds_mapItems (value : Value) :
    s.bounds column token (value.mapItems g) =
      (s.bounds column token value).map (mapValues g) := by
  cases hlist : value.isList with
  | true =>
    obtain ⟨items, rfl⟩ := Value.eq_list hlist
    match items with
    | [] | [_] | [_, _] => rfl
    | _ :: _ :: _ :: rest =>
      simp only [Value.mapItems, bounds, List.map_cons, List.length_cons, List.length_map]
      rfl
  | false =>
    rw [Value.mapItems_of_plain hlist, bounds_of_plain (hg.isList hlist), bounds_of_plain hlist]
    rfl

theorem each_mapItems (operator : Operator) (value : Value) :
    s.each column operator token (value.mapItems g) =
      (s.each column operator token value).map (mapValues g) := by
  cases hlist : value.isList with
  | true =>
    obtain ⟨items, rfl⟩ := Value.eq_list hlist
    simp only [Value.mapItems, each, List.map_map, List.isEmpty_map, List.length_map]
    split <;> rfl
  | false =>
    rw [Value.mapItems_of_plain hlist, each_of_plain (hg.isList hlist), each_of_plain hlist]
    rfl

theorem outline_mapItems (operator : Operator) (value : Value) :
    s.outline column operator token (value.mapItems g) =
      (s.outline column operator token value).map (mapValues g) := by
  have hamong (negated : Bool) : s.among column negated (value.mapItems g).items =
      mapValues g (s.among column negated value.items) := by
    rw [Value.items_mapItems hg]
    exact among_map hg column negated value.items
  cases operator with
  | equal => exact congrArg Except.ok (equals_mapItems hg column false value)
  | notEqual => exact congrArg Except.ok (equals_mapItems hg column true value)
  | oneOf => exact congrArg Except.ok (hamong false)
  | noneOf => exact congrArg Except.ok (hamong true)
  | between => exact bounds_mapItems hg column token value
  | notBetween =>
    simp only [outline, bounds_mapItems hg]
    cases s.bounds column token value <;> rfl
  | _ => exact each_mapItems hg column token _ value

end Scope

namespace Criterion

variable {s : Scope σ} {columns : List (String × TypeName)} {c : Criterion}
  {r : String × List Scalar}

/-- A comparison whose value is converted beforehand, unless it is marked as converted already. -/
def preconverted (types : TypeRegistry) (columns : List (String × TypeName)) (c : Criterion) :
    Criterion :=
  if c.converted then c
  else
    let g := types.preconverted (Resolver.declaredType? columns c.column)
    ⟨c.glue, c.column, c.token, c.value.mapItems g, true⟩

theorem condition_preconverted (types : TypeRegistry) (columns : List (String × TypeName))
    (c : Criterion) : (c.preconverted types columns).condition (Q := Query) =
      c.condition.mapComparisons (·.preconverted types columns) := by
  obtain ⟨glue, column, token, value, converted⟩ := c
  cases converted <;> rfl

theorem outcome_eq_ok {columns : List (String × TypeName)} {sql : String} {xs : List Scalar}
    (h : c.outcome s columns = .ok (sql, xs)) :
    ∃ operator values, Operator.ofToken c.token = .ok operator ∧
      s.outline (s.quote c.column) operator c.token c.value = .ok (values, sql) ∧
      List.Forall₂ (fun v x => (c.subject s columns).scalar s.compiler.types v = .ok x)
        values xs := by
  rw [Criterion.outcome] at h
  cases hoperator : Operator.ofToken c.token with
  | error e =>
    rw [hoperator] at h
    cases h
  | ok operator =>
    rw [hoperator] at h
    obtain ⟨values, houtline, hxs⟩ := Scope.outcome_eq_ok_iff.1 h
    exact ⟨operator, values, rfl, houtline, hxs⟩

/-- What is compiled for a comparison is compiled for it too if its value is converted
beforehand. -/
theorem outcome_preconverted (htypes : s.compiler.types = .builtins)
    (h : c.outcome s columns = .ok r) :
    (c.preconverted s.compiler.types columns).outcome s columns = .ok r := by
  cases hraw : c.converted with
  | true => rwa [preconverted, if_pos hraw]
  | false =>
    obtain ⟨sql, xs⟩ := r
    obtain ⟨operator, values, hoperator, houtline, hxs⟩ := outcome_eq_ok h
    let g := s.compiler.types.preconverted (Resolver.declaredType? columns c.column)
    have hg : Value.KeepsShape g := by
      constructor
      · intro v
        simp only [g, htypes]
        exact TypeRegistry.isNull_preconverted
      · exact TypeRegistry.isList_preconverted _
    rw [preconverted, if_neg (by simp [hraw]), Criterion.outcome, hoperator]
    refine Scope.outcome_eq_ok_iff.2 ⟨values.map g, ?_, ?_⟩
    · refine (Scope.outline_mapItems hg (s.quote c.column) c.token operator c.value).trans ?_
      rw [houtline]
      rfl
    · rw [List.forall₂_map_left_iff]
      exact hxs.imp fun v x hx => Subject.scalar_preconverted hraw hx

theorem exists_scalar (h : c.outcome s columns = .ok r) (hraw : c.converted = false) {item : Value}
    (hitem : item ∈ c.value.items) (hnull : item.isNull = false) :
    ∃ x, s.compiler.types.scalar (Resolver.declaredType? columns c.column) item = .ok x := by
  obtain ⟨sql, xs⟩ := r
  obtain ⟨operator, values, hoperator, houtline, hxs⟩ := outcome_eq_ok h
  have hvalues : item ∈ values := by
    obtain rfl | rfl := Scope.values_outline houtline
    · exact hitem
    · exact List.mem_filter.2 ⟨hitem, by rw [hnull]; rfl⟩
  obtain ⟨x, _, hx⟩ := forall₂_exists hxs.flip hvalues
  refine ⟨x, ?_⟩
  rwa [Subject.scalar, if_neg (by simpa [subject] using hraw)] at hx

end Criterion

/-- Where some columns have declared types and the types are those built in, a list of comparisons
with values that is compiled is compiled to the same text and the same bindings if the values of
those that are not marked as converted are replaced by their scalars, item by item if they are
lists, and the comparisons are marked. There is a scalar for each item but the nulls. -/
theorem Scope.conditions_preconverted {s : Scope (Option String)}
    {columns : List (String × TypeName)} (hresolver : s.compiler.resolver = .declared columns)
    (htypes : s.compiler.types = .builtins) {list : List (Condition Query)} {cs : List Criterion}
    (hlist : Condition.leavesOf list = cs.map Criterion.condition)
    {p q : Progress (Option String)} (hp : p.pending = []) {sql : String}
    (h : s.conditions list p = .ok sql q) :
    (∃ q', s.conditions
        (Condition.mapComparisonsOf (·.preconverted s.compiler.types columns) list) p =
          .ok sql q' ∧ q'.bound = q.bound) ∧
      ∀ c ∈ cs, c.converted = false → ∀ item ∈ c.value.items, item.isNull = false →
        ∃ x, s.compiler.types.scalar (Resolver.declaredType? columns c.column) item = .ok x := by
  obtain ⟨rs, hrs⟩ := outcomes_of_conditions hresolver hlist hp h
  have houtcomes := mapM_eq_ok_iff.1 hrs
  have hlist' : Condition.leavesOf
      (Condition.mapComparisonsOf (·.preconverted s.compiler.types columns) list) =
        (cs.map (Criterion.preconverted s.compiler.types columns)).map Criterion.condition := by
    rw [Condition.leavesOf_mapComparisonsOf, hlist, List.map_map, List.map_map]
    exact List.map_congr_left fun c _ => (c.condition_preconverted _ _).symm
  have hrs' : (cs.map (Criterion.preconverted s.compiler.types columns)).mapM
      (Criterion.outcome s columns) = .ok rs := by
    rw [mapM_eq_ok_iff, List.forall₂_map_left_iff]
    exact houtcomes.imp fun c r hr => Criterion.outcome_preconverted htypes hr
  obtain ⟨q₁, hq₁, hbound⟩ := conditions_of_outcomes hresolver hlist hp hrs
  obtain ⟨q', hq', hbound'⟩ := conditions_of_outcomes hresolver hlist' hp hrs'
  cases hq₁.symm.trans h
  rw [Condition.piecesFrom_mapComparisonsOf] at hq'
  refine ⟨⟨q', hq', hbound'.trans hbound.symm⟩, fun c hc hraw item hitem hnull => ?_⟩
  obtain ⟨r, _, hr⟩ := forall₂_exists houtcomes.flip hc
  exact Criterion.exists_scalar hr hraw hitem hnull

namespace Scope

def members : Scope (Option String) :=
  { Compiler.ofDialect .mysql with
    resolver := .declared [("active", .plain "boolean"), ("code", .plain "string")] }.scope
      (Query.empty .select)

/-- A column of truth values compared with a text, and one of texts with integers. -/
def memberValues : List (Condition Query) :=
  [.compare "active" "!=" (.value (.list [.text "yes", .null])),
    .group .or [.compare "code" "between" (.value (.list [.integer 10, .integer 20]))]]

/-- The same with the scalars of these values, and the null in its place. -/
def memberScalars : List (Condition Query) :=
  [.comparison .and ⟨"active", "!=", .value (.list [.bool true, .null]), true⟩,
    .group .or [.comparison .and ⟨"code", "between", .value (.list [.text "10", .text "20"]),
      true⟩]]

theorem conditions_preconverted_members :
    ∃ q q', members.conditions memberValues ⟨none, [], [], []⟩ =
        .ok "(active NOT IN (?) AND active IS NOT NULL) OR (code BETWEEN ? AND ?)" q ∧
      members.conditions memberScalars ⟨none, [], [], []⟩ =
        .ok "(active NOT IN (?) AND active IS NOT NULL) OR (code BETWEEN ? AND ?)" q' ∧
      q'.bound = q.bound := by
  have hreplaced : Condition.mapComparisonsOf (·.preconverted members.compiler.types
      [("active", .plain "boolean"), ("code", .plain "string")]) memberValues = memberScalars := by
    cbv
  have htext : (members.conditions memberValues).run' ⟨none, [], [], []⟩ =
      some "(active NOT IN (?) AND active IS NOT NULL) OR (code BETWEEN ? AND ?)" := by cbv
  obtain ⟨q, hrun⟩ := ok_of_run' htext
  have hleaves : Condition.leavesOf memberValues =
      ([⟨.and, "active", "!=", .list [.text "yes", .null], false⟩,
        ⟨.and, "code", "between", .list [.integer 10, .integer 20], false⟩] :
        List Criterion).map Criterion.condition := rfl
  obtain ⟨⟨q', hq', hbound⟩, _⟩ :=
    conditions_preconverted (s := members) rfl rfl hleaves rfl hrun
  rw [hreplaced] at hq'
  exact ⟨q, q', hrun, hq', hbound⟩

end Scope

end ParamSql
