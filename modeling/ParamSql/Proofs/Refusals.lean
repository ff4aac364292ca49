import ParamSql.Proofs.Cleanup
import ParamSql.Proofs.Rendered

namespace ParamSql

variable {σ α β : Type}

/-- The work fails with the error `e` of a collaborator: it is the last that is noted, and nothing
was refused before it. -/
def Render.Refuses (work : Render σ α) (e : CompileError) (p : Progress σ) : Prop :=
  ∃ q j, work p = .error e q ∧ q.journal = p.journal ++ j ++ [.refused e] ∧ j.Unrefused

/-- From `p` the whole gets to a part of it, at `q`, without a refusal. Where the part fails the whole
fails, in just the same way. -/
structure Render.Leads (whole : Render σ α) (p : Progress σ) (part : Render σ β)
    (q : Progress σ) : Prop where
  unrefused : ∃ j, q.journal = p.journal ++ j ∧ j.Unrefused
  failure {e : CompileError} {z : Progress σ} : part q = .error e z → whole p = .error e z

theorem Journal.unrefused_nil : Unrefused [] :=
  fun _ => List.not_mem_nil

theorem Journal.unrefused_asked (call : Call) : Unrefused [.asked call] :=
  fun _ h => nomatch List.mem_singleton.1 h

theorem Journal.Unrefused.append {i j : Journal} (hi : i.Unrefused) (hj : j.Unrefused) :
    (i ++ j).Unrefused :=
  fun e h => (List.mem_append.1 h).elim (hi e) (hj e)

namespace Render

variable {work : Render σ α} {e : CompileError} {p q : Progress σ}

theorem refuses_heed (e : CompileError) (p : Progress σ) :
    (heed (.error e) : Render σ α).Refuses e p :=
  ⟨_, [], rfl, by rw [List.append_nil], Journal.unrefused_nil⟩

theorem Leads.first (part : Render σ β) (k : β → Render σ α) (p : Progress σ) :
    (part >>= k).Leads p part p where
  unrefused := ⟨[], (List.append_nil _).symm, Journal.unrefused_nil⟩
  failure := bind_of_error

theorem Leads.later {k : α → Render σ β} {a : α} {j : Journal} (hwork : work p = .ok a q)
    (hq : q.journal = p.journal ++ j) (hj : j.Unrefused) : (work >>= k).Leads p (k a) q where
  unrefused := ⟨j, hq, hj⟩
  failure hk := (bind_of_ok hwork).trans hk

theorem Leads.trans {γ : Type} {whole : Render σ α} {middle : Render σ β} {part : Render σ γ}
    {r : Progress σ} (h : whole.Leads p middle q) (hpart : middle.Leads q part r) :
    whole.Leads p part r where
  unrefused := by
    obtain ⟨i, hi, hrefused⟩ := h.unrefused
    obtain ⟨j, hj, hrefused'⟩ := hpart.unrefused
    exact ⟨i ++ j, by rw [hj, hi, List.append_assoc], hrefused.append hrefused'⟩
  failure hr := h.failure (hpart.failure hr)

theorem Leads.refuses {whole : Render σ α} {part : Render σ β} (h : whole.Leads p part q)
    (hpart : part.Refuses e q) : whole.Refuses e p := by
  obtain ⟨i, hq, hi⟩ := h.unrefused
  obtain ⟨z, j, hz, hjournal, hj⟩ := hpart
  refine ⟨z, i ++ j, h.failure hz, ?_, hi.append hj⟩
  rw [hjournal, hq, List.append_assoc p.journal]

theorem Refuses.bind (h : work.Refuses e p) (k : α → Render σ β) : (work >>= k).Refuses e p :=
  (Leads.first work k p).refuses h

theorem Leads.noted (call : Call) (k : Unit → Render σ β) (p : Progress σ) :
    (note (.asked call) >>= k).Leads p (k ()) { p with journal := p.journal ++ [.asked call] } :=
  .later rfl rfl (Journal.unrefused_asked call)

theorem refuses_ask {answer : Except CompileError α} (h : answer = .error e) (call : Call)
    (p : Progress σ) : (ask call answer).Refuses e p := by
  subst h
  exact (Leads.noted call _ p).refuses (refuses_heed e _)

theorem refuses_consult {hook : Hook σ α} {x : σ} (h : hook p.state = .error e x) (call : Call) :
    (consult call hook).Refuses e p := by
  have hconsult := consult_eq call hook p
  rw [h] at hconsult
  exact ⟨_, [.asked call], hconsult, rfl, Journal.unrefused_asked call⟩

theorem Leads.consulted {hook : Hook σ α} {k : α → Render σ β} {a : α} {call : Call}
    (h : consult call hook p = .ok a q) : (consult call hook >>= k).Leads p (k a) q := by
  have hconsult := consult_eq call hook p
  rw [h] at hconsult
  cases hhook : hook p.state with
  | error e x =>
    rw [hhook] at hconsult
    cases hconsult
  | ok b x =>
    rw [hhook] at hconsult
    injection hconsult with hab hq
    exact .later h (by rw [hq]) (Journal.unrefused_asked call)

end Render

namespace Scope

open Render

variable {s : Scope σ} {e : CompileError} {p : Progress σ} {x : σ}

/-- What a fragment comes to, by what it is and by what the resolver answers it. -/
def reply (s : Scope σ) : Fragment → Hook σ String
  | .text sql => pure sql
  | .fail e => throw e
  | .column name next => do
    let field ← s.compiler.resolver.field name none
    s.reply (next (s.quote field.name))
  | .root next => do
    s.reply (next (s.compiler.resolver.root (← get)))
  | .look next => s.reply (next ⟨s.platform, s.quote⟩)

theorem refuses_column {name : String}
    (h : s.compiler.resolver.field name none p.state = .error e x) : (s.column name).Refuses e p :=
  (refuses_consult h _).bind _

theorem column_leads {name : String} {field : Field} {p q : Progress σ}
    (h : s.column name p = .ok field q) (k : Field → Render σ α) :
    (s.column name >>= k).Leads p (k field) q := by
  obtain ⟨resolved, r, hresolved, hr⟩ := ok_of_bind h
  injection hr with hfield hq
  subst hfield hq
  have hleads := Leads.consulted (k := fun field => k { field with name := s.quote field.name })
    hresolved
  exact ⟨hleads.unrefused, fun hk => (bind_of_ok h).trans hk⟩

theorem refuses_answer {f : Fragment} (h : s.reply f p.state = .error e x) :
    (s.answer f).Refuses e p := by
  induction f generalizing p with
  | text sql => cases h
  | fail e' =>
    injection h with he
    exact he ▸ refuses_heed e' p
  | look next ih => exact ih _ h
  | root next ih =>
    have hroot : s.root p = .ok (s.compiler.resolver.root p.state)
        { p with journal := p.journal ++ [.asked .root] } := rfl
    exact (Leads.later hroot rfl (Journal.unrefused_asked .root)).refuses (ih _ h)
  | column name next ih =>
    cases hfield : s.compiler.resolver.field name none p.state with
    | error e' y =>
      rw [reply, bind_of_error hfield] at h
      injection h with he
      exact (refuses_column (he ▸ hfield)).bind _
    | ok field y =>
      rw [reply, bind_of_ok hfield] at h
      have hconsult := consult_eq (.field name none) (s.compiler.resolver.field name none) p
      rw [hfield] at hconsult
      exact (column_leads (bind_of_ok hconsult) _).refuses (ih _ h)

/-- Whoever is asked in a scope, an error ends the work that asks: nothing is put in the place of
an answer. -/
structure Heeds (s : Scope σ) : Prop where
  /-- The hook that is given the statement ends the compilation. -/
  prepared {α : Type} {prepare : Hook σ α} {e : CompileError} {x : σ} :
    prepare s.compiler.resolver.start = .error e x →
      ∀ (kind : StatementKind) (cache : Cache) (assemble : α → Assemble σ String),
        (Compiler.within s kind cache prepare assemble).result = .error e ∧
          (Compiler.within s kind cache prepare assemble).journal =
            [.asked (.prepare kind), .refused e, .asked .clear]
  field {name : String} {e : CompileError} {p : Progress σ} {x : σ} :
    s.compiler.resolver.field name none p.state = .error e x → (s.column name).Refuses e p
  assigned {a : Assignment Query} {e : CompileError} {p : Progress σ} {x : σ} :
    s.compiler.resolver.field a.column a.type p.state = .error e x → (s.assignment a).Refuses e p
  table {t : TableRef Query} {e : CompileError} {p : Progress σ} {x : σ} :
    s.compiler.resolver.table t p.state = .error e x →
      (s.table t).Refuses e p ∧ ∀ kind, (s.target kind (some t)).Refuses e p
  condition {c : Condition Query} {e : CompileError} {p : Progress σ} {x : σ} :
    s.compiler.resolver.condition c p.state = .error e x →
      ∀ n outermost rest, (s.pieces (n + 1) outermost (c :: rest)).Refuses e p
  converted {type : Option TypeName} {value : Value} {e : CompileError} :
    s.compiler.types.scalar type value = .error e →
      ∀ p, (s.bind type false value).Refuses e p
  /-- A value that counts as converted and is no scalar. -/
  inferred {value : Value} {e : CompileError} : value.scalar? = none →
    s.compiler.types.scalar none value = .error e →
      ∀ type p, (s.bind type true value).Refuses e p
  transformed {c : Comparison Query}
    {f : String → String → Platform → Except CompileError (Transformed (Operand Query))}
    {e : CompileError} : c.operand = .transformer f →
      f c.column c.operator s.platform = .error e → ∀ p, (s.comparison c).Refuses e p
  assignedTransformed {a : Assignment Query}
    {f : String → String → Platform → Except CompileError (Transformed (Operand Query))}
    {field : Field} {e : CompileError} {p : Progress σ} {x : σ} : a.operand = .transformer f →
      s.compiler.resolver.field a.column a.type p.state = .ok field x →
        f a.column "=" s.platform = .error e → (s.assignment a).Refuses e p
  fragment {f : Fragment} {e : CompileError} {p : Progress σ} {x : σ} :
    s.reply f p.state = .error e x → (s.fragment f).Refuses e p
  /-- The error of a nested query is that of the work that it stands in. -/
  nested {q : Query} {database : Option String} {e : CompileError} :
    s.databaseOf q = .ok database → (s.nested database q).result = .error e →
      ∀ p, s.query q p =
        .error e { p with journal := p.journal ++ (s.nested database q).journal }

theorem heeds (s : Scope σ) : s.Heeds where
  prepared h kind cache assemble := by
    rw [Compiler.within_eq, h]
    exact ⟨rfl, rfl⟩
  field := refuses_column
  assigned h := (refuses_consult h _).bind _
  table h := ⟨(refuses_consult h _).bind _, fun _ => (refuses_consult h _).bind _⟩
  condition h n outermost rest := by
    rw [pieces_cons]
    exact ((refuses_consult h _).bind _).bind _
  converted h p := (refuses_ask h .convert p).bind _
  inferred hvalue h type p := by
    rw [Scope.bind, Scope.scalar, if_pos rfl, hvalue]
    exact (refuses_ask h .convert p).bind _
  transformed := by
    rintro ⟨column, operator, operand, converted⟩ f e rfl h p
    exact ((refuses_ask h .transform p).bind _).bind _
  assignedTransformed := by
    rintro ⟨column, operand, type⟩ f field e p x rfl hfield h
    have hconsult := consult_eq (.field column type) (s.compiler.resolver.field column type) p
    rw [hfield] at hconsult
    exact (Leads.consulted hconsult).refuses ((refuses_ask h .transform _).bind _)
  fragment h := (Leads.noted .fragment _ _).refuses (refuses_answer h)
  nested hdatabase h p := by
    rw [query_eq, hdatabase]
    simp only [h]

theorem comparison_leads {c : Comparison Query} {field : Field} {operator : Operator}
    {p q : Progress σ} (hoperand : ∀ f, c.operand ≠ .transformer f)
    (hcolumn : s.column c.column p = .ok field q)
    (hoperator : Operator.ofToken c.operator = .ok operator) :
    (s.comparison c).Leads p (match c.operand with
      | .value value => s.plain ⟨field.name, field.type, c.converted⟩ operator c.operator value
      | .query q => do
        let sql ← s.query q
        Render.lift (s.verbatim field.name operator c.operator ("(" ++ sql ++ ")"))
      | .fragment f => do
        let sql ← s.fragment f
        Render.lift (s.verbatim field.name operator c.operator sql)
      | .transformer _ => throw (.invalidValue c.operator .chainedTransformer)) q := by
  have htransformed : s.transformed c p = .ok c p := by
    rw [transformed]
    cases hc : c.operand with
    | transformer f => exact absurd hc (hoperand f)
    | _ => rfl
  refine (Leads.later htransformed (List.append_nil _).symm Journal.unrefused_nil).trans ?_
  refine (column_leads hcolumn _).trans ?_
  exact Leads.later (by rw [hoperator]; rfl) (List.append_nil _).symm Journal.unrefused_nil

/-- The parts of a statement that may fail are led to without a refusal, and where they fail, so
does what they are part of. -/
structure PassesOn (s : Scope σ) : Prop where
  projection (f : Fragment) (label : Option String) (p : Progress σ) :
    (s.projection ⟨.fragment f, label⟩).Leads p (s.fragment f) p
  table {t : TableRef Query} {label : Option String} {r : Query} {p q : Progress σ} :
    s.resolveTable t p = .ok ⟨.query r, label⟩ q → (s.table t).Leads p (s.query r) q
  rows (r : Query) (p : Progress σ) : (s.insertRows (.query r)).Leads p (s.query r) p
  condition {c c' : Condition Query} {p q : Progress σ} : s.resolveCondition c p = .ok c' q →
    ∀ n outermost rest, (s.pieces (n + 1) outermost (c :: rest)).Leads p (s.pieceText n c') q
  comparedValue {c : Comparison Query} {v : Value} {field : Field} {operator : Operator}
    {p q : Progress σ} : c.operand = .value v → s.column c.column p = .ok field q →
      Operator.ofToken c.operator = .ok operator → (s.comparison c).Leads p
        (s.plain ⟨field.name, field.type, c.converted⟩ operator c.operator v) q
  comparedQuery {c : Comparison Query} {r : Query} {field : Field} {operator : Operator}
    {p q : Progress σ} : c.operand = .query r → s.column c.column p = .ok field q →
      Operator.ofToken c.operator = .ok operator → (s.comparison c).Leads p (s.query r) q
  comparedFragment {c : Comparison Query} {f : Fragment} {field : Field} {operator : Operator}
    {p q : Progress σ} : c.operand = .fragment f → s.column c.column p = .ok field q →
      Operator.ofToken c.operator = .ok operator → (s.comparison c).Leads p (s.fragment f) q
  assignment {a : Assignment Query} {field : Field} {p q : Progress σ} :
    (∀ f, a.operand ≠ .transformer f) →
      Render.consult (.field a.column a.type) (s.compiler.resolver.field a.column a.type) p =
        .ok field q →
      (s.assignment a).Leads p (s.assigned field.type false a.operand) q
  assigned (type : Option TypeName) (converted : Bool) (v : Value) (p : Progress σ) :
    (s.assigned type converted (.value v)).Leads p (s.bind type converted v) p
  assignedQuery (type : Option TypeName) (converted : Bool) (r : Query) (p : Progress σ) :
    (s.assigned type converted (.query r)).Leads p (s.query r) p

theorem resolveCondition_leads {c c' : Condition Query} {p q : Progress σ}
    (h : s.resolveCondition c p = .ok c' q) (k : Condition Query → Render σ α) :
    (s.resolveCondition c >>= k).Leads p (k c') q := by
  obtain ⟨⟨resolved, added⟩, r, hresolved, hr⟩ := ok_of_bind h
  injection hr with hc hq
  subst hc hq
  have hleads := Leads.consulted (k := fun answer => do
    modify fun p => { p with pending := p.pending ++ answer.2 }
    k answer.1) hresolved
  obtain ⟨j, hj, hunrefused⟩ := hleads.unrefused
  exact .later h hj hunrefused

theorem passesOn (s : Scope σ) : s.PassesOn where
  projection f label p := .first _ _ p
  table h := (Leads.consulted h).trans (.trans (.first _ _ _) (.first _ _ _))
  rows r p := .first _ _ p
  condition h n outermost rest := by
    rw [pieces_cons]
    exact (resolveCondition_leads h _).trans (.first _ _ _)
  comparedValue hoperand hcolumn hoperator := by
    have h := comparison_leads (by rw [hoperand]; exact fun _ => nofun) hcolumn hoperator
    rwa [hoperand] at h
  comparedQuery hoperand hcolumn hoperator := by
    have h := comparison_leads (by rw [hoperand]; exact fun _ => nofun) hcolumn hoperator
    rw [hoperand] at h
    exact h.trans (.first _ _ _)
  comparedFragment hoperand hcolumn hoperator := by
    have h := comparison_leads (by rw [hoperand]; exact fun _ => nofun) hcolumn hoperator
    rw [hoperand] at h
    exact h.trans (.first _ _ _)
  assignment := by
    rintro ⟨column, operand, type⟩ field p q hoperand hfield
    refine (Leads.consulted hfield).trans ?_
    cases operand with
    | transformer f => exact absurd rfl (hoperand f)
    | _ => exact .first _ _ _
  assigned type converted v p := .first _ _ p
  assignedQuery type converted r p := .first _ _ p

end Scope

/-- Where the call succeeds, so does the other, with the same. -/
def Outcome.UpheldBy (o o' : Outcome α) : Prop :=
  ∀ a, o.result = .ok a → o'.result = .ok a

/-- Where the hook answers, so does the other, and the same. -/
def Hook.UpheldBy (hook hook' : Hook σ α) : Prop :=
  ∀ (x : σ) (a : α) (y : σ), hook x = .ok a y → hook' x = .ok a y

theorem Hook.UpheldBy.follows {hook hook' : Hook σ α} (h : hook.UpheldBy hook') :
    Follows (fun _ => True) Eq hook hook' (Same Eq) := by
  rintro x _ rfl
  cases hx : hook x with
  | ok a y =>
    rw [h x a y hx]
    exact .inr (.ok ⟨rfl, rfl⟩)
  | error e y => exact .inl ⟨e, y, rfl, trivial⟩

theorem TypeRegistry.itemValues_eq_error {t : ValueType} {items : List Value} {e : CompileError} :
    itemValues t items = .error e ↔ ∃ before x after, items = before ++ x :: after ∧
      (∀ y ∈ before, error? (t y) = none) ∧ t x = .error e := by
  rw [itemValues_eq, ← error?_eq_some, error?_map, error?_eq_some, mapM_eq_error_iff]
  simp only [error?_eq_none]

theorem TypeRegistry.itemValues_upheld {convert convert' : ValueType}
    (h : ∀ (v : Value) (x : Scalar), convert v = .ok x → convert' v = .ok x) {items : List Value}
    {values : List Value} (hok : itemValues convert items = .ok values) :
    itemValues convert' items = .ok values := by
  rw [itemValues_eq, map_eq_ok_iff] at hok ⊢
  obtain ⟨scalars, hscalars, rfl⟩ := hok
  refine ⟨scalars, mapM_eq_ok_iff.2 ?_, rfl⟩
  exact (mapM_eq_ok_iff.1 hscalars).imp fun v x => h v x

namespace Compiler

/-- Two compilers with the same settings. Where a collaborator of the first answers, that of the
second answers the same; where it refuses, that of the second may answer anything. -/
structure UpheldBy (c c' : Compiler σ) : Prop where
  connection : c.connection = c'.connection
  platform : c.platform = c'.platform
  limits : c.limits = c'.limits
  start : c.resolver.start = c'.resolver.start
  select (s : Select Query) : (c.resolver.select s).UpheldBy (c'.resolver.select s)
  insert (s : Insert Query) : (c.resolver.insert s).UpheldBy (c'.resolver.insert s)
  update (s : Update Query) : (c.resolver.update s).UpheldBy (c'.resolver.update s)
  delete (s : Delete Query) : (c.resolver.delete s).UpheldBy (c'.resolver.delete s)
  field (name : String) (type : Option TypeName) :
    (c.resolver.field name type).UpheldBy (c'.resolver.field name type)
  table (t : TableRef Query) : (c.resolver.table t).UpheldBy (c'.resolver.table t)
  condition (d : Condition Query) : (c.resolver.condition d).UpheldBy (c'.resolver.condition d)
  root : c.resolver.root = c'.resolver.root
  joins : c.resolver.joins = c'.resolver.joins
  types {name : String} {convert : ValueType} : c.types.get? name = some convert →
    ∃ convert', c'.types.get? name = some convert' ∧
      ∀ (v : Value) (x : Scalar), convert v = .ok x → convert' v = .ok x

variable {c c' : Compiler σ}

theorem UpheldBy.scalarOf (h : c.UpheldBy c') {t : TypeName} {v : Value} {x : Scalar}
    (hok : c.types.scalarOf t v = .ok x) : c'.types.scalarOf t v = .ok x := by
  cases hconvert : c.types.get? t.name with
  | none =>
    rw [TypeRegistry.scalarOf, hconvert] at hok
    cases hok
  | some convert =>
    obtain ⟨convert', hconvert', hupheld⟩ := h.types hconvert
    rcases t.items_or_whole v with ⟨hlist, items, rfl⟩ | hwhole
    · rw [TypeRegistry.scalarOf_list hconvert hlist] at hok
      obtain ⟨values, hvalues, hok⟩ := exists_of_bind hok
      rw [TypeRegistry.scalarOf_list hconvert' hlist, TypeRegistry.itemValues_upheld hupheld hvalues]
      exact hok
    · rw [TypeRegistry.scalarOf_of_some hconvert hwhole] at hok
      rw [TypeRegistry.scalarOf_of_some hconvert' hwhole]
      exact hupheld v x hok

theorem UpheldBy.scalar (h : c.UpheldBy c') (declared : Option TypeName) (v : Value) :
    Upheld (fun _ => True) (c.types.scalar declared v) (c'.types.scalar declared v) := by
  cases declared with
  | none => exact .inr rfl
  | some t =>
    cases hok : c.types.scalarOf t v with
    | ok x => exact .inr (hok.trans (h.scalarOf hok).symm)
    | error e => exact .inl ⟨e, hok, trivial⟩

theorem UpheldBy.resolver (h : c.UpheldBy c') :
    c.resolver.Beside (fun _ => True) Eq c'.resolver where
  start := h.start
  select s := (h.select s).follows
  insert s := (h.insert s).follows
  update s := (h.update s).follows
  delete s := (h.delete s).follows
  field name type := (h.field name type).follows
  root hxy := by rw [hxy, h.root]
  condition d := (h.condition d).follows
  joins hxy := by
    rw [hxy, h.joins]
    exact ⟨rfl, rfl⟩

theorem UpheldBy.scope (h : c.UpheldBy c') (quoted : Bool) (database : Option String)
    {nested nested' : Option String → Query → Compilation}
    (hnested : ∀ d q, (nested d q).UpTo (fun _ => True) (nested' d q)) :
    Scope.Beside (fun _ => True) Eq (⟨c, quoted, database, nested⟩ : Scope σ)
      ⟨c', quoted, database, nested'⟩ :=
  Scope.beside_of_nested h.connection h.platform rfl rfl h.scalar (by rw [h.limits]) h.resolver
    (fun t => (h.table t).follows) hnested

theorem UpheldBy.selectIn (h : c.UpheldBy c') (n : Nat) (database : Option String) (q : Query) :
    (c.selectIn n database q).UpTo (fun _ => True) (c'.selectIn n database q) := by
  induction n generalizing database q with
  | zero => exact .refl _
  | succ n ih =>
    rw [Compiler.selectIn, Compiler.selectIn]
    apply attempt_beside rfl rfl
    intro _ _
    cases q.statement with
    | select select =>
      simp only
      cases select.derivedAggregate? with
      | some a => exact derived_beside h.platform rfl a (ih database _)
      | none =>
        have hscope := h.scope q.quoted database ih
        exact hscope.within .select q.cache (h.select select).follows hscope.select
    | _ => exact .refl _

theorem UpheldBy.compilation (h : c.UpheldBy c') (kind : StatementKind) (q : Query) :
    (c.compilation kind q).UpTo (fun _ => True) (c'.compilation kind q) := by
  have hnested (d : Option String) (q : Query) : (c.selectIn c.limits.nesting d q).UpTo
      (fun _ => True) (c'.selectIn c'.limits.nesting d q) := by
    rw [← h.limits]
    exact h.selectIn _ d q
  have hmutation : (c.mutationIn kind q).UpTo (fun _ => True) (c'.mutationIn kind q) := by
    have hscope := h.scope q.quoted none hnested
    apply attempt_beside rfl rfl
    intro _ _
    apply hscope.mutation
    apply Scope.target_beside
    · exact hscope.quote
    · exact fun t => Progress.Beside.consult (h.table t).follows
  cases kind with
  | select => exact hnested none q
  | _ => exact hmutation

/-- What is compiled without an error is compiled to the same where other answers stand in the place
of errors. -/
theorem UpheldBy.compile (h : c.UpheldBy c') (q : Query) :
    (c.compile q).UpheldBy (c'.compile q) := by
  intro compiled hok
  rw [compile_result] at hok ⊢
  rcases h.compilation q.statement.kind q with ⟨e, he, -⟩ | hsame
  · rw [Compilation.outcome_of_error he] at hok
    cases hok
  · rw [← hsame, hok]

theorem UpheldBy.compileAs (h : c.UpheldBy c') (kind : StatementKind) (q : Query) :
    (c.compileAs kind q).UpheldBy (c'.compileAs kind q) := by
  intro sql hok
  change (c.compilation kind q).result = .ok sql at hok
  change (c'.compilation kind q).result = .ok sql
  rcases h.compilation kind q with ⟨e, he, -⟩ | hsame
  · rw [hok] at he
    cases he
  · rcases Compilation.outcome_cases hsame with ⟨sql', hsql, hsql', -⟩ | ⟨e, he, -⟩
    · rw [hsql', ← hsql, hok]
    · rw [hok] at he
      cases he

theorem UpheldBy.interpolate (h : c.UpheldBy c') (q : Query) :
    (c.interpolate q).UpheldBy (c'.interpolate q) := by
  intro sql hok
  obtain ⟨compiled, hcompiled, rfl⟩ := map_eq_ok_iff.1 hok
  change (c'.compile q).result.map c'.interpolated = _
  rw [h.compile q compiled hcompiled]
  simp only [Except.map, interpolated, h.platform]

/-- A compiler whose resolver refuses passwords. -/
def guarded : Compiler (Option String) :=
  { ofDialect .mysql with
    resolver :=
      { Resolver.declared [] with
        field := fun name type =>
          if name = "password" then throw (.external "hidden")
          else (Resolver.declared []).field name type } }

theorem guarded_upheldBy : guarded.UpheldBy (ofDialect .mysql) where
  connection := rfl
  platform := rfl
  limits := rfl
  start := rfl
  select _ _ _ _ h := h
  insert _ _ _ _ h := h
  update _ _ _ _ h := h
  delete _ _ _ _ h := h
  field name type x field y h := by
    have hfield : guarded.resolver.field name type =
        if name = "password" then throw (.external "hidden")
        else (Resolver.declared []).field name type := rfl
    rw [hfield] at h
    split at h
    · cases h
    · exact h
  table _ _ _ _ h := h
  condition _ _ _ _ h := h
  root := rfl
  joins := rfl
  types h := ⟨_, h, fun _ _ hx => hx⟩

/-- Users by a column. -/
def usersBy (column : String) : Query :=
  Query.ofStatement (.select {
    tables := [.table "users"]
    filters := [.compare column "=" (.value (.integer 1))] })

end Compiler

end ParamSql
