import ParamSql.Proofs.Placement
import ParamSql.Proofs.Blind

namespace ParamSql

variable {σ : Type}

/-- Queries are nested deeper than the limit allows. -/
abbrev CompileError.TooDeep (e : CompileError) : Prop :=
  e = .exceeded .nesting

theorem exists_representative {α : Type} {G : α → α → Prop} (hG : Equivalence G)
    (good : α → Prop) : ∃ rep : α → α, (∀ a, G a (rep a)) ∧ (∀ a b, G a b → rep a = rep b) ∧
      ∀ a, good a → good (rep a) := by
  let classes : Setoid α := ⟨G, hG⟩
  have hclass (x : Quotient classes) :
      ∃ a, Quotient.mk classes a = x ∧ ((∃ b, Quotient.mk classes b = x ∧ good b) → good a) := by
    by_cases h : ∃ b, Quotient.mk classes b = x ∧ good b
    · obtain ⟨b, hb, hgood⟩ := h
      exact ⟨b, hb, fun _ => hgood⟩
    · obtain ⟨a, ha⟩ := Quotient.exists_rep x
      exact ⟨a, ha, fun hb => absurd hb h⟩
  choose rep hrep hgood using hclass
  refine ⟨fun a => rep (Quotient.mk classes a), fun a => ?_, fun a b hab => ?_, fun a ha => ?_⟩
  · exact hG.symm (Quotient.exact (hrep (Quotient.mk classes a)))
  · exact congrArg rep (Quotient.sound hab)
  · exact hgood _ ⟨a, rfl, ha⟩

namespace Progress

/-- The same progress, but for nested queries in the relation `G` and states in the relation `S`. -/
abbrev Interchanged (G : Query → Query → Prop) (S : σ → σ → Prop) :
    Progress σ → Progress σ → Prop :=
  Progress.Alike True Eq G S Eq

variable {G : Query → Query → Prop} {S : σ → σ → Prop}

theorem binding_interchanged : Progress.Binding (Progress.Interchanged G S) where
  bound h := h.bound
  rebound _ h := ⟨h.state, h.pending, rfl⟩
  journal _ _ h := ⟨h.state, h.pending, h.bound⟩

theorem lenient_interchanged : Progress.Lenient (Progress.Interchanged G S) where
  journal _ _ h := ⟨h.state, h.pending, h.bound⟩
  bound _ h := ⟨h.state, h.pending, congrArg (· ++ _) h.bound⟩

end Progress

namespace Compiler

variable {c : Compiler σ}

theorem selectIn_deeper {n m : Nat} (h : n ≤ m) (d : Option String) (q : Query) :
    (c.selectIn n d q).UpTo CompileError.TooDeep (c.selectIn m d q) := by
  induction n generalizing m d q with
  | zero => exact .inl ⟨_, rfl, rfl⟩
  | succ n ih =>
    obtain ⟨m, rfl⟩ : ∃ k, m = k + 1 := ⟨m - 1, by omega⟩
    have hnested (d : Option String) (q : Query) := ih (m := m) (by omega) d q
    rw [selectIn, selectIn]
    apply attempt_beside rfl rfl
    intro _ _
    cases q.statement with
    | select select =>
      simp only
      cases select.derivedAggregate? with
      | some a => exact derived_beside rfl rfl a (hnested d _)
      | none =>
        have hscope := Scope.beside_of_upTo c q.quoted d hnested
        exact hscope.within .select q.cache .refl hscope.select
    | _ => exact .refl _

/-- A query that was built and compiled by the compiler, any number of times. -/
def Made (c : Compiler σ) (q : Query) : Prop :=
  ∃ (q₀ : Query) (steps : List Step), q = c.run q₀.fresh steps

/-- A query whose tables are looked for in no database where those of the query around it are looked
for in none. -/
def IsHome (c : Compiler σ) (q : Query) : Prop :=
  ∀ k ∈ q.connection, c.isForeign k → k.database = none

/-- Queries that are the same but for what is kept: of themselves, or of the queries nested in them,
which are in the relation `G`. -/
inductive SameButKept (c : Compiler σ) (G : Query → Query → Prop) : Query → Query → Prop
  | itself {q r : Query} (hq : c.Made q) (hr : c.Made r) (h : q.fresh = r.fresh) :
    SameButKept c G q r
  | nested {q r : Query} (statement : Statement.Alike True Eq G q.statement r.statement)
    (connection : q.connection = r.connection) (quoted : q.quoted = r.quoted)
    (cache : q.cache = r.cache) : SameButKept c G q r

/-- Classes of queries that may stand for each other where tables are looked for in no database. -/
structure Interchange (c : Compiler σ) (G : Query → Query → Prop) : Prop where
  equivalence : Equivalence G
  cases {q r : Query} : G q r → q = r ∨ c.IsHome q ∧ c.SameButKept G q r

/-- With `n` levels of nesting, queries that are the same but for what is kept are compiled to the
same, unless one of them is nested too deeply. -/
def AgreesAt (c : Compiler σ) (G : Query → Query → Prop) (n : Nat) : Prop :=
  ∀ q r, c.SameButKept G q r → (c.selectIn n none r).result ≠ .error (.exceeded .nesting) →
    (c.selectIn n none q).UpTo CompileError.TooDeep (c.selectIn n none r)

variable {G : Query → Query → Prop} {S : σ → σ → Prop} {q r : Query} {n : Nat}

theorem Made.fresh (c : Compiler σ) (q : Query) : c.Made q.fresh :=
  ⟨q, [], rfl⟩

theorem Made.compile_eq (hadd : c.resolver.Additive) (h : c.Made q) :
    (c.compile q).result = (c.compile q.fresh).result := by
  obtain ⟨q₀, steps, rfl⟩ := h
  exact ((Coherent.run hadd q₀ steps).compile hadd).1

namespace SameButKept

theorem connection_eq (h : c.SameButKept G q r) : q.connection = r.connection := by
  cases h with
  | itself _ _ h =>
    change q.fresh.connection = r.fresh.connection
    rw [h]
  | nested _ connection => exact connection

theorem projectedColumns_eq (h : c.SameButKept G q r) (s : Scope σ) :
    s.projectedColumns? q = s.projectedColumns? r := by
  have hfresh (q : Query) : s.projectedColumns? q = s.projectedColumns? q.fresh := rfl
  cases h with
  | itself _ _ h => rw [hfresh, h, ← hfresh]
  | nested statement =>
    unfold Scope.projectedColumns?
    revert statement
    generalize q.statement = a, r.statement = b
    intro statement
    cases statement with
    | select h => simp only [h.columns, h.aggregate]
    | _ => rfl

theorem forRows {s t : Select Query} (h : Select.Alike True Eq G s t)
    (connection : q.connection = r.connection) (quoted : q.quoted = r.quoted) :
    c.SameButKept G (q.forRows s) (r.forRows t) :=
  .nested (.select { h with aggregate := rfl }) connection quoted rfl

end SameButKept

theorem derived_of_error {select : Select Query} {a : Aggregate} {nested : Query → Compilation}
    {e : CompileError} (h : (nested (q.forRows select)).result = .error e) :
    (c.derived q select a nested).result = .error e := by
  rw [derived_eq, h]

/-- A SELECT that was made by the compiler is compiled to the same, with all levels of nesting, as
one of which nothing is kept. -/
theorem Made.selectIn_eq (hadd : c.resolver.Additive) (h : c.Made q) :
    (c.selectIn c.limits.nesting none q).outcome =
      (c.selectIn c.limits.nesting none q.fresh).outcome := by
  by_cases hkind : q.statement.kind = .select
  · have hcompile := h.compile_eq hadd
    have hfresh : q.fresh.statement.kind = .select := hkind
    rw [compile_result, compile_result, hkind, hfresh] at hcompile
    exact hcompile
  · cases c.limits.nesting with
    | zero => rfl
    | succ n =>
      rw [selectIn, selectIn, attempt_of_ne hkind, attempt_of_ne (q := q.fresh) hkind]
      rfl

theorem Made.selectIn_upTo (hadd : c.resolver.Additive) (hn : n ≤ c.limits.nesting)
    (hq : c.Made q) (hr : c.Made r) (hqr : q.fresh = r.fresh)
    (hne : (c.selectIn n none r).result ≠ .error (.exceeded .nesting)) :
    (c.selectIn n none q).UpTo CompileError.TooDeep (c.selectIn n none r) := by
  rcases selectIn_deeper (c := c) hn none q with hdeep | hleft
  · exact .inl hdeep
  · have hright := (selectIn_deeper (c := c) hn none r).outcome_of_ne hne
    exact .inr <| calc
      (c.selectIn n none q).outcome
        = (c.selectIn c.limits.nesting none q.fresh).outcome := hleft.trans (hq.selectIn_eq hadd)
      _ = (c.selectIn c.limits.nesting none r.fresh).outcome := by rw [hqr]
      _ = (c.selectIn n none r).outcome := (hright.trans (hr.selectIn_eq hadd)).symm

/-- Nested queries can be compiled so that those of a class come to the same, which is what they are
compiled to unless that is too deep. -/
theorem exists_nested (hG : c.Interchange G) (hn : c.AgreesAt G n) :
    ∃ nested : Option String → Query → Compilation,
      (∀ d q, (c.selectIn n d q).UpTo CompileError.TooDeep (nested d q)) ∧
        ∀ q r, G q r → nested none q = nested none r := by
  obtain ⟨rep, hclass, hrep, hgood⟩ := exists_representative hG.equivalence
    fun q => (c.selectIn n none q).result ≠ .error (.exceeded .nesting)
  -- One query is compiled for its whole class; it is not nested too deeply unless all of them are.
  refine ⟨fun d q => if d = none then c.selectIn n none (rep q) else c.selectIn n d q,
    fun d q => ?_, fun q r hqr => ?_⟩
  · cases d with
    | some d => exact .refl _
    | none =>
      simp only [if_pos]
      by_cases hdeep : (c.selectIn n none q).result = .error (.exceeded .nesting)
      · exact .inl ⟨_, hdeep, rfl⟩
      · rcases hG.cases (hclass q) with hself | ⟨_, hsame⟩
        · rw [← hself]
          exact .refl _
        · exact hn q (rep q) hsame (hgood q hdeep)
  · simp only [if_pos, hrep q r hqr]

theorem databaseOf_isHome {s : Scope σ} (hc : s.compiler = c) (hs : s.database = none)
    (hq : c.IsHome q) : s.databaseOf q = .ok none ∨ ∃ e, s.databaseOf q = .error e := by
  subst hc
  unfold Scope.databaseOf
  cases hconnection : q.connection with
  | none => exact .inl (congrArg Except.ok hs)
  | some k =>
    simp only
    split
    · exact .inl (congrArg Except.ok hs)
    · rename_i hname
      split
      · exact .inl (congrArg Except.ok (hq k hconnection (by simpa [isForeign] using hname)))
      · exact .inr ⟨_, rfl⟩

/-- A way to assemble statements: the same comes to the same in scopes side by side, and what is in
the relation `R` comes to the same where the renderings keep progress interchanged. -/
structure Assembles (G : Query → Query → Prop) (S : σ → σ → Prop) {α : Type} (R : α → α → Prop)
    (assemble : Scope σ → α → Assemble σ String) : Prop where
  beside {s t : Scope σ} : s.Beside CompileError.TooDeep Eq t → s.compiler = t.compiler →
    s.database = t.database → ∀ a, Follows CompileError.TooDeep
      (Assembly.Beside (Progress.Beside Eq)) (assemble s a) (assemble t a)
      (Same (Assembly.Beside (Progress.Beside Eq)))
  alike {s : Scope σ} : s.Guided True Eq G (Progress.Interchanged G S) → ∀ a b, R a b →
    Follows (fun _ => False) (Assembly.Beside (Progress.Interchanged G S)) (assemble s a)
      (assemble s b) (Same (Assembly.Beside (Progress.Interchanged G S)))

theorem assembles_select : Assembles G S (Select.Alike True Eq G) (Scope.select (σ := σ)) where
  beside h _ _ := h.select
  alike {s} h t u htu := by
    apply Assemble.select_beside Progress.binding_interchanged
    · exact (h.works htu).imp fun _ _ hwork => ⟨hwork.1, .of_lockstep hwork.2⟩
    · intro cache
      rw [Scope.selectSql, Scope.selectSql, htu.limit, htu.offset]

theorem assembles_whole {α : Type} {R : α → α → Prop} {render : Scope σ → α → Render σ String}
    (hbeside : ∀ {s t : Scope σ}, s.Beside CompileError.TooDeep Eq t →
      (∀ kind u, Follows CompileError.TooDeep (Progress.Beside Eq) (s.target kind u)
        (t.target kind u) (Same (Progress.Beside Eq))) →
      ∀ a, Follows CompileError.TooDeep (Progress.Beside Eq) (render s a) (render t a)
        (Same (Progress.Beside Eq)))
    (halike : ∀ {s : Scope σ}, s.Guided True Eq G (Progress.Interchanged G S) → ∀ {a b}, R a b →
      Lockstep True (Progress.Interchanged G S) (render s a) (render s b)
        (Same (Progress.Interchanged G S))) :
    Assembles G S R fun s a => Assemble.segment .whole false (render s a) where
  beside {s t} h hcompiler hdatabase a := by
    apply Assemble.segment_beside Progress.Beside.binding
    refine hbeside h (Scope.target_beside (fun name => ?_) fun u => ?_) a
    · simp only [Scope.tableName, hdatabase, h.quote]
    · rw [Scope.resolveTable, Scope.resolveTable, hcompiler]
      exact Progress.Beside.consult .refl
  alike h a b hab := by
    apply Assemble.segment_beside Progress.binding_interchanged
    exact .of_lockstep (halike h hab)

section

variable (hhooks : c.resolver.Respects True Eq G S) (hG : c.Interchange G)

include hhooks hG

theorem guided_interchanged {quoted : Bool} {nested : Option String → Query → Compilation}
    (hnested : ∀ q r, G q r → nested none q = nested none r) :
    Scope.Guided ⟨c, quoted, none, nested⟩ True Eq G (Progress.Interchanged G S) := by
  apply Scope.guided hhooks
  · rintro type converted v _ rfl
    exact Progress.lenient_interchanged.bind type converted v
  · intro q r hqr
    rcases hG.cases hqr with rfl | ⟨hhome, hsame⟩
    · exact Progress.lenient_interchanged.query q
    · apply Follows.lockstep
      apply Progress.binding_interchanged.query
      have hdatabase (s : Scope σ) : s.databaseOf r = s.databaseOf q := by
        rw [Scope.databaseOf, Scope.databaseOf, hsame.connection_eq]
      rw [hdatabase]
      rcases databaseOf_isHome (s := ⟨c, quoted, none, nested⟩) rfl rfl hhome with hd | ⟨e, he⟩
      · have hsame := congrArg Compilation.outcome (hnested q r hqr)
        exact .inl ⟨none, none, hd, hd, .inr hsame⟩
      · exact .inr ⟨e, he, he⟩
  · intro q r hqr
    rcases hG.cases hqr with rfl | ⟨_, hsame⟩
    · rfl
    · exact hsame.projectedColumns_eq _

/-- Both compilations are moved to where nested queries of a class are compiled to the same; there
they come to the same. -/
theorem within_interchanged (hn : c.AgreesAt G n) (quoted : Bool) (kind : StatementKind)
    (cache : Cache) {α : Type} {R : α → α → Prop} {assemble : Scope σ → α → Assemble σ String}
    (hassemble : Assembles G S R assemble) {prepare prepare' : Hook σ α}
    (hprepare : Lockstep True S prepare prepare' (Ends R S))
    (hne : (within ⟨c, quoted, none, c.selectIn n⟩ kind cache prepare'
      (assemble ⟨c, quoted, none, c.selectIn n⟩)).result ≠ .error (.exceeded .nesting)) :
    (within ⟨c, quoted, none, c.selectIn n⟩ kind cache prepare
        (assemble ⟨c, quoted, none, c.selectIn n⟩)).UpTo CompileError.TooDeep
      (within ⟨c, quoted, none, c.selectIn n⟩ kind cache prepare'
        (assemble ⟨c, quoted, none, c.selectIn n⟩)) := by
  obtain ⟨nested, hupTo, hsame⟩ := exists_nested hG hn
  have hscope := Scope.beside_of_upTo c quoted none hupTo
  have hmoved (prepare : Hook σ α) := hscope.within kind cache (Follows.refl (f := prepare))
    (hassemble.beside hscope rfl rfl)
  have hleft := hmoved prepare
  have hright := (hmoved prepare').outcome_of_ne hne
  have hmiddle : (within ⟨c, quoted, none, nested⟩ kind cache prepare
      (assemble ⟨c, quoted, none, nested⟩)).UpTo (fun _ => False)
      (within ⟨c, quoted, none, nested⟩ kind cache prepare'
        (assemble ⟨c, quoted, none, nested⟩)) := by
    apply within_beside (P := Progress.Interchanged G S) kind cache hhooks.start
    · exact fun _ _ _ _ hxy => ⟨hxy, .nil, rfl⟩
    · exact .of_lockstep hprepare
    · exact hassemble.alike (guided_interchanged hhooks hG hsame)
  rcases hleft with hdeep | hleft
  · exact .inl hdeep
  · exact .inr (hleft.trans (hmiddle.outcome.trans hright.symm))

variable (hadd : c.resolver.Additive)

include hadd

/-- What is kept of queries is not seen, with any number of levels up to the limit. -/
theorem agreesAt (hn : n ≤ c.limits.nesting) : c.AgreesAt G n := by
  induction n with
  | zero => exact fun q r _ hne => absurd rfl hne
  | succ n ih =>
    have ih := ih (by omega)
    intro q r h hne
    cases h with
    | itself hq hr hqr => exact hq.selectIn_upTo hadd hn hr hqr hne
    | nested statement connection quoted cache =>
      have hkind := statement.kind_eq
      rw [selectIn] at hne
      rw [selectIn, selectIn]
      apply attempt_beside hkind cache
      intro hselect hcompiled
      rw [attempt_result (hkind.symm.trans hselect) (cache ▸ hcompiled)] at hne
      revert statement hne
      simp only [← quoted, ← cache]
      generalize q.statement = s, r.statement = t
      intro hne statement
      cases statement with
      | @select s t hst =>
        have hderived : s.derivedAggregate? = t.derivedAggregate? := by
          rw [Select.derivedAggregate?, Select.derivedAggregate?, hst.distinct, hst.aggregate]
        simp only [hderived] at hne ⊢
        cases hcase : t.derivedAggregate? with
        | some a =>
          -- The rows are queries of their own, in no class; the induction is about them too.
          simp only [hcase] at hne
          exact derived_beside rfl cache a (ih _ _ (.forRows hst connection quoted)
            fun hdeep => hne (derived_of_error hdeep))
        | none =>
          simp only [hcase] at hne
          exact within_interchanged hhooks hG ih q.quoted .select q.cache assembles_select
            (hhooks.select hst) hne
      | _ => exact .failed rfl rfl

variable (statement : Statement.Alike True Eq G q.statement r.statement)
  (quoted : q.quoted = r.quoted) (cache : q.cache = r.cache)

include statement quoted cache

theorem mutationIn_interchanged {kind : StatementKind}
    (hne : (c.mutationIn kind r).result ≠ .error (.exceeded .nesting)) :
    (c.mutationIn kind q).UpTo CompileError.TooDeep (c.mutationIn kind r) := by
  have hn := agreesAt hhooks hG hadd le_rfl
  have hkind := statement.kind_eq
  have hscope : c.scope r = c.scope q := by rw [Compiler.scope, Compiler.scope, quoted]
  rw [mutationIn] at hne
  rw [mutationIn, mutationIn]
  apply attempt_beside hkind cache
  intro hselect hcompiled
  rw [attempt_result (hkind.symm.trans hselect) (cache ▸ hcompiled)] at hne
  revert statement hne
  simp only [hscope, ← cache]
  generalize q.statement = s, r.statement = t
  intro statement hne
  cases statement with
  | select _ => exact .failed rfl rfl
  | insert h =>
    exact within_interchanged hhooks hG hn q.quoted .insert q.cache
      (assembles_whole Scope.Beside.insert Scope.Guided.insert) (hhooks.insert h) hne
  | update h =>
    exact within_interchanged hhooks hG hn q.quoted .update q.cache
      (assembles_whole Scope.Beside.update Scope.Guided.update) (hhooks.update h) hne
  | delete h =>
    exact within_interchanged hhooks hG hn q.quoted .delete q.cache
      (assembles_whole Scope.Beside.delete Scope.Guided.delete) (hhooks.delete h) hne

theorem compilation_interchanged (connection : q.connection = r.connection) (kind : StatementKind)
    (hne : (c.compilation kind r).result ≠ .error (.exceeded .nesting)) :
    (c.compilation kind q).UpTo CompileError.TooDeep (c.compilation kind r) := by
  cases kind with
  | select =>
    exact agreesAt hhooks hG hadd le_rfl q r (.nested statement connection quoted cache) hne
  | insert => exact mutationIn_interchanged hhooks hG hadd statement quoted cache hne
  | update => exact mutationIn_interchanged hhooks hG hadd statement quoted cache hne
  | delete => exact mutationIn_interchanged hhooks hG hadd statement quoted cache hne

end

/-- A query is compiled to the same whether the queries nested in it keep what they were compiled to
or nothing, at every depth and in every position, if the tables of these are looked for in no
database and no query is nested too deeply. -/
theorem compile_eq_of_sameButKept (hadd : c.resolver.Additive)
    (hhooks : c.resolver.Respects True Eq G S) (hG : c.Interchange G) (h : c.SameButKept G q r)
    (hq : (c.compile q).result ≠ .error (.exceeded .nesting))
    (hr : (c.compile r).result ≠ .error (.exceeded .nesting)) :
    (c.compile q).result = (c.compile r).result := by
  cases h with
  | itself hqmade hrmade hqr => rw [hqmade.compile_eq hadd, hrmade.compile_eq hadd, hqr]
  | nested statement connection quoted cache =>
    have hresult {q : Query} (h : (c.compile q).result ≠ .error (.exceeded .nesting)) :
        (c.compilation q.statement.kind q).result ≠ .error (.exceeded .nesting) :=
      fun hdeep => h (Compilation.outcome_of_error hdeep)
    have hupTo := compilation_interchanged hhooks hG hadd statement quoted cache connection
      q.statement.kind (statement.kind_eq ▸ hresult hr)
    rw [compile_result, compile_result, ← statement.kind_eq]
    exact hupTo.outcome_of_ne (hresult hq)

theorem Interchange.of_made {s : Query} (hs : c.Made s) (hhome : c.IsHome s) :
    c.Interchange fun q r => q = r ∨ (q = s ∨ q = s.fresh) ∧ (r = s ∨ r = s.fresh) where
  equivalence := by
    refine ⟨fun q => .inl rfl, ?_, ?_⟩
    · rintro q r (rfl | ⟨hq, hr⟩)
      · exact .inl rfl
      · exact .inr ⟨hr, hq⟩
    · rintro q r t (rfl | ⟨hq, hr⟩) (rfl | ⟨hr', ht⟩)
      · exact .inl rfl
      · exact .inr ⟨hr', ht⟩
      · exact .inr ⟨hq, hr⟩
      · exact .inr ⟨hq, ht⟩
  cases := by
    have heither {q : Query} (h : q = s ∨ q = s.fresh) :
        c.Made q ∧ c.IsHome q ∧ q.fresh = s.fresh := by
      rcases h with rfl | rfl
      · exact ⟨hs, hhome, rfl⟩
      · exact ⟨.fresh c s, hhome, rfl⟩
    rintro q r (rfl | ⟨hq, hr⟩)
    · exact .inl rfl
    · obtain ⟨hq, hqhome, hqs⟩ := heither hq
      obtain ⟨hr, _, hrs⟩ := heither hr
      exact .inr ⟨hqhome, .itself hq hr (hqs.trans hrs.symm)⟩

end Compiler

/-- The users whose ids a query tells. -/
def Query.usersWithin (ids : Query) : Query :=
  .ofStatement <| .select
    { tables := [.table "users"], filters := [.compare "id" "in" (.query ids)] }

theorem Query.usersWithin_alike {G : Query → Query → Prop} {q r : Query} (h : G q r) :
    Statement.Alike True Eq G (usersWithin q).statement (usersWithin r).statement := by
  have htables : List.Forall₂ (TableRef.Alike G) [.table "users"] [.table "users"] :=
    .cons ⟨.name _, rfl⟩ .nil
  have hfilters : List.Forall₂ (Condition.Alike True Eq G) [.compare "id" "in" (.query q)]
      [.compare "id" "in" (.query r)] :=
    .cons (.comparison .and ⟨rfl, rfl, .query h, rfl⟩) .nil
  exact .select ⟨rfl, rfl, rfl, htables, .nil, hfilters, rfl, .nil, rfl, rfl, rfl, rfl⟩

namespace Compiler

/-- The logs, compiled on their own after some edits. -/
def compiledLogs (edits : List Edit) : Query :=
  (ofDialect .mysql).run (Query.empty .select).fresh
    (.edit (.table (.table "logs")) :: edits.map .edit ++ [.compile])

theorem SameButKept.usersWithin {c : Compiler σ} {G : Query → Query → Prop} {q r : Query}
    (h : G q r) : c.SameButKept G (.usersWithin q) (.usersWithin r) :=
  .nested (Query.usersWithin_alike h) rfl rfl rfl

theorem compiledLogs_made (edits : List Edit) : (ofDialect .mysql).Made (compiledLogs edits) :=
  ⟨.empty .select, _, rfl⟩

theorem compile_usersWithin_logs :
    (compiledLogs []).cache.compiled = some "SELECT logs.* FROM logs" ∧
      ((ofDialect .mysql).compile (.usersWithin (compiledLogs []))).result =
        ((ofDialect .mysql).compile (.usersWithin (compiledLogs []).fresh)).result := by
  have hkept : ((ofDialect .mysql).compile (.usersWithin (compiledLogs []))).result =
      .ok ⟨"SELECT users.* FROM users WHERE id IN (SELECT logs.* FROM logs)", []⟩ := by cbv
  have hfresh : ((ofDialect .mysql).compile (.usersWithin (compiledLogs []).fresh)).result =
      .ok ⟨"SELECT users.* FROM users WHERE id IN (SELECT logs.* FROM logs)", []⟩ := by cbv
  have hhome : (ofDialect .mysql).IsHome (compiledLogs []) := by
    intro k hk
    have hnone : (compiledLogs []).connection = none := by cbv
    rw [hnone] at hk
    cases hk
  refine ⟨by cbv, compile_eq_of_sameButKept (Resolver.declared_additive [])
    (Resolver.declared_respects []) (.of_made (compiledLogs_made []) hhome) ?_ ?_ ?_⟩
  · exact .usersWithin (.inr ⟨.inl rfl, .inr rfl⟩)
  · rw [hkept]
    intro hdeep
    cases hdeep
  · rw [hfresh]
    intro hdeep
    cases hdeep

/-- The logs are bound to an archive, which their own text does not name. -/
theorem compile_usersWithin_archivedLogs_ne :
    ((ofDialect .mysql).compile (.usersWithin
        (compiledLogs [.connection ⟨"archive", "mysql", some "archive_db"⟩]))).result ≠
      ((ofDialect .mysql).compile (.usersWithin
        (compiledLogs [.connection ⟨"archive", "mysql", some "archive_db"⟩]).fresh)).result := by
  have hkept : ((ofDialect .mysql).compile (.usersWithin
      (compiledLogs [.connection ⟨"archive", "mysql", some "archive_db"⟩]))).result =
      .ok ⟨"SELECT users.* FROM users WHERE id IN (SELECT logs.* FROM logs)", []⟩ := by cbv
  have hfresh : ((ofDialect .mysql).compile (.usersWithin
      (compiledLogs [.connection ⟨"archive", "mysql", some "archive_db"⟩]).fresh)).result =
      .ok ⟨"SELECT users.* FROM users WHERE id IN (SELECT logs.* FROM archive_db.logs)", []⟩ := by
    cbv
  rw [hkept, hfresh]
  simp

end Compiler

end ParamSql
