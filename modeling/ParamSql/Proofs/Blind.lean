import Mathlib
import ParamSql.Proofs.SameText

namespace ParamSql

variable {σ : Type}

theorem Statement.Alike.kind_eq {Q : Type} {strict : Prop} {W : Value → Value → Prop}
    {G : Q → Q → Prop} {s t : Statement Q} (h : Statement.Alike strict W G s t) :
    s.kind = t.kind := by
  cases h <;> rfl

namespace Compiler

open Assemble

variable {c : Compiler σ} {S : σ → σ → Prop} {kind : StatementKind} {q r : Query}

theorem attempt_shaped (hqr : q.Shaped r) {work work' : Query → Compilation}
    (hwork : Answers False Eq (work q).result (work' r).result) :
    Answers False Eq (c.attempt kind q work).result (c.attempt kind r work').result := by
  obtain ⟨hstatement, _, _, hcache⟩ := hqr.unfold
  by_cases hkind : q.statement.kind = kind
  · have hkind' : r.statement.kind = kind := hstatement.kind_eq.symm.trans hkind
    cases hcompiled : q.cache.compiled with
    | some sql =>
      rw [attempt_of_compiled hkind hcompiled,
        attempt_of_compiled hkind' (hcache.compiled.symm.trans hcompiled)]
      exact .ok rfl
    | none =>
      rw [attempt_result hkind hcompiled,
        attempt_result hkind' (hcache.compiled.symm.trans hcompiled)]
      exact hwork
  · rw [attempt_of_ne hkind, attempt_of_ne (hstatement.kind_eq ▸ hkind)]
    exact .error nofun

theorem within_shaped {α : Type} {R : α → α → Prop} {s t : Scope σ}
    (hst : s.compiler.resolver = t.compiler.resolver) {x y : Cache} (hxy : x.SameTexts y)
    (hstart : S t.compiler.resolver.start t.compiler.resolver.start) {f g : Hook σ α}
    (hfg : Lockstep False S f g (Ends R S)) {k l : α → Assemble σ String}
    (hkl : ∀ a b, R a b →
      Lockstep False (Assembly.Shaped S) (k a) (l b) (Same (Assembly.Shaped S))) :
    Answers False Eq (within s kind x f k).result (within t kind y g l).result := by
  have hprepared := hfg _ _ hstart
  rw [within_eq, within_eq, hst]
  revert hprepared
  generalize f t.compiler.resolver.start = a, g t.compiler.resolver.start = b
  intro hprepared
  cases hprepared with
  | @ok a b z w hab =>
    simp only
    generalize .asked (.prepare kind) :: Journal.ofLogs (Log.statement s.compiler.level kind) = i,
      .asked (.prepare kind) :: Journal.ofLogs (Log.statement t.compiler.level kind) = j
    have hresult := hkl a b hab.1 ⟨{ x with compiling := true }, ⟨z, [], [], i⟩⟩
      ⟨{ y with compiling := true }, ⟨w, [], [], j⟩⟩
      ⟨hxy.with_compiling true, hab.2, .nil, trivial⟩
    revert hresult
    generalize k a _ = m, l b _ = n
    intro hresult
    cases hresult with
    | ok h => exact .ok h.1
    | error _ => exact .error False.elim
    | left _ => exact .left id
    | right _ => exact .right id
  | error _ => exact .error False.elim
  | left _ =>
    simp only
    split
    · exact .left id
    · exact .error nofun
  | right _ =>
    simp only
    split
    · exact .right id
    · exact .error nofun

theorem derived_shaped (hqr : q.Shaped r) {t u : Select Query}
    (htu : Select.Alike False (fun _ _ => True) Query.Shaped t u) (a : Aggregate)
    {nested : Query → Compilation}
    (hnested : ∀ q r, q.Shaped r → Answers False Eq (nested q).result (nested r).result) :
    Answers False Eq (c.derived q t a nested).result (c.derived r u a nested).result := by
  obtain ⟨_, hconnection, hquoted, _⟩ := hqr.unfold
  have hrows : (q.forRows t).Shaped (r.forRows u) :=
    .fold ⟨.select { htu with aggregate := rfl }, hconnection, hquoted, fun _ => rfl, rfl⟩
  have hresult := hnested _ _ hrows
  rw [derived_eq, derived_eq]
  revert hresult
  generalize nested (q.forRows t) = x, nested (r.forRows u) = y
  obtain ⟨result, _, _⟩ := x
  obtain ⟨result', _, _⟩ := y
  intro hresult
  simp only at hresult
  cases hresult with
  | ok h => exact .ok (by rw [h])
  | error _ => exact .error False.elim
  | left _ => exact .left id
  | right _ => exact .right id

/-- SELECTs of one shape are compiled to the same text, however deep they are nested. -/
theorem selectIn_shaped (hr : c.resolver.Blind S) (n : Nat) (database : Option String)
    (hqr : q.Shaped r) :
    Answers False Eq (c.selectIn n database q).result (c.selectIn n database r).result := by
  induction n generalizing database q r with
  | zero => exact .error nofun
  | succ n ih =>
    rw [selectIn, selectIn]
    apply attempt_shaped hqr
    obtain ⟨hstatement, _, hquoted, hcache⟩ := hqr.unfold
    revert hstatement
    simp only [← hquoted]
    generalize q.statement = a, r.statement = b
    intro hstatement
    cases hstatement with
    | @select t u htu =>
      -- Which way a SELECT goes depends on its flags, not on its values.
      have hsame : t.derivedAggregate? = u.derivedAggregate? := by
        rw [Select.derivedAggregate?, Select.derivedAggregate?, htu.distinct, htu.aggregate]
      simp only [hsame]
      cases u.derivedAggregate? with
      | some a => exact derived_shaped hqr htu a fun _ _ => ih database
      | none =>
        refine within_shaped rfl hcache hr.start (hr.select htu) fun _ _ => Scope.select_shaped ?_
        exact Scope.guided_shaped hr fun database _ _ => ih database
    | _ => exact .error nofun

theorem mutationIn_shaped (hr : c.resolver.Blind S) (hqr : q.Shaped r) :
    Answers False Eq (c.mutationIn kind q).result (c.mutationIn kind r).result := by
  apply attempt_shaped hqr
  obtain ⟨hstatement, _, hquoted, hcache⟩ := hqr.unfold
  have hscope : c.scope q = c.scope r := by rw [Compiler.scope, Compiler.scope, hquoted]
  have hs : (c.scope r).Guided False (fun _ _ => True) Query.Shaped (Progress.Shaped S) :=
    Scope.guided_shaped hr fun database _ _ => selectIn_shaped hr _ database
  have hwhole {f g : Render σ String}
      (h : Lockstep False (Progress.Shaped S) f g (Same (Progress.Shaped S))) :
      Lockstep False (Assembly.Shaped S) (Assemble.segment .whole false f)
        (Assemble.segment .whole false g) (Same (Assembly.Shaped S)) := by
    intro a b hab
    have hrun := h { a.progress with bound := [] } { b.progress with bound := [] }
      ⟨hab.progress.state, hab.progress.pending, trivial⟩
    unfold Assemble.segment
    revert hrun
    generalize f { a.progress with bound := [] } = x, g { b.progress with bound := [] } = y
    intro hrun
    cases hrun with
    | ok h =>
      exact .ok ⟨h.1, hab.cache.put .whole (s := ⟨none, _⟩) (t := ⟨none, _⟩) rfl, h.2⟩
    | error _ => exact .error False.elim
    | left _ => exact .left id
    | right _ => exact .right id
  revert hstatement
  simp only [hscope]
  generalize q.statement = a, r.statement = b
  intro hstatement
  cases hstatement with
  | select _ => exact .error nofun
  | insert h =>
    exact within_shaped rfl hcache hr.start (hr.insert h) fun _ _ hab => hwhole (hs.insert hab)
  | update h =>
    exact within_shaped rfl hcache hr.start (hr.update h) fun _ _ hab => hwhole (hs.update hab)
  | delete h =>
    exact within_shaped rfl hcache hr.start (hr.delete h) fun _ _ hab => hwhole (hs.delete hab)

theorem compilation_shaped (hr : c.resolver.Blind S) (kind : StatementKind) (hqr : q.Shaped r) :
    Answers False Eq (c.compilation kind q).result (c.compilation kind r).result := by
  cases kind with
  | select => exact selectIn_shaped hr _ none hqr
  | insert => exact mutationIn_shaped hr hqr
  | update => exact mutationIn_shaped hr hqr
  | delete => exact mutationIn_shaped hr hqr

/-- Queries that differ in the contents of their values alone are compiled to the same text, if both
are compiled and the hooks of the resolver do not look at values. -/
theorem sql_eq_of_shaped (hr : c.resolver.Blind S) (hqr : q.Shaped r) {d e : Compiled}
    (hd : (c.compile q).result = .ok d) (he : (c.compile r).result = .ok e) : d.sql = e.sql := by
  have htexts := compilation_shaped hr q.statement.kind hqr
  change (c.compilation q.statement.kind q).result.map _ = _ at hd
  change (c.compilation r.statement.kind r).result.map _ = _ at he
  rw [← hqr.unfold.statement.kind_eq] at he
  revert htexts hd he
  generalize c.compilation q.statement.kind q = x, c.compilation q.statement.kind r = y
  obtain ⟨result, _, _⟩ := x
  obtain ⟨result', _, _⟩ := y
  intro htexts hd he
  simp only at htexts hd he
  cases htexts with
  | ok h =>
    obtain rfl := Except.ok.inj hd
    obtain rfl := Except.ok.inj he
    exact h
  | error _ => exact nomatch hd
  | left _ => exact nomatch he
  | right _ => exact nomatch hd

end Compiler

theorem Resolver.declared_blind (types : List (String × TypeName)) :
    (declared types).Blind Eq :=
  declared_respects types

/-- Users of a given age or of none, by a search for their names. -/
def Query.users (age : String) (name : Like) : Query :=
  .ofStatement <| .select
    { tables := [.table "users"]
      filters := [.compare "age" "in" (.value (.list [.text age, .null])),
        .compare "name" "=" name.operand] }

theorem Query.users_shaped (age age' : String) {l m : Like}
    (hterms : l.terms.length = m.terms.length) (hnegated : l.negated = m.negated) :
    (users age l).Shaped (users age' m) := by
  have htables : List.Forall₂ (TableRef.Alike Query.Shaped) [.table "users"] [.table "users"] :=
    .cons ⟨.name _, rfl⟩ .nil
  refine .fold ⟨.select ⟨rfl, rfl, rfl, htables, .nil, ?_, rfl, .nil, rfl, rfl, rfl, rfl⟩, rfl, rfl,
    fun _ => rfl, rfl⟩
  refine .cons (.comparison .and ⟨rfl, rfl, .value ⟨trivial, rfl, rfl, ?_⟩, rfl⟩)
    (.cons (.comparison .and ⟨rfl, rfl, Like.operand_alike hterms hnegated, rfl⟩) .nil)
  exact .cons ⟨trivial, rfl⟩ (.cons ⟨trivial, rfl⟩ .nil)

theorem Compiler.sql_eq_of_shaped_users :
    ∃ d e : Compiled,
      ((ofDialect .mysql).compile (.users "18" (.contains "a"))).result = .ok d ∧
      ((ofDialect .mysql).compile (.users "' OR 1 = 1" (.startsWith "%?"))).result = .ok e ∧
      d.sql = e.sql := by
  have hfirst : ((ofDialect .mysql).compile (.users "18" (.contains "a"))).result =
      .ok ⟨"SELECT users.* FROM users WHERE (age IN (?) OR age IS NULL) AND name LIKE ?",
        [.text "18", .text "%a%"]⟩ := by cbv
  have hsecond : ((ofDialect .mysql).compile
      (.users "' OR 1 = 1" (.startsWith "%?"))).result =
      .ok ⟨"SELECT users.* FROM users WHERE (age IN (?) OR age IS NULL) AND name LIKE ?",
        [.text "' OR 1 = 1", .text "\\%?%"]⟩ := by cbv
  have hshaped : (Query.users "18" (.contains "a")).Shaped
      (.users "' OR 1 = 1" (.startsWith "%?")) := Query.users_shaped _ _ rfl rfl
  exact ⟨_, _, hfirst, hsecond,
    sql_eq_of_shaped (Resolver.declared_blind []) hshaped hfirst hsecond⟩

end ParamSql
