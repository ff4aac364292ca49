import ParamSql.Proofs.RewordedClauses

namespace ParamSql

variable {σ : Type}

/-- Queries never compiled that are rewordings of each other; the queries nested in them are related
by `G`. -/
structure Query.Reworded (w : Wording) (G : Query → Query → Prop) (q r : Query) : Prop where
  statement : Statement.Reworded w G q.statement r.statement
  connection : q.connection = r.connection
  quoting : w.quoting q.quoted r.quoted
  fresh : q.cache = {} ∧ r.cache = {}

def Compiled.Reworded (w : Wording) (x y : Compiled) : Prop :=
  w.Text x.sql y.sql ∧ x.bindings = y.bindings

/-- Compilations that come to the same but for the wording, or fail for the same cause. -/
def Compilation.Reworded (w : Wording) (x y : Compilation) : Prop :=
  (∃ a b, x.result = .ok a ∧ y.result = .ok b ∧ w.Text a b ∧ x.cache.bindings = y.cache.bindings) ∨
    ∃ e, x.result = .error e ∧ y.result = .error e

/-- Two compilers for two wordings, with the same types, limits and resolver. If their dialects are
not the same, nested queries are not bound to another connection. -/
structure Compiler.Rewords (w : Wording) (G : Query → Query → Prop) (S : σ → σ → Prop)
    (c c' : Compiler σ) : Prop where
  left : c.platform = w.left.platform
  right : c'.platform = w.right.platform
  connection : c.connection.name = c'.connection.name
  types : c.types = c'.types
  limits : c.limits = c'.limits
  resolver : c'.resolver = c.resolver
  hooks : c.resolver.Rewords w G S
  nested {q r : Query} : G q r → q.Reworded w G r
  native : w.left = w.right ∨ ∀ q r, G q r → ∀ k ∈ q.connection, k.name = c.connection.name

/-- Caches that keep the same but for the wording. -/
structure Cache.Reworded (w : Wording) (x y : Cache) : Prop where
  fragment (clause : Clause) : Option.Rel w.Text (x.slot clause).fragment (y.slot clause).fragment
  bindings (clause : Clause) : (x.slot clause).bindings = (y.slot clause).bindings

structure Assembly.Reworded (w : Wording) (G : Query → Query → Prop) (S : σ → σ → Prop)
    (a b : Assembly σ) : Prop where
  cache : Cache.Reworded w a.cache b.cache
  progress : Progress.Reworded w G S a.progress b.progress

namespace Cache.Reworded

variable {w : Wording} {x y : Cache}

theorem refl (x : Cache) : Cache.Reworded w x x where
  fragment clause := by
    cases (x.slot clause).fragment with
    | none => exact .none
    | some sql => exact .some (.refl sql)
  bindings _ := rfl

variable (h : Cache.Reworded w x y)

include h

theorem isMissing (clause : Clause) : x.isMissing clause = y.isMissing clause := by
  have hfragment := h.fragment clause
  rw [Cache.isMissing, Cache.isMissing]
  revert hfragment
  generalize (x.slot clause).fragment = a, (y.slot clause).fragment = b
  intro hfragment
  cases hfragment <;> rfl

theorem put (clause : Clause) {a b : Slot} (hfragment : Option.Rel w.Text a.fragment b.fragment)
    (hbindings : a.bindings = b.bindings) :
    Cache.Reworded w (x.put clause a) (y.put clause b) where
  fragment other := by
    by_cases hother : other = clause
    · rw [hother, slot_put_self, slot_put_self]
      exact hfragment
    · rw [slot_put_ne _ _ hother, slot_put_ne _ _ hother]
      exact h.fragment other
  bindings other := by
    by_cases hother : other = clause
    · rw [hother, slot_put_self, slot_put_self, hbindings]
    · rw [slot_put_ne _ _ hother, slot_put_ne _ _ hother, h.bindings]

theorem discard (clauses : List Clause) :
    Cache.Reworded w (x.discard clauses) (y.discard clauses) where
  fragment clause := by
    rw [slot_discard, slot_discard]
    split
    · exact .none
    · exact h.fragment clause
  bindings clause := by
    rw [slot_discard, slot_discard]
    split
    · rfl
    · exact h.bindings clause

theorem bindings_eq : x.bindings = y.bindings := by
  have hwhole : x.whole.bindings = y.whole.bindings := h.bindings .whole
  simp only [Cache.bindings, hwhole, h.bindings]

theorem fragments (clauses : List Clause) :
    List.Forall₂ w.Text (clauses.filterMap fun clause => (x.slot clause).fragment)
      (clauses.filterMap fun clause => (y.slot clause).fragment) := by
  induction clauses with
  | nil => exact .nil
  | cons clause clauses ih =>
    have hfragment := h.fragment clause
    rw [List.filterMap_cons, List.filterMap_cons]
    revert hfragment
    generalize (x.slot clause).fragment = a, (y.slot clause).fragment = b
    intro hfragment
    cases hfragment with
    | none => exact ih
    | some hab => exact .cons hab ih

end Cache.Reworded

namespace Compilation.Reworded

variable {w : Wording} {x y : Compilation}

theorem answers (h : x.Reworded w y) :
    Answers True (Compiled.Reworded w) x.outcome y.outcome := by
  rcases h with ⟨a, b, hx, hy, hab, hbindings⟩ | ⟨e, hx, hy⟩
  · rw [outcome_of_ok hx, outcome_of_ok hy]
    exact .ok ⟨hab, hbindings⟩
  · rw [outcome_of_error hx, outcome_of_error hy]
    exact .error fun _ => rfl

theorem failed {e : CompileError} (hx : x.result = .error e) (hy : y.result = .error e) :
    x.Reworded w y :=
  .inr ⟨e, hx, hy⟩

end Compilation.Reworded

namespace Assemble

variable {w : Wording} {G : Query → Query → Prop} {S : σ → σ → Prop} {f g : Render σ String}

theorem segment_reworded (cl : Clause) (keep : Bool) (h : Render.Reworded w G S w.Text f g) :
    Lockstep True (Assembly.Reworded w G S) (segment cl keep f) (segment cl keep g)
      (Ends w.Text (Assembly.Reworded w G S)) := by
  rintro ⟨cache, p⟩ ⟨cache', q⟩ ⟨hcache, hpq⟩
  have hrun := h _ _ (Progress.binding_reworded.rebound [] hpq)
  unfold segment
  simp only
  rcases hrun.both with ⟨a, b, p', q', ha, hb, hab, hpq'⟩ | ⟨e, p', q', ha, hb⟩
  · rw [ha, hb]
    refine .ok ⟨hab, hcache.put cl ?_ hpq'.bound, hpq'⟩
    cases keep with
    | true => exact .some hab
    | false => exact .none
  · rw [ha, hb]
    exact .error fun _ => rfl

theorem clause_reworded (cl : Clause) (h : Render.Reworded w G S w.Text f g) :
    Lockstep True (Assembly.Reworded w G S) (clause cl f) (clause cl g)
      (Stays (Assembly.Reworded w G S)) := by
  intro a b hab
  change InStep True _ ((if a.cache.isMissing cl then Functor.discard (segment cl true f)
      else Pure.pure ()) a)
    ((if b.cache.isMissing cl then Functor.discard (segment cl true g) else Pure.pure ()) b)
  rw [hab.cache.isMissing]
  split
  · have hsegment := segment_reworded cl true h
    exact Lockstep.map (hsegment.mono (fun _ _ => id) fun _ _ _ _ hend => ⟨trivial, hend.2⟩) a b hab
  · exact .ok ⟨trivial, hab⟩

theorem fill_reworded {ws vs : List (Work σ)}
    (h : List.Forall₂ (fun x y => x.1 = y.1 ∧ Render.Reworded w G S w.Text x.2 y.2) ws vs) :
    Lockstep True (Assembly.Reworded w G S) (fill ws) (fill vs)
      (Stays (Assembly.Reworded w G S)) := by
  apply Lockstep.forM h
  rintro ⟨clause, f⟩ ⟨_, g⟩ ⟨rfl, hfg⟩
  exact clause_reworded clause hfg

end Assemble

namespace Scope.Reworded

open Assemble

variable {w : Wording} {G : Query → Query → Prop} {S : σ → σ → Prop} {s t : Scope σ}
  (h : Scope.Reworded w G S s t)

include h

theorem selectSql {c d : Select Query} (hcd : Select.Reworded w G c d) {x y : Cache}
    (hxy : Cache.Reworded w x y) : w.Text (s.selectSql c x) (t.selectSql d y) := by
  have hbody : w.Text
      ("".intercalate (Clause.textOrder.filterMap fun clause => (x.slot clause).fragment))
      ("".intercalate (Clause.textOrder.filterMap fun clause => (y.slot clause).fragment)) :=
    .intercalate _ (hxy.fragments _)
  have hlock : w.Text (x.lock.fragment.getD "") (y.lock.fragment.getD "") := by
    have hfragment : Option.Rel w.Text x.lock.fragment y.lock.fragment := hxy.fragment .lock
    revert hfragment
    generalize x.lock.fragment = a, y.lock.fragment = b
    intro hfragment
    cases hfragment with
    | none => exact .refl _
    | some hab => exact hab
  rw [Scope.selectSql, Scope.selectSql, hcd.limit, hcd.offset, h.left, h.right]
  refine Wording.Text.append ?_ hlock
  split
  · exact hbody.limited _ _
  · exact hbody

theorem select {c d : Select Query} (hcd : Select.Reworded w G c d) :
    Lockstep True (Assembly.Reworded w G S) (s.select c) (t.select d)
      (Ends w.Text (Assembly.Reworded w G S)) := by
  intro a b hab
  have hdropped : Assembly.Reworded w G S (dropped a) (dropped b) := by
    rw [dropped, dropped, funext hab.cache.isMissing]
    split
    · exact ⟨hab.cache.discard _, hab.progress⟩
    · exact hab
  have hfill : Lockstep True (Assembly.Reworded w G S) (fill (s.works c)) (fill (t.works d))
      (Stays (Assembly.Reworded w G S)) := by
    apply fill_reworded
    simp only [works, body, List.cons_append, List.nil_append]
    refine .cons ⟨rfl, h.columnsClause hcd⟩ ?_
    refine .cons ⟨rfl, h.tablesClause hcd.tables⟩ ?_
    refine .cons ⟨rfl, hcd.groups ▸ h.groupsClause c.groups⟩ ?_
    refine .cons ⟨rfl, h.conditionsAfter _ hcd.having⟩ ?_
    refine .cons ⟨rfl, hcd.orders ▸ h.ordersClause c.orders⟩ ?_
    refine .cons ⟨rfl, h.conditionsAfter _ hcd.filters⟩ ?_
    refine .cons ⟨rfl, h.joinsClause hcd⟩ ?_
    exact .cons ⟨rfl, .ends (h.lockClause hcd)⟩ .nil
  rw [select_eq, select_eq]
  rcases (hfill _ _ hdropped).both with ⟨_, _, a, b, ha, hb, _, hab⟩ | ⟨e, a, b, ha, hb⟩
  · rw [ha, hb]
    exact .ok ⟨h.selectSql hcd hab.cache, hab⟩
  · rw [ha, hb]
    exact .error fun _ => rfl

end Scope.Reworded

theorem Projection.Reworded.outputName_eq {w : Wording} {p q : Projection}
    (h : p.Reworded w q) : p.outputName? = q.outputName? := by
  obtain ⟨column, label⟩ := p
  obtain ⟨column', _⟩ := q
  obtain ⟨hcolumn, rfl⟩ := h
  cases hcolumn <;> cases label <;> rfl

theorem Projection.outputNames_eq {w : Wording} {ps qs : List Projection}
    (h : List.Forall₂ (Projection.Reworded w) ps qs) :
    ps.mapM outputName? = qs.mapM outputName? := by
  induction h with
  | nil => rfl
  | cons hpq _ ih => rw [List.mapM_cons, List.mapM_cons, ih, hpq.outputName_eq]

theorem Query.Reworded.projected {w : Wording} {G : Query → Query → Prop} {q r : Query}
    (h : q.Reworded w G r) {s t : Scope σ} (hquote : ∀ name, w.Text (s.quote name) (t.quote name)) :
    Option.Rel (List.Forall₂ w.Text) (s.projectedColumns? q) (t.projectedColumns? r) := by
  have hstatement := h.statement
  unfold Scope.projectedColumns?
  revert hstatement
  generalize q.statement = a, r.statement = b
  intro hstatement
  cases hstatement with
  | @select c d hcd =>
    have hempty : c.columns.isEmpty = d.columns.isEmpty := forall₂_isEmpty hcd.columns
    simp only [hempty, hcd.aggregate, Projection.outputNames_eq hcd.columns]
    split
    · exact .none
    · cases d.columns.mapM Projection.outputName? with
      | none => exact .none
      | some names =>
        refine .some ?_
        rw [List.forall₂_map_left_iff, List.forall₂_map_right_iff, List.forall₂_same]
        exact fun name _ => hquote _
  | _ => exact .none

namespace Compiler

variable {w : Wording} {G : Query → Query → Prop} {S : σ → σ → Prop} {c c' : Compiler σ}
  {q r : Query} {kind : StatementKind}

theorem Rewords.databaseOf_eq (hc : Rewords w G S c c') {s t : Scope σ} (hs : s.compiler = c)
    (ht : t.compiler = c') (hdatabase : s.database = t.database) (hqr : G q r) :
    s.databaseOf q = t.databaseOf r := by
  subst hs ht
  have hplatform (hw : w.left = w.right) : s.platform.name = t.platform.name := by
    rw [show s.platform = w.left.platform from hc.left,
      show t.platform = w.right.platform from hc.right, hw]
  unfold Scope.databaseOf
  rw [← (hc.nested hqr).connection, ← hc.connection, hdatabase]
  rcases hc.native with hw | hnative
  · rw [hplatform hw]
  · have hname := hnative q r hqr
    revert hname
    cases q.connection with
    | none => exact fun _ => rfl
    | some k =>
      intro hname
      simp only [hname k rfl, if_true]

theorem query_reworded {s t : Scope σ} (hdatabase : s.databaseOf q = t.databaseOf r)
    (hnested : ∀ d, (s.nested d q).Reworded w (t.nested d r)) :
    Render.Reworded w G S w.Text (s.query q) (t.query r) := by
  unfold Scope.query
  rw [hdatabase]
  apply (Render.lockstep_lift (.of_eq (fun _ => rfl) _)).nextSame
  intro d
  apply (Render.lockstep_modify fun _ _ hpq => ⟨hpq.state, hpq.pending, hpq.bound⟩).next
  intro _ _ _
  rcases hnested d with ⟨a, b, hx, hy, hab, hbindings⟩ | ⟨e, hx, hy⟩
  · rw [hx, hy, hbindings]
    apply (Render.lockstep_lift (.ok hab)).next
    intro a b hab
    exact (Render.Reworded.bindAll _).next fun _ _ _ => .ends hab
  · rw [hx, hy]
    exact .throw fun _ => rfl

theorem scope_reworded (hc : Rewords w G S c c') {quoted quoted' : Bool}
    (hquoting : w.quoting quoted quoted') (database : Option String)
    {nested nested' : Option String → Query → Compilation}
    (hnested : ∀ d q r, q.Reworded w G r → (nested d q).Reworded w (nested' d r)) :
    Scope.Reworded w G S ⟨c, quoted, database, nested⟩ ⟨c', quoted', database, nested'⟩ where
  left := hc.left
  right := hc.right
  quoting := hquoting
  database := rfl
  types := hc.types
  growth := by rw [hc.limits]
  resolver := hc.resolver
  hooks := hc.hooks
  query hqr := query_reworded (hc.databaseOf_eq rfl rfl rfl hqr) fun d =>
    hnested d _ _ (hc.nested hqr)
  projected hqr := by
    apply (hc.nested hqr).projected
    intro name
    simp only [Scope.quote, Scope.platform, hc.left, hc.right]
    exact .quoted _ _ name

theorem kind_reworded (h : q.Reworded w G r) : q.statement.kind = r.statement.kind := by
  have hstatement := h.statement
  revert hstatement
  generalize q.statement = a, r.statement = b
  intro hstatement
  cases hstatement <;> rfl

theorem attempt_reworded (h : q.Reworded w G r) {work work' : Query → Compilation}
    (hwork : (work q).Reworded w (work' r)) :
    (c.attempt kind q work).Reworded w (c'.attempt kind r work') := by
  have hkind := kind_reworded h
  by_cases hq : q.statement.kind = kind
  · have hr : r.statement.kind = kind := hkind.symm.trans hq
    have hq' : q.cache.compiled = none := by rw [h.fresh.1]
    have hr' : r.cache.compiled = none := by rw [h.fresh.2]
    rcases hwork with ⟨a, b, hx, hy, hab, hbindings⟩ | ⟨e, hx, hy⟩
    · have hkept {x : Cache} {sql : String} :
          Cache.bindings { x with compiled := some sql } = x.bindings :=
        Cache.bindings_congr fun clause => Cache.slot_with_compiled _ _ _
      refine .inl ⟨a, b, (attempt_result hq hq').trans hx, (attempt_result hr hr').trans hy, hab,
        ?_⟩
      simp only [attempt_cache hq hq', attempt_cache hr hr', hx, hy, hkept, hbindings]
    · exact .failed ((attempt_result hq hq').trans hx) ((attempt_result hr hr').trans hy)
  · rw [attempt_of_ne hq, attempt_of_ne (hkind ▸ hq), hkind]
    exact .failed rfl rfl

theorem within_reworded {α : Type} {R : α → α → Prop} {s t : Scope σ}
    (h : Scope.Reworded w G S s t) (kind : StatementKind) {prepare prepare' : Hook σ α}
    (hprepare : Lockstep True S prepare prepare' (Ends R S))
    {assemble assemble' : α → Assemble σ String}
    (hassemble : ∀ a b, R a b → Lockstep True (Assembly.Reworded w G S) (assemble a) (assemble' b)
      (Ends w.Text (Assembly.Reworded w G S))) :
    (within s kind {} prepare assemble).Reworded w (within t kind {} prepare' assemble') := by
  rw [within_eq, within_eq, h.resolver]
  rcases (hprepare _ _ h.hooks.start).both with
    ⟨a, b, x, y, hx, hy, hab, hxy⟩ | ⟨e, x, y, hx, hy⟩ <;> rw [hx, hy]
  · simp only
    generalize .asked (.prepare kind) :: Journal.ofLogs (Log.statement s.compiler.level kind) = i,
      .asked (.prepare kind) :: Journal.ofLogs (Log.statement t.compiler.level kind) = j
    have hstart : Assembly.Reworded w G S ⟨{ compiling := true }, ⟨x, [], [], i⟩⟩
        ⟨{ compiling := true }, ⟨y, [], [], j⟩⟩ := ⟨.refl _, hxy, .nil, rfl⟩
    rcases (hassemble a b hab _ _ hstart).both with
      ⟨sql, sql', a', b', ha, hb, hsql, hab'⟩ | ⟨e, a', b', ha, hb⟩
    · rw [ha, hb]
      exact .inl ⟨sql, sql', rfl, rfl, hsql, hab'.cache.bindings_eq⟩
    · rw [ha, hb]
      exact .failed rfl rfl
  · exact .failed rfl rfl

theorem derived_reworded (hc : Rewords w G S c c') (h : q.Reworded w G r) {d d' : Select Query}
    (a : Aggregate) {nested nested' : Query → Compilation}
    (hnested : (nested (q.forRows d)).Reworded w (nested' (r.forRows d'))) :
    (c.derived q d a nested).Reworded w (c'.derived r d' a nested') := by
  rw [derived_eq, derived_eq, h.fresh.1, h.fresh.2, hc.left, hc.right]
  rcases hnested with ⟨sql, sql', hx, hy, hsql, hbindings⟩ | ⟨e, hx, hy⟩
  · rw [hx, hy, hbindings]
    have htext := (hsql.after ("SELECT " ++ w.left.platform.aggregate a.function "*" ++
      " AS aggregate FROM (")).before ") AS derived_query"
    refine .inl ⟨_, _, rfl, rfl, htext, Cache.Reworded.bindings_eq (w := w) ?_⟩
    exact (Cache.Reworded.refl _).put .columns (.some htext) rfl
  · rw [hx, hy]
    exact .failed rfl rfl

/-- SELECTs reworded are compiled to the same but for the wording, however deep they are nested. -/
theorem selectIn_reworded (hc : Rewords w G S c c') (n : Nat) (database : Option String)
    (h : q.Reworded w G r) :
    (c.selectIn n database q).Reworded w (c'.selectIn n database r) := by
  induction n generalizing database q r with
  | zero => exact .failed rfl rfl
  | succ n ih =>
    rw [selectIn, selectIn]
    apply attempt_reworded h
    have hstatement := h.statement
    revert hstatement
    generalize hq : q.statement = a, hr : r.statement = b
    intro hstatement
    cases hstatement with
    | @select d d' hdd' =>
      have hsame : d.derivedAggregate? = d'.derivedAggregate? := by
        rw [Select.derivedAggregate?, Select.derivedAggregate?, hdd'.distinct, hdd'.aggregate]
      simp only [hsame]
      cases d'.derivedAggregate? with
      | some a =>
        apply derived_reworded hc h
        exact ih database
          ⟨.select { hdd' with aggregate := rfl }, h.connection, h.quoting, rfl, rfl⟩
      | none =>
        have hscope := scope_reworded hc h.quoting database fun d q r hqr => ih d hqr
        rw [h.fresh.1, h.fresh.2, hc.resolver]
        exact within_reworded hscope .select (hc.hooks.select hdd') fun _ _ => hscope.select
    | _ => exact .failed rfl rfl

theorem mutationIn_reworded (hc : Rewords w G S c c') (kind : StatementKind)
    (h : q.Reworded w G r) : (c.mutationIn kind q).Reworded w (c'.mutationIn kind r) := by
  have hscope : Scope.Reworded w G S (c.scope q) (c'.scope r) := by
    apply scope_reworded hc h.quoting none
    intro d q r hqr
    rw [← hc.limits]
    exact selectIn_reworded hc _ d hqr
  apply attempt_reworded h
  have hstatement := h.statement
  revert hstatement
  simp only [h.fresh.1, h.fresh.2, hc.resolver]
  generalize q.statement = a, r.statement = b
  intro hstatement
  cases hstatement with
  | select _ => exact .failed rfl rfl
  | insert hab =>
    exact within_reworded hscope .insert (hc.hooks.insert hab) fun _ _ hcd =>
      Assemble.segment_reworded .whole false (hscope.insert hcd)
  | update hab =>
    exact within_reworded hscope .update (hc.hooks.update hab) fun _ _ hcd =>
      Assemble.segment_reworded .whole false (hscope.update hcd)
  | delete hab =>
    exact within_reworded hscope .delete (hc.hooks.delete hab) fun _ _ hcd =>
      Assemble.segment_reworded .whole false (hscope.delete hcd)

theorem compilation_reworded (hc : Rewords w G S c c') (kind : StatementKind)
    (h : q.Reworded w G r) : (c.compilation kind q).Reworded w (c'.compilation kind r) := by
  cases kind with
  | select =>
    rw [compilation, compilation, ← hc.limits]
    exact selectIn_reworded hc _ none h
  | _ => exact mutationIn_reworded hc _ h

/-- Queries reworded are compiled to the same but for the wording, or fail for the same cause. -/
theorem compile_reworded (hc : Rewords w G S c c') (h : q.Reworded w G r) :
    Answers True (Compiled.Reworded w) (c.compile q).result (c'.compile r).result := by
  rw [compile_result, compile_result, ← kind_reworded h]
  exact (compilation_reworded hc _ h).answers

end Compiler

end ParamSql
