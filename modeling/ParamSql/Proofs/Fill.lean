import Mathlib.Data.List.Nodup
import ParamSql.Compile.Run
import ParamSql.Proofs.Slots
import ParamSql.Proofs.Unread

namespace ParamSql

variable {σ : Type}

theorem Render.Fixed.unique {work : Render σ String} {x y : Slot} (hx : work.Fixed x)
    (hy : work.Fixed y) (p : Progress σ) : x = y := by
  obtain ⟨sql, hsql, hx⟩ := hx
  obtain ⟨sql', hsql', hy⟩ := hy
  obtain ⟨j, hj⟩ := hx p
  obtain ⟨j', hj'⟩ := hy p
  rw [hj] at hj'
  obtain ⟨fragment, bindings⟩ := x
  obtain ⟨fragment', bindings'⟩ := y
  injection hj' with htext hend
  obtain rfl : bindings = bindings' := congrArg Progress.bound hend
  simp only at hsql hsql'
  rw [hsql, hsql', htext]

namespace Assemble

abbrev Work (σ : Type) : Type :=
  Clause × Render σ String

/-- Compiles clauses one after the other, unless the query keeps them. -/
def fill (works : List (Work σ)) : Assemble σ PUnit :=
  works.forM fun w => clause w.1 w.2

/-- The assembly at the end, after success or failure. -/
def endOf {α : Type} : EStateM.Result CompileError (Assembly σ) α → Assembly σ
  | .ok _ a => a
  | .error _ a => a

variable {cl other : Clause} {work : Render σ String} {works : List (Work σ)} {a b : Assembly σ}

theorem clause_of_kept (h : a.cache.isMissing cl = false) : clause cl work a = .ok () a := by
  change (if a.cache.isMissing cl then Functor.discard (segment cl true work)
    else (Pure.pure () : Assemble σ Unit)) a = _
  rw [h]
  rfl

theorem clause_of_missing (h : a.cache.isMissing cl = true) :
    clause cl work a =
      match work { a.progress with bound := [] } with
      | .ok sql p => .ok () ⟨a.cache.put cl ⟨some sql, p.bound⟩, p⟩
      | .error e p => .error e ⟨a.cache.put cl ⟨none, p.bound⟩, p⟩ := by
  change (if a.cache.isMissing cl then Functor.discard (segment cl true work)
    else (Pure.pure () : Assemble σ Unit)) a = _
  rw [h]
  change EStateM.map (Function.const String ()) (segment cl true work) a = _
  unfold EStateM.map segment
  cases work { a.progress with bound := [] } <;> rfl

theorem fill_cons (w : Work σ) (works : List (Work σ)) (a : Assembly σ) :
    fill (w :: works) a =
      match clause w.1 w.2 a with
      | .ok _ a => fill works a
      | .error e a => .error e a := by
  change EStateM.bind (clause w.1 w.2) (fun _ => fill works) a = _
  unfold EStateM.bind
  cases clause w.1 w.2 a <;> rfl

theorem fill_append (works others : List (Work σ)) (a : Assembly σ) :
    fill (works ++ others) a =
      match fill works a with
      | .ok _ a => fill others a
      | .error e a => .error e a := by
  induction works generalizing a with
  | nil => rfl
  | cons w works ih =>
    rw [List.cons_append, fill_cons, fill_cons]
    cases clause w.1 w.2 a with
    | ok x a => exact ih a
    | error e a => rfl

theorem fill_keeps {I : Assembly σ → Prop}
    (h : ∀ w ∈ works, ∀ a, I a → I (endOf (clause w.1 w.2 a))) (ha : I a) :
    I (endOf (fill works a)) := by
  induction works generalizing a with
  | nil => exact ha
  | cons w works ih =>
    have hfirst := h w (List.mem_cons_self ..) a ha
    rw [fill_cons]
    revert hfirst
    cases clause w.1 w.2 a with
    | ok x a => exact ih fun w hw => h w (List.mem_cons_of_mem _ hw)
    | error e a => exact id

theorem clause_compiled : (endOf (clause cl work a)).cache.compiled = a.cache.compiled := by
  cases h : a.cache.isMissing cl with
  | false => rw [clause_of_kept h]; rfl
  | true =>
    rw [clause_of_missing h]
    cases work { a.progress with bound := [] } <;> exact Cache.compiled_put ..

theorem fill_compiled : (endOf (fill works a)).cache.compiled = a.cache.compiled :=
  fill_keeps (I := fun b => b.cache.compiled = a.cache.compiled)
    (fun _ _ _ h => clause_compiled.trans h) rfl

theorem clause_slot (h : other ≠ cl) :
    (endOf (clause cl work a)).cache.slot other = a.cache.slot other := by
  cases hkept : a.cache.isMissing cl with
  | false => rw [clause_of_kept hkept]; rfl
  | true =>
    rw [clause_of_missing hkept]
    cases work { a.progress with bound := [] } <;> exact Cache.slot_put_ne _ _ h

theorem fill_slot (h : other ∉ works.map Prod.fst) :
    (endOf (fill works a)).cache.slot other = a.cache.slot other := by
  refine fill_keeps (I := fun b => b.cache.slot other = a.cache.slot other) ?_ rfl
  intro w hw b hb
  rw [clause_slot, hb]
  rintro rfl
  exact h (List.mem_map_of_mem hw)

/-- A slot that is right for a clause: nothing is kept in it, or what the clause is fixed at. -/
def Right (work : Render σ String) (slot : Slot) : Prop :=
  slot.fragment = none ∨ work.Fixed slot

theorem Right.missing_or {cache : Cache} (h : Right work (cache.slot cl)) :
    cache.isMissing cl = true ∨
      (cache.isMissing cl = false ∧ work.Fixed (cache.slot cl)) := by
  rcases h with hnone | hfixed
  · exact .inl (by rw [Cache.isMissing, hnone]; rfl)
  · obtain ⟨sql, hsql, _⟩ := id hfixed
    exact .inr ⟨by rw [Cache.isMissing, hsql]; rfl, hfixed⟩

theorem clause_right (hwork : work.Constant) (h : Right work (a.cache.slot cl)) :
    Right work ((endOf (clause cl work a)).cache.slot cl) := by
  cases hkept : a.cache.isMissing cl with
  | false => rw [clause_of_kept hkept]; exact h
  | true =>
    rw [clause_of_missing hkept]
    cases hrun : work { a.progress with bound := [] } with
    | ok sql p =>
      simp only [endOf, Cache.slot_put_self]
      exact .inr (hwork _ _ _ hrun)
    | error e p =>
      simp only [endOf, Cache.slot_put_self]
      exact .inl rfl

theorem fill_right (hwork : work.Constant)
    (hworks : ∀ w ∈ works, w.1 = cl → w.2 = work) (h : Right work (a.cache.slot cl)) :
    Right work ((endOf (fill works a)).cache.slot cl) := by
  refine fill_keeps (I := fun b => Right work (b.cache.slot cl)) ?_ h
  intro w hw b hb
  by_cases hcl : w.1 = cl
  · rw [hcl, hworks w hw hcl]
    exact clause_right hwork hb
  · rw [clause_slot fun h => hcl h.symm]
    exact hb

theorem fill_ok (hnodup : (works.map Prod.fst).Nodup) (h : fill works a = .ok () b) :
    ∀ w ∈ works, b.cache.isMissing w.1 = false := by
  induction works generalizing a with
  | nil => exact List.forall_mem_nil _
  | cons w works ih =>
    rw [List.map_cons, List.nodup_cons] at hnodup
    rw [fill_cons] at h
    cases hfirst : clause w.1 w.2 a with
    | error e a' =>
      rw [hfirst] at h
      cases h
    | ok x a' =>
      rw [hfirst] at h
      intro v hv
      rcases List.mem_cons.1 hv with rfl | hv
      · have hkeeps : (endOf (fill works a')).cache.slot v.1 = a'.cache.slot v.1 :=
          fill_slot hnodup.1
        rw [show fill works a' = .ok () b from h] at hkeeps
        rw [Cache.isMissing, show b.cache.slot v.1 = _ from hkeeps]
        cases hkept : a.cache.isMissing v.1 with
        | false =>
          rw [clause_of_kept hkept] at hfirst
          injection hfirst with _ ha
          rw [← ha]
          exact hkept
        | true =>
          rw [clause_of_missing hkept] at hfirst
          cases hwork : v.2 { a.progress with bound := [] } with
          | ok sql p =>
            rw [hwork] at hfirst
            injection hfirst with _ ha
            rw [← ha]
            exact Cache.isMissing_put_self ..
          | error e p =>
            rw [hwork] at hfirst
            cases hfirst
      · exact ih hnodup.2 h v hv

theorem fill_kept (h : fill works a = .ok () b) (hkept : a.cache.isMissing cl = false) :
    b.cache.slot cl = a.cache.slot cl := by
  have hkeeps : (endOf (fill works a)).cache.slot cl = a.cache.slot cl := by
    refine fill_keeps (I := fun b => b.cache.slot cl = a.cache.slot cl) ?_ rfl
    intro w _ b hb
    by_cases hcl : cl = w.1
    · have hstill : b.cache.isMissing w.1 = false := by
        rw [Cache.isMissing, ← hcl, hb]
        exact hkept
      rw [clause_of_kept hstill]
      exact hb
    · rw [clause_slot hcl, hb]
  rw [h] at hkeeps
  exact hkeeps

theorem fill_missing {before after : List (Work σ)} {w : Work σ}
    (hmissing : a.cache.isMissing w.1 = true) (hw : w.1 ∉ before.map Prod.fst)
    (h : fill (before ++ w :: after) a = .ok () b) :
    ∃ c sql p, fill before a = .ok () c ∧ w.2 { c.progress with bound := [] } = .ok sql p ∧
      fill after ⟨c.cache.put w.1 ⟨some sql, p.bound⟩, p⟩ = .ok () b := by
  have hslot : (endOf (fill before a)).cache.slot w.1 = a.cache.slot w.1 := fill_slot hw
  rw [fill_append] at h
  cases hbefore : fill before a with
  | error e c =>
    rw [hbefore] at h
    cases h
  | ok _ c =>
    rw [hbefore] at h hslot
    have hstill : c.cache.isMissing w.1 = true := by
      rw [Cache.isMissing, show c.cache.slot w.1 = _ from hslot]
      exact hmissing
    simp only [fill_cons, clause_of_missing hstill] at h
    cases hwork : w.2 { c.progress with bound := [] } with
    | error e p =>
      rw [hwork] at h
      cases h
    | ok sql p =>
      rw [hwork] at h
      exact ⟨c, sql, p, rfl, hwork, h⟩

theorem fill_renders {w : Work σ} (hnodup : (works.map Prod.fst).Nodup) (hw : w ∈ works)
    (hmissing : a.cache.isMissing w.1 = true) (h : fill works a = .ok () b) :
    ∃ p sql q, p.bound = [] ∧ w.2 p = .ok sql q ∧ b.cache.slot w.1 = ⟨some sql, q.bound⟩ := by
  obtain ⟨before, after, rfl⟩ := List.append_of_mem hw
  rw [List.map_append, List.map_cons, List.nodup_middle, List.nodup_cons, List.mem_append,
    not_or] at hnodup
  obtain ⟨c, sql, p, _, hwork, hrest⟩ := fill_missing hmissing hnodup.1.1 h
  have hslot := fill_slot (a := ⟨c.cache.put w.1 ⟨some sql, p.bound⟩, p⟩) hnodup.1.2
  rw [hrest] at hslot
  exact ⟨_, sql, p, rfl, hwork, hslot.trans (Cache.slot_put_self ..)⟩

theorem fill_error {e : CompileError} (hmissing : a.cache.isMissing cl = true)
    (hcl : cl ∉ works.map Prod.fst) (hfail : fill (works ++ [(cl, work)]) a = .error e b) :
    b.cache.isMissing cl = true := by
  induction works generalizing a with
  | nil =>
    rw [List.nil_append, fill_cons, clause_of_missing hmissing] at hfail
    cases hwork : work { a.progress with bound := [] } with
    | ok sql p =>
      simp only [hwork] at hfail
      exact nomatch hfail
    | error e' p =>
      simp only [hwork] at hfail
      injection hfail with _ hb
      rw [← hb]
      exact Cache.isMissing_put_self ..
  | cons w works ih =>
    rw [List.map_cons, List.mem_cons, not_or] at hcl
    have hslot : (endOf (clause w.1 w.2 a)).cache.slot cl = a.cache.slot cl :=
      clause_slot hcl.1
    have hstill : (endOf (clause w.1 w.2 a)).cache.isMissing cl = true := by
      rw [Cache.isMissing, hslot]
      exact hmissing
    rw [List.cons_append, fill_cons] at hfail
    cases hfirst : clause w.1 w.2 a with
    | ok x a' =>
      rw [hfirst] at hfail hstill
      exact ih hstill hcl.2 hfail
    | error e' a' =>
      rw [hfirst] at hfail hstill
      injection hfail with _ hb
      rw [← hb]
      exact hstill

/-- An assembly ahead of another by some of the clauses that are still to be compiled: those it
keeps are fixed at what it keeps. -/
structure Ahead (works : List (Work σ)) (a b : Assembly σ) : Prop where
  progress : Progress.SameState a.progress b.progress
  missing : ∀ w ∈ works, b.cache.isMissing w.1 = true
  due : ∀ w ∈ works, a.cache.isMissing w.1 = true ∨ w.2.Fixed (a.cache.slot w.1)
  done : ∀ clause ∉ works.map Prod.fst, a.cache.slot clause = b.cache.slot clause

theorem Ahead.put {w : Work σ} (h : Ahead (w :: works) a b) (hw : w.1 ∉ works.map Prod.fst)
    {C : Cache} {p q : Progress σ} (hpq : Progress.SameState p q)
    (hothers : ∀ clause ≠ w.1, C.slot clause = a.cache.slot clause) :
    Ahead works ⟨C, p⟩ ⟨b.cache.put w.1 (C.slot w.1), q⟩ := by
  have hne : ∀ v ∈ works, v.1 ≠ w.1 := fun v hv heq => hw (heq ▸ List.mem_map_of_mem hv)
  refine ⟨hpq, fun v hv => ?_, fun v hv => ?_, fun clause hclause => ?_⟩
  · rw [Cache.isMissing_put_ne _ _ (hne v hv)]
    exact h.missing v (List.mem_cons_of_mem _ hv)
  · rw [Cache.isMissing, hothers _ (hne v hv)]
    exact h.due v (List.mem_cons_of_mem _ hv)
  · by_cases hcl : clause = w.1
    · rw [hcl, Cache.slot_put_self]
    · rw [Cache.slot_put_ne _ _ hcl]
      refine (hothers _ hcl).trans (h.done clause fun hmem => ?_)
      exact (List.mem_cons.1 hmem).elim hcl hclause

theorem clause_ahead {w : Work σ} (hw : w.1 ∉ works.map Prod.fst)
    (hrender : Lockstep True Progress.Silent w.2 w.2 (Same Progress.Silent)) :
    Lockstep True (Ahead (w :: works)) (clause w.1 w.2) (clause w.1 w.2) (Stays (Ahead works)) := by
  intro a b h
  rw [clause_of_missing (h.missing w (List.mem_cons_self ..))]
  have hstart : Progress.Silent { a.progress with bound := [] } { b.progress with bound := [] } :=
    ⟨h.progress.state, h.progress.pending, rfl⟩
  cases hkept : a.cache.isMissing w.1 with
  | false =>
    rw [clause_of_kept hkept]
    rcases h.due w (List.mem_cons_self ..) with hmissing | ⟨sql, hsql, hfixed⟩
    · rw [hkept] at hmissing
      exact nomatch hmissing
    · -- Only the assembly behind renders, to what the other keeps.
      obtain ⟨j, hj⟩ := hfixed b.progress
      rw [hj]
      have hslot : a.cache.slot w.1 = ⟨some sql, (a.cache.slot w.1).bindings⟩ := by rw [← hsql]
      simp only [← hslot]
      exact .ok ⟨trivial, h.put hw ⟨h.progress.state, h.progress.pending, trivial⟩ fun _ _ => rfl⟩
  | true =>
    rw [clause_of_missing hkept]
    rcases (hrender _ _ hstart).both with ⟨sql, _, p, q, hp, hq, rfl, hpq⟩ | ⟨e, p, q, hp, hq⟩
    · have hbound : p.bound = q.bound := hpq.bound
      have hput := h.put hw (C := a.cache.put w.1 ⟨some sql, p.bound⟩)
        ⟨hpq.state, hpq.pending, trivial⟩ fun _ hne => Cache.slot_put_ne _ _ hne
      rw [Cache.slot_put_self, hbound] at hput
      rw [hp, hq]
      simp only [hbound]
      exact .ok ⟨trivial, hput⟩
    · rw [hp, hq]
      exact .error fun _ => rfl

/-- Compilations of the clauses that one assembly is ahead by go in step. -/
theorem fill_ahead (hnodup : (works.map Prod.fst).Nodup)
    (hrender : ∀ w ∈ works, Lockstep True Progress.Silent w.2 w.2 (Same Progress.Silent)) :
    Lockstep True (Ahead works) (fill works) (fill works) (Stays (Ahead [])) := by
  induction works with
  | nil => exact .ends trivial
  | cons w works ih =>
    rw [List.map_cons, List.nodup_cons] at hnodup
    exact (clause_ahead hnodup.1 (hrender w (List.mem_cons_self ..))).next fun _ _ _ =>
      ih hnodup.2 fun v hv => hrender v (List.mem_cons_of_mem _ hv)

theorem fill_fixed {aim : Clause → Slot} (hnodup : (works.map Prod.fst).Nodup)
    (h : ∀ w ∈ works, (a.cache.isMissing w.1 = false ∧ a.cache.slot w.1 = aim w.1) ∨
      (a.cache.isMissing w.1 = true ∧ w.2.Fixed (aim w.1))) :
    ∃ b, fill works a = .ok () b ∧ ∀ w ∈ works, b.cache.slot w.1 = aim w.1 := by
  induction works generalizing a with
  | nil => exact ⟨a, rfl, nofun⟩
  | cons w works ih =>
    rw [List.map_cons, List.nodup_cons] at hnodup
    have hne : ∀ v ∈ works, v.1 ≠ w.1 := fun v hv heq => hnodup.1 (heq ▸ List.mem_map_of_mem hv)
    have hfirst : ∃ a', clause w.1 w.2 a = .ok () a' ∧ a'.cache.slot w.1 = aim w.1 := by
      rcases h w (List.mem_cons_self ..) with ⟨hkept, haim⟩ | ⟨hmissing, sql, hsql, hfixed⟩
      · exact ⟨a, clause_of_kept hkept, haim⟩
      · obtain ⟨j, hj⟩ := hfixed a.progress
        refine ⟨_, by rw [clause_of_missing hmissing, hj], ?_⟩
        rw [Cache.slot_put_self, ← hsql]
    obtain ⟨a', ha', hslot⟩ := hfirst
    have hothers : ∀ cl ≠ w.1, a'.cache.slot cl = a.cache.slot cl := by
      intro cl hcl
      have hkeeps : (endOf (clause w.1 w.2 a)).cache.slot cl = a.cache.slot cl :=
        clause_slot hcl
      rwa [ha'] at hkeeps
    obtain ⟨b, hb, hslots⟩ := ih (a := a') hnodup.2 fun v hv => by
      rw [Cache.isMissing, hothers _ (hne v hv)]
      exact h v (List.mem_cons_of_mem _ hv)
    refine ⟨b, by rw [fill_cons, ha']; exact hb, fun v hv => ?_⟩
    rcases List.mem_cons.1 hv with rfl | hv
    · have hkeeps : (endOf (fill works a')).cache.slot v.1 = a'.cache.slot v.1 :=
        fill_slot hnodup.1
      rw [hb] at hkeeps
      exact hkeeps.trans hslot
    · exact hslots v hv

/-- Compiling what another compilation came to, or what is right and always comes to the same, comes
to the slots of that other compilation. -/
theorem fill_resume {start : Assembly σ} (hnodup : (works.map Prod.fst).Nodup)
    (hb : fill works start = .ok () b) (hstart : ∀ clause, start.cache.slot clause = {})
    (h : ∀ w ∈ works, (a.cache.isMissing w.1 = false ∧ a.cache.slot w.1 = b.cache.slot w.1) ∨
      (Right w.2 (a.cache.slot w.1) ∧ w.2.Constant)) :
    ∃ a', fill works a = .ok () a' ∧ ∀ w ∈ works, a'.cache.slot w.1 = b.cache.slot w.1 := by
  apply fill_fixed hnodup
  intro w hw
  rcases h w hw with hkept | ⟨hright, hconstant⟩
  · exact .inl hkept
  · have hsame : ∀ v ∈ works, v.1 = w.1 → v.2 = w.2 := fun v hv hvw =>
      congrArg Prod.snd (List.inj_on_of_nodup_map hnodup hv hw hvw)
    have hend : Right w.2 ((endOf (fill works start)).cache.slot w.1) :=
      fill_right hconstant hsame (.inl (by rw [hstart]))
    rw [hb] at hend
    have hkept := fill_ok hnodup hb w hw
    have hfixed : w.2.Fixed (b.cache.slot w.1) := by
      rcases hend.missing_or with hmissing | hfixed
      · exact absurd (hkept.symm.trans hmissing) Bool.false_ne_true
      · exact hfixed.2
    rcases hright.missing_or with hmissing | ⟨ha, haf⟩
    · exact .inr ⟨hmissing, hfixed⟩
    · exact .inl ⟨ha, haf.unique hfixed a.progress⟩

end Assemble

end ParamSql
