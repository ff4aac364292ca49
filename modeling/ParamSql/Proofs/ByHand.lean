import ParamSql.Proofs.Along
import ParamSql.Proofs.Observer

namespace ParamSql

variable {σ : Type}

namespace Condition

variable {Q : Type}

mutual

/-- The conditions inside a condition, at all depths, each before those inside it. -/
def inside : Condition Q → List (Condition Q)
  | comparison _ _ => []
  | group _ members => nodes members
  | fragment _ _ => []

/-- The conditions of a list and those inside them. -/
def nodes : List (Condition Q) → List (Condition Q)
  | [] => []
  | first :: rest => first :: (inside first ++ nodes rest)

end

theorem one_le_size (c : Condition Q) : 1 ≤ c.size := by
  cases c with
  | comparison g c => exact Nat.le_refl 1
  | group g members => exact Nat.le_add_right 1 _
  | fragment g f => exact Nat.le_refl 1

theorem sizes_append (list other : List (Condition Q)) :
    sizes (list ++ other) = sizes list + sizes other := by
  induction list with
  | nil => rw [List.nil_append, sizes, Nat.zero_add]
  | cons first rest ih => rw [List.cons_append, sizes, sizes, ih, Nat.add_assoc]

end Condition

/-- The questions to the hook for conditions, each with the conditions added in answer. -/
abbrev Hookings :=
  List (Condition Query × List (Condition Query))

namespace Hookings

def asked (calls : Hookings) : List (Condition Query) :=
  calls.map Prod.fst

def added (calls : Hookings) : List (Condition Query) :=
  calls.flatMap Prod.snd

theorem asked_append (calls other : Hookings) :
    asked (calls ++ other) = asked calls ++ asked other :=
  List.map_append

end Hookings

/-- The observer that writes down the questions to the hook for conditions. -/
def Observer.hookings : Observer σ Hookings where
  start := []
  condition c added calls := calls ++ [(c, added)]

/-- The resolver that leaves conditions as they are. -/
def Resolver.unhooked (r : Resolver σ) : Resolver σ :=
  { r with condition := fun c => pure (c, []) }

/-- The same scope, but conditions are left as they are. -/
def Scope.unhooked (s : Scope σ) : Scope σ :=
  { s with compiler := { s.compiler with resolver := s.compiler.resolver.unhooked } }

/-- The hook for conditions only adds conditions, and never refuses. States are in the relation `E`
if what the other hooks answer is the same; the hook for conditions keeps to related states. -/
structure Resolver.OnlyAdds (r : Resolver σ) (E : σ → σ → Prop) : Prop where
  condition (c : Condition Query) {x z : σ} :
    E x z → ∃ added y, r.condition c x = .ok (c, added) y ∧ E y z
  field (name : String) (type : Option TypeName) :
    Lockstep True E (r.field name type) (r.field name type) (Same E)
  root {x z : σ} : E x z → r.root x = r.root z

namespace Scope

section Unhooked

variable (s : Scope σ)

theorem unhooked_column (name : String) : s.unhooked.column name = s.column name :=
  rfl

theorem unhooked_fragment (f : Fragment) : s.unhooked.fragment f = s.fragment f := by
  have hanswer : s.unhooked.answer f = s.answer f := by
    induction f with
    | text sql => rfl
    | fail e => rfl
    | column name next ih =>
      rw [answer, answer, unhooked_column]
      simp only [ih]
    | root next ih =>
      rw [answer, answer]
      simp only [ih]
      rfl
    | look next ih => exact ih _
  rw [fragment, fragment, hanswer]

theorem unhooked_comparison (c : Comparison Query) : s.unhooked.comparison c = s.comparison c := by
  have hcompared (c : Comparison Query) : s.unhooked.compared c = s.compared c := by
    unfold compared
    simp only [unhooked_column, unhooked_fragment]
    rfl
  unfold comparison
  simp only [hcompared]
  rfl

end Unhooked

/-- A progress after the given questions, with conditions that wait, beside the progress of the list
written by hand, where none waits. -/
structure Behind (E : σ → σ → Prop) (calls : Hookings) (waiting : List (Condition Query))
    (p q : Progress (σ × Hookings)) : Prop where
  state : E p.state.1 q.state.1
  calls : p.state.2 = calls
  waiting : p.pending = waiting
  idle : q.pending = []
  bound : p.bound = q.bound

variable {s : Scope σ} {E : σ → σ → Prop} {calls : Hookings} {waiting : List (Condition Query)}
  {p q : Progress (σ × Hookings)}

theorem lenient_behind (E : σ → σ → Prop) (calls : Hookings) (waiting : List (Condition Query)) :
    Progress.Lenient (Behind E calls waiting) where
  journal _ _ h := ⟨h.state, h.calls, h.waiting, h.idle, h.bound⟩
  bound _ h := ⟨h.state, h.calls, h.waiting, h.idle, congrArg (· ++ _) h.bound⟩

theorem steady_behind (h : s.compiler.resolver.OnlyAdds E) (calls : Hookings)
    (waiting : List (Condition Query)) :
    (Observer.hookings.scope s).Steady True Eq Eq (Behind E calls waiting) := by
  have hlenient := lenient_behind E calls waiting
  refine ⟨fun e => hlenient.note e e, fun name type => ?_, fun h' => h.root h'.state,
    fun type converted _ _ h => h ▸ hlenient.bind type converted _,
    fun h => h ▸ hlenient.query _⟩
  refine Render.lockstep_consult (S := fun x y => E x.1 y.1 ∧ x.2 = calls) (R := Eq) ?_
    (fun _ _ h => ⟨h.state, h.calls⟩)
    fun _ _ _ _ _ _ _ _ h hR hS => ⟨hR, hS.1, hS.2, h.waiting, h.idle, h.bound⟩
  rintro ⟨x, log⟩ ⟨z, log'⟩ ⟨hxz, rfl⟩
  have hfield := h.field name type x z hxz
  change InStep True _ ((Observer.hookings.resolver s.compiler.resolver).field name type (x, log))
    ((Observer.hookings.resolver s.compiler.resolver).field name type (z, log'))
  rw [Observer.field_eq, Observer.field_eq]
  rcases hfield.both with ⟨a, b, y, w, ha, hb, rfl, hyw⟩ | ⟨e, y, w, ha, hb⟩
  · simp only [ha, hb]
    exact .ok ⟨rfl, hyw, rfl⟩
  · simp only [ha, hb]
    exact .error fun _ => rfl

theorem resolveCondition_of_ok {s : Scope σ} {c d : Condition Query}
    {added : List (Condition Query)} {x : σ} {p : Progress σ}
    (h : s.compiler.resolver.condition c p.state = .ok (d, added) x) :
    s.resolveCondition c p = .ok d
      { p with
        journal := p.journal ++ [.asked (.condition c.shape)]
        state := x
        pending := p.pending ++ added } := by
  change EStateM.bind (Render.consult _ (s.compiler.resolver.condition c)) _ p = _
  rw [EStateM.bind, Render.consult_eq, h]
  rfl

/-- The hook is asked about a condition, and what it adds waits. -/
theorem resolveCondition_behind (h : s.compiler.resolver.OnlyAdds E)
    (hpq : Behind E calls waiting p q) (c : Condition Query) :
    ∃ added p' q', (Observer.hookings.scope s).resolveCondition c p = .ok c p' ∧
      (Observer.hookings.scope s).unhooked.resolveCondition c q = .ok c q' ∧
      Behind E (calls ++ [(c, added)]) (waiting ++ added) p' q' := by
  obtain ⟨added, y, hy, hyz⟩ := h.condition c hpq.state
  have hleft : (Observer.hookings.resolver s.compiler.resolver).condition c p.state =
      .ok (c, added) (y, p.state.2 ++ [(c, added)]) := by
    rw [Observer.condition_eq, hy]
    rfl
  have hright : (Observer.hookings.scope s).unhooked.compiler.resolver.condition c q.state =
      .ok (c, []) q.state := rfl
  refine ⟨added, _, _, resolveCondition_of_ok hleft, resolveCondition_of_ok hright, hyz, ?_, ?_, ?_,
    hpq.bound⟩
  · exact congrArg (· ++ _) hpq.calls
  · exact congrArg (· ++ _) hpq.waiting
  · exact (List.append_nil _).trans hpq.idle

/-- The same results, and the hook has been asked about the given conditions, once each. -/
def Visited {α : Type} (E : σ → σ → Prop) (calls : Hookings)
    (waiting conditions : List (Condition Query)) (a b : α) (p q : Progress (σ × Hookings)) :
    Prop :=
  a = b ∧ ∃ others : Hookings, others.asked = conditions ∧
    Behind E (calls ++ others) (waiting ++ others.added) p q

theorem Behind.visited {α : Type} (h : Behind E calls waiting p q) (a : α) :
    Visited E calls waiting [] a a p q := by
  refine ⟨rfl, [], rfl, ?_⟩
  rw [List.append_nil, Hookings.added, List.flatMap_nil, List.append_nil]
  exact h

open Condition in
theorem pieceText_behind (h : s.compiler.resolver.OnlyAdds E) (calls : Hookings)
    (waiting : List (Condition Query)) (n m : Nat) (c : Condition Query)
    (hmembers : ∀ g members, c = .group g members →
      Lockstep True (Behind E calls waiting) ((Observer.hookings.scope s).pieces n false members)
        ((Observer.hookings.scope s).unhooked.pieces m false members)
        (Visited E calls waiting (nodes members))) :
    Lockstep True (Behind E calls waiting) ((Observer.hookings.scope s).pieceText n c)
      ((Observer.hookings.scope s).unhooked.pieceText m c)
      (Visited E calls waiting (inside c)) := by
  have hsteady := steady_behind h calls waiting
  cases c with
  | comparison g c =>
    rw [pieceText, pieceText, unhooked_comparison]
    apply (hsteady.comparison (.refl (fun _ => rfl) (fun _ => rfl) c)).mono (fun _ _ => id)
    rintro a _ p q ⟨rfl, hpq⟩
    exact hpq.visited a
  | fragment g f =>
    rw [pieceText, pieceText, unhooked_fragment]
    apply (hsteady.fragment f).mono (fun _ _ => id)
    rintro a _ p q ⟨rfl, hpq⟩
    exact hpq.visited a
  | group g members =>
    simp only [pieceText, map_eq_pure_bind]
    apply (hmembers g members rfl).bind
    rintro ps _
    apply Lockstep.pure
    rintro p q ⟨rfl, hvisited⟩
    exact ⟨rfl, hvisited⟩

theorem along_hookings (s : Scope σ) :
    (Observer.hookings.scope s).Along fun x y => x.2 <+: y.2 :=
  Observer.scope_along (fun x => List.prefix_refl x.2) List.IsPrefix.trans
    (fun _ _ y _ => List.prefix_refl y) (fun _ _ y _ => List.prefix_refl y)
    fun _ _ _ _ y _ => List.prefix_append y _

theorem takenBy_true (p : Progress σ) : takenBy true p = .ok p.pending { p with pending := [] } :=
  rfl

theorem Behind.taken (h : Behind E calls waiting p q) :
    takenBy true p = .ok waiting { p with pending := [] } ∧
      takenBy true q = .ok [] { q with pending := [] } ∧
      Behind E calls [] { p with pending := [] } { q with pending := [] } :=
  ⟨h.waiting ▸ takenBy_true p, h.idle ▸ takenBy_true q, h.state, h.calls, rfl, rfl, h.bound⟩

theorem asked_so_far {n : Nat} {list : List (Condition Query)} {others : Hookings}
    {call : Condition Query × List (Condition Query)} {new : Hookings}
    (hcalls : p.state.2 = calls ++ [call] ++ new)
    (hend : (endState ((Observer.hookings.scope s).pieces n true list p)).state.2 =
      calls ++ others) : ∃ others' : Hookings, others = call :: (new ++ others') := by
  have hstart : p.state.2 <+:
      (endState ((Observer.hookings.scope s).pieces n true list p)).state.2 :=
    (along_hookings s).builds.pieces n true list p
  rw [hend, hcalls] at hstart
  obtain ⟨others', hothers'⟩ := hstart
  exact ⟨others', by simpa using hothers'.symm⟩

theorem pieces_nil (s : Scope σ) (n : Nat) (outermost : Bool) :
    s.pieces n outermost [] = pure [] := by
  cases n <;> rfl

theorem Behind.visited_cons {c : Condition Query} {added inside rest : List (Condition Query)}
    {others others' : Hookings} (hothers : others.asked = inside) (hothers' : others'.asked = rest)
    (h : Behind E (calls ++ [(c, added)] ++ others ++ others')
      (waiting ++ added ++ others.added ++ others'.added) p q) {α : Type} (a : α) :
    Visited E calls waiting (c :: (inside ++ rest)) a a p q := by
  refine ⟨rfl, (c, added) :: (others ++ others'), ?_, ?_⟩
  · rw [← hothers, ← hothers', ← Hookings.asked_append]
    rfl
  · have hcalls : calls ++ (c, added) :: (others ++ others') =
        calls ++ [(c, added)] ++ others ++ others' := by simp
    have hwaiting : waiting ++ Hookings.added ((c, added) :: (others ++ others')) =
        waiting ++ added ++ others.added ++ others'.added := by simp [Hookings.added]
    rw [hcalls, hwaiting]
    exact h

open Condition in
/-- The conditions inside a group are visited in order, and what is added for them waits. -/
theorem pieces_behind (h : s.compiler.resolver.OnlyAdds E) (n m : Nat)
    {list : List (Condition Query)} (hn : sizes list ≤ n) (hm : sizes list ≤ m) :
    Lockstep True (Behind E calls waiting) ((Observer.hookings.scope s).pieces n false list)
      ((Observer.hookings.scope s).unhooked.pieces m false list)
      (Visited E calls waiting (nodes list)) := by
  induction n generalizing m list calls waiting with
  | zero =>
    cases list with
    | nil =>
      rw [pieces_nil, pieces_nil]
      exact fun p q hpq => .ok (hpq.visited [])
    | cons first rest =>
      have hfirst := first.one_le_size
      rw [sizes] at hn
      omega
  | succ n ih =>
    cases list with
    | nil =>
      rw [pieces_nil, pieces_nil]
      exact fun p q hpq => .ok (hpq.visited [])
    | cons first rest =>
      have hfirst := first.one_le_size
      rw [sizes] at hn hm
      obtain ⟨m, rfl⟩ : ∃ k, m = k + 1 := ⟨m - 1, by omega⟩
      rw [pieces_cons, pieces_cons]
      intro p q hpq
      obtain ⟨added, p₁, q₁, hp, hq, hpq₁⟩ := resolveCondition_behind h hpq first
      rw [bind_of_ok hp, bind_of_ok hq]
      have htext := pieceText_behind h (calls ++ [(first, added)]) (waiting ++ added) n m first
        fun g members hgroup => by
          rw [hgroup, size] at hn hm
          exact ih m (by omega) (by omega)
      refine htext.bind ?_ p₁ q₁ hpq₁
      rintro text _ p₂ q₂ ⟨rfl, others, hothers, hpq₂⟩
      change InStep True _ (((Observer.hookings.scope s).pieces n false (rest ++ []) >>= _) p₂)
        (((Observer.hookings.scope s).unhooked.pieces m false (rest ++ []) >>= _) q₂)
      rw [List.append_nil]
      refine (ih m (by omega) (by omega)).bind ?_ p₂ q₂ hpq₂
      rintro ps _ p₃ q₃ ⟨rfl, others', hothers', hpq₃⟩
      exact .ok (hpq₃.visited_cons hothers hothers' _)

open Condition in
theorem nothing_outermost {n : Nat} {others : Hookings} (hpq : Behind E calls [] p q)
    (hend : (endState ((Observer.hookings.scope s).pieces n true [] p)).state.2 = calls ++ others)
    (m : Nat) :
    InStep True
      (fun ps ps' p' q' => ps = ps' ∧ others.asked = nodes ([] ++ others.added) ∧
        Behind E (calls ++ others) [] p' q')
      ((Observer.hookings.scope s).pieces n true [] p)
      ((Observer.hookings.scope s).unhooked.pieces m true ([] ++ others.added) q) := by
  rw [pieces_nil] at hend ⊢
  have hcalls : calls = calls ++ others := hpq.calls.symm.trans hend
  obtain rfl : others = [] := by simpa using hcalls
  change InStep True _ _ ((Observer.hookings.scope s).unhooked.pieces m true [] q)
  rw [pieces_nil, List.append_nil]
  exact .ok ⟨rfl, rfl, hpq⟩

open Condition in
/-- An outermost list takes over what waits after each of its conditions. Written by hand, all that
is taken over stands at its end from the start. -/
theorem pieces_outermost (h : s.compiler.resolver.OnlyAdds E) (n m : Nat)
    {list : List (Condition Query)} {others : Hookings} (hpq : Behind E calls [] p q)
    (hend : (endState ((Observer.hookings.scope s).pieces n true list p)).state.2 = calls ++ others)
    (hn : sizes (list ++ others.added) ≤ n) (hm : sizes (list ++ others.added) ≤ m) :
    InStep True
      (fun ps ps' p' q' => ps = ps' ∧ others.asked = nodes (list ++ others.added) ∧
        Behind E (calls ++ others) [] p' q')
      ((Observer.hookings.scope s).pieces n true list p)
      ((Observer.hookings.scope s).unhooked.pieces m true (list ++ others.added) q) := by
  induction n generalizing m list others calls p q with
  | zero =>
    cases list with
    | nil => exact nothing_outermost hpq hend m
    | cons first rest =>
      have hfirst := first.one_le_size
      have hsize : sizes (first :: rest ++ others.added) =
          first.size + sizes (rest ++ others.added) := rfl
      omega
  | succ n ih =>
    cases list with
    | nil => exact nothing_outermost hpq hend m
    | cons first rest =>
      have hfirst := first.one_le_size
      have hsize : sizes (first :: rest ++ others.added) =
          first.size + sizes (rest ++ others.added) := rfl
      obtain ⟨m, rfl⟩ : ∃ k, m = k + 1 := ⟨m - 1, by omega⟩
      rw [List.cons_append, pieces_cons, pieces_cons]
      rw [pieces_cons] at hend
      obtain ⟨added, p₁, q₁, hp, hq, hpq₁⟩ := resolveCondition_behind h hpq first
      rw [bind_of_ok hp] at hend ⊢
      rw [bind_of_ok hq]
      have htext := pieceText_behind h (calls ++ [(first, added)]) ([] ++ added) n m first
        fun g members hgroup => by
          have hgroupSize : first.size = 1 + sizes members := by rw [hgroup, size]
          exact pieces_behind h n m (by omega) (by omega)
      rcases (htext p₁ q₁ hpq₁).both with
        ⟨text, _, p₂, q₂, hp₂, hq₂, rfl, new, hnew, hpq₂⟩ | ⟨e, p₂, q₂, hp₂, hq₂⟩
      · rw [bind_of_ok hp₂] at hend ⊢
        rw [bind_of_ok hq₂]
        obtain ⟨htake, htake', hpq₃⟩ := hpq₂.taken
        rw [bind_of_ok htake] at hend ⊢
        rw [bind_of_ok htake', List.append_nil]
        rw [endState_bind_pure] at hend
        obtain ⟨others', rfl⟩ := asked_so_far hpq₃.calls hend
        have hcalls : calls ++ (first, added) :: (new ++ others') =
            calls ++ [(first, added)] ++ new ++ others' := by simp
        have hlist : rest ++ Hookings.added ((first, added) :: (new ++ others')) =
            rest ++ ([] ++ added ++ new.added) ++ others'.added := by simp [Hookings.added]
        rw [hlist] at hsize ⊢
        rw [hcalls] at hend ⊢
        rcases (ih m hpq₃ hend (by omega) (by omega)).both with
          ⟨ps, _, p₄, q₄, hp₄, hq₄, rfl, hasked, hpq₄⟩ | ⟨e, p₄, q₄, hp₄, hq₄⟩
        · rw [bind_of_ok hp₄, bind_of_ok hq₄]
          refine .ok ⟨rfl, ?_, hpq₄⟩
          rw [nodes, ← hasked, ← hnew, ← Hookings.asked_append]
          rfl
        · rw [bind_of_error hp₄, bind_of_error hq₄]
          exact .error fun _ => rfl
      · rw [bind_of_error hp₂, bind_of_error hq₂]
        exact .error fun _ => rfl

theorem conditions_of_ok {s : Scope σ} {list : List (Condition Query)} {p q : Progress σ}
    {ps : List Piece}
    (h : s.pieces (Condition.sizes list + s.compiler.limits.growth) true list p = .ok ps q) :
    s.conditions list p = .ok (Piece.joined ps) q := by
  rw [conditions, map_eq_pure_bind, bind_of_ok h]
  rfl

theorem conditions_of_error {s : Scope σ} {list : List (Condition Query)} {p q : Progress σ}
    {e : CompileError}
    (h : s.pieces (Condition.sizes list + s.compiler.limits.growth) true list p = .error e q) :
    s.conditions list p = .error e q := by
  rw [conditions, map_eq_pure_bind, bind_of_error h]

/-- The questions to the hook for conditions while a list is rendered. -/
def hookings (s : Scope σ) (list : List (Condition Query)) (p : Progress σ) : Hookings :=
  (endState ((Observer.hookings.scope s).conditions list (p.noting []))).state.2

theorem unhooked_beside (o : Observer σ Hookings) (s : Scope σ) :
    (o.scope s).unhooked.Beside (fun _ => False) (fun x y => x.1 = y) s.unhooked := by
  have h := o.resolver_beside s.compiler.resolver
  refine beside_of_nested rfl rfl rfl rfl (fun _ _ => .inr rfl) rfl ?_
    (fun u => Hook.unwatched_beside (s.compiler.resolver.table u)) fun _ _ => .refl _
  exact ⟨h.start, h.select, h.insert, h.update, h.delete, h.field, h.root,
    fun c x y hxy => .inr (.ok ⟨rfl, hxy⟩), h.joins⟩

open Condition in
/-- If the hook for conditions only adds some, a list is rendered to the same text, with the same
bindings, as the list with the added conditions at its end where there is no hook, or both fail for
the same cause. The hook is asked about each of these conditions once, at all depths; and no
condition waits any more. -/
theorem conditions_byHand (h : s.compiler.resolver.OnlyAdds E) (list : List (Condition Query))
    {p : Progress σ} (hp : p.pending = []) (hE : E p.state p.state)
    (hgrowth : sizes (s.hookings list p).added ≤ s.compiler.limits.growth) :
    InStep True
      (fun sql sql' p' q' => sql = sql' ∧ p'.bound = q'.bound ∧ p'.pending = [] ∧
        E p'.state q'.state ∧
        (s.hookings list p).asked = nodes (list ++ (s.hookings list p).added))
      (s.conditions list p)
      (s.unhooked.conditions (list ++ (s.hookings list p).added) p) := by
  have hend : (endState ((Observer.hookings.scope s).pieces
      (sizes list + s.compiler.limits.growth) true list (p.noting []))).state.2 =
      [] ++ s.hookings list p := by
    rw [hookings, conditions, map_eq_pure_bind, endState_bind_pure]
    rfl
  have hstart : Behind E [] [] (p.noting ([] : Hookings)) (p.noting []) := ⟨hE, rfl, hp, hp, rfl⟩
  have hpieces := pieces_outermost h _
    (sizes (list ++ (s.hookings list p).added) + s.compiler.limits.growth) hstart hend
    (by rw [sizes_append]; omega) (by omega)
  have hleft := ((Observer.hookings.scope_beside s).conditions list).lockstep (p.noting []) p
    ⟨rfl, rfl, rfl⟩
  have hright := ((unhooked_beside Observer.hookings s).conditions
    (list ++ (s.hookings list p).added)).lockstep (p.noting []) p ⟨rfl, rfl, rfl⟩
  rcases hpieces.both with
    ⟨ps, _, p₁, q₁, hp₁, hq₁, rfl, hasked, hpq⟩ | ⟨e, p₁, q₁, hp₁, hq₁⟩
  · obtain ⟨_, p₂, hp₂, rfl, hp₁₂⟩ := hleft.of_ok (conditions_of_ok hp₁)
    obtain ⟨_, q₂, hq₂, rfl, hq₁₂⟩ := hright.of_ok (conditions_of_ok hq₁)
    rw [hp₂, hq₂]
    refine .ok ⟨rfl, ?_, hp₁₂.pending.symm.trans hpq.waiting, ?_, hasked⟩
    · rw [← hp₁₂.bound, hpq.bound, hq₁₂.bound]
    · rw [← hp₁₂.state, ← hq₁₂.state]
      exact hpq.state
  · obtain ⟨p₂, hp₂⟩ := hleft.of_error (conditions_of_error hp₁)
    obtain ⟨q₂, hq₂⟩ := hright.of_error (conditions_of_error hq₁)
    rw [hp₂, hq₂]
    exact .error fun _ => rfl

end Scope

/-- The resolver that adds a condition on the tenant for each of the conditions that it sees first,
as many as its state tells. It sees those that it adds, too. -/
def Resolver.tenants : Resolver Nat where
  start := 4
  condition c
    | 0 => .ok (c, []) 0
    | n + 1 => .ok (c, [.compare "tenant" "=" (.value (.text "t"))]) n

theorem Resolver.tenants_onlyAdds : Resolver.tenants.OnlyAdds fun _ _ => True where
  condition c x z _ := by
    cases x with
    | zero => exact ⟨_, _, rfl, trivial⟩
    | succ n => exact ⟨_, _, rfl, trivial⟩
  field _ _ := .ends rfl
  root _ := rfl

namespace Scope

def tenants : Scope Nat where
  compiler :=
    { connection := ⟨"default", "mysql", none⟩
      platform := Dialect.mysql.platform
      types := .builtins
      resolver := .tenants }
  quoted := false
  database := none
  nested _ q := ⟨.error (.exceeded .nesting), q.cache, []⟩

/-- Three conditions are added inside the group, and one for the first of these. The group is no
longer alone then. -/
theorem tenants_byHand :
    let list : List (Condition Query) := [.group .and [.compare "a" "=" (.value (.text "x")),
      (Condition.compare "b" "=" (.value (.text "y"))).withGlue .or]]
    let tenant : Condition Query := .compare "tenant" "=" (.value (.text "t"))
    ∃ p q, tenants.conditions list ⟨4, [], [], []⟩ = .ok ("(a = ? OR b = ?) AND tenant = ? AND " ++
        "tenant = ? AND tenant = ? AND tenant = ?") p ∧ p.pending = [] ∧
      tenants.unhooked.conditions (list ++ [tenant, tenant, tenant, tenant]) ⟨4, [], [], []⟩ =
        .ok ("(a = ? OR b = ?) AND tenant = ? AND tenant = ? AND tenant = ? AND tenant = ?") q ∧
      p.bound = q.bound := by
  intro list tenant
  have hadded : (tenants.hookings list ⟨4, [], [], []⟩).added =
      [tenant, tenant, tenant, tenant] := by cbv
  have htext : (tenants.conditions list).run' ⟨4, [], [], []⟩ =
      some "(a = ? OR b = ?) AND tenant = ? AND tenant = ? AND tenant = ? AND tenant = ?" := by cbv
  rw [EStateM.run', EStateM.run] at htext
  have hstep := conditions_byHand Resolver.tenants_onlyAdds list (p := ⟨4, [], [], []⟩) rfl trivial
    (by rw [hadded]; decide)
  rw [hadded] at hstep
  rcases hstep.both with ⟨sql, _, p, q, hp, hq, rfl, hbound, hpending, _⟩ | ⟨e, p, q, hp, _⟩
  · rw [hp] at htext
    obtain rfl := Option.some.inj htext
    exact ⟨p, q, hp, hpending, hq, hbound⟩
  · rw [hp] at htext
    cases htext

end Scope

end ParamSql
