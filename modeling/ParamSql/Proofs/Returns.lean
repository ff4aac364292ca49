import ParamSql.Proofs.Boolean
import ParamSql.Proofs.ByHand

namespace ParamSql

variable {σ : Type}

/-- A question to the hook for conditions, with the condition that it answers with and those that it
adds, unless it refuses. -/
structure Visit where
  condition : Condition Query
  answer : Option (Condition Query × List (Condition Query))

namespace Visit

open Classical in
/-- How many conditions the resolver spends in an answer, at all depths: those that it adds, and the
one that it puts in the place of another. -/
noncomputable def spent (v : Visit) : Nat :=
  match v.answer with
  | none => 0
  | some (c, added) => Condition.sizes added + if c = v.condition then 0 else c.size

noncomputable def spentIn (visits : List Visit) : Nat :=
  (visits.map spent).sum

@[simp] theorem spentIn_cons (v : Visit) (visits : List Visit) :
    spentIn (v :: visits) = v.spent + spentIn visits :=
  rfl

@[simp] theorem spentIn_append (visits others : List Visit) :
    spentIn (visits ++ others) = spentIn visits + spentIn others := by
  rw [spentIn, List.map_append, List.sum_append]
  rfl

theorem size_le (first c : Condition Query) (added : List (Condition Query)) :
    Condition.sizes added + c.size ≤ first.size + spent ⟨first, some (c, added)⟩ := by
  unfold spent
  simp only
  split <;> rename_i hc
  · rw [hc]
    omega
  · omega

theorem spent_le (first c : Condition Query) (added : List (Condition Query)) :
    spent ⟨first, some (c, added)⟩ ≤ Condition.sizes added + c.size := by
  unfold spent
  simp only
  split <;> omega

theorem spent_kept (c : Condition Query) (added : List (Condition Query)) :
    spent ⟨c, some (c, added)⟩ = Condition.sizes added := by
  unfold spent
  simp only [if_true, Nat.add_zero]

end Visit

/-- What the rendering of a list comes to. -/
abbrev Listing (σ : Type) :=
  EStateM.Result CompileError (Progress σ) (List Piece)

/-- The same, with a piece before the others. -/
def Listing.after (piece : Piece) : Listing σ → Listing σ
  | .ok others p => .ok (piece :: others) p
  | .error e p => .error e p

/-- The text of a list. -/
def Listing.joined : Listing σ → EStateM.Result CompileError (Progress σ) String
  | .ok pieces p => .ok (Piece.joined pieces) p
  | .error e p => .error e p

/-- What is left at the end of a run, if it has succeeded. -/
def Listing.rest (amount : Progress σ → Nat) : Option (Listing σ) → Nat
  | some (.ok _ p) => amount p
  | _ => 0

theorem Listing.rest_after (amount : Progress σ → Nat) (piece : Piece)
    (result : Option (Listing σ)) :
    Listing.rest amount (result.map (Listing.after piece)) = Listing.rest amount result := by
  rcases result with _ | (_ | _) <;> rfl

namespace Progress

/-- Progress in the same state with the same bindings. In the first one the given conditions
wait. -/
structure Waits (waiting : List (Condition Query)) (p q : Progress σ) : Prop where
  state : p.state = q.state
  bound : p.bound = q.bound
  waiting : p.pending = waiting

/-- The conditions that a list takes over. -/
def taken (outermost : Bool) (p : Progress σ) : List (Condition Query) :=
  if outermost then p.pending else []

/-- The progress when a list has taken over what waits for it. -/
def relieved (outermost : Bool) (p : Progress σ) : Progress σ :=
  if outermost then { p with pending := [] } else p

theorem state_relieved (outermost : Bool) (p : Progress σ) :
    (p.relieved outermost).state = p.state := by
  cases outermost <;> rfl

theorem sizes_taken (outermost : Bool) (p : Progress σ) :
    Condition.sizes (p.taken outermost) + Condition.sizes (p.relieved outermost).pending =
      Condition.sizes p.pending := by
  cases outermost
  · exact Nat.zero_add _
  · exact Nat.add_zero _

end Progress

namespace Scope

variable {s : Scope σ} {n : Nat} {outermost : Bool} {first c : Condition Query}
  {list rest added members : List (Condition Query)} {glue : Glue} {p q r : Progress σ}
  {e : CompileError} {text : String}

/-- The hook answers with a condition for the given one, and those that it adds wait. -/
structure Resolves (s : Scope σ) (first : Condition Query) (p : Progress σ) (c : Condition Query)
    (added : List (Condition Query)) (q : Progress σ) : Prop where
  hook : s.compiler.resolver.condition first p.state = .ok (c, added) q.state
  resolved : s.resolveCondition first p = .ok c q
  pending : q.pending = p.pending ++ added

/-- The rendering of a list of conditions, an outermost one or not, by what is visited. It comes to
a result, unless it is left before that. -/
inductive Runs (s : Scope σ) :
    Bool → List (Condition Query) → Progress σ → List Visit → Option (Listing σ) → Prop
  | nil (outermost : Bool) (p : Progress σ) : Runs s outermost [] p [] (some (.ok [] p))
  /-- The run is left before its next visit. -/
  | left (outermost : Bool) (list : List (Condition Query)) (p : Progress σ) :
    Runs s outermost list p [] none
  /-- The hook refuses. -/
  | refused {outermost : Bool} {first : Condition Query} {rest : List (Condition Query)}
      {p q : Progress σ} {e : CompileError} : s.resolveCondition first p = .error e q →
    Runs s outermost (first :: rest) p [⟨first, none⟩] (some (.error e q))
  /-- A condition that is no group fails. -/
  | leafFails {outermost : Bool} {first c : Condition Query} {rest added : List (Condition Query)}
      {p q r : Progress σ} {e : CompileError} : s.Resolves first p c added q → isGroup c = false →
    s.leafText c q = .error e r →
    Runs s outermost (first :: rest) p [⟨first, some (c, added)⟩] (some (.error e r))
  | leaf {outermost : Bool} {first c : Condition Query} {rest added : List (Condition Query)}
      {p q r : Progress σ} {text : String} {visits : List Visit} {result : Option (Listing σ)} :
    s.Resolves first p c added q → isGroup c = false → s.leafText c q = .ok text r →
    Runs s outermost (rest ++ r.taken outermost) (r.relieved outermost) visits result →
    Runs s outermost (first :: rest) p (⟨first, some (c, added)⟩ :: visits)
      (result.map (Listing.after ⟨c.glue, text, false⟩))
  /-- A group fails, or is left. -/
  | groupEnds {outermost : Bool} {first : Condition Query} {glue : Glue}
      {rest added members : List (Condition Query)} {p q : Progress σ} {visits : List Visit}
      {result : Option (Listing σ)} : s.Resolves first p (.group glue members) added q →
    Runs s false members q visits result → (∀ pieces r, result ≠ some (.ok pieces r)) →
    Runs s outermost (first :: rest) p (⟨first, some (.group glue members, added)⟩ :: visits) result
  | group {outermost : Bool} {first : Condition Query} {glue : Glue}
      {rest added members : List (Condition Query)} {p q r : Progress σ} {pieces : List Piece}
      {visits others : List Visit} {result : Option (Listing σ)} :
    s.Resolves first p (.group glue members) added q →
    Runs s false members q visits (some (.ok pieces r)) →
    Runs s outermost (rest ++ r.taken outermost) (r.relieved outermost) others result →
    Runs s outermost (first :: rest) p
      (⟨first, some (.group glue members, added)⟩ :: (visits ++ others))
      (result.map (Listing.after ⟨glue, Piece.joined pieces, true⟩))

theorem resolves_or_refused (s : Scope σ) (first : Condition Query) (p : Progress σ) :
    (∃ c added q, s.Resolves first p c added q) ∨ ∃ e q, s.resolveCondition first p = .error e q := by
  cases h : s.compiler.resolver.condition first p.state with
  | ok answer x => exact .inl ⟨answer.1, answer.2, _, h, resolveCondition_of_ok h, rfl⟩
  | error e x =>
    have hconsult := Render.consult_eq (.condition first.shape)
      (s.compiler.resolver.condition first) p
    rw [h] at hconsult
    exact .inr ⟨e, _, bind_of_error hconsult⟩

theorem group_or_leaf (c : Condition Query) :
    (∃ glue members, c = .group glue members) ∨ isGroup c = false := by
  cases c with
  | group glue members => exact .inl ⟨glue, members, rfl⟩
  | _ => exact .inr rfl

theorem pieceText_of_leaf (hc : isGroup c = false) : s.pieceText n c = s.leafText c := by
  cases c with
  | group glue members => cases hc
  | _ => rfl

theorem takenBy_eq (outermost : Bool) (p : Progress σ) :
    takenBy outermost p = .ok (p.taken outermost) (p.relieved outermost) := by
  cases outermost <;> rfl

theorem pieces_refused (h : s.resolveCondition first p = .error e q) :
    s.pieces (n + 1) outermost (first :: rest) p = .error e q := by
  rw [pieces_cons, bind_of_error h]

theorem pieces_fails (h : s.Resolves first p c added q) (htext : s.pieceText n c q = .error e r) :
    s.pieces (n + 1) outermost (first :: rest) p = .error e r := by
  rw [pieces_cons, bind_of_ok h.resolved, bind_of_error htext]

theorem pieces_next (h : s.Resolves first p c added q) (htext : s.pieceText n c q = .ok text r) :
    s.pieces (n + 1) outermost (first :: rest) p = Listing.after ⟨c.glue, text, isGroup c⟩
      (s.pieces n outermost (rest ++ r.taken outermost) (r.relieved outermost)) := by
  rw [pieces_cons, bind_of_ok h.resolved, bind_of_ok htext, bind_of_ok (takenBy_eq outermost r)]
  cases hrest : s.pieces n outermost (rest ++ r.taken outermost) (r.relieved outermost) with
  | ok others q' => rw [bind_of_ok hrest]; rfl
  | error e q' => rw [bind_of_error hrest]; rfl

/-- What is in the list and what waits after a visit was there before, or is spent. -/
theorem Resolves.size_le (h : s.Resolves first p c added q) :
    c.size + Condition.sizes q.pending ≤
      first.size + Condition.sizes p.pending + Visit.spent ⟨first, some (c, added)⟩ := by
  have hsize := Visit.size_le first c added
  rw [h.pending, Condition.sizes_append]
  omega

theorem steady_waits (s : Scope σ) (waiting : List (Condition Query)) :
    s.Steady True Eq Eq (Progress.Waits waiting) := by
  have hlenient : Progress.Lenient (@Progress.Waits σ waiting) :=
    ⟨fun _ _ h => ⟨h.state, h.bound, h.waiting⟩,
      fun _ h => ⟨h.state, congrArg (· ++ _) h.bound, h.waiting⟩⟩
  exact hlenient.steady (fun h => h.state) fun _ h => ⟨rfl, h.bound, h.waiting⟩

theorem pending_leafText (hc : isGroup c = false) (h : s.leafText c p = .ok text q) :
    q.pending = p.pending := by
  have hsteady := s.steady_waits p.pending
  have hleaf : Lockstep True (Progress.Waits p.pending) (s.leafText c) (s.leafText c)
      (Same (Progress.Waits p.pending)) := by
    cases c with
    | comparison g c => exact hsteady.comparison (.refl (fun _ => rfl) (fun _ => rfl) c)
    | fragment g f => exact hsteady.fragment f
    | group g members => cases hc
  obtain ⟨_, _, _, -, hwaits⟩ := (hleaf p p ⟨rfl, rfl, rfl⟩).of_ok h
  exact hwaits.waiting

/-- What a resolver may still spend, by its state: its hooks do not add to it, and the one for
conditions pays for what it answers. -/
structure Thrifty (s : Scope σ) (purse : σ → Nat) : Prop where
  along : s.Along fun x y => purse y ≤ purse x
  pays {c d : Condition Query} {added : List (Condition Query)} {x y : σ} :
    s.compiler.resolver.condition c x = .ok (d, added) y →
      Visit.spent ⟨c, some (d, added)⟩ + purse y ≤ purse x

theorem Thrifty.leafText {purse : σ → Nat} (hs : s.Thrifty purse) (hc : isGroup c = false)
    (h : s.leafText c p = .ok text q) : purse q.state ≤ purse p.state := by
  have halong : Render.Along (fun x y => purse y ≤ purse x) (s.leafText c) := by
    cases c with
    | comparison g c => exact hs.along.builds.comparison c
    | fragment g f => exact hs.along.builds.fragment f
    | group g members => cases hc
  have hstep := halong p
  rw [h] at hstep
  exact hstep

namespace Runs

variable {visits : List Visit} {result : Option (Listing σ)}

/-- A run that comes to its end is what a list is rendered by, if the bound admits the visits. -/
theorem pieces_eq (h : s.Runs outermost list p visits result) {listing : Listing σ}
    (hresult : result = some listing) (hn : visits.length ≤ n) :
    s.pieces n outermost list p = listing := by
  induction h generalizing n listing with
  | nil outermost p =>
    cases hresult
    rw [pieces_nil]
    rfl
  | left => cases hresult
  | refused hrefused =>
    cases hresult
    obtain ⟨n, rfl⟩ := Nat.exists_eq_add_of_le' hn
    exact pieces_refused hrefused
  | leafFails hfirst hc htext =>
    cases hresult
    obtain ⟨n, rfl⟩ := Nat.exists_eq_add_of_le' hn
    exact pieces_fails hfirst (pieceText_of_leaf hc ▸ htext)
  | leaf hfirst hc htext _ ih =>
    obtain ⟨others, rfl, rfl⟩ := Option.map_eq_some_iff.1 hresult
    obtain ⟨n, rfl⟩ := Nat.exists_eq_add_of_le' (Nat.le_of_add_left_le hn)
    rw [pieces_next hfirst (pieceText_of_leaf hc ▸ htext), ih rfl (Nat.le_of_succ_le_succ hn), hc]
  | @groupEnds outermost first glue rest added members p q visits result hfirst _ hends ih =>
    obtain ⟨n, rfl⟩ := Nat.exists_eq_add_of_le' (Nat.le_of_add_left_le hn)
    cases listing with
    | ok pieces r => exact absurd hresult (hends pieces r)
    | error e r =>
      have hmembers := ih hresult (Nat.le_of_succ_le_succ hn)
      apply pieces_fails hfirst
      rw [pieceText, map_eq_pure_bind, bind_of_error hmembers]
  | @group outermost first glue rest added members p q r pieces visits others result hfirst _ _
      ihmembers ihrest =>
    obtain ⟨listing, rfl, rfl⟩ := Option.map_eq_some_iff.1 hresult
    rw [List.length_cons, List.length_append] at hn
    obtain ⟨n, rfl⟩ := Nat.exists_eq_add_of_le' (Nat.le_of_add_left_le hn)
    have hmembers := ihmembers (n := n) rfl (by omega)
    have htext : s.pieceText n (.group glue members) q = .ok (Piece.joined pieces) r := by
      rw [pieceText, map_eq_pure_bind, bind_of_ok hmembers]
      rfl
    rw [pieces_next hfirst htext, ihrest rfl (by omega)]
    rfl

/-- The visits are to conditions that the list had, that waited, or that have been spent. Those that
wait at the end are left over. -/
theorem length_le (h : s.Runs outermost list p visits result) :
    visits.length + Listing.rest (fun q => Condition.sizes q.pending) result ≤
      Condition.sizes list + Condition.sizes p.pending + Visit.spentIn visits := by
  -- Every visit takes one condition out of the list, and what is spent on it makes up for the rest.
  induction h with
  | nil outermost p =>
    change 0 + Condition.sizes p.pending ≤ 0 + Condition.sizes p.pending + 0
    omega
  | left => exact Nat.zero_le _
  | @refused outermost first rest p q e _ =>
    have hsize := first.one_le_size
    change 1 + 0 ≤ first.size + Condition.sizes rest + _ + (0 + 0)
    omega
  | @leafFails outermost first c rest added p q r e hfirst hc _ =>
    have hsize := first.one_le_size
    change 1 + 0 ≤ first.size + Condition.sizes rest + _ + _
    omega
  | @leaf outermost first c rest added p q r text visits result hfirst hc htext _ ih =>
    have hsize := c.one_le_size
    have hvisit := hfirst.size_le
    have htaken := r.sizes_taken outermost
    rw [pending_leafText hc htext] at htaken
    rw [Condition.sizes_append] at ih
    rw [Listing.rest_after, List.length_cons, Condition.sizes, Visit.spentIn_cons]
    omega
  | @groupEnds outermost first glue rest added members p q visits result hfirst _ hends ih =>
    have hvisit := hfirst.size_le
    rw [Condition.size] at hvisit
    rw [List.length_cons, Condition.sizes, Visit.spentIn_cons]
    omega
  | @group outermost first glue rest added members p q r pieces visits others result hfirst _ _
      ihmembers ihrest =>
    have hvisit := hfirst.size_le
    have htaken := r.sizes_taken outermost
    have hmembers : visits.length + Condition.sizes r.pending ≤ _ := ihmembers
    rw [Condition.size] at hvisit
    rw [Condition.sizes_append] at ihrest
    rw [Listing.rest_after, List.length_cons, List.length_append, Condition.sizes,
      Visit.spentIn_cons, Visit.spentIn_append]
    omega

theorem spent_le {purse : σ → Nat} (hs : s.Thrifty purse)
    (h : s.Runs outermost list p visits result) :
    Visit.spentIn visits + Listing.rest (fun q => purse q.state) result ≤ purse p.state := by
  induction h with
  | nil outermost p => exact Nat.le_of_eq (Nat.zero_add _)
  | left => exact Nat.zero_le _
  | refused => exact Nat.zero_le _
  | leafFails hfirst hc htext =>
    have hpays := hs.pays hfirst.hook
    rw [Visit.spentIn_cons]
    exact Nat.le_trans (Nat.le_add_right _ _) hpays
  | @leaf outermost first c rest added p q r text visits result hfirst hc htext _ ih =>
    have hpays := hs.pays hfirst.hook
    have hleaf := hs.leafText hc htext
    rw [Progress.state_relieved] at ih
    rw [Listing.rest_after, Visit.spentIn_cons]
    omega
  | groupEnds hfirst _ hends ih =>
    have hpays := hs.pays hfirst.hook
    rw [Visit.spentIn_cons]
    omega
  | @group outermost first glue rest added members p q r pieces visits others result hfirst _ _
      ihmembers ihrest =>
    have hpays := hs.pays hfirst.hook
    have hmembers : Visit.spentIn visits + purse r.state ≤ purse q.state := ihmembers
    rw [Progress.state_relieved] at ihrest
    rw [Listing.rest_after, Visit.spentIn_cons, Visit.spentIn_append]
    omega

theorem conditions_eq {listing : Listing σ} (h : s.Runs true list p visits (some listing))
    (hgrowth : Condition.sizes p.pending + Visit.spentIn visits ≤ s.compiler.limits.growth) :
    s.conditions list p = listing.joined := by
  have hlength := h.length_le
  have hpieces := h.pieces_eq (n := Condition.sizes list + s.compiler.limits.growth) rfl (by omega)
  cases listing with
  | ok pieces q => exact conditions_of_ok hpieces
  | error e q => exact conditions_of_error hpieces

end Runs

/-- However long a run is to be, it goes as far, unless it comes to its end before. -/
theorem exists_runs (s : Scope σ) (n : Nat) (outermost : Bool) (list : List (Condition Query))
    (p : Progress σ) : ∃ visits result, s.Runs outermost list p visits result ∧
      (result = none → n ≤ visits.length) := by
  induction n generalizing outermost list p with
  | zero => exact ⟨[], none, .left outermost list p, fun _ => Nat.zero_le _⟩
  | succ n ih =>
    cases list with
    | nil => exact ⟨[], _, .nil outermost p, nofun⟩
    | cons first rest =>
      rcases s.resolves_or_refused first p with ⟨c, added, q, hfirst⟩ | ⟨e, q, hrefused⟩
      · rcases group_or_leaf c with ⟨glue, members, rfl⟩ | hc
        · obtain ⟨visits, result, hmembers, hlong⟩ := ih false members q
          rcases result with _ | (⟨pieces, r⟩ | ⟨e, r⟩)
          · exact ⟨_, none, .groupEnds hfirst hmembers nofun, fun _ => Nat.succ_le_succ (hlong rfl)⟩
          · obtain ⟨others, result, hrest, hlong⟩ :=
              ih outermost (rest ++ r.taken outermost) (r.relieved outermost)
            refine ⟨_, _, .group hfirst hmembers hrest, fun hnone => ?_⟩
            have hothers := hlong (Option.map_eq_none_iff.1 hnone)
            rw [List.length_cons, List.length_append]
            omega
          · exact ⟨_, _, .groupEnds hfirst hmembers nofun, nofun⟩
        · cases htext : s.leafText c q with
          | ok text r =>
            obtain ⟨visits, result, hrest, hlong⟩ :=
              ih outermost (rest ++ r.taken outermost) (r.relieved outermost)
            exact ⟨_, _, .leaf hfirst hc htext hrest, fun hnone =>
              Nat.succ_le_succ (hlong (Option.map_eq_none_iff.1 hnone))⟩
          | error e r => exact ⟨_, _, .leafFails hfirst hc htext, nofun⟩
      · exact ⟨_, _, .refused hrefused, nofun⟩

/-- The rendering of a list comes to its end after the given visits, and the bound that it is given
does not matter unless it is below their number. -/
structure Returns (s : Scope σ) (outermost : Bool) (list : List (Condition Query))
    (p : Progress σ) (visits : List Visit) (listing : Listing σ) : Prop where
  run : s.Runs outermost list p visits (some listing)
  pieces (n : Nat) : visits.length ≤ n → s.pieces n outermost list p = listing
  conditions : outermost = true →
    Condition.sizes p.pending + Visit.spentIn visits ≤ s.compiler.limits.growth →
      s.conditions list p = listing.joined

theorem exists_returns {bound : Nat}
    (h : ∀ visits, s.Runs outermost list p visits none → Visit.spentIn visits ≤ bound) :
    ∃ visits listing, s.Returns outermost list p visits listing := by
  obtain ⟨visits, result, hruns, hlong⟩ := s.exists_runs
    (Condition.sizes list + Condition.sizes p.pending + bound + 1) outermost list p
  cases result with
  | none =>
    -- A run that is still going has more visits than there are conditions.
    have hlength := hruns.length_le
    have hspent := h visits hruns
    have hvisits := hlong rfl
    omega
  | some listing =>
    refine ⟨visits, listing, hruns, fun n => hruns.pieces_eq rfl, ?_⟩
    rintro rfl
    exact hruns.conditions_eq

/-- A resolver that can spend only what its state holds lets every list come to its end, after no
more visits than there are conditions and it could spend. -/
theorem returns_of_thrifty {purse : σ → Nat} (hs : s.Thrifty purse) (outermost : Bool)
    (list : List (Condition Query)) (p : Progress σ) :
    ∃ visits listing, s.Returns outermost list p visits listing ∧
      visits.length ≤ Condition.sizes list + Condition.sizes p.pending + purse p.state := by
  have hspent {visits : List Visit} {result : Option (Listing σ)}
      (h : s.Runs outermost list p visits result) : Visit.spentIn visits ≤ purse p.state :=
    Nat.le_of_add_right_le (h.spent_le hs)
  obtain ⟨visits, listing, hreturns⟩ := exists_returns fun visits h => hspent h
  have hlength := hreturns.run.length_le
  have hpaid := hspent hreturns.run
  exact ⟨visits, listing, hreturns, by omega⟩

/-- If the resolver spends only so many conditions, however far the rendering of a list goes, then
it comes to its end. The hook is asked no more often than there are conditions in the list, waiting
for it and spent, at all depths. -/
theorem returns_of_bounded {bound : Nat}
    (h : ∀ visits, s.Runs outermost list p visits none → Visit.spentIn visits ≤ bound) :
    (∃ visits listing, s.Returns outermost list p visits listing) ∧
      ∀ visits result, s.Runs outermost list p visits result → visits.length ≤
        Condition.sizes list + Condition.sizes p.pending + Visit.spentIn visits :=
  ⟨exists_returns h, fun _ _ hruns => Nat.le_of_add_right_le hruns.length_le⟩

end Scope

/-- The resolver with a rule that fires as often as its state tells: a comparison is put into a
group with another one, and a group is added, to which the rule applies as well. -/
def Resolver.wrapping : Resolver Nat where
  start := 2
  condition
    | .comparison glue c, n + 1 => .ok
      (.group glue [.comparison .and c, .compare "deleted" "=" (.value .null)],
        [.group .and [.compare "tenant" "=" (.value (.text "t"))]]) n
    | c, n => .ok (c, []) n

namespace Scope

def wrapping : Scope Nat :=
  { tenants with compiler := { tenants.compiler with resolver := .wrapping } }

theorem wrapping_thrifty : wrapping.Thrifty fun n => 5 * n where
  along :=
    { refl := fun x => Nat.le_refl _
      trans := fun hxy hyz => Nat.le_trans hyz hxy
      table := fun t x => Nat.le_refl _
      field := fun name type x => Nat.le_refl _
      condition := fun c x => by
        cases c with
        | comparison glue c =>
          cases x with
          | zero => exact Nat.le_refl _
          | succ n => exact Nat.mul_le_mul_left 5 (Nat.le_succ n)
        | _ => exact Nat.le_refl _ }
  pays := by
    intro c d added x y h
    cases c with
    | comparison glue c =>
      cases x with
      | zero =>
        cases h
        rw [Visit.spent_kept]
        exact Nat.le_refl _
      | succ n =>
        cases h
        have hspent := Visit.spent_le (.comparison glue c)
          (.group glue [.comparison .and c, .compare "deleted" "=" (.value .null)])
          [.group .and [.compare "tenant" "=" (.value (.text "t"))]]
        change _ ≤ 5 at hspent
        omega
    | _ =>
      cases h
      rw [Visit.spent_kept]
      exact Nat.le_of_eq (Nat.zero_add _)

/-- The rule fires for the comparison, and once more for it inside the group. -/
theorem returns_of_bounded_wrapping :
    let list : List (Condition Query) := [.compare "a" "=" (.value (.text "x"))]
    (∀ visits, wrapping.Runs true list ⟨2, [], [], []⟩ visits none → Visit.spentIn visits ≤ 10) ∧
      ∃ visits listing, wrapping.Returns true list ⟨2, [], [], []⟩ visits listing ∧
        visits.length ≤ 11 ∧ ∃ p, wrapping.conditions list ⟨2, [], [], []⟩ =
          .ok ("((a = ? AND deleted IS NULL) AND deleted IS NULL) AND (tenant = ?) AND " ++
            "(tenant = ?)") p ∧ listing.joined = wrapping.conditions list ⟨2, [], [], []⟩ := by
  intro list
  have hspent (visits : List Visit) (result : Option (Listing Nat))
      (h : wrapping.Runs true list ⟨2, [], [], []⟩ visits result) : Visit.spentIn visits ≤ 10 :=
    Nat.le_of_add_right_le (h.spent_le wrapping_thrifty)
  obtain ⟨⟨visits, listing, hreturns⟩, hlength⟩ :=
    returns_of_bounded fun visits h => hspent visits none h
  have hvisits : visits.length ≤ 1 + 0 + Visit.spentIn visits := hlength visits _ hreturns.run
  have htext : (wrapping.conditions list).run' ⟨2, [], [], []⟩ =
      some ("((a = ? AND deleted IS NULL) AND deleted IS NULL) AND (tenant = ?) AND " ++
        "(tenant = ?)") := by cbv
  obtain ⟨p, hp⟩ := ok_of_run' htext
  have hbound := hspent visits _ hreturns.run
  refine ⟨fun visits => hspent visits none, visits, listing, hreturns, by omega, p, hp, ?_⟩
  refine (hreturns.conditions rfl ?_).symm
  change 0 + Visit.spentIn visits ≤ 100000
  omega

end Scope

end ParamSql
