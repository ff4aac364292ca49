import Mathlib
import ParamSql.Compile.Run
import ParamSql.Proofs.Truth
import ParamSql.Proofs.Unread

namespace ParamSql

variable {σ : Type}

/-- The same progress but for the journal, and no condition waits. -/
structure Progress.Idle (p q : Progress σ) : Prop where
  state : p.state = q.state
  bound : p.bound = q.bound
  left : p.pending = []
  right : q.pending = []

namespace Scope

variable {s : Scope σ}

def leafText (s : Scope σ) : Condition Query → Render σ String
  | .comparison _ c => s.comparison c
  | .fragment _ f => s.fragment f
  | .group _ _ => pure ""

theorem steady_idle (s : Scope σ) : s.Steady True Eq Eq Progress.Idle := by
  have hlenient : Progress.Lenient (@Progress.Idle σ) :=
    ⟨fun _ _ h => ⟨h.state, h.bound, h.left, h.right⟩,
      fun _ h => ⟨h.state, congrArg (· ++ _) h.bound, h.left, h.right⟩⟩
  exact hlenient.steady (fun h => h.state) fun _ h => ⟨rfl, h.bound, h.left, h.right⟩

theorem leafText_idle (s : Scope σ) (c : Condition Query) :
    Lockstep True Progress.Idle (s.leafText c) (s.leafText c) (Same Progress.Idle) := by
  cases c with
  | comparison g c => exact s.steady_idle.comparison (.refl (fun _ => rfl) (fun _ => rfl) c)
  | fragment g f => exact s.steady_idle.fragment f
  | group g list => exact .ends rfl

/-- The resolver leaves conditions as they are and adds none. -/
def Unhooked (s : Scope σ) : Prop :=
  ∀ c, s.compiler.resolver.condition c = pure (c, [])

theorem resolveCondition_idle (hs : s.Unhooked) (c : Condition Query) (p q : Progress σ)
    (h : Progress.Idle p q) : ∃ p', s.resolveCondition c p = .ok c p' ∧ Progress.Idle p' q := by
  refine ⟨{ p with journal := p.journal ++ [Event.asked (.condition c.shape)], pending := [] }, ?_,
    h.state, h.bound, rfl, h.right⟩
  change EStateM.bind (Render.consult _ (s.compiler.resolver.condition c)) _ p = _
  rw [EStateM.bind, Render.consult_eq, hs c]
  change EStateM.Result.ok c { p with
    journal := p.journal ++ [Event.asked (.condition c.shape)], pending := p.pending ++ [] } = _
  rw [h.left]
  rfl

theorem takenBy_idle (outermost : Bool) (p q : Progress σ) (h : Progress.Idle p q) :
    ∃ p', takenBy outermost p = .ok [] p' ∧ Progress.Idle p' q := by
  refine ⟨p, ?_, h⟩
  cases outermost with
  | false => rfl
  | true =>
    change EStateM.Result.ok p.pending { p with pending := [] } = _
    obtain ⟨state, pending, bound, journal⟩ := p
    obtain rfl : pending = [] := h.left
    rfl

end Scope

/-- The texts of leaves from a number on. -/
def Fits (text : Nat → String) : Nat → List String → Prop
  | _, [] => True
  | i, t :: ts => text i = t ∧ Fits text (i + 1) ts

theorem Fits.append {text : Nat → String} {i : Nat} {ts us : List String}
    (h : Fits text i (ts ++ us)) : Fits text i ts ∧ Fits text (i + ts.length) us := by
  induction ts generalizing i with
  | nil => exact ⟨trivial, h⟩
  | cons t ts ih =>
    obtain ⟨ht, hrest⟩ := h
    obtain ⟨hts, hus⟩ := ih hrest
    rw [Nat.add_right_comm] at hus
    exact ⟨⟨ht, hts⟩, hus⟩

theorem Fits.getD (before ts : List String) :
    Fits (fun i => (before ++ ts).getD i "") before.length ts := by
  induction ts generalizing before with
  | nil => exact trivial
  | cons t ts ih =>
    refine ⟨by simp, ?_⟩
    have hrest := ih (before ++ [t])
    rw [List.append_assoc, List.length_append] at hrest
    exact hrest

theorem Fits.blank {text : Nat → String} {i : Nat} {ts : List String} (h : Fits text i ts) :
    Blank text i ts.length ↔ ∀ t ∈ ts, t = "" := by
  induction ts generalizing i with
  | nil => exact ⟨fun _ => nofun, fun _ j hj => absurd hj (Nat.not_lt_zero j)⟩
  | cons t ts ih =>
    obtain ⟨ht, hrest⟩ := h
    rw [List.length_cons, Nat.add_comm, Blank.add, ih hrest, List.forall_mem_cons, ← ht]
    refine and_congr_left fun _ => ⟨fun hfirst => hfirst 0 Nat.zero_lt_one, fun hfirst j hj => ?_⟩
    rwa [Nat.lt_one_iff.1 hj]

theorem Condition.size_pos {Q : Type} (c : Condition Q) : 0 < c.size := by
  cases c with
  | comparison _ _ => exact Nat.zero_lt_one
  | group _ members => exact Nat.lt_add_right _ Nat.zero_lt_one
  | fragment _ _ => exact Nat.zero_lt_one

namespace Scope

open Condition

variable {s : Scope σ}

/-- The text of a condition, rendered from the texts of its leaves. -/
def Written (c : Condition Query) (sql : String) (texts : List String) (p q : Progress σ) : Prop :=
  texts.length = c.leaves.length ∧ (∀ text i, Fits text i texts → sql = written text i c) ∧
    Progress.Idle p q

/-- The pieces of a list, rendered from the texts of its leaves. -/
def WrittenAll (list : List (Condition Query)) (pieces : List Piece) (texts : List String)
    (p q : Progress σ) : Prop :=
  texts.length = (leavesOf list).length ∧
    (∀ text i, Fits text i texts → pieces = piecesFrom text i list) ∧ Progress.Idle p q

theorem leaf_written {c : Condition Query} (hleaves : c.leaves = [c])
    (hwritten : ∀ text i, written text i c = text i) :
    Lockstep True Progress.Idle (s.leafText c) (c.leaves.mapM s.leafText) (Written c) := by
  have hone : c.leaves.mapM s.leafText = s.leafText c >>= fun t => pure [t] := by
    rw [hleaves, List.mapM_cons]
    rfl
  rw [hone, ← bind_pure (s.leafText c)]
  rw [bind_assoc]
  apply (s.leafText_idle c).nextSame
  intro t
  refine .pure fun p q hpq => ⟨by rw [hleaves]; rfl, fun text i h => ?_, hpq⟩
  rw [hwritten, h.1]

/-- The pieces of a list are those of its leaves, however deep, rendered from left to right. -/
theorem pieces_written (hs : s.Unhooked) (n : Nat) (outermost : Bool)
    {list : List (Condition Query)} (hn : sizes list ≤ n) :
    Lockstep True Progress.Idle (s.pieces n outermost list) ((leavesOf list).mapM s.leafText)
      (WrittenAll list) := by
  -- The bound on the sizes goes down with each condition and with each group that is entered.
  induction n generalizing outermost list with
  | zero =>
    cases list with
    | nil => exact .pure fun p q hpq => ⟨rfl, fun _ _ _ => rfl, hpq⟩
    | cons first rest =>
      have hpos := first.size_pos
      rw [sizes] at hn
      omega
  | succ n ih =>
    cases list with
    | nil => exact .pure fun p q hpq => ⟨rfl, fun _ _ _ => rfl, hpq⟩
    | cons first rest =>
      have hpos := first.size_pos
      rw [sizes] at hn
      have hfirst : Lockstep True Progress.Idle (s.pieceText n first)
          (first.leaves.mapM s.leafText) (Written first) := by
        cases first with
        | comparison g c => exact leaf_written rfl fun _ _ => rfl
        | fragment g f => exact leaf_written rfl fun _ _ => rfl
        | group g members =>
          rw [size] at hn
          have hmembers := (ih false (show sizes members ≤ n by omega)).bind
            (k := fun ps => Pure.pure (Piece.joined ps)) (l := Pure.pure)
            (L := Written (.group g members)) fun ps texts => .pure fun p q h =>
              ⟨h.1, fun text i hfits => congrArg Piece.joined (h.2.1 text i hfits), h.2.2⟩
          rw [bind_pure] at hmembers
          rw [pieceText, map_eq_pure_bind]
          exact hmembers
      rw [pieces_cons, leavesOf, List.mapM_append]
      -- The hook leaves the condition, and no condition waits behind it.
      refine .ahead (resolveCondition_idle hs first) ?_
      apply hfirst.bind
      intro sql texts p q hpq
      obtain ⟨hlength, hsql, hidle⟩ := hpq
      refine Lockstep.ahead (takenBy_idle outermost) ?_ p q hidle
      rw [List.append_nil]
      apply (ih outermost (show sizes rest ≤ n by omega)).bind
      intro others texts'
      refine .pure fun p q hpq => ?_
      obtain ⟨hlength', hothers, hidle⟩ := hpq
      refine ⟨?_, fun text i hfits => ?_, hidle⟩
      · rw [leavesOf, List.length_append, List.length_append, hlength, hlength']
      · obtain ⟨htexts, htexts'⟩ := hfits.append
        rw [hlength] at htexts'
        rw [piecesFrom, hsql text i htexts, hothers text _ htexts']

/-- What the text of a list means, by the texts of its leaves: it is spelled by tokens in which each
leaf that has a text is one atom, and which are read to the value of the list under every
assignment, to none if it is empty. -/
structure ReadsAs (list : List (Condition Query)) (texts : List String) (sql : String) : Prop where
  empty : sql = "" ↔ ∀ t ∈ texts, t = ""
  reading : ∃ tokens, Token.spell (texts.getD · "") tokens = sql ∧
    Token.atoms tokens = ((List.range texts.length).filter fun i => texts.getD i "" != "") ∧
    ∀ v, truth (texts.getD · "") v list = (Formula.read tokens).map (Formula.eval v)

theorem readsAs_joined {list : List (Condition Query)} {texts : List String}
    (hlength : texts.length = (leavesOf list).length) :
    ReadsAs list texts (Piece.joined (piecesFrom (texts.getD · "") 0 list)) := by
  have hblank := (Fits.getD [] texts).blank
  rw [hlength] at hblank
  cases meaning (texts.getD · "") 0 (.group .and list) with
  | blank hsql hnone hvalue =>
    refine ⟨⟨fun _ => hblank.1 hnone, fun _ => hsql⟩, [], hsql.symm, ?_, hvalue⟩
    rw [hlength, List.range_eq_range']
    exact hnone.filled.symm
  | @means tokens x hsql hsome hmeans hatoms hvalue =>
    obtain ⟨f, hread, heval⟩ := hmeans.sum.read
    refine ⟨⟨fun h => absurd h hsql, fun h => absurd (hblank.2 h) hsome⟩, tokens, hmeans.spell, ?_,
      fun v => ?_⟩
    · rw [hlength, List.range_eq_range']
      exact hatoms
    rw [hread, Option.map_some, heval]
    exact hvalue v

/-- Where the resolver leaves conditions as they are, a list is rendered as its leaves are, one
after the other from left to right, and its text means what the list means; or both fail for the
same cause. -/
theorem conditions_readsAs (hs : s.Unhooked) (list : List (Condition Query)) {p : Progress σ}
    (hp : p.pending = []) :
    InStep True
      (fun sql texts p' q => ReadsAs list texts sql ∧ texts.length = (leavesOf list).length ∧
        Progress.Idle p' q)
      (s.conditions list p) ((leavesOf list).mapM s.leafText p) := by
  have hpieces := (pieces_written hs (sizes list + s.compiler.limits.growth) true
    (Nat.le_add_right ..)).bind (k := fun ps => Pure.pure (Piece.joined ps)) (l := Pure.pure)
    (L := fun sql texts p' q => ReadsAs list texts sql ∧
      texts.length = (leavesOf list).length ∧ Progress.Idle p' q) fun ps texts =>
        .pure fun p' q h => ⟨?_, h.1, h.2.2⟩
  · rw [bind_pure] at hpieces
    rw [conditions, map_eq_pure_bind]
    exact hpieces p p ⟨rfl, rfl, hp, hp⟩
  · rw [h.2.1 _ 0 (Fits.getD [] texts)]
    exact readsAs_joined h.1

/-- Conditions in which a lone group and an empty one stand inside others. -/
def tenancy : List (Condition Query) :=
  [.compare "tenant" "=" (.value (.text "t")), .group .or [],
    .group .and [.group .and [.compare "a" "=" (.value (.text "x")),
      (Condition.compare "b" "=" (.value (.text "y"))).withGlue .or]]]

theorem tenancy_readsAs : ∃ texts, ReadsAs tenancy texts "tenant = ? AND (a = ? OR b = ?)" := by
  have htext : (((Compiler.ofDialect .mysql).scope (Query.empty .select)).conditions tenancy).run'
      ⟨none, [], [], []⟩ = some "tenant = ? AND (a = ? OR b = ?)" := by cbv
  rw [EStateM.run', EStateM.run] at htext
  have hmeans := conditions_readsAs (s := (Compiler.ofDialect .mysql).scope (Query.empty .select))
    (fun _ => rfl) tenancy (p := ⟨none, [], [], []⟩) rfl
  cases hrun : ((Compiler.ofDialect .mysql).scope (Query.empty .select)).conditions tenancy
      ⟨none, [], [], []⟩ with
  | ok sql p =>
    rw [hrun] at htext
    obtain ⟨texts, _, _, h⟩ := hmeans.of_ok hrun
    exact ⟨texts, Option.some.inj htext ▸ h.1⟩
  | error e p =>
    rw [hrun] at htext
    cases htext

end Scope

end ParamSql
