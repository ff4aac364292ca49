import Mathlib.Data.List.Forall2
import ParamSql.Proofs.Formula
import ParamSql.Proofs.Guided

namespace ParamSql

namespace Condition

variable {Q : Type}

mutual

/-- The comparisons and fragments of a condition, at all depths, from left to right. -/
def leaves : Condition Q → List (Condition Q)
  | comparison g c => [comparison g c]
  | group _ members => leavesOf members
  | fragment g f => [fragment g f]

def leavesOf : List (Condition Q) → List (Condition Q)
  | [] => []
  | first :: rest => leaves first ++ leavesOf rest

end

mutual

/-- The value of a condition whose first leaf has the given number, if it is not empty: of a group
that of its list, AND before OR. -/
def value (text : Nat → String) (v : Nat → Bool) : Nat → Condition Q → Option Bool
  | i, comparison _ _ => if text i = "" then none else some (v i)
  | i, group _ members => Glue.combined (valuesFrom text v i members)
  | i, fragment _ _ => if text i = "" then none else some (v i)

/-- The values of the members of a list that are not empty, each with its glue. -/
def valuesFrom (text : Nat → String) (v : Nat → Bool) :
    Nat → List (Condition Q) → List (Glue × Bool)
  | _, [] => []
  | i, first :: rest =>
    match value text v i first with
    | none => valuesFrom text v (i + first.leaves.length) rest
    | some b => (first.glue, b) :: valuesFrom text v (i + first.leaves.length) rest

end

/-- The value of a list of conditions, by the texts of its leaves and their truth values. -/
def truth (text : Nat → String) (v : Nat → Bool) (list : List (Condition Q)) : Option Bool :=
  Glue.combined (valuesFrom text v 0 list)

mutual

/-- The text of a condition whose first leaf has the given number. -/
def written (text : Nat → String) : Nat → Condition Query → String
  | i, comparison _ _ => text i
  | i, group _ members => Piece.joined (piecesFrom text i members)
  | i, fragment _ _ => text i

def piecesFrom (text : Nat → String) : Nat → List (Condition Query) → List Piece
  | _, [] => []
  | i, first :: rest =>
    ⟨first.glue, written text i first, Scope.isGroup first⟩ ::
      piecesFrom text (i + first.leaves.length) rest

end

end Condition

/-- As many leaves as given have no text. -/
def Blank (text : Nat → String) (i n : Nat) : Prop :=
  ∀ j < n, text (i + j) = ""

theorem Blank.add {text : Nat → String} {i m n : Nat} :
    Blank text i (m + n) ↔ Blank text i m ∧ Blank text (i + m) n := by
  constructor
  · intro h
    refine ⟨fun j hj => h j (by omega), fun j hj => ?_⟩
    rw [Nat.add_assoc]
    exact h (m + j) (by omega)
  · rintro ⟨hm, hn⟩ j hj
    by_cases hlt : j < m
    · exact hm j hlt
    · have hrest := hn (j - m) (by omega)
      rwa [show i + m + (j - m) = i + j by omega] at hrest

/-- The numbers of the leaves that have a text, among as many as given. -/
def filled (text : Nat → String) (i n : Nat) : List Nat :=
  (List.range' i n).filter fun j => text j != ""

theorem filled_add (text : Nat → String) (i m n : Nat) :
    filled text i (m + n) = filled text i m ++ filled text (i + m) n := by
  rw [filled, filled, filled, ← List.filter_append, List.range'_append_1]

theorem Blank.filled {text : Nat → String} {i n : Nat} (h : Blank text i n) :
    filled text i n = [] := by
  rw [ParamSql.filled, List.filter_eq_nil_iff]
  intro j hj
  obtain ⟨hle, hlt⟩ := List.mem_range'_1.1 hj
  have htext := h (j - i) (by omega)
  rw [Nat.add_sub_cancel' hle] at htext
  simp [htext]

/-- A text and its tokens, which are a sum, and a factor unless they are those of a group. -/
structure Means (text : Nat → String) (isGroup : Bool) (sql : String) (tokens : List Token)
    (value : (Nat → Bool) → Bool) : Prop where
  spell : Token.spell text tokens = sql
  sum : IsSum tokens value
  factor : isGroup = false → IsFactor tokens value

/-- A piece that is not empty, and the member that it writes. -/
structure PieceMeans (text : Nat → String) (piece : Piece) (m : Member) : Prop where
  glue : piece.glue = m.glue
  nonempty : piece.text ≠ ""
  means : Means text piece.isGroup piece.text m.tokens m.value

namespace Piece

variable {text : Nat → String} {ps : List Piece} {ms : List Member}

/-- The member that a piece writes among others. -/
def among (piece : Piece) (m : Member) : Member :=
  { m with tokens := if piece.isGroup then .opening :: m.tokens ++ [.closing] else m.tokens }

theorem atoms_among (piece : Piece) (m : Member) :
    Token.atoms (piece.among m).tokens = Token.atoms m.tokens := by
  unfold among
  split
  · rw [List.cons_append]
    change Token.atoms (m.tokens ++ [.closing]) = _
    rw [Token.atoms_append]
    exact List.append_nil _
  · rfl

theorem among_means {piece : Piece} {m : Member} (h : PieceMeans text piece m) :
    Token.spell text (piece.among m).tokens = piece.shown false ∧
      IsFactor (piece.among m).tokens m.value := by
  unfold among shown
  cases hgroup : piece.isGroup with
  | true =>
    refine ⟨?_, h.means.sum.parenthesized⟩
    simp only [List.cons_append, Token.spell, Token.spell_append, Token.text, h.means.spell,
      String.append_empty, Bool.not_false, Bool.and_self, if_true, String.append_assoc]
  | false => exact ⟨h.means.spell, h.means.factor hgroup⟩

theorem glued_means (h : List.Forall₂ (PieceMeans text) ps ms) :
    ∃ ns, (∀ n ∈ ns, IsFactor n.tokens n.value) ∧
      Token.spell text (Member.glued ns) = glued (ps.map fun p => (p.glue, p.shown false)) ∧
      Token.atoms (Member.glued ns) = Member.atoms ms ∧
      ∀ v, Member.values v ns = Member.values v ms := by
  induction h with
  | nil => exact ⟨[], nofun, rfl, rfl, fun _ => rfl⟩
  | @cons p m ps ms hpm _ ih =>
    obtain ⟨ns, hfactors, hspell, hatoms, hvalues⟩ := ih
    obtain ⟨hshown, hfactor⟩ := among_means hpm
    refine ⟨p.among m :: ns, List.forall_mem_cons.2 ⟨hfactor, hfactors⟩, ?_, ?_, fun v => ?_⟩
    · rw [Member.glued, List.cons_append, Token.spell, Token.spell_append, hspell, hshown,
        List.map_cons, glued, hpm.glue, ← String.append_assoc]
      rfl
    · change Token.atoms ((p.among m).tokens ++ Member.glued ns) = _
      rw [Token.atoms_append, atoms_among, hatoms]
      rfl
    · exact congrArg ((m.glue, m.value v) :: ·) (hvalues v)

/-- The pieces of a list that are not empty. -/
def shownOf (ps : List Piece) : List Piece :=
  ps.filter fun p => p.text != ""

theorem joined_of_nil (h : shownOf ps = []) : joined ps = "" := by
  rw [joined]
  rw [show (ps.filter fun p => p.text != "") = [] from h]
  rfl

theorem joined_of_cons {p : Piece} {rest : List Piece} (h : shownOf ps = p :: rest) :
    joined ps = p.shown (ps.length ≤ 1) ++
      glued (rest.map fun p => (p.glue, p.shown (ps.length ≤ 1))) := by
  rw [joined]
  rw [show (ps.filter fun p => p.text != "") = p :: rest from h]
  rfl

theorem shown_ne_empty {piece : Piece} (h : piece.text ≠ "") (alone : Bool) :
    piece.shown alone ≠ "" := by
  unfold shown
  split
  · intro hempty
    have hlist := congrArg String.toList hempty
    rw [String.toList_append, String.toList_append] at hlist
    exact absurd hlist (by simp)
  · exact h

/-- A list in which not all pieces are empty is written by the tokens of its members. A lone group
stands without parentheses. -/
theorem joined_means {m : Member} (h : List.Forall₂ (PieceMeans text) (shownOf ps) (m :: ms)) :
    joined ps ≠ "" ∧ ∃ tokens, Token.spell text tokens = joined ps ∧
      Token.atoms tokens = Member.atoms (m :: ms) ∧
      IsSum tokens fun v => Glue.combine (m.value v) (Member.values v ms) := by
  generalize hshown : shownOf ps = shownPieces at h
  cases h with
  | @cons p _ rest _ hp hrest =>
    have hjoined := joined_of_cons hshown
    refine ⟨fun hempty => ?_, ?_⟩
    · rw [hjoined] at hempty
      have hlist := congrArg String.toList hempty
      rw [String.toList_append] at hlist
      exact shown_ne_empty hp.nonempty _
        (String.toList_eq_nil_iff.1 (List.append_eq_nil_iff.1 hlist).1)
    · by_cases halone : ps.length ≤ 1
      · have hlength : (p :: rest).length ≤ 1 :=
          hshown ▸ Nat.le_trans (List.length_filter_le _ _) halone
        obtain rfl : rest = [] :=
          List.length_eq_zero_iff.1 (Nat.le_zero.1 (Nat.le_of_succ_le_succ hlength))
        cases hrest
        refine ⟨m.tokens, ?_, (List.append_nil _).symm, hp.means.sum⟩
        rw [hjoined, hp.means.spell, decide_eq_true halone, shown]
        simp [glued]
      · obtain ⟨ns, hfactors, hspell, hatoms, hvalues⟩ := glued_means hrest
        obtain ⟨hfirst, hfactor⟩ := among_means hp
        refine ⟨Member.chain (p.among m :: ns), ?_, ?_, ?_⟩
        · rw [hjoined, decide_eq_false halone, Member.chain, Token.spell_append, hfirst, hspell]
        · rw [Member.chain, Token.atoms_append, atoms_among, hatoms]
          rfl
        · have hsum := Member.isSum_chain (List.forall_mem_cons.2 ⟨hfactor, hfactors⟩)
          simp only [hvalues] at hsum
          exact hsum

end Piece

namespace Condition

variable {text : Nat → String}

/-- What the text of a condition means, unless it is empty. -/
inductive Meaning (text : Nat → String) (i : Nat) (c : Condition Query) : Prop
  | blank (hsql : written text i c = "") (hblank : Blank text i c.leaves.length)
    (hvalue : ∀ v, value text v i c = none)
  | means {tokens : List Token} {x : (Nat → Bool) → Bool} (hsql : written text i c ≠ "")
    (hblank : ¬ Blank text i c.leaves.length)
    (hmeans : Means text (Scope.isGroup c) (written text i c) tokens x)
    (hatoms : Token.atoms tokens = filled text i c.leaves.length)
    (hvalue : ∀ v, value text v i c = some (x v))

theorem meaning_of_leaf {i : Nat} {c : Condition Query} (hsql : written text i c = text i)
    (hleaves : c.leaves.length = 1)
    (hvalue : ∀ v, value text v i c = if text i = "" then none else some (v i)) :
    Meaning text i c := by
  have hblank : Blank text i c.leaves.length ↔ text i = "" := by
    rw [hleaves]
    exact ⟨fun h => h 0 Nat.zero_lt_one, fun h j hj => by rwa [Nat.lt_one_iff.1 hj]⟩
  by_cases htext : text i = ""
  · exact .blank (hsql.trans htext) (hblank.2 htext) fun v => (hvalue v).trans (if_pos htext)
  · have hspell : Token.spell text [.atom i] = written text i c := by
      rw [hsql, Token.spell, Token.spell, Token.text, String.append_empty]
    have hmeans : Means text (Scope.isGroup c) (written text i c) [.atom i] fun v => v i :=
      ⟨hspell, (IsFactor.atom i).isSum, fun _ => .atom i⟩
    have hfilled : filled text i 1 = [i] := List.filter_cons_of_pos (bne_iff_ne.2 htext)
    have hatoms : Token.atoms [.atom i] = filled text i c.leaves.length := by
      rw [hleaves, hfilled]
      rfl
    exact .means (by rwa [hsql]) (fun h => htext (hblank.1 h)) hmeans hatoms
      fun v => (hvalue v).trans (if_neg htext)

mutual

theorem meaning (text : Nat → String) : ∀ (i : Nat) (c : Condition Query), Meaning text i c
  | _, .comparison _ _ => meaning_of_leaf rfl rfl fun _ => rfl
  | _, .fragment _ _ => meaning_of_leaf rfl rfl fun _ => rfl
  | i, .group g list => by
    obtain ⟨ms, hpieces, hvalues, hatoms, hblank⟩ := meanings text i list
    have hvalue (v) : value text v i (.group g list) = Glue.combined (Member.values v ms) :=
      congrArg Glue.combined (hvalues v)
    cases ms with
    | nil =>
      have hnone := List.forall₂_nil_right_iff.1 hpieces
      exact .blank (Piece.joined_of_nil hnone) (hblank.1 rfl) fun v => hvalue v
    | cons m ms =>
      obtain ⟨hsql, tokens, hspell, htokens, hsum⟩ := Piece.joined_means hpieces
      exact .means hsql (fun h => nomatch hblank.2 h) ⟨hspell, hsum, nofun⟩ (htokens.trans hatoms)
        fun v => hvalue v

theorem meanings (text : Nat → String) : ∀ (i : Nat) (list : List (Condition Query)),
    ∃ ms, List.Forall₂ (PieceMeans text) (Piece.shownOf (piecesFrom text i list)) ms ∧
      (∀ v, valuesFrom text v i list = Member.values v ms) ∧
      Member.atoms ms = filled text i (leavesOf list).length ∧
      (ms = [] ↔ Blank text i (leavesOf list).length)
  | _, [] => ⟨[], .nil, fun _ => rfl, rfl,
      ⟨fun _ _ hj => absurd hj (Nat.not_lt_zero _), fun _ => rfl⟩⟩
  | i, first :: rest => by
    obtain ⟨ms, hpieces, hvalues, hatoms, hblank⟩ := meanings text (i + first.leaves.length) rest
    have hleaves : Blank text i (leavesOf (first :: rest)).length ↔
        Blank text i first.leaves.length ∧
          Blank text (i + first.leaves.length) (leavesOf rest).length := by
      rw [leavesOf, List.length_append]
      exact Blank.add
    have hfilled : filled text i (leavesOf (first :: rest)).length =
        filled text i first.leaves.length ++
          filled text (i + first.leaves.length) (leavesOf rest).length := by
      rw [leavesOf, List.length_append, filled_add]
    -- A condition without text is no member, so its glue is dropped with it.
    cases meaning text i first with
    | blank hsql hfirst hvalue =>
      refine ⟨ms, ?_, fun v => ?_, ?_, ?_⟩
      · rw [piecesFrom, Piece.shownOf, List.filter_cons_of_neg (by simpa using hsql)]
        exact hpieces
      · rw [valuesFrom, hvalue]
        exact hvalues v
      · rw [hfilled, hfirst.filled, hatoms, List.nil_append]
      · rw [hleaves, hblank]
        exact ⟨fun h => ⟨hfirst, h⟩, And.right⟩
    | @means tokens x hsql hfirst hmeans htokens hvalue =>
      refine ⟨⟨first.glue, tokens, x⟩ :: ms, ?_, fun v => ?_, ?_, ?_⟩
      · rw [piecesFrom, Piece.shownOf, List.filter_cons_of_pos (by simpa using hsql)]
        exact .cons ⟨rfl, hsql, hmeans⟩ hpieces
      · rw [valuesFrom, hvalue]
        exact congrArg ((first.glue, x v) :: ·) (hvalues v)
      · rw [hfilled, ← htokens, ← hatoms]
        rfl
      · rw [hleaves]
        exact ⟨nofun, fun h => absurd h.1 hfirst⟩

end

end Condition

end ParamSql
