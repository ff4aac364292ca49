import ParamSql.Proofs.Formula

namespace ParamSql

inductive Ternary
  | no
  | unknown
  | yes
  deriving DecidableEq, Repr

namespace Ternary

def ofBool (b : Bool) : Ternary :=
  if b then yes else no

def neg : Ternary → Ternary
  | no => yes
  | unknown => unknown
  | yes => no

def and : Ternary → Ternary → Ternary
  | no, _ | _, no => no
  | yes, yes => yes
  | _, _ => unknown

def or : Ternary → Ternary → Ternary
  | yes, _ | _, yes => yes
  | no, no => no
  | _, _ => unknown

@[simp] theorem neg_neg (a : Ternary) : a.neg.neg = a := by
  cases a <;> rfl

theorem neg_and (a b : Ternary) : (a.and b).neg = a.neg.or b.neg := by
  cases a <;> cases b <;> rfl

theorem neg_or (a b : Ternary) : (a.or b).neg = a.neg.and b.neg := by
  cases a <;> cases b <;> rfl

theorem neg_eq_yes {a : Ternary} : a.neg = yes ↔ a = no := by
  cases a <;> simp [neg]

theorem ofBool_eq_yes {b : Bool} : ofBool b = yes ↔ b = true := by
  cases b <;> simp [ofBool]

theorem ofBool_eq_no {b : Bool} : ofBool b = no ↔ b = false := by
  cases b <;> simp [ofBool]

theorem and_eq_yes {a b : Ternary} : a.and b = yes ↔ a = yes ∧ b = yes := by
  cases a <;> cases b <;> simp [and]

theorem or_eq_yes {a b : Ternary} : a.or b = yes ↔ a = yes ∨ b = yes := by
  cases a <;> cases b <;> simp [or]

theorem or_eq_no {a b : Ternary} : a.or b = no ↔ a = no ∧ b = no := by
  cases a <;> cases b <;> simp [or]

theorem foldl_or_eq_yes {α : Type} (f : α → Ternary) (as : List α) (t : Ternary) :
    as.foldl (fun t a => t.or (f a)) t = yes ↔ t = yes ∨ ∃ a ∈ as, f a = yes := by
  induction as generalizing t with
  | nil => simp
  | cons a as ih =>
    rw [List.foldl_cons, ih, or_eq_yes, or_assoc]
    simp only [List.mem_cons, exists_eq_or_imp]

theorem foldl_or_eq_no {α : Type} (f : α → Ternary) (as : List α) (t : Ternary) :
    as.foldl (fun t a => t.or (f a)) t = no ↔ t = no ∧ ∀ a ∈ as, f a = no := by
  induction as generalizing t with
  | nil => simp
  | cons a as ih => rw [List.foldl_cons, ih, or_eq_no, List.forall_mem_cons, and_assoc]

end Ternary

namespace Glue

/-- The glue of the negated operands, where the whole is negated. -/
def dual : Glue → Glue
  | and => or
  | or => and

def ternary : Glue → Ternary → Ternary → Ternary
  | and => Ternary.and
  | or => Ternary.or

def join : Glue → Formula → Formula → Formula
  | and => .both
  | or => .either

theorem neg_ternary (g : Glue) (a b : Ternary) :
    (g.ternary a b).neg = g.dual.ternary a.neg b.neg := by
  cases g with
  | and => exact a.neg_and b
  | or => exact a.neg_or b

end Glue

namespace Formula

def ternary (v : Nat → Ternary) : Formula → Ternary
  | atom i => v i
  | both f g => (f.ternary v).and (g.ternary v)
  | either f g => (f.ternary v).or (g.ternary v)

theorem ternary_join (v : Nat → Ternary) (g : Glue) (f h : Formula) :
    (g.join f h).ternary v = g.ternary (f.ternary v) (h.ternary v) := by
  cases g <;> rfl

theorem ternary_foldl_join (v : Nat → Ternary) (g : Glue) (f : Formula) (atoms : List Nat) :
    (atoms.foldl (fun f i => g.join f (.atom i)) f).ternary v =
      (atoms.map v).foldl g.ternary (f.ternary v) := by
  induction atoms generalizing f with
  | nil => rfl
  | cons i atoms ih =>
    rw [List.foldl_cons, ih, ternary_join, List.map_cons, List.foldl_cons, ternary]

end Formula

namespace Token

/-- Atoms, each behind the same glue. -/
def behind (g : Glue) (atoms : List Nat) : List Token :=
  atoms.flatMap fun i => [.glue g, .atom i]

/-- Atoms with the same glue between them, in parentheses unless there is one alone. -/
def chained (g : Glue) (first : Nat) (rest : List Nat) : List Token :=
  if rest.isEmpty then [.atom first]
  else .opening :: .atom first :: behind g rest ++ [.closing]

theorem atoms_behind (g : Glue) (is : List Nat) : atoms (behind g is) = is := by
  induction is with
  | nil => rfl
  | cons i is ih => exact congrArg (i :: ·) ih

theorem atoms_chained (g : Glue) (first : Nat) (rest : List Nat) :
    atoms (chained g first rest) = first :: rest := by
  unfold chained
  split
  · rename_i hrest
    rw [List.isEmpty_iff.1 hrest]
    rfl
  · rw [List.cons_append, List.cons_append]
    change first :: atoms (behind g rest ++ [.closing]) = _
    rw [atoms_append, atoms_behind]
    exact congrArg _ (List.append_nil rest)

theorem spell_behind (text : Nat → String) (g : Glue) (first : Nat) (rest : List Nat) :
    spell text (.atom first :: behind g rest) =
      (" " ++ g.sql ++ " ").intercalate ((first :: rest).map text) := by
  induction rest generalizing first with
  | nil =>
    rw [List.map_cons, List.map_nil, String.intercalate_singleton]
    exact String.append_empty
  | cons i rest ih =>
    rw [List.map_cons, List.map_cons, String.intercalate_cons_cons, ← List.map_cons, ← ih,
      String.append_assoc]
    rfl

theorem spell_chained (text : Nat → String) (g : Glue) (first : Nat) (rest : List Nat) :
    spell text (chained g first rest) =
      if rest.isEmpty then text first
      else "(" ++ (" " ++ g.sql ++ " ").intercalate ((first :: rest).map text) ++ ")" := by
  unfold chained
  split
  · exact String.append_empty
  · rw [spell_append, spell, spell_behind, spell, spell, String.append_empty]
    rfl

end Token

namespace Reading

/-- Behind an operand, atoms with the same glue are joined to it one after the other. Behind an AND,
a sum would have to be in parentheses. -/
theorem run_behind (g : Glue) (atoms : List Nat) (f : Formula) (c : Context)
    (hc : g = .and → c.sum = none) :
    ∃ f' c', (∀ outer, (operator f c outer).run (Token.behind g atoms) =
        some (operator f' c' outer)) ∧
      Context.close c' f' = atoms.foldl (fun f i => g.join f (.atom i)) (c.close f) := by
  induction atoms generalizing f c with
  | nil => exact ⟨f, c, fun _ => rfl, rfl⟩
  | cons i atoms ih =>
    cases g with
    | or =>
      obtain ⟨f', c', hrun, hclose⟩ := ih (.atom i) ⟨some (c.close f), none⟩ nofun
      exact ⟨f', c', hrun, hclose⟩
    | and =>
      have hsum : c.sum = none := hc rfl
      obtain ⟨f', c', hrun, hclose⟩ := ih (.atom i) { c with product := some (c.times f) }
        fun _ => hsum
      refine ⟨f', c', hrun, ?_⟩
      have hfirst : Context.close { c with product := some (c.times f) } (.atom i) =
          .both (c.close f) (.atom i) := by
        simp only [Context.close, hsum]
        rfl
      rw [hclose, hfirst]
      rfl

end Reading

theorem Formula.read_chained (g : Glue) (first : Nat) (rest : List Nat) :
    read (Token.chained g first rest) =
      some (rest.foldl (fun f i => g.join f (.atom i)) (.atom first)) := by
  unfold Token.chained
  split
  · rename_i hrest
    rw [List.isEmpty_iff.1 hrest]
    rfl
  · obtain ⟨f, c, hrun, hclose⟩ := Reading.run_behind g rest (.atom first) {} fun _ => rfl
    have hread : (Reading.operand {} []).run
        (.opening :: .atom first :: Token.behind g rest ++ [.closing]) =
        some (.operator (c.close f) {} []) := by
      rw [List.cons_append, List.cons_append]
      change (Reading.operator (.atom first) {} [{}]).run (Token.behind g rest ++ [.closing]) = _
      rw [Reading.run_append, hrun]
      rfl
    rw [read, hread, hclose]
    rfl

end ParamSql
