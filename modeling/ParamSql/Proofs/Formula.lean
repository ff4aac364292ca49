import ParamSql.Statement.Condition

namespace ParamSql

inductive Formula
  | atom (i : Nat)
  | both (f g : Formula)
  | either (f g : Formula)
  deriving DecidableEq, Repr

def Formula.eval (v : Nat → Bool) : Formula → Bool
  | atom i => v i
  | both f g => f.eval v && g.eval v
  | either f g => f.eval v || g.eval v

/-- A piece of boolean text. -/
inductive Token
  | atom (i : Nat)
  | glue (g : Glue)
  | opening
  | closing
  deriving DecidableEq, Repr

namespace Token

/-- A token as it is written, with the given texts for the atoms. -/
def text (atoms : Nat → String) : Token → String
  | atom i => atoms i
  | glue g => " " ++ g.sql ++ " "
  | opening => "("
  | closing => ")"

/-- Tokens as they are written, one after the other. -/
def spell (atoms : Nat → String) : List Token → String
  | [] => ""
  | token :: tokens => token.text atoms ++ spell atoms tokens

def atoms (tokens : List Token) : List Nat :=
  tokens.filterMap fun
    | atom i => some i
    | _ => none

theorem atoms_append (tokens others : List Token) :
    atoms (tokens ++ others) = atoms tokens ++ atoms others :=
  List.filterMap_append

theorem spell_append (atoms : Nat → String) (tokens others : List Token) :
    spell atoms (tokens ++ others) = spell atoms tokens ++ spell atoms others := by
  induction tokens with
  | nil => rw [List.nil_append, spell, String.empty_append]
  | cons token tokens ih => rw [List.cons_append, spell, spell, ih, String.append_assoc]

end Token

/-- What stands before an operand between the same parentheses: the products before the last OR, and
the factors before it in its own product. -/
structure Context where
  sum : Option Formula := none
  product : Option Formula := none

namespace Context

/-- The product of an operand, as far as it. -/
def times (c : Context) (f : Formula) : Formula :=
  match c.product with
  | none => f
  | some g => .both g f

/-- The sum of products, as far as an operand. -/
def close (c : Context) (f : Formula) : Formula :=
  match c.sum with
  | none => c.times f
  | some g => .either g (c.times f)

/-- The value of the products before the last OR. -/
def sumValue (c : Context) (v : Nat → Bool) : Bool :=
  match c.sum with
  | none => false
  | some g => g.eval v

theorem eval_close (c : Context) (f : Formula) (v : Nat → Bool) :
    (c.close f).eval v = (c.sumValue v || (c.times f).eval v) := by
  unfold close sumValue
  cases c.sum <;> rfl

end Context

/-- A reader before an operand or behind one, with the contexts of the open parentheses. -/
inductive Reading
  | operand (c : Context) (outer : List Context)
  | operator (f : Formula) (c : Context) (outer : List Context)

namespace Reading

/-- Reads one token, if it may stand here. -/
def step : Reading → Token → Option Reading
  | operand c outer, .atom i => some (operator (.atom i) c outer)
  | operand c outer, .opening => some (operand {} (c :: outer))
  | operator f c outer, .glue .and => some (operand { c with product := some (c.times f) } outer)
  | operator f c outer, .glue .or => some (operand ⟨some (c.close f), none⟩ outer)
  | operator f c (o :: outer), .closing => some (operator (c.close f) o outer)
  | _, _ => none

/-- Reads tokens one after the other. -/
def run : Reading → List Token → Option Reading
  | r, [] => some r
  | r, token :: tokens => (r.step token).bind fun r => run r tokens

theorem run_append (r : Reading) (tokens others : List Token) :
    r.run (tokens ++ others) = (r.run tokens).bind fun r => r.run others := by
  induction tokens generalizing r with
  | nil => rfl
  | cons token tokens ih =>
    rw [List.cons_append, run, run]
    cases r.step token with
    | none => rfl
    | some r => exact ih r

end Reading

/-- The formula that tokens say, if all parentheses are closed and no operand is missing. -/
def Formula.read (tokens : List Token) : Option Formula :=
  match (Reading.operand {} []).run tokens with
  | some (.operator f c []) => some (c.close f)
  | _ => none

/-- Tokens that are read as one operand of the given value wherever an operand may stand. -/
def IsFactor (tokens : List Token) (value : (Nat → Bool) → Bool) : Prop :=
  ∃ f : Formula, (∀ v, f.eval v = value v) ∧
    ∀ c outer, (Reading.operand c outer).run tokens = some (.operator f c outer)

/-- Tokens that are read as a sum of products of the given value between parentheses. -/
def IsSum (tokens : List Token) (value : (Nat → Bool) → Bool) : Prop :=
  ∃ (f : Formula) (c : Context), (∀ v, (c.close f).eval v = value v) ∧
    ∀ outer, (Reading.operand {} outer).run tokens = some (.operator f c outer)

theorem IsFactor.atom (i : Nat) : IsFactor [.atom i] fun v => v i :=
  ⟨.atom i, fun _ => rfl, fun _ _ => rfl⟩

theorem IsFactor.isSum {tokens : List Token} {value : (Nat → Bool) → Bool}
    (h : IsFactor tokens value) : IsSum tokens value := by
  obtain ⟨f, hvalue, hrun⟩ := h
  exact ⟨f, {}, hvalue, hrun {}⟩

namespace IsSum

variable {tokens : List Token} {value : (Nat → Bool) → Bool}

theorem parenthesized (h : IsSum tokens value) :
    IsFactor (.opening :: tokens ++ [.closing]) value := by
  obtain ⟨f, c, hvalue, hrun⟩ := h
  refine ⟨c.close f, hvalue, fun o outer => ?_⟩
  rw [List.cons_append, Reading.run]
  change Reading.run (.operand {} (o :: outer)) (tokens ++ [.closing]) = _
  rw [Reading.run_append, hrun]
  rfl

theorem read (h : IsSum tokens value) :
    ∃ f, Formula.read tokens = some f ∧ ∀ v, f.eval v = value v := by
  obtain ⟨f, c, hvalue, hrun⟩ := h
  exact ⟨c.close f, by rw [Formula.read, hrun], hvalue⟩

end IsSum

/-- The value of a sum of products, from the value of the product at hand. -/
def Glue.combine (b : Bool) : List (Glue × Bool) → Bool
  | [] => b
  | (.and, x) :: rest => combine (b && x) rest
  | (.or, x) :: rest => b || combine x rest

/-- The value of a list of values, each with its glue: AND before OR. The first glue does not
count. -/
def Glue.combined : List (Glue × Bool) → Option Bool
  | [] => none
  | (_, x) :: rest => some (combine x rest)

/-- A member of a list: its glue, the tokens it is written by, and its value. -/
structure Member where
  glue : Glue
  tokens : List Token
  value : (Nat → Bool) → Bool

namespace Member

def glued : List Member → List Token
  | [] => []
  | m :: rest => .glue m.glue :: m.tokens ++ glued rest

/-- The tokens of members with the glue between them. -/
def chain : List Member → List Token
  | [] => []
  | m :: rest => m.tokens ++ glued rest

def atoms (ms : List Member) : List Nat :=
  ms.flatMap fun m => Token.atoms m.tokens

def values (v : Nat → Bool) (ms : List Member) : List (Glue × Bool) :=
  ms.map fun m => (m.glue, m.value v)

/-- Behind an operand, glued members are read as the rest of its sum of products. -/
theorem run_glued {ms : List Member} (h : ∀ m ∈ ms, IsFactor m.tokens m.value) (f : Formula)
    (c : Context) :
    ∃ (g : Formula) (d : Context),
      (∀ outer, (Reading.operator f c outer).run (glued ms) = some (.operator g d outer)) ∧
      ∀ v, (d.close g).eval v =
        (c.sumValue v || Glue.combine ((c.times f).eval v) (values v ms)) := by
  induction ms generalizing f c with
  | nil => exact ⟨f, c, fun _ => rfl, c.eval_close f⟩
  | cons m ms ih =>
    rw [List.forall_mem_cons] at h
    obtain ⟨⟨x, hx, hrun⟩, hrest⟩ := h
    obtain ⟨glue, tokens, value⟩ := m
    simp only at hx hrun
    have hstep {o : Context} (hglue : ∀ outer,
        (Reading.operator f c outer).step (.glue glue) = some (.operand o outer)) (outer) :
        (Reading.operator f c outer).run (glued (⟨glue, tokens, value⟩ :: ms)) =
          (Reading.operator x o outer).run (glued ms) := by
      rw [glued, List.cons_append, Reading.run, hglue]
      change Reading.run (.operand o outer) (tokens ++ glued ms) = _
      rw [Reading.run_append, hrun]
      rfl
    cases glue with
    | and =>
      -- The operand becomes a factor of the product at hand.
      obtain ⟨g, d, hread, hvalue⟩ := ih hrest x { c with product := some (c.times f) }
      refine ⟨g, d, fun outer => (hstep (fun _ => rfl) outer).trans (hread outer), fun v => ?_⟩
      rw [hvalue]
      change (c.sumValue v || Glue.combine ((c.times f).eval v && x.eval v) (values v ms)) =
        (c.sumValue v || Glue.combine ((c.times f).eval v && value v) (values v ms))
      rw [hx]
    | or =>
      -- The product at hand is closed, and a new one begins.
      obtain ⟨g, d, hread, hvalue⟩ := ih hrest x ⟨some (c.close f), none⟩
      refine ⟨g, d, fun outer => (hstep (fun _ => rfl) outer).trans (hread outer), fun v => ?_⟩
      rw [hvalue]
      change ((c.close f).eval v || Glue.combine (x.eval v) (values v ms)) =
        (c.sumValue v || ((c.times f).eval v || Glue.combine (value v) (values v ms)))
      rw [c.eval_close, hx, Bool.or_assoc]

theorem isSum_chain {m : Member} {ms : List Member}
    (h : ∀ n ∈ m :: ms, IsFactor n.tokens n.value) :
    IsSum (chain (m :: ms)) fun v => Glue.combine (m.value v) (values v ms) := by
  rw [List.forall_mem_cons] at h
  obtain ⟨⟨x, hx, hrun⟩, hrest⟩ := h
  obtain ⟨g, d, hread, hvalue⟩ := run_glued hrest x {}
  refine ⟨g, d, fun v => ?_, fun outer => ?_⟩
  · rw [hvalue]
    change (false || Glue.combine (x.eval v) (values v ms)) = _
    rw [hx, Bool.false_or]
  · rw [chain, Reading.run_append, hrun]
    exact hread outer

end Member

end ParamSql
