import ParamSql.Compile.Comparison

namespace ParamSql

structure Piece where
  glue : Glue
  text : String
  isGroup : Bool
  deriving DecidableEq, Repr

namespace Piece

/-- The piece as it stands among others, or alone. -/
def shown (alone : Bool) (piece : Piece) : String :=
  if piece.isGroup && !alone then "(" ++ piece.text ++ ")" else piece.text

/-- Texts, each behind its glue. -/
def glued : List (Glue × String) → String
  | [] => ""
  | (glue, text) :: rest => " " ++ glue.sql ++ " " ++ text ++ glued rest

/-- Texts with the glue between them. The first has nothing to be tied to. -/
def chain : List (Glue × String) → String
  | [] => ""
  | (_, text) :: rest => text ++ glued rest

def joined (pieces : List Piece) : String :=
  let alone := pieces.length ≤ 1
  chain ((pieces.filter fun piece => piece.text != "").map
    fun piece => (piece.glue, piece.shown alone))

end Piece

namespace Scope

variable {σ : Type}

/-- A condition as the resolver wants it. The conditions that it adds wait for the end of the
list. -/
def resolveCondition (s : Scope σ) (c : Condition Query) : Render σ (Condition Query) := do
  let (c, added) ← Render.consult (.condition c.shape) (s.compiler.resolver.condition c)
  modify fun p => { p with pending := p.pending ++ added }
  return c

/-- Takes over the conditions that wait. -/
def takePending : Render σ (List (Condition Query)) :=
  modifyGet fun p => (p.pending, { p with pending := [] })

/-- The pieces of a list. An outermost list takes over what the resolver adds. The first argument
bounds the number of conditions on the way to any of them. -/
def pieces (s : Scope σ) : Nat → Bool → List (Condition Query) → Render σ (List Piece)
  | _, _, [] => pure []
  | 0, _, _ :: _ => throw (.exceeded .growth)
  | n + 1, outermost, first :: rest => do
    let c ← s.resolveCondition first
    let text ←
      match c with
      | .comparison _ c => s.comparison c
      | .group _ members => Piece.joined <$> s.pieces n false members
      | .fragment _ f => s.fragment f
    let added ← if outermost then takePending else pure []
    let others ← s.pieces n outermost (rest ++ added)
    let isGroup := match c with
      | .group _ _ => true
      | _ => false
    return ⟨c.glue, text, isGroup⟩ :: others

/-- The text of a list of conditions. It may grow by as many as the compiler allows. -/
def conditions (s : Scope σ) (list : List (Condition Query)) : Render σ String :=
  Piece.joined <$> s.pieces (Condition.sizes list + s.compiler.limits.growth) true list

/-- The text of a list of conditions behind a keyword, or nothing. -/
def conditionsAfter (s : Scope σ) (keyword : String) (list : List (Condition Query)) :
    Render σ String := do
  let sql ← s.conditions list
  return if sql = "" then "" else keyword ++ sql

end Scope

end ParamSql
