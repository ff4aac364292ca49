import ParamSql.Statement.Condition

namespace ParamSql

structure Like where
  terms : List String
  /-- The pattern before and after each term. -/
  before : String
  after : String
  /-- Whether the terms match literally. -/
  literal : Bool
  negated : Bool
  deriving DecidableEq, Repr

namespace Like

def startsWith (term : String) : Like := ⟨[term], "", "%", true, false⟩

def endsWith (term : String) : Like := ⟨[term], "%", "", true, false⟩

def contains (term : String) : Like := ⟨[term], "%", "%", true, false⟩

def containsAny (terms : List String) : Like := ⟨terms, "%", "%", true, false⟩

def pattern (p : String) : Like := ⟨[p], "", "", false, false⟩

def negate (l : Like) : Like := { l with negated := true }

/-- Whether a character means more than itself in a pattern. -/
def isSpecial (c : Char) : Bool :=
  c = '%' || c = '_' || c = '\\'

/-- The pattern that matches these characters and no others. -/
def escape : List Char → List Char
  | [] => []
  | c :: rest => if isSpecial c then '\\' :: c :: escape rest else c :: escape rest

def patternOf (l : Like) (term : String) : String :=
  l.before ++ (if l.literal then String.ofList (escape term.toList) else term) ++ l.after

/-- The patterns of the terms: one value for one term, else a list. -/
def patterns (l : Like) : Value :=
  match l.terms with
  | [term] => .text (l.patternOf term)
  | terms => .list (terms.map fun term => .text (l.patternOf term))

/-- Whether the comparison is a negative one: the search is, or the operator it stands under, but
not both. -/
def isNegativeUnder (l : Like) (operator : String) : Bool :=
  l.negated ^^
    match Operator.ofToken? operator with
    | some op => op.isNegative
    | none => false

def transform {Q : Type} (l : Like) (column operator : String) (_ : Platform) :
    Except CompileError (Transformed (Operand Q)) :=
  .ok
    { column
      operator := if l.isNegativeUnder operator then ":notlike" else ":like"
      operand := .value l.patterns }

def operand {Q : Type} (l : Like) : Operand Q :=
  .transformer l.transform

end Like

end ParamSql
