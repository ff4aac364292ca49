import ParamSql.Platform.Basic
import ParamSql.Statement.Operator

namespace ParamSql

/-- What a fragment may know of the place where it stands. -/
structure Surroundings where
  platform : Platform
  /-- Quotes a name as the compilation quotes it. -/
  quote : String → String

/-- A fragment, as the questions it asks and the text it ends with. An unanswered question ends the
compilation, so a fragment cannot go on after one. -/
inductive Fragment
  | text (sql : String)
  | fail (error : CompileError)
  /-- Resolves and quotes a column. -/
  | column (name : String) (next : String → Fragment)
  /-- Asks for the root table of the statement. -/
  | root (next : Option String → Fragment)
  /-- Looks around. -/
  | look (next : Surroundings → Fragment)

namespace Fragment

def andThen : Fragment → (String → Fragment) → Fragment
  | text sql, k => k sql
  | fail error, _ => fail error
  | column name next, k => column name fun sql => (next sql).andThen k
  | root next, k => root fun table => (next table).andThen k
  | look next, k => look fun around => (next around).andThen k

def sequence : List Fragment → Fragment
  | [] => text ""
  | first :: rest => first.andThen fun sql => (sequence rest).andThen fun tail => text (sql ++ tail)

/-- A column by its name, or a function of it. -/
def ofColumn (name : String) (function : Option String) : Fragment :=
  column name fun sql =>
    match function with
    | some f => text (f ++ "(" ++ sql ++ ")")
    | none => text sql

end Fragment

/-- How a condition is tied to the one before it. -/
inductive Glue
  | and
  | or
  deriving DecidableEq, Repr

def Glue.sql : Glue → String
  | and => "AND"
  | or => "OR"

/-- A comparison as a transformer returns it. -/
structure Transformed (α : Type) where
  column : String
  operator : String
  operand : α

/-- The right-hand side of a comparison or an assignment. -/
inductive Operand (Q : Type)
  | value (v : Value)
  | query (q : Q)
  | fragment (f : Fragment)
  /-- A value that gives the whole comparison another form, by its column, its operator and the
  platform. -/
  | transformer
    (transform : String → String → Platform → Except CompileError (Transformed (Operand Q)))

/-- A comparison of a column with an operand. -/
structure Comparison (Q : Type) where
  column : String
  /-- The token of the operator, as written. -/
  operator : String
  operand : Operand Q
  /-- Whether plain values are scalars already. -/
  converted : Bool

inductive Condition (Q : Type)
  | comparison (glue : Glue) (c : Comparison Q)
  | group (glue : Glue) (members : List (Condition Q))
  | fragment (glue : Glue) (f : Fragment)

namespace Condition

variable {Q : Type}

/-- The comparison of a column with an operand, glued by "and". -/
def compare (column operator : String) (operand : Operand Q) : Condition Q :=
  comparison .and ⟨column, operator, operand, false⟩

def glue : Condition Q → Glue
  | comparison g _ => g
  | group g _ => g
  | fragment g _ => g

def withGlue (g : Glue) : Condition Q → Condition Q
  | comparison _ c => comparison g c
  | group _ members => group g members
  | fragment _ f => fragment g f

mutual

/-- How many conditions a condition holds, itself and those of all depths. -/
def size : Condition Q → Nat
  | comparison _ _ => 1
  | group _ members => 1 + sizes members
  | fragment _ _ => 1

/-- How many conditions a list holds, at all depths. -/
def sizes : List (Condition Q) → Nat
  | [] => 0
  | first :: rest => size first + sizes rest

end

end Condition

end ParamSql
