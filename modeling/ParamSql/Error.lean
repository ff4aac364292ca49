import ParamSql.Value
import ParamSql.Decimal.Reader

namespace ParamSql

inductive StatementKind
  | select
  | insert
  | update
  | delete
  deriving DecidableEq, Repr

def StatementKind.text : StatementKind → String
  | select => "select"
  | insert => "insert"
  | update => "update"
  | delete => "delete"

/-- Why the right-hand side of a comparison does not fit its operator. -/
inductive OperandFault
  /-- A list without items has no comparison. -/
  | emptyList
  /-- The list of bounds has not two items. -/
  | boundCount (found : Nat)
  /-- Bounds cannot be rendered text. -/
  | boundsNotPlain
  /-- A transformer gave another transformer. -/
  | chainedTransformer
  deriving DecidableEq, Repr

def OperandFault.message : OperandFault → String
  | emptyList => "empty list"
  | boundCount found => "expected two bounds, got " ++ toString found
  | boundsNotPlain => "bounds must be plain values"
  | chainedTransformer => "a transformer cannot produce another transformer"

/-- Why a value has no scalar of a type. -/
inductive ConversionFault
  | unsupported (value : Value)
  /-- A list has more than one item to bind. -/
  | listValue
  | outOfRange (x : Float)
  | integerText (fault : Decimal.IntegerFault)
  | floatText (fault : Decimal.FloatFault)

def ConversionFault.message : ConversionFault → String
  | unsupported value => "unsupported value " ++ value.diagnostic
  | listValue => "a list cannot be bound to a single placeholder"
  | outOfRange x => Decimal.Layout.plain.text x ++ " is out of integer range"
  | integerText fault => fault.message
  | floatText fault => fault.message

/-- The bounds that a compilation keeps to. -/
inductive Bound
  /-- Queries inside queries. -/
  | nesting
  /-- Conditions that the resolver adds to a list. -/
  | growth
  deriving DecidableEq, Repr

/-- Why a statement does not compile. -/
inductive CompileError
  | missingTable (kind : StatementKind)
  | unsupportedOperator (token : String)
  | invalidValue (token : String) (fault : OperandFault)
  | nothingToUpdate
  | statementKind (expected found : StatementKind)
  | unknownType (name : String)
  | conversion (type : String) (fault : ConversionFault)
  | incompatibleConnection (expected found : String)
  | unknownDialect (name : String)
  /-- A collaborator refused, in its own words. -/
  | external (text : String)
  | exceeded (bound : Bound)

def CompileError.message : CompileError → String
  | missingTable kind => kind.text ++ " table name is missing"
  | unsupportedOperator token => "unsupported operator '" ++ token ++ "'"
  | invalidValue token fault => "invalid value for operator '" ++ token ++ "': " ++ fault.message
  | nothingToUpdate => "update statement has no values to set"
  | statementKind expected found =>
    "cannot compile a " ++ found.text ++ " statement as " ++ expected.text
  | unknownType name => "type '" ++ name ++ "' is not registered"
  | conversion type fault => "cannot convert value to '" ++ type ++ "': " ++ fault.message
  | incompatibleConnection expected found =>
    "sub-query uses platform '" ++ found ++ "' but the compiling connection uses '" ++
      expected ++ "'"
  | unknownDialect name => "unknown SQL dialect '" ++ name ++ "'"
  | external text => text
  | exceeded .nesting => "queries are nested too deeply"
  | exceeded .growth => "too many conditions were added to a list"

end ParamSql
