import ParamSql.Text.Basic
import ParamSql.Value

namespace ParamSql

/-- The functions that make one row of many. -/
inductive AggregateFunction
  | count
  | sum
  | avg
  | min
  | max
  deriving DecidableEq, Repr

def AggregateFunction.sql : AggregateFunction → String
  | count => "COUNT"
  | sum => "SUM"
  | avg => "AVG"
  | min => "MIN"
  | max => "MAX"

/-- A database system, by the text it wants. -/
structure Platform where
  name : String
  quoteIdentifier : String → String
  quoteLiteral : Scalar → String
  isKeyword : String → Bool
  /-- A statement cut down to a number of rows, after skipping some. -/
  limited : String → Option UInt64 → Option UInt64 → String
  writeLock : String
  readLock : String
  aggregate : AggregateFunction → String → String :=
    fun function column => function.sql ++ "(" ++ column ++ ")"
  isNull : String → String :=
    fun expression => expression ++ " IS NULL"
  isNotNull : String → String :=
    fun expression => expression ++ " IS NOT NULL"
  between : String → String → String → String :=
    fun expression low high => expression ++ " BETWEEN " ++ low ++ " AND " ++ high
  negation : String → String :=
    fun expression => "NOT (" ++ expression ++ ")"
  regexOperator : String := "REGEXP"
  /-- The values of an inserted row that has only defaults. -/
  defaultValues : String := "DEFAULT VALUES"

/-- A segment of a dotted name, quoted unless it is the star. -/
def Platform.quoteSegment (platform : Platform) (segment : String) : String :=
  if segment = "*" then segment else platform.quoteIdentifier segment

/-- A dotted name, quoted segment by segment if `quoted`. -/
def Platform.quoteName (platform : Platform) (quoted : Bool) (name : String) : String :=
  if quoted then ".".intercalate ((Text.segments '.' name).map platform.quoteSegment) else name

end ParamSql
