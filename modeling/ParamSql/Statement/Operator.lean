import ParamSql.Error

namespace ParamSql

inductive Operator
  | less
  | atMost
  | greater
  | atLeast
  | regex
  | like
  | notLike
  | equal
  | notEqual
  | oneOf
  | noneOf
  | between
  | notBetween
  deriving DecidableEq, Repr

namespace Operator

/-- The tokens of the operators, in lower case. -/
def tokens : List (String × Operator) :=
  [("<", less), (":lt", less), ("<=", atMost), (":lte", atMost),
   (">", greater), (":gt", greater), (">=", atLeast), (":gte", atLeast),
   ("~=", regex), ("=~", regex), (":regex", regex),
   (":like", like), (":notlike", notLike), ("!like", notLike),
   ("=", equal), (":eq", equal),
   ("<>", notEqual), ("!=", notEqual), (":ne", notEqual), (":not", notEqual),
   ("in", oneOf), (":in", oneOf), ("notin", noneOf), ("!in", noneOf), (":notin", noneOf),
   ("between", between), (":between", between),
   ("!between", notBetween), (":notbetween", notBetween)]

/-- The operator of a token, without regard to case and blanks around it. -/
def ofToken? (token : String) : Option Operator :=
  tokens.lookup (Text.lower (Text.trim token))

/-- The operator of a token, or the refusal of the token as written. -/
def ofToken (token : String) : Except CompileError Operator :=
  match ofToken? token with
  | some operator => .ok operator
  | none => .error (.unsupportedOperator token)

def sql : Operator → String
  | less => "<"
  | atMost => "<="
  | greater => ">"
  | atLeast => ">="
  | regex => "REGEXP"
  | like => "LIKE"
  | notLike => "NOT LIKE"
  | equal => "="
  | notEqual => "!="
  | oneOf => "IN"
  | noneOf => "NOT IN"
  | between => "BETWEEN"
  | notBetween => "NOT BETWEEN"

def isNegative : Operator → Bool
  | notLike | notEqual | noneOf | notBetween => true
  | _ => false

end Operator

end ParamSql
