import ParamSql.Compile.Scope

namespace ParamSql

/-- The left-hand side of a comparison: the quoted column, the type of its values, and whether
values are scalars already. -/
structure Subject where
  column : String
  type : Option TypeName
  converted : Bool

/-- The items of a list; any other value is one item. -/
def Value.items : Value → List Value
  | .list items => items
  | value => [value]

namespace Scope

variable {σ : Type}

/-- The scalar to bind for a value. A converted value that is no scalar goes by its own kind. -/
def scalar (s : Scope σ) (type : Option TypeName) (converted : Bool) (value : Value) :
    Render σ Scalar :=
  if converted then
    match value.scalar? with
    | some scalar => pure scalar
    | none => Render.ask .convert (s.compiler.types.scalar none value)
  else Render.ask .convert (s.compiler.types.scalar type value)

def bind (s : Scope σ) (type : Option TypeName) (converted : Bool) (value : Value) :
    Render σ Unit := do
  let scalar ← s.scalar type converted value
  Render.bindAll [scalar]

def bindFor (s : Scope σ) (subject : Subject) (value : Value) : Render σ Unit :=
  s.bind subject.type subject.converted value

def operatorSql (s : Scope σ) (operator : Operator) : String :=
  if operator = .regex then s.platform.regexOperator else operator.sql

/-- The test whether a column is null, or is not. -/
def nullCheck (s : Scope σ) (negated : Bool) (column : String) : String :=
  if negated then s.platform.isNotNull column else s.platform.isNull column

def single (s : Scope σ) (subject : Subject) (operator : String) (value : Value) :
    Render σ String := do
  s.bindFor subject value
  return subject.column ++ " " ++ operator ++ " ?"

/-- A comparison with each item: one of them holds, or all if the operator is negative. -/
def expanded (s : Scope σ) (subject : Subject) (operator : Operator) (token : String)
    (items : List Value) : Render σ String := do
  if items.isEmpty then
    throw (.invalidValue token .emptyList)
  let parts ← items.mapM (s.single subject (s.operatorSql operator))
  let sql := (if operator.isNegative then " AND " else " OR ").intercalate parts
  return if 1 < items.length then "(" ++ sql ++ ")" else sql

/-- Membership among the items. Null items become a test for null. -/
def membership (s : Scope σ) (subject : Subject) (negated : Bool) (items : List Value) :
    Render σ String := do
  let test := s.nullCheck negated subject.column
  let values := items.filter fun item => !item.isNull
  if values.isEmpty then
    return test
  values.forM (s.bindFor subject)
  let places := ",".intercalate (values.map fun _ => "?")
  let keyword := if negated then " NOT IN (" else " IN ("
  let sql := subject.column ++ keyword ++ places ++ ")"
  return if items.any Value.isNull then
      "(" ++ sql ++ (if negated then " AND " else " OR ") ++ test ++ ")"
    else sql

/-- Whether a column lies between two bounds. One value is the upper bound; the lower is then
zero. -/
def range (s : Scope σ) (subject : Subject) (token : String) : Value → Render σ String
  | .list [low, high] => do
    s.bindFor subject low
    s.bindFor subject high
    return s.platform.between subject.column "?" "?"
  | .list items => throw (.invalidValue token (.boundCount items.length))
  | value => do
    s.bindFor subject value
    return s.platform.between subject.column "0" "?"

/-- Equality with a value, or inequality: membership in a list, a test for null. -/
def equality (s : Scope σ) (subject : Subject) (negated : Bool) : Value → Render σ String
  | .list items => s.membership subject negated items
  | .null => pure (s.nullCheck negated subject.column)
  | value => s.single subject (if negated then "!=" else "=") value

def plain (s : Scope σ) (subject : Subject) (operator : Operator) (token : String)
    (value : Value) : Render σ String :=
  match operator with
  | .equal => s.equality subject false value
  | .notEqual => s.equality subject true value
  | .oneOf => s.membership subject false value.items
  | .noneOf => s.membership subject true value.items
  | .between => s.range subject token value
  | .notBetween => do
    let sql ← s.range subject token value
    return s.platform.negation sql
  | .less | .atMost | .greater | .atLeast | .regex | .like | .notLike =>
    match value with
    | .list items => s.expanded subject operator token items
    | value => s.single subject (s.operatorSql operator) value

/-- A comparison with a right-hand side that is text already. Bounds cannot be. -/
def verbatim (s : Scope σ) (column : String) (operator : Operator) (token rhs : String) :
    Except CompileError String :=
  match operator with
  | .between | .notBetween => .error (.invalidValue token .boundsNotPlain)
  | operator => .ok (column ++ " " ++ s.operatorSql operator ++ " " ++ rhs)

/-- A comparison after the transformer on its right-hand side; its values then are scalars. -/
def transformed (s : Scope σ) (c : Comparison Query) : Render σ (Comparison Query) :=
  match c.operand with
  | .transformer transform => do
    let r ← Render.ask .transform (transform c.column c.operator s.platform)
    return { column := r.column, operator := r.operator, operand := r.operand, converted := true }
  | _ => pure c

/-- A comparison after its transformer, if it had one. -/
def compared (s : Scope σ) (c : Comparison Query) : Render σ String := do
  let field ← s.column c.column
  let operator ← Render.lift (Operator.ofToken c.operator)
  match c.operand with
  | .value value => s.plain ⟨field.name, field.type, c.converted⟩ operator c.operator value
  | .query q => do
    let sql ← s.query q
    Render.lift (s.verbatim field.name operator c.operator ("(" ++ sql ++ ")"))
  | .fragment f => do
    let sql ← s.fragment f
    Render.lift (s.verbatim field.name operator c.operator sql)
  | .transformer _ => throw (.invalidValue c.operator .chainedTransformer)

def comparison (s : Scope σ) (c : Comparison Query) : Render σ String := do
  let c ← s.transformed c
  s.compared c

end Scope

end ParamSql
