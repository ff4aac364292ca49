import ParamSql.Proofs.Guided
import ParamSql.Proofs.Marked
import ParamSql.Proofs.Runs

namespace ParamSql

open Marked

/-- A scope in which nested queries are written with their values inline. -/
structure Inline (σ : Type) extends Scope σ where
  nestedText : Option String → Query → Except CompileError Marked

/-- A condition with its values inline. -/
structure InlinePiece where
  glue : Glue
  text : Marked
  isGroup : Bool

namespace InlinePiece

/-- The piece as it stands among others, or alone. -/
def shown (alone : Bool) (piece : InlinePiece) : Marked :=
  if piece.isGroup && !alone then lit "(" ++ piece.text ++ lit ")" else piece.text

/-- Pieces, each behind its glue. -/
def glued : List (Glue × Marked) → Marked
  | [] => []
  | (glue, text) :: rest => lit " " ++ lit glue.sql ++ lit " " ++ text ++ glued rest

def chain : List (Glue × Marked) → Marked
  | [] => []
  | (_, text) :: rest => text ++ glued rest

def joined (pieces : List InlinePiece) : Marked :=
  let alone := pieces.length ≤ 1
  chain ((pieces.filter fun piece => !piece.text.isEmpty).map
    fun piece => (piece.glue, piece.shown alone))

end InlinePiece

namespace Inline

variable {σ : Type} (s : Inline σ)

def query (q : Query) : Render σ Marked := do
  let database ← Render.lift (s.databaseOf q)
  Render.lift (s.nestedText database q)

/-- The scalar for a value compared with a subject. -/
def scalarFor (subject : Subject) (v : Value) : Render σ Scalar :=
  s.scalar subject.type subject.converted v

def single (subject : Subject) (operator : String) (v : Value) : Render σ Marked := do
  let x ← s.scalarFor subject v
  return lit (subject.column ++ " " ++ operator ++ " ") ++ one x

/-- A comparison with each item. -/
def expanded (subject : Subject) (operator : Operator) (token : String) (items : List Value) :
    Render σ Marked :=
  if items.isEmpty then throw (.invalidValue token .emptyList)
  else do
    let parts ← items.mapM (s.single subject (s.operatorSql operator))
    let text := join (if operator.isNegative then " AND " else " OR ") parts
    return if 1 < items.length then lit "(" ++ text ++ lit ")" else text

/-- Membership among the items. Null items have no place among them. -/
def membership (subject : Subject) (negated : Bool) (items : List Value) : Render σ Marked :=
  let test := lit (s.nullCheck negated subject.column)
  let values := items.filter fun item => !item.isNull
  if values.isEmpty then pure test
  else do
    let xs ← values.mapM (s.scalarFor subject)
    let text := lit (subject.column ++ if negated then " NOT IN (" else " IN (") ++
      join "," (xs.map one) ++ lit ")"
    return if items.any Value.isNull then
        lit "(" ++ text ++ lit (if negated then " AND " else " OR ") ++ test ++ lit ")"
      else text

/-- Whether a column lies between two bounds. -/
def range (subject : Subject) (token : String) : Value → Render σ Marked
  | .list [low, high] => do
    let x ← s.scalarFor subject low
    let y ← s.scalarFor subject high
    return lit (subject.column ++ " BETWEEN ") ++ one x ++ lit " AND " ++ one y
  | .list items => throw (.invalidValue token (.boundCount items.length))
  | value => do
    let y ← s.scalarFor subject value
    return lit (subject.column ++ " BETWEEN 0 AND ") ++ one y

/-- Equality with a value, or inequality. -/
def equality (subject : Subject) (negated : Bool) : Value → Render σ Marked
  | .list items => s.membership subject negated items
  | .null => pure (lit (s.nullCheck negated subject.column))
  | value => s.single subject (if negated then "!=" else "=") value

/-- A comparison with a plain value. -/
def plain (subject : Subject) (operator : Operator) (token : String) (value : Value) :
    Render σ Marked :=
  match operator with
  | .equal => s.equality subject false value
  | .notEqual => s.equality subject true value
  | .oneOf => s.membership subject false value.items
  | .noneOf => s.membership subject true value.items
  | .between => s.range subject token value
  | .notBetween => do
    let text ← s.range subject token value
    return lit "NOT (" ++ text ++ lit ")"
  | .less | .atMost | .greater | .atLeast | .regex | .like | .notLike =>
    match value with
    | .list items => s.expanded subject operator token items
    | value => s.single subject (s.operatorSql operator) value

/-- A comparison with a right-hand side that is text already. -/
def verbatim (column : String) (operator : Operator) (token : String) (rhs : Marked) :
    Except CompileError Marked :=
  match operator with
  | .between | .notBetween => .error (.invalidValue token .boundsNotPlain)
  | operator => .ok (lit (column ++ " " ++ s.operatorSql operator ++ " ") ++ rhs)

/-- A comparison after its transformer, if it had one. -/
def compared (c : Comparison Query) : Render σ Marked := do
  let field ← s.column c.column
  let operator ← Render.lift (Operator.ofToken c.operator)
  match c.operand with
  | .value value => s.plain ⟨field.name, field.type, c.converted⟩ operator c.operator value
  | .query q => do
    let text ← s.query q
    Render.lift (s.verbatim field.name operator c.operator (lit "(" ++ text ++ lit ")"))
  | .fragment f => do
    let sql ← s.fragment f
    Render.lift (s.verbatim field.name operator c.operator (lit sql))
  | .transformer _ => throw (.invalidValue c.operator .chainedTransformer)

def comparison (c : Comparison Query) : Render σ Marked := do
  let c ← s.transformed c
  s.compared c

/-- The pieces of a list of conditions. -/
def pieces : Nat → Bool → List (Condition Query) → Render σ (List InlinePiece)
  | _, _, [] => pure []
  | 0, _, _ :: _ => throw (.exceeded .growth)
  | n + 1, outermost, first :: rest => do
    let c ← s.resolveCondition first
    let text ←
      match c with
      | .comparison _ c => s.comparison c
      | .group _ members => InlinePiece.joined <$> pieces n false members
      | .fragment _ f => lit <$> s.fragment f
    let added ← Scope.takenBy outermost
    let others ← pieces n outermost (rest ++ added)
    return ⟨c.glue, text, Scope.isGroup c⟩ :: others

def conditions (list : List (Condition Query)) : Render σ Marked :=
  InlinePiece.joined <$> s.pieces (Condition.sizes list + s.compiler.limits.growth) true list

/-- A list of conditions behind a keyword, or nothing. -/
def conditionsAfter (keyword : String) (list : List (Condition Query)) : Render σ Marked := do
  let text ← s.conditions list
  return if text.isEmpty then [] else lit keyword ++ text

/-- What a table reference stands for, without its other name. -/
def source : TableSource Query → Render σ Marked
  | .name name => pure (lit (s.tableName name))
  | .query q => do
    let text ← s.query q
    return lit "(" ++ text ++ lit ")"

def table (t : TableRef Query) : Render σ Marked := do
  let resolved ← s.resolveTable t
  let text ← s.source resolved.source
  return text ++ lit (s.aliased " " resolved.label)

def tablesClause (tables : List (TableRef Query)) : Render σ Marked :=
  if tables.isEmpty then pure []
  else do
    let parts ← (unseen TableRef.key? [] tables).mapM s.table
    return lit " FROM " ++ join ", " parts

def joinText (j : Join Query) : Render σ Marked := do
  let table ← s.table j.table
  let on ← s.conditionsAfter " ON " j.on
  return lit (" " ++ j.kind.sql ++ " ") ++ table ++ on

def joinsClause (select : Select Query) : Render σ Marked := do
  let implied ← s.impliedJoins
  let seen := select.tables.filterMap TableRef.key?
  let parts ← (unseen (·.table.key?) seen (select.joins ++ implied)).mapM s.joinText
  return join "" parts

/-- The right-hand side of an assignment, with no transformer left. -/
def assigned (type : Option TypeName) (converted : Bool) : Operand Query → Render σ Marked
  | .value value => do
    let x ← s.scalar type converted value
    return one x
  | .query q => do
    let text ← s.query q
    return lit "(" ++ text ++ lit ")"
  | .fragment f => lit <$> s.fragment f
  | .transformer _ => throw (.invalidValue "=" .chainedTransformer)

/-- An assignment: the quoted column and its value. -/
def assignment (a : Assignment Query) : Render σ (String × Marked) := do
  let field ← Render.consult (.field a.column a.type) (s.compiler.resolver.field a.column a.type)
  let text ←
    match a.operand with
    | .transformer transform => do
      let r ← Render.ask .transform (transform a.column "=" s.platform)
      s.assigned field.type true r.operand
    | operand => s.assigned field.type false operand
  return (s.quote field.name, text)

def insertRows : InsertSource Query → Render σ Marked
  | .assignments items =>
    if items.isEmpty then pure (lit (" " ++ s.platform.defaultValues))
    else do
      let pairs ← items.mapM s.assignment
      return lit (Scope.columnList (pairs.map (·.1)) ++ " VALUES (") ++
        join ", " (pairs.map (·.2)) ++ lit ")"
  | .query q => do
    let text ← s.query q
    return lit (((s.projectedColumns? q).map Scope.columnList).getD "" ++ " ") ++ text

def insert (insert : Insert Query) : Render σ Marked := do
  let table ← s.target .insert insert.table
  let rows ← s.insertRows insert.source
  return lit (s.insertVerb insert ++ " INTO " ++ table) ++ rows

def update (update : Update Query) : Render σ Marked := do
  let table ← s.target .update update.table
  if update.assignments.isEmpty then throw .nothingToUpdate
  else do
    let pairs ← update.assignments.mapM s.assignment
    let filters ← s.conditionsAfter " WHERE " update.filters
    return lit ("UPDATE " ++ table ++ " SET ") ++
      join ", " (pairs.map fun pair => lit (pair.1 ++ " = ") ++ pair.2) ++ filters

def delete (delete : Delete Query) : Render σ Marked := do
  let table ← s.target .delete delete.table
  let filters ← s.conditionsAfter " WHERE " delete.filters
  return lit ("DELETE FROM " ++ table) ++ filters

end Inline

end ParamSql
