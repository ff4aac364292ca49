import ParamSql.Compile.Select

namespace ParamSql.Scope

variable {σ : Type}

def target (s : Scope σ) (kind : StatementKind) :
    Option (TableRef Query) → Render σ String
  | none => throw (.missingTable kind)
  | some t => do
    let resolved ← s.resolveTable t
    match resolved.source with
    | .name name => if name = "" then throw (.missingTable kind) else pure (s.tableName name)
    | .query _ => throw (.missingTable kind)

/-- The right-hand side of an assignment, with no transformer left. -/
def assigned (s : Scope σ) (type : Option TypeName) (converted : Bool) :
    Operand Query → Render σ String
  | .value value => do
    s.bind type converted value
    return "?"
  | .query q => do
    let sql ← s.query q
    return "(" ++ sql ++ ")"
  | .fragment f => s.fragment f
  | .transformer _ => throw (.invalidValue "=" .chainedTransformer)

/-- An assignment: the quoted column and the text of its value. -/
def assignment (s : Scope σ) (a : Assignment Query) : Render σ (String × String) := do
  let field ← Render.consult (.field a.column a.type) (s.compiler.resolver.field a.column a.type)
  let sql ←
    match a.operand with
    | .transformer transform => do
      let r ← Render.ask .transform (transform a.column "=" s.platform)
      s.assigned field.type true r.operand
    | operand => s.assigned field.type false operand
  return (s.quote field.name, sql)

/-- The words that an INSERT starts with, as far as the platform has them. -/
def insertVerb (s : Scope σ) (insert : Insert Query) : String :=
  if insert.ignore && s.platform.isKeyword "IGNORE" then
    if s.platform.name = Dialect.sqlite.name then "INSERT OR IGNORE" else "INSERT IGNORE"
  else if insert.replace && s.platform.isKeyword "REPLACE" then "REPLACE"
  else "INSERT"

/-- The columns that the result of a query fills, if all of them can be told by name. -/
def projectedColumns? (s : Scope σ) (q : Query) : Option (List String) :=
  match q.statement with
  | .select select =>
    if select.columns.isEmpty || select.aggregate.isSome then none
    else
      (select.columns.mapM Projection.outputName?).map fun names =>
        names.map fun name => s.quote (Text.lastSegment '.' name)
  | _ => none

def columnList (columns : List String) : String :=
  " (" ++ ", ".intercalate columns ++ ")"

def insertRows (s : Scope σ) : InsertSource Query → Render σ String
  | .assignments items =>
    if items.isEmpty then pure (" " ++ s.platform.defaultValues)
    else do
      let pairs ← items.mapM s.assignment
      return columnList (pairs.map (·.1)) ++ " VALUES" ++ columnList (pairs.map (·.2))
  | .query q => do
    let sql ← s.query q
    return ((s.projectedColumns? q).map columnList).getD "" ++ " " ++ sql

def insert (s : Scope σ) (insert : Insert Query) : Render σ String := do
  let table ← s.target .insert insert.table
  let rows ← s.insertRows insert.source
  return s.insertVerb insert ++ " INTO " ++ table ++ rows

def update (s : Scope σ) (update : Update Query) : Render σ String := do
  let table ← s.target .update update.table
  if update.assignments.isEmpty then
    throw .nothingToUpdate
  let pairs ← update.assignments.mapM s.assignment
  let filters ← s.conditionsAfter " WHERE " update.filters
  return "UPDATE " ++ table ++ " SET " ++
    ", ".intercalate (pairs.map fun pair => pair.1 ++ " = " ++ pair.2) ++ filters

def delete (s : Scope σ) (delete : Delete Query) : Render σ String := do
  let table ← s.target .delete delete.table
  let filters ← s.conditionsAfter " WHERE " delete.filters
  return "DELETE FROM " ++ table ++ filters

end ParamSql.Scope
