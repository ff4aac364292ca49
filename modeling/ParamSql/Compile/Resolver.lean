import ParamSql.Query.Basic

namespace ParamSql

/-- A field: the name of its column, and the type of the values compared with it. -/
structure Field where
  name : String
  type : Option TypeName
  deriving DecidableEq, Repr

/-- What a resolver does with its state; it may refuse. -/
abbrev Hook (σ : Type) : Type → Type :=
  EStateM CompileError σ

/-- A resolver with states `σ`. What it does not say passes through. -/
structure Resolver (σ : Type) where
  /-- The state at the start of a compilation. -/
  start : σ
  select : Select Query → Hook σ (Select Query) := fun s => pure s
  insert : Insert Query → Hook σ (Insert Query) := fun s => pure s
  update : Update Query → Hook σ (Update Query) := fun s => pure s
  delete : Delete Query → Hook σ (Delete Query) := fun s => pure s
  /-- The column of a field name. A declared type counts more than the resolver's. -/
  field : String → Option TypeName → Hook σ Field := fun name type => pure ⟨name, type⟩
  table : TableRef Query → Hook σ (TableRef Query) := fun t => pure t
  /-- The table that a star stands for. -/
  root : σ → Option String := fun _ => none
  /-- The condition to compile in place of one, and conditions for the end of the list. -/
  condition : Condition Query → Hook σ (Condition Query × List (Condition Query)) :=
    fun c => pure (c, [])
  /-- The joins that resolved fields have brought in; they are handed over once. -/
  joins : σ → List (Join Query) × σ := fun state => ([], state)
  clear : σ → σ := fun state => state

namespace Resolver

def passthrough : Resolver Unit where
  start := ()

/-- The declared type of a field, by its full name or by what follows its last dot. -/
def declaredType? (types : List (String × TypeName)) (name : String) : Option TypeName :=
  (types.lookup name).or (types.lookup (Text.lastSegment '.' name))

/-- Remembers the root table of a statement and hands the statement back. -/
def remember {α : Type} (table : Option (TableRef Query)) (statement : α) :
    Hook (Option String) α := do
  set (table.bind TableRef.key?)
  return statement

/-- The resolver that knows the types of some columns, and the root table: the first of a SELECT,
the target of the other statements. -/
def declared (types : List (String × TypeName)) : Resolver (Option String) where
  start := none
  select s := remember s.tables.head? s
  insert s := remember s.table s
  update s := remember s.table s
  delete s := remember s.table s
  field name type := pure ⟨name, type.or (declaredType? types name)⟩
  root state := state
  clear _ := none

end Resolver

end ParamSql
