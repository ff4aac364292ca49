import ParamSql.Conversion.Builtin

namespace ParamSql

/-- Value types under their names, the last registered first. -/
structure TypeRegistry where
  entries : List (String × ValueType)

namespace TypeRegistry

def empty : TypeRegistry :=
  ⟨[]⟩

/-- Puts a type under a name, in place of what stood there. -/
def register (types : TypeRegistry) (name : String) (t : ValueType) : TypeRegistry :=
  ⟨(Text.lower name, t) :: types.entries⟩

def get? (types : TypeRegistry) (name : String) : Option ValueType :=
  (types.entries.find? fun entry => entry.1 == Text.lower name).map (·.2)

def contains (types : TypeRegistry) (name : String) : Bool :=
  (types.get? name).isSome

def builtinNames : List (String × BuiltinType) :=
  [("string", .string), ("text", .string), ("guid", .string),
   ("integer", .integer), ("bigint", .integer), ("smallint", .integer), ("tinyint", .integer),
   ("float", .float), ("double", .float), ("decimal", .decimal), ("boolean", .boolean),
   ("datetime", .datetime), ("timestamp", .datetime), ("date", .date), ("time", .time),
   ("json", .json), ("array", .list), ("simple_array", .list),
   ("binary", .binary), ("blob", .binary)]

def builtins : TypeRegistry :=
  builtinNames.foldl (fun types entry => types.register entry.1 entry.2.scalar) empty

/-- The texts of the items of a list column, each converted by the type of the items. -/
def itemValues (t : ValueType) : List Value → Except CompileError (List Value)
  | [] => .ok []
  | item :: rest => do
    let scalar ← t item
    let values ← itemValues t rest
    return .text scalar.display :: values

def scalarOf (types : TypeRegistry) (t : TypeName) (value : Value) : Except CompileError Scalar :=
  match types.get? t.name with
  | none => .error (.unknownType t.name)
  | some convert =>
    match t.isList, value with
    | true, .list items => do
      let values ← itemValues convert items
      BuiltinType.list.scalar (.list values)
    | _, value => convert value

/-- The scalar of a value, by its declared type if it has one. -/
def scalar (types : TypeRegistry) (declared : Option TypeName) (value : Value) :
    Except CompileError Scalar :=
  match declared with
  | none => value.infer
  | some t => types.scalarOf t value

end TypeRegistry

end ParamSql
