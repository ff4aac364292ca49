import ParamSql.Compile.Resolver
import ParamSql.Log

namespace ParamSql

/-- The outer shape of a condition. -/
inductive ConditionShape
  | comparison (column : String)
  | group (members : Nat)
  | fragment
  deriving DecidableEq, Repr

def Condition.shape {Q : Type} : Condition Q → ConditionShape
  | .comparison _ c => .comparison c.column
  | .group _ members => .group members.length
  | .fragment _ _ => .fragment

/-- A question to a collaborator: to the resolver up to `clear`, then to the registered types, to a
fragment and to a transformer. -/
inductive Call
  | prepare (kind : StatementKind)
  | field (name : String) (declared : Option TypeName)
  /-- A table by its name; a query in its place has none. -/
  | table (name : Option String)
  | root
  | condition (shape : ConditionShape)
  | joins
  | clear
  | convert
  | fragment
  | transform
  deriving DecidableEq, Repr

inductive Event
  | started (kind : StatementKind)
  | asked (call : Call)
  /-- The collaborator asked last refused. -/
  | refused (error : CompileError)
  | logged (event : LogEvent)

/-- A journal, oldest entry first. -/
abbrev Journal := List Event

namespace Journal

def logs (journal : Journal) : List LogEvent :=
  journal.filterMap fun
    | .logged event => some event
    | _ => none

def calls (journal : Journal) : List Call :=
  journal.filterMap fun
    | .asked call => some call
    | _ => none

def ofLogs (events : List LogEvent) : Journal :=
  events.map .logged

end Journal

end ParamSql
