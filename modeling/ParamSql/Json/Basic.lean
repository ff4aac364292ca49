namespace ParamSql

namespace Json

/-- A number of a document. Integers of 64 bits, with or without sign, are kept exactly; all other
numbers are doubles. -/
inductive Number
  | natural (n : UInt64)
  | negative (n : Int64)
  | real (x : Float)
  deriving DecidableEq, Repr

def Number.ofInt64 (n : Int64) : Number :=
  if n.toInt < 0 then .negative n else .natural (UInt64.ofNat n.toInt.toNat)

end Json

inductive Json
  | null
  | bool (b : Bool)
  | number (n : Json.Number)
  | string (s : String)
  | array (items : List Json)
  | object (members : List (String × Json))
  deriving Repr, BEq

namespace Json

/-- The members with one more, in its place by the order of keys; it replaces a member of its
key. -/
def insert (key : String) (value : Json) : List (String × Json) → List (String × Json)
  | [] => [(key, value)]
  | (k, v) :: rest =>
    if key < k then (key, value) :: (k, v) :: rest
    else if key = k then (key, value) :: rest
    else (k, v) :: insert key value rest

/-- The object with these members, the later of one key winning. -/
def ofMembers (members : List (String × Json)) : Json :=
  .object (members.foldl (fun sorted m => insert m.1 m.2 sorted) [])

end Json

end ParamSql
