import PagedTable.Json.Writer
import PagedTable.Value.Members

namespace PagedTable

-- A site has four attributes, of which only the id must be given.
def siteOf (given : List (String × Value)) : Value :=
  let field (name : String) (missing : Value) := (name, (Entries.get? name given).getD missing)
  .object .site [field "id" .null, field "name" (.text ""), field "can_assign_users" (.bool false),
    field "can_unassign_users" (.bool false)]

namespace Json

mutual

-- The value that a document describes. A date that does not exist is read as nothing.
def toValue : Json → Value
  | .null => .null
  | .number n => .number n
  | .text s => .text s
  | .array xs => .list (toValues xs)
  | .object [("$date", .text s)] => ((Date.ofIso? s).map Value.date).getD .null
  | .object [("$datetime", .text s)] => ((Moment.ofIso? s).map Value.moment).getD .null
  | .object [("$range", .array [a, b])] => .range a.toValue b.toValue
  | .object [("$tuple", .array xs)] => .tuple (toValues xs)
  | .object [("$set", .array xs)] => .set (Members.ofList (toValues xs))
  | .object [("$obj", .object fs)] => .object .plain (toFields fs)
  | .object [("$site", .object fs)] => siteOf (toFields fs)
  | .object fs => .map (toFields fs)

def toValues : List Json → List Value
  | [] => []
  | x :: xs => x.toValue :: toValues xs

def toFields : List (String × Json) → List (String × Value)
  | [] => []
  | (key, x) :: fs => (key, x.toValue) :: toFields fs

end

def value (j : Json) (key : String) : Value := (j.get key).toValue

def valueOr (j : Json) (key : String) (missing : Value) : Value := ((j.get? key).map toValue).getD missing

def valueList (j : Json) (key : String) : List Value := toValues (j.get key).items

def valueMap (j : Json) (key : String) : List (String × Value) := toFields (j.get key).fields

def memberAtMost : Json → Json → Bool
  | .number a, .number b => a.atMost b
  | .number _, _ => true
  | _, .number _ => false
  | .text a, .text b => Text.atMost a b
  | .text _, _ => true
  | _, .text _ => false
  | a, b => Text.atMost a.write b.write

def inOrder (members : List Json) : List Json := members.mergeSort memberAtMost

def tagged (tag : String) (j : Json) : Json := .object [("$" ++ tag, j)]

mutual

def ofValue : Value → Json
  | .null => .null
  | .number n => .number n
  | .text s => .text s
  | .date d => tagged "date" (.text (String.ofList d.iso))
  | .moment m => tagged "datetime" (.text (String.ofList m.iso))
  | .range a b => tagged "range" (.array [ofValue a, ofValue b])
  | .list xs => .array (ofValues xs)
  | .tuple xs => .array (ofValues xs)
  | .set xs => tagged "set" (.array (inOrder (ofValues xs)))
  | .map fs => .object (ofFields fs)
  | .object .plain fs => tagged "obj" (.object (ofFields fs))
  | .object .site fs => tagged "site" (.object (ofFields fs))

def ofValues : List Value → List Json
  | [] => []
  | v :: vs => ofValue v :: ofValues vs

def ofFields : List (String × Value) → List (String × Json)
  | [] => []
  | (key, v) :: fs => (key, ofValue v) :: ofFields fs

end

def ofList (vs : List Value) : Json := .array (ofValues vs)
def ofMap (fs : List (String × Value)) : Json := .object (ofFields fs)

def ofMembers (vs : List Value) : Json := .array (inOrder (ofValues vs))

end Json

end PagedTable
