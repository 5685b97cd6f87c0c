import PagedTable.Calendar

namespace PagedTable

-- A plain object has any attributes; a site has its four.
inductive ObjectShape where
  | plain
  | site
deriving DecidableEq

inductive Value where
  | null
  | number (n : Number)
  | text (s : String)
  | date (d : Date)
  | moment (m : Moment)
  | range (first last : Value)
  | list (items : List Value)
  | tuple (items : List Value)
  | set (items : List Value)
  | map (fields : List (String × Value))
  | object (shape : ObjectShape) (fields : List (String × Value))

abbrev Fields := List (String × Value)

namespace Value

instance : Inhabited Value := ⟨.null⟩

@[match_pattern] abbrev int (n : Int) : Value := .number (.int n)
@[match_pattern] abbrev bool (b : Bool) : Value := .number (.truth b)

mutual

-- Numbers are equal by size, moments by instant, sets and maps whatever their order; a list equals no
-- tuple.
def same : Value → Value → Bool
  | .null, .null => true
  | .number a, .number b => a.same b
  | .text a, .text b => a == b
  | .date a, .date b => a == b
  | .moment a, .moment b => a.same b
  | .range a b, .range c d => same a c && same b d
  | .list xs, .list ys => sameItems xs ys
  | .tuple xs, .tuple ys => sameItems xs ys
  | .set xs, .set ys => xs.length == ys.length && itemsIn xs ys
  | .map xs, .map ys => xs.length == ys.length && fieldsIn xs ys
  | .object s xs, .object t ys => s == t && xs.length == ys.length && fieldsIn xs ys
  | _, _ => false

def sameItems : List Value → List Value → Bool
  | [], [] => true
  | x :: xs, y :: ys => same x y && sameItems xs ys
  | _, _ => false

def itemsIn : List Value → List Value → Bool
  | [], _ => true
  | x :: xs, ys => (ys.any fun y => same x y) && itemsIn xs ys

def fieldsIn : List (String × Value) → List (String × Value) → Bool
  | [], _ => true
  | (key, x) :: xs, ys =>
    (match ys.lookup key with
      | some y => same x y
      | none => false) && fieldsIn xs ys

end

mutual

-- Whether the value may be a member of a set: collections that can change may not.
def hashable : Value → Bool
  | .list _ | .set _ | .map _ | .object _ _ => false
  | .tuple items => allHashable items
  | .range a b => hashable a && hashable b
  | _ => true

def allHashable : List Value → Bool
  | [] => true
  | x :: xs => hashable x && allHashable xs

end

-- What counts as true where a yes or no is wanted: all but nothing, zero and the empty.
def truthy : Value → Bool
  | .null => false
  | .number n => !n.isZero
  | .text s => s != ""
  | .list items | .tuple items | .set items => !items.isEmpty
  | .map fields => !fields.isEmpty
  | .date _ | .moment _ | .range _ _ | .object _ _ => true

def isNull : Value → Bool
  | .null => true
  | _ => false

def kindName : Value → String
  | .null => "NoneType"
  | .number (.int _) => "int"
  | .number (.real _) => "float"
  | .number (.truth _) => "bool"
  | .text _ => "str"
  | .date _ => "date"
  | .moment _ => "datetime"
  | .range _ _ => "DateRange"
  | .list _ => "list"
  | .tuple _ => "tuple"
  | .set _ => "set"
  | .map _ => "dict"
  | .object .plain _ => "SimpleNamespace"
  | .object .site _ => "Site"

def ofText? : Option String → Value
  | some s => .text s
  | none => .null

def items? : Value → Option (List Value)
  | .list xs | .tuple xs | .set xs => some xs
  | _ => none

end Value

end PagedTable
