import PagedTable.Failure

namespace PagedTable

namespace Path

def splitDots : List Char → List (List Char)
  | [] => [[]]
  | c :: cs =>
    if c = '.' then [] :: splitDots cs
    else
      match splitDots cs with
      | [] => [[c]]
      | part :: parts => (c :: part) :: parts

def segments (path : String) : List String := (splitDots path.toList).map String.ofList

end Path

namespace Value

def integer (n : Nat) : Value := .int n

def dateAttribute? (d : Date) (name : String) : Option Value :=
  if name = "year" then some (integer d.year)
  else if name = "month" then some (integer d.month)
  else if name = "day" then some (integer d.day)
  else none

def clockAttribute? (c : Clock) (name : String) : Option Value :=
  if name = "hour" then some (integer c.hour)
  else if name = "minute" then some (integer c.minute)
  else if name = "second" then some (integer c.second)
  else if name = "microsecond" then some (integer c.micro)
  else none

-- The parts of a number as a complex one, and of an integer as a fraction.
def numberAttribute? (n : Number) (name : String) : Option Value :=
  match n.whole? with
  | some i =>
    if name = "real" ∨ name = "numerator" then some (.int i)
    else if name = "imag" then some (.int 0)
    else if name = "denominator" then some (.int 1)
    else none
  | none =>
    if name = "real" then some (.number n)
    else if name = "imag" then some (.number (.real .zero))
    else none

def attribute? (v : Value) (name : String) : Option Value :=
  match v with
  | .object _ fields => fields.lookup name
  | .range a b =>
    if name = "start" then some a
    else if name = "end" then some b
    else if name = "is_empty" then some (.bool (a.isNull && b.isNull))
    else none
  | .number n => numberAttribute? n name
  | .date d => dateAttribute? d name
  | .moment m => dateAttribute? m.date name <|> clockAttribute? m.clock name
  | _ => none

-- One step of a path: a key of a map, an attribute of anything else.
def step? (v : Value) (segment : String) : Option Value :=
  match v with
  | .map fields => fields.lookup segment
  | _ => v.attribute? segment

def follow (v : Value) (segments : List String) (missing : Value) : Value :=
  match segments with
  | [] => v
  | segment :: rest =>
    match v with
    | .null => missing
    | _ =>
      match v.step? segment with
      | some next => next.follow rest missing
      | none => missing

-- The value at a dotted path, or `missing` when the path leaves the value or meets nothing.
def atPath (v : Value) (path : String) (missing : Value := .null) : Value :=
  v.follow (Path.segments path) missing

-- The identity of a row. A list stands for a composite identity.
def identity (row : Value) (path : String) : Except Fault Value :=
  match row.atPath path with
  | .null => .error (.noIdentity row.quoted path)
  | .list items => .ok (.tuple items)
  | v => .ok v

-- A yes-or-no attribute of an entity; without the entity or the attribute it is no.
def flag (entity : Value) (name : String) : Bool :=
  match entity with
  | .null => false
  | _ => (entity.atPath name (.bool false)).truthy

-- Rows may be selected unless they say exactly no.
def selectable (row : Value) : Bool :=
  match row.atPath "is_selectable" (.bool true) with
  | .bool false => false
  | _ => true

end Value

end PagedTable
