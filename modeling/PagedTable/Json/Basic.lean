import PagedTable.Entries
import PagedTable.Number.Basic

namespace PagedTable

inductive Json where
  | null
  | number (n : Number)
  | text (s : String)
  | array (items : List Json)
  | object (fields : List (String × Json))

namespace Json

instance : Inhabited Json := ⟨.null⟩

@[match_pattern] abbrev bool (b : Bool) : Json := .number (.truth b)
@[match_pattern] abbrev int (n : Int) : Json := .number (.int n)
@[match_pattern] abbrev nat (n : Nat) : Json := .number (.int n)

def ofOption {α : Type} (f : α → Json) : Option α → Json
  | some a => f a
  | none => .null

def fields : Json → List (String × Json)
  | .object fs => fs
  | _ => []

def items : Json → List Json
  | .array xs => xs
  | _ => []

def first (j : Json) : Json := j.items.headD .null
def last (j : Json) : Json := j.items.getLastD .null

-- A field of an object, null or not.
def get? (j : Json) (key : String) : Option Json := Entries.get? key j.fields

-- A field of an object; null when there is none.
def get (j : Json) (key : String) : Json := (j.get? key).getD .null

def has (j : Json) (key : String) : Bool := (j.get? key).isSome

-- A field of an object that is not null.
def given? (j : Json) (key : String) : Option Json :=
  match j.get? key with
  | some .null => none
  | found => found

def text? : Json → Option String
  | .text s => some s
  | _ => none

def number? : Json → Option Number
  | .number n => some n
  | _ => none

def asText (j : Json) : String := j.text?.getD ""

def textOr (j : Json) (key missing : String) : String := ((j.get key).text?).getD missing

def asInt (j : Json) : Int := (j.number?.bind Number.whole?).getD 0

-- A yes or no; null leaves it as it was.
def asFlag (j : Json) (missing : Bool) : Bool :=
  match j with
  | .null => missing
  | .number n => !n.isZero
  | _ => true

def flagOr (j : Json) (key : String) (missing : Bool) : Bool := (j.get key).asFlag missing

end Json

end PagedTable
