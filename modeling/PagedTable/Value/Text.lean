import PagedTable.Value.Basic
import PagedTable.Text.Quoted

namespace PagedTable

def commaList (parts : List String) : String := String.intercalate ", " parts

def numberOf (n : Nat) : String := String.ofList (natText n)

namespace Moment

-- Seconds and their fraction only where they are not zero.
def clockParts (c : Clock) : List String :=
  [numberOf c.hour, numberOf c.minute] ++
    (if c.second = 0 ∧ c.micro = 0 then []
     else if c.micro = 0 then [numberOf c.second] else [numberOf c.second, numberOf c.micro])

-- A span as days, seconds and microseconds, of which only the days may be negative.
def spanText (micros : Int) : String :=
  let days := Int.fdiv micros 86400000000
  let rest := (Int.fmod micros 86400000000).toNat
  let part (name : String) (n : Int) : List String :=
    if n = 0 then [] else [name ++ "=" ++ String.ofList (intText n)]
  "datetime.timedelta(" ++
    commaList (part "days" days ++ part "seconds" (rest / 1000000 : Nat) ++
      part "microseconds" (rest % 1000000 : Nat)) ++ ")"

def zoneText (offset : Int) : String :=
  if offset = 0 then "datetime.timezone.utc" else "datetime.timezone(" ++ spanText offset ++ ")"

def quoted (m : Moment) : String :=
  let zone := match m.offset with
    | some offset => ["tzinfo=" ++ zoneText offset]
    | none => []
  "datetime.datetime(" ++
    commaList ([numberOf m.date.year, numberOf m.date.month, numberOf m.date.day] ++
      clockParts m.clock ++ zone) ++ ")"

end Moment

def Date.quoted (d : Date) : String :=
  "datetime.date(" ++ commaList [numberOf d.year, numberOf d.month, numberOf d.day] ++ ")"

namespace Value

mutual

def quoted : Value → String
  | .null => "None"
  | .number n => n.text
  | .text s => Text.quoted s
  | .date d => d.quoted
  | .moment m => m.quoted
  | .range a b => "DateRange(start=" ++ quoted a ++ ", end=" ++ quoted b ++ ")"
  | .list items => "[" ++ commaList (quotedItems items) ++ "]"
  | .tuple items =>
    match quotedItems items with
    | [one] => "(" ++ one ++ ",)"
    | parts => "(" ++ commaList parts ++ ")"
  | .set items =>
    match quotedItems items with
    | [] => "set()"
    | parts => "\x7b" ++ commaList parts ++ "\x7d"
  | .map fields => "\x7b" ++ commaList (quotedFields fields) ++ "\x7d"
  | .object .plain fields => "namespace(" ++ commaList (quotedAttributes fields) ++ ")"
  | .object .site fields => "Site(" ++ commaList (quotedAttributes fields) ++ ")"

def quotedItems : List Value → List String
  | [] => []
  | x :: xs => quoted x :: quotedItems xs

def quotedFields : List (String × Value) → List String
  | [] => []
  | (key, x) :: rest => (Text.quoted key ++ ": " ++ quoted x) :: quotedFields rest

def quotedAttributes : List (String × Value) → List String
  | [] => []
  | (name, x) :: rest => (name ++ "=" ++ quoted x) :: quotedAttributes rest

end

def plain : Value → String
  | .text s => s
  | .date d => String.ofList d.iso
  | .moment m => String.ofList (m.isoWith ' ')
  | v => v.quoted

end Value

end PagedTable
