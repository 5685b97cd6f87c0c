import PagedTable.Number.Notation

namespace PagedTable

structure Date where
  year : Nat
  month : Nat
  day : Nat
deriving DecidableEq

structure Clock where
  hour : Nat
  minute : Nat
  second : Nat
  micro : Nat
deriving DecidableEq

-- The offset is in microseconds east of universal time.
structure Moment where
  date : Date
  clock : Clock
  offset : Option Int
deriving DecidableEq

namespace Date

def isLeap (year : Nat) : Bool := year % 4 == 0 && (year % 100 != 0 || year % 400 == 0)

def daysInMonth (year month : Nat) : Nat :=
  if month = 2 then (if isLeap year then 29 else 28)
  else if month = 4 ∨ month = 6 ∨ month = 9 ∨ month = 11 then 30 else 31

def isValid (d : Date) : Bool :=
  1 ≤ d.year && d.year ≤ 9999 && 1 ≤ d.month && d.month ≤ 12 && 1 ≤ d.day &&
    d.day ≤ daysInMonth d.year d.month

def daysBeforeYear (year : Nat) : Nat :=
  let y := year - 1
  365 * y + y / 4 - y / 100 + y / 400

def daysBeforeMonth (year month : Nat) : Nat :=
  ((List.range' 1 (month - 1)).map (daysInMonth year)).foldl Nat.add 0

-- The number of the day, counted from the first day of year 1.
def dayNumber (d : Date) : Nat := daysBeforeYear d.year + daysBeforeMonth d.year d.month + d.day

def iso (d : Date) : List Char :=
  padded 4 d.year ++ '-' :: padded 2 d.month ++ '-' :: padded 2 d.day

end Date

namespace Clock

def isValid (c : Clock) : Bool :=
  c.hour ≤ 23 && c.minute ≤ 59 && c.second ≤ 59 && c.micro ≤ 999999

def micros (c : Clock) : Nat :=
  ((c.hour * 60 + c.minute) * 60 + c.second) * 1000000 + c.micro

def hms (c : Clock) : List Char :=
  padded 2 c.hour ++ ':' :: padded 2 c.minute ++ ':' :: padded 2 c.second

-- With six digits of fraction, or none when it is zero.
def iso (c : Clock) : List Char :=
  if c.micro = 0 then c.hms else c.hms ++ '.' :: padded 6 c.micro

-- With milliseconds; finer digits are dropped.
def isoMillis (c : Clock) : List Char := c.hms ++ '.' :: padded 3 (c.micro / 1000)

end Clock

namespace Moment

def offsetText (offset : Int) : List Char :=
  let size := offset.natAbs
  let seconds := size / 1000000
  let tail := seconds % 60
  let micro := size % 1000000
  let fine :=
    if tail = 0 ∧ micro = 0 then []
    else ':' :: padded 2 tail ++ (if micro = 0 then [] else '.' :: padded 6 micro)
  (if offset < 0 then '-' else '+') ::
    (padded 2 (seconds / 3600) ++ ':' :: padded 2 (seconds / 60 % 60) ++ fine)

def zone (m : Moment) : List Char := (m.offset.map offsetText).getD []

def isoWith (separator : Char) (m : Moment) : List Char :=
  m.date.iso ++ separator :: m.clock.iso ++ m.zone

def iso (m : Moment) : List Char := m.isoWith 'T'

def isoMillis (m : Moment) : List Char := m.date.iso ++ 'T' :: m.clock.isoMillis ++ m.zone

-- Microseconds since the start of year 1 in universal time.
def instant (m : Moment) (offset : Int) : Int :=
  (m.date.dayNumber * 86400000000 + m.clock.micros : Nat) - offset

-- A moment with an offset never equals one without.
def same (a b : Moment) : Bool :=
  match a.offset, b.offset with
  | some x, some y => a.instant x == b.instant y
  | none, none => a.date == b.date && a.clock == b.clock
  | _, _ => false

end Moment

-- Reading. Each reader takes what it needs from the front and returns the rest.
namespace Iso

def digit? (c : Char) : Option Nat :=
  if '0' ≤ c ∧ c ≤ '9' then some (c.toNat - '0'.toNat) else none

def number? : Nat → Nat → List Char → Option (Nat × List Char)
  | 0, acc, cs => some (acc, cs)
  | _ + 1, _, [] => none
  | width + 1, acc, c :: cs => do
    let d ← digit? c
    number? width (10 * acc + d) cs

def skip? (expected : Char) : List Char → Option (List Char)
  | [] => none
  | c :: cs => if c = expected then some cs else none

def datePart? (cs : List Char) : Option (Date × List Char) := do
  let (year, cs) ← number? 4 0 cs
  let cs ← skip? '-' cs
  let (month, cs) ← number? 2 0 cs
  let cs ← skip? '-' cs
  let (day, cs) ← number? 2 0 cs
  let d : Date := ⟨year, month, day⟩
  if d.isValid then some (d, cs) else none

-- Digits of a fraction, as millionths; those beyond the sixth are skipped.
def millionths (cs : List Char) : Nat × List Char :=
  let ds := cs.takeWhile fun c => (digit? c).isSome
  let six := (ds ++ List.replicate 6 '0').take 6
  (six.foldl (fun n c => 10 * n + (digit? c).getD 0) 0, cs.dropWhile fun c => (digit? c).isSome)

def clockPart? (cs : List Char) : Option (Clock × List Char) := do
  let (hour, cs) ← number? 2 0 cs
  let cs ← skip? ':' cs
  let (minute, cs) ← number? 2 0 cs
  match cs with
  | ':' :: cs => do
    let (second, cs) ← number? 2 0 cs
    match cs with
    | '.' :: cs =>
      let (micro, cs) := millionths cs
      some (⟨hour, minute, second, micro⟩, cs)
    | _ => some (⟨hour, minute, second, 0⟩, cs)
  | _ => some (⟨hour, minute, 0, 0⟩, cs)

-- Nothing, `Z`, or a sign and a clock.
def offsetPart? : List Char → Option (Option Int)
  | [] => some none
  | ['Z'] => some (some 0)
  | sign :: cs =>
    match clockPart? cs with
    | some (c, []) =>
      if sign = '+' then some (some c.micros)
      else if sign = '-' then some (some (-(c.micros : Int))) else none
    | _ => none

end Iso

def Date.ofIso? (s : String) : Option Date :=
  match Iso.datePart? s.toList with
  | some (d, []) => some d
  | _ => none

def Moment.ofIso? (s : String) : Option Moment := do
  let (date, cs) ← Iso.datePart? s.toList
  match cs with
  | [] => some ⟨date, ⟨0, 0, 0, 0⟩, none⟩
  | _ :: cs => do
    let (clock, cs) ← Iso.clockPart? cs
    let offset ← Iso.offsetPart? cs
    if clock.isValid then some ⟨date, clock, offset⟩ else none

end PagedTable
