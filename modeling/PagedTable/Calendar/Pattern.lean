import PagedTable.Calendar

namespace PagedTable

namespace Date

def weekdayNames : List String :=
  ["Monday", "Tuesday", "Wednesday", "Thursday", "Friday", "Saturday", "Sunday"]

def monthNames : List String :=
  ["January", "February", "March", "April", "May", "June", "July", "August", "September",
    "October", "November", "December"]

-- Counted from Monday, which is 0. The first day of year 1 was a Monday.
def weekday (d : Date) : Nat := (d.dayNumber - 1) % 7

def weekdayName (d : Date) : List Char := (weekdayNames.getD d.weekday "").toList

def monthName (d : Date) : List Char := (monthNames.getD (d.month - 1) "").toList

-- Counted from the first of January, which is 1.
def yearDay (d : Date) : Nat := daysBeforeMonth d.year d.month + d.day

-- The week of the year when weeks begin on the day that is `before` days after Monday. Days before
-- the first such day are in week 0.
def weekFrom (before : Nat) (d : Date) : Nat :=
  (d.yearDay + 6 - (d.weekday + 7 - before) % 7) / 7

-- The year and week that the Thursday of the same week lies in.
def isoWeek (d : Date) : Nat × Nat :=
  let thursday := d.yearDay + 3
  if thursday ≤ d.weekday then
    let year := d.year - 1
    let inYear := thursday + (if isLeap year then 366 else 365) - d.weekday
    (year, (inYear - 1) / 7 + 1)
  else
    let inYear := thursday - d.weekday
    let size := if isLeap d.year then 366 else 365
    if size < inYear then (d.year + 1, 1) else (d.year, (inYear - 1) / 7 + 1)

end Date

namespace Clock

def hour12 (c : Clock) : Nat := if c.hour % 12 = 0 then 12 else c.hour % 12

def half (c : Clock) : List Char := if c.hour < 12 then ['A', 'M'] else ['P', 'M']

end Clock

namespace Moment

-- The numbers among the parts, with their width and the character that fills it.
def numberPart? (m : Moment) : Char → Option (Nat × Nat × Char)
  | 'Y' => some (m.date.year, 1, '0')
  | 'G' => some (m.date.isoWeek.1, 1, '0')
  | 'C' => some (m.date.year / 100, 1, '0')
  | 'y' => some (m.date.year % 100, 2, '0')
  | 'g' => some (m.date.isoWeek.1 % 100, 2, '0')
  | 'm' => some (m.date.month, 2, '0')
  | 'd' => some (m.date.day, 2, '0')
  | 'e' => some (m.date.day, 2, ' ')
  | 'j' => some (m.date.yearDay, 3, '0')
  | 'u' => some (m.date.weekday + 1, 1, '0')
  | 'w' => some ((m.date.weekday + 1) % 7, 1, '0')
  | 'U' => some (m.date.weekFrom 6, 2, '0')
  | 'W' => some (m.date.weekFrom 0, 2, '0')
  | 'V' => some (m.date.isoWeek.2, 2, '0')
  | 'H' => some (m.clock.hour, 2, '0')
  | 'I' => some (m.clock.hour12, 2, '0')
  | 'k' => some (m.clock.hour, 2, ' ')
  | 'l' => some (m.clock.hour12, 2, ' ')
  | 'M' => some (m.clock.minute, 2, '0')
  | 'S' => some (m.clock.second, 2, '0')
  | 'f' => some (m.clock.micro, 6, '0')
  | _ => none

def filled (fill : Char) (width n : Nat) : List Char :=
  let ds := natText n
  List.replicate (width - ds.length) fill ++ ds

def numberText (m : Moment) (c : Char) : List Char :=
  match m.numberPart? c with
  | some (n, width, fill) => filled fill width n
  | none => []

def joined (m : Moment) (separator : Char) : List Char → List Char
  | [] => []
  | [c] => m.numberText c
  | c :: rest => m.numberText c ++ separator :: joined m separator rest

def offsetPart (m : Moment) : List Char := m.zone.filter (· ≠ ':')

def zoneName (m : Moment) : List Char :=
  match m.offset with
  | none => []
  | some 0 => "UTC".toList
  | some _ => "UTC".toList ++ m.zone

def wordPart? (m : Moment) : Char → Option (List Char)
  | 'a' => some (m.date.weekdayName.take 3)
  | 'A' => some m.date.weekdayName
  | 'b' | 'h' => some (m.date.monthName.take 3)
  | 'B' => some m.date.monthName
  | 'p' => some m.clock.half
  | 'P' => some (m.clock.half.map Char.toLower)
  | 'D' | 'x' => some (m.joined '/' ['m', 'd', 'y'])
  | 'F' => some (m.joined '-' ['Y', 'm', 'd'])
  | 'R' => some (m.joined ':' ['H', 'M'])
  | 'T' | 'X' => some (m.joined ':' ['H', 'M', 'S'])
  | 'r' => some (m.joined ':' ['I', 'M', 'S'] ++ ' ' :: m.clock.half)
  | 'c' => some (m.date.weekdayName.take 3 ++ ' ' :: m.date.monthName.take 3 ++ ' ' ::
      m.numberText 'e' ++ ' ' :: m.joined ':' ['H', 'M', 'S'] ++ ' ' :: m.numberText 'Y')
  | 'z' => some m.offsetPart
  | 'Z' => some m.zoneName
  | 'n' => some ['\n']
  | 't' => some ['\t']
  | '%' => some ['%']
  | _ => none

def part? (m : Moment) (c : Char) : Option (List Char) :=
  match m.numberPart? c with
  | some (n, width, fill) => some (filled fill width n)
  | none => m.wordPart? c

-- A pattern with its parts filled in. A minus after the percent sign drops the filling of a number.
def byPattern (m : Moment) : List Char → List Char
  | '%' :: '-' :: c :: rest =>
    match m.numberPart? c with
    | some (n, _, _) => natText n ++ byPattern m rest
    | none => (m.wordPart? c).getD ['%', '-', c] ++ byPattern m rest
  | '%' :: c :: rest => (m.part? c).getD ['%', c] ++ byPattern m rest
  | c :: rest => c :: byPattern m rest
  | [] => []

end Moment

-- A date is laid out as its midnight.
def Date.byPattern (d : Date) (pattern : List Char) : List Char :=
  Moment.byPattern ⟨d, ⟨0, 0, 0, 0⟩, none⟩ pattern

end PagedTable
