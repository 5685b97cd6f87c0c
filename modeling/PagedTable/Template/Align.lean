import PagedTable.Calendar.Pattern
import PagedTable.Failure
import PagedTable.Text.Digits

namespace PagedTable.Template

-- Why a template stops: it is malformed or lacks an argument, or it asks for what a value cannot
-- do.
inductive Stop where
  | malformed
  | fault (f : Fault)

structure Layout where
  fill : Char := ' '
  align : Option Char := none
  sign : Option Char := none
  positiveZero : Bool := false
  alternate : Bool := false
  width : Nat := 0
  grouping : Option Char := none
  precision : Option Nat := none
  type : Option Char := none

namespace Layout

def isAlign (c : Char) : Bool := c = '<' || c = '>' || c = '=' || c = '^'

def number? (cs : List Char) : Option Nat × List Char :=
  let ds := cs.takeWhile fun c => (Text.digitValue? c).isSome
  let rest := cs.dropWhile fun c => (Text.digitValue? c).isSome
  (if ds.isEmpty then none else some (Text.ofDigits (ds.filterMap Text.digitValue?)), rest)

def readAlign (l : Layout) : List Char → Layout × List Char
  | fill :: a :: rest =>
    if isAlign a then ({ l with fill, align := some a }, rest)
    else if isAlign fill then ({ l with align := some fill }, a :: rest)
    else (l, fill :: a :: rest)
  | [a] => if isAlign a then ({ l with align := some a }, []) else (l, [a])
  | [] => (l, [])

def readSign (l : Layout) : List Char → Layout × List Char
  | c :: rest => if c = ' ' ∨ c = '+' ∨ c = '-' then ({ l with sign := some c }, rest) else (l, c :: rest)
  | [] => (l, [])

def readFlags (l : Layout) (cs : List Char) : Layout × List Char :=
  let (l, cs) := match cs with
    | 'z' :: rest => ({ l with positiveZero := true }, rest)
    | _ => (l, cs)
  match cs with
  | '#' :: rest => ({ l with alternate := true }, rest)
  | _ => (l, cs)

-- A leading zero of the width pads with zeros between sign and digits, or, where texts stand to the
-- left, only changes the fill.
def readZero (l : Layout) (explicitFill : Bool) (toRight : Bool) : List Char → Layout × List Char
  | '0' :: rest =>
    if explicitFill then (l, '0' :: rest)
    else ({ l with
      fill := '0'
      align := match l.align with
        | some a => some a
        | none => if toRight then some '=' else none }, rest)
  | cs => (l, cs)

def readGrouping (l : Layout) : List Char → Except Stop (Layout × List Char)
  | ',' :: '_' :: _ => .error .malformed
  | '_' :: ',' :: _ => .error .malformed
  | c :: rest =>
    if c = ',' ∨ c = '_' then .ok ({ l with grouping := some c }, rest) else .ok (l, c :: rest)
  | [] => .ok (l, [])

def readPrecision (l : Layout) : List Char → Except Stop (Layout × List Char)
  | '.' :: rest =>
    match number? rest with
    | (some n, rest) => .ok ({ l with precision := some n }, rest)
    | (none, _) => .error .malformed
  | cs => .ok (l, cs)

def groupable (type : Option Char) : Bool :=
  match type with
  | none => true
  | some c => ['d', 'e', 'f', 'g', 'E', 'G', '%', 'F'].contains c

def groupableByUnderscore (type : Option Char) : Bool :=
  match type with
  | some c => ['b', 'o', 'x', 'X'].contains c
  | none => false

-- Reads a layout for a value that by default stands to the right (numbers) or to the left.
def read (toRight : Bool) (cs : List Char) : Except Stop Layout := do
  let explicitFill := match cs with
    | _ :: a :: _ => isAlign a
    | _ => false
  let (l, cs) := readAlign {} cs
  let (l, cs) := readSign l cs
  let (l, cs) := readFlags l cs
  let (l, cs) := readZero l explicitFill toRight cs
  let (width, cs) := number? cs
  let (l, cs) ← readGrouping { l with width := width.getD 0 } cs
  let (l, cs) ← readPrecision l cs
  let l ← match cs with
    | [] => .ok l
    | [c] => .ok { l with type := some c }
    | _ => .error .malformed
  match l.grouping with
  | none => .ok l
  | some c =>
    if groupable l.type || (c = '_' && groupableByUnderscore l.type) then .ok l else .error .malformed

def pad (l : Layout) (byDefault : Char) (before body : List Char) : List Char :=
  let missing := l.width - (before.length + body.length)
  let align := l.align.getD byDefault
  let filler (n : Nat) : List Char := List.replicate n l.fill
  if align = '<' then before ++ body ++ filler missing
  else if align = '^' then filler (missing / 2) ++ before ++ body ++ filler (missing - missing / 2)
  else if align = '=' then before ++ filler missing ++ body
  else filler missing ++ before ++ body

def layText (l : Layout) (s : List Char) : Except Stop (List Char) :=
  if l.sign.isSome || l.alternate || l.positiveZero || l.grouping.isSome || l.align = some '=' then
    .error .malformed
  else if l.type = none ∨ l.type = some 's' then
    let cut := match l.precision with
      | some n => s.take n
      | none => s
    .ok (l.pad '<' [] cut)
  else .error .malformed

def signText (l : Layout) (negative : Bool) : List Char :=
  if negative then ['-']
  else if l.sign = some '+' then ['+']
  else if l.sign = some ' ' then [' ']
  else []

def group (separator : Char) (size : Nat) (ds : List Char) : List Char :=
  let marked := (ds.reverse.zipIdx.map fun e =>
    if e.2 ≠ 0 ∧ e.2 % size = 0 then [separator, e.1] else [e.1]).flatten
  marked.reverse

def grouped (l : Layout) (size : Nat) (ds : List Char) : List Char :=
  match l.grouping with
  | some c => group c size ds
  | none => ds

-- Whether zeros between sign and digits fill the width. Then they are grouped like digits.
def fillsWithZeros (l : Layout) : Bool := l.fill = '0' && l.align = some '='

-- The digits in groups, with zeros in front of them if they fill what the `others` leave of the
-- width.
def zeroFilled (l : Layout) (size others : Nat) (ds : List Char) : List Char :=
  if l.grouping.isSome && l.fillsWithZeros then
    let room := l.width - others
    let fits (k : Nat) : Bool := room ≤ k + (k - 1) / size
    let count := ((List.range' ds.length (room + 1)).find? fits).getD ds.length
    l.grouped size (List.replicate (count - ds.length) '0' ++ ds)
  else l.grouped size ds

def layDigits (l : Layout) (negative : Bool) (base : List Char) (size : Nat) (ds : List Char) :
    List Char :=
  let before := l.signText negative ++ (if l.alternate then base else [])
  l.pad '>' before (l.zeroFilled size before.length ds)

def upper (cs : List Char) : List Char := cs.map Char.toUpper

def layChar (l : Layout) (n : Int) : Except Stop (List Char) :=
  if l.sign.isSome || l.alternate || l.grouping.isSome then .error .malformed
  else if n < 0 ∨ 0x10ffff < n then .error (.fault .overflow)
  else .ok (l.pad '<' [] [Char.ofNat n.toNat])

-- Fractions. In the alternate form a point is shown even where no digit follows it.
def barePoint (alternate : Bool) : List Char := if alternate then ['.'] else []

def fixed (num den places : Nat) (alternate : Bool) : List Char :=
  let ds := padded (places + 1) (roundHalfEven (num * Nat.pow 10 places) den)
  let split := ds.length - places
  if places = 0 then ds ++ barePoint alternate else ds.take split ++ '.' :: ds.drop split

def significant (num den count : Nat) : List Char × Int :=
  if num = 0 then (List.replicate count '0', 0)
  else
    let power := Binary64.leadingPower num den
    let scale : Int := power - ((count : Int) - 1)
    let rounded :=
      if 0 ≤ scale then roundHalfEven num (den * Nat.pow 10 scale.toNat)
      else roundHalfEven (num * Nat.pow 10 (-scale).toNat) den
    let ds := natText rounded
    if ds.length > count then (ds.take count, power + 1) else (ds, power)

def exponentText (mark : Char) (power : Int) : List Char :=
  mark :: (if power < 0 then '-' else '+') :: padded 2 power.natAbs

def pointed (ds : List Char) (alternate : Bool) : List Char :=
  if ds.length ≤ 1 then ds ++ barePoint alternate else ds.take 1 ++ '.' :: ds.drop 1

def exponential (num den places : Nat) (mark : Char) (alternate : Bool) : List Char :=
  let (ds, power) := significant num den (places + 1)
  pointed ds alternate ++ exponentText mark power

def dropTrailingZeros (cs : List Char) : List Char := (cs.reverse.dropWhile (· = '0')).reverse

-- The shorter of the fixed and the scientific form with `count` significant digits. The alternate
-- form keeps the zeros at the end.
def general (num den count : Nat) (mark : Char) (alternate : Bool) (addPoint : Bool) : List Char :=
  let count := if count = 0 then 1 else count
  let (ds, power) := significant num den count
  let kept := if alternate then ds else
    match dropTrailingZeros ds with
    | [] => ['0']
    | left => left
  let limit : Int := if addPoint then (count : Int) - 1 else count
  if power < -4 ∨ limit ≤ power then pointed kept alternate ++ exponentText mark power
  else if power < 0 then '0' :: '.' :: (List.replicate (-power - 1).toNat '0' ++ kept)
  else
    let whole := power.toNat + 1
    let filled := kept ++ List.replicate (whole - kept.length) '0'
    if filled.length ≤ whole then
      filled ++ (if addPoint then ['.', '0'] else barePoint alternate)
    else filled.take whole ++ '.' :: filled.drop whole

def groupWhole (l : Layout) (others : Nat) (cs : List Char) : List Char :=
  let tail := cs.dropWhile Char.isDigit
  l.zeroFilled 3 (others + tail.length) (cs.takeWhile Char.isDigit) ++ tail

-- The shortest form that reads back; the alternate one has a point in its scientific form too.
def shortest (x : Binary64) (alternate : Bool) : List Char :=
  let cs := ({ x with negative := false }).text
  if alternate && !cs.contains '.' then
    cs.takeWhile Char.isDigit ++ '.' :: cs.dropWhile Char.isDigit
  else cs

def layFraction (l : Layout) (x : Binary64) : Except Stop (List Char) :=
  let (num, den) := x.ratio
  let places := l.precision.getD 6
  let body : Option (List Char) :=
    match l.type with
    | none =>
      match l.precision with
      | none => some (shortest x l.alternate)
      | some n => some (general num den n 'e' l.alternate true)
    | some 'f' | some 'F' => some (fixed num den places l.alternate)
    | some 'e' => some (exponential num den places 'e' l.alternate)
    | some 'E' => some (exponential num den places 'E' l.alternate)
    | some 'g' | some 'n' => some (general num den places 'e' l.alternate false)
    | some 'G' => some (general num den places 'E' l.alternate false)
    | some '%' => some (fixed (num * 100) den places l.alternate ++ ['%'])
    | some _ => none
  match body with
  | none => .error .malformed
  | some body =>
    let isZero := body.all fun c => !c.isDigit || c = '0'
    let negative := x.negative && !(l.positiveZero && isZero)
    let sign := l.signText negative
    .ok (l.pad '>' sign (l.groupWhole sign.length body))

def isFractionType (type : Option Char) : Bool :=
  match type with
  | some c => ['e', 'E', 'f', 'F', 'g', 'G', '%'].contains c
  | none => false

def layInteger (l : Layout) (n : Int) : Except Stop (List Char) :=
  if isFractionType l.type then
    match Binary64.ofInt n with
    | some x => l.layFraction x
    | none => .error (.fault .overflow)
  else if l.precision.isSome || l.positiveZero then .error .malformed
  else
    let neg := decide (n < 0)
    match l.type with
    | none | some 'd' | some 'n' => .ok (l.layDigits neg [] 3 (natText n.natAbs))
    | some 'b' => .ok (l.layDigits neg ['0', 'b'] 4 (Nat.toDigits 2 n.natAbs))
    | some 'o' => .ok (l.layDigits neg ['0', 'o'] 4 (Nat.toDigits 8 n.natAbs))
    | some 'x' => .ok (l.layDigits neg ['0', 'x'] 4 (Nat.toDigits 16 n.natAbs))
    | some 'X' => .ok (l.layDigits neg ['0', 'X'] 4 (upper (Nat.toDigits 16 n.natAbs)))
    | some 'c' => l.layChar n
    | some _ => .error .malformed

end Layout

-- A value laid out. Without a layout it is shown plain; dates take a pattern, and values other than
-- texts, numbers and dates take none.
def layValue (v : Value) (layout : List Char) : Except Stop (List Char) :=
  match layout with
  | [] => .ok v.plain.toList
  | _ =>
    match v with
    | .text s => do (← Layout.read false layout).layText s.toList
    | .number (.int n) => do (← Layout.read true layout).layInteger n
    | .number (.truth b) => do (← Layout.read true layout).layInteger (if b then 1 else 0)
    | .number (.real x) => do (← Layout.read true layout).layFraction x
    | .date d => .ok (d.byPattern layout)
    | .moment m => .ok (m.byPattern layout)
    | _ => .error (.fault .unsupported)

end PagedTable.Template
