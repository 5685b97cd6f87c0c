import PagedTable.Value.Basic

namespace PagedTable.Yaml

def nullTexts : List String := ["", "~", "null", "Null", "NULL"]

def trueTexts : List String :=
  ["yes", "Yes", "YES", "true", "True", "TRUE", "on", "On", "ON"]

def falseTexts : List String :=
  ["no", "No", "NO", "false", "False", "FALSE", "off", "Off", "OFF"]

-- Plain scalars that are neither texts nor values: infinities, and the marks for merging maps and
-- for a default.
def otherTexts : List String :=
  ["<<", "=", ".inf", ".Inf", ".INF", "+.inf", "+.Inf", "+.INF", "-.inf", "-.Inf", "-.INF", ".nan",
    ".NaN", ".NAN"]

def digitOf (c : Char) : Nat :=
  if c.isDigit then c.toNat - '0'.toNat else c.toLower.toNat - 'a'.toNat + 10

def isDigitOf (base : Nat) (c : Char) : Bool :=
  (c.isDigit || ('a' ≤ c.toLower && c.toLower ≤ 'f')) && digitOf c < base

def inBase? (base : Nat) (cs : List Char) : Option Nat :=
  let ds := cs.filter (· ≠ '_')
  if !ds.isEmpty && ds.all (isDigitOf base) then some (ds.foldl (fun n c => base * n + digitOf c) 0)
  else none

def signed (cs : List Char) : Bool × List Char :=
  match cs with
  | '-' :: rest => (true, rest)
  | '+' :: rest => (false, rest)
  | _ => (false, cs)

def startsWithDigit (cs : List Char) : Bool := (cs.head?.map Char.isDigit).getD false

def sixtieth? (cs : List Char) : Option Nat :=
  match cs with
  | [a] => if a.isDigit then some (digitOf a) else none
  | [a, b] => if isDigitOf 6 a && b.isDigit then some (10 * digitOf a + digitOf b) else none
  | _ => none

def atColons (cs : List Char) : List (List Char) :=
  cs.foldr (fun c parts => if c = ':' then [] :: parts else (c :: parts.headD []) :: parts.drop 1) [[]]

def sexagesimal? (parts : List (List Char)) : Option Nat :=
  match parts with
  | [] => none
  | first :: rest => do
    if !startsWithDigit first || rest.isEmpty then none
    let n ← inBase? 10 first
    rest.foldlM (fun n part => (sixtieth? part).map (60 * n + ·)) n

def natural? (cs : List Char) : Option Nat :=
  match cs with
  | ['0'] => some 0
  | '0' :: 'b' :: ds => inBase? 2 ds
  | '0' :: 'x' :: ds => inBase? 16 ds
  | '0' :: ds => inBase? 8 ('0' :: ds)
  | _ => if startsWithDigit cs then inBase? 10 cs <|> sexagesimal? (atColons cs) else none

def integer? (cs : List Char) : Option Int :=
  let (negative, ds) := signed cs
  (natural? ds).map fun n => if negative then -(n : Int) else n

def power? (cs : List Char) : Option Int :=
  match cs with
  | [] => some 0
  | e :: sign :: ds =>
    if (e = 'e' ∨ e = 'E') ∧ (sign = '+' ∨ sign = '-') ∧ ¬ds.isEmpty ∧ ds.all Char.isDigit then
      (inBase? 10 ds).map fun (n : Nat) => if sign = '-' then -(n : Int) else n
    else none
  | _ => none

def isFractionDigit (c : Char) : Bool := c.isDigit || c == '_'

-- A binary fraction: a point is needed, digits on one of its sides; without digits before it no
-- sign is allowed.
def fraction? (cs : List Char) : Option Binary64 := do
  let (negative, body) := signed cs
  let whole := body.takeWhile fun c => c ≠ '.' && c ≠ 'e' && c ≠ 'E'
  match body.drop whole.length with
  | '.' :: rest =>
    let ds := (rest.takeWhile isFractionDigit).filter (· ≠ '_')
    let tail := rest.dropWhile isFractionDigit
    if whole.contains ':' then do
      let n ← sexagesimal? (atColons whole)
      if !tail.isEmpty then none
      Binary64.ofDecimal negative (((inBase? 10 ds).getD 0) + n * Nat.pow 10 ds.length) (-ds.length)
    else do
      let power ← power? tail
      let n ← if whole.isEmpty then (if cs.length = body.length && startsWithDigit rest then some 0 else none)
        else if startsWithDigit whole then inBase? 10 whole else none
      Binary64.ofDecimal negative (((inBase? 10 ds).getD 0) + n * Nat.pow 10 ds.length) (power - ds.length)
  | _ => none

def shortNumber? (cs : List Char) : Option (Nat × List Char) :=
  match cs with
  | a :: b :: rest =>
    if a.isDigit && b.isDigit then some (10 * digitOf a + digitOf b, rest)
    else if a.isDigit then some (digitOf a, b :: rest) else none
  | [a] => if a.isDigit then some (digitOf a, []) else none
  | [] => none

-- The offset after a time, in microseconds: nothing, `Z`, or a sign with hours and perhaps
-- minutes.
def zone? (cs : List Char) : Option (Option Int) :=
  match cs.dropWhile fun c => c == ' ' || c == '\t' with
  | [] => if cs.isEmpty then some none else none
  | ['Z'] => some (some 0)
  | sign :: rest => do
    if sign ≠ '+' ∧ sign ≠ '-' then none
    let (hours, rest) ← shortNumber? rest
    let minutes ← match rest with
      | [] => some 0
      | [':', a, b] => if a.isDigit && b.isDigit then some (10 * digitOf a + digitOf b) else none
      | _ => none
    let micros : Int := ((hours * 60 + minutes) * 60000000 : Nat)
    some (some (if sign = '-' then -micros else micros))

-- A date-time: hours may have one digit, minutes and seconds have two, and a fraction and an offset
-- may follow.
def moment? (cs : List Char) : Option Moment := do
  let (year, cs) ← Iso.number? 4 0 cs
  let cs ← Iso.skip? '-' cs
  let (month, cs) ← shortNumber? cs
  let cs ← Iso.skip? '-' cs
  let (day, cs) ← shortNumber? cs
  let cs ← match cs with
    | 'T' :: rest | 't' :: rest => some rest
    | ' ' :: rest | '\t' :: rest => some (rest.dropWhile fun c => c == ' ' || c == '\t')
    | _ => none
  let (hour, cs) ← shortNumber? cs
  let cs ← Iso.skip? ':' cs
  let (minute, cs) ← Iso.number? 2 0 cs
  let cs ← Iso.skip? ':' cs
  let (second, cs) ← Iso.number? 2 0 cs
  let (micro, cs) := match cs with
    | '.' :: rest => Iso.millionths rest
    | _ => (0, cs)
  let offset ← zone? cs
  return ⟨⟨year, month, day⟩, ⟨hour, minute, second, micro⟩, offset⟩

def day? (cs : List Char) : Option Date :=
  match cs with
  | [_, _, _, _, '-', _, _, '-', _, _] => do
    let (year, _) ← Iso.number? 4 0 cs
    let (month, _) ← Iso.number? 2 0 (cs.drop 5)
    let (day, _) ← Iso.number? 2 0 (cs.drop 8)
    return ⟨year, month, day⟩
  | _ => none

-- The value of a plain scalar; none when it has the form of a value but stands for none, such as a
-- date that does not exist.
def plainValue? (s : String) : Option Value :=
  let cs := s.toList
  if nullTexts.contains s then some .null
  else if trueTexts.contains s then some (.bool true)
  else if falseTexts.contains s then some (.bool false)
  else if otherTexts.contains s then none
  else match fraction? cs, integer? cs, day? cs, moment? cs with
    | some x, _, _, _ => some (.number (.real x))
    | _, some n, _, _ => some (.int n)
    | _, _, some d, _ => if d.isValid then some (.date d) else none
    | _, _, _, some m => if m.date.isValid && m.clock.isValid then some (.moment m) else none
    | _, _, _, _ => some (.text s)

def isPlainText (s : String) : Bool :=
  match plainValue? s with
  | some (.text _) => true
  | _ => false

end PagedTable.Yaml
