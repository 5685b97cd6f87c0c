import PagedTable.Json.Basic

namespace PagedTable.Json

def skipSpace (cs : List Char) : List Char :=
  cs.dropWhile fun c => c == ' ' || c == '\n' || c == '\t' || c == '\r'

def hexValue? (c : Char) : Option Nat :=
  if c.isDigit then some (c.toNat - '0'.toNat)
  else if 'a' ≤ c ∧ c ≤ 'f' then some (c.toNat - 'a'.toNat + 10)
  else if 'A' ≤ c ∧ c ≤ 'F' then some (c.toNat - 'A'.toNat + 10)
  else none

def unit? (cs : List Char) : Option Nat :=
  if cs.length = 4 then cs.foldlM (fun n c => (hexValue? c).map (16 * n + ·)) 0 else none

def isHighUnit (n : Nat) : Bool := 0xd800 ≤ n && n < 0xdc00
def isLowUnit (n : Nat) : Bool := 0xdc00 ≤ n && n < 0xe000

-- The character beyond the basic plane that two units stand for.
def joinUnits (high low : Nat) : Char := Char.ofNat (0x10000 + (high - 0xd800) * 0x400 + (low - 0xdc00))

-- The character of an escape other than one by number.
def unescape? : Char → Option Char
  | 'n' => some '\n'
  | 't' => some '\t'
  | 'r' => some '\r'
  | 'b' => some '\x08'
  | 'f' => some '\x0c'
  | '"' => some '"'
  | '\\' => some '\\'
  | '/' => some '/'
  | _ => none

def stringBody (acc : List Char) : List Char → Option (List Char × List Char)
  | '"' :: rest => some (acc.reverse, rest)
  | '\\' :: 'u' :: a :: b :: c :: d :: '\\' :: 'u' :: e :: f :: g :: h :: rest =>
    match unit? [a, b, c, d], unit? [e, f, g, h] with
    | some high, some low =>
      if isHighUnit high && isLowUnit low then stringBody (joinUnits high low :: acc) rest
      else stringBody (Char.ofNat high :: acc) ('\\' :: 'u' :: e :: f :: g :: h :: rest)
    | _, _ => none
  | '\\' :: 'u' :: a :: b :: c :: d :: rest =>
    match unit? [a, b, c, d] with
    | some n => stringBody (Char.ofNat n :: acc) rest
    | none => none
  | '\\' :: c :: rest =>
    match unescape? c with
    | some c => stringBody (c :: acc) rest
    | none => none
  | c :: rest => stringBody (c :: acc) rest
  | [] => none

def readString? (cs : List Char) : Option (String × List Char) :=
  match cs with
  | '"' :: rest => (stringBody [] rest).map fun r => (String.ofList r.1, r.2)
  | _ => none

def decimal (cs : List Char) : Nat := cs.foldl (fun n c => 10 * n + (c.toNat - '0'.toNat)) 0

def fraction? (cs : List Char) : Option (List Char) × List Char :=
  match cs with
  | '.' :: rest => (some (rest.takeWhile Char.isDigit), rest.dropWhile Char.isDigit)
  | _ => (none, cs)

def power? (cs : List Char) : Option Int × List Char :=
  let digits (negative : Bool) (rest : List Char) : Option Int × List Char :=
    let n : Int := decimal (rest.takeWhile Char.isDigit)
    (some (if negative then -n else n), rest.dropWhile Char.isDigit)
  match cs with
  | 'e' :: '-' :: rest | 'E' :: '-' :: rest => digits true rest
  | 'e' :: '+' :: rest | 'E' :: '+' :: rest => digits false rest
  | 'e' :: rest | 'E' :: rest => digits false rest
  | _ => (none, cs)

def unsignedNumber? (negative : Bool) (cs : List Char) : Option (Number × List Char) :=
  let whole := cs.takeWhile Char.isDigit
  let (fraction, rest) := fraction? (cs.dropWhile Char.isDigit)
  let (power, rest) := power? rest
  if whole.isEmpty then none
  else if fraction.isNone && power.isNone then
    let n : Int := decimal whole
    some (.int (if negative then -n else n), rest)
  else
    let digits := fraction.getD []
    (Binary64.ofDecimal negative (decimal (whole ++ digits)) (power.getD 0 - digits.length)).map
      fun x => (.real x, rest)

def readNumber? (cs : List Char) : Option (Number × List Char) :=
  match cs with
  | '-' :: rest => unsignedNumber? true rest
  | _ => unsignedNumber? false cs

mutual

-- A document at the start of the text, and what follows it.
def readValue : Nat → List Char → Option (Json × List Char)
  | 0, _ => none
  | fuel + 1, cs =>
    match skipSpace cs with
    | 'n' :: 'u' :: 'l' :: 'l' :: rest => some (.null, rest)
    | 't' :: 'r' :: 'u' :: 'e' :: rest => some (.bool true, rest)
    | 'f' :: 'a' :: 'l' :: 's' :: 'e' :: rest => some (.bool false, rest)
    | '"' :: rest => (readString? ('"' :: rest)).map fun r => (.text r.1, r.2)
    | '[' :: rest =>
      match skipSpace rest with
      | ']' :: rest => some (.array [], rest)
      | rest => (readItems fuel [] rest).map fun r => (.array r.1, r.2)
    | '\x7b' :: rest =>
      match skipSpace rest with
      | '\x7d' :: rest => some (.object [], rest)
      | rest => (readFields fuel [] rest).map fun r => (.object r.1, r.2)
    | cs => (readNumber? cs).map fun r => (.number r.1, r.2)

def readItems : Nat → List Json → List Char → Option (List Json × List Char)
  | 0, _, _ => none
  | fuel + 1, acc, cs =>
    match readValue fuel cs with
    | none => none
    | some (j, rest) =>
      match skipSpace rest with
      | ',' :: rest => readItems fuel (j :: acc) rest
      | ']' :: rest => some ((j :: acc).reverse, rest)
      | _ => none

-- The fields of an object from the next one on, and what follows the brace. A key that comes twice
-- keeps its place and takes the later value.
def readFields : Nat → List (String × Json) → List Char → Option (List (String × Json) × List Char)
  | 0, _, _ => none
  | fuel + 1, acc, cs =>
    match readString? (skipSpace cs) with
    | none => none
    | some (key, rest) =>
      match skipSpace rest with
      | ':' :: rest =>
        match readValue fuel rest with
        | none => none
        | some (j, rest) =>
          match skipSpace rest with
          | ',' :: rest => readFields fuel (Entries.put key j acc) rest
          | '\x7d' :: rest => some (Entries.put key j acc, rest)
          | _ => none
      | _ => none

end

-- Documents lie no deeper than the text is long.
def read? (s : String) : Option Json :=
  let cs := s.toList
  match readValue (cs.length + 1) cs with
  | some (j, rest) => if (skipSpace rest).isEmpty then some j else none
  | none => none

end PagedTable.Json
