import PagedTable.Yaml.Cursor

namespace PagedTable.Yaml

def flowMarks : List Char := [',', '[', ']', '\x7b', '\x7d']

def indicators : List Char :=
  ['-', '?', ':', '#', '&', '*', '!', '|', '>', '\'', '"', '%', '@', Char.ofNat 0x60] ++ flowMarks

-- A plain scalar may start with a hyphen in front of a word and, outside brackets, with a question
-- mark or colon there.
def startsPlain (inFlow : Bool) (cs : List Char) : Bool :=
  match cs with
  | [] => false
  | c :: rest =>
    if isInlineBlank c || isBreak c then false
    else if indicators.contains c then
      (c == '-' || (!inFlow && (c == '?' || c == ':'))) && !wordEnds rest
    else true

def endsKey (inFlow : Bool) (afterColon : List Char) : Bool :=
  wordEnds afterColon || (inFlow && (afterColon.head?.map flowMarks.contains).getD false)

def plainWord (inFlow : Bool) : List Char → List Char × List Char
  | [] => ([], [])
  | c :: rest =>
    if isInlineBlank c || isBreak c || (c == ':' && endsKey inFlow rest) ||
        (inFlow && (c == '?' || flowMarks.contains c)) then ([], c :: rest)
    else
      let r := plainWord inFlow rest
      (c :: r.1, r.2)

-- What joins two words of a plain scalar, and the second of them: blanks on one line, or line ends
-- when the next line is deep enough. None when the scalar ends.
def plainJoint? (inFlow : Bool) (indent : Int) (cs : List Char) : Option (List Char × List Char) :=
  let spaces := cs.takeWhile (· == ' ')
  match cs.dropWhile (· == ' ') with
  | [] => none
  | c :: rest =>
    if isBreak c then
      match lineEnds (· == ' ') rest.length rest with
      | none => none
      | some (more, next) =>
        let column := ((rest.take (rest.length - next.length)).reverse.takeWhile (!isBreak ·)).length
        if next.head? = some '#' ∨ (!inFlow ∧ (column : Int) ≤ indent) then none
        else some (folded (breakChar c) more, next)
    else if spaces.isEmpty ∨ c = '#' then none
    else some (spaces, c :: rest)

def plainScalar (inFlow : Bool) (indent : Int) : Nat → List Char → List Char × List Char
  | 0, cs => ([], cs)
  | fuel + 1, cs =>
    let (word, rest) := plainWord inFlow cs
    match plainJoint? inFlow indent rest with
    | none => (word, rest)
    | some (joint, next) =>
      if (plainWord inFlow next).1.isEmpty then (word, rest)
      else
        let r := plainScalar inFlow indent fuel next
        (word ++ joint ++ r.1, r.2)

def namedEscapes : List (Char × Char) := [
  ('0', '\x00'), ('a', '\x07'), ('b', '\x08'), ('t', '\t'), ('\t', '\t'), ('n', '\n'), ('v', '\x0b'),
  ('f', '\x0c'), ('r', '\r'), ('e', '\x1b'), (' ', ' '), ('"', '"'), ('\\', '\\'), ('/', '/'),
  ('N', '\x85'), ('_', '\xa0'), ('L', '\u2028'), ('P', '\u2029')]

def numberedEscapes : List (Char × Nat) := [('x', 2), ('u', 4), ('U', 8)]

def escapeNumber? (width : Nat) (cs : List Char) : Option (Char × List Char) :=
  let ds := cs.take width
  if ds.length = width ∧ ds.all (isDigitOf 16) then
    let n := ds.foldl (fun n c => 16 * n + digitOf c) 0
    if n < 0x110000 then some (Char.ofNat n, cs.drop width) else none
  else none

-- What an escape stands for, given what follows the backslash. One at the end of a line joins it to
-- the next.
def unescape? (cs : List Char) : Option (List Char × List Char) :=
  match cs with
  | [] => none
  | c :: rest =>
    match namedEscapes.lookup c, numberedEscapes.lookup c with
    | some d, _ => some ([d], rest)
    | _, some width => (escapeNumber? width rest).map fun r => ([r.1], r.2)
    | none, none => if isBreak c then lineEnds isInlineBlank rest.length rest else none

def quotedScalar (quote : Char) : Nat → List Char → Option (List Char × List Char)
  | 0, _ => none
  | fuel + 1, cs =>
    let followedBy (text rest : List Char) :=
      (quotedScalar quote fuel rest).map fun r => (text ++ r.1, r.2)
    let blanks := cs.takeWhile isInlineBlank
    match cs.dropWhile isInlineBlank with
    | [] => none
    | c :: rest =>
      if isBreak c then
        match lineEnds isInlineBlank rest.length rest with
        | some (more, next) => followedBy (folded (breakChar c) more) next
        | none => none
      else if !blanks.isEmpty then followedBy blanks (c :: rest)
      else if c = quote then
        match rest with
        | '\'' :: rest' => if quote = '\'' then followedBy ['\''] rest' else some ([], rest)
        | _ => some ([], rest)
      else if c = '\\' ∧ quote = '"' then
        match unescape? rest with
        | some (text, next) => followedBy text next
        | none => none
      else followedBy [c] rest

end PagedTable.Yaml
