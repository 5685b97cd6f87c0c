import PagedTable.Yaml.Cursor
import PagedTable.Text.Quoted
import PagedTable.Text.Order

namespace PagedTable.Yaml

def lineWidth : Nat := 80

-- A key of this length or more is marked by a question mark, and so is an empty one.
def longKey : Nat := 123

def spaces (n : Nat) : List Char := List.replicate n ' '

def isSpecial (c : Char) : Bool := c ≠ '\n' && !(0x20 ≤ c.toNat && c.toNat ≤ 0x7e)

def hasBreaks (cs : List Char) : Bool := cs.any isBreak

def hasPair (first second : Char → Bool) : List Char → Bool
  | a :: b :: rest => (first a && second b) || hasPair first second (b :: rest)
  | _ => false

def isSpace (c : Char) : Bool := c == ' '

-- Single quotes can hold all but special characters and line ends next to a space.
def fitsSingleQuotes (cs : List Char) : Bool :=
  !cs.any isSpecial && !hasPair isSpace isBreak cs && !hasPair isBreak isSpace cs

def startsMarked (cs : List Char) : Bool :=
  match cs with
  | [] => false
  | c :: rest =>
    ['#', ',', '[', ']', '\x7b', '\x7d', '&', '*', '!', '|', '>', '\'', '"', '%', '@',
      Char.ofNat 0x60].contains c ||
    ((c == '?' || c == ':' || c == '-') && wordEnds rest) ||
    cs.take 3 == ['-', '-', '-'] || cs.take 3 == ['.', '.', '.']

-- A colon that ends a word would make a key of it, a number sign that starts one a comment.
def holdsMark (cs : List Char) : Bool :=
  cs.getLast? == some ':' || hasPair (· == ':') isInlineBlank cs || hasPair isInlineBlank (· == '#') cs

def atEnds (p : Char → Bool) (cs : List Char) : Bool :=
  (cs.head?.map p).getD false || (cs.getLast?.map p).getD false

def fitsPlain (cs : List Char) : Bool :=
  !cs.isEmpty && isPlainText (String.ofList cs) && !cs.any isSpecial && !hasBreaks cs &&
    !atEnds isSpace cs && !startsMarked cs && !holdsMark cs

def columnAfter (column : Nat) (text : List Char) : Nat := column + text.length

def newLine (indent : Nat) : List Char := '\n' :: spaces indent

-- Plain text from a column on. A single space past the width becomes a line break.
def plainLines (folds : Bool) (indent : Nat) : Nat → Nat → List Char → List Char
  | 0, _, cs => cs
  | fuel + 1, column, cs =>
    let word := cs.takeWhile (!isSpace ·)
    let gap := (cs.dropWhile (!isSpace ·)).takeWhile isSpace
    let rest := cs.drop (word.length + gap.length)
    let column := columnAfter column word
    if gap.isEmpty then word
    else if folds && gap.length == 1 && lineWidth < column then
      word ++ newLine indent ++ plainLines folds indent fuel indent rest
    else word ++ gap ++ plainLines folds indent fuel (columnAfter column gap) rest

-- The inside of single quotes. A quote is doubled, a line end becomes an empty line, and a single
-- space past the width a line break, except at either end of the text.
def singleLines (folds : Bool) (indent : Nat) : Nat → Bool → Nat → List Char → List Char
  | 0, _, _, cs => cs
  | _ + 1, _, _, [] => []
  | fuel + 1, atStart, column, c :: cs =>
    if isSpace c then
      let gap := (c :: cs).takeWhile isSpace
      let rest := (c :: cs).dropWhile isSpace
      if folds && gap.length == 1 && lineWidth < column && !atStart && !rest.isEmpty then
        newLine indent ++ singleLines folds indent fuel false indent rest
      else gap ++ singleLines folds indent fuel false (columnAfter column gap) rest
    else if isBreak c then
      let ends := (c :: cs).takeWhile isBreak
      let rest := (c :: cs).dropWhile isBreak
      '\n' :: (ends ++ spaces indent ++ singleLines folds indent fuel false indent rest)
    else if c = '\'' then '\'' :: '\'' :: singleLines folds indent fuel false (column + 2) cs
    else c :: singleLines folds indent fuel false (column + 1) cs

def letterEscapes : List (Char × Char) := [
  ('\x00', '0'), ('\x07', 'a'), ('\x08', 'b'), ('\t', 't'), ('\n', 'n'), ('\x0b', 'v'), ('\x0c', 'f'),
  ('\r', 'r'), ('\x1b', 'e'), ('"', '"'), ('\\', '\\'), ('\x85', 'N'), ('\xa0', '_'), ('\u2028', 'L'),
  ('\u2029', 'P')]

def hexCapitals (width n : Nat) : List Char := (Text.hexDigits width n).map Char.toUpper

def escape? (c : Char) : Option (List Char) :=
  match letterEscapes.lookup c with
  | some letter => some ['\\', letter]
  | none =>
    if 0x20 ≤ c.toNat ∧ c.toNat ≤ 0x7e then none
    else if c.toNat ≤ 0xff then some ('\\' :: 'x' :: hexCapitals 2 c.toNat)
    else if c.toNat ≤ 0xffff then some ('\\' :: 'u' :: hexCapitals 4 c.toNat)
    else some ('\\' :: 'U' :: hexCapitals 8 c.toNat)

-- The inside of double quotes. `held` is what was read since the last write; `column` is where it
-- will go. Past the width the line is broken at a space or after an escape, with a backslash at the
-- end and another one in front of a space that starts the next line.
def doubleLines (folds : Bool) (indent : Nat) (first : Bool) (column : Nat) (held : List Char) :
    List Char → List Char
  | [] => held
  | c :: rest =>
    let escaped := escape? c
    let text := held ++ escaped.getD []
    let column' := if escaped.isSome then columnAfter column text else column
    let held' := if escaped.isSome then [] else held
    -- The character after an escape is counted as if it had been written already.
    let reached := if escaped.isSome then column' - 1 else columnAfter column' held'
    let breakable := folds && !first && !rest.isEmpty && (c == ' ' || held'.isEmpty) &&
      lineWidth < reached
    let written := if escaped.isSome then text else []
    if breakable then
      let line := written ++ held' ++ ['\\'] ++ newLine indent
      -- After an escape the next character is still to come; otherwise it is this one.
      if escaped.isSome then
        let lead := if rest.head? = some ' ' then ['\\'] else []
        line ++ lead ++ doubleLines folds indent false (indent + lead.length) [] rest
      else
        let lead := if c = ' ' then ['\\'] else []
        line ++ lead ++ doubleLines folds indent false (indent + lead.length) [c] rest
    else
      written ++ doubleLines folds indent false column'
        (if escaped.isSome then [] else held' ++ [c]) rest

-- A text from a column on; its further lines are indented. Keys stay on one line.
def scalarText (isKey : Bool) (indent column : Nat) (s : String) : List Char :=
  let cs := s.toList
  let fuel := cs.length + 1
  if fitsPlain cs then plainLines (!isKey) indent fuel column cs
  else if fitsSingleQuotes cs && !(isKey && hasBreaks cs) then
    '\'' :: (singleLines (!isKey) indent fuel true (column + 1) cs ++ ['\''])
  else '"' :: (doubleLines (!isKey) indent true (column + 1) [] cs ++ ['"'])

def fractionText (x : Binary64) : List Char :=
  let cs := x.text
  if cs.contains '.' then cs
  else cs.takeWhile (· ≠ 'e') ++ (if cs.contains 'e' then ['.', '0'] else []) ++ cs.dropWhile (· ≠ 'e')

def plainText : Value → List Char
  | .bool b => (if b then "true" else "false").toList
  | .number (.real x) => fractionText x
  | .number n => n.text.toList
  | .date d => d.iso
  | .moment m => m.isoWith ' '
  | _ => "null".toList

mutual

def isWritable : Value → Bool
  | .range _ _ | .object _ _ | .set _ => false
  | .list xs | .tuple xs => areWritable xs
  | .map fs => fieldsWritable fs
  | _ => true

def areWritable : List Value → Bool
  | [] => true
  | x :: xs => isWritable x && areWritable xs

def fieldsWritable : List (String × Value) → Bool
  | [] => true
  | (_, x) :: fs => isWritable x && fieldsWritable fs

end

mutual

def sortKeys : Value → Value
  | .list xs => .list (sortKeysIn xs)
  | .tuple xs => .tuple (sortKeysIn xs)
  | .map fs => .map ((sortKeysBelow fs).mergeSort fun a b => Text.atMost a.1 b.1)
  | v => v

def sortKeysIn : List Value → List Value
  | [] => []
  | x :: xs => sortKeys x :: sortKeysIn xs

def sortKeysBelow : List (String × Value) → List (String × Value)
  | [] => []
  | (key, x) :: fs => (key, sortKeys x) :: sortKeysBelow fs

end

def isSimpleKey (key : String) : Bool :=
  key ≠ "" && key.length < longKey && !hasBreaks key.toList

-- A key and its mark: a colon after a simple key, otherwise a question mark in front and a colon at
-- the start of the next line.
def keyText (indent : Nat) (key : String) : List Char :=
  if isSimpleKey key then scalarText true indent indent key ++ [':']
  else '?' :: ' ' :: (scalarText false (indent + 2) (indent + 2) key ++ newLine indent ++ [':'])

mutual

-- A value that starts on the line of the mark before it, such as the hyphen of an item at column
-- `indent`.
def afterMark (indent : Nat) : Value → List Char
  | .text s => ' ' :: scalarText false (indent + 2) (indent + 2) s
  | .list xs => if xs.isEmpty then " []".toList else ' ' :: itemLines (indent + 2) [] xs
  | .tuple xs => if xs.isEmpty then " []".toList else ' ' :: itemLines (indent + 2) [] xs
  | .map fs => if fs.isEmpty then " \x7b\x7d".toList else ' ' :: fieldLines (indent + 2) [] fs
  | v => ' ' :: plainText v

def afterKey (indent column : Nat) : Value → List Char
  | .text s => ' ' :: scalarText false (indent + 2) (column + 1) s
  | .list xs => if xs.isEmpty then " []".toList else itemLines indent (newLine indent) xs
  | .tuple xs => if xs.isEmpty then " []".toList else itemLines indent (newLine indent) xs
  | .map fs =>
    if fs.isEmpty then " \x7b\x7d".toList else fieldLines (indent + 2) (newLine (indent + 2)) fs
  | v => ' ' :: plainText v

-- The items of a list at a column, each after a line break but the first, which comes after
-- `lead`.
def itemLines (indent : Nat) (lead : List Char) : List Value → List Char
  | [] => []
  | x :: xs => lead ++ '-' :: (afterMark indent x ++ itemLines indent (newLine indent) xs)

def fieldLines (indent : Nat) (lead : List Char) : List (String × Value) → List Char
  | [] => []
  | (key, v) :: fs =>
    let mark := keyText indent key
    let value := if isSimpleKey key then afterKey indent (indent + mark.length) v else afterMark indent v
    lead ++ mark ++ value ++ fieldLines indent (newLine indent) fs

end

-- The text of a map as a whole document; none when a value has no written form.
def write? (fields : List (String × Value)) : Option String :=
  if !fieldsWritable fields then none
  else
    match sortKeys (.map fields) with
    | .map (f :: fs) => some (String.ofList (fieldLines 0 [] (f :: fs) ++ ['\n']))
    | _ => some "\x7b\x7d\n"

end PagedTable.Yaml
