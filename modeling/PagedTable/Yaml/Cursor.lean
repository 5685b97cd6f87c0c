import PagedTable.Yaml.Scalar

namespace PagedTable.Yaml

structure Cursor where
  rest : List Char
  line : Nat := 0
  column : Nat := 0

def isBreak (c : Char) : Bool := c == '\n' || c == '\x85' || c == '\u2028' || c == '\u2029'

def breakChar (c : Char) : Char := if c == '\x85' then '\n' else c

def isInlineBlank (c : Char) : Bool := c == ' ' || c == '\t'

-- Whether a word ends here: at a blank, at the end of a line or of the text.
def wordEnds (cs : List Char) : Bool :=
  match cs with
  | [] => true
  | c :: _ => isInlineBlank c || isBreak c

-- Three hyphens or points alone separate documents when they start a line.
def isMarker (cs : List Char) : Bool :=
  match cs with
  | '-' :: '-' :: '-' :: rest | '.' :: '.' :: '.' :: rest => wordEnds rest
  | _ => false

namespace Cursor

def step (c : Cursor) (ch : Char) : Cursor :=
  if isBreak ch then { c with line := c.line + 1, column := 0 } else { c with column := c.column + 1 }

-- The cursor where `rest`, an end of what is left, begins.
def moveTo (c : Cursor) (rest : List Char) : Cursor :=
  { (c.rest.take (c.rest.length - rest.length)).foldl step c with rest }

def advance (c : Cursor) (n : Nat) : Cursor := c.moveTo (c.rest.drop n)

-- The next place that holds something; the flag tells if a comment is being passed.
def skipFrom (inComment : Bool) : List Char → Nat → Nat → Cursor
  | [], line, column => ⟨[], line, column⟩
  | ch :: rest, line, column =>
    if isBreak ch then skipFrom false rest (line + 1) 0
    else if inComment || ch == '#' then skipFrom true rest line (column + 1)
    else if ch == ' ' then skipFrom false rest line (column + 1)
    else ⟨ch :: rest, line, column⟩

def skip (c : Cursor) : Cursor := skipFrom false c.rest c.line c.column

def atEnd (c : Cursor) : Bool := c.rest.isEmpty || (c.column == 0 && isMarker c.rest)

def head? (c : Cursor) : Option Char := c.rest.head?

def hasMark (c : Cursor) (mark : Char) : Bool :=
  match c.rest with
  | ch :: rest => ch == mark && wordEnds rest
  | [] => false

end Cursor

-- The line ends up to the next line that holds something, with the blanks at the start of the
-- lines dropped, and what follows. None where a line separates documents.
def lineEnds (isBlank : Char → Bool) : Nat → List Char → Option (List Char × List Char)
  | 0, cs => some ([], cs)
  | fuel + 1, cs =>
    if isMarker cs then none
    else
      match cs.dropWhile isBlank with
      | c :: rest =>
        if isBreak c then (lineEnds isBlank fuel rest).map fun r => (breakChar c :: r.1, r.2)
        else some ([], c :: rest)
      | [] => some ([], [])

-- What a line end and the empty lines after it stand for: a single line end for a space.
def folded (lineEnd : Char) (more : List Char) : List Char :=
  if lineEnd ≠ '\n' then lineEnd :: more else if more.isEmpty then [' '] else more

end PagedTable.Yaml
