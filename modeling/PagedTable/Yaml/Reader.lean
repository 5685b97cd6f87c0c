import PagedTable.Yaml.Words
import PagedTable.Value.Text
import PagedTable.Entries

namespace PagedTable.Yaml

-- The name under which a map keeps a key. Collections cannot be keys.
def keyText? : Value → Option String
  | .text s => some s
  | .list _ | .tuple _ | .set _ | .map _ | .object _ _ | .range _ _ => none
  | v => some v.plain

mutual

-- A scalar, or a collection in brackets. `indent` is the column of the block collection that it is
-- in.
def inline (inFlow : Bool) (indent : Int) : Nat → Cursor → Option (Value × Cursor)
  | 0, _ => none
  | fuel + 1, c =>
    let size := c.rest.length + 1
    match c.rest with
    | [] => none
    | ch :: rest =>
      if ch = '\'' ∨ ch = '"' then
        (quotedScalar ch size rest).map fun r => (.text (String.ofList r.1), c.moveTo r.2)
      else if ch = '[' then flowItems [] fuel (c.advance 1).skip
      else if ch = '\x7b' then flowFields [] fuel (c.advance 1).skip
      else if startsPlain inFlow c.rest then
        let r := plainScalar inFlow indent size c.rest
        (plainValue? (String.ofList r.1)).map fun v => (v, c.moveTo r.2)
      else none

def flowValue : Nat → Cursor → Option (Value × Cursor)
  | 0, _ => none
  | fuel + 1, c =>
    if c.head? = some ',' ∨ c.head? = some ']' ∨ c.head? = some '\x7d' then some (.null, c)
    else (inline true 0 fuel c).map fun r => (r.1, r.2.skip)

-- The items up to the closing bracket. An item may be a map of one key.
def flowItems (items : List Value) : Nat → Cursor → Option (Value × Cursor)
  | 0, _ => none
  | fuel + 1, c =>
    if c.atEnd then none
    else if c.head? = some ']' then some (.list items.reverse, c.advance 1)
    else do
      let (v, after) ← inline true 0 fuel c
      let next := after.skip
      let (item, next) ←
        if next.head? = some ':' ∧ next.line = c.line then do
          let key ← keyText? v
          let (x, next) ← flowValue fuel (next.advance 1).skip
          some (.map [(key, x)], next)
        else some (v, next)
      if next.head? = some ',' then flowItems (item :: items) fuel (next.advance 1).skip
      else if next.head? = some ']' then some (.list (item :: items).reverse, next.advance 1)
      else none

def flowFields (fields : List (String × Value)) : Nat → Cursor → Option (Value × Cursor)
  | 0, _ => none
  | fuel + 1, c =>
    if c.atEnd then none
    else if c.head? = some '\x7d' then some (.map fields, c.advance 1)
    else do
      let (k, after) ← inline true 0 fuel c
      let key ← keyText? k
      let next := after.skip
      let (v, next) ←
        if next.head? = some ':' ∧ next.line = c.line then flowValue fuel (next.advance 1).skip
        else some (.null, next)
      let fields := Entries.put key v fields
      if next.head? = some ',' then flowFields fields fuel (next.advance 1).skip
      else if next.head? = some '\x7d' then some (.map fields, next.advance 1)
      else none

end

mutual

-- What stands at a place deeper than its parent's column. A key may start here unless something
-- stands before it on the line.
def node (indent : Int) (keyAllowed : Bool) : Nat → Cursor → Option (Value × Cursor)
  | 0, _ => none
  | fuel + 1, c =>
    if c.hasMark '-' then (if keyAllowed then sequence true c.column [] fuel c else none)
    else if c.hasMark '?' then (if keyAllowed then mapping c.column [] fuel c else none)
    else do
      let (v, after) ← inline false indent fuel c
      let next := after.skip
      if next.hasMark ':' && next.line == c.line then
        if keyAllowed then mapping c.column [] fuel c else none
      else some (v, next)

def part (column : Nat) (keyAllowed : Bool) : Nat → Cursor → Option (Value × Cursor)
  | 0, _ => none
  | fuel + 1, c =>
    if c.atEnd || c.column < column then some (.null, c)
    else if c.column = column then
      if c.hasMark '-' then sequence false column [] fuel c else some (.null, c)
    else node column keyAllowed fuel c

def mapping (column : Nat) (fields : List (String × Value)) : Nat → Cursor → Option (Value × Cursor)
  | 0, _ => none
  | fuel + 1, c =>
    if c.atEnd || c.column < column then some (.map fields, c)
    else if column < c.column then none
    else if c.hasMark '?' then do
      let (k, next) ← part column true fuel (c.advance 1).skip
      let key ← keyText? k
      let (v, next) ←
        if !next.atEnd && next.column == column && next.hasMark ':' then
          part column true fuel (next.advance 1).skip
        else some (.null, next)
      mapping column (Entries.put key v fields) fuel next
    else do
      let (k, after) ← inline false column fuel c
      let key ← keyText? k
      let colon := after.skip
      if !(colon.hasMark ':' && colon.line == c.line) then none
      let start := (colon.advance 1).skip
      let (v, next) ← part column (start.line ≠ colon.line) fuel start
      mapping column (Entries.put key v fields) fuel next

-- The items of a block list from here on. In the column of a map the list ends where the next key
-- comes; elsewhere only a lesser column ends it.
def sequence (ownColumn : Bool) (column : Nat) (items : List Value) :
    Nat → Cursor → Option (Value × Cursor)
  | 0, _ => none
  | fuel + 1, c =>
    if c.atEnd || c.column < column then some (.list items.reverse, c)
    else if column < c.column then none
    else if c.hasMark '-' then do
      let start := (c.advance 1).skip
      let (v, next) ←
        if start.atEnd || start.column ≤ column then some (.null, start)
        else node column true fuel start
      sequence ownColumn column (v :: items) fuel next
    else if ownColumn then none
    else some (.list items.reverse, c)

end

def isForbidden (c : Char) : Bool :=
  let n := c.toNat
  !(n = 0x09 || n = 0x0a || n = 0x0d || (0x20 ≤ n && n ≤ 0x7e) || n = 0x85 || (0xa0 ≤ n && n ≤ 0xd7ff) ||
    (0xe000 ≤ n && n ≤ 0xfffd) || 0x10000 ≤ n)

def unifyLineEnds : List Char → List Char
  | '\r' :: '\n' :: rest => '\n' :: unifyLineEnds rest
  | '\r' :: rest => '\n' :: unifyLineEnds rest
  | c :: rest => c :: unifyLineEnds rest
  | [] => []

def endsWell : Nat → Cursor → Bool
  | 0, _ => false
  | fuel + 1, c =>
    c.rest.isEmpty ||
      (c.column == 0 && isMarker c.rest && c.head? == some '.' && endsWell fuel (c.advance 3).skip)

-- Settings use no anchors, tags and block scalars, and text that does is not read.
def read? (s : String) : Option Value :=
  let cs := unifyLineEnds s.toList
  if cs.any isForbidden then none
  else
    let cs := if cs.head? = some '\ufeff' then cs.drop 1 else cs
    let first := (Cursor.mk cs 0 0).skip
    let marked := first.column == 0 && isMarker first.rest && first.head? == some '-'
    let start := if marked then (first.advance 3).skip else first
    if start.rest.isEmpty || (marked && start.atEnd) then
      if endsWell (cs.length + 1) start then some .null else none
    else
      match node (-1) (!marked || start.line ≠ first.line) (4 * cs.length + 8) start with
      | some (v, next) => if endsWell (cs.length + 1) next then some v else none
      | none => none

end PagedTable.Yaml
