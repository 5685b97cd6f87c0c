import PagedTable.Json.Basic
import PagedTable.Number.Notation
import PagedTable.Text.Quoted
import PagedTable.Text.Order

namespace PagedTable.Json

def unitEscape (n : Nat) : List Char := '\\' :: 'u' :: Text.hexDigits 4 n

def escape (c : Char) : List Char :=
  if c = '"' ∨ c = '\\' then ['\\', c]
  else if 0x20 ≤ c.toNat ∧ c.toNat < 0x7f then [c]
  else if c.toNat < 0x10000 then unitEscape c.toNat
  else unitEscape (0xd800 + (c.toNat - 0x10000) / 0x400) ++ unitEscape (0xdc00 + (c.toNat - 0x10000) % 0x400)

def quoted (s : String) : List Char := '"' :: (s.toList.flatMap escape ++ ['"'])

def numberText : Number → List Char
  | .truth true => "true".toList
  | .truth false => "false".toList
  | n => n.text.toList

def sortFields (fs : List (String × Json)) : List (String × Json) :=
  fs.mergeSort fun a b => Text.atMost a.1 b.1

mutual

def sorted : Json → Json
  | .array xs => .array (sortedItems xs)
  | .object fs => .object (sortFields (sortedFields fs))
  | j => j

def sortedItems : List Json → List Json
  | [] => []
  | x :: xs => x.sorted :: sortedItems xs

def sortedFields : List (String × Json) → List (String × Json)
  | [] => []
  | (key, x) :: fs => (key, x.sorted) :: sortedFields fs

end

mutual

-- The text of a document as it stands, in front of what follows it.
def written : Json → List Char → List Char
  | .null, rest => "null".toList ++ rest
  | .number n, rest => numberText n ++ rest
  | .text s, rest => quoted s ++ rest
  | .array xs, rest => '[' :: writtenItems [] xs (']' :: rest)
  | .object fs, rest => '\x7b' :: writtenFields [] fs ('\x7d' :: rest)

-- Items, the first after the given separator and the others after a comma.
def writtenItems (separator : List Char) : List Json → List Char → List Char
  | [], rest => rest
  | x :: xs, rest => separator ++ x.written (writtenItems [','] xs rest)

def writtenFields (separator : List Char) : List (String × Json) → List Char → List Char
  | [], rest => rest
  | (key, x) :: fs, rest =>
    separator ++ quoted key ++ ':' :: x.written (writtenFields [','] fs rest)

end

def write (j : Json) : String := String.ofList (j.sorted.written [])

end PagedTable.Json
