namespace PagedTable.Text

-- The characters that count as blank: the controls that separate lines and fields, and the
-- spaces. Zero-width characters do not count.
def blank : List (Nat × Nat) := [
  (0x09, 0x0d), (0x1c, 0x20), (0x85, 0x85), (0xa0, 0xa0), (0x1680, 0x1680), (0x2000, 0x200a),
  (0x2028, 0x2029), (0x202f, 0x202f), (0x205f, 0x205f), (0x3000, 0x3000)]

def isBlank (c : Char) : Bool := blank.any fun r => r.1 ≤ c.toNat && c.toNat ≤ r.2

def dropBlank (cs : List Char) : List Char := cs.dropWhile isBlank

def stripChars (cs : List Char) : List Char := (dropBlank (dropBlank cs).reverse).reverse

def strip (s : String) : String := String.ofList (stripChars s.toList)

end PagedTable.Text
