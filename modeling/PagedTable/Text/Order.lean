namespace PagedTable.Text

def charsAtMost : List Char → List Char → Bool
  | [], _ => true
  | _ :: _, [] => false
  | c :: cs, d :: ds => c.toNat < d.toNat || (c == d && charsAtMost cs ds)

def atMost (a b : String) : Bool := charsAtMost a.toList b.toList

def insert (s : String) : List String → List String
  | [] => [s]
  | t :: rest => if atMost s t then s :: t :: rest else t :: insert s rest

def sort (texts : List String) : List String := texts.foldr insert []

def distinct : List String → List String
  | [] => []
  | s :: rest => s :: (distinct rest).filter (· ≠ s)

end PagedTable.Text
