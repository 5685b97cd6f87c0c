import PagedTable.Value.Basic

namespace PagedTable.Members

def has (v : Value) (xs : List Value) : Bool := xs.any fun x => x.same v

-- Keeps the first of equal members.
def add (xs : List Value) (v : Value) : List Value := if has v xs then xs else xs ++ [v]

def ofList (vs : List Value) : List Value := vs.foldl add []

def meet (xs ys : List Value) : List Value := xs.filter fun x => has x ys

def without (v : Value) (xs : List Value) : List Value := xs.filter fun x => !x.same v

def same (xs ys : List Value) : Bool :=
  xs.length == ys.length && xs.all fun x => has x ys

end PagedTable.Members
