import PagedTable.Number.Shortest

namespace PagedTable

-- A fraction is finite: neither infinities nor what is no number are modelled. Where a product would be
-- infinite there is none, and a query that needs it fails.
inductive Number where
  | int (n : Int)
  | real (x : Binary64)
  | truth (b : Bool)
deriving DecidableEq

namespace Number

instance : OfNat Number n := ⟨.int n⟩
instance : Inhabited Number := ⟨0⟩

def value : Number → Int × Nat
  | .int n => (n, 1)
  | .real x => x.value
  | .truth b => (if b then 1 else 0, 1)

-- Equality of value: an integer equals the fraction and the truth value of the same size.
def same (a b : Number) : Bool :=
  a.value.1 * b.value.2 == b.value.1 * a.value.2

def less (a b : Number) : Bool :=
  a.value.1 * b.value.2 < b.value.1 * a.value.2

def atMost (a b : Number) : Bool := !less b a

def isZero (a : Number) : Bool := a.value.1 == 0

def whole? : Number → Option Int
  | .int n => some n
  | .truth b => some (if b then 1 else 0)
  | .real _ => none

-- As a binary fraction, for arithmetic with one; none when too large.
def toBinary : Number → Option Binary64
  | .real x => some x
  | .int n => Binary64.ofInt n
  | .truth b => Binary64.ofInt (if b then 1 else 0)

-- The product: exact on integers, rounded once as soon as a fraction takes part.
def mul (a b : Number) : Option Number :=
  match a.whole?, b.whole? with
  | some m, some n => some (.int (m * n))
  | _, _ => do
    let x ← a.toBinary
    let y ← b.toBinary
    (x.mul y).map .real

end Number

end PagedTable
