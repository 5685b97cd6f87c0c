namespace PagedTable

-- The number is `mantissa * 2 ^ exponent`, with the sign kept apart so that zero has one too.
structure Binary64 where
  negative : Bool
  mantissa : Nat
  exponent : Int
deriving DecidableEq

-- Rounds `num / den` to an integer; a half goes to the even neighbour.
def roundHalfEven (num den : Nat) : Nat :=
  let low := num / den
  let rest := num % den
  if 2 * rest < den then low
  else if den < 2 * rest then low + 1
  else if low % 2 = 0 then low else low + 1

-- The ratio `num / den` divided by `2 ^ e`, again as a ratio.
def scaleDown (num den : Nat) (e : Int) : Nat × Nat :=
  if 0 ≤ e then (num, den * Nat.pow 2 e.toNat) else (num * Nat.pow 2 (-e).toNat, den)

namespace Binary64

def zero : Binary64 := ⟨false, 0, -1074⟩

-- The least exponent, and the exponent above which a number does not fit.
def leastExponent : Int := -1074
def greatestExponent : Int := 971

-- The exponent at which `num / den` has a mantissa of 53 bits, or the least one.
def exponentOf (num den : Nat) : Int :=
  let guess : Int := (num.log2 : Int) - (den.log2 : Int) - 52
  let scaled := scaleDown num den guess
  let exact := if scaled.1 < Nat.pow 2 52 * scaled.2 then guess - 1 else guess
  max exact leastExponent

-- The nearest number to `num / den`; none when that is too large to fit.
def nearest (negative : Bool) (num den : Nat) : Option Binary64 :=
  if num = 0 ∨ den = 0 then some { zero with negative }
  else
    let e := exponentOf num den
    let scaled := scaleDown num den e
    let m := roundHalfEven scaled.1 scaled.2
    let carried := if m = Nat.pow 2 53 then (Nat.pow 2 52, e + 1) else (m, e)
    if greatestExponent < carried.2 then none else some ⟨negative, carried.1, carried.2⟩

def ratio (x : Binary64) : Nat × Nat :=
  if 0 ≤ x.exponent then (x.mantissa * Nat.pow 2 x.exponent.toNat, 1)
  else (x.mantissa, Nat.pow 2 (-x.exponent).toNat)

def value (x : Binary64) : Int × Nat :=
  let r := x.ratio
  (if x.negative then -(r.1 : Int) else r.1, r.2)

def isZero (x : Binary64) : Bool := x.mantissa == 0

def mul (x y : Binary64) : Option Binary64 :=
  let a := x.ratio
  let b := y.ratio
  nearest (x.negative != y.negative) (a.1 * b.1) (a.2 * b.2)

def ofInt (n : Int) : Option Binary64 := nearest (n < 0) n.natAbs 1

def ofDecimal (negative : Bool) (digits : Nat) (scale : Int) : Option Binary64 :=
  if 0 ≤ scale then nearest negative (digits * Nat.pow 10 scale.toNat) 1
  else nearest negative digits (Nat.pow 10 (-scale).toNat)

def truncate (x : Binary64) : Int :=
  let r := x.ratio
  let whole : Int := (r.1 / r.2 : Nat)
  if x.negative then -whole else whole

end Binary64

end PagedTable
