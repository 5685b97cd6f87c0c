import PagedTable.Number.Binary64

namespace PagedTable.Binary64

structure Decimal where
  digits : Nat
  scale : Int
deriving DecidableEq

def decimalLength (n : Nat) : Nat := (Nat.toDigits 10 n).length

def leadingPower (num den : Nat) : Int :=
  if den ≤ num then (decimalLength (num / den) : Int) - 1
  else -(decimalLength ((den + num - 1) / num - 1) : Int)

-- The rounding interval of a number in quarters of its last binary place: the lower end is half as
-- far away where the mantissa is a power of two, because the binary grid is finer below it.
def lowerGap (x : Binary64) : Nat :=
  if x.mantissa = Nat.pow 2 52 ∧ leastExponent < x.exponent then 1 else 2

-- A decimal grid `10 ^ scale` against quarters of the last place: `digits * grid` is the decimal
-- and `quarters * place` the binary side, over one common denominator.
structure Grid where
  grid : Nat
  place : Nat

def gridAt (x : Binary64) (scale : Int) : Grid where
  grid := Nat.pow 10 scale.toNat * Nat.pow 2 (2 - x.exponent).toNat
  place := Nat.pow 2 (x.exponent - 2).toNat * Nat.pow 10 (-scale).toNat

-- Whether `digits` on the grid rounds to `x`; the ends count when the mantissa is even.
def readsBack (x : Binary64) (g : Grid) (digits : Nat) : Bool :=
  let low := (4 * x.mantissa - lowerGap x) * g.place
  let high := (4 * x.mantissa + 2) * g.place
  let at' := digits * g.grid
  if x.mantissa % 2 = 0 then low ≤ at' && at' ≤ high else low < at' && at' < high

def distance (x : Binary64) (g : Grid) (digits : Nat) : Nat :=
  let exact := 4 * x.mantissa * g.place
  let at' := digits * g.grid
  (at' - exact) + (exact - at')

-- The better of the two grid points around `x`, if one of them reads back.
def onGrid (x : Binary64) (scale : Int) : Option Nat :=
  let g := gridAt x scale
  let down := 4 * x.mantissa * g.place / g.grid
  let up := down + 1
  match readsBack x g down, readsBack x g up with
  | true, true =>
    let a := distance x g down
    let b := distance x g up
    some (if a < b then down else if b < a then up else if down % 2 = 0 then down else up)
  | true, false => some down
  | false, true => some up
  | false, false => none

def search (x : Binary64) (scale : Int) : Nat → Decimal
  | 0 => ⟨(onGrid x scale).getD 0, scale⟩
  | tries + 1 =>
    match onGrid x scale with
    | some digits => ⟨digits, scale⟩
    | none => search x (scale - 1) tries

def dropZeros (d : Decimal) : Nat → Decimal
  | 0 => d
  | fuel + 1 => if d.digits % 10 = 0 then dropZeros ⟨d.digits / 10, d.scale + 1⟩ fuel else d

-- The shortest decimal of the magnitude. Seventeen digits always suffice.
def shortest (x : Binary64) : Decimal :=
  if x.mantissa = 0 then ⟨0, 0⟩
  else
    let r := x.ratio
    dropZeros (search x (leadingPower r.1 r.2) 17) 20

end PagedTable.Binary64
