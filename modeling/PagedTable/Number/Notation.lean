import PagedTable.Number.Basic

namespace PagedTable

def natText (n : Nat) : List Char := Nat.toDigits 10 n

def intText (n : Int) : List Char :=
  if n < 0 then '-' :: natText n.natAbs else natText n.natAbs

def padded (width n : Nat) : List Char :=
  let ds := natText n
  List.replicate (width - ds.length) '0' ++ ds

namespace Binary64

-- Where positional notation ends, and the form of the exponent.
def leastPositional : Int := -4
def firstScientific : Int := 16

def positional (ds : List Char) (point : Int) : List Char :=
  if point ≤ 0 then '0' :: '.' :: (List.replicate (-point).toNat '0' ++ ds)
  else
    let before := point.toNat
    if ds.length ≤ before then ds ++ List.replicate (before - ds.length) '0' ++ ['.', '0']
    else ds.take before ++ '.' :: ds.drop before

def scientific (ds : List Char) (power : Int) : List Char :=
  let fraction := if ds.length ≤ 1 then [] else '.' :: ds.drop 1
  ds.take 1 ++ fraction ++ 'e' :: (if power < 0 then '-' else '+') :: padded 2 power.natAbs

def text (x : Binary64) : List Char :=
  let sign := if x.negative then ['-'] else []
  if x.mantissa = 0 then sign ++ ['0', '.', '0']
  else
    let d := x.shortest
    let ds := natText d.digits
    let point := d.scale + ds.length
    sign ++
      (if leastPositional ≤ point - 1 ∧ point - 1 < firstScientific then positional ds point
       else scientific ds (point - 1))

end Binary64

namespace Number

def text : Number → String
  | .int n => String.ofList (intText n)
  | .real x => String.ofList x.text
  | .truth b => if b then "True" else "False"

end Number

end PagedTable
