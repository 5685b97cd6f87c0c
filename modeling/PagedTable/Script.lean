import PagedTable.Failure

namespace PagedTable

-- A subscriber with a name: when it is called it runs its steps and may then fail.
structure Callback (α : Type) where
  name : String
  steps : List α := []
  fails : Bool := false

-- Positions count from 0, or from the end when negative.
def position? (length : Nat) (i : Int) : Option Nat :=
  if 0 ≤ i then (if i.toNat < length then some i.toNat else none)
  else if (-i).toNat ≤ length then some (length - (-i).toNat)
  else none

def positionText (i : Int) : String := String.ofList (intText i)

def position (length : Nat) (i : Int) : Except Fault Nat :=
  match position? length i with
  | some n => .ok n
  | none => .error (.absent (positionText i))

def callbackFault : Fault := .trouble (.run "callback failed")

end PagedTable
