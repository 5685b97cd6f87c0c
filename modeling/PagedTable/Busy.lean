namespace PagedTable

-- The owners in the order in which they acquired it.
structure BusyIndicator (ω : Type) where
  owners : List ω := []

inductive BusyEvent where
  | count (n : Nat)
  | busy (b : Bool)
deriving DecidableEq

namespace BusyIndicator

variable {ω : Type} [DecidableEq ω]

def count (b : BusyIndicator ω) : Nat := b.owners.length

def isBusy (b : BusyIndicator ω) : Bool := !b.owners.isEmpty

def holds (b : BusyIndicator ω) (owner : ω) : Bool := b.owners.contains owner

def acquire (owner : ω) (b : BusyIndicator ω) : BusyIndicator ω × List BusyEvent :=
  if b.holds owner then (b, [])
  else
    let next : BusyIndicator ω := { owners := b.owners ++ [owner] }
    (next, .count next.count :: if b.isBusy then [] else [.busy true])

def release (owner : ω) (b : BusyIndicator ω) : BusyIndicator ω × List BusyEvent :=
  if b.holds owner then
    let next : BusyIndicator ω := { owners := b.owners.filter fun o => o ≠ owner }
    (next, .count next.count :: if next.isBusy then [] else [.busy false])
  else (b, [])

end BusyIndicator

inductive BusyStep (ω : Type) where
  | acquire (owner : ω)
  | release (owner : ω)

namespace BusyIndicator

variable {ω : Type} [DecidableEq ω]

def perform (b : BusyIndicator ω) : BusyStep ω → BusyIndicator ω × List BusyEvent
  | .acquire owner => b.acquire owner
  | .release owner => b.release owner

def run (b : BusyIndicator ω) : List (BusyStep ω) → BusyIndicator ω × List BusyEvent
  | [] => (b, [])
  | step :: rest =>
    let first := b.perform step
    let others := first.1.run rest
    (others.1, first.2 ++ others.2)

end BusyIndicator

end PagedTable
