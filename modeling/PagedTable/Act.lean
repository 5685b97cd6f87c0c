import PagedTable.Failure

namespace PagedTable

-- An operation that may stop with a fault; what it changed before stays changed.
abbrev Act (σ α : Type) := ExceptT Fault (StateM σ) α

namespace Act

variable {σ α : Type}

def of (f : σ → Except Fault α × σ) : Act σ α := ExceptT.mk fun s => f s

def outcome (a : Act σ α) (s : σ) : Except Fault α × σ := a.run s

def after (a : Act σ α) (s : σ) : σ := (a.outcome s).2

def attempt (a : Act σ α) : Act σ (Except Fault α) :=
  of fun s => (.ok (a.outcome s).1, (a.outcome s).2)

-- The operation, with a last change to the state where it stops with a fault.
def onFault (a : Act σ α) (f : σ → σ) : Act σ α :=
  of fun s =>
    match a.outcome s with
    | (.ok x, s) => (.ok x, s)
    | (.error e, s) => (.error e, f s)

def change (f : σ → σ) : Act σ Unit := of fun s => (.ok (), f s)

def result (r : Except Fault α) : Act σ α := of fun s => (r, s)

-- Part of the state, changed by an operation that reports how it went.
def update (f : σ → σ × Except Fault α) : Act σ α := of fun s => ((f s).2, (f s).1)

end Act

end PagedTable
