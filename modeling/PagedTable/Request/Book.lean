import PagedTable.Request.Basic

namespace PagedTable

-- How a book lies in the state of its host, and what calling a callback does there.
structure Host (σ χ ι : Type) where
  read : σ → Book χ ι
  write : Book χ ι → σ → σ
  notify : χ → Nat → Act σ Unit

namespace Host

variable {σ χ ι : Type} (h : Host σ χ ι)

def change (f : Book χ ι → Book χ ι) (s : σ) : σ := h.write (f (h.read s)) s

def isDone (r : Nat) (s : σ) : Bool := (h.read s).isDone r

def call (r : Nat) (c : χ) (s : σ) : σ := (h.notify c r).after s

def callAll (r : Nat) : List χ → σ → σ
  | [], s => s
  | c :: rest, s => callAll r rest (h.call r c s)

-- Ends a request and calls its callbacks, unless it has ended before.
def finish (r : Nat) (status : RequestStatus) (outcome : Request χ ι → Request χ ι) (s : σ) : σ :=
  match (h.read s).request? r with
  | none => s
  | some q =>
    if q.isDone then s
    else h.callAll r q.callbacks (h.change (fun b => b.modify r fun q => (outcome q).closed status) s)

def resolve (r : Nat) (page : Page) : σ → σ :=
  h.finish r .done fun q => { q with page := some page }

def fail (r : Nat) (error : Fault) : σ → σ :=
  h.finish r .failed fun q => { q with error := some error }

def discard (r : Nat) : σ → σ := h.finish r .stale id

-- Registers a callback; a request that has ended calls it right away.
def register (r : Nat) (callback : Option χ) (s : σ) : σ :=
  match callback with
  | none => s
  | some c =>
    if h.isDone r s then h.call r c s
    else h.change (fun b => b.modify r fun q => { q with callbacks := q.callbacks ++ [c] }) s

def subscribe (issue : ι → Nat → Act σ Unit) (r : Nat) (callback : Option χ) : Act σ Unit := do
  Act.change (h.register r callback)
  match (h.read (← get)).request? r with
  | none => pure ()
  | some q =>
    if q.status = .created then
      Act.change (h.change fun b => b.modify r fun q => { q with status := .pending })
      issue q.issuer r

def discardEach : List Nat → σ → σ
  | [], s => s
  | r :: rest, s => discardEach rest (h.discard r s)

-- Forgets every request in flight, then marks them stale.
def discardAll (s : σ) : σ :=
  h.discardEach ((h.read s).inFlight.map fun e => e.2) (h.change Book.untrackAll s)

-- Gives a request the next token and supersedes the requests in flight. It joins them itself
-- unless it is answered at once.
def add (r : Nat) (tracked : Bool) (s : σ) : σ :=
  let token := (h.read s).nextToken
  let s := h.discardAll (h.change (fun b => b.allot r) s)
  if tracked then h.change (fun b => b.track token r) s else s

-- Takes a request out of those in flight. One that is not the latest is discarded instead.
def take (token : Int) (s : σ) : Option Nat × σ :=
  match Entries.get? token (h.read s).inFlight with
  | none => (none, s)
  | some r =>
    let s := h.change (fun b => b.untrack token) s
    if token = (h.read s).latest then (some r, s) else (none, h.discard r s)

end Host

end PagedTable
