import PagedTable.Act
import PagedTable.Entries
import PagedTable.Page
import PagedTable.Query.Basic

namespace PagedTable

inductive RequestStatus where
  | created
  | pending
  | done
  | failed
  | stale
deriving DecidableEq

namespace RequestStatus

def isTerminal : RequestStatus → Bool
  | .created | .pending => false
  | .done | .failed | .stale => true

def text : RequestStatus → String
  | .created => "created"
  | .pending => "pending"
  | .done => "done"
  | .failed => "failed"
  | .stale => "stale"

end RequestStatus

-- The token is -1 until the request is issued. The query is missing until then, and for good if the
-- request is answered without asking anyone.
structure Request (χ ι : Type) where
  issuer : ι
  token : Int := -1
  query : Option Query := none
  status : RequestStatus := .created
  page : Option Page := none
  error : Option Fault := none
  callbacks : List χ := []

structure RequestSummary where
  token : Int
  status : RequestStatus
  query : Option Query
  total : Option Number
  error : Option Fault

-- The requests in flight stand under their tokens, in the order in which they were added.
structure Book (χ ι : Type) where
  requests : List (Request χ ι) := []
  nextToken : Nat := 0
  inFlight : List (Int × Nat) := []

namespace Request

variable {χ ι : Type}

def isDone (q : Request χ ι) : Bool := q.status.isTerminal

def summary (q : Request χ ι) : RequestSummary where
  token := q.token
  status := q.status
  query := q.query
  total := q.page.map fun p => p.total
  error := q.error

-- The request in a terminal state, with no one left to call.
def closed (q : Request χ ι) (status : RequestStatus) : Request χ ι :=
  { q with status, callbacks := [] }

end Request

namespace Book

variable {χ ι : Type}

def empty : Book χ ι := {}

-- The token of the request added last, -1 before the first.
def latest (b : Book χ ι) : Int := (b.nextToken : Int) - 1

def tokens (b : Book χ ι) : List Int := (b.inFlight.map fun e => e.1).mergeSort

def hasPending (b : Book χ ι) : Bool := !b.inFlight.isEmpty

def request? (b : Book χ ι) (r : Nat) : Option (Request χ ι) := b.requests[r]?

def modify (b : Book χ ι) (r : Nat) (f : Request χ ι → Request χ ι) : Book χ ι :=
  { b with requests := b.requests.modify r f }

-- A new request, which no one has subscribed to yet; its handle is the number of requests before.
def create (b : Book χ ι) (issuer : ι) : Book χ ι :=
  { b with requests := b.requests ++ [{ issuer }] }

def allot (b : Book χ ι) (r : Nat) : Book χ ι :=
  { b.modify r fun q => { q with token := b.nextToken } with nextToken := b.nextToken + 1 }

def track (b : Book χ ι) (token : Int) (r : Nat) : Book χ ι :=
  { b with inFlight := Entries.put token r b.inFlight }

def untrack (b : Book χ ι) (token : Int) : Book χ ι :=
  { b with inFlight := Entries.erase token b.inFlight }

def untrackAll (b : Book χ ι) : Book χ ι := { b with inFlight := [] }

def isDone (b : Book χ ι) (r : Nat) : Bool :=
  match b.request? r with
  | some q => q.isDone
  | none => true

def isFresh (b : Book χ ι) (r : Nat) : Bool :=
  match b.request? r with
  | some q => q.token = -1 && !q.isDone
  | none => false

end Book

end PagedTable
