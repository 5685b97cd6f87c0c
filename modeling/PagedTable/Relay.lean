import PagedTable.Act
import PagedTable.Provider
import PagedTable.Script

namespace PagedTable

inductive WorkId where
  | given (v : Value)
  | fresh (n : Nat)

namespace WorkId

def same : WorkId → WorkId → Bool
  | .given a, .given b => a.same b
  | .fresh m, .fresh n => m == n
  | _, _ => false

end WorkId

-- What a piece of work does: it has an outcome, or asks the blocking client.
inductive Job where
  | outcome (d : Delivery)
  | client (c : ProviderCall)

inductive RelayStep where
  | push (name : String) (id : Option Value) (job : Job) (raises : Option Fault)
      (script : List RelayStep)
  | outcomes (table : List (ProviderOperation × Delivery))
  | takeNext
  | finish
  | deliverNext
  | run
  | deliver (id : Value)
  | shutdown
  | callSync (d : Delivery) (id : Value) (raises : Option Fault)

namespace RelayStep

mutual

def size : RelayStep → Nat
  | .push _ _ _ _ script => 1 + sizes script
  | _ => 1

def sizes : List RelayStep → Nat
  | [] => 0
  | s :: rest => s.size + sizes rest

end

end RelayStep

-- A work without outcome has not been performed yet.
structure Work where
  id : WorkId
  name : String
  job : Job
  raises : Option Fault := none
  script : List RelayStep := []
  outcome : Option Outcome := none

inductive ThreadEvent where
  | start
  | quit
  | wait
deriving DecidableEq

inductive RelayEvent where
  | thread (e : ThreadEvent)
  | client (c : ProviderCall)
  | performed (work : Nat)
  | done (work : Option Nat) (name : String) (outcome : Outcome)

-- Works are numbered in the order in which they were pushed; `pending` are those not yet delivered,
-- `queue` those not yet taken by the thread, `doing` the one it is at, `posted` the ids of those announced.
-- The clashes are the works that were pushed under the id of one not yet delivered, the results what the
-- functions of works gave; both have the newest first, and nothing but the laws of a run looks at them.
structure Relay where
  inUse : Bool := false
  running : Bool := false
  stopping : Bool := false
  works : List Work := []
  pending : List (WorkId × Nat) := []
  queue : List Nat := []
  doing : Option Nat := none
  posted : List WorkId := []
  clashes : List Nat := []
  results : List (Nat × Outcome) := []
  outcomes : List (ProviderOperation × Delivery) := []
  journal : List RelayEvent := []

inductive RelayAnswer where
  | nothing
  | truth (b : Bool)
  | sync (name : String) (id : Value) (ok : Bool)

namespace ProviderOperation

def expected : ProviderOperation → String
  | .list => "Page"
  | .mutation _ => "MutationResult"

def accepts : ProviderOperation → Delivered → Bool
  | .list, .page _ => true
  | .mutation _, .mutation _ => true
  | _, _ => false

-- An outcome as those who wait for an operation see it: a result of the expected kind, or a failure
-- and no result.
def normalise (op : ProviderOperation) (o : Outcome) : Outcome :=
  match o.error with
  | some e => { error := some (.failure e.toFailure) }
  | none =>
    if op.accepts o.result then o
    else
      let fault := Fault.wrongResult op.text o.result.kindName op.expected
      { error := some (.failure fault.toFailure) }

end ProviderOperation

namespace Job

def report (job : Job) (o : Outcome) : Outcome :=
  match job with
  | .outcome _ => o
  | .client c => c.operation.normalise o

end Job

namespace Relay

abbrev Run := RelayStep → Act Relay RelayAnswer

def record (e : RelayEvent) (r : Relay) : Relay := { r with journal := e :: r.journal }

def pending? (r : Relay) (id : WorkId) : Option Nat :=
  (r.pending.find? fun e => e.1.same id).map fun e => e.2

def putPending (id : WorkId) (n : Nat) : List (WorkId × Nat) → List (WorkId × Nat)
  | [] => [(id, n)]
  | e :: rest => if e.1.same id then (e.1, n) :: rest else e :: putPending id n rest

def start (r : Relay) : Relay :=
  if r.running then r else { r with running := true }.record (.thread .start)

def enqueue (w : Work) (r : Relay) : Relay :=
  let n := r.works.length
  { r with
    works := r.works ++ [w]
    pending := putPending w.id n r.pending
    queue := r.queue ++ [n]
    clashes := if r.pending.any fun e => e.1.same w.id then n :: r.clashes else r.clashes }

def outcomeOf (d : Delivery) : Outcome :=
  match d.outcome with
  | .ok o => o
  | .error e => { error := some e }

def perform (r : Relay) (job : Job) : Relay × Outcome :=
  match job with
  | .outcome d => (r, outcomeOf d)
  | .client c =>
    let d := (Entries.get? c.operation r.outcomes).getD (.value .null)
    (r.record (.client c), outcomeOf d)

def setOutcome (n : Nat) (o : Outcome) (r : Relay) : Relay :=
  { r with works := r.works.modify n fun w => { w with outcome := some o } }

def follow (run : Run) : List RelayStep → Relay → Relay
  | [], r => r
  | s :: rest, r => follow run rest ((run s).after r)

def notify (run : Run) (n : Nat) (w : Work) : Act Relay Unit := do
  Act.change (record (.done (some n) w.name (w.job.report (w.outcome.getD {}))))
  Act.change (follow run w.script)
  match w.raises with
  | some e => throw e
  | none => pure ()

-- Calls the callback of a finished work. A callback that fails disturbs no one.
def deliver (run : Run) (id : WorkId) (r : Relay) : Relay :=
  match r.pending? id with
  | none => r
  | some n =>
    let r := { r with pending := r.pending.filter fun e => !e.1.same id }
    match r.works[n]? with
    | none => r
    | some w => (notify run n w).after r

def takeNext (r : Relay) : Relay :=
  match r.doing, r.queue with
  | none, n :: rest => { r with queue := rest, doing := some n }
  | _, _ => r

-- Once it has been told to stop it takes no more, and is gone.
def threadStep (r : Relay) : Relay :=
  if !r.running then r
  else if r.stopping then { r with running := false }
  else r.takeNext

def finish (r : Relay) : Relay :=
  match r.doing with
  | none => r
  | some n =>
    let r := { r with doing := none }
    match r.works[n]? with
    | none => r
    | some w =>
      let p := r.perform w.job
      { (p.1.setOutcome n p.2).record (.performed n) with
        posted := p.1.posted ++ [w.id]
        results := (n, p.2) :: p.1.results }

def deliverNext (run : Run) (r : Relay) : Relay :=
  match r.posted with
  | [] => r
  | id :: rest => deliver run id { r with posted := rest }

def runNext (run : Run) (r : Relay) : Bool × Relay :=
  if r.queue.isEmpty then (false, r) else (true, deliverNext run r.takeNext.finish)

-- Tells the thread to stop and waits until it has, which it does once it is through with the work it is at.
def shutdown (r : Relay) : Relay :=
  if r.running then
    let r := ({ r with stopping := true }.record (.thread .quit)).finish.record (.thread .wait)
    { r with running := false }
  else r

-- The id of a new work; ids that can change are refused.
def newId (id : Option Value) (r : Relay) : Except Fault WorkId :=
  match id with
  | none | some .null => .ok (.fresh r.works.length)
  | some v => if v.hashable then .ok (.given v) else .error .unsupported

def isGiven : Option Value → Bool
  | none | some .null => false
  | some _ => true

def syncName : String := "sync"

-- The outcome of a call on the spot; its trouble becomes a failure.
def syncOutcome (d : Delivery) : Outcome :=
  let o := outcomeOf d
  match o.error with
  | some e => { error := some (.failure e.toFailure) }
  | none => o

def step (run : Run) : RelayStep → Act Relay RelayAnswer
  | .push name id job raises script => do
    Act.change fun r => { r with inUse := true }.start
    let workId ← Act.result (newId id (← get))
    Act.change (enqueue { id := workId, name, job, raises, script })
    return if isGiven id then .truth true else .nothing
  | .outcomes table => do
    Act.change fun r => { r with outcomes := table }
    return .nothing
  | .takeNext => do
    Act.change threadStep
    return .nothing
  | .finish => do
    Act.change finish
    return .nothing
  | .deliverNext => do
    Act.change (deliverNext run)
    return .nothing
  | .run => do
    let p := runNext run (← get)
    set p.2
    return .truth p.1
  | .deliver id => do
    Act.change (deliver run (.given id))
    return .nothing
  | .shutdown => do
    if !(← get).inUse then return .nothing
    Act.change shutdown
    return .truth (← get).stopping
  | .callSync d id raises => do
    let o := syncOutcome d
    Act.change (record (.done none syncName o))
    match raises with
    | some e => throw e
    | none => return .sync syncName id o.error.isNone

def runTo : Nat → Run
  | 0 => fun _ => return .nothing
  | depth + 1 => step (runTo depth)

end Relay

end PagedTable
