import PagedTable.Request.Book
import PagedTable.Script

namespace PagedTable

structure PageDraft where
  rows : List Value := []
  total : Option Number := none

def PageDraft.page (d : PageDraft) : Except Fault Page :=
  Page.make d.rows (d.total.getD (.int d.rows.length))

inductive RequestStep where
  | new (issue : List RequestStep)
  | subscribe (request : Int) (callback : Option (Callback RequestStep))
  | add (request : Int) (tracked : Bool)
  | take (token : Int)
  | discardAll
  | resolve (request : Int) (page : PageDraft)
  | fail (request : Int) (error : Fault)
  | discard (request : Int)
  | putBack (request : Int)
  | raise

namespace RequestStep

def name : RequestStep → String
  | .new _ => "new"
  | .subscribe _ _ => "subscribe"
  | .add _ _ => "add"
  | .take _ => "take"
  | .discardAll => "discard_all"
  | .resolve _ _ => "resolve"
  | .fail _ _ => "fail"
  | .discard _ => "discard"
  | .putBack _ => "put_back"
  | .raise => "raise"

mutual

def size : RequestStep → Nat
  | .new issue => 1 + sizes issue
  | .subscribe _ (some ⟨_, steps, _⟩) => 1 + sizes steps
  | _ => 1

def sizes : List RequestStep → Nat
  | [] => 0
  | s :: rest => s.size + sizes rest

end

end RequestStep

inductive RequestAnswer where
  | nothing
  | itself
  | request (r : Nat)
  | requests (rs : List Nat)

inductive RequestEvent where
  | issued (request : Nat)
  | called (name : String) (summary : RequestSummary)
  | followed (step : String) (outcome : Except Fault RequestAnswer)

-- What was done with those in flight: all were dropped, a request was put among them under its token
-- when another may have been the latest, one was asked for by its token; or a request was meddled with.
inductive BookMark where
  | cleared
  | stored (token latest : Int)
  | taken (token : Int)
  | meddled
deriving DecidableEq

abbrev SessionRequest := Request (Callback RequestStep) (List RequestStep)

abbrev RequestBook := Book (Callback RequestStep) (List RequestStep)

-- What befell a request: a callback was subscribed, its issuer was called, a callback was called with the
-- request as it was then, or the request was made pending again.
inductive LifeEvent where
  | subscribed (request : Nat) (callback : Callback RequestStep)
  | issued (request : Nat)
  | called (request : Nat) (callback : Callback RequestStep) (seen : SessionRequest)
  | revived (request : Nat)

-- The journal, the marks and the lives of the requests have the newest first.
structure RequestSession where
  book : RequestBook := Book.empty
  journal : List RequestEvent := []
  marks : List BookMark := []
  lives : List LifeEvent := []

namespace RequestSession

abbrev Run := RequestStep → Act RequestSession RequestAnswer

def record (e : RequestEvent) (s : RequestSession) : RequestSession :=
  { s with journal := e :: s.journal }

def mark (m : BookMark) (s : RequestSession) : RequestSession := { s with marks := m :: s.marks }

def befall (e : LifeEvent) (s : RequestSession) : RequestSession := { s with lives := e :: s.lives }

def follow (run : Run) : List RequestStep → Act RequestSession Unit
  | [] => pure ()
  | step :: rest => do
    let outcome ← (run step).attempt
    Act.change (record (.followed step.name outcome))
    follow run rest

def notify (run : Run) (c : Callback RequestStep) (r : Nat) : Act RequestSession Unit := do
  match (← get).book.request? r with
  | some q => Act.change fun s => (s.record (.called c.name q.summary)).befall (.called r c q)
  | none => pure ()
  follow run c.steps
  if c.fails then throw callbackFault

def issuerFault : Fault := .trouble (.run "issuer failed")

-- An issuer runs its steps until it is told to fail.
def issueSteps (run : Run) : List RequestStep → Act RequestSession Unit
  | [] => pure ()
  | .raise :: _ => throw issuerFault
  | step :: rest => do
    let outcome ← (run step).attempt
    Act.change (record (.followed step.name outcome))
    issueSteps run rest

def host (run : Run) : Host RequestSession (Callback RequestStep) (List RequestStep) where
  read s := s.book
  write b s := { s with book := b }
  notify := notify run

def issue (run : Run) (steps : List RequestStep) (r : Nat) : Act RequestSession Unit := do
  Act.change fun s => (s.record (.issued r)).befall (.issued r)
  issueSteps run steps

def locate (request : Int) : Act RequestSession Nat := do
  Act.result (position (← get).book.requests.length request)

def enlist (r : Nat) (callback : Option (Callback RequestStep)) (s : RequestSession) : RequestSession :=
  match callback with
  | some c => s.befall (.subscribed r c)
  | none => s

-- Makes a request pending again and puts it back among those in flight, under its token.
def putBack (r : Nat) (b : RequestBook) : RequestBook :=
  match b.request? r with
  | some q => (b.modify r fun q => { q with status := .pending }).track q.token r
  | none => b

-- Adds a request; one that is to be answered at once, was added before or has ended is meddled with.
def addRequest (run : Run) (r : Nat) (tracked : Bool) (s : RequestSession) : RequestSession :=
  if tracked && s.book.isFresh r then
    let added := (host run).add r true (s.mark .cleared)
    added.mark (.stored s.book.nextToken added.book.latest)
  else (host run).add r tracked (s.mark .meddled)

-- One step; `run` is what scripts do that are reached on the way.
def perform (run : Run) : Run
  | .new issue => do
    let r := (← get).book.requests.length
    Act.change (host run |>.change fun b => b.create issue)
    return .request r
  | .subscribe request callback => do
    let r ← locate request
    Act.change (enlist r callback)
    (host run).subscribe (issue run) r callback
    return .itself
  | .add request tracked => do
    let r ← locate request
    Act.change (addRequest run r tracked)
    return .nothing
  | .take token => do
    let taken := (host run).take token ((← get).mark (.taken token))
    set taken.2
    match taken.1 with
    | some r => return .request r
    | none => return .nothing
  | .discardAll => do
    let flying := (← get).book.inFlight.map fun e => e.2
    Act.change fun s => (host run).discardAll (s.mark .cleared)
    return .requests flying
  | .resolve request draft => do
    let r ← locate request
    let page ← Act.result draft.page
    Act.change fun s => (host run).resolve r page (s.mark .meddled)
    return .nothing
  | .fail request error => do
    let r ← locate request
    Act.change fun s => (host run).fail r error (s.mark .meddled)
    return .nothing
  | .discard request => do
    let r ← locate request
    Act.change fun s => (host run).discard r (s.mark .meddled)
    return .nothing
  | .putBack request => do
    let r ← locate request
    Act.change fun s => (host run).change (putBack r) ((s.mark .meddled).befall (.revived r))
    return .nothing
  | .raise => throw issuerFault

def runTo : Nat → Run
  | 0 => fun _ => return .nothing
  | depth + 1 => perform (runTo depth)

end RequestSession

end PagedTable
