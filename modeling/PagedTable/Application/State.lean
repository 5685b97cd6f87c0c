import PagedTable.Application.Step
import PagedTable.Table.State
import PagedTable.Request.Book
import PagedTable.Workspace
import PagedTable.Busy

namespace PagedTable

-- A table with its requests. A request carries whether it keeps the selection.
structure Table where
  view : TableView := { plan := {} }
  keepSelection : Bool := true
  book : Book (Callback Step) Bool := Book.empty
  busy : Bool := false
  pending : Nat := 0
  closed : Bool := false

inductive Signal where
  | busyChanged (busy : Bool)
  | pageLoaded (total : Number)
  | selectionChanged
  | requestIssued (token : Int)
  | requestCompleted (token : Int)
  | requestError (token : Int) (message : String)
  | modeChanged (mode : TableMode)

namespace Signal

def name : Signal → SignalName
  | .busyChanged _ => .busyChanged
  | .pageLoaded _ => .pageLoaded
  | .selectionChanged => .selectionChanged
  | .requestIssued _ => .requestIssued
  | .requestCompleted _ => .requestCompleted
  | .requestError _ _ => .requestError
  | .modeChanged _ => .modeChanged

def isObserved : Signal → Bool
  | .pageLoaded _ | .requestError _ _ | .selectionChanged => true
  | _ => false

end Signal

inductive Answer where
  | nothing
  | itself
  | truth (b : Bool)
  | index (n : Nat)
  | value (v : Value)
  | values (vs : List Value)
  | ids (set : List Value)
  | pair (texts : TextPair)
  | summary (s : RequestSummary)
  | reported (unchanged : Bool) (f : Failure)
  | descriptor (unchanged : Bool) (d : TableDescriptor)
  | actions (visible enabled : List String)
  | query (q : Query) (params : Fields)
  | snapshot (table : String) (q : Query) (filters : Fields)
  | hooks (results : HookResults)

-- How a table loses sight of what it waits for: an outcome came for a request that was in flight but
-- superseded, a query could not be built, a page could not be shown.
inductive Lapse where
  | passedOver
  | unasked
  | unshown
deriving DecidableEq

-- What the protocol of a run does not show, but its laws speak of: a query was built for a token, a
-- parent was bound and what was asked for under the one before was dropped, the outcome of a token
-- replaced the rows while a token was the latest, the rows went for want of a parent, the busy state
-- was brought in line, a lapse left the table waiting or not, the table was closed.
inductive Mark where
  | queryBuilt (token : Int)
  | parentBound
  | parentSettled
  | rowsReplaced (token latest : Int)
  | emptied
  | recounted
  | lapsed (cause : Lapse) (waiting : Bool)
  | closed
deriving DecidableEq

inductive Event where
  | notice (n : Notice)
  | shared (e : BusyEvent) (count : Nat)
  | signal (key : Nat) (s : Signal)
  | seen (key : Nat) (rows : Nat) (total : Number) (selected : Nat)
  | call (key : Nat) (c : ProviderCall)
  | dialog (key : Nat) (component : Value) (params : DialogParams) (size : DialogSize)
  | question (key : Nat) (title message : String)
  | exported (key : Nat) (table : String) (q : Query) (filters : Fields)
  | succeeded (key : Nat) (r : MutationResult)
  | handled (action : String) (selection : List Value) (row : Value)
  | callback (name : String) (s : RequestSummary)
  | followed (step : String) (outcome : Except Fault Answer)
  | mark (key : Nat) (m : Mark)

def Event.key? : Event → Option Nat
  | .signal key _ | .seen key _ _ _ | .call key _ | .dialog key _ _ _ | .question key _ _
  | .exported key _ _ _ | .succeeded key _ | .mark key _ => some key
  | .notice _ | .shared _ _ | .handled _ _ _ | .callback _ _ | .followed _ _ => none

def Event.mark? : Event → Option Mark
  | .mark _ m => some m
  | _ => none

-- What a table asks its provider for: the page of a token, or a mutation by its number.
inductive Errand where
  | page (token : Int)
  | mutation (m : Nat)
deriving DecidableEq

-- When a table is looked at: an errand begins, the provider is asked, an errand is given up before
-- the provider is asked, a mutation completes for the first time, a page is about to be shown or the
-- mode to be switched, a signal is emitted, a subscriber is called, the table is closed.
inductive Occasion where
  | began (e : Errand)
  | asked (e : Errand) (c : ProviderCall)
  | spared (e : Errand)
  | completed (m : Nat)
  | showing (page : Page) (keep : Bool)
  | turning (mode : TableMode)
  | emitted (s : Signal)
  | called (r : Nat)
  | closing

-- A table as it was on an occasion, and what had been marked about it by then.
structure Sight where
  key : Nat
  occasion : Occasion
  table : Table
  marks : List Mark

structure Mutation where
  key : Nat
  kind : MutationKind
  sequel : Sequel
  done : Bool := false

inductive CallPurpose where
  | page (token : Int) (keep : Bool)
  | mutation (m : Nat)

def CallPurpose.errand : CallPurpose → Errand
  | .page token _ => .page token
  | .mutation m => .mutation m

structure OpenCall where
  key : Nat
  purpose : CallPurpose
  call : ProviderCall

structure OpenDialog where
  key : Nat
  context : ActionContext
  purpose : Purpose
  params : DialogParams

inductive Intent where
  | remove (ids : List Value)
  | unassign (ids : List Value)
  | exporting

structure OpenQuestion where
  key : Nat
  context : ActionContext
  intent : Intent

structure Slot where
  key : Nat
  signal : SignalName
  steps : List Step

-- Requests, calls, dialogs and questions are numbered in the order in which they arose. The journal
-- has the newest event first, and so have the sights, which nothing but the laws of a run looks at.
structure Application where
  workspace : Workspace := {}
  indicator : BusyIndicator Nat := {}
  tables : List (Nat × Table) := []
  requests : List (Nat × Nat) := []
  calls : List OpenCall := []
  mutations : List Mutation := []
  dialogs : List OpenDialog := []
  questions : List OpenQuestion := []
  modes : ProviderModes := []
  slots : List Slot := []
  shown : Option (Nat × Nat) := none
  journal : List Event := []
  sights : List Sight := []

namespace Application

-- What is done by the steps of scripts that are reached on the way.
abbrev Run := Step → Act Application Answer

def table (w : Application) (key : Nat) : Table := (Entries.get? key w.tables).getD {}

def setTable (key : Nat) (t : Table) (w : Application) : Application :=
  { w with tables := Entries.put key t w.tables }

def modifyTable (key : Nat) (f : Table → Table) (w : Application) : Application :=
  w.setTable key (f (w.table key))

def modifyView (key : Nat) (f : TableView → TableView) (w : Application) : Application :=
  w.modifyTable key fun t => { t with view := f t.view }

def view (w : Application) (key : Nat) : TableView := (w.table key).view

def onView {α : Type} (key : Nat) (f : TableView → TableView × Except Fault α) : Act Application α :=
  Act.update fun w =>
    let r := f (w.view key)
    (w.modifyView key fun _ => r.1, r.2)

def record (e : Event) (w : Application) : Application := { w with journal := e :: w.journal }

def recordAll (events : List Event) (w : Application) : Application :=
  events.foldl (fun w e => w.record e) w

def notices (ns : List Notice) (w : Application) : Application := w.recordAll (ns.map .notice)

def marks (w : Application) (key : Nat) : List Mark :=
  w.journal.filterMap fun e => if e.key? = some key then e.mark? else none

def sight (key : Nat) (occasion : Occasion) (w : Application) : Application :=
  { w with sights := { key, occasion, table := w.table key, marks := w.marks key } :: w.sights }

variable (run : Run)

-- Runs the steps of a script one after the other, whatever their outcomes.
def follow : List Step → Application → Application
  | [], w => w
  | step :: rest, w =>
    let r := (run step).outcome w
    follow rest (r.2.record (.followed step.name r.1))

def look (key : Nat) (w : Application) : Application :=
  let v := w.view key
  w.record (.seen key v.rows.length v.total v.selected.length)

-- The scripts that wait for a signal; each runs once.
def waiting (w : Application) (key : Nat) (name : SignalName) : List Slot :=
  w.slots.filter fun s => s.key = key && s.signal = name

def unplug (key : Nat) (name : SignalName) (w : Application) : Application :=
  { w with slots := w.slots.filter fun s => !(s.key = key && s.signal = name) }

def emit (key : Nat) (signal : Signal) (w : Application) : Application :=
  let w := (w.record (.signal key signal)).sight key (.emitted signal)
  let w := if signal.isObserved then w.look key else w
  let slots := w.waiting key signal.name
  slots.foldl (fun w s => follow run s.steps w) (w.unplug key signal.name)

-- A subscriber is shown the request, runs its script and may then fail.
def notify (key : Nat) (c : Callback Step) (r : Nat) : Act Application Unit := do
  match ((← get).table key).book.request? r with
  | some q => Act.change (record (.callback c.name q.summary))
  | none => pure ()
  Act.change (sight key (.called r))
  Act.change (follow run c.steps)
  if c.fails then throw callbackFault

def host (key : Nat) : Host Application (Callback Step) Bool where
  read w := (w.table key).book
  write b w := w.modifyTable key fun t => { t with book := b }
  notify := notify run key

def report (fault : Fault) (key text : Option String) : Act Application Failure :=
  Act.update fun w =>
    let r := w.workspace.handleFailure fault key text []
    (w.notices r.1, r.2)

def shareBusy (key : Nat) (busy : Bool) (w : Application) : Application :=
  let r := if busy then w.indicator.acquire key else w.indicator.release key
  let w := { w with indicator := r.1 }
  w.recordAll (r.2.map fun e => .shared e r.1.count)

def isWaiting (t : Table) : Bool := !t.closed && (t.book.hasPending || 0 < t.pending)

def updateBusy (key : Nat) (w : Application) : Application :=
  let t := w.table key
  let busy := isWaiting t
  let w := w.record (.mark key .recounted)
  if busy = t.busy then w
  else
    let w := w.modifyTable key fun t => { t with busy }
    emit run key (.busyChanged busy) (w.shareBusy key busy)

-- Notes that a table, now as given, lost sight of what it waits for.
def noteLapse (key : Nat) (cause : Lapse) (t : Table) (w : Application) : Application :=
  w.record (.mark key (.lapsed cause (isWaiting t)))

end Application

end PagedTable
