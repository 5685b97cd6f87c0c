import PagedTable.Application.State

namespace PagedTable.Application

variable (run : Run)

def setSelection (key : Nat) (selected : List Value) (w : Application) : Application :=
  if Members.same selected (w.view key).selected then w
  else emit run key .selectionChanged (w.modifyView key fun v => { v with selected })

def clearSelection (key : Nat) (w : Application) : Application :=
  if (w.view key).selected.isEmpty then w
  else emit run key .selectionChanged (w.modifyView key fun v => { v with selected := [] })

-- Shows a page: rows and total change together, then the selection.
def applyPage (key : Nat) (page : Page) (keep : Bool) : Act Application Unit := do
  Act.change (modifyView key fun v => { v with rows := page.rows, total := page.total })
  let selected ← onView key fun v => v.surviving keep page.rows
  Act.change (setSelection run key selected)

def latest (w : Application) (key : Nat) : Int := (w.table key).book.latest

def markReplaced (key : Nat) (token : Int) (page : Page) (keep : Bool) (w : Application) : Application :=
  (w.record (.mark key (.rowsReplaced token (w.latest key)))).sight key (.showing page keep)

def isNotFound (f : Failure) : Bool := f.status = .notFound

-- A request that failed leaves the page as it is, unless what it belongs to has vanished.
def pageFailed (key r : Nat) (token : Int) (fault : Fault) (keep : Bool) : Act Application Unit := do
  let f := fault.toFailure
  if isNotFound f then
    Act.change (markReplaced key token Page.empty keep)
    applyPage run key Page.empty keep
    Act.change (emit run key (.pageLoaded Page.empty.total))
  Act.change (updateBusy run key)
  Act.change (emit run key (.requestError token f.message))
  let _ ← report (.failure f) none none
  Act.change ((host run key).fail r (.failure f))

def notAPage (got : String) : Failure :=
  .transport ("The provider returned " ++ got ++ " instead of a page")

def tooManyRows (rows : Nat) (size : Number) : Failure :=
  .transport ("The provider returned " ++ numberOf rows ++ " rows for a page of " ++ size.text)

-- The page that an outcome holds, if it answers a query for pages of the given size.
def deliveredPage (size : Number) (o : Outcome) : Except Fault Page :=
  match o.error with
  | some e => .error e
  | none =>
    match o.result with
    | .page p => if p.fits size then .ok p else .error (.failure (tooManyRows p.rows.length size))
    | other => .error (.failure (notAPage other.kindName))

def querySize (w : Application) (key r : Nat) : Number :=
  match (w.table key).book.request? r with
  | some q => ((q.query.map fun q => q.pageSize).getD 0)
  | none => 0

def notePassedOver (key : Nat) (token : Int) (w : Application) : Application :=
  let t := w.table key
  if Entries.has token t.book.inFlight && token ≠ t.book.latest then
    w.noteLapse key .passedOver { t with book := t.book.untrack token }
  else w

-- Takes the request of a token out of those in flight, if it is the latest.
def takeRequest (key : Nat) (token : Int) : Act Application (Option Nat) :=
  Act.of fun w =>
    let r := (host run key).take token (w.notePassedOver key token)
    (.ok r.1, r.2)

def noteStopped (key : Nat) (cause : Lapse) (w : Application) : Application :=
  w.noteLapse key cause (w.table key)

def pageLoaded (key : Nat) (token : Int) (keep : Bool) (o : Outcome) : Act Application Unit := do
  match ← takeRequest run key token with
  | none => pure ()
  | some r =>
    match deliveredPage ((← get).querySize key r) o with
    | .error e => pageFailed run key r token e keep
    | .ok page =>
      Act.change (markReplaced key token page keep)
      (applyPage run key page keep).onFault (noteStopped key .unshown)
      Act.change (updateBusy run key)
      Act.change (emit run key (.pageLoaded page.total))
      Act.change (emit run key (.requestCompleted token))
      Act.change ((host run key).resolve r page)

-- What a provider does with a call at once: it delivers, then raises.
def answerAtOnce (complete : Outcome → Act Application Unit) (raises : Option Fault) :
    List Delivery → Act Application Unit
  | [] =>
    match raises with
    | some e => throw e
    | none => pure ()
  | d :: rest => do
    let o ← Act.result d.outcome
    complete o
    answerAtOnce complete raises rest

def callProvider (key : Nat) (c : ProviderCall) (purpose : CallPurpose)
    (complete : Outcome → Act Application Unit) : Act Application Unit := do
  Act.change (sight key (.asked purpose.errand c))
  Act.change (record (.call key c))
  Act.change fun w => { w with calls := w.calls ++ [{ key, purpose, call := c }] }
  let mode := (Entries.get? c.operation (← get).modes).getD {}
  answerAtOnce complete mode.raises mode.deliveries

-- A table that belongs to a parent shows nothing, and asks nobody, while there is none.
def needsParent (v : TableView) : Bool := v.plan.requiresParent && v.parent.isNull

def tokenOf (w : Application) (key r : Nat) : Int :=
  match (w.table key).book.request? r with
  | some q => q.token
  | none => -1

-- Gives a request its token and supersedes those in flight: the errand for its page begins.
def supersede (key r : Nat) (tracked : Bool) (w : Application) : Application :=
  (host run key).add r tracked (w.sight key (.began (.page (w.table key).book.nextToken)))

def spare (key r : Nat) (w : Application) : Application :=
  w.sight key (.spared (.page (w.tokenOf key r)))

def issueEmpty (key r : Nat) (keep : Bool) : Act Application Unit := do
  Act.change (supersede run key r false)
  Act.change (spare key r)
  Act.change (record (.mark key .emptied))
  applyPage run key Page.empty keep
  Act.change (updateBusy run key)
  Act.change (emit run key (.pageLoaded Page.empty.total))
  Act.change ((host run key).resolve r Page.empty)

def pageRaised (key : Nat) (token : Int) (keep : Bool) (e : Fault) : Act Application Unit := do
  match ← takeRequest run key token with
  | none => pure ()
  | some r => pageFailed run key r token e keep

-- Asks the provider for the page of a request. A provider that raises has failed, unless the
-- request was settled before.
def askForPage (key : Nat) (token : Int) (query : Query) (keep : Bool) : Act Application Unit := do
  let asked ← (callProvider key (.list query) (.page token keep) (pageLoaded run key token keep)).attempt
  match asked with
  | .ok () => pure ()
  | .error e => pageRaised run key token keep e

def noteUnasked (key r : Nat) (w : Application) : Application :=
  (w.spare key r).noteStopped key .unasked

def issueQuery (key r : Nat) (keep : Bool) : Act Application Unit := do
  Act.change (supersede run key r true)
  let query ← (Act.result ((← get).view key).query).onFault (noteUnasked key r)
  let token := (← get).tokenOf key r
  Act.change (record (.mark key (.queryBuilt token)))
  Act.change ((host run key).change fun b => b.modify r fun q => { q with query := some query })
  Act.change (updateBusy run key)
  Act.change (emit run key (.requestIssued token))
  askForPage run key token query keep

-- Issues a request: to nobody once the table is closed or while it lacks its parent.
def issue (key : Nat) (keep : Bool) (r : Nat) : Act Application Unit := do
  let t := (← get).table key
  if t.closed then Act.change ((host run key).discard r)
  else if needsParent t.view then issueEmpty run key r keep
  else issueQuery run key r keep

def subscribe (key r : Nat) (callback : Option (Callback Step)) : Act Application Unit :=
  (host run key).subscribe (issue run key) r callback

def newRequest (key : Nat) (keep : Option Bool) : Act Application Nat := do
  let t := (← get).table key
  Act.change (modifyTable key fun t =>
    { t with book := t.book.create (keep.getD t.keepSelection) })
  return t.book.requests.length

def refresh (key : Nat) : Act Application Unit := do
  let r ← newRequest key none
  subscribe run key r none

def close (key : Nat) (w : Application) : Application :=
  if (w.table key).closed then w
  else
    let w := (w.modifyTable key fun t => { t with closed := true }).record (.mark key .closed)
    let w := (host run key).discardAll (w.sight key .closing)
    updateBusy run key (w.modifyTable key fun t => { t with pending := 0 })

end PagedTable.Application
