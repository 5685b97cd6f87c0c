import PagedTable.Proofs.NormalForms
import PagedTable.Proofs.ViewChange

namespace PagedTable

-- Whether an event says nothing of requests, calls and the busy state.
def Event.isQuiet : Event → Bool
  | .mark _ _ | .call _ _ | .signal _ (.busyChanged _) => false
  | _ => true

-- What is exported is asked for by the query of the table.
def Event.Exports (v : TableView) : Event → Prop
  | .exported _ _ q _ => v.query = .ok q
  | _ => True

-- Whether nothing happens but that scripts may run.
def Occasion.isQuiet : Occasion → Bool
  | .emitted (.busyChanged _) => false
  | .emitted _ | .called _ => true
  | _ => false

abbrev TableBook := Book (Callback Step) Bool

namespace Book

variable {χ ι : Type}

def flying (b : Book χ ι) : List Nat := b.inFlight.map fun e => e.2

def tokenOf (b : Book χ ι) (r : Nat) : Int :=
  match b.request? r with
  | some q => q.token
  | none => -1

end Book

-- What an operation has left to do when scripts run: settle a request it took out of those in
-- flight, put one in flight under its token, ask the provider for a page or a mutation, bring the
-- busy state in line, drop what was asked for under the previous parent, stop.
inductive Task where
  | holding (r : Nat)
  | adding (token : Int) (r : Nat)
  | asking (token : Int) (query : Query)
  | starting (m : Nat) (call : ProviderCall)
  | counting
  | binding
  | closing

-- One table in a run, with the events and the calls that are its own, and what the operations that work
-- on it have still to do.
structure Strand where
  tasks : List Task := []
  table : Table := {}
  events : List Event := []
  calls : List OpenCall := []
  undone : Nat := 0
  holds : Bool := false
  sights : List Sight := []

def Application.undone (w : Application) (key : Nat) : Nat :=
  w.mutations.countP fun x => x.key = key && !x.done

def Application.strand (tasks : List Task) (w : Application) (key : Nat) : Strand where
  tasks := tasks
  table := w.table key
  events := w.journal.filter fun e => e.key? = some key
  calls := w.calls.filter fun c => c.key = key
  undone := w.undone key
  holds := w.indicator.holds key
  sights := w.sights.filter fun g => g.key = key

namespace Strand

def marks (s : Strand) : List Mark := s.events.filterMap Event.mark?

theorem marks_strand (tasks : List Task) (w : Application) (key : Nat) :
    (w.strand tasks key).marks = w.marks key := by
  simp only [marks, Application.strand, Application.marks, List.filterMap_filter]
  congr
  funext e
  simp only [decide_eq_true_eq]

def book (s : Strand) : TableBook := s.table.book

def doing (tasks : List Task) (s : Strand) : Strand := { s with tasks }

def note (e : Event) (s : Strand) : Strand := { s with events := e :: s.events }

def withTable (f : Table → Table) (s : Strand) : Strand := { s with table := f s.table }

def withBook (f : TableBook → TableBook) : Strand → Strand :=
  withTable fun t => { t with book := f t.book }

def withView (v : TableView) : Strand → Strand := withTable fun t => { t with view := v }

def withUndone (f : Nat → Nat) (s : Strand) : Strand := { s with undone := f s.undone }

def sight (key : Nat) (occasion : Occasion) (s : Strand) : Strand :=
  { s with sights := { key, occasion, table := s.table, marks := s.marks } :: s.sights }

def withCall (c : OpenCall) (s : Strand) : Strand :=
  let s := s.sight c.key (.asked c.purpose.errand c.call)
  { s with calls := s.calls ++ [c], events := .call c.key c.call :: s.events }

def noteLapse (key : Nat) (cause : Lapse) (s : Strand) : Strand :=
  s.note (.mark key (.lapsed cause (Application.isWaiting s.table)))

def announced (key : Nat) (busy : Bool) (s : Strand) : Strand :=
  (({ s with holds := busy }.withTable fun t => { t with busy }).note
    (.signal key (.busyChanged busy))).sight key (.emitted (.busyChanged busy))

-- The busy state brought in line, which is announced where it changes.
def recounted (key : Nat) (s : Strand) : Strand :=
  let busy := Application.isWaiting s.table
  let s := s.note (.mark key .recounted)
  if busy = s.table.busy then s else s.announced key busy

theorem recounted_same {key : Nat} {s : Strand} (same : Application.isWaiting s.table = s.table.busy) :
    s.recounted key = s.note (.mark key .recounted) := if_pos same

theorem recounted_changed {key : Nat} {s : Strand}
    (changed : Application.isWaiting s.table ≠ s.table.busy) :
    s.recounted key =
      (s.note (.mark key .recounted)).announced key (Application.isWaiting s.table) := if_neg changed

theorem recounted_eq (key : Nat) (s : Strand) :
    ∃ busy holds events sights, s.recounted key =
      { s with table := { s.table with busy }, holds, events, sights } := by
  by_cases same : Application.isWaiting s.table = s.table.busy
  · exact ⟨_, _, _, _, recounted_same same⟩
  · exact ⟨_, _, _, _, recounted_changed same⟩

-- The errand for the page of a token has begun, at a table that did not lack its parent.
def Issued (s : Strand) (token : Int) : Prop :=
  ∃ g ∈ s.sights, g.occasion = .began (.page token) ∧ Application.needsParent g.table.view = false

-- An outcome has arrived for the latest request, which is in flight.
structure Answered (s : Strand) (token : Int) (r : Nat) : Prop where
  flying : Entries.get? token s.book.inFlight = some r
  latest : token = s.book.latest
  asked : ∃ c ∈ s.calls, ∃ keep, c.purpose = .page token keep

inductive Move (key : Nat) : Strand → Strand → Prop where
  | opened (unused : s.table = {}) (view : TableView) (bare : s.table.view.SameRows view)
      (numbered : view.Numbered) (keepSelection : Bool) (unselected : view.selected = [])
      (faithful : view.Faithful) (sound : view.filters.Sound) (proper : view.paging.Proper) :
      Move key s (s.withTable fun _ => { view, keepSelection })
  | view (change : s.table.view.Change v) : Move key s (s.withView v)
  | turn (next : TableMode) (other : next ≠ s.table.view.mode) :
      Move key s ((s.sight key (.turning next)).withView (s.table.view.inMode next))
  | note (own : e.key? = some key) (quiet : e.isQuiet = true) (exports : e.Exports s.table.view) :
      Move key s (s.note e)
  | look (o : Occasion) (quiet : o.isQuiet = true) : Move key s (s.sight key o)
  | create (keep : Bool) : Move key s (s.withBook fun b => b.create keep)
  | register (r : Nat) (c : Callback Step) :
      Move key s (s.withBook fun b => b.modify r fun q => { q with callbacks := q.callbacks ++ [c] })
  | begin (found : s.book.request? r = some q) (created : q.status = .created) :
      Move key s ((s.withBook fun b => b.modify r fun q => { q with status := .pending }).doing
        (.holding r :: s.tasks))
  | supersede (top : s.tasks = .holding r :: rest) (opened : s.table.closed = false) :
      Move key s (((s.sight key (.began (.page s.book.nextToken))).withBook fun b =>
          (b.allot r).untrackAll).doing
        (s.book.flying.map .holding ++ .adding s.book.nextToken r :: .counting :: rest))
  | join (top : s.tasks = .adding token r :: .counting :: rest)
      (built : s.table.view.query = .ok query)
      (issued : s.Issued token) :
      Move key s (((s.withBook fun b =>
          (b.track token r).modify r fun q => { q with query := some query }).note
        (.mark key (.queryBuilt (s.book.tokenOf r)))).doing
        (.counting :: .asking (s.book.tokenOf r) query :: rest))
  | refuse (top : s.tasks = .adding token r :: .counting :: rest)
      (unbuilt : s.table.view.query = .error e) :
      Move key s ((((s.withBook fun b => b.track token r).sight key
        (.spared (.page (s.book.tokenOf r)))).noteLapse key .unasked).doing rest)
  | empty (top : s.tasks = .adding token r :: .counting :: rest) (keep : Bool) :
      Move key s ((((s.sight key (.spared (.page (s.book.tokenOf r)))).withView
          (s.table.view.shown Page.empty keep)).note (.mark key .emptied)).doing
        (.counting :: .holding r :: rest))
  | settle (top : s.tasks = .holding r :: rest) (status : RequestStatus)
      (outcome : Request (Callback Step) Bool → Request (Callback Step) Bool)
      (same : ∀ q, (outcome q).token = q.token) :
      Move key s ((s.withBook fun b => b.modify r fun q => (outcome q).closed status).doing rest)
  | abandon (top : s.tasks = .holding r :: rest) : Move key s (s.doing rest)
  | ask (top : s.tasks = .asking token query :: rest) (keep : Bool) :
      Move key s ((s.withCall { key, purpose := .page token keep, call := .list query }).doing rest)
  | take (answered : s.Answered token r) :
      Move key s ((s.withBook fun b => b.untrack token).doing (.counting :: .holding r :: s.tasks))
  | receive (answered : s.Answered token r) (page : Page) (keep : Bool) :
      Move key s (((((s.withBook fun b => b.untrack token).note
          (.mark key (.rowsReplaced token s.book.latest))).sight key (.showing page keep)).withView
        (s.table.view.shown page keep)).doing (.counting :: .holding r :: s.tasks))
  | lose (top : s.tasks = .counting :: .holding r :: rest) :
      Move key s ((s.noteLapse key .unshown).doing rest)
  | pass (flying : Entries.get? token s.book.inFlight = some r) (old : token ≠ s.book.latest) :
      Move key s (((s.withBook fun b => b.untrack token).noteLapse key .passedOver).doing
        (.holding r :: s.tasks))
  | recount (top : s.tasks = .counting :: rest) : Move key s ((s.recounted key).doing rest)
  | start (opened : s.table.closed = false) (m : Nat) (call : ProviderCall)
      (own : call.operation = .mutation kind) :
      Move key s ((((s.sight key (.began (.mutation m))).withTable fun t =>
          { t with pending := t.pending + 1 }).withUndone (· + 1)).doing
        (.counting :: .starting m call :: s.tasks))
  | request (top : s.tasks = .starting m call :: rest) :
      Move key s ((s.withCall { key, purpose := .mutation m, call }).doing rest)
  | finish (m : Nat) (some : 0 < s.undone) :
      Move key s ((((s.sight key (.completed m)).withTable fun t =>
          { t with pending := t.pending - 1 }).withUndone (· - 1)).doing
        (if s.table.closed then s.tasks else .counting :: s.tasks))
  | bind (parent : Value) :
      Move key s (((s.withView (s.table.view.bound parent)).note (.mark key .parentBound)).doing
        (.binding :: s.tasks))
  | release (top : s.tasks = .binding :: rest) :
      Move key s (((s.withBook Book.untrackAll).note (.mark key .parentSettled)).doing
        (s.book.flying.map .holding ++ .counting :: rest))
  | close (opened : s.table.closed = false) :
      Move key s (((((s.withTable fun t => { t with closed := true }).note (.mark key .closed)).sight
          key .closing).withBook Book.untrackAll).doing
        (s.book.flying.map .holding ++ .counting :: .closing :: s.tasks))
  | forget (closed : s.table.closed = true) :
      Move key s (s.withTable fun t => { t with pending := 0 })
  | stop (top : s.tasks = .closing :: rest) (calm : s.table.busy = false)
      (none : s.table.pending = 0) :
      Move key s (s.doing rest)

abbrev Path (key : Nat) : Strand → Strand → Prop := Relation.ReflTransGen (Move key)

variable {key : Nat} {s s' : Strand}

theorem marks_quiet {e : Event} (quiet : e.isQuiet = true) : (s.note e).marks = s.marks := by
  have unmarked : e.mark? = none := by
    cases e <;> first | rfl | cases quiet
  simp [marks, Strand.note, unmarked]

theorem marks_recounted (key : Nat) (s : Strand) : (s.recounted key).marks = .recounted :: s.marks := by
  unfold recounted
  dsimp only
  split <;> rfl

theorem Move.marks (move : Move key s s') : s'.marks = s.marks ∨ ∃ m, s'.marks = m :: s.marks := by
  cases move with
  | note own quiet => exact .inl (marks_quiet quiet)
  | recount top => exact .inr ⟨.recounted, marks_recounted key s⟩
  | join top built => exact .inr ⟨_, rfl⟩
  | refuse top unbuilt => exact .inr ⟨_, rfl⟩
  | empty top keep => exact .inr ⟨_, rfl⟩
  | receive answered page keep => exact .inr ⟨_, rfl⟩
  | lose top => exact .inr ⟨_, rfl⟩
  | pass flying old => exact .inr ⟨_, rfl⟩
  | bind parent => exact .inr ⟨_, rfl⟩
  | release top => exact .inr ⟨_, rfl⟩
  | close opened => exact .inr ⟨_, rfl⟩
  | _ => exact .inl rfl

theorem Path.marks (path : Path key s s') : ∃ new, s'.marks = new ++ s.marks := by
  induction path with
  | refl => exact ⟨[], rfl⟩
  | tail _ move ih =>
    obtain ⟨new, before⟩ := ih
    rcases move.marks with same | ⟨m, more⟩
    · exact ⟨new, same.trans before⟩
    · exact ⟨m :: new, by rw [more, before]; rfl⟩

theorem sights_recounted (key : Nat) (s : Strand) : (s.recounted key).sights = s.sights ∨
    (s.recounted key).sights = ⟨key, .emitted (.busyChanged (Application.isWaiting s.table)),
      { s.table with busy := Application.isWaiting s.table }, .recounted :: s.marks⟩ :: s.sights := by
  by_cases same : Application.isWaiting s.table = s.table.busy
  · rw [recounted_same same]
    exact .inl rfl
  · rw [recounted_changed same]
    exact .inr rfl

-- A move is seen at most once, with the table as it was but for its busy and closed states.
theorem Move.sights (move : Move key s s') : s'.sights = s.sights ∨
    ∃ g, s'.sights = g :: s.sights ∧ g.table.view = s.table.view ∧
      g.table.closed = s'.table.closed := by
  cases move with
  | turn next other => exact .inr ⟨_, rfl, rfl, rfl⟩
  | look o quiet => exact .inr ⟨_, rfl, rfl, rfl⟩
  | supersede top opened => exact .inr ⟨_, rfl, rfl, rfl⟩
  | refuse top unbuilt => exact .inr ⟨_, rfl, rfl, rfl⟩
  | empty top keep => exact .inr ⟨_, rfl, rfl, rfl⟩
  | ask top keep => exact .inr ⟨_, rfl, rfl, rfl⟩
  | recount top =>
    obtain ⟨busy, holds, events, sights, recounted⟩ := recounted_eq key s
    refine (sights_recounted key s).imp_right fun seen => ⟨_, seen, rfl, ?_⟩
    rw [recounted]
    rfl
  | start opened m call => exact .inr ⟨_, rfl, rfl, rfl⟩
  | request top => exact .inr ⟨_, rfl, rfl, rfl⟩
  | receive answered page keep => exact .inr ⟨_, rfl, rfl, rfl⟩
  | finish m some => exact .inr ⟨_, rfl, rfl, rfl⟩
  | close opened => exact .inr ⟨_, rfl, rfl, rfl⟩
  | _ => exact .inl rfl

theorem Path.sights (path : Path key s s') : ∃ new, s'.sights = new ++ s.sights := by
  induction path with
  | refl => exact ⟨[], rfl⟩
  | tail _ move ih =>
    obtain ⟨new, before⟩ := ih
    rcases move.sights with same | ⟨g, more, -⟩
    · exact ⟨new, same.trans before⟩
    · exact ⟨g :: new, by rw [more, before]; rfl⟩

-- What holds of a table and the sights it has had, whatever moves it makes, holds wherever it was seen.
theorem Path.seen {P : TableView → List Sight → Prop} (start : P ({} : Strand).table.view [])
    (step : ∀ {s s'}, Move key s s' → P s.table.view s.sights → P s'.table.view s'.sights)
    (path : Path key {} s) :
    P s.table.view s.sights ∧ ∀ g past, g :: past <:+ s.sights → P g.table.view past := by
  induction path with
  | refl => exact ⟨start, fun _ _ seen => nomatch List.suffix_nil.mp seen⟩
  | tail _ move ih =>
    obtain ⟨here, before⟩ := ih
    refine ⟨step move here, fun g past seen => ?_⟩
    -- a new sight shows the table as it was before the move, when all of this held
    rcases move.sights with same | ⟨h, more, view, -⟩
    · rw [same] at seen
      exact before g past seen
    · rw [more] at seen
      rcases List.suffix_cons_iff.mp seen with first | later
      · cases first
        rw [view]
        exact here
      · exact before g past later

theorem Move.closed (move : Move key s s') (closed : s.table.closed = true) :
    s'.table.closed = true := by
  cases move with
  | opened unused view bare numbered keep =>
    rw [unused] at closed
    cases closed
  | recount top =>
    obtain ⟨busy, holds, events, sights, recounted⟩ := recounted_eq key s
    rw [recounted]
    exact closed
  | close opened => rfl
  | _ => exact closed

theorem Path.closed (path : Path key s s') (closed : s.table.closed = true) :
    s'.table.closed = true := by
  induction path with
  | refl => exact closed
  | tail _ move ih => exact move.closed ih

theorem isWaiting_closed {t : Table} (closed : t.closed = true) : Application.isWaiting t = false := by
  simp [Application.isWaiting, closed]

theorem recounted_closed (closed : s.table.closed = true) : (s.recounted key).table.busy = false := by
  have waits := isWaiting_closed closed
  by_cases same : Application.isWaiting s.table = s.table.busy
  · rw [recounted_same same]
    exact same.symm.trans waits
  · rw [recounted_changed same]
    exact waits

theorem Move.calm (move : Move key s s') (closed : s.table.closed = true)
    (calm : s.table.busy = false) : s'.table.busy = false := by
  cases move with
  | opened unused view bare numbered keep => rfl
  | recount top => exact recounted_closed closed
  | _ => exact calm

theorem Path.calm (path : Path key s s') (closed : s.table.closed = true)
    (calm : s.table.busy = false) : s'.table.busy = false := by
  induction path with
  | refl => exact calm
  | tail before move ih => exact move.calm (Path.closed before closed) ih

theorem Move.idled (move : Move key s s') (closed : s.table.closed = true)
    (none : s.table.pending = 0) : s'.table.pending = 0 := by
  cases move with
  | opened unused view bare numbered keep => rfl
  | recount top =>
    obtain ⟨busy, holds, events, sights, recounted⟩ := recounted_eq key s
    rw [recounted]
    exact none
  | start opened m call =>
    rw [opened] at closed
    cases closed
  | finish m some => exact Nat.sub_eq_zero_of_le (none ▸ Nat.zero_le 1)
  | forget closed => rfl
  | _ => exact none

theorem Path.idled (path : Path key s s') (closed : s.table.closed = true)
    (none : s.table.pending = 0) : s'.table.pending = 0 := by
  induction path with
  | refl => exact none
  | tail before move ih => exact move.idled (Path.closed before closed) ih

-- What every move respects, unless it leaves a mark that tells of it, a path respects that leaves no
-- such mark.
theorem Path.unless (respects : Strand → Strand → Prop) {tells : Mark → Bool}
    (refl : ∀ s, respects s s)
    (trans : ∀ {s t u}, respects s t → respects t u → respects s u)
    (moves : ∀ {s t}, Move key s t →
      respects s t ∨ ∃ m, t.marks = m :: s.marks ∧ tells m = true)
    (path : Path key s s') :
    ∃ new, s'.marks = new ++ s.marks ∧ ((∀ m ∈ new, tells m = false) → respects s s') := by
  induction path with
  | refl => exact ⟨[], rfl, fun _ => refl s⟩
  | tail _ move ih =>
    obtain ⟨new, before, respected⟩ := ih
    -- a move that is not respected leaves a mark, and none such may be left
    rcases moves move with respects | ⟨m, more, tells⟩
    · rcases move.marks with unmarked | ⟨m, more⟩
      · exact ⟨new, unmarked.trans before, fun quiet => trans (respected quiet) respects⟩
      · refine ⟨m :: new, by rw [more, before]; rfl, fun quiet => ?_⟩
        exact trans (respected fun n member => quiet n (List.mem_cons_of_mem _ member)) respects
    · refine ⟨m :: new, by rw [more, before]; rfl, fun quiet => ?_⟩
      have silent := quiet m List.mem_cons_self
      rw [tells] at silent
      cases silent

end Strand

end PagedTable
