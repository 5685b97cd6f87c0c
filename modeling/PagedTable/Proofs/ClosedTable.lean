import PagedTable.Proofs.ParentBinding

namespace PagedTable

-- What an occasion adds to the errands that are under way.
def Occasion.balance : Occasion → Int
  | .began _ => 1
  | .asked _ _ | .spared _ => -1
  | .completed _ | .showing _ _ | .turning _ | .emitted _ | .called _ | .closing => 0

-- The errands that have begun, and for which the provider was not asked yet.
def errandsUnderway : List Sight → Int
  | [] => 0
  | g :: rest => g.occasion.balance + errandsUnderway rest

namespace Sight

def call? (g : Sight) : Option ProviderCall :=
  match g.occasion with
  | .asked _ c => some c
  | _ => none

def isSpared (g : Sight) : Bool :=
  match g.occasion with
  | .spared _ => true
  | _ => false

-- Of a closed table, on an occasion on which nothing begins.
structure Inert (g : Sight) : Prop where
  closed : g.table.closed = true
  late : ∀ e, g.occasion ≠ .began e
  quiet : g.occasion ≠ .emitted (.busyChanged true)

theorem Inert.balance {g : Sight} (inert : g.Inert) : g.occasion.balance ≤ 0 := by
  cases occasion : g.occasion with
  | began e => exact absurd occasion (inert.late e)
  | asked e c | spared e => exact Int.le_of_lt (Int.negSucc_lt_zero 0)
  | completed m | showing page keep | turning mode | emitted s | called r | closing => exact Int.le_refl 0

end Sight

theorem errandsUnderway_cons (g : Sight) (sights : List Sight) :
    errandsUnderway (g :: sights) = g.occasion.balance + errandsUnderway sights := rfl

theorem errandsUnderway_append (newer older : List Sight) :
    errandsUnderway (newer ++ older) = errandsUnderway newer + errandsUnderway older := by
  induction newer with
  | nil => exact (Int.zero_add _).symm
  | cons g rest ih => rw [List.cons_append, errandsUnderway_cons, errandsUnderway_cons, ih, Int.add_assoc]

theorem errandsUnderway_inert {sights : List Sight} (inert : ∀ g ∈ sights, g.Inert) :
    errandsUnderway sights =
      -((sights.filterMap Sight.call?).length + sights.countP Sight.isSpared : Int) := by
  induction sights with
  | nil => rfl
  | cons g rest ih =>
    have later := ih fun h member => inert h (List.mem_cons_of_mem _ member)
    have first := inert g List.mem_cons_self
    have split : errandsUnderway (g :: rest) = g.occasion.balance + errandsUnderway rest := rfl
    rw [split, later]
    cases occasion : g.occasion with
    | began e => exact absurd occasion (first.late e)
    | _ => simp [Occasion.balance, Sight.call?, Sight.isSpared, occasion] <;> omega

-- The provider is still to be asked, or it is to be seen that it will not be.
def Task.isErrand : Task → Bool
  | .adding _ _ | .asking _ _ | .starting _ _ => true
  | _ => false

namespace Strand
open Application

variable {key : Nat} {s s' : Strand}

theorem errands_dropped (rs : List Nat) (below : List Task) :
    (rs.map Task.holding ++ below).countP Task.isErrand = below.countP Task.isErrand := by
  induction rs with
  | nil => rfl
  | cons r rest ih => exact ih

theorem errands_begun {g : Sight} {t : Task} {rest : List Task} (errand : t.isErrand = true)
    (balance : g.occasion.balance = 1)
    (errands : errandsUnderway s.sights = rest.countP Task.isErrand) :
    errandsUnderway (g :: s.sights) = (t :: rest).countP Task.isErrand := by
  rw [errandsUnderway_cons, balance, errands, List.countP_cons_of_pos errand]
  omega

theorem errands_ended {g : Sight} {task : Task} {rest : List Task} (errand : task.isErrand = true)
    (balance : g.occasion.balance = -1)
    (errands : errandsUnderway s.sights = (task :: rest).countP Task.isErrand) :
    errandsUnderway (g :: s.sights) = rest.countP Task.isErrand := by
  rw [List.countP_cons_of_pos errand] at errands
  rw [errandsUnderway_cons, balance, errands]
  omega

theorem errands_same {g : Sight} (balance : g.occasion.balance = 0) :
    errandsUnderway (g :: s.sights) = errandsUnderway s.sights := by
  rw [errandsUnderway_cons, balance, Int.zero_add]

theorem Move.errands (move : Move key s s')
    (errands : errandsUnderway s.sights = s.tasks.countP Task.isErrand) :
    errandsUnderway s'.sights = s'.tasks.countP Task.isErrand := by
  cases move with
  | look o quiet =>
    refine Eq.trans (errands_same ?_) errands
    cases o <;> first | rfl | cases quiet
  | supersede top opened =>
    rw [top] at errands
    dsimp only [doing]
    rw [errands_dropped]
    exact errands_begun (t := .adding s.book.nextToken _) rfl rfl errands
  | join top _ _ | settle top _ _ _ | abandon top | lose top | stop top _ _ =>
    rw [top] at errands
    exact errands
  | refuse top _ | empty top _ | ask top _ | request top =>
    rw [top] at errands
    exact errands_ended rfl rfl errands
  | recount top =>
    rw [top] at errands
    rcases sights_recounted key s with same | seen
    · exact (congrArg errandsUnderway same).trans errands
    · exact ((congrArg errandsUnderway seen).trans (errands_same rfl)).trans errands
  | turn next other | receive answered page keep => exact (errands_same rfl).trans errands
  | start opened m call => exact errands_begun (t := .starting m call) rfl rfl errands
  | finish m some =>
    refine (errands_same rfl).trans (errands.trans ?_)
    dsimp only [doing]
    split <;> rfl
  | release top =>
    rw [top] at errands
    exact errands.trans (congrArg Int.ofNat (errands_dropped s.book.flying (.counting :: _)).symm)
  | close opened =>
    have dropped := errands_dropped s.book.flying (.counting :: .closing :: s.tasks)
    exact (errands_same rfl).trans (errands.trans (congrArg Int.ofNat dropped.symm))
  | _ => exact errands

theorem Path.errands (path : Path key {} s) :
    errandsUnderway s.sights = s.tasks.countP Task.isErrand := by
  induction path with
  | refl => rfl
  | tail _ move ih => exact move.errands ih

theorem Move.called (move : Move key s s')
    (called : s.calls.map OpenCall.call = (s.sights.filterMap Sight.call?).reverse) :
    s'.calls.map OpenCall.call = (s'.sights.filterMap Sight.call?).reverse := by
  cases move with
  | ask top keep | request top =>
    simp [doing, withCall, Strand.sight, Sight.call?, called]
  | look o quiet =>
    cases o <;> first | exact called | cases quiet
  | recount top =>
    obtain ⟨busy, holds, events, sights, recounted⟩ := recounted_eq key s
    have calls : (s.recounted key).calls = s.calls := by rw [recounted]
    have seen : (s.recounted key).sights.filterMap Sight.call? = s.sights.filterMap Sight.call? := by
      rcases sights_recounted key s with same | more
      · rw [same]
      · rw [more]
        rfl
    dsimp only [doing]
    rw [calls, seen]
    exact called
  | _ => exact called

theorem Path.called (path : Path key {} s) :
    s.calls.map OpenCall.call = (s.sights.filterMap Sight.call?).reverse := by
  induction path with
  | refl => rfl
  | tail _ move ih => exact move.called ih

theorem Move.inert (move : Move key s s') (closed : s.table.closed = true) :
    s'.sights = s.sights ∨
      ∃ g, s'.sights = g :: s.sights ∧ g.Inert ∧ g.table.view = s.table.view := by
  cases move with
  | look o quiet =>
    refine .inr ⟨_, rfl, ⟨closed, fun e same => ?_, fun same => ?_⟩, rfl⟩
    · cases same
      cases quiet
    · cases same
      cases quiet
  | supersede top opened | start opened m call | close opened =>
    rw [opened] at closed
    cases closed
  | turn next other | refuse top unbuilt | empty top keep | ask top keep | request top | finish m some
  | receive answered page keep =>
    exact .inr ⟨_, rfl, ⟨closed, nofun, nofun⟩, rfl⟩
  | recount top =>
    refine (sights_recounted key s).imp_right fun seen => ⟨_, seen, ⟨closed, ?_, ?_⟩, rfl⟩
    · exact nofun
    · rw [isWaiting_closed closed]
      exact nofun
  | _ => exact .inl rfl

theorem Path.inert (path : Path key s s') (closed : s.table.closed = true) :
    ∃ new, s'.sights = new ++ s.sights ∧ ∀ g ∈ new, g.Inert := by
  induction path with
  | refl => exact ⟨[], rfl, fun _ member => nomatch member⟩
  | tail before move ih =>
    obtain ⟨new, seen, inert⟩ := ih
    rcases move.inert (Path.closed before closed) with same | ⟨g, more, own, -⟩
    · exact ⟨new, same.trans seen, inert⟩
    · refine ⟨g :: new, by rw [more, seen]; rfl, fun h member => ?_⟩
      rcases List.mem_cons.mp member with rfl | member
      · exact own
      · exact inert h member

-- Where no errand is under way and nothing is in flight, nothing arrives and nobody is asked.
theorem Move.idle (move : Move key s s') (none : s.book.inFlight = [])
    (idle : s.tasks.countP Task.isErrand = 0) :
    s'.book.inFlight = [] ∧ s.table.view.SameRows s'.table.view := by
  have waits {task : Task} (member : task ∈ s.tasks) : ¬ task.isErrand = true :=
    List.countP_eq_zero.mp idle task member
  refine ⟨List.eq_nil_iff_forall_not_mem.mpr fun e member => ?_, ?_⟩
  · rcases move.flying member with flying | adding
    · rw [none] at flying
      cases flying
    · exact waits adding rfl
  · cases move with
    | opened unused view bare numbered keep => exact bare
    | view change => exact change.rows
    | turn next other => exact (TableView.inMode_kept _ next).rows
    | empty top keep => exact absurd rfl (waits (by rw [top]; exact List.mem_cons_self))
    | receive answered page keep =>
      have flying := answered.flying
      rw [none] at flying
      cases flying
    | recount top =>
      obtain ⟨busy, holds, events, sights, recounted⟩ := recounted_eq key s
      rw [recounted]
      exact ⟨rfl, rfl⟩
    | _ => exact ⟨rfl, rfl⟩

-- What was seen of a closed table, split where it was closed. Where no errand was under way then, the
-- rows have stayed.
structure Split (s : Strand) (since : List Sight) (c : Sight) (before : List Sight) : Prop where
  whole : s.sights = since ++ c :: before
  closing : c.occasion = .closing
  opened : ∀ g ∈ before, g.table.closed = false
  inert : ∀ g ∈ since, g.Inert
  kept : errandsUnderway before = 0 → s.book.inFlight = [] ∧
    c.table.view.SameRows s.table.view ∧ ∀ g ∈ since, c.table.view.SameRows g.table.view

theorem Split.underway {since before : List Sight} {c : Sight} (split : s.Split since c before) :
    errandsUnderway s.sights = errandsUnderway before -
      ((since.filterMap Sight.call?).length + since.countP Sight.isSpared : Int) := by
  rw [split.whole, errandsUnderway_append, errandsUnderway_cons, split.closing,
    errandsUnderway_inert split.inert]
  simp only [Occasion.balance]
  omega

-- The operations that are resumed after the closing have fewer and fewer errands left.
theorem Split.idle {since before : List Sight} {c : Sight} (split : s.Split since c before)
    (path : Path key {} s) (done : errandsUnderway before = 0) : s.tasks.countP Task.isErrand = 0 := by
  have underway := split.underway
  rw [path.errands, done] at underway
  omega

theorem Move.split (move : Move key s s') (path : Path key {} s) {since before : List Sight} {c : Sight}
    (split : s.Split since c before) (closed : s.table.closed = true) :
    ∃ since, s'.Split since c before := by
  have still (done : errandsUnderway before = 0) := move.idle (split.kept done).1 (split.idle path done)
  rcases move.inert closed with same | ⟨g, more, own, view⟩
  · refine ⟨since, same.trans split.whole, split.closing, split.opened, split.inert, fun done => ?_⟩
    obtain ⟨none, rows⟩ := still done
    obtain ⟨-, here, seen⟩ := split.kept done
    exact ⟨none, here.trans rows, seen⟩
  · refine ⟨g :: since, by rw [more, split.whole]; rfl, split.closing, split.opened, ?_, fun done => ?_⟩
    · intro h member
      rcases List.mem_cons.mp member with rfl | member
      · exact own
      · exact split.inert h member
    · obtain ⟨none, rows⟩ := still done
      obtain ⟨-, here, seen⟩ := split.kept done
      refine ⟨none, here.trans rows, fun h member => ?_⟩
      rcases List.mem_cons.mp member with rfl | member
      · rw [view]
        exact here
      · exact seen h member

theorem Move.closes (move : Move key s s') (opened : s.table.closed = false)
    (closed : s'.table.closed = true) : .closing ∈ s'.tasks ∧ ∃ c, s'.sights = c :: s.sights ∧
      c.occasion = .closing ∧ s'.book.inFlight = [] ∧ c.table.view.SameRows s'.table.view := by
  cases move with
  | close fresh => exact ⟨by simp [doing], _, rfl, rfl, rfl, rfl, rfl⟩
  | opened unused view bare numbered keep => cases closed
  | recount top =>
    obtain ⟨busy, holds, events, sights, recounted⟩ := recounted_eq key s
    rw [recounted] at closed
    cases opened.symm.trans closed
  | _ => cases opened.symm.trans closed

theorem Path.split (path : Path key {} s) :
    (s.table.closed = false → ∀ g ∈ s.sights, g.table.closed = false) ∧
    (s.table.closed = true → ∃ since c before, s.Split since c before) := by
  induction path with
  | refl => exact ⟨fun _ _ member => (nomatch member), nofun⟩
  | @tail t u before move ih =>
    obtain ⟨allOpen, splits⟩ := ih
    cases was : t.table.closed with
    | true =>
      refine ⟨fun opened => ?_, fun _ => ?_⟩
      · rw [move.closed was] at opened
        cases opened
      · obtain ⟨since, c, older, split⟩ := splits was
        obtain ⟨since, split⟩ := move.split before split was
        exact ⟨since, c, older, split⟩
    | false =>
      refine ⟨fun opened g member => ?_, fun closed => ?_⟩
      · rcases move.sights with same | ⟨h, more, -, state⟩
        · rw [same] at member
          exact allOpen was g member
        · rw [more] at member
          rcases List.mem_cons.mp member with rfl | member
          · exact state.trans opened
          · exact allOpen was g member
      · obtain ⟨-, c, more, closing, none, rows⟩ := move.closes was closed
        refine ⟨[], c, t.sights, more, closing, allOpen was, ?_, fun _ => ⟨none, rows, ?_⟩⟩
        · exact fun _ member => nomatch member
        · exact fun _ member => nomatch member

theorem Move.holds (move : Move key s s') (holds : s.holds = s.table.busy) :
    s'.holds = s'.table.busy := by
  cases move with
  | opened unused view bare numbered keep =>
    rw [unused] at holds
    exact holds
  | recount top =>
    by_cases same : isWaiting s.table = s.table.busy
    · rw [recounted_same same]
      exact holds
    · rw [recounted_changed same]
      rfl
  | _ => exact holds

theorem Path.holds (path : Path key {} s) : s.holds = s.table.busy := by
  induction path with
  | refl => rfl
  | tail _ move ih => exact move.holds ih

theorem Move.stopping (move : Move key s s') (stopping : .closing ∈ s.tasks) :
    .closing ∈ s'.tasks ∨ s'.table.busy = false ∧ s'.table.pending = 0 := by
  have below {task : Task} {rest : List Task} (top : s.tasks = task :: rest) (other : task ≠ .closing) :
      .closing ∈ rest := by
    rw [top] at stopping
    exact (List.mem_cons.mp stopping).resolve_left (Ne.symm other)
  cases move with
  | begin _ _ | take _ | receive _ _ _ | pass _ _ | start _ _ _ _ | bind _ | close _ =>
    exact .inl (by simp [doing, stopping])
  | supersede top _ | release top => exact .inl (by simp [doing, below top (by simp)])
  | join top _ _ | empty top _ => exact .inl (by simpa [doing] using below top (by simp))
  | refuse top _ | lose top => exact .inl (by simpa [doing] using below top (by simp))
  | settle top _ _ _ | abandon top | ask top _ | request top => exact .inl (below top (by simp))
  | recount top =>
    exact .inl (below top (by simp))
  | finish m some =>
    refine .inl ?_
    dsimp only [doing]
    split
    · exact stopping
    · exact List.mem_cons_of_mem _ stopping
  | stop top calm none => exact .inr ⟨calm, none⟩
  | _ => exact .inl stopping

theorem Move.stopped (move : Move key s s')
    (stopped : s.table.closed = true →
      (s.table.busy = false ∧ s.table.pending = 0) ∨ .closing ∈ s.tasks)
    (closed : s'.table.closed = true) :
    (s'.table.busy = false ∧ s'.table.pending = 0) ∨ .closing ∈ s'.tasks := by
  cases was : s.table.closed with
  | true =>
    rcases stopped was with ⟨calm, none⟩ | stopping
    · exact .inl ⟨move.calm was calm, move.idled was none⟩
    · exact (move.stopping stopping).symm
  | false => exact .inr (move.closes was closed).1

theorem Path.stopped (path : Path key {} s) (closed : s.table.closed = true) :
    (s.table.busy = false ∧ s.table.pending = 0) ∨ .closing ∈ s.tasks := by
  induction path with
  | refl => cases closed
  | tail _ move ih => exact move.stopped ih closed

end Strand

namespace Application
open Strand

variable {w : Application} {key : Nat}

def sightsOf (w : Application) (key : Nat) : List Sight := w.sights.filter fun g => g.key = key

-- What the provider was asked for a table, the oldest first.
def askedOf (w : Application) (key : Nat) : List ProviderCall :=
  (w.calls.filter fun c => c.key = key).map OpenCall.call

theorem Reached.errands (reached : Reached w) (key : Nat) : errandsUnderway (w.sightsOf key) = 0 :=
  Path.errands (reached.path key)

theorem Reached.asksNobody (reached : Reached w) (closed : (w.table key).closed = true) (depth : Nat)
    (steps : List Step) : (w.played depth steps).askedOf key = w.askedOf key := by
  have later := reached.played depth steps
  have path := (played_weaves depth steps w).paths key []
  obtain ⟨new, seen, inert⟩ := Path.inert path closed
  change (w.played depth steps).sightsOf key = new ++ w.sightsOf key at seen
  have none : new.filterMap Sight.call? = [] := by
    have before := reached.errands key
    have after := later.errands key
    rw [seen, errandsUnderway_append, errandsUnderway_inert inert, before] at after
    exact List.eq_nil_of_length_eq_zero (by omega)
  have asked : w.askedOf key = ((w.sightsOf key).filterMap Sight.call?).reverse :=
    Path.called (reached.path key)
  have askedLater : (w.played depth steps).askedOf key = _ := Path.called (later.path key)
  rw [askedLater, asked]
  change (((w.played depth steps).sightsOf key).filterMap Sight.call?).reverse = _
  rw [seen, List.filterMap_append, none, List.nil_append]

-- A table that was closed is not busy, does not hold the shared indicator, and its provider is asked no
-- more. Since the closing nothing began; the provider was asked just for those errands that were under
-- way at the closing and were not given up. Where there were none, nobody was asked since and the rows
-- are those of the closing.
theorem closed_table_rests (reached : Reached w) (key : Nat) (closed : (w.table key).closed = true) :
    (w.table key).busy = false ∧ w.indicator.holds key = false ∧
    (∀ depth steps, (w.played depth steps).askedOf key = w.askedOf key) ∧
    ∃ since c before, w.sightsOf key = since ++ c :: before ∧ c.occasion = .closing ∧
      (∀ g ∈ before, g.table.closed = false) ∧ (∀ g ∈ since, g.Inert) ∧
      w.askedOf key =
        (before.filterMap Sight.call?).reverse ++ (since.filterMap Sight.call?).reverse ∧
      ((since.filterMap Sight.call?).length + since.countP Sight.isSpared : Int) =
        errandsUnderway before ∧
      (errandsUnderway before = 0 → since.filterMap Sight.call? = [] ∧
        c.table.view.SameRows (w.view key) ∧ ∀ g ∈ since, c.table.view.SameRows g.table.view) := by
  have path := reached.path key
  have calm : (w.table key).busy = false :=
    ((Path.stopped path closed).resolve_right List.not_mem_nil).1
  have holds : w.indicator.holds key = (w.table key).busy := Path.holds path
  obtain ⟨since, c, before, split⟩ := (Path.split path).2 closed
  have counted : ((since.filterMap Sight.call?).length + since.countP Sight.isSpared : Int) =
      errandsUnderway before := by
    -- at rest no errand is left, so those under way at the closing are used up
    have rest : errandsUnderway (w.strand [] key).sights = 0 := reached.errands key
    rw [split.underway] at rest
    omega
  refine ⟨calm, holds.trans calm, fun depth steps => reached.asksNobody closed depth steps, since, c,
    before, split.whole, split.closing, split.opened, split.inert, ?_, counted, fun none => ?_⟩
  · have asked : w.askedOf key = ((w.sightsOf key).filterMap Sight.call?).reverse := Path.called path
    have unasked : c.call? = none := by simp [Sight.call?, split.closing]
    have whole : w.sightsOf key = since ++ c :: before := split.whole
    rw [asked, whole, List.filterMap_append, List.filterMap_cons, unasked, List.reverse_append]
  · obtain ⟨-, rows, seen⟩ := split.kept none
    exact ⟨List.eq_nil_of_length_eq_zero (by omega), rows, seen⟩

-- A request is superseded, and its subscriber closes the table.
def halted : Application :=
  let stop : Callback Step := { name := "stop", steps := [.table 0 .close] }
  (opened { plan := {} }).played 2
    [.table 0 (.reload none), .subscribe 0 (some stop), .table 0 .refresh,
      .complete 1 (.page [entity "b"] none)]

theorem halted_reached : Reached halted := (opened_reached _).played 2 _

-- The provider is asked for the second page after the closing, and that page is shown.
theorem halted_resumes :
    Reached halted ∧ (halted.table 0).closed = true ∧
    ∃ since c before, halted.sightsOf 0 = since ++ c :: before ∧ c.occasion = .closing ∧
      c.table.view.rows = [] ∧ since.filterMap Sight.call? ≠ [] ∧ (halted.view 0).rows ≠ [] := by
  let outline (g : Sight) : Bool × Bool :=
    (match g.occasion with | .closing => true | _ => false, g.table.view.rows.isEmpty)
  have found : (halted.sightsOf 0)[6]?.map outline = some (true, true) := by decide +kernel
  obtain ⟨c, seventh, same⟩ := Option.map_eq_some_iff.mp found
  obtain ⟨closes, bare⟩ := Prod.mk.inj same
  have closing : c.occasion = .closing := by
    split at closes
    · assumption
    · cases closes
  have split : halted.sightsOf 0 = (halted.sightsOf 0).take 6 ++ c :: (halted.sightsOf 0).drop 7 := by
    obtain ⟨long, rfl⟩ := List.getElem?_eq_some_iff.mp seventh
    rw [← List.drop_eq_getElem_cons long, List.take_append_drop]
  have asks : (((halted.sightsOf 0).take 6).filterMap Sight.call?).isEmpty = false := by decide +kernel
  have shows : (halted.view 0).rows.isEmpty = false := by decide +kernel
  exact ⟨halted_reached, by decide +kernel, _, c, _, split, closing, List.isEmpty_iff.mp bare,
    List.isEmpty_eq_false_iff.mp asks, List.isEmpty_eq_false_iff.mp shows⟩

-- Closed at rest, with a page on its way and a mutation that has not completed.
def dropped : Application :=
  (opened { plan := {} }).played 1
    [.table 0 .refresh, .table 0 (.create (entity "a") .record), .table 0 .close,
      .complete 0 (.page [entity "b"] none), .complete 1 (.mutation {}), .table 0 .refresh]

theorem dropped_rests :
    (dropped.table 0).closed = true ∧ (dropped.table 0).busy = false ∧
      dropped.indicator.holds 0 = false ∧
      ∃ since c before, dropped.sightsOf 0 = since ++ c :: before ∧ c.occasion = .closing ∧
        (since.filterMap Sight.call?).length + since.countP Sight.isSpared = errandsUnderway before := by
  have closed : (dropped.table 0).closed = true := by decide +kernel
  obtain ⟨calm, released, -, since, c, before, split, closing, -, -, -, counted, -⟩ :=
    closed_table_rests ((opened_reached _).played 1 _) 0 closed
  exact ⟨closed, calm, released, since, c, before, split, closing, counted⟩

end Application

end PagedTable
