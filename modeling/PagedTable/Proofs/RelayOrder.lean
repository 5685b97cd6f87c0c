import PagedTable.Proofs.Identities
import PagedTable.Proofs.Outcomes
import PagedTable.Relay

namespace PagedTable

namespace WorkId

def hashable : WorkId → Bool
  | .given v => v.hashable
  | .fresh _ => true

theorem same_refl (a : WorkId) (h : a.hashable = true) : a.same a = true := by
  cases a with
  | given v => exact Value.same_refl v h
  | fresh n => simp [same]

theorem same_comm (a b : WorkId) (h : a.hashable = true) : b.same a = a.same b := by
  cases a with
  | given v =>
    cases b with
    | given w => exact Value.same_comm v w h
    | fresh n => rfl
  | fresh m =>
    cases b with
    | given w => rfl
    | fresh n => simp [same, Bool.beq_comm]

end WorkId

namespace RelayStep

mutual

-- Whether no callback is called but for what the thread has announced, not in inner scripts either.
def isOrderly : RelayStep → Bool
  | .push _ _ _ _ script => allOrderly script
  | .deliver _ => false
  | _ => true

def allOrderly : List RelayStep → Bool
  | [] => true
  | s :: rest => s.isOrderly && allOrderly rest

end

end RelayStep

namespace RelayEvent

def ended : RelayEvent → Option Nat
  | .performed n => some n
  | _ => none

def told : RelayEvent → Option Nat
  | .done work _ _ => work
  | _ => none

end RelayEvent

-- What the function of a work may come to, whatever its client answers at the time.
def Work.Gave (w : Work) (o : Outcome) : Prop := ∃ r : Relay, (r.perform w.job).2 = o

namespace Relay

-- Scripts are followed down to any depth: a callback cut off at depth 0 is a state in which it is at work, and
-- what others do in the meantime are further steps.
inductive Reached : Relay → Prop where
  | start : Reached {}
  | stepped {r : Relay} (before : Reached r) (depth : Nat) (step : RelayStep)
      (orderly : step.isOrderly = true) : Reached ((runTo depth step).after r)

def endings (r : Relay) : List Nat := r.journal.filterMap RelayEvent.ended

def functions (r : Relay) : List Nat := r.doing.toList ++ r.endings

def callbacks (r : Relay) : List Nat := r.journal.filterMap RelayEvent.told

structure Settled (r : Relay) (n : Nat) (w : Work) (result : Outcome) : Prop where
  logged : (n, result) ∈ r.results
  kept : w.outcome = some result
  gave : w.Gave result

-- A callback came after the function of its work, and was told what that gave.
structure Reported (r : Relay) (n : Nat) (name : String) (o : Outcome) (older : List RelayEvent) : Prop where
  after : .performed n ∈ older
  own : ∃ w result, r.works[n]? = some w ∧ r.Settled n w result ∧ name = w.name ∧ o = w.job.report result

structure Accounted (r : Relay) : Prop where
  once : r.functions.Nodup ∧ r.callbacks.Nodup
  performed : ∃ taken ≤ r.works.length, r.functions.reverse = List.range taken
  called : ∃ told ≤ r.works.length, r.callbacks.reverse = List.range told
  results : r.results.map Prod.fst = r.endings
  reported : ∀ n name o older, .done (some n) name o :: older <:+ r.journal → r.Reported n name o older
  pending : ∀ id n, (id, n) ∈ r.pending ↔ n ∉ r.callbacks ∧ ∃ w, r.works[n]? = some w ∧ w.id = id
  apart : r.pending.Pairwise fun d e => d.1.same e.1 = false

-- The works that were pushed, from the first on: those whose callback was called, those that the thread has
-- done and announced, and those that it has not.
structure InOrder (r : Relay) (told ended waiting : List Work) : Prop where
  works : r.works = told ++ ended ++ waiting
  waits : r.doing.toList ++ r.queue = List.range' (told ++ ended).length waiting.length
  posted : r.posted = ended.map Work.id
  pending : r.pending = ((ended ++ waiting).map Work.id).zipIdx told.length
  endings : r.endings = (List.range (told ++ ended).length).reverse
  callbacks : r.callbacks = (List.range told.length).reverse
  hashable : ∀ id ∈ (ended ++ waiting).map Work.id, id.hashable = true
  apart : ((ended ++ waiting).map Work.id).Pairwise fun a b => a.same b = false
  results : r.results.map Prod.fst = r.endings
  settled : ∀ n w, (told ++ ended)[n]? = some w → ∃ result, r.Settled n w result
  reported : ∀ n name o older, .done (some n) name o :: older <:+ r.journal → r.Reported n name o older

variable {r t : Relay} {told ended waiting : List Work}

-- What changes nothing about the works: it may tell of other things.
def Quiet (r t : Relay) : Prop :=
  ∃ events : List RelayEvent, (∀ e ∈ events, e.ended = none ∧ e.told = none) ∧ t = { r with
    inUse := t.inUse
    running := t.running
    stopping := t.stopping
    outcomes := t.outcomes
    journal := events ++ r.journal }

theorem Quiet.works (same : Quiet r t) : t.works = r.works := by
  obtain ⟨events, -, same⟩ := same
  rw [same]

theorem Quiet.clashes (same : Quiet r t) : t.clashes = r.clashes := by
  obtain ⟨events, -, same⟩ := same
  rw [same]

theorem Quiet.doing (same : Quiet r t) : t.doing = r.doing := by
  obtain ⟨events, -, same⟩ := same
  rw [same]

theorem Quiet.endings (same : Quiet r t) : t.endings = r.endings := by
  obtain ⟨events, silent, same⟩ := same
  have none : events.filterMap RelayEvent.ended = [] :=
    List.filterMap_eq_nil_iff.mpr fun e member => (silent e member).1
  rw [same, Relay.endings, List.filterMap_append, none]
  rfl

theorem Quiet.callbacks (same : Quiet r t) : t.callbacks = r.callbacks := by
  obtain ⟨events, silent, same⟩ := same
  have none : events.filterMap RelayEvent.told = [] :=
    List.filterMap_eq_nil_iff.mpr fun e member => (silent e member).2
  rw [same, Relay.callbacks, List.filterMap_append, none]
  rfl

theorem Settled.later {n : Nat} {w : Work} {result : Outcome} (settled : r.Settled n w result)
    (logged : r.results ⊆ t.results) : t.Settled n w result :=
  ⟨logged settled.logged, settled.kept, settled.gave⟩

theorem Reported.later {n : Nat} {name : String} {o : Outcome} {older : List RelayEvent}
    (reported : r.Reported n name o older) (same : t.works[n]? = r.works[n]?)
    (logged : r.results ⊆ t.results) : t.Reported n name o older := by
  obtain ⟨w, result, at_, settled, told⟩ := reported.own
  exact ⟨reported.after, w, result, by rw [same, at_], settled.later logged, told⟩

theorem told_suffix {e : RelayEvent} {older journal : List RelayEvent} (events : List RelayEvent)
    (calls : e.told ≠ none) (silent : ∀ e ∈ events, e.told = none) (suffix : e :: older <:+ events ++ journal) :
    e :: older <:+ journal := by
  induction events with
  | nil => exact suffix
  | cons first rest ih =>
    obtain ⟨quiet, others⟩ := List.forall_mem_cons.mp silent
    rcases List.suffix_cons_iff.mp suffix with whole | part
    · rw [(List.cons.inj whole).1] at calls
      exact absurd quiet calls
    · exact ih others part

theorem InOrder.quiet (order : r.InOrder told ended waiting) (quiet : Quiet r t) :
    t.InOrder told ended waiting := by
  have works := quiet.works
  have endings := quiet.endings
  have callbacks := quiet.callbacks
  obtain ⟨events, silent, same⟩ := quiet
  have journal : t.journal = events ++ r.journal := by rw [same]
  have results : t.results = r.results := by rw [same]
  have logged : r.results ⊆ t.results := by
    rw [results]
    exact List.Subset.refl _
  refine ⟨?_, ?_, ?_, ?_, ?_, ?_, order.hashable, order.apart, ?_, ?_, ?_⟩
  · rw [works, order.works]
  · rw [same]
    exact order.waits
  · rw [same]
    exact order.posted
  · rw [same]
    exact order.pending
  · rw [endings, order.endings]
  · rw [callbacks, order.callbacks]
  · rw [results, endings, order.results]
  · intro n w at_
    obtain ⟨result, settled⟩ := order.settled n w at_
    exact ⟨result, settled.later logged⟩
  · intro n name o older suffix
    rw [journal] at suffix
    have before : .done (some n) name o :: older <:+ r.journal :=
      told_suffix events nofun (fun e member => (silent e member).2) suffix
    exact (order.reported n name o older before).later (by rw [works]) logged

theorem putPending_new {id : WorkId} {n : Nat} {pending : List (WorkId × Nat)}
    (new : ∀ e ∈ pending, e.1.same id = false) : putPending id n pending = pending ++ [(id, n)] := by
  induction pending with
  | nil => rfl
  | cons e rest ih =>
    obtain ⟨first, others⟩ := List.forall_mem_cons.mp new
    rw [putPending, if_neg (by simp [first]), ih others, List.cons_append]

theorem InOrder.told_lt (order : r.InOrder told ended waiting) {n : Nat} {name : String} {o : Outcome}
    {older : List RelayEvent} (suffix : .done (some n) name o :: older <:+ r.journal) : n < told.length := by
  have member : n ∈ r.callbacks := List.mem_filterMap.mpr ⟨_, suffix.subset List.mem_cons_self, rfl⟩
  rw [order.callbacks, List.mem_reverse] at member
  exact List.mem_range.mp member

theorem InOrder.enqueue (order : r.InOrder told ended waiting) {w : Work} (hashable : w.id.hashable = true)
    (new : ∀ e ∈ r.pending, e.1.same w.id = false) :
    (r.enqueue w).InOrder told ended (waiting ++ [w]) := by
  have length : r.works.length = (told ++ ended).length + waiting.length := by
    rw [order.works, List.length_append]
  have ids : (ended ++ (waiting ++ [w])).map Work.id = (ended ++ waiting).map Work.id ++ [w.id] := by simp
  refine ⟨?_, ?_, order.posted, ?_, order.endings, order.callbacks, ?_, ?_, order.results, ?_, ?_⟩
  · change r.works ++ [w] = _
    rw [order.works, List.append_assoc]
  · change r.doing.toList ++ (r.queue ++ [r.works.length]) = _
    have longer : (waiting ++ [w]).length = waiting.length + 1 := List.length_append
    rw [← List.append_assoc, order.waits, length, longer, List.range'_concat, Nat.one_mul]
  · change putPending w.id r.works.length r.pending = _
    rw [putPending_new new, order.pending, length, ids, List.zipIdx_append]
    simp [Nat.add_assoc]
  · rw [ids]
    intro id member
    rcases List.mem_append.mp member with before | last
    · exact order.hashable id before
    · rw [List.mem_singleton.mp last]
      exact hashable
  · rw [ids, List.pairwise_append]
    refine ⟨order.apart, List.pairwise_singleton .., ?_⟩
    intro id before other last
    rw [List.mem_singleton.mp last]
    obtain ⟨n, at_⟩ := List.getElem?_of_mem before
    refine new (id, told.length + n) ?_
    rw [order.pending, List.mk_mem_zipIdx_iff_le_and_getElem?_sub, Nat.add_sub_cancel_left]
    exact ⟨Nat.le_add_right .., at_⟩
  · intro n v at_
    obtain ⟨result, settled⟩ := order.settled n v at_
    exact ⟨result, settled.later (List.Subset.refl _)⟩
  · intro n name o older suffix
    have lt := order.told_lt suffix
    have le : told.length ≤ r.works.length := by
      rw [order.works]
      simp
    exact (order.reported n name o older suffix).later
      (List.getElem?_append_left (Nat.lt_of_lt_of_le lt le)) (List.Subset.refl _)

theorem getElem?_middle {α : Type} (before after : List α) (x : α) :
    (before ++ x :: after)[before.length]? = some x := by
  rw [List.getElem?_append_right (Nat.le_refl _), Nat.sub_self]
  rfl

theorem modify_middle {α : Type} (f : α → α) (before after : List α) (x : α) :
    (before ++ x :: after).modify before.length f = before ++ f x :: after := by
  induction before with
  | nil => rfl
  | cons y ys ih => simpa using ih

theorem InOrder.work_at {w : Work} {rest : List Work} (order : r.InOrder told (w :: rest) waiting) :
    r.works[told.length]? = some w := by
  rw [order.works, List.append_assoc]
  exact getElem?_middle ..

theorem InOrder.takeNext (order : r.InOrder told ended waiting) : r.takeNext.InOrder told ended waiting := by
  unfold Relay.takeNext
  split
  · rename_i n rest doing queue
    have waits := order.waits
    rw [doing, queue] at waits
    refine ⟨order.works, waits, order.posted, order.pending, order.endings, order.callbacks, order.hashable,
      order.apart, order.results, ?_, ?_⟩
    · intro n w at_
      obtain ⟨result, settled⟩ := order.settled n w at_
      exact ⟨result, settled.later (List.Subset.refl _)⟩
    · intro n name o older suffix
      exact (order.reported n name o older suffix).later rfl (List.Subset.refl _)
  · exact order

def performed (r : Relay) (n : Nat) (id : WorkId) (result : Outcome) : Relay :=
  { r with
    doing := none
    works := r.works.modify n fun w => { w with outcome := some result }
    posted := r.posted ++ [id]
    results := (n, result) :: r.results
    journal := .performed n :: r.journal }

theorem finish_performed {n : Nat} {w : Work} (doing : r.doing = some n) (at_ : r.works[n]? = some w) :
    ∃ t result, Quiet r t ∧ w.Gave result ∧ r.finish = t.performed n w.id result := by
  simp only [Relay.finish, doing, at_, Work.Gave]
  cases w.job with
  | outcome d => exact ⟨r, outcomeOf d, ⟨[], by simp, rfl⟩, ⟨r, rfl⟩, rfl⟩
  | client c =>
    exact ⟨r.record (.client c), _, ⟨[.client c], by simp [RelayEvent.ended, RelayEvent.told], rfl⟩,
      ⟨r, rfl⟩, rfl⟩

theorem InOrder.performed {w : Work} {rest : List Work} {result : Outcome}
    (order : r.InOrder told ended (w :: rest)) (doing : r.doing = some (told ++ ended).length)
    (gave : w.Gave result) : (r.performed (told ++ ended).length w.id result).InOrder told
      (ended ++ [{ w with outcome := some result }]) rest := by
  have ids : (ended ++ [{ w with outcome := some result }] ++ rest).map Work.id =
      (ended ++ w :: rest).map Work.id := by simp
  have count : (told ++ (ended ++ [{ w with outcome := some result }])).length = (told ++ ended).length + 1 := by
    rw [← List.append_assoc, List.length_append]
    rfl
  have waits := order.waits
  rw [doing] at waits
  refine ⟨?_, ?_, ?_, ?_, ?_, order.callbacks, ?_, ?_, ?_, ?_, ?_⟩
  · rw [Relay.performed, order.works, modify_middle]
    simp
  · rw [count]
    exact (List.cons.inj (waits.trans List.range'_succ)).2
  · rw [Relay.performed, order.posted, List.map_append]
    rfl
  · rw [ids]
    exact order.pending
  · rw [count, List.range_succ, List.reverse_append]
    exact congrArg _ order.endings
  · rw [ids]
    exact order.hashable
  · rw [ids]
    exact order.apart
  · exact congrArg _ order.results
  -- only the work that the thread was at has come to anything new
  · intro n v at_
    rw [← List.append_assoc] at at_
    by_cases before : n < (told ++ ended).length
    · rw [List.getElem?_append_left before] at at_
      obtain ⟨known, settled⟩ := order.settled n v at_
      exact ⟨known, settled.later (List.subset_cons_self _ _)⟩
    · rw [List.getElem?_append_right (Nat.le_of_not_lt before), List.getElem?_singleton] at at_
      split at at_
      · rename_i last
        cases at_
        have own : n = (told ++ ended).length := by omega
        exact ⟨result, own ▸ List.mem_cons_self, rfl, gave⟩
      · cases at_
  · intro n name o older suffix
    have before := (List.suffix_cons_iff.mp suffix).resolve_left nofun
    have lt := order.told_lt before
    refine (order.reported n name o older before).later ?_ (List.subset_cons_self _ _)
    rw [Relay.performed, List.getElem?_modify, List.length_append]
    have other : told.length + ended.length ≠ n := by omega
    simp [other]

theorem InOrder.finish (order : r.InOrder told ended waiting) :
    ∃ ended waiting, r.finish.InOrder told ended waiting := by
  cases doing : r.doing with
  | none =>
    have same : r.finish = r := by simp only [Relay.finish, doing]
    rw [same]
    exact ⟨ended, waiting, order⟩
  | some n =>
    have waits := order.waits
    rw [doing] at waits
    cases waiting with
    | nil => cases waits
    | cons w rest =>
      obtain ⟨rfl, -⟩ := List.cons.inj (waits.trans List.range'_succ)
      have at_ : r.works[(told ++ ended).length]? = some w := by
        rw [order.works]
        exact getElem?_middle ..
      obtain ⟨t, result, same, gave, left⟩ := finish_performed doing at_
      rw [left]
      exact ⟨_, rest, (order.quiet same).performed (same.doing.trans doing) gave⟩

theorem notify_after (run : Run) (n : Nat) (w : Work) (r : Relay) : (notify run n w).after r =
    follow run w.script (r.record (.done (some n) w.name (w.job.report (w.outcome.getD {})))) := by
  unfold notify
  rw [Act.after_change_bind, Act.after_change_bind]
  cases w.raises <;> rfl

theorem follow_idle (script : List RelayStep) (r : Relay) : follow (runTo 0) script r = r := by
  induction script with
  | nil => rfl
  | cons s rest ih => exact ih

theorem deliver_follow (run : Run) (id : WorkId) (r : Relay) :
    ∃ script, (script = [] ∨ ∃ w ∈ r.works, script = w.script) ∧
      deliver run id r = follow run script (deliver (runTo 0) id r) := by
  unfold deliver
  split
  · exact ⟨[], .inl rfl, rfl⟩
  · dsimp only
    split
    · exact ⟨[], .inl rfl, rfl⟩
    · rename_i w at_
      refine ⟨w.script, .inr ⟨w, List.mem_of_getElem? at_, rfl⟩, ?_⟩
      rw [notify_after, notify_after, follow_idle]

theorem deliverNext_follow (run : Run) (r : Relay) :
    ∃ script, (script = [] ∨ ∃ w ∈ r.works, script = w.script) ∧
      deliverNext run r = follow run script (deliverNext (runTo 0) r) := by
  unfold deliverNext
  split
  · exact ⟨[], .inl rfl, rfl⟩
  · rename_i id rest _
    exact deliver_follow run id { r with posted := rest }

theorem performed_of_ended {n : Nat} (ended : n ∈ r.endings) : .performed n ∈ r.journal := by
  obtain ⟨e, member, same⟩ := List.mem_filterMap.mp ended
  cases e with
  | performed m =>
    cases same
    exact member
  | thread | client | done => cases same

theorem deliverNext_first {w : Work} {rest : List Work} {result : Outcome}
    (order : r.InOrder told (w :: rest) waiting) (outcome : w.outcome = some result) :
    deliverNext (runTo 0) r = { r with
      posted := rest.map Work.id
      pending := ((rest ++ waiting).map Work.id).zipIdx (told.length + 1)
      journal := .done (some told.length) w.name (w.job.report result) :: r.journal } := by
  obtain ⟨known, others⟩ := List.forall_mem_cons.mp order.hashable
  have own : w.id.same w.id = true := w.id.same_refl known
  have first : r.pending = (w.id, told.length) :: ((rest ++ waiting).map Work.id).zipIdx (told.length + 1) :=
    order.pending
  have found : ({ r with posted := rest.map Work.id } : Relay).pending? w.id = some told.length := by
    simp [pending?, first, own]
  have kept : (r.pending.filter fun e => !e.1.same w.id) =
      ((rest ++ waiting).map Work.id).zipIdx (told.length + 1) := by
    rw [first, List.filter_cons, own]
    refine List.filter_eq_self.mpr fun e member => ?_
    have later := List.fst_mem_of_mem_zipIdx member
    rw [← WorkId.same_comm _ _ (others e.1 later), (List.pairwise_cons.mp order.apart).1 e.1 later]
    rfl
  simp only [deliverNext, order.posted, List.map_cons, deliver, found, order.work_at]
  rw [notify_after, follow_idle, outcome, kept]
  rfl

theorem InOrder.calling (order : r.InOrder told ended waiting) :
    ∃ told ended, (deliverNext (runTo 0) r).InOrder told ended waiting := by
  cases ended with
  | nil =>
    have same : deliverNext (runTo 0) r = r := by simp only [deliverNext, order.posted, List.map_nil]
    rw [same]
    exact ⟨told, [], order⟩
  | cons w rest =>
    -- the work announced first is the first of those that have ended
    obtain ⟨result, settled⟩ := order.settled told.length w (getElem?_middle ..)
    have count : (told ++ [w]).length = told.length + 1 := List.length_append
    have whole : told ++ [w] ++ rest = told ++ w :: rest := by simp
    rw [deliverNext_first order settled.kept]
    refine ⟨told ++ [w], rest, ?_, ?_, rfl, ?_, ?_, ?_, (List.forall_mem_cons.mp order.hashable).2,
      (List.pairwise_cons.mp order.apart).2, order.results, ?_, ?_⟩
    · rw [whole]
      exact order.works
    · rw [whole]
      exact order.waits
    · rw [count]
    · rw [whole]
      exact order.endings
    · rw [count, List.range_succ, List.reverse_append]
      exact congrArg _ order.callbacks
    · intro n v here
      rw [whole] at here
      obtain ⟨known, settled⟩ := order.settled n v here
      exact ⟨known, settled.later (List.Subset.refl _)⟩
    · intro n name o older suffix
      rcases List.suffix_cons_iff.mp suffix with now | before
      · cases now
        have ended : told.length ∈ r.endings := by
          rw [order.endings]
          simp
        exact ⟨performed_of_ended ended, w, result, order.work_at, settled.later (List.Subset.refl _), rfl, rfl⟩
      · exact (order.reported n name o older before).later rfl (List.Subset.refl _)

structure Sound (r : Relay) : Prop where
  scripts : ∀ w ∈ r.works, RelayStep.allOrderly w.script = true
  order : r.clashes = [] → ∃ told ended waiting, r.InOrder told ended waiting

theorem Sound.moved (sound : r.Sound) (clashes : t.clashes = r.clashes)
    (scripts : ∀ w ∈ t.works, ∃ v ∈ r.works, v.script = w.script)
    (moved : ∀ told ended waiting, r.InOrder told ended waiting →
      ∃ told ended waiting, t.InOrder told ended waiting) : t.Sound where
  scripts w member := by
    obtain ⟨v, before, same⟩ := scripts w member
    rw [← same]
    exact sound.scripts v before
  order distinct := by
    rw [clashes] at distinct
    obtain ⟨told, ended, waiting, order⟩ := sound.order distinct
    exact moved told ended waiting order

theorem Sound.quiet (sound : r.Sound) (same : Quiet r t) : t.Sound := by
  refine sound.moved same.clashes ?_ fun told ended waiting order => ⟨told, ended, waiting, order.quiet same⟩
  rw [same.works]
  exact fun w member => ⟨w, member, rfl⟩

theorem Sound.enqueue (sound : r.Sound) {w : Work} (orderly : RelayStep.allOrderly w.script = true)
    (hashable : w.id.hashable = true) : (r.enqueue w).Sound where
  scripts v member := by
    rcases List.mem_append.mp member with before | last
    · exact sound.scripts v before
    · rw [List.mem_singleton.mp last]
      exact orderly
  order distinct := by
    change (if r.pending.any (fun e => e.1.same w.id) then r.works.length :: r.clashes else r.clashes) = []
      at distinct
    split at distinct
    · cases distinct
    · rename_i new
      obtain ⟨told, ended, waiting, order⟩ := sound.order distinct
      refine ⟨told, ended, waiting ++ [w], order.enqueue hashable ?_⟩
      simpa using new

theorem Sound.takeNext (sound : r.Sound) : r.takeNext.Sound := by
  have same : r.takeNext.works = r.works ∧ r.takeNext.clashes = r.clashes := by
    unfold Relay.takeNext
    split <;> exact ⟨rfl, rfl⟩
  refine sound.moved same.2 ?_ fun told ended waiting order => ⟨told, ended, waiting, order.takeNext⟩
  rw [same.1]
  exact fun w member => ⟨w, member, rfl⟩

theorem finish_origins (r : Relay) : r.finish.clashes = r.clashes ∧
    ∀ w ∈ r.finish.works, ∃ v ∈ r.works, v.script = w.script := by
  cases doing : r.doing with
  | none =>
    simp only [Relay.finish, doing]
    exact ⟨trivial, fun w member => ⟨w, member, rfl⟩⟩
  | some n =>
    cases at_ : r.works[n]? with
    | none =>
      simp only [Relay.finish, doing, at_]
      exact ⟨trivial, fun w member => ⟨w, member, rfl⟩⟩
    | some w =>
      obtain ⟨t, result, same, -, left⟩ := finish_performed doing at_
      rw [left]
      refine ⟨same.clashes, fun u member => ?_⟩
      rw [Relay.performed, same.works] at member
      obtain ⟨m, found⟩ := List.getElem?_of_mem member
      rw [List.getElem?_modify] at found
      obtain ⟨v, before, modified⟩ := Option.map_eq_some_iff.mp found
      refine ⟨v, List.mem_of_getElem? before, ?_⟩
      rw [← modified]
      split <;> rfl

theorem calling_parts (r : Relay) : ∃ pending events,
    (∀ e ∈ events, ∃ n name o, e = RelayEvent.done (some n) name o) ∧
    deliverNext (runTo 0) r =
      { r with posted := r.posted.tail, pending, journal := events ++ r.journal } := by
  unfold deliverNext
  split
  · rename_i none
    have same : r.posted.tail = r.posted := by rw [none, List.tail_nil]
    refine ⟨r.pending, [], by simp, ?_⟩
    rw [same]
    rfl
  · rename_i id rest posted
    rw [posted]
    unfold deliver
    split
    · exact ⟨r.pending, [], by simp, rfl⟩
    · dsimp only
      split
      · exact ⟨_, [], by simp, rfl⟩
      · rename_i w _
        rw [notify_after, follow_idle]
        exact ⟨_, [.done _ w.name (w.job.report (w.outcome.getD {}))], by simp, rfl⟩

theorem Sound.finish (sound : r.Sound) : r.finish.Sound := by
  refine sound.moved (finish_origins r).1 (finish_origins r).2 fun told ended waiting order => ?_
  obtain ⟨ended, waiting, order⟩ := order.finish
  exact ⟨told, ended, waiting, order⟩

theorem Sound.calling (sound : r.Sound) : (deliverNext (runTo 0) r).Sound := by
  obtain ⟨pending, events, -, parts⟩ := calling_parts r
  refine sound.moved (by rw [parts]) (fun w member => ?_) fun told ended waiting order => ?_
  · rw [parts] at member
    exact ⟨w, member, rfl⟩
  · obtain ⟨told, ended, order⟩ := order.calling
    exact ⟨told, ended, waiting, order⟩

def Keeps (run : Run) : Prop :=
  ∀ (r : Relay) (s : RelayStep), s.isOrderly = true → r.Sound → ((run s).after r).Sound

variable {run : Run}

theorem Sound.follow (keeps : Keeps run) (script : List RelayStep) (orderly : RelayStep.allOrderly script = true)
    (sound : r.Sound) : (follow run script r).Sound := by
  induction script generalizing r with
  | nil => exact sound
  | cons s rest ih =>
    rw [RelayStep.allOrderly, Bool.and_eq_true] at orderly
    exact ih orderly.2 (keeps r s orderly.1 sound)

theorem Sound.deliverNext (keeps : Keeps run) (sound : r.Sound) : (deliverNext run r).Sound := by
  obtain ⟨script, source, split⟩ := deliverNext_follow run r
  rw [split]
  refine sound.calling.follow keeps script ?_
  rcases source with rfl | ⟨w, member, rfl⟩
  · rfl
  · exact sound.scripts w member

theorem newId_hashable {id : Option Value} {known : WorkId} (new : newId id r = .ok known) :
    known.hashable = true := by
  unfold newId at new
  split at new
  · cases new
    rfl
  · cases new
    rfl
  · split at new <;> cases new
    assumption

theorem quiet_start (r : Relay) : Quiet r ({ r with inUse := true } : Relay).start := by
  unfold start
  split
  · exact ⟨[], by simp, rfl⟩
  · exact ⟨[.thread .start], by simp [RelayEvent.ended, RelayEvent.told], rfl⟩

-- What a relay that is shut down goes through: the thread is told to stop, finishes, and is gone.
theorem shutdown_through (r : Relay) : r.shutdown = r ∨
    ∃ t, Quiet r t ∧ Quiet t.finish r.shutdown := by
  unfold shutdown
  split
  · refine .inr ⟨{ r with stopping := true }.record (.thread .quit), ?_, ?_⟩
    · exact ⟨[.thread .quit], by simp [RelayEvent.ended, RelayEvent.told], rfl⟩
    · exact ⟨[.thread .wait], by simp [RelayEvent.ended, RelayEvent.told], rfl⟩
  · exact .inl rfl

theorem Sound.shutdown (sound : r.Sound) : r.shutdown.Sound := by
  rcases shutdown_through r with same | ⟨t, told, gone⟩
  · rw [same]
    exact sound
  · exact (sound.quiet told).finish.quiet gone

theorem Sound.step (keeps : Keeps run) : Keeps (step run) := by
  intro r s orderly sound
  cases s with
  | push name id job raises script =>
    rw [Relay.step, Act.after_change_bind, Act.after_get_bind, Act.after_result_bind]
    have begun := sound.quiet (quiet_start r)
    cases new : newId id ({ r with inUse := true } : Relay).start with
    | error e => exact begun
    | ok known => exact begun.enqueue orderly (newId_hashable new)
  | outcomes table => exact sound.quiet ⟨[], by simp, rfl⟩
  | takeNext =>
    change r.threadStep.Sound
    unfold threadStep
    split
    · exact sound
    · split
      · exact sound.quiet ⟨[], by simp, rfl⟩
      · exact sound.takeNext
  | finish => exact sound.finish
  | deliverNext => exact sound.deliverNext keeps
  | run =>
    change (runNext run r).2.Sound
    unfold runNext
    split
    · exact sound
    · exact sound.takeNext.finish.deliverNext keeps
  | deliver id => cases orderly
  | shutdown =>
    rw [Relay.step, Act.after_get_bind]
    split
    · exact sound
    · exact sound.shutdown
  | callSync d id raises =>
    have told : (r.record (.done none syncName (syncOutcome d))).Sound :=
      sound.quiet ⟨[.done none syncName (syncOutcome d)], by simp [RelayEvent.ended, RelayEvent.told], rfl⟩
    cases raises <;> exact told

theorem runTo_keeps (depth : Nat) : Keeps (runTo depth) := by
  induction depth with
  | zero => exact fun r s orderly sound => sound
  | succ depth ih => exact Sound.step ih

theorem Reached.sound (reached : Reached r) : r.Sound := by
  induction reached with
  | start =>
    refine ⟨by simp, fun _ => ⟨[], [], [], ?_⟩⟩
    refine ⟨rfl, rfl, rfl, rfl, rfl, rfl, by simp, .nil, rfl, by simp, ?_⟩
    intro n name o older suffix
    cases List.suffix_nil.mp suffix
  | stepped before depth step orderly ih => exact runTo_keeps depth _ step orderly ih

theorem InOrder.functions (order : r.InOrder told ended waiting) :
    ∃ taken ≤ r.works.length, r.functions = (List.range taken).reverse := by
  have le : (told ++ ended).length + waiting.length = r.works.length := by
    rw [order.works]
    exact List.length_append.symm
  have waits := order.waits
  rw [Relay.functions, order.endings]
  cases doing : r.doing with
  | none => exact ⟨_, by omega, rfl⟩
  | some n =>
    rw [doing] at waits
    cases waiting with
    | nil => cases waits
    | cons w rest =>
      obtain ⟨rfl, -⟩ := List.cons.inj (waits.trans List.range'_succ)
      refine ⟨(told ++ ended).length + 1, ?_, ?_⟩
      · rw [List.length_cons] at le
        omega
      · rw [List.range_succ, List.reverse_append]
        rfl

theorem InOrder.mem_pending (order : r.InOrder told ended waiting) (id : WorkId) (n : Nat) :
    (id, n) ∈ r.pending ↔ n ∉ r.callbacks ∧ ∃ w, r.works[n]? = some w ∧ w.id = id := by
  have after : told.length ≤ n → r.works[n]? = (ended ++ waiting)[n - told.length]? := by
    intro le
    rw [order.works, List.append_assoc, List.getElem?_append_right le]
  rw [order.pending, order.callbacks, List.mk_mem_zipIdx_iff_le_and_getElem?_sub, List.mem_reverse,
    List.mem_range, Nat.not_lt, List.getElem?_map, Option.map_eq_some_iff]
  exact and_congr_right fun le => by rw [after le]

theorem InOrder.accounted (order : r.InOrder told ended waiting) : r.Accounted := by
  obtain ⟨taken, le, functions⟩ := order.functions
  refine ⟨⟨?_, ?_⟩, ⟨taken, le, ?_⟩, ⟨told.length, ?_, ?_⟩, order.results, order.reported,
    order.mem_pending, ?_⟩
  · rw [functions]
    exact (List.reverse_perm _).nodup_iff.mpr List.nodup_range
  · rw [order.callbacks]
    exact (List.reverse_perm _).nodup_iff.mpr List.nodup_range
  · rw [functions, List.reverse_reverse]
  · rw [order.works]
    simp
  · rw [order.callbacks, List.reverse_reverse]
  · rw [order.pending]
    have ids := order.apart
    rw [← List.zipIdx_map_fst told.length ((ended ++ waiting).map Work.id), List.pairwise_map] at ids
    exact ids

-- As long as no work is pushed under the id of one that is not delivered, each work that was pushed has its
-- function called once at most, and then its callback once at most, with what its own function gave; callbacks
-- are called in the order of pushing, and pending are just the works whose callback was not called.
theorem relayed_once (reached : Reached r) (distinct : r.clashes = []) : r.Accounted := by
  obtain ⟨told, ended, waiting, order⟩ := reached.sound.order distinct
  exact order.accounted

def played (steps : List RelayStep) (r : Relay) : Relay :=
  steps.foldl (fun r step => (runTo 2 step).after r) r

theorem Reached.played (reached : Reached r) (steps : List RelayStep)
    (orderly : RelayStep.allOrderly steps = true) : Reached (r.played steps) := by
  induction steps generalizing r with
  | nil => exact reached
  | cons step rest ih =>
    rw [RelayStep.allOrderly, Bool.and_eq_true] at orderly
    exact ih (reached.stepped 2 step orderly.1) orderly.2

-- The first callback pushes a third work and fails, while the thread is at the second, which fails as well.
def exchange : List RelayStep :=
  [.push "first" (some (.text "a")) (.outcome (.value (.int 1))) (some .unsupported)
      [.push "third" none (.outcome (.value .null)) none [], .takeNext],
    .push "second" none (.outcome (.fail .unsupported)) none [],
    .takeNext, .finish, .takeNext, .deliverNext, .finish, .takeNext, .deliverNext]

theorem exchange_relayed : Reached (played exchange {}) ∧ (played exchange {}).Accounted ∧
    (played exchange {}).callbacks = [1, 0] ∧ (played exchange {}).functions = [2, 1, 0] ∧
    (played exchange {}).pending.map (fun e => e.2) = [2] := by
  have reached : Reached (played exchange {}) := Reached.start.played exchange (by decide)
  have distinct : (played exchange {}).clashes = [] := by decide +kernel
  exact ⟨reached, relayed_once reached distinct, by decide +kernel, by decide +kernel, by decide +kernel⟩

end Relay

end PagedTable
