import Mathlib.Logic.Relation
import PagedTable.Proofs.RelayOrder

namespace PagedTable

namespace RelayStep

mutual

-- Whether no callback is called but for what the thread has announced and, unless it may be forced to, the
-- thread takes works of its own accord only; in inner scripts as well.
def isAllowed (forced : Bool) : RelayStep → Bool
  | .push _ _ _ _ script => allAllowed forced script
  | .deliver _ => false
  | .run => forced
  | _ => true

def allAllowed (forced : Bool) : List RelayStep → Bool
  | [] => true
  | s :: rest => s.isAllowed forced && allAllowed forced rest

end

mutual

theorem isAllowed_forced : ∀ s : RelayStep, s.isAllowed true = s.isOrderly
  | .push _ _ _ _ script => allAllowed_forced script
  | .outcomes _ | .takeNext | .finish | .deliverNext | .run | .deliver _ | .shutdown | .callSync _ _ _ => rfl

theorem allAllowed_forced : ∀ script : List RelayStep, allAllowed true script = allOrderly script
  | [] => rfl
  | s :: rest => by rw [allAllowed, allOrderly, isAllowed_forced s, allAllowed_forced rest]

end

end RelayStep

namespace Relay

-- What runs consist of. What a callback does is no part of its being called.
inductive Move (forced : Bool) : Relay → Relay → Prop where
  | start : Move forced r ({ r with inUse := true } : Relay).start
  | push (w : Work) (awake : r.running = true) (hashable : w.id.hashable = true)
      (numbered : ∀ n, w.id = .fresh n → n = r.works.length)
      (allowed : RelayStep.allAllowed forced w.script = true) : Move forced r (r.enqueue w)
  | outcomes (table : List (ProviderOperation × Delivery)) : Move forced r { r with outcomes := table }
  | answer (o : Outcome) : Move forced r (r.record (.done none syncName o))
  | take (free : forced = true ∨ r.running = true ∧ r.stopping = false) : Move forced r r.takeNext
  | leave (told : r.stopping = true) : Move forced r { r with running := false }
  | finish : Move forced r r.finish
  | call : Move forced r (deliverNext (runTo 0) r)
  | shutdown : Move forced r r.shutdown

abbrev Path (forced : Bool) : Relay → Relay → Prop := Relation.ReflTransGen (Move forced)

-- What may come after a state. Where it is not forced, the thread takes works only while it runs and was not
-- told to stop.
inductive Later (forced : Bool) (r : Relay) : Relay → Prop where
  | now : Later forced r r
  | stepped (before : Later forced r s) (depth : Nat) (step : RelayStep)
      (allowed : step.isAllowed forced = true) : Later forced r ((runTo depth step).after s)

variable {forced : Bool} {r s t : Relay} {heard ended waiting : List Work}

def Scripted (forced : Bool) (r : Relay) : Prop :=
  ∀ w ∈ r.works, RelayStep.allAllowed forced w.script = true

theorem Scripted.kept (scripted : r.Scripted forced)
    (origins : ∀ w ∈ t.works, ∃ v ∈ r.works, v.script = w.script) : t.Scripted forced := by
  intro w member
  obtain ⟨v, known, same⟩ := origins w member
  rw [← same]
  exact scripted v known

theorem takeNext_works (r : Relay) : r.takeNext.works = r.works := by
  unfold takeNext
  split <;> rfl

theorem shutdown_origins (r : Relay) : ∀ w ∈ r.shutdown.works, ∃ v ∈ r.works, v.script = w.script := by
  rcases shutdown_through r with same | ⟨t, told, gone⟩
  · rw [same]
    exact fun w member => ⟨w, member, rfl⟩
  · intro w member
    rw [gone.works] at member
    obtain ⟨v, known, same⟩ := (finish_origins t).2 w member
    exact ⟨v, told.works ▸ known, same⟩

theorem Move.scripted (move : Move forced r t) (scripted : r.Scripted forced) : t.Scripted forced := by
  cases move with
  | start =>
    refine scripted.kept fun w member => ⟨w, ?_, rfl⟩
    rw [(quiet_start r).works] at member
    exact member
  | push w awake hashable numbered allowed =>
    intro v member
    rcases List.mem_append.mp member with known | new
    · exact scripted v known
    · rw [List.mem_singleton.mp new]
      exact allowed
  | outcomes | answer | leave => exact scripted
  | take =>
    refine scripted.kept fun w member => ⟨w, ?_, rfl⟩
    rw [takeNext_works] at member
    exact member
  | finish => exact scripted.kept (finish_origins r).2
  | call =>
    obtain ⟨pending, events, -, parts⟩ := calling_parts r
    rw [parts]
    exact scripted
  | shutdown => exact scripted.kept (shutdown_origins r)

-- As long as scripts keep to what is allowed.
def Leads (forced : Bool) (r t : Relay) : Prop := r.Scripted forced → t.Scripted forced ∧ Path forced r t

theorem Leads.refl (r : Relay) : Leads forced r r := fun scripted => ⟨scripted, .refl⟩

theorem Leads.trans (one : Leads forced r s) (two : Leads forced s t) : Leads forced r t := by
  intro scripted
  obtain ⟨kept, path⟩ := one scripted
  obtain ⟨still, further⟩ := two kept
  exact ⟨still, path.trans further⟩

theorem Move.leads (move : Move forced r t) : Leads forced r t :=
  fun scripted => ⟨move.scripted scripted, .single move⟩

def Follows (forced : Bool) (run : Run) : Prop :=
  ∀ (r : Relay) (s : RelayStep), s.isAllowed forced = true → Leads forced r ((run s).after r)

variable {run : Run}

theorem follow_leads (follows : Follows forced run) (script : List RelayStep)
    (allowed : RelayStep.allAllowed forced script = true) (r : Relay) :
    Leads forced r (follow run script r) := by
  induction script generalizing r with
  | nil => exact .refl r
  | cons s rest ih =>
    rw [RelayStep.allAllowed, Bool.and_eq_true] at allowed
    exact (follows r s allowed.1).trans (ih allowed.2 _)

theorem deliverNext_leads (follows : Follows forced run) (r : Relay) :
    Leads forced r (deliverNext run r) := by
  intro scripted
  obtain ⟨script, source, split⟩ := deliverNext_follow run r
  have called : Move forced r (deliverNext (runTo 0) r) := .call
  have allowed : RelayStep.allAllowed forced script = true := by
    rcases source with rfl | ⟨w, member, rfl⟩
    · rfl
    · exact scripted w member
  rw [split]
  exact called.leads.trans (follow_leads follows script allowed _) scripted

theorem start_running (r : Relay) : r.start.running = true ∧ r.start.works = r.works := by
  unfold start
  split
  · exact ⟨by assumption, rfl⟩
  · exact ⟨rfl, rfl⟩

theorem newId_numbered {id : Option Value} {known : WorkId} (new : newId id r = .ok known) (n : Nat)
    (fresh : known = .fresh n) : n = r.works.length := by
  subst fresh
  unfold newId at new
  split at new
  · cases new
    rfl
  · cases new
    rfl
  · split at new <;> cases new

theorem push_leads {name : String} {id : Option Value} {job : Job} {raises : Option Fault}
    {script : List RelayStep} (allowed : RelayStep.allAllowed forced script = true) (r : Relay) :
    Leads forced r ((step run (.push name id job raises script)).after r) := by
  have begun : Move forced r ({ r with inUse := true } : Relay).start := .start
  rw [Relay.step, Act.after_change_bind, Act.after_get_bind, Act.after_result_bind]
  cases new : newId id ({ r with inUse := true } : Relay).start with
  | error e => exact begun.leads
  | ok known =>
    refine begun.leads.trans (Move.leads ?_)
    exact .push { id := known, name, job, raises, script } (start_running _).1 (newId_hashable new)
      (newId_numbered new) allowed

theorem push_after (name : String) {id : Option Value} (job : Job) (raises : Option Fault)
    (script : List RelayStep) {known : WorkId} (new : newId id r = .ok known) (run : Run) :
    (step run (.push name id job raises script)).after r =
      ({ r with inUse := true } : Relay).start.enqueue { id := known, name, job, raises, script } := by
  have same : newId id ({ r with inUse := true } : Relay).start = .ok known := by
    rw [← new]
    unfold newId
    rw [(start_running _).2]
  rw [Relay.step, Act.after_change_bind, Act.after_get_bind, Act.after_result_bind, same]
  rfl

theorem threadStep_leads (r : Relay) : Leads forced r r.threadStep := by
  unfold threadStep
  split
  · exact .refl r
  · rename_i runs
    split
    · rename_i told
      exact (Move.leave told).leads
    · rename_i free
      exact (Move.take (.inr ⟨by simpa using runs, by simpa using free⟩)).leads

theorem runNext_leads (follows : Follows true run) (r : Relay) : Leads true r (runNext run r).2 := by
  unfold runNext
  split
  · exact .refl r
  · have taken : Move true r r.takeNext := .take (.inl rfl)
    have done : Move true r.takeNext r.takeNext.finish := .finish
    exact (taken.leads.trans done.leads).trans (deliverNext_leads follows _)

theorem step_follows (follows : Follows forced run) : Follows forced (step run) := by
  intro r s allowed
  cases s with
  | push name id job raises script => exact push_leads allowed r
  | outcomes table => exact (Move.outcomes table).leads
  | takeNext => exact threadStep_leads r
  | finish => exact Move.finish.leads
  | deliverNext => exact deliverNext_leads follows r
  | run =>
    cases forced with
    | false => cases allowed
    | true => exact runNext_leads follows r
  | deliver id => cases allowed
  | shutdown =>
    rw [Relay.step, Act.after_get_bind]
    split
    · exact .refl r
    · exact Move.shutdown.leads
  | callSync d id raises =>
    have told : Move forced r (r.record (.done none syncName (syncOutcome d))) := .answer _
    cases raises <;> exact told.leads

theorem runTo_follows (depth : Nat) : Follows forced (runTo depth) := by
  induction depth with
  | zero => exact fun r s allowed => .refl r
  | succ depth ih => exact step_follows ih

theorem Later.leads (later : Later forced r t) : Leads forced r t := by
  induction later with
  | now => exact .refl r
  | stepped before depth step allowed ih => exact ih.trans (runTo_follows depth _ step allowed)

theorem Later.path (later : Later forced {} r) : r.Scripted forced ∧ Path forced {} r :=
  later.leads (by simp [Scripted])

theorem Later.trans (one : Later forced r s) (two : Later forced s t) : Later forced r t := by
  induction two with
  | now => exact one
  | stepped before depth step allowed ih => exact .stepped ih depth step allowed

theorem Reached.later (reached : Reached r) : Later true {} r := by
  induction reached with
  | start => exact .now
  | stepped before depth step orderly ih =>
    exact .stepped ih depth step ((RelayStep.isAllowed_forced step).trans orderly)

theorem Later.played (later : Later forced r s) (steps : List RelayStep)
    (allowed : RelayStep.allAllowed forced steps = true) : Later forced r (s.played steps) := by
  induction steps generalizing s with
  | nil => exact later
  | cons step rest ih =>
    rw [RelayStep.allAllowed, Bool.and_eq_true] at allowed
    exact ih (later.stepped 2 step allowed.1) allowed.2

def ids (r : Relay) : List WorkId := r.works.map Work.id

theorem Quiet.ids (quiet : Quiet r t) : t.ids = r.ids := by rw [Relay.ids, quiet.works, Relay.ids]

theorem calling_endings (r : Relay) : (deliverNext (runTo 0) r).endings = r.endings := by
  obtain ⟨pending, events, calls, parts⟩ := calling_parts r
  have none : events.filterMap RelayEvent.ended = [] := by
    refine List.filterMap_eq_nil_iff.mpr fun e member => ?_
    obtain ⟨n, name, o, rfl⟩ := calls e member
    rfl
  rw [parts, Relay.endings, List.filterMap_append, none]
  rfl

theorem enqueue_ids (w : Work) (r : Relay) : (r.enqueue w).ids = r.ids ++ [w.id] := List.map_append

theorem performed_ids (r : Relay) (n : Nat) (id : WorkId) (result : Outcome) :
    (r.performed n id result).ids = r.ids := by
  refine List.ext_getElem? fun m => ?_
  rw [ids, ids, Relay.performed, List.getElem?_map, List.getElem?_modify, List.getElem?_map]
  cases r.works[m]? with
  | none => rfl
  | some w =>
    change some (if n = m then { w with outcome := some result } else w).id = some w.id
    split <;> rfl

theorem finish_keeps_work {n : Nat} {w : Work} (at_ : r.works[n]? = some w) :
    ∃ outcome, r.finish.works[n]? = some { w with outcome } := by
  cases doing : r.doing with
  | none => exact ⟨w.outcome, by simp only [Relay.finish, doing, at_]⟩
  | some m =>
    cases found : r.works[m]? with
    | none => exact ⟨w.outcome, by simp only [Relay.finish, doing, found, at_]⟩
    | some v =>
      obtain ⟨s, result, quiet, -, left⟩ := finish_performed doing found
      rw [left, Relay.performed, quiet.works, List.getElem?_modify, at_]
      by_cases own : m = n
      · exact ⟨some result, congrArg some (if_pos own)⟩
      · exact ⟨w.outcome, congrArg some (if_neg own)⟩

theorem Move.keeps (move : Move forced r t) {n : Nat} {w : Work} (at_ : r.works[n]? = some w) :
    ∃ outcome, t.works[n]? = some { w with outcome } := by
  cases move with
  | start => exact ⟨w.outcome, by rw [(quiet_start r).works, at_]⟩
  | push v awake hashable numbered allowed =>
    refine ⟨w.outcome, ?_⟩
    rw [← at_]
    exact List.getElem?_append_left (List.getElem?_eq_some_iff.mp at_).1
  | outcomes | answer | leave => exact ⟨w.outcome, at_⟩
  | take => exact ⟨w.outcome, by rw [takeNext_works, at_]⟩
  | finish => exact finish_keeps_work at_
  | call =>
    obtain ⟨pending, events, -, parts⟩ := calling_parts r
    exact ⟨w.outcome, by rw [parts, at_]⟩
  | shutdown =>
    rcases shutdown_through r with same | ⟨s, told, gone⟩
    · exact ⟨w.outcome, by rw [same, at_]⟩
    · rw [gone.works]
      exact finish_keeps_work (told.works ▸ at_)

theorem Path.keeps (path : Path forced r t) {n : Nat} {w : Work} (at_ : r.works[n]? = some w) :
    ∃ outcome, t.works[n]? = some { w with outcome } := by
  induction path with
  | refl => exact ⟨w.outcome, at_⟩
  | tail _ move ih =>
    obtain ⟨_, found⟩ := ih
    obtain ⟨outcome, kept⟩ := move.keeps found
    exact ⟨outcome, kept⟩

-- From the first on, works whose announcement was heard, works that the thread has done and announced, and
-- works that it has not.
structure Flow (r : Relay) (heard ended waiting : List Work) : Prop where
  works : r.works = heard ++ ended ++ waiting
  waits : r.doing.toList ++ r.queue = List.range' (heard ++ ended).length waiting.length
  posted : r.posted = ended.map Work.id
  endings : r.endings = (List.range (heard ++ ended).length).reverse
  results : r.results.map Prod.fst = r.endings
  settled : ∀ n w, (heard ++ ended)[n]? = some w → ∃ result, r.Settled n w result
  hashable : ∀ id ∈ r.ids, id.hashable = true
  numbered : ∀ n m, r.ids[n]? = some (WorkId.fresh m) → m = n

theorem Flow.settles (flow : r.Flow heard ended waiting) (results : t.results = r.results) (n : Nat) (w : Work)
    (at_ : (heard ++ ended)[n]? = some w) : ∃ result, t.Settled n w result := by
  obtain ⟨result, settled⟩ := flow.settled n w at_
  exact ⟨result, settled.later (results ▸ List.Subset.refl _)⟩

theorem Flow.quiet (flow : r.Flow heard ended waiting) (quiet : Quiet r t) : t.Flow heard ended waiting := by
  have works := quiet.works
  have ids := quiet.ids
  have endings := quiet.endings
  obtain ⟨events, silent, same⟩ := quiet
  have results : t.results = r.results := by rw [same]
  refine ⟨works.trans flow.works, ?_, ?_, endings.trans flow.endings, ?_, flow.settles results,
    ?_, ?_⟩
  · rw [same]
    exact flow.waits
  · rw [same]
    exact flow.posted
  · rw [results, endings, flow.results]
  · rw [ids]
    exact flow.hashable
  · rw [ids]
    exact flow.numbered

theorem Flow.enqueue (flow : r.Flow heard ended waiting) {w : Work} (hashable : w.id.hashable = true)
    (numbered : ∀ n, w.id = .fresh n → n = r.works.length) :
    (r.enqueue w).Flow heard ended (waiting ++ [w]) := by
  have length : r.works.length = (heard ++ ended).length + waiting.length := by
    rw [flow.works, List.length_append]
  have longer : (waiting ++ [w]).length = waiting.length + 1 := List.length_append
  refine ⟨?_, ?_, flow.posted, flow.endings, flow.results, flow.settles rfl, ?_, ?_⟩
  · change r.works ++ [w] = _
    rw [flow.works, List.append_assoc]
  · change r.doing.toList ++ (r.queue ++ [r.works.length]) = _
    rw [← List.append_assoc, flow.waits, length, longer, List.range'_concat, Nat.one_mul]
  · rw [enqueue_ids]
    intro id member
    rcases List.mem_append.mp member with known | new
    · exact flow.hashable id known
    · rw [List.mem_singleton.mp new]
      exact hashable
  · rw [enqueue_ids]
    intro n m at_
    rw [List.getElem?_append] at at_
    split at at_
    · exact flow.numbered n m at_
    · rename_i after
      obtain ⟨first, own⟩ := List.getElem?_eq_some_iff.mp at_
      rw [List.length_singleton] at first
      rw [ids, List.length_map] at first after
      have last : n = r.works.length := by omega
      rw [last]
      exact numbered m (by simpa using own)

theorem Flow.takeNext (flow : r.Flow heard ended waiting) : r.takeNext.Flow heard ended waiting := by
  unfold Relay.takeNext
  split
  · rename_i n rest doing queue
    have waits := flow.waits
    rw [doing, queue] at waits
    exact ⟨flow.works, waits, flow.posted, flow.endings, flow.results, flow.settles rfl, flow.hashable,
      flow.numbered⟩
  · exact flow

theorem Flow.doing (flow : r.Flow heard ended waiting) {n : Nat} (doing : r.doing = some n) :
    n = (heard ++ ended).length ∧ ∃ w rest, waiting = w :: rest ∧ r.works[n]? = some w := by
  have waits := flow.waits
  rw [doing] at waits
  cases waiting with
  | nil => cases waits
  | cons w rest =>
    obtain ⟨rfl, -⟩ := List.cons.inj (waits.trans List.range'_succ)
    refine ⟨rfl, w, rest, rfl, ?_⟩
    rw [flow.works]
    exact getElem?_middle ..

theorem Flow.performed {w : Work} {rest : List Work} {result : Outcome}
    (flow : r.Flow heard ended (w :: rest)) (doing : r.doing = some (heard ++ ended).length)
    (gave : w.Gave result) : (r.performed (heard ++ ended).length w.id result).Flow heard
      (ended ++ [{ w with outcome := some result }]) rest := by
  have whole : heard ++ (ended ++ [{ w with outcome := some result }]) =
      heard ++ ended ++ [{ w with outcome := some result }] := (List.append_assoc ..).symm
  have count : (heard ++ (ended ++ [{ w with outcome := some result }])).length =
      (heard ++ ended).length + 1 := by rw [whole, List.length_append, List.length_singleton]
  have works : (r.performed (heard ++ ended).length w.id result).works =
      heard ++ (ended ++ [{ w with outcome := some result }]) ++ rest := by
    rw [Relay.performed, flow.works, modify_middle, whole]
    simp
  have waits := flow.waits
  rw [doing] at waits
  refine ⟨works, ?_, ?_, ?_, congrArg _ flow.results, ?_, ?_, ?_⟩
  · rw [count]
    exact (List.cons.inj (waits.trans List.range'_succ)).2
  · rw [Relay.performed, flow.posted, List.map_append]
    rfl
  · rw [count, List.range_succ, List.reverse_append]
    exact congrArg _ flow.endings
  · intro n v at_
    rw [whole, List.getElem?_append] at at_
    split at at_
    · obtain ⟨known, settled⟩ := flow.settled n v at_
      exact ⟨known, settled.later (List.subset_cons_self _ _)⟩
    · rename_i after
      rw [List.getElem?_singleton] at at_
      split at at_
      · rename_i last
        cases at_
        have own : n = (heard ++ ended).length := by omega
        exact ⟨result, own ▸ List.mem_cons_self, rfl, gave⟩
      · cases at_
  · rw [performed_ids]
    exact flow.hashable
  · rw [performed_ids]
    exact flow.numbered

theorem Flow.finish (flow : r.Flow heard ended waiting) :
    ∃ ended waiting, r.finish.Flow heard ended waiting := by
  cases doing : r.doing with
  | none =>
    have same : r.finish = r := by simp only [Relay.finish, doing]
    rw [same]
    exact ⟨ended, waiting, flow⟩
  | some n =>
    obtain ⟨rfl, w, rest, rfl, at_⟩ := flow.doing doing
    obtain ⟨t, result, same, gave, left⟩ := finish_performed doing at_
    rw [left]
    exact ⟨_, rest, (flow.quiet same).performed (same.doing.trans doing) gave⟩

theorem Flow.calling (flow : r.Flow heard ended waiting) :
    (deliverNext (runTo 0) r).Flow (heard ++ ended.take 1) ended.tail waiting := by
  have whole : heard ++ ended.take 1 ++ ended.tail = heard ++ ended := by
    rw [List.append_assoc, ← List.drop_one, List.take_append_drop]
  have endings := calling_endings r
  obtain ⟨pending, events, calls, parts⟩ := calling_parts r
  have results : (deliverNext (runTo 0) r).results = r.results := by rw [parts]
  refine ⟨?_, ?_, ?_, ?_, ?_, ?_, ?_, ?_⟩
  · rw [parts, whole]
    exact flow.works
  · rw [parts, whole]
    exact flow.waits
  · rw [parts, flow.posted, List.map_tail]
  · rw [endings, whole, flow.endings]
  · rw [results, endings, flow.results]
  · rw [whole]
    exact flow.settles results
  · rw [parts]
    exact flow.hashable
  · rw [parts]
    exact flow.numbered

theorem Flow.shutdown (flow : r.Flow heard ended waiting) :
    ∃ ended waiting, r.shutdown.Flow heard ended waiting := by
  rcases shutdown_through r with same | ⟨t, told, gone⟩
  · rw [same]
    exact ⟨ended, waiting, flow⟩
  · obtain ⟨ended, waiting, done⟩ := (flow.quiet told).finish
    exact ⟨ended, waiting, done.quiet gone⟩

theorem Move.flow (move : Move forced r t) (flow : r.Flow heard ended waiting) :
    ∃ heard ended waiting, t.Flow heard ended waiting := by
  cases move with
  | start => exact ⟨heard, ended, waiting, flow.quiet (quiet_start r)⟩
  | push w awake hashable numbered allowed =>
    exact ⟨heard, ended, waiting ++ [w], flow.enqueue hashable numbered⟩
  | outcomes table => exact ⟨heard, ended, waiting, flow.quiet ⟨[], by simp, rfl⟩⟩
  | answer o =>
    refine ⟨heard, ended, waiting, flow.quiet ⟨[.done none syncName o], ?_, rfl⟩⟩
    simp [RelayEvent.ended, RelayEvent.told]
  | take free => exact ⟨heard, ended, waiting, flow.takeNext⟩
  | leave told => exact ⟨heard, ended, waiting, flow.quiet ⟨[], by simp, rfl⟩⟩
  | finish => exact ⟨heard, flow.finish⟩
  | call => exact ⟨_, _, _, flow.calling⟩
  | shutdown => exact ⟨heard, flow.shutdown⟩

theorem flow_empty : Flow {} [] [] [] :=
  ⟨rfl, rfl, rfl, rfl, rfl, by simp, by simp [ids], by simp [ids]⟩

theorem Path.flow (path : Path forced {} r) : ∃ heard ended waiting, r.Flow heard ended waiting := by
  induction path with
  | refl => exact ⟨[], [], [], flow_empty⟩
  | tail _ move ih =>
    obtain ⟨heard, ended, waiting, flow⟩ := ih
    exact move.flow flow

end Relay

end PagedTable
