import PagedTable.Proofs.RelayPaths

namespace PagedTable

namespace Relay

variable {r t : Relay} {heard ended waiting : List Work}

def rounds (k : Nat) : List RelayStep := (List.replicate k [.takeNext, .finish]).flatten

-- The next steps of the thread perform the works that it has not done, in the order in which they were pushed.
def Serves (r : Relay) : Prop :=
  ∀ k, (r.played (rounds k)).endings = ((r.doing.toList ++ r.queue).take k).reverse ++ r.endings

structure Heeded (r : Relay) : Prop where
  told : r.stopping = true ↔ .thread .quit ∈ r.journal
  idle : r.stopping = true → r.doing = none
  awake : r.stopping = false → r.queue ≠ [] → r.running = true

theorem finish_keeps (r : Relay) : r.finish.running = r.running ∧ r.finish.stopping = r.stopping ∧
    r.finish.queue = r.queue ∧ r.finish.doing = none ∧
    ∀ e, .thread e ∈ r.finish.journal ↔ .thread e ∈ r.journal := by
  unfold finish
  split
  · rename_i none
    exact ⟨rfl, rfl, rfl, none, fun e => Iff.rfl⟩
  · dsimp only
    split
    · exact ⟨rfl, rfl, rfl, rfl, fun e => Iff.rfl⟩
    · rename_i w _
      cases w.job with
      | outcome d => exact ⟨rfl, rfl, rfl, rfl, by simp [perform, setOutcome, record]⟩
      | client c => exact ⟨rfl, rfl, rfl, rfl, by simp [perform, setOutcome, record]⟩

theorem start_keeps (r : Relay) : r.start.running = true ∧ r.start.stopping = r.stopping ∧
    r.start.queue = r.queue ∧ r.start.doing = r.doing ∧
    (.thread .quit ∈ r.start.journal ↔ .thread .quit ∈ r.journal) := by
  unfold start
  split
  · exact ⟨by assumption, rfl, rfl, rfl, Iff.rfl⟩
  · exact ⟨rfl, rfl, rfl, rfl, by simp [record]⟩

theorem finish_idle (idle : r.doing = none) : r.finish = r := by simp only [finish, idle]

theorem takeNext_idle (none : r.queue = []) : r.takeNext = r := by
  unfold takeNext
  rw [none]
  split
  · rename_i other
    cases other
  · rfl

theorem takeNext_stopping (r : Relay) : r.takeNext.stopping = r.stopping := by
  unfold takeNext
  split <;> rfl

theorem Move.heeded (move : Move false r t) (heeded : r.Heeded) : t.Heeded := by
  cases move with
  | start =>
    obtain ⟨running, stopping, queue, doing, journal⟩ := start_keeps { r with inUse := true }
    exact ⟨by rw [stopping, journal]; exact heeded.told, by rw [stopping, doing]; exact heeded.idle,
      fun _ _ => running⟩
  | push w awake hashable numbered allowed => exact ⟨heeded.told, heeded.idle, fun _ _ => awake⟩
  | outcomes table => exact ⟨heeded.told, heeded.idle, heeded.awake⟩
  | answer o => exact ⟨by simpa [record] using heeded.told, heeded.idle, heeded.awake⟩
  | take free =>
    obtain ⟨running, free⟩ := free.resolve_left nofun
    unfold takeNext
    split
    · exact ⟨heeded.told, fun told => by simp [free] at told, fun _ _ => running⟩
    · exact heeded
  | leave told => exact ⟨heeded.told, heeded.idle, fun free => by simp [told] at free⟩
  | finish =>
    obtain ⟨running, stopping, queue, doing, journal⟩ := finish_keeps r
    refine ⟨by rw [stopping, journal]; exact heeded.told, fun _ => doing, ?_⟩
    rw [stopping, queue, running]
    exact heeded.awake
  | call =>
    obtain ⟨pending, events, calls, parts⟩ := calling_parts r
    rw [parts]
    refine ⟨heeded.told.trans ⟨fun told => List.mem_append_right _ told, fun told => ?_⟩, heeded.idle,
      heeded.awake⟩
    -- callbacks are told of, but no quitting of the thread
    refine (List.mem_append.mp told).resolve_left fun called => ?_
    obtain ⟨n, name, o, other⟩ := calls _ called
    cases other
  | shutdown =>
    unfold Relay.shutdown
    split
    · obtain ⟨-, stopping, -, doing, journal⟩ :=
        finish_keeps (({ r with stopping := true } : Relay).record (.thread .quit))
      have told := (journal .quit).mpr List.mem_cons_self
      refine ⟨⟨fun _ => List.mem_cons_of_mem _ told, fun _ => stopping⟩, fun _ => doing, fun free => ?_⟩
      cases stopping.symm.trans free
    · exact heeded

theorem Path.heeded (path : Path false {} r) : r.Heeded := by
  induction path with
  | refl => exact ⟨by simp, by simp, by simp⟩
  | tail _ move ih => exact move.heeded ih

theorem Heeded.takes (heeded : r.Heeded) (free : r.stopping = false) : r.threadStep = r.takeNext := by
  unfold threadStep
  cases running : r.running with
  | true => simp [free]
  | false =>
    have none : r.queue = [] := by
      refine Decidable.of_not_not fun some => ?_
      rw [heeded.awake free some] at running
      cases running
    rw [takeNext_idle none]
    rfl

theorem Flow.finishes {n : Nat} (flow : r.Flow heard ended waiting) (doing : r.doing = some n) :
    r.finish.endings = n :: r.endings := by
  obtain ⟨-, w, rest, -, at_⟩ := flow.doing doing
  obtain ⟨t, result, quiet, -, left⟩ := finish_performed doing at_
  rw [left, ← quiet.endings]
  rfl

-- In one round the thread is through with the first of the works that it has not done.
theorem Flow.round (flow : r.Flow heard ended waiting) :
    r.takeNext.finish.endings = ((r.doing.toList ++ r.queue).take 1).reverse ++ r.endings ∧
    r.takeNext.finish.doing.toList ++ r.takeNext.finish.queue = (r.doing.toList ++ r.queue).tail := by
  obtain ⟨-, -, queue, idle, -⟩ := finish_keeps r.takeNext
  rw [idle, queue]
  cases doing : r.doing with
  | some n =>
    have same : r.takeNext = r := by simp only [Relay.takeNext, doing]
    rw [same]
    exact ⟨flow.finishes doing, rfl⟩
  | none =>
    cases waits : r.queue with
    | nil =>
      rw [takeNext_idle waits, finish_idle doing, waits]
      exact ⟨rfl, rfl⟩
    | cons n rest =>
      have taken : r.takeNext = { r with queue := rest, doing := some n } := by
        simp only [Relay.takeNext, doing, waits]
      have ends := flow.takeNext.finishes (n := n) (by rw [taken])
      rw [ends, taken]
      exact ⟨rfl, rfl⟩

theorem Later.serves (later : Later false {} r) (free : r.stopping = false) : r.Serves := by
  intro k
  induction k generalizing r with
  | zero => rfl
  | succ k ih =>
    obtain ⟨heard, ended, waiting, flow⟩ := later.path.2.flow
    obtain ⟨endings, left⟩ := flow.round
    have round : r.played [.takeNext, .finish] = r.takeNext.finish := by
      change r.threadStep.finish = _
      rw [later.path.2.heeded.takes free]
    have after : Later false {} r.takeNext.finish := round ▸ later.played [.takeNext, .finish] rfl
    have still : r.takeNext.finish.stopping = false := by
      rw [(finish_keeps r.takeNext).2.1, takeNext_stopping, free]
    have rest : r.played (rounds (k + 1)) = (r.played [.takeNext, .finish]).played (rounds k) := rfl
    rw [rest, round, ih after still, left, endings]
    cases r.doing.toList ++ r.queue with
    | nil => simp
    | cons n waits => simp

theorem Move.stopped (move : Move false r t) (told : r.stopping = true) (idle : r.doing = none) :
    t.stopping = true ∧ t.doing = none ∧ t.endings = r.endings ∧ r.queue <+: t.queue := by
  cases move with
  | start =>
    obtain ⟨-, stopping, queue, doing, -⟩ := start_keeps { r with inUse := true }
    exact ⟨stopping.trans told, doing.trans idle, (quiet_start r).endings,
      [], (List.append_nil _).trans queue.symm⟩
  | push w awake hashable numbered allowed => exact ⟨told, idle, rfl, List.prefix_append _ _⟩
  | outcomes | answer | leave => exact ⟨told, idle, rfl, List.prefix_refl _⟩
  | take free =>
    obtain ⟨-, free⟩ := free.resolve_left nofun
    cases told.symm.trans free
  | finish =>
    rw [finish_idle idle]
    exact ⟨told, idle, rfl, List.prefix_refl _⟩
  | call =>
    have endings := calling_endings r
    obtain ⟨pending, events, calls, parts⟩ := calling_parts r
    rw [parts] at endings ⊢
    exact ⟨told, idle, endings, List.prefix_refl _⟩
  | shutdown =>
    unfold Relay.shutdown
    split
    · have idle : (({ r with stopping := true } : Relay).record (.thread .quit)).doing = none := idle
      rw [finish_idle idle]
      exact ⟨rfl, idle, rfl, List.prefix_refl _⟩
    · exact ⟨told, idle, rfl, List.prefix_refl _⟩

theorem Path.stopped (path : Path false r t) (told : r.stopping = true) (idle : r.doing = none) :
    t.stopping = true ∧ t.doing = none ∧ t.endings = r.endings ∧ r.queue <+: t.queue := by
  induction path with
  | refl => exact ⟨told, idle, rfl, List.prefix_refl _⟩
  | tail _ move ih =>
    obtain ⟨told, idle, endings, waits⟩ := ih
    obtain ⟨still, none, same, more⟩ := move.stopped told idle
    exact ⟨still, none, same.trans endings, waits.trans more⟩

theorem rounds_allowed (k : Nat) : RelayStep.allAllowed false (rounds k) = true := by
  induction k with
  | zero => rfl
  | succ k ih => exact ih

structure Restarted (r t : Relay) : Prop where
  running : t.running = true
  flag : t.stopping = r.stopping
  serves : t.Serves ↔ .thread .quit ∉ r.journal

structure Usable (r : Relay) : Prop where
  told : r.stopping = true ↔ .thread .quit ∈ r.journal
  serves : r.Serves ↔ r.stopping = false ∨ r.queue = []
  stopped : r.stopping = true → ∀ t, Later false r t →
    t.stopping = true ∧ t.endings = r.endings ∧ r.queue <+: t.queue
  pushed : ∀ depth name id job raises script known, newId id r = .ok known →
    RelayStep.allAllowed false script = true →
    Restarted r ((runTo (depth + 1) (.push name id job raises script)).after r)

theorem Later.stopped (later : Later false {} r) (told : r.stopping = true) (further : Later false r t) :
    t.stopping = true ∧ t.endings = r.endings ∧ r.queue <+: t.queue := by
  obtain ⟨scripted, path⟩ := later.path
  obtain ⟨still, -, endings, waits⟩ := (further.leads scripted).2.stopped told (path.heeded.idle told)
  exact ⟨still, endings, waits⟩

theorem Later.serves_iff (later : Later false {} r) : r.Serves ↔ r.stopping = false ∨ r.queue = [] := by
  cases told : r.stopping with
  | false => exact ⟨fun _ => .inl rfl, fun _ => later.serves told⟩
  | true =>
    have idle : r.doing = none := later.path.2.heeded.idle told
    have endings : ∀ k, (r.played (rounds k)).endings = r.endings := fun k =>
      (later.stopped told (Later.now.played (rounds k) (rounds_allowed k))).2.1
    constructor
    · intro serves
      have first := serves 1
      rw [endings, idle] at first
      exact .inr (by simpa using first)
    · intro none k
      rw [endings, idle, none.resolve_left nofun]
      simp

theorem Later.pushed (later : Later false {} r) {depth : Nat} {name : String} {id : Option Value} {job : Job}
    {raises : Option Fault} {script : List RelayStep} {known : WorkId} (new : newId id r = .ok known)
    (allowed : RelayStep.allAllowed false script = true) :
    Restarted r ((runTo (depth + 1) (.push name id job raises script)).after r) := by
  obtain ⟨running, stopping, -, -, -⟩ := start_keeps { r with inUse := true }
  have after := push_after name job raises script new (runTo depth)
  have further := later.stepped (depth + 1) (.push name id job raises script) allowed
  have serves := further.serves_iff
  rw [runTo, after] at serves ⊢
  refine ⟨running, stopping, serves.trans ?_⟩
  have waits : ((({ r with inUse := true } : Relay).start.enqueue
      { id := known, name, job, raises, script }).queue = []) = False := by simp [enqueue]
  rw [waits, or_false, ← later.path.2.heeded.told, Bool.not_eq_true]
  exact Eq.congr_left stopping

-- As long as no shutdown has found the thread running, its stop flag is clear, and its next steps perform the
-- works that wait, in the order in which they were pushed. From the first such shutdown on the flag is set for
-- ever: the thread is started for each work that is pushed, but performs none again.
theorem usable_until_shutdown (later : Later false {} r) : r.Usable :=
  ⟨later.path.2.heeded.told, later.serves_iff, fun told _ further => later.stopped told further,
    fun _ _ _ _ _ _ _ new allowed => later.pushed new allowed⟩

def revived : List RelayStep :=
  [.push "first" none (.outcome (.value .null)) none [], .takeNext, .finish, .shutdown,
    .push "second" none (.outcome (.value .null)) none []]

theorem revived_later : Later false {} (played revived {}) := Later.now.played revived rfl

theorem revived_usable : Later false {} (played revived {}) ∧ (played revived {}).Usable ∧
    (played revived {}).endings = [0] ∧ (played revived {}).queue = [1] :=
  ⟨revived_later, usable_until_shutdown revived_later, by decide +kernel, by decide +kernel⟩

-- The thread runs for what is pushed after a shutdown, with the flag set, and does not perform it.
theorem revived_stuck : Later false {} (played revived {}) ∧ (played revived {}).running = true ∧
    (played revived {}).stopping = true ∧ ¬ (played revived {}).Serves := by
  refine ⟨revived_later, by decide +kernel, by decide +kernel, fun serves => ?_⟩
  have first := serves 1
  revert first
  decide +kernel

end Relay

end PagedTable
