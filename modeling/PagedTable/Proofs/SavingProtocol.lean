import PagedTable.Settings.Format

namespace PagedTable.LocalSettings

inductive Reached : LocalSettings → Prop where
  | opened (format : SettingsFormat) (file : SettingsFile) (denied : Bool) :
      Reached { (openAt format file).1 with denied }
  | stepped {s : LocalSettings} (before : Reached s) (step : SettingsStep) : Reached (s.perform step).1

def restarts : SavingEvent → Bool
  | .started _ => true
  | _ => false

def isStray : SavingEvent → Bool
  | .fired _ stray => stray
  | _ => false

-- Whether a timer fired that was called off too late, while changes are saved: it lets the known one out of
-- sight.
def strayed (s : LocalSettings) : Bool := s.history.any isStray

-- The newest timer among some events runs still, unless it fired or read-only mode was entered since.
def Awaited (s : LocalSettings) (events : List SavingEvent) : Prop :=
  ∀ later timer earlier, events = later ++ .started timer :: earlier → later.all (fun e => !restarts e) = true →
    .barred ∈ later ∨ (∃ stray, .fired timer stray ∈ later) ∨ timer ∈ s.running

structure Kept (s : LocalSettings) : Prop where
  barred : s.readOnly = true → s.timer = none
  known : ∀ timer, s.timer = some timer → timer ∈ s.running
  alone : s.strayed = false → s.running = s.timer.toList
  awaited : s.Awaited s.history
  started : ∀ newer older, s.history = newer ++ .changed false :: older →
    ∃ later timer, newer = later ++ [.started timer]

variable {s : LocalSettings}

theorem Kept.same {t : LocalSettings} (kept : s.Kept) (mode : t.readOnly = s.readOnly)
    (timer : t.timer = s.timer) (running : t.running = s.running) (history : t.history = s.history) :
    t.Kept where
  barred := by rw [mode, timer]; exact kept.barred
  known := by rw [timer, running]; exact kept.known
  alone := by rw [strayed, history, running, timer]; exact kept.alone
  awaited := by rw [Awaited, history, running]; exact kept.awaited
  started := by rw [history]; exact kept.started

theorem Kept.fresh (format : SettingsFormat) (content : Fields) (file : SettingsFile) (denied : Bool) :
    Kept { format, content, file, denied } where
  barred _ := rfl
  known _ := nofun
  alone _ := rfl
  awaited later timer earlier split := by simp at split
  started newer older split := by simp at split

theorem load_content (s : LocalSettings) : s.load.1 = { s with content := s.load.1.content } := by
  unfold load
  split
  · rfl
  · rfl
  · split <;> rfl

theorem save_file (s : LocalSettings) : s.save.1 = { s with file := s.save.1.file } := by
  unfold save
  split <;> rfl

theorem openAt_kept (format : SettingsFormat) (file : SettingsFile) (denied : Bool) :
    Kept { (openAt format file).1 with denied } := by
  rw [openAt, load_content]
  exact .fresh format _ file denied

@[simp] theorem timer_callOff (s : LocalSettings) : s.callOff.timer = none := by
  unfold callOff
  split
  · assumption
  · rfl

@[simp] theorem history_callOff (s : LocalSettings) : s.callOff.history = s.history := by
  unfold callOff
  split <;> rfl

@[simp] theorem readOnly_callOff (s : LocalSettings) : s.callOff.readOnly = s.readOnly := by
  unfold callOff
  split <;> rfl

theorem running_callOff (alone : s.running = s.timer.toList) : s.callOff.running = [] := by
  unfold callOff
  cases timer : s.timer with
  | none =>
    rw [timer] at alone
    exact alone
  | some t =>
    rw [timer] at alone
    simp [alone]

-- A change that was just made is followed by a timer, as all changes before it are.
def Following (events : List SavingEvent) : Prop :=
  ∀ newer older, events = newer ++ .changed false :: older →
    newer = [] ∨ ∃ later timer, newer = later ++ [.started timer]

theorem Kept.following (kept : s.Kept) : Following s.history := fun newer older split =>
  .inr (kept.started newer older split)

theorem started_later {events rest older : List SavingEvent} {e first : SavingEvent}
    (started : ∀ newer older, events = newer ++ .changed false :: older →
      ∃ later timer, newer = later ++ [.started timer])
    (split : e :: events = first :: rest ++ .changed false :: older) :
    ∃ later timer, first :: rest = later ++ [.started timer] := by
  obtain ⟨later, timer, same⟩ := started rest older (List.cons.inj split).2
  exact ⟨first :: later, timer, by rw [same, List.cons_append]⟩

theorem started_cons {events : List SavingEvent} {e : SavingEvent} (other : e ≠ .changed false)
    (started : ∀ newer older, events = newer ++ .changed false :: older →
      ∃ later timer, newer = later ++ [.started timer])
    (newer older : List SavingEvent) (split : e :: events = newer ++ .changed false :: older) :
    ∃ later timer, newer = later ++ [.started timer] := by
  cases newer with
  | nil => exact absurd (List.cons.inj split).1 other
  | cons first rest => exact started_later started split

theorem following_changed {events : List SavingEvent}
    (started : ∀ newer older, events = newer ++ .changed false :: older →
      ∃ later timer, newer = later ++ [.started timer]) (readOnly : Bool) :
    Following (.changed readOnly :: events) := by
  intro newer older split
  cases newer with
  | nil => exact .inl rfl
  | cons first rest => exact .inr (started_later started split)

theorem Kept.begun {u : LocalSettings} (writable : u.readOnly = false)
    (alone : u.strayed = false → u.running = []) (following : Following u.history) : u.startTimer.Kept where
  barred readOnly := by
    change u.readOnly = true at readOnly
    rw [writable] at readOnly
    cases readOnly
  known timer same := by
    cases same
    exact List.mem_cons_self
  alone calm := by
    have before : u.strayed = false := by simpa [strayed, startTimer, record, isStray] using calm
    change u.timers :: u.running = [u.timers]
    rw [alone before]
  awaited later timer earlier split calm := by
    cases later with
    | nil =>
      cases (List.cons.inj split).1
      exact .inr (.inr List.mem_cons_self)
    | cons first rest =>
      rw [← (List.cons.inj split).1] at calm
      cases calm
  started newer older split := by
    cases newer with
    | nil => cases split
    | cons first rest =>
      obtain ⟨rfl, rest_split⟩ := List.cons.inj split
      rcases following rest older rest_split with rfl | ⟨later, timer, rfl⟩
      · exact ⟨[], u.timers, rfl⟩
      · exact ⟨.started u.timers :: later, timer, rfl⟩

theorem Kept.scheduled (kept : s.Kept) : s.schedule.Kept := by
  unfold schedule
  split
  · exact kept
  · rename_i writable
    refine .begun (by simpa using writable) ?_ ?_
    · intro calm
      rw [strayed, history_callOff] at calm
      exact running_callOff (kept.alone calm)
    · rw [history_callOff]
      exact kept.following

theorem Awaited.past {events : List SavingEvent} {e : SavingEvent} {t : LocalSettings}
    (awaited : s.Awaited events) (other : restarts e = false)
    (kept : ∀ timer ∈ s.running, timer ∈ t.running ∨ e = .barred ∨ ∃ stray, e = .fired timer stray) :
    t.Awaited (e :: events) := by
  intro later timer earlier split calm
  cases later with
  | nil =>
    rw [(List.cons.inj split).1] at other
    cases other
  | cons first rest =>
    obtain ⟨rfl, rest_split⟩ := List.cons.inj split
    rw [List.all_cons, Bool.and_eq_true] at calm
    rcases awaited rest timer earlier rest_split calm.2 with barred | ⟨stray, fired⟩ | runs
    · exact .inl (List.mem_cons_of_mem _ barred)
    · exact .inr (.inl ⟨stray, List.mem_cons_of_mem _ fired⟩)
    · rcases kept timer runs with still | rfl | ⟨stray, rfl⟩
      · exact .inr (.inr still)
      · exact .inl List.mem_cons_self
      · exact .inr (.inl ⟨stray, List.mem_cons_self⟩)

theorem Kept.set (kept : s.Kept) (key : String) (value : Value) : (s.set key value).Kept := by
  unfold LocalSettings.set
  split
  · exact kept
  · rename_i content _
    have calmly : (.changed s.readOnly :: s.history).any isStray = false → s.running = s.timer.toList := by
      intro calm
      refine kept.alone ?_
      simpa [strayed, isStray] using calm
    unfold schedule
    split <;> rename_i mode <;> simp only [record, Bool.not_eq_true] at mode
    · refine ⟨kept.barred, kept.known, calmly, ?_, ?_⟩
      · exact kept.awaited.past rfl fun timer runs => .inl runs
      · exact started_cons (by simp [mode]) kept.started
    · refine .begun (by simpa [record] using mode) ?_ ?_
      · intro calm
        rw [strayed, history_callOff] at calm
        exact running_callOff (calmly calm)
      · rw [history_callOff]
        exact following_changed kept.started s.readOnly

theorem Kept.setReadOnly (kept : s.Kept) (readOnly : Bool) : (s.setReadOnly readOnly).Kept := by
  unfold LocalSettings.setReadOnly
  cases readOnly with
  | true =>
    refine ⟨fun _ => timer_callOff s, ?_, ?_, ?_, ?_⟩
    · intro timer same
      have none : s.callOff.timer = some timer := same
      rw [timer_callOff] at none
      cases none
    · intro calm
      have before : s.strayed = false := by
        simpa [strayed, record, isStray] using calm
      change s.callOff.running = s.callOff.timer.toList
      rw [running_callOff (kept.alone before), timer_callOff]
      rfl
    · change Awaited _ (.barred :: s.callOff.history)
      rw [history_callOff]
      exact kept.awaited.past rfl fun timer runs => .inr (.inl rfl)
    · change ∀ newer older, .barred :: s.callOff.history = newer ++ .changed false :: older → _
      rw [history_callOff]
      exact started_cons (by simp) kept.started
  | false => exact ⟨nofun, kept.known, kept.alone, kept.awaited, kept.started⟩

theorem timerFired_timers (barred : s.readOnly = true → s.timer = none) :
    s.timerFired.1 = { s with timer := none, file := s.timerFired.1.file } := by
  unfold timerFired
  split
  · rename_i readOnly
    rw [← barred readOnly]
  · have saved := save_file { s with timer := none }
    generalize save { s with timer := none } = result at saved ⊢
    rcases result with ⟨t, e | ⟨⟩⟩ <;> exact saved

theorem Kept.elapse (kept : s.Kept) (timer : Nat) : (s.elapse timer).1.Kept := by
  have same := timerFired_timers (s := { s with
    running := s.running.filter fun t => t ≠ timer
    late := s.late.filter fun t => t ≠ timer
    history := .fired timer (!s.readOnly && !s.running.contains timer) :: s.history }) kept.barred
  rw [LocalSettings.elapse, same]
  refine ⟨fun _ => rfl, nofun, ?_, ?_, ?_⟩
  · intro calm
    simp only [strayed, List.any_cons, isStray, Bool.or_eq_false_iff, Bool.and_eq_false_iff,
      Bool.not_eq_eq_eq_not, Bool.not_false] at calm
    obtain ⟨own, before⟩ := calm
    have alone := kept.alone before
    change (s.running.filter fun t => t ≠ timer) = []
    rw [alone]
    rcases own with readOnly | runs
    · rw [kept.barred readOnly]
      rfl
    · rw [alone] at runs
      cases known : s.timer with
      | none => rfl
      | some t =>
        rw [known] at runs
        have equal : timer = t := by simpa using runs
        simp [equal]
  · refine kept.awaited.past rfl fun t runs => ?_
    by_cases equal : t = timer
    · exact .inr (.inr ⟨_, by rw [equal]⟩)
    · exact .inl (List.mem_filter.mpr ⟨runs, by simpa using equal⟩)
  · exact started_cons (by simp) kept.started

theorem Kept.perform (kept : s.Kept) (step : SettingsStep) : (s.perform step).1.Kept := by
  cases step with
  | get key missing => exact kept
  | set key value => exact kept.set key value
  | tableGet table name missing => exact kept
  | tableSet table name value => exact kept.set _ value
  | tableKey table name => exact kept
  | readOnly value => exact kept.setReadOnly value
  | schedule => exact kept.scheduled
  | save =>
    change s.save.1.Kept
    rw [save_file]
    exact kept.same rfl rfl rfl rfl
  | fire tooLate =>
    change (s.fire tooLate).1.Kept
    unfold LocalSettings.fire
    split
    · cases tooLate with
      | true => exact (kept.setReadOnly true).elapse _
      | false => exact kept.elapse _
    · exact kept
  | elapse timer =>
    simp only [LocalSettings.perform]
    split
    · exact kept.elapse timer
    · exact kept
  | deny denied => exact kept.same rfl rfl rfl rfl
  | block => exact kept.same rfl rfl rfl rfl
  | showFile =>
    simp only [LocalSettings.perform]
    split <;> exact kept
  | write file =>
    cases file with
    | none => exact kept.same rfl rfl rfl rfl
    | some text =>
      simp only [LocalSettings.perform]
      split
      · exact kept
      · exact kept.same rfl rfl rfl rfl
  | reopen =>
    simp only [LocalSettings.perform]
    have opened := openAt_kept s.format s.file s.denied
    generalize openAt s.format s.file = result at opened ⊢
    rcases result with ⟨fresh, e | ⟨⟩⟩
    · exact kept
    · exact opened
  | load =>
    change s.load.1.Kept
    rw [load_content]
    exact kept.same rfl rfl rfl rfl

theorem Reached.kept (reached : Reached s) : s.Kept := by
  induction reached with
  | opened format file denied => exact openAt_kept format file denied
  | stepped before step ih => exact ih.perform step

-- A change, and what came after it: the newest timer since runs still, or has fired, unless read-only mode
-- was entered.
def Followed (s : LocalSettings) (newer : List SavingEvent) : Prop :=
  .barred ∈ newer ∨ ∃ later timer earlier, newer = later ++ .started timer :: earlier ∧
    later.all (fun e => !restarts e) = true ∧ ((∃ stray, .fired timer stray ∈ later) ∨ timer ∈ s.running)

-- What a timer that fires comes to: nothing in read-only mode; else the file holds what is in memory, or is
-- as it was where it could not be written. It stops only on settings that no file can hold.
structure Fires (s t : LocalSettings) (outcome : Except Fault Unit) : Prop where
  content : t.content = s.content
  barred : s.readOnly = true → t.file = s.file ∧ outcome = .ok ()
  saved : s.readOnly = false → ∀ text, s.writing = .ok text →
    outcome = .ok () ∧ t.file = .text text ∧ s.format.write s.content = some text ∧
      (s.format.read text = some s.content → (openAt s.format t.file).1.content = s.content)
  failed : s.readOnly = false → ∀ e, s.writing = .error e →
    t.file = s.file ∧ (e.isSystem = true → outcome = .ok ())
  stopped : ∀ e, outcome = .error e → e = .unwritable ∧ s.format.write s.content = none

theorem newest_start {events : List SavingEvent} {timer : Nat} (member : .started timer ∈ events) :
    ∃ later timer earlier, events = later ++ .started timer :: earlier ∧
      later.all (fun e => !restarts e) = true := by
  induction events with
  | nil => cases member
  | cons first rest ih =>
    by_cases own : ∃ t, first = .started t
    · obtain ⟨t, rfl⟩ := own
      exact ⟨[], t, rest, rfl, rfl⟩
    · have other : restarts first = false := by
        cases first with
        | started t => exact absurd ⟨t, rfl⟩ own
        | _ => rfl
      have later : .started timer ∈ rest := (List.mem_cons.mp member).resolve_left fun same =>
        own ⟨timer, same.symm⟩
      obtain ⟨later, t, earlier, split, calm⟩ := ih later
      exact ⟨first :: later, t, earlier, by rw [split, List.cons_append], by simp [other, calm]⟩

theorem Kept.followed (kept : s.Kept) {newer older : List SavingEvent}
    (split : s.history = newer ++ .changed false :: older) : s.Followed newer := by
  obtain ⟨since, first, started⟩ := kept.started newer older split
  have member : .started first ∈ newer := by
    rw [started]
    exact List.mem_append_right _ List.mem_cons_self
  obtain ⟨later, timer, earlier, parted, calm⟩ := newest_start member
  have whole : s.history = later ++ .started timer :: (earlier ++ .changed false :: older) := by
    rw [split, parted, List.append_assoc, List.cons_append]
  rcases kept.awaited later timer _ whole calm with barred | fired | runs
  · exact .inl (parted ▸ List.mem_append_left _ barred)
  · exact .inr ⟨later, timer, earlier, parted, calm, .inl fired⟩
  · exact .inr ⟨later, timer, earlier, parted, calm, .inr runs⟩

theorem writing_ok {text : String} (written : s.writing = .ok text) : s.format.write s.content = some text := by
  unfold writing at written
  split at written
  · cases written
  · split at written <;> cases written
    assumption

theorem writing_error {e : Fault} (refused : s.writing = .error e) :
    e.isSystem = true ∨ e = .unwritable ∧ s.format.write s.content = none := by
  unfold writing at refused
  split at refused
  · cases refused
    exact .inl rfl
  · split at refused <;> cases refused
    · rename_i unwritable
      exact .inr ⟨rfl, unwritable⟩
    · exact .inl rfl

theorem openAt_text {format : SettingsFormat} {text : String} {content : Fields}
    (read : format.read text = some content) : (openAt format (.text text)).1.content = content := by
  simp only [openAt, load, read]

theorem timerFired_fires (s : LocalSettings) : s.Fires s.timerFired.1 s.timerFired.2 := by
  unfold timerFired
  split
  · rename_i mode
    refine ⟨rfl, fun _ => ⟨rfl, rfl⟩, ?_, ?_, nofun⟩
    · intro writable
      rw [mode] at writable
      cases writable
    · intro writable
      rw [mode] at writable
      cases writable
  · rename_i mode
    cases written : s.writing with
    | ok text =>
      have saved : ({ s with timer := none } : LocalSettings).save =
          ({ s with timer := none, file := .text text }, .ok ()) := by
        unfold save
        rw [show ({ s with timer := none } : LocalSettings).writing = .ok text from written]
      rw [saved]
      refine ⟨rfl, fun readOnly => absurd readOnly mode, ?_, ?_, nofun⟩
      · intro _ other same
        rw [written] at same
        cases same
        exact ⟨rfl, rfl, writing_ok written, openAt_text⟩
      · intro _ e same
        rw [written] at same
        cases same
    | error e =>
      have saved : ({ s with timer := none } : LocalSettings).save = ({ s with timer := none }, .error e) := by
        unfold save
        rw [show ({ s with timer := none } : LocalSettings).writing = .error e from written]
      rw [saved]
      refine ⟨rfl, fun readOnly => absurd readOnly mode, ?_, ?_, ?_⟩
      · intro _ text same
        rw [written] at same
        cases same
      · intro _ other same
        rw [written] at same
        cases same
        exact ⟨rfl, fun system => if_pos system⟩
      -- only what is no trouble of the file system stops the timer
      · intro raised stops
        dsimp only at stops
        split at stops
        · cases stops
        · rename_i other
          cases stops
          exact (writing_error written).resolve_left other

theorem elapse_fires (s : LocalSettings) (timer : Nat) : s.Fires (s.elapse timer).1 (s.elapse timer).2 := by
  have fires := timerFired_fires { s with
    running := s.running.filter fun t => t ≠ timer
    late := s.late.filter fun t => t ≠ timer
    history := .fired timer (!s.readOnly && !s.running.contains timer) :: s.history }
  exact ⟨fires.content, fires.barred, fires.saved, fires.failed, fires.stopped⟩

-- Whatever is done to settings and whenever timers fire: in read-only mode no timer is known, and none runs
-- unless one that was called off too late had fired before; each change that is not for memory only is
-- followed by a timer until that fires or read-only mode is entered; and a timer that fires writes nothing
-- in read-only mode and else all that is in memory, and stops on no trouble of the file system.
theorem saving_protocol (reached : Reached s) :
    (s.readOnly = true → s.timer = none ∧ (s.strayed = false → s.running = [])) ∧
    (∀ newer older, s.history = newer ++ .changed false :: older → s.Followed newer) ∧
    ∀ timer, s.Fires (s.elapse timer).1 (s.elapse timer).2 := by
  have kept := reached.kept
  refine ⟨?_, fun newer older split => kept.followed split, elapse_fires s⟩
  intro readOnly
  have known := kept.barred readOnly
  refine ⟨known, fun calm => ?_⟩
  rw [kept.alone calm, known]
  rfl

def played (steps : List SettingsStep) (s : LocalSettings) : LocalSettings :=
  steps.foldl (fun s step => (s.perform step).1) s

theorem Reached.played (reached : Reached s) (steps : List SettingsStep) : Reached (s.played steps) := by
  induction steps generalizing s with
  | nil => exact reached
  | cons step rest ih => exact ih (reached.stepped step)

-- Two changes; the timer of the first was called off too late, and fires while nothing can be written.
def hurried : LocalSettings :=
  played [.set "a" (.int 1), .set "a" (.text "x"), .deny true, .elapse 0, .deny false]
    { (openAt Settings.format .absent).1 with denied := false }

theorem hurried_saved : Reached hurried ∧ hurried.timer = none ∧
    (∃ older, hurried.history = [.fired 0 true, .started 1] ++ .changed false :: older) ∧
    hurried.Followed [.fired 0 true, .started 1] ∧
    (hurried.elapse 1).2 = .ok () ∧ (hurried.elapse 1).1.file = .text "a: x\n" := by
  have reached : Reached hurried := (Reached.opened Settings.format .absent false).played _
  have history : hurried.history =
      [.fired 0 true, .started 1] ++ .changed false :: [.started 0, .changed false] := by decide +kernel
  have text : hurried.format.write hurried.content = some "a: x\n" := by decide +kernel
  have denied : hurried.denied = false := by decide +kernel
  have writing : hurried.writing = .ok "a: x\n" := by
    unfold LocalSettings.writing
    rw [denied, text]
    with_unfolding_all rfl
  obtain ⟨-, followed, fires⟩ := saving_protocol reached
  obtain ⟨done, file, -, -⟩ := (fires 1).saved (by decide +kernel) _ writing
  exact ⟨reached, by decide +kernel, ⟨_, history⟩, followed _ _ history, done, file⟩

end PagedTable.LocalSettings
