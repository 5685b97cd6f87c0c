import PagedTable.Settings.Store
import PagedTable.Act
import PagedTable.Script

namespace PagedTable

inductive SettingsFile where
  | absent
  | text (s : String)
  | directory
deriving DecidableEq

-- How settings are written to a text, and read from one. Not every value can be written; a text
-- that cannot be read, or that holds no map, is passed over.
structure SettingsFormat where
  write : Fields → Option String
  read : String → Option Fields

-- What befell settings: they were changed, in memory only or not; a timer was started; a timer fired, one
-- that had been called off while changes are saved or another; read-only mode was entered.
inductive SavingEvent where
  | changed (readOnly : Bool)
  | started (timer : Nat)
  | fired (timer : Nat) (stray : Bool)
  | barred
deriving DecidableEq

-- Timers are numbered in the order in which they were started. Those that run will fire; those that are
-- late were called off, perhaps too late. Of the ones that run, at most one is known. The history has the
-- newest event first, and nothing but the laws of saving looks at it.
structure LocalSettings where
  format : SettingsFormat
  content : Fields := []
  readOnly : Bool := false
  timers : Nat := 0
  timer : Option Nat := none
  running : List Nat := []
  late : List Nat := []
  denied : Bool := false
  file : SettingsFile := .absent
  history : List SavingEvent := []

namespace Fault

def isSystem : Fault → Bool
  | .isDirectory => true
  | .trouble t => t.kind = .system || t.kind = .connection || t.kind = .timeout
  | _ => false

def denial : Fault := .trouble { kind := .system, message := none }

end Fault

namespace LocalSettings

def exists? (s : LocalSettings) : Bool := s.file ≠ .absent

def saveDue (s : LocalSettings) : Bool := s.timer.isSome

def record (e : SavingEvent) (s : LocalSettings) : LocalSettings := { s with history := e :: s.history }

def callOff (s : LocalSettings) : LocalSettings :=
  match s.timer with
  | none => s
  | some timer =>
    { s with
      timer := none
      running := s.running.filter fun t => t ≠ timer
      late := timer :: s.late }

@[simp] theorem content_callOff (s : LocalSettings) : s.callOff.content = s.content := by
  unfold callOff
  split <;> rfl

def startTimer (s : LocalSettings) : LocalSettings :=
  { s with
    timers := s.timers + 1
    timer := some s.timers
    running := s.timers :: s.running }.record (.started s.timers)

-- A change is followed by a save, unless the settings are read-only.
def schedule (s : LocalSettings) : LocalSettings := if s.readOnly then s else s.callOff.startTimer

@[simp] theorem content_schedule (s : LocalSettings) : s.schedule.content = s.content := by
  unfold schedule
  split
  · rfl
  · exact s.content_callOff

def set (s : LocalSettings) (key : String) (value : Value) : LocalSettings :=
  match Settings.put? s.content key value with
  | none => s
  | some content => ({ s with content }.record (.changed s.readOnly)).schedule

def setReadOnly (s : LocalSettings) (readOnly : Bool) : LocalSettings :=
  if readOnly then { s.callOff with readOnly := true }.record .barred else { s with readOnly := false }

def writing (s : LocalSettings) : Except Fault String :=
  if s.denied then .error Fault.denial
  else
    match s.format.write s.content, s.file with
    | none, _ => .error .unwritable
    | _, .directory => .error .isDirectory
    | some text, _ => .ok text

def save (s : LocalSettings) : LocalSettings × Except Fault Unit :=
  match s.writing with
  | .ok text => ({ s with file := .text text }, .ok ())
  | .error e => (s, .error e)

-- What a timer does: it saves, unless the settings have become read-only. Where the file system is in the
-- way the save is given up.
def timerFired (s : LocalSettings) : LocalSettings × Except Fault Unit :=
  if s.readOnly then (s, .ok ())
  else
    match { s with timer := none }.save with
    | (saved, .ok ()) => (saved, .ok ())
    | (saved, .error e) => (saved, if e.isSystem then .ok () else .error e)

def elapse (s : LocalSettings) (timer : Nat) : LocalSettings × Except Fault Unit :=
  { s with
    running := s.running.filter fun t => t ≠ timer
    late := s.late.filter fun t => t ≠ timer
    history := .fired timer (!s.readOnly && !s.running.contains timer) :: s.history }.timerFired

def noTimer : Fault := .absent "timer"

-- The timer that is known fires, perhaps just after read-only mode was set.
def fire (s : LocalSettings) (tooLate : Bool) : LocalSettings × Except Fault Unit :=
  match s.timer with
  | some timer => (if tooLate then s.setReadOnly true else s).elapse timer
  | none => (s, .error noTimer)

def load (s : LocalSettings) : LocalSettings × Except Fault Unit :=
  match s.file with
  | .absent => (s, .ok ())
  | .directory => (s, .error .isDirectory)
  | .text t =>
    match s.format.read t with
    | some content => ({ s with content }, .ok ())
    | none => (s, .ok ())

def openAt (format : SettingsFormat) (file : SettingsFile) : LocalSettings × Except Fault Unit :=
  { format, file : LocalSettings }.load

end LocalSettings

inductive SettingsStep where
  | get (key : String) (missing : Value)
  | set (key : String) (value : Value)
  | tableGet (table : Option String) (name : String) (missing : Value)
  | tableSet (table : Option String) (name : String) (value : Value)
  | tableKey (table : Option String) (name : String)
  | readOnly (value : Bool)
  | schedule
  | save
  | fire (tooLate : Bool)
  | elapse (timer : Nat)
  | deny (denied : Bool)
  | block
  | showFile
  | write (file : Option String)
  | reopen
  | load

namespace LocalSettings

def done (r : LocalSettings × Except Fault Unit) : LocalSettings × Except Fault Value :=
  (r.1, r.2.map fun _ => .null)

def perform (s : LocalSettings) : SettingsStep → LocalSettings × Except Fault Value
  | .get key missing => (s, .ok (Settings.get s.content key missing))
  | .set key value => (s.set key value, .ok .null)
  | .tableGet table name missing => (s, .ok (Settings.tableSetting s.content table name missing))
  | .tableSet table name value => (s.set (Settings.tableKey table name) value, .ok .null)
  | .tableKey table name => (s, .ok (.text (Settings.tableKey table name)))
  | .readOnly value => (s.setReadOnly value, .ok .null)
  | .schedule => (s.schedule, .ok .null)
  | .save => done s.save
  | .fire tooLate => done (s.fire tooLate)
  | .elapse timer =>
    if timer ∈ s.running ∨ timer ∈ s.late then done (s.elapse timer) else (s, .error noTimer)
  | .deny denied => ({ s with denied }, .ok .null)
  | .block => ({ s with file := .directory }, .ok .null)
  | .showFile =>
    match s.file with
    | .absent => (s, .ok .null)
    | .text t => (s, .ok (.text t))
    | .directory => (s, .error .isDirectory)
  | .write none => ({ s with file := .absent }, .ok .null)
  | .write (some t) =>
    match s.file with
    | .directory => (s, .error .isDirectory)
    | _ => ({ s with file := .text t }, .ok .null)
  | .reopen =>
    match openAt s.format s.file with
    | (fresh, .ok ()) => ({ fresh with denied := s.denied }, .ok .null)
    | (_, .error e) => (s, .error e)
  | .load => done s.load

end LocalSettings

end PagedTable
