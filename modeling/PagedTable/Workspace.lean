import PagedTable.Hooks
import PagedTable.Settings.Store
import PagedTable.Template.Basic
import PagedTable.Text.Digits
import PagedTable.Paging
import PagedTable.Action.Basic

namespace PagedTable

-- The main window; without a status bar short messages are not shown.
structure Window where
  width : Int := 1000
  height : Int := 800
  statusBar : Bool := true

inductive Notice where
  | errorBox (title message : String)
  | status (message : String)
  | hook (call : HookCall)

def statusTimeout : Nat := 5000

structure Workspace where
  settings : Fields := []
  pageSizeVariable : Option String := none
  wordings : List (String × String) := []
  overrides : List (String × Value) := []
  hasDialogs : Bool := true
  hasExporter : Bool := true
  window : Option Window := some {}
  plugins : Registry := []

namespace Workspace

def clashes (names : List String) (args : Template.Arguments) : Bool :=
  names.any fun name => Entries.has name args

-- The wording of a key, or else the default text, with its placeholders filled in. The names of the
-- key and of the default text cannot name an argument too.
def wording (w : Workspace) (key text : String) (args : Template.Arguments) : Except Fault String :=
  if clashes ["self", "key", "d"] args then .error .unsupported
  else Template.format ((Entries.get? key w.wordings).getD text) args

def pairWording (w : Workspace) (pair : TextPair) (args : Template.Arguments) : Except Fault String :=
  if clashes ["pair"] args then .error .unsupported else w.wording pair.key pair.text args

def defaultTitle : TextPair := ⟨"general.error_title", "Error"⟩

-- Errors are shown over the window; without one they are not.
def showError (w : Workspace) (message title : String) : List Notice :=
  if w.window.isSome then [.errorBox title message] else []

def showMessage (w : Workspace) (message : String) : List Notice :=
  match w.window with
  | some window => if window.statusBar then [.status message] else []
  | none => []

def callHook (w : Workspace) (hook : Hook) (detail : HookDetail) : List Notice :=
  (w.plugins.calls hook detail).map .hook

-- Plugins hear of every failure but those of validation.
def announce (w : Workspace) (f : Failure) : List Notice :=
  match f.status with
  | .validation => []
  | _ => w.callHook .transportFailure (.failure f)

def given (s : Option String) (other : String) : String :=
  match s with
  | none => other
  | some s => if s = "" then other else s

def failureBox (w : Workspace) (f : Failure) (key text : Option String)
    (args : Template.Arguments) : Except Fault (List Notice) := do
  let message ← w.wording (given key f.key) (given text f.message) args
  let title ← w.pairWording defaultTitle []
  return w.showError message title

-- Reports a failure, first to the plugins and then to the user.
def handleFailure (w : Workspace) (fault : Fault) (key text : Option String)
    (args : Template.Arguments) : List Notice × Except Fault Failure :=
  if clashes ["self", "error", "key", "default"] args then ([], .error .unsupported)
  else
    let f := fault.toFailure
    match w.failureBox f key text args with
    | .ok box => (w.announce f ++ box, .ok f)
    | .error e => (w.announce f, .error e)

def pageSize? : Value → Option Int
  | .int n => if 0 < n then some n else none
  | _ => none

-- The page size of a variable of the environment, if it holds a positive number.
def variablePageSize? (w : Workspace) : Option Int :=
  match w.pageSizeVariable with
  | none => none
  | some s =>
    match Text.wholeNumber? s with
    | some n => if 0 < n then some n else none
    | none => none

-- The page size a new table starts with: that of the environment, else the setting of the table,
-- else the general setting.
def pageSizeOf (w : Workspace) (table : Option String) : Int :=
  match w.variablePageSize? with
  | some n => n
  | none =>
    (pageSize? (Settings.tableSetting w.settings table Settings.pageSizeName .null)).getD
      defaultPageSize

-- A setting; the default also takes the place of stored nothing.
def setting (w : Workspace) (key : String) (missing : Value) : Value :=
  Settings.orElse (Settings.get w.settings key .null) missing

def setSetting (w : Workspace) (key : String) (value : Value) : Workspace :=
  { w with settings := Settings.put w.settings key value }

def override (w : Workspace) (key : String) (missing : Value) : Value :=
  (Entries.get? key w.overrides).getD missing

def requireOverride (w : Workspace) (key : String) : Except Fault Value :=
  match Entries.get? key w.overrides with
  | some v => .ok v
  | none => .error (.overrideMissing key)

def setOverride (w : Workspace) (key : String) (value : Value) : Workspace :=
  { w with overrides := Entries.put key value w.overrides }

def addOverride (w : Workspace) (key : String) (value : Value) : Except Fault Workspace :=
  if Entries.has key w.overrides then .error (.overrideExists key) else .ok (w.setOverride key value)

end Workspace

end PagedTable
