import PagedTable.Dialog.Basic
import PagedTable.Entries
import PagedTable.Script
import PagedTable.Act

namespace PagedTable

structure Extent where
  width : Int
  height : Int
deriving DecidableEq

-- A script is what the callback does with the outcome.
inductive MediatorStep where
  | openDialog (params : DialogParams) (size : DialogSize) (result : Option Value)
      (script : List MediatorStep)
  | ask (title message : String) (script : List MediatorStep)
  | finish (dialog : Int) (code : Int)

namespace MediatorStep

mutual

def size : MediatorStep → Nat
  | .openDialog _ _ _ script => 1 + sizes script
  | .ask _ _ script => 1 + sizes script
  | .finish _ _ => 1

def sizes : List MediatorStep → Nat
  | [] => 0
  | s :: rest => s.size + sizes rest

end

end MediatorStep

inductive WidgetEvent where
  | minSize (e : Extent)
  | maxSize (e : Extent)
  | resize (e : Extent)
  | shown

inductive MediatorEvent where
  | component (params : DialogParams) (hasParent : Bool)
  | widget (e : WidgetEvent)
  | box (title text : String)
  | result (v : Value)

-- A dialog may hold a value for the case that it is accepted; a question has buttons instead.
inductive DialogKind where
  | form (result : Option Value)
  | question

-- What a dialog was opened with: its kind, and what its callback does.
structure OpenedDialog where
  kind : DialogKind
  script : List MediatorStep

-- What befell dialogs: one was opened, one was closed with a code, the callback that one was opened with was
-- called with an outcome.
inductive DialogEvent where
  | opened (dialog : Nat) (d : OpenedDialog)
  | closed (dialog : Nat) (code : Int)
  | called (dialog : Nat) (script : List MediatorStep) (outcome : Value)

structure DialogMark where
  event : DialogEvent
  shown : List Nat

-- Dialogs are numbered in the order of their making, and `made` counts them. One whose size could not be
-- told was made but never opened, and nobody hears of its closing. `shown` are those that are open. The
-- history has the newest event first, and nothing but the laws of dialogs looks at it.
structure Mediator where
  window : Option Extent := none
  made : Nat := 0
  opened : List (Nat × OpenedDialog) := []
  shown : List Nat := []
  journal : List MediatorEvent := []
  history : List DialogMark := []

namespace Mediator

abbrev Run := MediatorStep → Act Mediator Unit

def acceptedCode : Int := 1
def yesCode : Int := 16384
def noCode : Int := 65536

def record (e : MediatorEvent) (m : Mediator) : Mediator := { m with journal := e :: m.journal }

def outcome (kind : DialogKind) (code : Int) : Value :=
  match kind with
  | .form result => if code = acceptedCode then result.getD (.bool true) else .null
  | .question => .text (if code = yesCode then Button.yes else Button.no).text

def sizeEvents (window : Option Extent) (size : DialogSize) : Except Fault (List WidgetEvent) :=
  match window with
  | none => .ok []
  | some e =>
    (size.pixels e.width e.height).map fun p =>
      [.minSize ⟨p.minWidth, p.minHeight⟩, .maxSize ⟨p.maxWidth, p.maxHeight⟩,
        .resize ⟨p.width, p.height⟩]

def mark (e : DialogEvent) (m : Mediator) : Mediator := { m with history := ⟨e, m.shown⟩ :: m.history }

def make (m : Mediator) : Mediator := { m with made := m.made + 1 }

def present (n : Nat) (d : OpenedDialog) (m : Mediator) : Mediator :=
  { m with opened := m.opened ++ [(n, d)], shown := m.shown ++ [n] }.mark (.opened n d)

def hide (n : Nat) (code : Int) (m : Mediator) : Mediator :=
  { m with shown := m.shown.erase n }.mark (.closed n code)

-- The callback is told of the outcome; what it does then is left to its script.
def tell (n : Nat) (script : List MediatorStep) (v : Value) (m : Mediator) : Mediator :=
  (m.record (.result v)).mark (.called n script v)

def follow (run : Run) : List MediatorStep → Mediator → Mediator
  | [], m => m
  | s :: rest, m => follow run rest ((run s).after m)

def step (run : Run) : MediatorStep → Act Mediator Unit
  | .openDialog params size result script => do
    let window := (← get).window
    let n := (← get).made
    Act.change (record (.component params window.isSome))
    Act.change make
    let sized ← Act.result (sizeEvents window size)
    Act.change fun m => sized.foldl (fun m e => m.record (.widget e)) m
    Act.change (present n { kind := .form result, script })
    Act.change (record (.widget .shown))
  | .ask title message script => do
    let n := (← get).made
    Act.change make
    Act.change (record (.box title message))
    Act.change (present n { kind := .question, script })
    Act.change (record (.widget .shown))
  | .finish dialog code => do
    let n ← Act.result (position (← get).made dialog)
    match Entries.get? n (← get).opened with
    | none => pure ()
    | some d =>
      Act.change (hide n code)
      Act.change (tell n d.script (outcome d.kind code))
      Act.change (follow run d.script)

def runTo : Nat → Run
  | 0 => fun _ => pure ()
  | depth + 1 => step (runTo depth)

end Mediator

end PagedTable
