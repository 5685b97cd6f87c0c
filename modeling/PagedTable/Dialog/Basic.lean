import PagedTable.Dialog.Size

namespace PagedTable

inductive DialogMode where
  | view
  | edit
  | create
deriving DecidableEq

namespace DialogMode

def text : DialogMode → String
  | .view => "V"
  | .edit => "E"
  | .create => "C"

def all : List DialogMode := [.view, .edit, .create]

def ofText? (s : String) : Option DialogMode := all.find? fun m => m.text = s

def read (v : Value) : Except Fault DialogMode :=
  match v with
  | .text s =>
    match ofText? s with
    | some m => .ok m
    | none => .error (.notAMember "DialogMode" v)
  | _ => .error (.notAMember "DialogMode" v)

end DialogMode

-- `data` is the entity the dialog works on, `restrictions` limit what a dialog that lists entities
-- offers.
structure DialogParams where
  data : Value := .null
  mode : DialogMode := .view
  restrictions : List (String × Value) := []
  title : String := ""

inductive Button where
  | ok | cancel | yes | no
deriving DecidableEq

def Button.text : Button → String
  | .ok => "OK"
  | .cancel => "CANCEL"
  | .yes => "YES"
  | .no => "NO"

namespace Value

def isCancelled : Value → Bool
  | .null => true
  | .bool b => !b
  | .text s => s = Button.cancel.text
  | _ => false

end Value

end PagedTable
