import PagedTable.Value.Path
import PagedTable.Value.Members

namespace PagedTable

-- What an action gets to see when it is triggered: the table it belongs to, if any, the entity
-- whose flags decide what the user may do, the selected identities and the row it was triggered on.
structure ActionContext where
  table : Option Nat := none
  auth : Value := .null
  selection : List Value := []
  row : Value := .null

inductive Condition where
  | const (v : Value)
  | authFlag (name : String)
  | rowFlag (name : String)
  | selected (least : Number)
  | not (c : Condition)

namespace Condition

def holds (c : Condition) (ctx : ActionContext) : Bool :=
  match c with
  | .const v => v.truthy
  | .authFlag name => ctx.auth.flag name
  | .rowFlag name => ctx.row.flag name
  | .selected least => least.atMost (.int ctx.selection.length)
  | .not c => !c.holds ctx

-- A condition that is not given holds.
def allows (c : Option Condition) (ctx : ActionContext) : Bool :=
  match c with
  | some c => c.holds ctx
  | none => true

end Condition

def ActionContext.make (auth : Value) (selection : List Value) (row : Value) :
    Except Fault ActionContext :=
  if Value.allHashable selection then
    .ok { auth, selection := Members.ofList selection, row }
  else .error .unsupported

end PagedTable
