import PagedTable.Application.Loading

namespace PagedTable.Application

variable (run : Run)

def sequelFault : Fault := .trouble (.run "on_success failed")

def runSequel (key : Nat) (s : Sequel) (r : MutationResult) : Act Application Unit :=
  match s with
  | .nothing => pure ()
  | .clearQuietly => Act.change (clearSelection run key)
  | .script clears steps fails => do
    Act.change (record (.succeeded key r))
    Act.change fun w => if clears then clearSelection run key w else w
    Act.change (follow run steps)
    if fails then throw sequelFault

def wrongResult (kind : MutationKind) (got : String) : Failure :=
  .transport (kind.text ++ " returned " ++ got)

def refused (kind : MutationKind) (r : MutationResult) : Failure :=
  .transport (Workspace.given r.message (kind.text ++ " ended with " ++ r.status))

def deliveredResult (kind : MutationKind) (o : Outcome) : Except Fault MutationResult :=
  match o.error with
  | some e => .error e
  | none =>
    match o.result with
    | .mutation r => if r.ok then .ok r else .error (.failure (refused kind r))
    | other => .error (.failure (wrongResult kind other.kindName))

def mutation? (w : Application) (m : Nat) : Option Mutation := w.mutations[m]?

def settleMutation (m : Nat) (w : Application) : Application :=
  { w with mutations := w.mutations.modify m fun x => { x with done := true } }

def countDown (key : Nat) (w : Application) : Application :=
  w.modifyTable key fun t => { t with pending := t.pending - 1 }

def showSuccess (key : Nat) (kind : MutationKind) : Act Application Unit := do
  let w ← get
  let pair ← Act.result ((w.view key).plan.message kind.successName)
  let text ← Act.result (w.workspace.pairWording pair [])
  Act.change (notices (w.workspace.showMessage text))

def reportMutation (key : Nat) (kind : MutationKind) (fault : Fault) : Act Application Unit := do
  let pair ← Act.result (((← get).view key).plan.message kind.errorName)
  let _ ← report fault (some pair.key) (some pair.text)

def concludeMutation (x : Mutation) (o : Outcome) : Act Application Unit :=
  match deliveredResult x.kind o with
  | .error e => reportMutation x.key x.kind e
  | .ok r => do
    showSuccess x.key x.kind
    runSequel run x.key x.sequel r
    refresh run x.key

-- The outcome of a mutation has arrived. Later arrivals, and arrivals at a closed table, have no
-- effect.
def mutationDone (m : Nat) (o : Outcome) : Act Application Unit := do
  match (← get).mutation? m with
  | none => pure ()
  | some x =>
    if x.done then pure ()
    else
      Act.change (sight x.key (.completed m))
      Act.change (settleMutation m)
      Act.change (countDown x.key)
      if ((← get).table x.key).closed then pure ()
      else
        Act.change (updateBusy run x.key)
        concludeMutation run x o

-- Starts a mutation of an open table. A provider that raises has failed, unless the mutation was
-- completed before.
def mutate (key : Nat) (kind : MutationKind) (c : ProviderCall) (sequel : Sequel) :
    Act Application Unit := do
  if ((← get).table key).closed then pure ()
  else
    let m := (← get).mutations.length
    Act.change (sight key (.began (.mutation m)))
    Act.change fun w => { w with mutations := w.mutations ++ [{ key, kind, sequel }] }
    Act.change (modifyTable key fun t => { t with pending := t.pending + 1 })
    Act.change (updateBusy run key)
    let called ← (callProvider key c (.mutation m) (mutationDone run m)).attempt
    match called with
    | .ok () => pure ()
    | .error e => mutationDone run m { error := some e }

def nothingChosen (verb : String) : Failure :=
  .validation ("Nothing to " ++ verb) "general.select_at_least_one_record"

def selectOne : String := "Please select at least one record"

def noParent (verb : String) : Failure :=
  .validation ("Cannot " ++ verb ++ " without a parent entity")

def checkIds (kind : MutationKind) (ids : List Value) : Act Application Bool :=
  if ids.isEmpty then do
    let _ ← report (.failure (nothingChosen kind.text)) none (some selectOne)
    return false
  else return true

def checkParent (key : Nat) (kind : MutationKind) : Act Application Value := do
  let parent ← Act.result ((← get).view key).parentId
  if parent.isNull then
    let _ ← report (.failure (noParent kind.text)) none none
  return parent

def createRow (key : Nat) (entity : Value) (sequel : Sequel) : Act Application Unit :=
  mutate run key .create (.create entity) sequel

def updateRow (key : Nat) (entity : Value) (sequel : Sequel) : Act Application Unit :=
  mutate run key .update (.update entity) sequel

def removeRows (key : Nat) (ids : List Value) (sequel : Sequel) : Act Application Unit := do
  if ← checkIds .remove ids then mutate run key .remove (.remove ids) sequel

def assignRows (key : Nat) (ids : List Value) (sequel : Sequel) : Act Application Unit := do
  let parent ← checkParent key .assign
  if !parent.isNull then
    if ← checkIds .assign ids then mutate run key .assign (.assign parent ids) sequel

def unassignRows (key : Nat) (ids : List Value) (sequel : Sequel) : Act Application Unit := do
  let parent ← checkParent key .unassign
  if !parent.isNull then
    if ← checkIds .unassign ids then mutate run key .unassign (.unassign parent ids) sequel

end PagedTable.Application
