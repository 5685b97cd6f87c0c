import PagedTable.Table.Plan

namespace PagedTable.SiteUsers

def tableId : String := "site_users"

def siteKey : String := "SiteID"

def messages : Messages :=
  Entries.put "assign.success"
    ⟨"sites.update_users_success", "The users have been added to the site"⟩ <|
  Entries.put "assign.error"
    ⟨"sites.update_users_error", "Error occurred while adding the users to the site"⟩ <|
  Entries.put "unassign.success"
    ⟨"sites.remove_users_success", "The users have been removed from the site"⟩ <|
  Entries.put "unassign.error"
    ⟨"sites.remove_users_error", "Error occurred while removing the users from the site"⟩
    defaultMessages

def read (site : Value) (name : String) : Except Fault Value :=
  match site.attribute? name with
  | some v => .ok v
  | none => .error .noAttribute

-- Whether rows can be selected: when users may be added to the site or removed from it.
def canSelect (site : Value) : Except Fault Bool :=
  match site with
  | .null => .ok false
  | _ => do
    let assign ← read site "can_assign_users"
    if assign.truthy then return true
    let unassign ← read site "can_unassign_users"
    return unassign.truthy

def rowSelection (mode : TableMode) (site : Value) : Except Fault RowSelection :=
  match mode with
  | .readWrite => (canSelect site).map fun enabled => { enabled, multiple := true }
  | .readOnly => .ok {}

def table (mode : TableMode) (site : Value) : Except Fault TableDef :=
  (rowSelection mode site).map fun rowSelection => {
    id := tableId
    className := "table-dialog-list"
    rowIdField := "user.id"
    rowSelection
    searchEnabled := true }

def columns (mode : TableMode) : List ColumnDef :=
  [ { id := "user.name", name := "users.name", className := "text-left col-25p", sorted := true,
      sortable := true },
    { id := "user.firstName", name := "users.first_name", className := "text-left col-25p" },
    { id := "user.email", name := "users.email", className := "text-left col-40p" } ] ++
  match mode with
  | .readWrite =>
    [ { id := "siteAdmin", name := "sites.admin_role", headerClass := "text-center",
        className := "col-10p" },
      { id := "siteOwner", name := "sites.owner_role", headerClass := "text-center",
        className := "col-10p" } ]
  | .readOnly => []

def assignment (chooser : Value) : ActionForm :=
  .dialog (.assign "key")
    { component := chooser, size := SizeProfile.uniform .xl .xl, filter := .siteChooser }

def removal : ActionForm :=
  .unassignment ⟨"sites.remove_users_title", "Remove User(s)"⟩
    ⟨"sites.remove_users_confirm",
      "Do you really want to remove the selected users from this site?"⟩

def actions (chooser : Value) (mode : TableMode) : Except Fault (List Action) := do
  let reset ← Action.make .resetFilters {}
  match mode with
  | .readOnly => return [reset]
  | .readWrite =>
    let assign ← Action.make (assignment chooser)
      { id := some (.shared .add), visibleIf := some (.authFlag "can_assign_users") }
    let unassign ← Action.make removal
      { id := some (.shared .remove), name := some "general.remove", icon := some "remove",
        visibleIf := some (.authFlag "can_unassign_users") }
    return [assign, unassign, reset]

def statics (site : Value) : Except Fault Fields :=
  match site with
  | .null => .ok []
  | _ => (read site "id").map fun id => [(siteKey, id)]

def plan (chooser : Value) : TablePlan where
  name := "SiteUsersDataSource"
  tableId := tableId
  table := table
  columns mode _ := .ok (columns mode)
  actions mode _ := actions chooser mode
  statics := statics
  requiresParent := true
  messages := messages

end PagedTable.SiteUsers
