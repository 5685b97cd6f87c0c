import PagedTable.Action.Condition
import PagedTable.Dialog.Basic

namespace PagedTable

-- The key of a wording, and the text to use where the key has none.
structure TextPair where
  key : String
  text : String
deriving DecidableEq

inductive ActionKind where
  | create | edit | assign | unassign | remove | exporting | custom
deriving DecidableEq

namespace ActionKind

def text : ActionKind → String
  | .create => "create"
  | .edit => "edit"
  | .assign => "assign"
  | .unassign => "unassign"
  | .remove => "remove"
  | .exporting => "export"
  | .custom => "custom"

def all : List ActionKind := [.create, .edit, .assign, .unassign, .remove, .exporting, .custom]

def read (v : Value) : Except Fault ActionKind :=
  match all.find? fun k => (Value.text k.text).same v with
  | some k => .ok k
  | none => .error (.notAMember "ActionKind" v)

end ActionKind

inductive ButtonColor where
  | basic | primary | accent | warn
deriving DecidableEq

namespace ButtonColor

def text : ButtonColor → String
  | .basic => ""
  | .primary => "primary"
  | .accent => "accent"
  | .warn => "warn"

def all : List ButtonColor := [.basic, .primary, .accent, .warn]

def read (v : Value) : Except Fault ButtonColor :=
  match all.find? fun c => (Value.text c.text).same v with
  | some c => .ok c
  | none => .error (.notAMember "ButtonColor" v)

end ButtonColor

inductive SharedId where
  | add | create | edit | exporting | refresh | remove | resetFilters | unassign
deriving DecidableEq

namespace SharedId

def text : SharedId → String
  | .add => "add"
  | .create => "create"
  | .edit => "edit"
  | .exporting => "export"
  | .refresh => "refresh"
  | .remove => "remove"
  | .resetFilters => "reset_filters"
  | .unassign => "unassign"

def member : SharedId → String
  | .add => "ADD"
  | .create => "CREATE"
  | .edit => "EDIT"
  | .exporting => "EXPORT"
  | .refresh => "REFRESH"
  | .remove => "REMOVE"
  | .resetFilters => "RESET_FILTERS"
  | .unassign => "UNASSIGN"

end SharedId

inductive ActionId where
  | shared (id : SharedId)
  | named (id : String)
deriving DecidableEq

namespace ActionId

def text : ActionId → String
  | .shared id => id.text
  | .named id => id

def quoted : ActionId → String
  | .shared id => "<ButtonAction." ++ id.member ++ ": " ++ Text.quoted id.text ++ ">"
  | .named id => Text.quoted id

end ActionId

-- Restrictions for a dialog: fixed, read from the parent entity by dotted paths, or those of the
-- chooser of users for a site.
inductive DialogFilter where
  | fixed (fields : List (String × Value))
  | fromAuth (paths : List (String × String))
  | siteChooser

namespace DialogFilter

def fields (f : DialogFilter) (ctx : ActionContext) : Except Fault (List (String × Value)) :=
  match f with
  | .fixed fields => .ok fields
  | .fromAuth paths => .ok (paths.map fun e => (e.1, ctx.auth.atPath e.2))
  | .siteChooser =>
    match ctx.auth.attribute? "id" with
    | some id => .ok [("ExcludeSiteID", id), ("Issuer", .bool true)]
    | none => .error .noAttribute

end DialogFilter

structure DialogPlan where
  component : Value := .text "Form"
  size : DialogSize := SizeProfile.default
  filter : DialogFilter := .fixed []

-- What a dialog is opened for. The identities that a chooser returns are read at `idField`.
inductive Purpose where
  | bare
  | create
  | edit
  | assign (idField : String)

-- What a custom action does when it is triggered: it is recorded, and may then fail.
inductive Handler where
  | record
  | fail
deriving DecidableEq

inductive ActionForm where
  | bare
  | dialog (purpose : Purpose) (plan : DialogPlan)
  | removal (title message : TextPair)
  | unassignment (title message : TextPair)
  | exporting (title : Option TextPair) (message : TextPair)
  | custom (handler : Option Handler)
  | refresh
  | resetFilters

namespace ActionForm

def name : ActionForm → String
  | .bare => "TableAction"
  | .dialog .bare _ => "DialogAction"
  | .dialog .create _ => "CreateAction"
  | .dialog .edit _ => "EditAction"
  | .dialog (.assign _) _ => "AssignAction"
  | .removal _ _ => "RemoveAction"
  | .unassignment _ _ => "UnassignAction"
  | .exporting _ _ => "ExportAction"
  | .custom _ => "CustomAction"
  | .refresh => "RefreshAction"
  | .resetFilters => "ResetFiltersAction"

def kind : ActionForm → ActionKind
  | .dialog .create _ => .create
  | .dialog .edit _ => .edit
  | .dialog (.assign _) _ => .assign
  | .removal _ _ => .remove
  | .unassignment _ _ => .unassign
  | .exporting _ _ => .exporting
  | _ => .custom

def defaultId? : ActionForm → Option SharedId
  | .dialog .create _ => some .create
  | .dialog .edit _ => some .edit
  | .dialog (.assign _) _ => some .add
  | .removal _ _ => some .remove
  | .unassignment _ _ => some .unassign
  | .exporting _ _ => some .exporting
  | .refresh => some .refresh
  | .resetFilters => some .resetFilters
  | .bare | .dialog .bare _ | .custom _ => none

def defaultName : ActionForm → String
  | .dialog .create _ => "general.create"
  | .dialog .edit _ => "general.edit"
  | .dialog (.assign _) _ => "general.add"
  | .removal _ _ => "general.remove"
  | .unassignment _ _ => "general.unassign"
  | .exporting _ _ => "general.export"
  | .refresh => "general.refresh"
  | .resetFilters => "general.reset_filters"
  | .bare | .dialog .bare _ | .custom _ => ""

def defaultIcon : ActionForm → String
  | .dialog .create _ | .dialog (.assign _) _ => "add"
  | .dialog .edit _ => "edit"
  | .removal _ _ => "remove"
  | .unassignment _ _ => "link_off"
  | .exporting _ _ => "cloud_download"
  | .refresh => "refresh"
  | .resetFilters => "filter_alt_off"
  | .bare | .dialog .bare _ | .custom _ => ""

def defaultColor : ActionForm → ButtonColor
  | .dialog .create _ | .dialog (.assign _) _ => .primary
  | .removal _ _ | .unassignment _ _ => .warn
  | _ => .basic

def removalTitle : TextPair := ⟨"general.delete_title", "Delete"⟩
def removalMessage : TextPair :=
  ⟨"general.delete_confirm", "Do you really want to delete the selected records?"⟩
def unassignmentTitle : TextPair := ⟨"general.unassign_title", "Unassign"⟩
def unassignmentMessage : TextPair :=
  ⟨"general.unassign_confirm", "Do you really want to unassign the selected records?"⟩
def exportMessage : TextPair :=
  ⟨"general.export_confirm", "Do you really want to export the records?"⟩

def dialogMode : Purpose → DialogMode
  | .create => .create
  | .edit => .edit
  | .bare | .assign _ => .view

end ActionForm

-- What may be set on any action; the rest comes from its form.
structure ActionFields where
  id : Option ActionId := none
  name : Option String := none
  icon : Option String := none
  tooltip : Option String := none
  color : Option ButtonColor := none
  visibleIf : Option Condition := none
  enabledIf : Option Condition := none

structure Action where
  form : ActionForm
  id : ActionId
  name : String
  icon : String
  tooltip : String
  color : ButtonColor
  visibleIf : Option Condition
  enabledIf : Option Condition

structure ActionDescriptor where
  id : String
  kind : ActionKind
  name : String := ""
  icon : String := ""
  tooltip : String := ""
  color : ButtonColor := .basic
  visibleIf : Option Condition := none
  enabledIf : Option Condition := none
  action : Option Action := none

namespace Action

-- An action needs an id, its own or the one of its form.
def make (form : ActionForm) (given : ActionFields) : Except Fault Action :=
  match given.id <|> form.defaultId?.map .shared with
  | none => .error (.needsId form.name)
  | some id =>
    if id.text = "" then .error (.needsId form.name)
    else .ok {
      form, id
      name := given.name.getD form.defaultName
      icon := given.icon.getD form.defaultIcon
      tooltip := given.tooltip.getD ""
      color := given.color.getD form.defaultColor
      visibleIf := given.visibleIf
      enabledIf := given.enabledIf }

def quoted (a : Action) : String := a.form.name ++ "(" ++ a.id.quoted ++ ")"

-- The tooltip falls back to the name.
def descriptor (a : Action) : ActionDescriptor where
  id := a.id.text
  kind := a.form.kind
  name := a.name
  icon := a.icon
  tooltip := if a.tooltip = "" then a.name else a.tooltip
  color := a.color
  visibleIf := a.visibleIf
  enabledIf := a.enabledIf
  action := some a

def isVisible (a : Action) (ctx : ActionContext) : Bool := Condition.allows a.visibleIf ctx

def isEnabled (a : Action) (ctx : ActionContext) : Bool := Condition.allows a.enabledIf ctx

end Action

namespace ActionDescriptor

def isVisible (a : ActionDescriptor) (ctx : ActionContext) : Bool := Condition.allows a.visibleIf ctx

-- An action that is not shown cannot be triggered.
def isEnabled (a : ActionDescriptor) (ctx : ActionContext) : Bool :=
  a.isVisible ctx && Condition.allows a.enabledIf ctx

end ActionDescriptor

namespace Value

-- The identities that one chosen item stands for: none for a truth value, itself for text, an
-- integer or a tuple, and the identity of anything else.
def chosenId (idField : String) (item : Value) : Except Fault (List Value) :=
  match item with
  | .bool _ => .ok []
  | .text _ | .number (.int _) | .tuple _ => .ok [item]
  | _ => (item.identity idField).map fun id => [id]

def chosenIdsOf (idField : String) : List Value → Except Fault (List Value)
  | [] => .ok []
  | item :: rest => do
    let ids ← item.chosenId idField
    let more ← chosenIdsOf idField rest
    return ids ++ more

def chosenIds (idField : String) (result : Value) : Except Fault (List Value) :=
  chosenIdsOf idField (result.items?.getD [result])

end Value

namespace DialogPlan

def params (plan : DialogPlan) (mode : DialogMode) (data : Value) (ctx : ActionContext) :
    Except Fault DialogParams :=
  (plan.filter.fields ctx).map fun restrictions => { data, mode, restrictions }

end DialogPlan

end PagedTable
