import PagedTable.Json.Values
import PagedTable.Filter.State
import PagedTable.Query.Build
import PagedTable.Page
import PagedTable.Table.Descriptor

namespace PagedTable

namespace Json

def requireKnown (names : List String) (j : Json) : Except Fault Unit :=
  if j.fields.all fun f => names.contains f.1 then .ok () else .error .unsupported

def requireField (key : String) (j : Json) : Except Fault Unit :=
  if j.has key then .ok () else .error .unsupported

def requireNumber : Json → Except Fault Number
  | .number n => .ok n
  | _ => .error .unsupported

def optional {α : Type} (j : Json) (key : String) (f : Json → Except Fault α) : Except Fault (Option α) :=
  match j.given? key with
  | some x => (f x).map some
  | none => .ok none

end Json

namespace FilterDef

def fieldNames : List String := ["id", "http_id", "type", "name", "default_value", "multiple", "items",
  "visible", "start_http_id", "end_http_id", "dependent_filters"]

-- The backend knows a filter by its own id unless it has another.
def ofJson (j : Json) : Except Fault FilterDef := do
  j.requireKnown fieldNames
  j.requireField "id"
  let kind ← FilterKind.read (j.valueOr "type" (.text FilterKind.text.name))
  let id := (j.get "id").asText
  let httpId := j.textOr "http_id" ""
  return { id, kind, httpId := if httpId = "" then id else httpId, name := j.textOr "name" "",
           default := j.value "default_value", multiple := j.flagOr "multiple" false,
           choices := (j.get "items").items.map fun c => (c.first.asText, c.last.asText),
           visible := j.flagOr "visible" true,
           startHttpId := j.textOr "start_http_id" "StartDateTime",
           endHttpId := j.textOr "end_http_id" "EndDateTime",
           dependents := (j.get "dependent_filters").items.map Json.asText }

end FilterDef

def FilterState.ofJson (j : Json) : Except Fault FilterState := do
  let defs ← (j.get "defs").items.mapM FilterDef.ofJson
  let state ← FilterState.ofDefs defs
  (j.get "set").items.foldlM (fun s e =>
    match s.set e.first.asText e.last.toValue with
    | (s, .ok _) => .ok s
    | (_, .error fault) => .error fault) state

def Paging.ofJson (j : Json) : Except Fault Paging := do
  j.requireKnown ["page_index", "page_size"]
  let index ← ((j.get? "page_index").getD (.int 0)).requireNumber
  let paging ← Paging.make index (.int defaultPageSize)
  let size ← ((j.get? "page_size").getD (.int defaultPageSize)).requireNumber
  paging.setSize size

def Sorting.ofJson (j : Json) : Except Fault Sorting := do
  j.requireKnown ["column_id", "direction"]
  Sorting.make (j.get "column_id").text? (j.valueOr "direction" (.text "asc"))

namespace Query

def ofJson (j : Json) : Except Fault Query := do
  j.requireKnown ["filters", "page", "page_size", "sort_field", "sort_direction"]
  let page ← ((j.get? "page").getD (.int 0)).requireNumber
  let pageSize ← ((j.get? "page_size").getD (.int 50)).requireNumber
  return { filters := (j.valueMap "filters").map fun f => (f.1, Restriction.ofValue f.2), page, pageSize,
           sortField := (j.get "sort_field").text?, sortDirection := (j.get "sort_direction").text? }

-- The query of filters in a state, with the `paging`, the `sort` and the `static` restrictions of a
-- description.
def buildFrom (j : Json) (state : FilterState) : Except Fault Query := do
  let paging ← Paging.ofJson (j.get "paging")
  let sorting ← Sorting.ofJson (j.get "sort")
  Query.build state paging sorting (j.valueMap "static")

end Query

def MutationResult.ofJson (j : Json) : Except Fault MutationResult := do
  j.requireKnown ["status", "message", "details"]
  return { status := j.textOr "status" successStatus, message := (j.get "message").text? }

namespace Condition

mutual

def ofJson : Json → Condition
  | .object fs =>
    let j := Json.object fs
    match j.textOr "p" "" with
    | "auth_flag" => .authFlag (j.textOr "name" "")
    | "row_flag" => .rowFlag (j.textOr "name" "")
    | "selected" => .selected ((j.get "min").number?.getD 0)
    | "not" => .not (ofNegated fs)
    | _ => .const (j.value "value")
  | _ => .const .null

def ofNegated : List (String × Json) → Condition
  | [] => .const .null
  | (key, j) :: fs => if key = "of" then ofJson j else ofNegated fs

end

end Condition

def ScreenSize.ofJson (j : Json) : Except Fault ScreenSize :=
  match ScreenSize.ofName? j.asText with
  | some size => .ok size
  | none => .error (.unknownMessage j.asText)

namespace SizeProfile

def uniformOf (sizes : List Json) : Except Fault DialogSize := do
  match sizes with
  | [w] =>
    let size ← ScreenSize.ofJson w
    return .uniform size size
  | [w, h] =>
    let width ← ScreenSize.ofJson w
    let height ← ScreenSize.ofJson h
    return .uniform width height
  | _ => throw .unsupported

-- A size of one name or two, or of a name for each of the six extents.
def ofJson (j : Json) : Except Fault DialogSize := do
  match j.get? "uniform" with
  | some sizes => uniformOf sizes.items
  | none =>
    j.requireKnown ["min_width", "max_width", "width", "min_height", "max_height", "height"]
    let extent (key : String) : Except Fault ScreenSize :=
      match j.get? key with
      | some name => ScreenSize.ofJson name
      | none => .ok .m
    return { minWidth := ← extent "min_width", maxWidth := ← extent "max_width",
             width := ← extent "width", minHeight := ← extent "min_height",
             maxHeight := ← extent "max_height", height := ← extent "height" }

def field (j : Json) : Except Fault DialogSize := do
  return (← j.optional "size" ofJson).getD default

end SizeProfile

def TextPair.ofJson (j : Json) : TextPair := ⟨j.first.asText, j.last.asText⟩

def DialogFilter.ofJson : Json → DialogFilter
  | .object [("from_auth", .object paths)] => .fromAuth (paths.map fun f => (f.1, f.2.asText))
  | j => .fixed (Json.toFields j.fields)

def DialogPlan.ofJson (j : Json) : Except Fault DialogPlan := do
  let size ← SizeProfile.field j
  return { component := j.valueOr "component" (.text "Form"), size,
           filter := DialogFilter.ofJson (j.get "static_filter") }

def DialogParams.ofJson (j : Json) : Except Fault DialogParams := do
  j.requireKnown ["data", "mode", "static_filter", "title"]
  let mode ← DialogMode.read (j.valueOr "mode" (.text DialogMode.view.text))
  return { data := j.value "data", mode, restrictions := j.valueMap "static_filter",
           title := j.textOr "title" "" }

namespace ActionForm

def handlerOf (j : Json) : Option Handler :=
  match j.text? with
  | some "raise" => some .fail
  | some _ => some .record
  | none => none

-- What an action does, and the names of the fields that only such actions have.
def ofJson (j : Json) : Except Fault (ActionForm × List String) := do
  let dialogFields := ["component", "size", "static_filter"]
  let confirmFields := ["confirm_title", "confirm_message"]
  let dialog (purpose : Purpose) : Except Fault ActionForm :=
    (DialogPlan.ofJson j).map fun plan => .dialog purpose plan
  let pair (key : String) (missing : TextPair) := ((j.given? key).map TextPair.ofJson).getD missing
  match j.textOr "type" "" with
  | "table" => return (.bare, [])
  | "dialog" => return (← dialog .bare, dialogFields)
  | "create" => return (← dialog .create, dialogFields)
  | "edit" => return (← dialog .edit, dialogFields)
  | "assign" =>
    let idField := ((j.given? "id_field").map Json.asText).getD "id"
    return (← dialog (.assign idField), "id_field" :: dialogFields)
  | "remove" =>
    return (.removal (pair "confirm_title" removalTitle) (pair "confirm_message" removalMessage),
      confirmFields)
  | "unassign" =>
    return (.unassignment (pair "confirm_title" unassignmentTitle)
      (pair "confirm_message" unassignmentMessage), confirmFields)
  | "export" =>
    return (.exporting ((j.given? "confirm_title").map TextPair.ofJson)
      (pair "confirm_message" exportMessage), confirmFields)
  | "refresh" => return (.refresh, ["handler"])
  | "reset_filters" => return (.resetFilters, ["handler"])
  | "custom" => return (.custom (handlerOf (j.get "handler")), ["handler"])
  | _ => throw .unsupported

end ActionForm

def Action.ofJson (j : Json) : Except Fault Action := do
  let (form, own) ← ActionForm.ofJson j
  j.requireKnown (["type", "id", "name", "icon", "tooltip", "color", "visible_if", "enabled_if"] ++ own)
  let color ← j.optional "color" fun c => ButtonColor.read c.toValue
  Action.make form {
    id := (j.get "id").text?.map .named, name := (j.get "name").text?, icon := (j.get "icon").text?,
    tooltip := (j.get "tooltip").text?, color, visibleIf := (j.given? "visible_if").map Condition.ofJson,
    enabledIf := (j.given? "enabled_if").map Condition.ofJson }

def ActionDescriptor.ofJson (j : Json) : Except Fault ActionDescriptor := do
  j.requireKnown ["id", "kind", "name", "icon", "tooltip", "color", "visible_if", "enabled_if"]
  j.requireField "id"
  let kind ← ActionKind.read (j.valueOr "kind" (.text ActionKind.custom.text))
  let color ← ButtonColor.read (j.valueOr "color" (.text ButtonColor.basic.text))
  return { id := j.textOr "id" "", kind, name := j.textOr "name" "", icon := j.textOr "icon" "",
           tooltip := j.textOr "tooltip" "", color,
           visibleIf := (j.given? "visible_if").map Condition.ofJson,
           enabledIf := (j.given? "enabled_if").map Condition.ofJson }

def ActionContext.ofJson (j : Json) : Except Fault ActionContext :=
  ActionContext.make (j.value "auth") (j.valueList "selection") (j.value "row")

def ColumnDef.ofJson (j : Json) : Except Fault ColumnDef := do
  j.requireKnown ["id", "name", "sortable", "sorted", "direction", "visible", "class_name",
    "header_class"]
  j.requireField "id"
  return { id := (j.get "id").asText, name := j.textOr "name" "", sortable := j.flagOr "sortable" false,
           sorted := j.flagOr "sorted" false, direction := j.valueOr "direction" (.text "asc"),
           visible := j.flagOr "visible" true, className := j.textOr "class_name" "",
           headerClass := j.textOr "header_class" "" }

def RowSelection.ofJson (j : Json) : Except Fault RowSelection := do
  j.requireKnown ["enabled", "multiple"]
  return { enabled := j.flagOr "enabled" false, multiple := j.flagOr "multiple" false }

def TableDef.ofJson (j : Json) : Except Fault TableDef := do
  j.requireKnown ["id", "class_name", "row_id_field", "row_selection", "search_enabled",
    "footer_enabled", "is_editable"]
  let rowSelection ← RowSelection.ofJson (j.get "row_selection")
  return { id := j.textOr "id" "", className := j.textOr "class_name" "",
           rowIdField := j.textOr "row_id_field" "id", rowSelection,
           searchEnabled := j.flagOr "search_enabled" false,
           footerEnabled := j.flagOr "footer_enabled" true,
           isEditable := j.flagOr "is_editable" false }

def TableDescriptor.ofJson (j : Json) : Except Fault TableDescriptor := do
  let mode ← TableMode.read (j.valueOr "mode" (.text TableMode.readWrite.text))
  let table ← TableDef.ofJson (j.get "table")
  let columns ← (j.get "columns").items.mapM ColumnDef.ofJson
  let actions ← (j.get "actions").items.mapM ActionDescriptor.ofJson
  let filters ← (j.get "filters").items.mapM FilterDef.ofJson
  return { mode, table, columns, actions, filters }

end PagedTable
