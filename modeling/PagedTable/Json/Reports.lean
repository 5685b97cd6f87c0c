import PagedTable.Json.Values
import PagedTable.Query.Build
import PagedTable.Page
import PagedTable.Table.Descriptor

namespace PagedTable

def Restriction.toJson : Restriction → Json
  | .one s => .text s
  | .many texts => .array (texts.map .text)
  | .other v => .ofValue v

namespace Query

def sortingJson (q : Query) : List (String × Json) :=
  match q.sortColumn? with
  | some column =>
    [("sortField", .text column), ("sortDirection", .ofOption .text q.sortDirection)]
  | none => []

-- A query; the sorting is left out when there is none.
def toJson (q : Query) : Json :=
  .object ([("filters", .object (q.filters.map fun f => (f.1, f.2.toJson))), ("page", .number q.page),
    ("pageSize", .number q.pageSize)] ++ q.sortingJson)

end Query

def Page.toJson (p : Page) : Json :=
  .object [("page", .object [("rows", .ofList p.rows), ("total", .number p.total)])]

def MutationResult.toJson (r : MutationResult) : Json :=
  .object [("mutation", .object [("status", .text r.status), ("message", .ofOption .text r.message),
    ("ok", .bool r.ok)])]

def Delivered.toJson : Delivered → Json
  | .page p => p.toJson
  | .mutation r => r.toJson
  | .value v => .ofValue v

def FilterDef.toJson (d : FilterDef) : Json :=
  .object [("id", .text d.id), ("http_id", .text d.httpId), ("type", .text d.kind.name),
    ("name", .text d.name), ("default_value", .ofValue d.default), ("multiple", .bool d.multiple),
    ("items", .array (d.choices.map fun c => .array [.text c.1, .text c.2])),
    ("visible", .bool d.visible), ("start_http_id", .text d.startHttpId),
    ("end_http_id", .text d.endHttpId), ("dependent_filters", .array (d.dependents.map .text))]

def ColumnDef.toJson (c : ColumnDef) : Json :=
  .object [("id", .text c.id), ("name", .text c.name), ("sortable", .bool c.sortable),
    ("sorted", .bool c.sorted), ("direction", .ofValue c.direction), ("visible", .bool c.visible),
    ("class_name", .text c.className), ("header_class", .text c.headerClass)]

def RowSelection.toJson (s : RowSelection) : Json :=
  .object [("enabled", .bool s.enabled), ("multiple", .bool s.multiple)]

def TableDef.toJson (t : TableDef) : Json :=
  .object [("id", .text t.id), ("class_name", .text t.className), ("row_id_field", .text t.rowIdField),
    ("row_selection", t.rowSelection.toJson), ("search_enabled", .bool t.searchEnabled),
    ("footer_enabled", .bool t.footerEnabled), ("is_editable", .bool t.isEditable)]

def ActionDescriptor.toJson (a : ActionDescriptor) : Json :=
  .object [("id", .text a.id), ("kind", .text a.kind.text), ("name", .text a.name),
    ("icon", .text a.icon), ("tooltip", .text a.tooltip), ("color", .text a.color.text)]

def TableDescriptor.toJson (d : TableDescriptor) : Json :=
  .object [("mode", .text d.mode.text), ("table", d.table.toJson),
    ("columns", .array (d.columns.map ColumnDef.toJson)),
    ("actions", .array (d.actions.map ActionDescriptor.toJson)),
    ("filters", .array (d.filters.map FilterDef.toJson))]

def SizeProfile.toJson {α : Type} (f : α → Json) (p : SizeProfile α) : Json :=
  .object [("min_width", f p.minWidth), ("max_width", f p.maxWidth), ("width", f p.width),
    ("min_height", f p.minHeight), ("max_height", f p.maxHeight), ("height", f p.height)]

def SizeProfile.sizesJson (s : DialogSize) : Json := s.toJson fun size => .text size.text

def DialogParams.toJson (p : DialogParams) : Json :=
  .object [("data", .ofValue p.data), ("mode", .text p.mode.text), ("static_filter", .ofMap p.restrictions),
    ("title", .text p.title)]

def TextPair.toJson (p : TextPair) : Json := .array [.text p.key, .text p.text]

end PagedTable
