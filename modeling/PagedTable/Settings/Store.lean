import PagedTable.Value.Path
import PagedTable.Entries

namespace PagedTable

namespace Settings

def below? : List String → Value → Option Value
  | [], v => some v
  | part :: parts, .map fields =>
    match Entries.get? part fields with
    | some v => below? parts v
    | none => none
  | _ :: _, _ => none

def fieldsOf : Value → Fields
  | .map fields => fields
  | _ => []

-- The container with a value stored at a path; what is no map on the way becomes one.
def store (value : Value) : List String → Value → Value
  | [], _ => value
  | part :: parts, container =>
    let fields := fieldsOf container
    .map (Entries.put part (store value parts ((Entries.get? part fields).getD .null)) fields)

def get? (content : Fields) (key : String) : Option Value :=
  below? (Path.segments key) (.map content)

def get (content : Fields) (key : String) (missing : Value) : Value :=
  (get? content key).getD missing

-- The content with a value at a dotted path; none when it has that value already.
def put? (content : Fields) (key : String) (value : Value) : Option Fields :=
  let unchanged := match get? content key with
    | some v => v.same value
    | none => false
  if unchanged then none
  else some (fieldsOf (store value (Path.segments key) (.map content)))

def put (content : Fields) (key : String) (value : Value) : Fields :=
  (put? content key value).getD content

def tablesKey : String := "evdash.tables"

def pageSizeName : String := "page_size"

def tableKey (table : Option String) (name : String) : String :=
  match table with
  | none => tablesKey ++ "." ++ name
  | some t => if t = "" then tablesKey ++ "." ++ name else tablesKey ++ "." ++ t ++ "." ++ name

def isNamed (table : Option String) : Bool :=
  match table with
  | none => false
  | some t => t ≠ ""

def orElse (v : Value) (other : Value) : Value := if v.isNull then other else v

-- A preference of a table, which falls back to the general one and then to the default.
def tableSetting (content : Fields) (table : Option String) (name : String) (missing : Value) :
    Value :=
  let own := get content (tableKey table name) .null
  let found := if isNamed table then orElse own (get content (tableKey none name) .null) else own
  orElse found missing

end Settings

end PagedTable
