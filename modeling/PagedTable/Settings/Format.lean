import PagedTable.Settings.Saving
import PagedTable.Yaml.Reader
import PagedTable.Yaml.Writer

namespace PagedTable.Settings

def readFields? (s : String) : Option Fields :=
  match Yaml.read? s with
  | some (.map fields) => some fields
  | _ => none

def format : SettingsFormat where
  write := Yaml.write?
  read := readFields?

end PagedTable.Settings
