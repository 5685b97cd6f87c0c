import PagedTable.Workspace

namespace PagedTable

namespace Logging

def text (s : String) : Value := .text s

def fileName : String := "evdash.log"

def directory : String := "<config>/evdash"

def lineFormat : String := "%(asctime)s %(levelname)-8s %(name)s: %(message)s"

-- Warnings go to the console, everything to a rotating file.
def default (file : Value) : Value := .map [
  ("version", .int 1),
  ("disable_existing_loggers", .bool false),
  ("formatters", .map [("evdash", .map [("format", text lineFormat)])]),
  ("handlers", .map [
    ("console", .map [
      ("class", text "logging.StreamHandler"),
      ("formatter", text "evdash"),
      ("level", text "WARNING")]),
    ("file", .map [
      ("class", text "logging.handlers.RotatingFileHandler"),
      ("formatter", text "evdash"),
      ("filename", file),
      ("maxBytes", .int (5 * 1024 * 1024)),
      ("backupCount", .int 3),
      ("encoding", text "utf-8")])]),
  ("loggers", .map [
    ("evdash", .map [("level", text "DEBUG")]),
    ("evdash_qt", .map [("level", text "DEBUG")])]),
  ("root", .map [
    ("handlers", .list [text "console", text "file"]),
    ("level", text "INFO")])]

end Logging

namespace Workspace

def loggingKey : String := "logging"

def setUpLogging (w : Workspace) : Workspace × Value :=
  match Settings.get w.settings loggingKey .null with
  | .null =>
    let config := Logging.default (.text (Logging.directory ++ "/" ++ Logging.fileName))
    (w.setSetting loggingKey config, config)
  | config => (w, config)

end Workspace

end PagedTable
