import PagedTable.Value.Text

namespace PagedTable

inductive FailureKind where
  | general
  | notFound
  | validation
  | transport (httpStatus : Option Number)
deriving DecidableEq

-- The machine-readable status of a failure, apart from its kind.
inductive FailureStatus where
  | notFound
  | validation
  | generic
  | other (text : String)
deriving DecidableEq

namespace FailureStatus

def text : FailureStatus → String
  | .notFound => "not-found"
  | .validation => "validation"
  | .generic => "generic"
  | .other s => s

def ofText (s : String) : FailureStatus :=
  if s = "not-found" then .notFound
  else if s = "validation" then .validation
  else if s = "generic" then .generic
  else .other s

end FailureStatus

-- `key` is the key of the text shown, `message` the text where the key has no wording.
structure Failure where
  kind : FailureKind
  status : FailureStatus
  key : String
  message : String
deriving DecidableEq

def FailureKind.status : FailureKind → FailureStatus
  | .notFound => .notFound
  | .validation => .validation
  | .general | .transport _ => .generic

def FailureKind.defaultKey : FailureKind → String
  | .notFound => "general.not_found"
  | .validation => "general.invalid_value"
  | .general | .transport _ => backendKey
where
  backendKey := "general.error_backend"

namespace Failure

def make (kind : FailureKind) (message : String) (key : String := kind.defaultKey) : Failure :=
  { kind, status := kind.status, key, message }

def notFoundText : String := "The requested item was not found"

def httpUnauthorized : Number := 401
def httpNotFound : Number := 404

def transport (message : String) : Failure := .make (.transport none) message

def validation (message : String) (key : String := FailureKind.defaultKey .validation) : Failure :=
  .make .validation message key

def httpStatus? (f : Failure) : Option Number :=
  match f.kind with
  | .transport status => status
  | _ => none

def authExpired (f : Failure) : Bool :=
  match f.httpStatus? with
  | some n => n.same httpUnauthorized
  | none => false

end Failure

-- The kinds of trouble that collaborators report, each with the name it goes by.
inductive TroubleKind where
  | http
  | value
  | key
  | run
  | system
  | connection
  | timeout
deriving DecidableEq

def TroubleKind.name : TroubleKind → String
  | .http => "HttpError"
  | .value => "ValueError"
  | .key => "KeyError"
  | .run => "RuntimeError"
  | .system => "OSError"
  | .connection => "ConnectionError"
  | .timeout => "TimeoutError"

-- Trouble outside the engine, perhaps with the status of an HTTP response.
structure Trouble where
  kind : TroubleKind
  message : Option String
  statusCode : Value := .null
  status : Value := .null

namespace Trouble

-- The text of the trouble; a missing key is shown in quotes.
def text (t : Trouble) : String :=
  match t.message with
  | none => ""
  | some s => if t.kind = .key then Text.quoted s else s

def integer? : Value → Option Number
  | .number (.int n) => some (.int n)
  | .number (.truth b) => some (.truth b)
  | _ => none

-- The HTTP status: `statusCode` if it is an integer, else `status` if that is one.
def httpStatus? (t : Trouble) : Option Number :=
  integer? t.statusCode <|> integer? t.status

def run (message : String) : Trouble := { kind := .run, message := some message }

end Trouble

inductive Expectation where
  | dateRange
  | date
  | collection
  | strings
  | string
deriving DecidableEq

def Expectation.words : Expectation → String
  | .dateRange => "a DateRange"
  | .date => "a date"
  | .collection => "a collection of strings"
  | .strings => "strings"
  | .string => "a string"

inductive Fault where
  | failure (f : Failure)
  | trouble (t : Trouble)
  | wrongShape (filter : String) (expected : Expectation) (got : String)
  | unknownFilter (id : String)
  | noIdentity (row : String) (path : String)
  | totalTooSmall (total : Number) (rows : Nat)
  | outOfRange (field : String) (bound : String) (got : Number)
  | notOneOf (field : String) (choices : List String) (got : Value)
  | badDirection (got : Value)
  | badPageIndex (got : Number)
  | badPageSize (got : Number)
  | notAMember (enumeration : String) (got : Value)
  | needsId (action : String)
  | overrideMissing (key : String)
  | overrideExists (key : String)
  | unknownHook (hook : String)
  | unknownMessage (name : String)
  | noMediator
  | noExporter
  | notImplemented (text : String)
  | wrongResult (call got expected : String)
  | isDirectory
  | unwritable
  | unsupported
  | unexpected
  | noAttribute
  | overflow
  | absent (what : String)

namespace Fault

def choiceText (choices : List String) : String := (Value.tuple (choices.map .text)).quoted

def message : Fault → String
  | .failure f => f.message
  | .trouble t => t.message.getD ""
  | .wrongShape filter expected got =>
    "Filter " ++ filter ++ " expects " ++ expected.words ++ ", got " ++ got
  | .unknownFilter id => "Unknown filter `" ++ id ++ "`"
  | .noIdentity row path => "Row " ++ row ++ " has no identity at `" ++ path ++ "`"
  | .totalTooSmall total rows =>
    "Total count " ++ total.text ++ " is smaller than the number of rows in the page (" ++
      numberOf rows ++ ")"
  | .outOfRange field bound got => "'" ++ field ++ "' must be " ++ bound ++ ": " ++ got.text
  | .notOneOf field choices got =>
    "'" ++ field ++ "' must be in " ++ choiceText choices ++ " (got " ++ got.quoted ++ ")"
  | .badDirection got => "Invalid sort direction `" ++ got.plain ++ "`"
  | .badPageIndex got => "Invalid page index " ++ got.text
  | .badPageSize got => "Invalid page size " ++ got.text
  | .notAMember enumeration got => got.quoted ++ " is not a valid " ++ enumeration
  | .needsId action => action ++ " needs an id"
  | .overrideMissing key => "No override for " ++ key
  | .overrideExists key => "Override " ++ key ++ " is already set"
  | .unknownHook hook => "There is no `" ++ hook ++ "` hook"
  | .unknownMessage name => name
  | .noMediator => "The context has no dialog mediator"
  | .noExporter => "The context has no exporter"
  | .notImplemented text => text
  | .wrongResult call got expected => call ++ " returned " ++ got ++ ", expected " ++ expected
  | .isDirectory => "21"
  | .unwritable => "cannot represent an object"
  | .unsupported | .unexpected | .noAttribute | .overflow => ""
  | .absent what => what

def text : Fault → String
  | .trouble t => t.text
  | .unknownFilter id => Text.quoted (Fault.unknownFilter id).message
  | .unknownMessage name => Text.quoted name
  | f => f.message

-- The text by which a fault is reported once it has become a failure.
def report : Fault → String
  | .trouble t => if t.text = "" then t.kind.name else t.text
  | f => f.text

def httpStatus? : Fault → Option Number
  | .trouble t => t.httpStatus?
  | _ => none

-- A failure stays as it is. Anything else becomes a transport failure that keeps the HTTP status;
-- with status 404 it becomes a vanished item.
def toFailure (fault : Fault) (key : String := FailureKind.defaultKey (.transport none)) : Failure :=
  match fault with
  | .failure f => f
  | .trouble t =>
    match t.httpStatus? with
    | some n =>
      if n.same Failure.httpNotFound then .make .notFound t.text
      else .make (.transport (some n)) fault.report key
    | none => .make (.transport none) fault.report key
  | _ => .make (.transport none) fault.report key

-- Whether the fault lies in a value that was read, as opposed to a wrong use of it.
def isBadValue : Fault → Bool
  | .wrongShape .. | .noIdentity .. | .totalTooSmall .. | .outOfRange .. | .notOneOf ..
  | .badDirection _ | .badPageIndex _ | .badPageSize _ | .notAMember .. | .needsId _
  | .overrideMissing _ | .overrideExists _ | .unknownHook _ => true
  | .trouble t => t.kind = .value
  | _ => false

def isFailure : Fault → Bool
  | .failure _ => true
  | _ => false

end Fault

end PagedTable
