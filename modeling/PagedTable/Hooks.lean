import PagedTable.Failure

namespace PagedTable

inductive Hook where
  | contextCreated
  | transportFailure
  | sourceCreated
deriving DecidableEq

namespace Hook

def name : Hook → String
  | .contextCreated => "context_created"
  | .transportFailure => "transport_failure"
  | .sourceCreated => "data_source_created"

def all : List Hook := [.contextCreated, .transportFailure, .sourceCreated]

def ofName? (s : String) : Option Hook := all.find? fun h => h.name = s

end Hook

-- A plugin implements one hook: it is recorded, then fails or returns its value.
structure Plugin where
  name : String
  hook : Hook
  fails : Bool := false
  returns : Value := .null

inductive HookDetail where
  | nothing
  | failure (f : Failure)
  | source (text : String)

structure HookCall where
  plugin : String
  hook : Hook
  detail : HookDetail

structure HookResults where
  values : List (String × Value) := []
  faults : List (String × Fault) := []

def pluginFault : Fault := .trouble (.run "plugin failed")

def Plugin.answer (p : Plugin) (r : HookResults) : HookResults :=
  if p.fails then { r with faults := r.faults ++ [(p.name, pluginFault)] }
  else { r with values := r.values ++ [(p.name, p.returns)] }

abbrev Registry := List Plugin

namespace Registry

def register (r : Registry) (hook : String) (plugin : Hook → Plugin) : Except Fault Registry :=
  match Hook.ofName? hook with
  | some h => .ok (r ++ [plugin h])
  | none => .error (.unknownHook hook)

def isRegistered (r : Registry) (name : String) : Bool := r.any fun p => p.name = name

def unregister (r : Registry) (name : String) : Registry := r.filter fun p => p.name ≠ name

def implementations (r : Registry) (hook : Hook) : List Plugin := r.filter fun p => p.hook = hook

def calls (r : Registry) (hook : Hook) (detail : HookDetail) : List HookCall :=
  (r.implementations hook).map fun p => ⟨p.name, hook, detail⟩

def results (r : Registry) (hook : Hook) : HookResults :=
  (r.implementations hook).foldl (fun results p => p.answer results) {}

end Registry

end PagedTable
