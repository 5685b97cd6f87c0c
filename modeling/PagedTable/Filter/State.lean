import PagedTable.Filter.Basic
import PagedTable.Entries

namespace PagedTable

structure FilterState where
  defs : List (String × FilterDef) := []
  values : List (String × Value) := []

namespace FilterState

def empty : FilterState := {}

def stored (s : FilterState) (id : String) : Value := (Entries.get? id s.values).getD .null

def store (s : FilterState) (id : String) (v : Value) : FilterState :=
  { s with values := Entries.put id v s.values }

-- Registers a filter and gives it its default value. A default of the wrong shape is refused after
-- the filter has been registered.
def addDef (s : FilterState) (d : FilterDef) : FilterState × Except Fault Unit :=
  let s := { s with defs := Entries.put d.id d s.defs }
  match d.normalize d.default with
  | .ok v => (s.store d.id v, .ok ())
  | .error e => (s, .error e)

def addDefs (s : FilterState) : List FilterDef → FilterState × Except Fault Unit
  | [] => (s, .ok ())
  | d :: rest =>
    match s.addDef d with
    | (s, .ok ()) => s.addDefs rest
    | (s, .error e) => (s, .error e)

def ofDefs (ds : List FilterDef) : Except Fault FilterState :=
  match empty.addDefs ds with
  | (s, .ok ()) => .ok s
  | (_, .error e) => .error e

def get (s : FilterState) (id : String) (missing : Value) : Value :=
  if (s.stored id).unset then missing else s.stored id

def isSet (s : FilterState) (id : String) : Bool := !(s.stored id).unset

def restore (s : FilterState) (d : FilterDef) : FilterState × Except Fault Unit :=
  match d.normalize d.default with
  | .ok v => (s.store d.id v, .ok ())
  | .error e => (s, .error e)

-- Restores the listed filters in order; unknown ids are passed over.
def restoreAll (s : FilterState) : List String → FilterState × Except Fault Unit
  | [] => (s, .ok ())
  | id :: rest =>
    match Entries.get? id s.defs with
    | none => s.restoreAll rest
    | some d =>
      match s.restore d with
      | (s, .ok ()) => s.restoreAll rest
      | (s, .error e) => (s, .error e)

-- Changes a filter. The outcome tells if the effective value changed, in which case the dependent
-- filters have been restored as well.
def set (s : FilterState) (id : String) (value : Value) : FilterState × Except Fault Bool :=
  match Entries.get? id s.defs with
  | none => (s, .error (.unknownFilter id))
  | some d =>
    match d.normalize value with
    | .error e => (s, .error e)
    | .ok new =>
      let changed := !((s.stored id).effective.same new.effective)
      let s := s.store id new
      if changed then
        match s.restoreAll d.dependents with
        | (s, .ok ()) => (s, .ok true)
        | (s, .error e) => (s, .error e)
      else (s, .ok false)

def resetEach (s : FilterState) (changed : Bool) :
    List (String × FilterDef) → FilterState × Except Fault Bool
  | [] => (s, .ok changed)
  | (_, d) :: rest =>
    match d.normalize d.default with
    | .error e => (s, .error e)
    | .ok v =>
      let differs := !((s.stored d.id).effective.same v.effective)
      (s.store d.id v).resetEach (changed || differs) rest

def reset (s : FilterState) : FilterState × Except Fault Bool := s.resetEach false s.defs

def active (s : FilterState) : List (FilterDef × Value) :=
  (s.defs.filter fun e => s.isSet e.2.id).map fun e => (e.2, s.stored e.2.id)

def snapshot (s : FilterState) : List (String × Value) := s.active.map fun a => (a.1.id, a.2)

-- Two states are equal when they restrict alike.
def same (s t : FilterState) : Bool := (Value.map s.snapshot).same (.map t.snapshot)

def quoted (s : FilterState) : String := "FilterState(" ++ (Value.map s.snapshot).quoted ++ ")"

end FilterState

end PagedTable
