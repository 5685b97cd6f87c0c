import PagedTable.Page
import PagedTable.Query.Basic

namespace PagedTable

inductive MutationKind where
  | create | update | remove | assign | unassign
deriving DecidableEq

namespace MutationKind

def text : MutationKind → String
  | .create => "create"
  | .update => "update"
  | .remove => "remove"
  | .assign => "assign"
  | .unassign => "unassign"

def successName (m : MutationKind) : String := m.text ++ ".success"

def errorName (m : MutationKind) : String := m.text ++ ".error"

end MutationKind

inductive ProviderOperation where
  | list
  | mutation (kind : MutationKind)
deriving DecidableEq

namespace ProviderOperation

def text : ProviderOperation → String
  | .list => "list"
  | .mutation kind => kind.text

def all : List ProviderOperation :=
  [.list, .mutation .create, .mutation .update, .mutation .remove, .mutation .assign,
    .mutation .unassign]

end ProviderOperation

inductive ProviderCall where
  | list (query : Query)
  | create (entity : Value)
  | update (entity : Value)
  | remove (ids : List Value)
  | assign (parent : Value) (ids : List Value)
  | unassign (parent : Value) (ids : List Value)

namespace ProviderCall

def operation : ProviderCall → ProviderOperation
  | .list _ => .list
  | .create _ => .mutation .create
  | .update _ => .mutation .update
  | .remove _ => .mutation .remove
  | .assign _ _ => .mutation .assign
  | .unassign _ _ => .mutation .unassign

end ProviderCall

end PagedTable
