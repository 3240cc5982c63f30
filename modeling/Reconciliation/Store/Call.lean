import Reconciliation.Store.Basic

/-!
# Calls to stores

A call without its payload: which operation was asked for, and about what. Logs of calls show what
a pass looked at and what it tried to write, whether or not it succeeded.
-/

namespace Reconciliation

/-- A call to a store. -/
inductive StoreCall where
  | get (identity : ObjectIdentity)
  | create (identity : ObjectIdentity)
  | update (identity : ObjectIdentity)
  | delete (identity : ObjectIdentity)
  | list (kind : Kind) (namespace? : Option String) (selector : LabelSelector)
deriving DecidableEq

namespace StoreCall

/-- The operation that is called. -/
def operation : StoreCall → Operation
  | get _ => .get
  | create _ => .create
  | update _ => .update
  | delete _ => .delete
  | list _ _ _ => .list

/-- The call in words. -/
def display : StoreCall → String
  | list kind namespace? selector =>
    "list " ++ kind.name ++ " " ++ namespace?.elim "*" (fun ns => "[" ++ ns ++ "]") ++ " " ++
      selector.toQuery
  | get id => "get " ++ id.display
  | create id => "create " ++ id.display
  | update id => "update " ++ id.display
  | delete id => "delete " ++ id.display

end StoreCall

end Reconciliation
