/-!
# Tasks

The work that a crew does in the background of a pool, for items of any type.
-/

set_option autoImplicit false

namespace SessionPool

/-- A piece of background work. -/
inductive Task (α : Type)
  /-- Open a session, perhaps on behalf of the request with a ticket. -/
  | add (waiter : Option Nat)
  | restore (item : α)
  | close (item : α)
  | maintain
deriving DecidableEq, Repr

/-- The item that a task carries. -/
def Task.item? {α : Type} : Task α → Option α
  | .restore item | .close item => some item
  | .add _ | .maintain => none

def Task.name {α : Type} : Task α → String
  | .add _ => "add_connection"
  | .restore _ => "return_connection"
  | .close _ => "close_connection"
  | .maintain => "maintenance"

end SessionPool
