import SessionPool.Adapter.Stack

/-!
# Families of stacks

Stacks of adapters and sets of replacements, each under a name. Every stack consults one set of
replacements, which several stacks may share; a stack that names none has no replacements.
-/

set_option autoImplicit false

namespace SessionPool.Adapter

structure Relative where
  stack : Stack := {}
  replacements : Option String := none

/-- Stacks and replacements by name. -/
structure Family where
  relatives : List (String × Relative) := []
  replacements : List (String × Replacements) := []

namespace Family

/-- The replacements of a name; there are none until the first is entered. -/
def replacementsOf (f : Family) (name : String) : Replacements :=
  (Table.get? f.replacements name).getD {}

def relative (f : Family) (name : String) : Relative := (Table.get? f.relatives name).getD {}

def lookup (f : Family) (name : String) : Stack × Replacements :=
  let r := f.relative name
  (r.stack, match r.replacements with
    | some n => f.replacementsOf n
    | none => {})

def put (f : Family) (name : String) (r : Relative) : Family :=
  { f with relatives := Table.put f.relatives name r }

/-- A new stack that consults the given replacements. -/
def create (f : Family) (name : String) (replacements : Option String) : Family :=
  f.put name { replacements }

/-- A stack over all layers of another one. -/
def derive (f : Family) (name parent : String) : Family :=
  let r := f.relative parent
  f.put name { r with stack := r.stack.derive }

/-- A stack with the same layers as another one. -/
def copy (f : Family) (name source : String) : Family := f.put name (f.relative source)

def register (f : Family) (name : String) (change : Stack → Except SessionError Stack) :
    Except SessionError Family :=
  let r := f.relative name
  (change r.stack).map fun stack => f.put name { r with stack }

def replace (f : Family) (name : String) (change : Replacements → Replacements) : Family :=
  { f with replacements := Table.put f.replacements name (change (f.replacementsOf name)) }

end Family

end SessionPool.Adapter
