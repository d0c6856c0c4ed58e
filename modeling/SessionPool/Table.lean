/-!
# Tables

Tables from keys to values, as lists of pairs in which each key occurs once. `put` enters a value
under a key in place of an earlier one; `putSorted` does so in a table that is kept in the order
of its keys.
-/

set_option autoImplicit false

namespace SessionPool.Table

variable {κ ν : Type}

def get? [DecidableEq κ] : List (κ × ν) → κ → Option ν
  | [], _ => none
  | (k, v) :: t, key => if k = key then some v else get? t key

def put [DecidableEq κ] (t : List (κ × ν)) (key : κ) (value : ν) : List (κ × ν) :=
  (key, value) :: t.filter fun p => !decide (p.1 = key)

def remove [DecidableEq κ] (t : List (κ × ν)) (key : κ) : List (κ × ν) :=
  t.filter fun p => !decide (p.1 = key)

/-- Changes the value under a key, if there is one; the order of the table stays. -/
def update [DecidableEq κ] (t : List (κ × ν)) (key : κ) (value : ν) : List (κ × ν) :=
  t.map fun p => if p.1 = key then (key, value) else p

/-- Enters a value under a key in a table sorted by its keys. -/
def putSorted (t : List (String × ν)) (key : String) (value : ν) : List (String × ν) :=
  match t with
  | [] => [(key, value)]
  | (k, v) :: rest =>
    if key = k then (key, value) :: rest
    else if key < k then (key, value) :: (k, v) :: rest
    else (k, v) :: putSorted rest key value

@[simp] theorem get?_nil [DecidableEq κ] (key : κ) : get? ([] : List (κ × ν)) key = none := rfl

theorem get?_filter_ne [DecidableEq κ] (t : List (κ × ν)) (key other : κ) (h : other ≠ key) :
    get? (t.filter fun p => !decide (p.1 = key)) other = get? t other := by
  induction t with
  | nil => rfl
  | cons p t ih =>
    obtain ⟨k, v⟩ := p
    by_cases hk : k = key
    · subst hk
      have : k ≠ other := fun e => h e.symm
      simp [get?, this, ih]
    · simp [get?, hk, ih]

/-- A value entered under a key is found there, and other keys keep their values. -/
theorem get?_put [DecidableEq κ] (t : List (κ × ν)) (key other : κ) (value : ν) :
    get? (put t key value) other = if key = other then some value else get? t other := by
  by_cases h : key = other
  · simp [put, get?, h]
  · rw [put, get?, if_neg h, if_neg h, get?_filter_ne t key other (fun e => h e.symm)]

end SessionPool.Table
