import HartDebug.Word

/-!
# Register files

The values of hart registers by number, listed in ascending order of the numbers.  A register that was
never written holds zero.

* `RegisterFile.get`, `RegisterFile.set` — one register;
* `get_set` — what a register holds after a write to any register.
-/

namespace HartDebug

/-- The registers that were written, in ascending order of their numbers. -/
structure RegisterFile where
  entries : List (RegisterNumber × Value) := []
  deriving DecidableEq, Repr

namespace RegisterFile

/-- The value listed for a number. -/
def lookup (number : RegisterNumber) : List (RegisterNumber × Value) → Value
  | [] => 0
  | (n, v) :: rest => if n = number then v else lookup number rest

/-- List a value for a number, at its place in the order and in place of any other value. -/
def insert (number : RegisterNumber) (value : Value) :
    List (RegisterNumber × Value) → List (RegisterNumber × Value)
  | [] => [(number, value)]
  | (n, v) :: rest =>
    if number = n then (number, value) :: rest
    else if number < n then (number, value) :: (n, v) :: rest
    else (n, v) :: insert number value rest

/-- What a register holds. -/
def get (f : RegisterFile) (number : RegisterNumber) : Value :=
  lookup number f.entries

/-- Write a register. -/
def set (f : RegisterFile) (number : RegisterNumber) (value : Value) : RegisterFile :=
  ⟨insert number value f.entries⟩

theorem lookup_insert (number other : RegisterNumber) (value : Value)
    (entries : List (RegisterNumber × Value)) :
    lookup other (insert number value entries) =
      if number = other then value else lookup other entries := by
  induction entries with
  | nil => rfl
  | cons entry rest ih =>
    obtain ⟨n, v⟩ := entry
    unfold insert
    split
    · subst_vars
      simp only [lookup]
      split <;> rfl
    · split
      · rfl
      · simp only [lookup, ih]
        split
        · subst_vars
          rw [if_neg (by assumption)]
        · rfl

theorem get_set (f : RegisterFile) (number other : RegisterNumber) (value : Value) :
    (f.set number value).get other = if number = other then value else f.get other :=
  lookup_insert number other value f.entries

end RegisterFile

end HartDebug
