import Mathlib.Data.Option.Basic

/-!
# Cells with a time to live

A key-value store with expiring entries, seen one key at a time: a cell holds a
value together with the instant at which it lapses, and reading it after that
instant finds nothing. Instants and times to live are milliseconds. Conditional
writes succeed exactly where a read would find nothing.

Nothing here mentions a particular program.
-/

namespace EmotoFleet.Expiring

universe u
variable {α : Type u}

/-- A stored value and the first instant at which it can no longer be read. -/
structure Entry (α : Type u) where
  value : α
  expiresAt : Int
deriving DecidableEq

/-- The content of one key; an absent key holds no entry. -/
abbrev Cell (α : Type u) := Option (Entry α)

/-- What a read at the given instant returns. -/
def read (cell : Cell α) (now : Int) : Option α :=
  match cell with
  | none => none
  | some entry => if now < entry.expiresAt then some entry.value else none

/-- An unconditional write with a time to live. -/
def write (value : α) (now ttl : Int) : Cell α := some ⟨value, now + ttl⟩

/-- A write that succeeds only where no unexpired value is present. The flag says
whether it did. -/
def writeIfAbsent (cell : Cell α) (value : α) (now ttl : Int) : Cell α × Bool :=
  match read cell now with
  | none => (write value now ttl, true)
  | some _ => (cell, false)

@[simp] theorem read_none (now : Int) : read (none : Cell α) now = none := rfl

/-- A written value is read back exactly until its time to live has passed. -/
theorem read_write (value : α) (written now ttl : Int) :
    read (write value written ttl) now = if now < written + ttl then some value else none := rfl

theorem read_write_alive (value : α) {written now ttl : Int} (alive : now < written + ttl) :
    read (write value written ttl) now = some value := by
  simp [read_write, alive]

/-- A read finds a value exactly in an entry that has not lapsed. -/
theorem read_eq_some_iff (cell : Cell α) (now : Int) (value : α) :
    read cell now = some value ↔
      ∃ entry, cell = some entry ∧ now < entry.expiresAt ∧ entry.value = value := by
  cases cell with
  | none => simp
  | some entry =>
    by_cases alive : now < entry.expiresAt <;> simp [read, alive]

/-- A readable value was readable at every earlier instant. -/
theorem read_alive_earlier {cell : Cell α} {now earlier : Int} {value : α}
    (ordered : earlier ≤ now) (alive : read cell now = some value) :
    read cell earlier = some value := by
  obtain ⟨entry, held, early, stored⟩ := (read_eq_some_iff cell now value).mp alive
  exact (read_eq_some_iff cell earlier value).mpr
    ⟨entry, held, Int.lt_of_le_of_lt ordered early, stored⟩

end EmotoFleet.Expiring
