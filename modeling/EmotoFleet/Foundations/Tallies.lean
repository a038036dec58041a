import Mathlib.Algebra.Order.Group.Unbundled.Int
import Mathlib.Algebra.Order.Group.Int
import Mathlib.Order.Lattice

/-!
# Tallies of what has been received

A tally keeps a written total beside the amounts received. An amount is received
first and added to the total later, from a copy of the total that was read before; in
between it is under way. The tally is balanced when total and amounts under way make
up what was received, and the total is within what is due.

A copy that others have overtaken loses their amounts, so writing from it never
leaves a balance. Nothing here mentions a particular program.
-/

namespace EmotoFleet.Tallies

structure Tally where
  due : Int
  total : Int
  underway : Int
  received : Int

namespace Tally

structure Balanced (tally : Tally) : Prop where
  balance : tally.total + tally.underway = tally.received
  within : tally.total ≤ tally.due

/-- An amount is received, and its addition to the total is under way. -/
def receive (tally : Tally) (amount : Int) : Tally :=
  { tally with underway := tally.underway + amount, received := tally.received + amount }

/-- An amount under way is added to a copy of the total. -/
def write (tally : Tally) (copy amount : Int) : Tally :=
  { tally with total := copy + amount, underway := tally.underway - amount }

/-- An amount is received and added at once, as far as the total stays within what is
due. -/
def credit (tally : Tally) (copy amount : Int) : Tally :=
  { tally with total := min tally.due (copy + amount), received := tally.received + amount }

variable {tally : Tally} {copy amount : Int}

theorem Balanced.receive (balanced : tally.Balanced) (amount : Int) :
    (tally.receive amount).Balanced := by
  have balance := balanced.balance
  constructor
  · change tally.total + (tally.underway + amount) = tally.received + amount
    omega
  · exact balanced.within

/-- The copy is the total itself, and the amount is between zero and what remains. -/
def Sound (tally : Tally) (copy amount : Int) : Prop :=
  copy = tally.total ∧ 0 ≤ amount ∧ tally.total + amount ≤ tally.due

/-- Writing keeps the balance and does not lower the total exactly when it is sound. -/
theorem write_iff (balanced : tally.Balanced) :
    (tally.write copy amount).Balanced ∧ tally.total ≤ (tally.write copy amount).total ↔
      tally.Sound copy amount := by
  have balance := balanced.balance
  constructor
  · rintro ⟨⟨kept, within⟩, grows⟩
    change copy + amount + (tally.underway - amount) = tally.received at kept
    change copy + amount ≤ tally.due at within
    change tally.total ≤ copy + amount at grows
    exact ⟨by omega, by omega, by omega⟩
  · rintro ⟨rfl, positive, enough⟩
    refine ⟨⟨?_, enough⟩, ?_⟩
    · change tally.total + amount + (tally.underway - amount) = tally.received
      omega
    · change tally.total ≤ tally.total + amount
      omega

/-- So does crediting, from a copy that is not ahead of the total. The cap loses what
exceeds the amount due. -/
theorem credit_iff (balanced : tally.Balanced) (behind : copy ≤ tally.total) :
    (tally.credit copy amount).Balanced ∧ tally.total ≤ (tally.credit copy amount).total ↔
      tally.Sound copy amount := by
  have balance := balanced.balance
  constructor
  · rintro ⟨⟨kept, _⟩, grows⟩
    change min tally.due (copy + amount) + tally.underway = tally.received + amount at kept
    change tally.total ≤ min tally.due (copy + amount) at grows
    exact ⟨by omega, by omega, by omega⟩
  · rintro ⟨rfl, positive, enough⟩
    have uncapped : min tally.due (tally.total + amount) = tally.total + amount := min_eq_right enough
    refine ⟨⟨?_, min_le_left _ _⟩, ?_⟩
    · change min tally.due (tally.total + amount) + tally.underway = tally.received + amount
      omega
    · change tally.total ≤ min tally.due (tally.total + amount)
      omega

end Tally

end EmotoFleet.Tallies
