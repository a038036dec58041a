import EmotoFleet.Billing.PaygAudit

/-!
# Bike-days over a chain of billing cycles

A cycle is billed by the audit of the window from its start to its end. Cycles
follow each other without a gap, at whatever time of day the first one began, so
a calendar day can lie in two windows; both ends of a window are included, so a
trip at the boundary lies in two windows as well. Each audit then charges the
day.

The audit passes over trips on a bike that is not the fleet's and over days
after the 367th of a window.
-/

namespace EmotoFleet.Billing

open DistinctCounts

variable (fleet : Fleet) (tables : UsageTables) (cycles : List BillingCycle)

/-- The audit that a cycle is billed by. -/
def cycleAudit (cycle : BillingCycle) : PaygAuditSummary :=
  getPaygAuditForFleet fleet tables cycle.periodStart cycle.periodEnd

def InWindow (cycle : BillingCycle) (trip : Trip) : Prop :=
  trip.fleetId = fleet.id ∧ cycle.periodStart ≤ trip.startTs ∧ trip.startTs ≤ cycle.periodEnd

instance (cycle : BillingCycle) (trip : Trip) : Decidable (InWindow fleet cycle trip) := by
  unfold InWindow
  infer_instance

/-- The bike-days that the cycles charge, all cycles added up. -/
def chargedBikeDays : Nat :=
  (cycles.map fun cycle => (cycleAudit fleet tables cycle).totalActiveBikeDays).sum

/-- How many times the cycles charge one bike-day. -/
def timesCharged (bikeDay : BikeDay) : Nat :=
  (cycles.map fun cycle => (cycleAudit fleet tables cycle).dailyBreakdown.countP fun record =>
    record.isActive && decide ((record.date, record.bikeId) = bikeDay)).sum

/-- The distinct bike-days with a trip in one of the windows. -/
def usedBikeDays : Finset BikeDay :=
  ((tables.trips.filter fun trip => cycles.any fun cycle =>
    decide (InWindow fleet cycle trip)).map bikeDayOf).toFinset

/-- No bike-day is charged twice or dropped, neither one by one nor in the sum. -/
def ChargedOnce : Prop :=
  (∀ bikeDay, timesCharged fleet tables cycles bikeDay =
    if bikeDay ∈ usedBikeDays fleet tables cycles then 1 else 0) ∧
  chargedBikeDays fleet tables cycles = (usedBikeDays fleet tables cycles).card

/-- The trip is one that the cycle's audit looks at: in its window, on a bike of
the fleet, and on one of the first 367 days. -/
def Audited (cycle : BillingCycle) (trip : Trip) : Prop :=
  trip ∈ tables.trips ∧ InWindow fleet cycle trip ∧
    trip.bikeId ∈ bikeIds fleet.id tables.bikes ∧
    toKigaliDate trip.startTs < toKigaliDate cycle.periodStart + 367

/-- Every bike-day with a trip in a window has one that some audit looks at. -/
def Covered : Prop :=
  ∀ trip ∈ tables.trips, (∃ cycle ∈ cycles, InWindow fleet cycle trip) →
    ∃ cycle ∈ cycles, ∃ other, Audited fleet tables cycle other ∧ bikeDayOf other = bikeDayOf trip

/-- No bike-day has trips in two windows. -/
def Unsplit : Prop :=
  cycles.Pairwise fun earlier later => ∀ one other, Audited fleet tables earlier one →
    Audited fleet tables later other → bikeDayOf one ≠ bikeDayOf other

variable {fleet tables cycles}

theorem mem_tripsInWindow {cycle : BillingCycle} {trip : Trip} :
    trip ∈ tripsInWindow fleet.id tables.trips cycle.periodStart cycle.periodEnd ↔
      trip ∈ tables.trips ∧ InWindow fleet cycle trip := by
  simp [tripsInWindow, InWindow]

variable (fleet tables) in
/-- The pairs of a listed day and a bike that the cycle's audit visits. -/
def visitedBy (cycle : BillingCycle) : List BikeDay :=
  visited (dayStrings cycle.periodStart cycle.periodEnd) (bikeIds fleet.id tables.bikes)

theorem visitedBy_nodup (cycle : BillingCycle) : (visitedBy fleet tables cycle).Nodup :=
  (dayStrings_nodup _ _).product (bikeIds_nodup _ _)

variable (fleet tables) in
/-- The bike-days that one cycle charges. -/
def chargedBy (cycle : BillingCycle) : Finset BikeDay :=
  ((visitedBy fleet tables cycle).filter
    (isActiveDay (bikeDayMap
      (tripsInWindow fleet.id tables.trips cycle.periodStart cycle.periodEnd)))).toFinset

theorem mem_chargedBy {cycle : BillingCycle} {bikeDay : BikeDay} :
    bikeDay ∈ chargedBy fleet tables cycle ↔
      ∃ trip, Audited fleet tables cycle trip ∧ bikeDayOf trip = bikeDay := by
  obtain ⟨day, bikeId⟩ := bikeDay
  rw [chargedBy, List.mem_toFinset, List.mem_filter, visitedBy, visited, List.pair_mem_product,
    mem_dayStrings, isActiveDay, decide_eq_true_iff, one_le_bikeDayMap]
  constructor
  · rintro ⟨⟨⟨_, _, bounded⟩, owned⟩, trip, present, same⟩
    obtain ⟨stored, within⟩ := mem_tripsInWindow.mp present
    obtain ⟨rfl, rfl⟩ := Prod.mk.inj same
    exact ⟨trip, ⟨stored, within, owned, bounded⟩, rfl⟩
  · rintro ⟨trip, ⟨stored, within, owned, bounded⟩, same⟩
    obtain ⟨rfl, rfl⟩ := Prod.mk.inj same
    have begun := toKigaliDate_mono within.2.1
    have ended := toKigaliDate_mono within.2.2
    exact ⟨⟨⟨begun, ended, bounded⟩, owned⟩, trip, mem_tripsInWindow.mpr ⟨stored, within⟩, rfl⟩

theorem totalActiveBikeDays_card (cycle : BillingCycle) :
    (cycleAudit fleet tables cycle).totalActiveBikeDays = (chargedBy fleet tables cycle).card := by
  rw [chargedBy, List.toFinset_card_of_nodup ((visitedBy_nodup cycle).filter _),
    ← List.countP_eq_length_filter]
  exact totalActiveBikeDays_eq _ _ _ _

/-- The subtotal of an audit is the rate for every bike-day that it charges. -/
theorem totalPaygSubtotalRwf_card (cycle : BillingCycle) :
    (cycleAudit fleet tables cycle).totalPaygSubtotalRwf =
      (chargedBy fleet tables cycle).card * paygRate fleet := by
  rw [← totalActiveBikeDays_card]
  exact (totalPaygSubtotalRwf_eq _ _ _ _).trans
    (congrArg (fun days : Nat => days * paygRate fleet) (totalActiveBikeDays_eq _ _ _ _).symm)

theorem timesCharged_eq (bikeDay : BikeDay) :
    timesCharged fleet tables cycles bikeDay =
      timesCounted (cycles.map (chargedBy fleet tables)) bikeDay := by
  have once : ∀ cycle : BillingCycle,
      ((cycleAudit fleet tables cycle).dailyBreakdown.countP fun record =>
        record.isActive && decide ((record.date, record.bikeId) = bikeDay)) =
      if bikeDay ∈ chargedBy fleet tables cycle then 1 else 0 := by
    intro cycle
    have records : (cycleAudit fleet tables cycle).dailyBreakdown =
        (visitedBy fleet tables cycle).map (recordOf (paygRate fleet) (bikeDayMap
          (tripsInWindow fleet.id tables.trips cycle.periodStart cycle.periodEnd))) :=
      dailyBreakdown_eq _ _ _ _
    simp only [chargedBy, List.mem_toFinset]
    rw [records, List.countP_map, ← List.Nodup.count ((visitedBy_nodup cycle).filter _),
      List.count, List.countP_filter]
    congr 1
    funext other
    by_cases same : other = bikeDay
    · simp [recordOf, same]
    · simp [recordOf, same]
  rw [timesCharged, timesCounted, List.countP_map]
  induction cycles with
  | nil => rfl
  | cons cycle cycles inductionHypothesis =>
    rw [List.map_cons, List.sum_cons, once, inductionHypothesis, List.countP_cons, Nat.add_comm]
    simp

theorem chargedBikeDays_eq :
    chargedBikeDays fleet tables cycles =
      ((cycles.map (chargedBy fleet tables)).map Finset.card).sum := by
  rw [chargedBikeDays, List.map_map]
  congr 1
  apply List.map_congr_left
  intro cycle _
  exact totalActiveBikeDays_card cycle

theorem mem_usedBikeDays {bikeDay : BikeDay} :
    bikeDay ∈ usedBikeDays fleet tables cycles ↔
      ∃ trip ∈ tables.trips, (∃ cycle ∈ cycles, InWindow fleet cycle trip) ∧
        bikeDayOf trip = bikeDay := by
  simp [usedBikeDays, and_assoc]

/-- What is charged has been used. -/
theorem charged_subset_used :
    union (cycles.map (chargedBy fleet tables)) ⊆ usedBikeDays fleet tables cycles := by
  intro bikeDay charged
  obtain ⟨group, member, inside⟩ := mem_union.mp charged
  obtain ⟨cycle, present, rfl⟩ := List.mem_map.mp member
  obtain ⟨trip, audited, same⟩ := mem_chargedBy.mp inside
  exact mem_usedBikeDays.mpr ⟨trip, audited.1, ⟨cycle, present, audited.2.1⟩, same⟩

theorem covered_iff :
    Covered fleet tables cycles ↔
      usedBikeDays fleet tables cycles ⊆ union (cycles.map (chargedBy fleet tables)) := by
  constructor
  · intro covered bikeDay used
    obtain ⟨trip, stored, within, rfl⟩ := mem_usedBikeDays.mp used
    obtain ⟨cycle, present, other, audited, same⟩ := covered trip stored within
    apply mem_union.mpr
    exact ⟨_, List.mem_map_of_mem present, mem_chargedBy.mpr ⟨other, audited, same⟩⟩
  · intro charged trip stored within
    have used := charged (mem_usedBikeDays.mpr ⟨trip, stored, within, rfl⟩)
    obtain ⟨group, member, inside⟩ := mem_union.mp used
    obtain ⟨cycle, present, rfl⟩ := List.mem_map.mp member
    obtain ⟨other, audited, same⟩ := mem_chargedBy.mp inside
    exact ⟨cycle, present, other, audited, same⟩

theorem unsplit_iff :
    Unsplit fleet tables cycles ↔ (cycles.map (chargedBy fleet tables)).Pairwise Disjoint := by
  rw [Unsplit, List.pairwise_map]
  apply List.Pairwise.iff
  intro earlier later
  rw [Finset.disjoint_left]
  constructor
  · intro apart bikeDay first second
    obtain ⟨one, auditedOne, rfl⟩ := mem_chargedBy.mp first
    obtain ⟨other, auditedOther, same⟩ := mem_chargedBy.mp second
    exact apart one other auditedOne auditedOther same.symm
  · intro apart one other auditedOne auditedOther same
    exact apart (mem_chargedBy.mpr ⟨one, auditedOne, rfl⟩)
      (mem_chargedBy.mpr ⟨other, auditedOther, same.symm⟩)

/-- With every bike-day covered, the sum is right exactly when none is split. -/
theorem sum_right_iff (covered : Covered fleet tables cycles) :
    chargedBikeDays fleet tables cycles = (usedBikeDays fleet tables cycles).card ↔
      Unsplit fleet tables cycles := by
  have same := (covered_iff.mp covered).antisymm charged_subset_used
  rw [chargedBikeDays_eq, same, sum_card_eq_card_union_iff, unsplit_iff]

/-- Bike-days are charged once exactly when every one is covered and none is
split; and where all are covered, splitting shows in the sum. -/
theorem charged_once_iff (fleet : Fleet) (tables : UsageTables) (cycles : List BillingCycle) :
    (ChargedOnce fleet tables cycles ↔
      Covered fleet tables cycles ∧ Unsplit fleet tables cycles) ∧
    (Covered fleet tables cycles →
      (chargedBikeDays fleet tables cycles = (usedBikeDays fleet tables cycles).card ↔
        Unsplit fleet tables cycles)) := by
  refine ⟨⟨?_, ?_⟩, sum_right_iff⟩
  · rintro ⟨once, _⟩
    constructor
    · apply covered_iff.mpr
      intro bikeDay used
      have counted := once bikeDay
      rw [if_pos used, timesCharged_eq] at counted
      apply timesCounted_pos.mp
      omega
    · apply unsplit_iff.mpr
      apply timesCounted_le_one.mpr
      intro bikeDay
      have counted := once bikeDay
      rw [timesCharged_eq] at counted
      split at counted
      · omega
      · omega
  · rintro ⟨covered, unsplit⟩
    refine ⟨?_, (sum_right_iff covered).mpr unsplit⟩
    intro bikeDay
    have most := timesCounted_le_one.mp (unsplit_iff.mp unsplit) bikeDay
    rw [timesCharged_eq]
    split
    · rename_i used
      have least := timesCounted_pos.mpr (covered_iff.mp covered used)
      omega
    · rename_i unused
      have none' := mt (fun counted => charged_subset_used (timesCounted_pos.mp counted)) unused
      omega

/-- Cycles of positive length that follow each other without a gap. -/
def Consecutive (cycles : List BillingCycle) : Prop :=
  (∀ cycle ∈ cycles, cycle.periodStart < cycle.periodEnd) ∧
    cycles.IsChain fun earlier later => later.periodStart = earlier.periodEnd

/-- Two weekly cycles that meet at noon, and a bike with a trip two hours before
and one two hours after: one bike-day, charged by both. -/
theorem noon_boundary_charged_twice :
    ¬ ∀ (fleet : Fleet) (tables : UsageTables) (cycles : List BillingCycle), Consecutive cycles →
      chargedBikeDays fleet tables cycles = (usedBikeDays fleet tables cycles).card := by
  intro always
  have counted := always defaultFleet
    ⟨[defaultBike], [⟨"fleet-1", "bike-1", 1773050400000, none⟩,
      ⟨"fleet-1", "bike-1", 1773064800000, none⟩], by decide, by decide⟩
    [{ defaultCycle with periodStart := 1772452800000, periodEnd := 1773057600000 },
     { defaultCycle with periodStart := 1773057600000, periodEnd := 1773662400000 }]
    ⟨by decide, by simp⟩
  exact absurd counted (by decide +kernel)

end EmotoFleet.Billing
