import EmotoFleet.Billing.PaygAudit
import Mathlib.Algebra.BigOperators.Ring.Finset

/-!
# The totals of an audit agree

An audit adds up its totals in three places: over all bikes and days, for every bike, and
line by line. It lists the days of the window from the time of day at which the window
starts, and asks for each whether a trip was counted under it.

Every day that a window of at most 366 days touches is listed, the first and the last one
included. The active bike-days are then those on which a bike of the fleet began a trip of
the window, and the three sums are the same.
-/

namespace EmotoFleet.Billing

open DistinctCounts

/-- The pairs of a day and a bike of the fleet that began a trip on it in the window. -/
def tripBikeDays (fleet : Fleet) (tables : UsageTables) (start finish : Int) : Finset BikeDay :=
  ((tables.trips.filter fun trip =>
    decide (trip.fleetId = fleet.id ∧ start ≤ trip.startTs ∧ trip.startTs ≤ finish ∧
      ∃ bike ∈ tables.bikes, bike.fleetId = fleet.id ∧ bike.id = trip.bikeId)).map
    bikeDayOf).toFinset

/-- The calendar days that the window touches. -/
def daysOfWindow (start finish : Int) : Finset Int :=
  (daysFrom (toKigaliDate start) (toKigaliDate finish + 1 - toKigaliDate start).toNat).toFinset

structure ExactAudit (fleet : Fleet) (tables : UsageTables) (start finish : Int)
    (audit : PaygAuditSummary) : Prop where
  active : audit.totalActiveBikeDays = (tripBikeDays fleet tables start finish).card
  exempt : audit.totalActiveBikeDays + audit.totalExemptBikeDays =
    (tables.bikes.countP fun bike => bike.fleetId = fleet.id) * (daysOfWindow start finish).card
  rate : audit.totalPaygSubtotalRwf = paygRate fleet * audit.totalActiveBikeDays
  bikes : audit.totalPaygSubtotalRwf =
    (audit.perBikeSummary.map (·.stats.paygChargesRwf)).sum
  days : audit.totalPaygSubtotalRwf = (audit.dailyBreakdown.map (·.chargeRwf)).sum

variable {fleet : Fleet} {tables : UsageTables} {start finish : Int}

/-! The days of the window -/

theorem kigali_span (window : finish - start ≤ 366 * DAY_MS) :
    toKigaliDate finish + 1 - toKigaliDate start ≤ 367 := by
  simp only [toKigaliDate, DAY_MS, KIGALI_OFFSET_MS] at *
  omega

theorem length_dayStrings (window : finish - start ≤ 366 * DAY_MS) :
    (dayStrings start finish).length = (daysOfWindow start finish).card := by
  have span := kigali_span window
  rw [daysOfWindow, List.toFinset_card_of_nodup (daysFrom_nodup _ _), dayStrings_eq]
  congr 2
  omega

/-! The sums -/

section Sums

variable (rate : Int) (counts : BikeDay → Nat) (days : List Int) (bikes : List String)

theorem totalExemptBikeDays_eq :
    (auditTotals rate counts days bikes).totalExemptBikeDays =
      (visited days bikes).countP fun bikeDay => !isActiveDay counts bikeDay := by
  have follows := foldl_component AuditTotals.totalExemptBikeDays
    (fun totals (bikeDay : BikeDay) => auditBikeDay rate counts totals bikeDay.1 bikeDay.2)
    (fun total bikeDay => if !isActiveDay counts bikeDay then total + 1 else total)
    (fun totals bikeDay => by
      rw [auditBikeDay]
      change (if isActiveDay counts bikeDay then _ else _) = _
      cases isActiveDay counts bikeDay <;> rfl)
    (visited days bikes) .initial
  rw [auditTotals_eq, follows, foldl_counted]
  simp [AuditTotals.initial]

/-- What one round adds to the charges of a bike. -/
theorem auditBikeDay_charges (totals : AuditTotals) (bikeDay : BikeDay) (bikeId : String) :
    ((auditBikeDay rate counts totals bikeDay.1 bikeDay.2).perBikeStats bikeId).paygChargesRwf =
      if decide (bikeDay.2 = bikeId) && isActiveDay counts bikeDay then
        (totals.perBikeStats bikeId).paygChargesRwf + rate
      else (totals.perBikeStats bikeId).paygChargesRwf := by
  have spelled : isActiveDay counts bikeDay = decide (1 ≤ counts (bikeDay.1, bikeDay.2)) := rfl
  rw [auditBikeDay, spelled]
  by_cases own : bikeDay.2 = bikeId
  · subst own
    dsimp only
    rw [Function.update_self]
    cases decide (1 ≤ counts (bikeDay.1, bikeDay.2)) <;> simp
  · dsimp only
    rw [Function.update_of_ne (Ne.symm own), decide_eq_false own]
    rfl

/-- What the audit charges a bike is the rate for each of its active days. -/
theorem paygChargesRwf_eq (bikeId : String) :
    ((auditTotals rate counts days bikes).perBikeStats bikeId).paygChargesRwf =
      (visited days bikes).countP
        (fun bikeDay => decide (bikeDay.2 = bikeId) && isActiveDay counts bikeDay) * rate := by
  have follows := foldl_component (fun totals => (totals.perBikeStats bikeId).paygChargesRwf)
    (fun totals (bikeDay : BikeDay) => auditBikeDay rate counts totals bikeDay.1 bikeDay.2)
    (fun total bikeDay =>
      if decide (bikeDay.2 = bikeId) && isActiveDay counts bikeDay then total + rate else total)
    (fun totals bikeDay => auditBikeDay_charges rate counts totals bikeDay bikeId)
    (visited days bikes) .initial
  rw [auditTotals_eq, follows, foldl_charged]
  simp [AuditTotals.initial]

theorem active_add_exempt :
    (auditTotals rate counts days bikes).totalActiveBikeDays +
      (auditTotals rate counts days bikes).totalExemptBikeDays = bikes.length * days.length := by
  have split : (visited days bikes).length = _ :=
    List.length_eq_countP_add_countP (isActiveDay counts)
  have all : (visited days bikes).length = days.length * bikes.length := List.length_product _ _
  simp only [Bool.not_eq_true, ← Bool.not_eq_true', Bool.decide_eq_true] at split
  rw [totalActiveBikeDays_eq, totalExemptBikeDays_eq, ← split, all, Nat.mul_comm]

variable {bikes} in
/-- The charges of the bikes add up to the subtotal. -/
theorem sum_paygChargesRwf (distinct : bikes.Nodup) :
    (bikes.map fun bikeId =>
        ((auditTotals rate counts days bikes).perBikeStats bikeId).paygChargesRwf).sum =
      (auditTotals rate counts days bikes).totalPaygSubtotalRwf := by
  have keyed : ∀ bikeDay ∈ visited days bikes, bikeDay.2 ∈ bikes :=
    fun _ member => (List.pair_mem_product.mp member).2
  have counted := sum_countP_key (fun bikeDay : BikeDay => bikeDay.2) (isActiveDay counts)
    distinct keyed
  rw [totalPaygSubtotalRwf_eq, ← counted, Nat.cast_list_sum, ← List.sum_map_mul_right,
    List.map_map]
  exact congrArg List.sum (List.map_congr_left fun bikeId _ =>
    paygChargesRwf_eq rate counts days bikes bikeId)

/-- The charges of the lines add up to the subtotal. -/
theorem sum_chargeRwf :
    ((auditTotals rate counts days bikes).dailyBreakdown.map (·.chargeRwf)).sum =
      (auditTotals rate counts days bikes).totalPaygSubtotalRwf := by
  rw [dailyBreakdown_eq, totalPaygSubtotalRwf_eq, List.map_map]
  exact sum_charged (isActiveDay counts) rate (visited days bikes)

end Sums

/-! The active bike-days -/

/-- The bike-days that an audit finds active are those of the trips, for every day of the
window is listed. -/
theorem active_eq_tripBikeDays (window : finish - start ≤ 366 * DAY_MS) :
    ((visited (dayStrings start finish) (bikeIds fleet.id tables.bikes)).filter
        (isActiveDay (bikeDayMap (tripsInWindow fleet.id tables.trips start finish)))).toFinset =
      tripBikeDays fleet tables start finish := by
  have span := kigali_span window
  ext ⟨day, bikeId⟩
  rw [List.mem_toFinset, List.mem_filter, visited, List.pair_mem_product, mem_dayStrings,
    mem_bikeIds, isActiveDay, decide_eq_true_iff, one_le_bikeDayMap, tripBikeDays,
    List.mem_toFinset, List.mem_map]
  constructor
  · rintro ⟨⟨_, owned⟩, trip, present, same⟩
    obtain ⟨stored, within⟩ := List.mem_filter.mp present
    obtain ⟨rfl, rfl⟩ := Prod.mk.inj same
    obtain ⟨own, begun, ended⟩ := of_decide_eq_true within
    exact ⟨trip, List.mem_filter.mpr ⟨stored, decide_eq_true ⟨own, begun, ended, owned⟩⟩, rfl⟩
  · rintro ⟨trip, present, same⟩
    obtain ⟨stored, within⟩ := List.mem_filter.mp present
    obtain ⟨rfl, rfl⟩ := Prod.mk.inj same
    obtain ⟨own, begun, ended, owned⟩ := of_decide_eq_true within
    have first := toKigaliDate_mono begun
    have last := toKigaliDate_mono ended
    exact ⟨⟨⟨first, last, by omega⟩, owned⟩, trip,
      List.mem_filter.mpr ⟨stored, decide_eq_true ⟨own, begun, ended⟩⟩, rfl⟩

/-- The audit of a window of at most 366 days is exact. -/
theorem paygAudit_exact (fleet : Fleet) (tables : UsageTables) (start finish : Int)
    (window : finish - start ≤ 366 * DAY_MS) :
    ExactAudit fleet tables start finish (getPaygAuditForFleet fleet tables start finish) := by
  have distinct := bikeIds_nodup fleet.id tables
  have once : (visited (dayStrings start finish) (bikeIds fleet.id tables.bikes)).Nodup :=
    (dayStrings_nodup _ _).product distinct
  have listed := length_dayStrings window
  constructor
  case active =>
    rw [← active_eq_tripBikeDays window,
      List.toFinset_card_of_nodup (once.filter _), ← List.countP_eq_length_filter]
    exact totalActiveBikeDays_eq _ _ _ _
  case exempt =>
    have owned : (bikeIds fleet.id tables.bikes).length =
        tables.bikes.countP fun bike => bike.fleetId = fleet.id := by
      rw [bikeIds, List.length_map, List.countP_eq_length_filter]
    rw [← owned, ← listed]
    exact active_add_exempt _ _ _ _
  case rate =>
    have total : (getPaygAuditForFleet fleet tables start finish).totalPaygSubtotalRwf = _ :=
      totalPaygSubtotalRwf_eq _ _ _ _
    have active : (getPaygAuditForFleet fleet tables start finish).totalActiveBikeDays = _ :=
      totalActiveBikeDays_eq _ _ _ _
    rw [total, active, mul_comm]
  case bikes =>
    rw [getPaygAuditForFleet]
    dsimp only
    rw [List.map_map]
    exact (sum_paygChargesRwf _ _ _ distinct).symm
  case days => exact (sum_chargeRwf _ _ _ _).symm

/-- A bike that began two trips on one day and one on the next. -/
def threeTrips : UsageTables where
  bikes := [defaultBike]
  trips := [⟨"fleet-1", "bike-1", 1772440000000, none⟩, ⟨"fleet-1", "bike-1", 1772443600000, none⟩,
    ⟨"fleet-1", "bike-1", 1772526400000, none⟩]
  bikeKey := defaultBike_key
  tripBike := by decide

theorem threeTrips_exact :
    ExactAudit defaultFleet threeTrips 1772438400000 1773043200000
      (getPaygAuditForFleet defaultFleet threeTrips 1772438400000 1773043200000) :=
  paygAudit_exact defaultFleet threeTrips 1772438400000 1773043200000 (by decide)

end EmotoFleet.Billing
