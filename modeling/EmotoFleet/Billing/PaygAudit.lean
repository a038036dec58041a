import EmotoFleet.Billing.BillingTables
import EmotoFleet.Foundations.DistinctCounts

/-!
# The active-day audit of pay-as-you-go fleets

A bike is charged for every calendar day of Africa/Kigali on which it began a
trip. The audit of a window counts the trips of every bike and day, lists the
days of the window, and charges the day rate for every pair of a listed day and
a bike of the fleet with at least one trip.

A day is named here by its number since the epoch, which orders days as their
`YYYY-MM-DD` strings do. Kigali is two hours ahead of UTC all year. Distances,
which no charge depends on, are left out.
-/

namespace EmotoFleet.Billing

open DistinctCounts

/-- Kigali is two hours ahead of UTC. -/
def KIGALI_OFFSET_MS : Int := 2 * 60 * 60 * 1000

/-- The day in Kigali. -/
def toKigaliDate (date : Int) : Int := (date + KIGALI_OFFSET_MS) / DAY_MS

/-- The rate of an active day: an unset or default rate of a delivery fleet means 500. -/
def paygRate (fleet : Fleet) : Int :=
  if fleet.type = .DELIVERY ∧
      (fleet.emotoPaygRatePerActiveDay = 0 ∨ fleet.emotoPaygRatePerActiveDay = 350) then 500
  else fleet.emotoPaygRatePerActiveDay

/-- The trips of the fleet that begin in the window, both ends included. -/
def tripsInWindow (fleetId : String) (trips : List Trip) (start finish : Int) : List Trip :=
  trips.filter fun trip =>
    decide (trip.fleetId = fleetId ∧ start ≤ trip.startTs ∧ trip.startTs ≤ finish)

/-- A day and a bike. -/
abbrev BikeDay := Int × String

/-- The day and the bike of a trip. -/
def bikeDayOf (trip : Trip) : BikeDay := (toKigaliDate trip.startTs, trip.bikeId)

/-- The number of trips of every bike and day. -/
def bikeDayMap (trips : List Trip) : BikeDay → Nat :=
  trips.foldl (fun counts trip =>
    Function.update counts (bikeDayOf trip) (counts (bikeDayOf trip) + 1)) fun _ => 0

/-- The loop over the days, with the days found so far. It leaves once more than
366 days are listed, so it never takes more than 367 rounds. -/
def dayStringsFrom (lastDay : Int) : Nat → Int → List Int → List Int
  | 0, _, days => days
  | rounds + 1, current, days =>
    if toKigaliDate current ≤ lastDay then
      let listed := if days.contains (toKigaliDate current) then days
        else days ++ [toKigaliDate current]
      if listed.length > 366 then listed
      else dayStringsFrom lastDay rounds (current + DAY_MS) listed
    else days

/-- The days of a period, 367 at most. -/
def dayStrings (start finish : Int) : List Int :=
  dayStringsFrom (toKigaliDate finish) 367 start []

/-- A bike's day in the audit. -/
structure PaygActiveDayRecord where
  date : Int
  bikeId : String
  tripCount : Nat
  isActive : Bool
  chargeRwf : Int
deriving DecidableEq

/-- The figures of a bike. -/
structure BikeStats where
  activeDays : Nat
  exemptDays : Nat
  paygChargesRwf : Int
deriving DecidableEq

/-- A bike with its figures. -/
structure BikeSummary where
  bikeId : String
  stats : BikeStats
deriving DecidableEq

/-- What the audit's loops accumulate. -/
structure AuditTotals where
  totalActiveBikeDays : Nat
  totalExemptBikeDays : Nat
  totalPaygSubtotalRwf : Int
  perBikeStats : String → BikeStats
  dailyBreakdown : List PaygActiveDayRecord

/-- The totals before the first day. -/
def AuditTotals.initial : AuditTotals :=
  ⟨0, 0, 0, fun _ => ⟨0, 0, 0⟩, []⟩

/-- One round of the audit's inner loop. -/
def auditBikeDay (rate : Int) (counts : BikeDay → Nat) (totals : AuditTotals) (dayStr : Int)
    (bikeId : String) : AuditTotals :=
  let tripCount := counts (dayStr, bikeId)
  let isActive := decide (1 ≤ tripCount)
  let chargeRwf := if isActive then rate else 0
  let stats := totals.perBikeStats bikeId
  let updated : BikeStats :=
    if isActive then ⟨stats.activeDays + 1, stats.exemptDays, stats.paygChargesRwf + rate⟩
    else ⟨stats.activeDays, stats.exemptDays + 1, stats.paygChargesRwf⟩
  { totalActiveBikeDays :=
      if isActive then totals.totalActiveBikeDays + 1 else totals.totalActiveBikeDays
    totalExemptBikeDays :=
      if isActive then totals.totalExemptBikeDays else totals.totalExemptBikeDays + 1
    totalPaygSubtotalRwf :=
      if isActive then totals.totalPaygSubtotalRwf + rate else totals.totalPaygSubtotalRwf
    perBikeStats := Function.update totals.perBikeStats bikeId updated
    dailyBreakdown := totals.dailyBreakdown ++ [⟨dayStr, bikeId, tripCount, isActive, chargeRwf⟩] }

/-- The audit of a fleet's period. -/
structure PaygAuditSummary where
  fleetId : String
  billingMode : FleetBillingMode
  paygRatePerActiveDay : Int
  periodStart : Int
  periodEnd : Int
  totalBikes : Nat
  totalActiveBikeDays : Nat
  totalExemptBikeDays : Nat
  totalPaygSubtotalRwf : Int
  perBikeSummary : List BikeSummary
  dailyBreakdown : List PaygActiveDayRecord

/-- The identifiers of the fleet's bikes. -/
def bikeIds (fleetId : String) (bikes : List Bike) : List String :=
  (bikes.filter (·.fleetId = fleetId)).map (·.id)

/-- The totals over all days and bikes. -/
def auditTotals (rate : Int) (counts : BikeDay → Nat) (days : List Int) (bikes : List String) :
    AuditTotals :=
  days.foldl (fun totals dayStr =>
    bikes.foldl (fun totals bikeId => auditBikeDay rate counts totals dayStr bikeId) totals)
    .initial

/-- The audit of a fleet from the tables. -/
def getPaygAuditForFleet (fleet : Fleet) (tables : UsageTables) (start finish : Int) :
    PaygAuditSummary :=
  let ids := bikeIds fleet.id tables.bikes
  let counts := bikeDayMap (tripsInWindow fleet.id tables.trips start finish)
  let totals := auditTotals (paygRate fleet) counts (dayStrings start finish) ids
  { fleetId := fleet.id
    billingMode := fleet.billingMode
    paygRatePerActiveDay := paygRate fleet
    periodStart := start
    periodEnd := finish
    totalBikes := ids.length
    totalActiveBikeDays := totals.totalActiveBikeDays
    totalExemptBikeDays := totals.totalExemptBikeDays
    totalPaygSubtotalRwf := totals.totalPaygSubtotalRwf
    perBikeSummary := ids.map fun bikeId => ⟨bikeId, totals.perBikeStats bikeId⟩
    dailyBreakdown := totals.dailyBreakdown }

/-! The listed days are the first days of the window, 367 of them at most. -/

/-- Later instants have later days. -/
theorem toKigaliDate_mono {earlier later : Int} (ordered : earlier ≤ later) :
    toKigaliDate earlier ≤ toKigaliDate later := by
  apply Int.ediv_le_ediv
  · decide
  · omega

/-- A day later it is the next day. -/
theorem toKigaliDate_next (date : Int) : toKigaliDate (date + DAY_MS) = toKigaliDate date + 1 := by
  simp only [toKigaliDate, DAY_MS, KIGALI_OFFSET_MS]
  omega

/-- Consecutive days from a first one on. -/
def daysFrom (first : Int) (count : Nat) : List Int :=
  (List.range count).map fun index : Nat => first + index

/-- The days from a first one are those not before it and before its end. -/
theorem mem_daysFrom {first day : Int} {count : Nat} :
    day ∈ daysFrom first count ↔ first ≤ day ∧ day < first + count := by
  rw [daysFrom, List.mem_map]
  constructor
  · rintro ⟨index, bounded, rfl⟩
    have below := List.mem_range.mp bounded
    omega
  · rintro ⟨from_, below⟩
    refine ⟨(day - first).toNat, ?_, ?_⟩
    · apply List.mem_range.mpr
      omega
    · omega

/-- No day comes twice. -/
theorem daysFrom_nodup (first : Int) (count : Nat) : (daysFrom first count).Nodup := by
  apply List.Nodup.map
  · intro one other same
    have equal : first + (one : Int) = first + (other : Int) := same
    omega
  · exact List.nodup_range

/-- One more day comes at the end. -/
theorem daysFrom_succ (first : Int) (count : Nat) :
    daysFrom first (count + 1) = daysFrom first count ++ [first + count] := by
  simp [daysFrom, List.range_succ]

/-- By induction on the rounds left: the days found so far are those before the
current one, and the loop goes on to the last day or to the 367th. -/
theorem dayStringsFrom_eq (lastDay first : Int) (rounds count : Nat) (current : Int)
    (here : toKigaliDate current = first + count) (left : count + rounds = 367)
    (begun : count = 0 ∨ first + count ≤ lastDay + 1) :
    dayStringsFrom lastDay rounds current (daysFrom first count) =
      daysFrom first (min 367 (lastDay + 1 - first).toNat) := by
  induction rounds generalizing count current with
  | zero =>
    have full : min 367 (lastDay + 1 - first).toNat = count := by omega
    rw [dayStringsFrom, full]
  | succ rounds inductionHypothesis =>
    have new : first + (count : Int) ∉ daysFrom first count := by
      rw [mem_daysFrom]
      omega
    have length : (daysFrom first (count + 1)).length = count + 1 := by simp [daysFrom]
    rw [dayStringsFrom, here, List.contains_eq_mem, decide_eq_false new]
    simp only [Bool.false_eq_true, if_false, ← daysFrom_succ, length]
    split
    · split
      · have full : min 367 (lastDay + 1 - first).toNat = count + 1 := by omega
        rw [full]
      · apply inductionHypothesis
        · rw [toKigaliDate_next, here]
          push_cast
          omega
        · omega
        · omega
    · have full : min 367 (lastDay + 1 - first).toNat = count := by omega
      rw [full]

/-- The days of a period are those from its first to its last, 367 at most. -/
theorem dayStrings_eq (start finish : Int) :
    dayStrings start finish =
      daysFrom (toKigaliDate start)
        (min 367 (toKigaliDate finish + 1 - toKigaliDate start).toNat) :=
  dayStringsFrom_eq (toKigaliDate finish) (toKigaliDate start) 367 0 start (by simp) (by simp)
    (Or.inl rfl)

/-- A day is visited when it lies in the period and in its first 367 days. -/
theorem mem_dayStrings {start finish day : Int} :
    day ∈ dayStrings start finish ↔
      toKigaliDate start ≤ day ∧ day ≤ toKigaliDate finish ∧ day < toKigaliDate start + 367 := by
  rw [dayStrings_eq, mem_daysFrom]
  omega

/-- No day is visited twice. -/
theorem dayStrings_nodup (start finish : Int) : (dayStrings start finish).Nodup := by
  rw [dayStrings_eq]
  exact daysFrom_nodup _ _

/-- No bike is visited twice. -/
theorem bikeIds_nodup (fleetId : String) (tables : UsageTables) :
    (bikeIds fleetId tables.bikes).Nodup :=
  tables.bikeKey.sublist (List.filter_sublist.map _)

/-- The bikes visited are those of the fleet. -/
theorem mem_bikeIds {fleetId bikeId : String} {bikes : List Bike} :
    bikeId ∈ bikeIds fleetId bikes ↔ ∃ bike ∈ bikes, bike.fleetId = fleetId ∧ bike.id = bikeId := by
  simp [bikeIds, and_assoc]

/-! The counts and the totals. -/

/-- The map counts the trips of a bike's day. -/
theorem bikeDayMap_eq (trips : List Trip) (bikeDay : BikeDay) :
    bikeDayMap trips bikeDay = trips.countP (bikeDayOf · = bikeDay) := by
  suffices general : ∀ counts : BikeDay → Nat,
      trips.foldl (fun counts trip =>
        Function.update counts (bikeDayOf trip) (counts (bikeDayOf trip) + 1)) counts bikeDay =
      counts bikeDay + trips.countP (bikeDayOf · = bikeDay) by
    simpa [bikeDayMap] using general fun _ => 0
  induction trips with
  | nil => simp
  | cons trip trips inductionHypothesis =>
    intro counts
    rw [List.foldl_cons, inductionHypothesis, List.countP_cons]
    by_cases same : bikeDayOf trip = bikeDay
    · subst same
      simp
      omega
    · simp [same, Function.update_of_ne (Ne.symm same)]

/-- A bike's day is in the map when a trip started on it. -/
theorem one_le_bikeDayMap {trips : List Trip} {bikeDay : BikeDay} :
    1 ≤ bikeDayMap trips bikeDay ↔ ∃ trip ∈ trips, bikeDayOf trip = bikeDay := by
  rw [bikeDayMap_eq, Nat.one_le_iff_ne_zero, ← Nat.pos_iff_ne_zero, List.countP_pos_iff]
  simp

variable (rate : Int) (counts : BikeDay → Nat) (days : List Int) (bikes : List String)

/-- The pairs that the loops visit. -/
def visited (days : List Int) (bikes : List String) : List BikeDay := days.product bikes

/-- Whether a bike's day has a trip. -/
def isActiveDay (counts : BikeDay → Nat) (bikeDay : BikeDay) : Bool := decide (1 ≤ counts bikeDay)

/-- The row of the audit for a bike's day. -/
def recordOf (rate : Int) (counts : BikeDay → Nat) (bikeDay : BikeDay) : PaygActiveDayRecord :=
  ⟨bikeDay.1, bikeDay.2, counts bikeDay, isActiveDay counts bikeDay,
    if isActiveDay counts bikeDay then rate else 0⟩

/-- The totals are taken over the visited days in order. -/
theorem auditTotals_eq :
    auditTotals rate counts days bikes =
      (visited days bikes).foldl
        (fun totals bikeDay => auditBikeDay rate counts totals bikeDay.1 bikeDay.2) .initial :=
  foldl_foldl (auditBikeDay rate counts) days bikes .initial

/-- The active days are the visited ones with a trip. -/
theorem totalActiveBikeDays_eq :
    (auditTotals rate counts days bikes).totalActiveBikeDays =
      (visited days bikes).countP (isActiveDay counts) := by
  have follows := foldl_component AuditTotals.totalActiveBikeDays
    (fun totals (bikeDay : BikeDay) => auditBikeDay rate counts totals bikeDay.1 bikeDay.2)
    (fun total bikeDay => if isActiveDay counts bikeDay then total + 1 else total)
    (fun _ _ => rfl) (visited days bikes) .initial
  rw [auditTotals_eq, follows, foldl_counted]
  simp [AuditTotals.initial]

/-- The charge is the rate for each active day. -/
theorem totalPaygSubtotalRwf_eq :
    (auditTotals rate counts days bikes).totalPaygSubtotalRwf =
      (visited days bikes).countP (isActiveDay counts) * rate := by
  have follows := foldl_component AuditTotals.totalPaygSubtotalRwf
    (fun totals (bikeDay : BikeDay) => auditBikeDay rate counts totals bikeDay.1 bikeDay.2)
    (fun total bikeDay => if isActiveDay counts bikeDay then total + rate else total)
    (fun _ _ => rfl) (visited days bikes) .initial
  rw [auditTotals_eq, follows, foldl_charged]
  simp [AuditTotals.initial]

/-- The breakdown has one row for each visited day. -/
theorem dailyBreakdown_eq :
    (auditTotals rate counts days bikes).dailyBreakdown =
      (visited days bikes).map (recordOf rate counts) := by
  have follows := foldl_component AuditTotals.dailyBreakdown
    (fun totals (bikeDay : BikeDay) => auditBikeDay rate counts totals bikeDay.1 bikeDay.2)
    (fun records bikeDay => records ++ [recordOf rate counts bikeDay])
    (fun _ _ => rfl) (visited days bikes) .initial
  rw [auditTotals_eq, follows, foldl_recorded]
  simp [AuditTotals.initial]

end EmotoFleet.Billing
