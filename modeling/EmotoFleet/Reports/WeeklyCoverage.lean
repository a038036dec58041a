import EmotoFleet.Access.InsurerFeeds
import EmotoFleet.Foundations.Means
import EmotoFleet.Foundations.Rounding

/-!
# What the weekly report covers

The report steps through its range from the time of day at which the range starts, and
assigns each trip to a date. The last date is therefore left out where the range ends
earlier in the day than it starts. Averages are weighted by distance. Without a distance
those of the fleet and of a day fall back on the mean of the scores, those of a bike and of
a rider on the full score.

A date has a year of four digits, and a day of the server lasts twenty-four hours.
-/

namespace EmotoFleet.Reports

open Access (Id Trip millisPerDay toFixed mathRound)
open Access.Insurers
open Means (Between weightedMean mean)

/-! ## The dates of a range -/

/-- The UTC day of an instant. -/
def utcDay (instant : Int) : Int := instant / millisPerDay

/-- The milliseconds since the day began. -/
def timeOfDay (instant : Int) : Int := instant % millisPerDay

/-- A day has milliseconds. -/
theorem millisPerDay_pos : 0 < millisPerDay := by decide

/-- An instant is its day and the time of the day. -/
theorem day_and_time (instant : Int) :
    millisPerDay * utcDay instant + timeOfDay instant = instant :=
  Int.mul_ediv_add_emod instant millisPerDay

/-- The time of the day lies in a day. -/
theorem timeOfDay_bounds (instant : Int) :
    0 ≤ timeOfDay instant ∧ timeOfDay instant < millisPerDay :=
  ⟨Int.emod_nonneg _ millisPerDay_pos.ne', Int.emod_lt_of_pos _ millisPerDay_pos⟩

/-- A number of days later is that many days on. -/
theorem utcDay_add_days (instant days : Int) :
    utcDay (instant + days * millisPerDay) = utcDay instant + days :=
  Int.add_mul_ediv_right _ _ millisPerDay_pos.ne'

/-- Later instants have later days. -/
theorem utcDay_mono {earlier later : Int} (le : earlier ≤ later) : utcDay earlier ≤ utcDay later :=
  Int.ediv_le_ediv millisPerDay_pos le

/-- The instants at which the report looks for the next date. -/
def scanDates (scanDate finish : Int) : List Int :=
  if scanDate ≤ finish then scanDate :: scanDates (scanDate + millisPerDay) finish else []
termination_by (finish + 1 - scanDate).toNat
decreasing_by
  have day := millisPerDay_pos
  omega

/-- The dates from the first to the last of a range, in order. -/
def datesOf (range : Int × Int) : List Int :=
  if range.2 < range.1 then []
  else (List.range ((utcDay range.2 - utcDay range.1).toNat + 1)).map fun offset : Nat =>
    utcDay range.1 + offset

/-- How many dates the report looks for. -/
def scanned (range : Int × Int) : Nat :=
  if range.2 < range.1 then 0 else ((range.2 - range.1) / millisPerDay).toNat + 1

/-- The scan takes one date and goes on a day later. -/
theorem scanned_step {start finish : Int} (room : start ≤ finish) :
    scanned (start, finish) = scanned (start + millisPerDay, finish) + 1 := by
  have shifted : (finish - (start + millisPerDay)) / millisPerDay =
      (finish - start) / millisPerDay - 1 := by
    rw [show finish - (start + millisPerDay) = finish - start + (-1) * millisPerDay by ring,
      Int.add_mul_ediv_right _ _ millisPerDay_pos.ne']
    ring
  unfold scanned
  rw [if_neg (not_lt.mpr room)]
  by_cases last : finish < start + millisPerDay
  · rw [if_pos last, Int.ediv_eq_zero_of_lt (by omega) (by omega)]
    rfl
  · have whole : 0 ≤ (finish - (start + millisPerDay)) / millisPerDay :=
      Int.ediv_nonneg (by omega) millisPerDay_pos.le
    rw [if_neg last]
    simp only
    omega

/-- The scanned dates are the start and whole days after it. -/
theorem scanDates_eq (start finish : Int) :
    scanDates start finish = (List.range (scanned (start, finish))).map fun offset =>
      start + (offset : Nat) * millisPerDay := by
  fun_induction scanDates start finish with
  | case1 start room ih =>
    rw [ih, scanned_step room, List.range_succ_eq_map, List.map_cons, List.map_map]
    refine congrArg₂ _ (by simp) (List.map_congr_left ?_)
    intro offset _
    simp only [Function.comp_apply, Nat.cast_succ]
    ring
  | case2 start passed =>
    rw [scanned, if_pos (lt_of_not_ge passed)]
    rfl

/-- Each date that is looked for comes a day after the one before. -/
theorem scanDates_days (range : Int × Int) :
    (scanDates range.1 range.2).map utcDay = (List.range (scanned range)).map fun offset =>
      utcDay range.1 + (offset : Nat) := by
  rw [scanDates_eq, List.map_map]
  apply List.map_congr_left
  intro offset _
  exact utcDay_add_days range.1 offset

/-- No day is scanned twice. -/
theorem scanDates_days_nodup (range : Int × Int) :
    ((scanDates range.1 range.2).map utcDay).Nodup := by
  rw [scanDates_days]
  refine List.Nodup.map ?_ List.nodup_range
  intro one other same
  simpa using same

/-- The range ends no earlier in the day than it starts. -/
def EndsLaterInTheDay (range : Int × Int) : Prop :=
  timeOfDay range.1 ≤ timeOfDay range.2

/-- The whole days between two instants, by their days and their times of the day. -/
theorem days_between (range : Int × Int) :
    (range.2 - range.1) / millisPerDay = utcDay range.2 - utcDay range.1 +
      (timeOfDay range.2 - timeOfDay range.1) / millisPerDay := by
  have first := day_and_time range.1
  have last := day_and_time range.2
  have split : range.2 - range.1 = timeOfDay range.2 - timeOfDay range.1 +
      (utcDay range.2 - utcDay range.1) * millisPerDay := by
    calc range.2 - range.1
        = (millisPerDay * utcDay range.2 + timeOfDay range.2) -
            (millisPerDay * utcDay range.1 + timeOfDay range.1) := by rw [first, last]
      _ = _ := by ring
  rw [split, Int.add_mul_ediv_right _ _ millisPerDay_pos.ne', add_comm]

/-- The last date is missed just where the range ends earlier in the day. -/
theorem scanned_eq_iff {range : Int × Int} (ordered : range.1 ≤ range.2) :
    scanned range = (utcDay range.2 - utcDay range.1).toNat + 1 ↔ EndsLaterInTheDay range := by
  have first := timeOfDay_bounds range.1
  have last := timeOfDay_bounds range.2
  have later := utcDay_mono ordered
  unfold scanned EndsLaterInTheDay
  rw [if_neg (not_lt.mpr ordered)]
  have between := days_between range
  rcases le_or_gt (timeOfDay range.1) (timeOfDay range.2) with le | lt
  · have none : (timeOfDay range.2 - timeOfDay range.1) / millisPerDay = 0 :=
      Int.ediv_eq_zero_of_lt (by omega) (by omega)
    rw [none, add_zero] at between
    rw [between]
    exact iff_of_true rfl le
  · have short : (timeOfDay range.2 - timeOfDay range.1) / millisPerDay = -1 := by
      rw [Int.ediv_eq_iff_of_pos millisPerDay_pos]
      omega
    have whole : 0 ≤ (range.2 - range.1) / millisPerDay :=
      Int.ediv_nonneg (by omega) millisPerDay_pos.le
    rw [short] at between
    refine iff_of_false ?_ (not_le.mpr lt)
    omega

/-- The scan has one date for each day exactly when the range ends later in the day than it begins.
-/
theorem length_datesOf_eq_iff (range : Int × Int) :
    scanned range = (datesOf range).length ↔
      (range.1 ≤ range.2 → EndsLaterInTheDay range) := by
  rcases lt_or_ge range.2 range.1 with empty | ordered
  · refine iff_of_true ?_ (fun ordered => absurd empty (not_lt.mpr ordered))
    rw [scanned, datesOf, if_pos empty, if_pos empty]
    rfl
  · rw [datesOf, if_neg (not_lt.mpr ordered), List.length_map, List.length_range,
      scanned_eq_iff ordered]
    exact ⟨fun later _ => later, fun later => later ordered⟩

/-- The dates start alike, so that only their number can differ. -/
theorem scanDates_days_eq_iff_length (range : Int × Int) :
    (scanDates range.1 range.2).map utcDay = datesOf range ↔
      scanned range = (datesOf range).length := by
  rw [scanDates_days]
  constructor
  · intro same
    simpa using congrArg List.length same
  · intro lengths
    rw [lengths]
    unfold datesOf
    split
    · rfl
    · rw [List.length_map, List.length_range]

/-- A date of the range is looked for as soon as all of them are. -/
theorem utcDay_mem_datesOf {range : Int × Int} {instant : Int}
    (inside : range.1 ≤ instant ∧ instant ≤ range.2) : utcDay instant ∈ datesOf range := by
  have fromFirst := utcDay_mono inside.1
  have toLast := utcDay_mono inside.2
  rw [datesOf, if_neg (not_lt.mpr (inside.1.trans inside.2))]
  refine List.mem_map.mpr ⟨(utcDay instant - utcDay range.1).toNat, ?_, ?_⟩
  · rw [List.mem_range]
    omega
  · omega

/-! ## The scores -/

/-- The trips that start on a day. -/
def tripsOn (day : Int) (trips : List Trip) : List Trip :=
  trips.filter fun trip => decide (utcDay trip.startTs = day)

/-- The trips of a bike. -/
def tripsOfBike (bikeId : Id) (trips : List Trip) : List Trip :=
  trips.filter fun trip => decide (trip.bikeId = bikeId)

/-- The trips of a rider. -/
def tripsOfRider (riderId : Id) (trips : List Trip) : List Trip :=
  trips.filter fun trip => decide (trip.riderId = some riderId)

/-- The score that trips give a fleet. -/
def fleetScore (trips : List Trip) : ℚ :=
  toFixed 2 (if trips = [] then 100 else weightedScore trips)

/-- The score that trips give a day. -/
def dayScore (trips : List Trip) : ℚ :=
  if trips = [] then 100 else toFixed 2 (weightedScore trips)

/-- The score of a bike or of a rider. -/
def groupScore (trips : List Trip) : ℚ :=
  toFixed 2 (averageOf trips)

/-- The daily scores are one for each scanned date. -/
theorem dailyScores_eq (range : Int × Int) (trips : List Trip) :
    dailyScores range trips = (scanDates range.1 range.2).map fun scanDate =>
      (monthAndDay (utcDay scanDate), dayScore (tripsOn (utcDay scanDate) trips)) := by
  rw [scanDates_eq, List.map_map, dailyScores]
  simp only [List.pure_def, List.bind_eq_flatMap, ← List.map_eq_flatMap, List.map_map]
  rfl

/-- The averages that a report is made of. -/
structure Shows (report : WeeklyReport) (trips : List Trip) : Prop where
  fleet : report.avgScore = fleetScore trips
  days : report.dailyScores = (scanDates report.range.1 report.range.2).map fun scanDate =>
    (monthAndDay (utcDay scanDate), dayScore (tripsOn (utcDay scanDate) trips))
  bikes : ∀ bike ∈ report.topRiskyBikes,
    bike.tripCount = (tripsOfBike bike.bikeId trips).length ∧
      bike.avgScore = groupScore (tripsOfBike bike.bikeId trips)
  riders : ∀ rider ∈ report.topRiskyRiders,
    rider.tripCount = (tripsOfRider rider.riderId trips).length ∧
      rider.avgScore = groupScore (tripsOfRider rider.riderId trips)

/-- A risky bike is shown with the number and the score of its trips. -/
theorem risky_bike_score {trips : List Trip} {events : List Access.Event}
    {bikeLabels : List (Id × String)} {bike : WeeklyRiskBike}
    (shown : bike ∈ buildTopRiskyBikes trips events bikeLabels) :
    bike.tripCount = (tripsOfBike bike.bikeId trips).length ∧
      bike.avgScore = groupScore (tripsOfBike bike.bikeId trips) := by
  obtain ⟨⟨risk, ranked⟩, taken, rfl⟩ := List.mem_map.mp shown
  obtain ⟨bikeId, _, made⟩ := List.mem_map.mp (List.mem_mergeSort.mp (List.mem_of_mem_take taken))
  obtain ⟨-, rfl⟩ := Prod.mk.inj made
  exact ⟨rfl, rfl⟩

/-- A risky rider is shown with the number and the score of the trips. -/
theorem risky_rider_score {trips : List Trip} {riderNames : List (Id × String)}
    {rider : WeeklyRiskRider} (shown : rider ∈ buildTopRiskyRiders trips riderNames) :
    rider.tripCount = (tripsOfRider rider.riderId trips).length ∧
      rider.avgScore = groupScore (tripsOfRider rider.riderId trips) := by
  obtain ⟨riderId, _, rfl⟩ := List.mem_map.mp (List.mem_mergeSort.mp (List.mem_of_mem_take shown))
  exact ⟨rfl, rfl⟩

/-! ## Averages between the scores -/

/-- A trip as the trip builder stores it: the column of the score has two decimals, and a
distance is a sum of lengths. -/
structure Recorded (trip : Trip) : Prop where
  decimals : ∃ hundredths : Int, trip.score = hundredths / 100
  distance : 0 ≤ trip.distanceKm

/-- Two decimals are the nearest hundredth, halves away from zero. -/
theorem toFixed_eq (value : ℚ) : toFixed 2 value = Rounding.awayFromZero 100 value := by
  have hundred : (10 : ℚ) ^ 2 = 100 := by norm_num
  rw [toFixed, hundred]
  rfl

/-- Rounding keeps the order. -/
theorem toFixed_mono : Monotone (toFixed 2) := by
  intro value other le
  rw [toFixed_eq, toFixed_eq]
  exact Rounding.awayFromZero_mono (by norm_num) le

/-- A number of hundredths is left as it is. -/
theorem toFixed_decimals (hundredths : Int) : toFixed 2 (hundredths / 100) = hundredths / 100 := by
  rw [toFixed_eq]
  exact Rounding.awayFromZero_point (by norm_num) hundredths

/-- A full score is left as it is. -/
theorem toFixed_full : toFixed 2 100 = 100 := by
  have full := toFixed_decimals 10000
  norm_num at full
  exact full

section Groups

variable {group : List Trip} (recorded : ∀ trip ∈ group, Recorded trip)

include recorded

/-- Rounding keeps a value between the scores of the trips, which have two decimals. -/
theorem round_between {value : ℚ} (between : Between Trip.score group value) :
    Between Trip.score group (toFixed 2 value) := by
  refine between.round toFixed_mono fun trip mem => ?_
  obtain ⟨hundredths, score⟩ := (recorded trip mem).decimals
  rw [score, toFixed_decimals]

/-- The distance of trips is not negative. -/
theorem totalDistance_nonneg : 0 ≤ totalDistance group := by
  apply List.sum_nonneg
  intro distance mem
  obtain ⟨trip, stored, rfl⟩ := List.mem_map.mp mem
  exact (recorded trip stored).distance

/-- A weighted score lies between the scores of the trips. -/
theorem weighted_between (driven : 0 < totalDistance group) :
    Between Trip.score group (weightedScoreSum group / totalDistance group) :=
  Means.weightedMean_between (fun trip mem => (recorded trip mem).distance) driven

/-- The fleet and a day fall back on the mean. -/
theorem weightedScore_between (inhabited : group ≠ []) :
    Between Trip.score group (toFixed 2 (weightedScore group)) := by
  apply round_between recorded
  by_cases driven : 0 < totalDistance group
  · have weighted : weightedScore group = weightedScoreSum group / totalDistance group :=
      if_pos driven
    rw [weighted]
    exact weighted_between recorded driven
  · have unweighted : weightedScore group = mean Trip.score group := if_neg driven
    rw [unweighted]
    exact Means.mean_between inhabited

/-- A bike and a rider fall back on the full score, which need not be near their scores. -/
theorem groupScore_between_iff :
    Between Trip.score group (groupScore group) ↔
      (totalDistance group = 0 → Between Trip.score group 100) := by
  unfold groupScore averageOf
  rcases (totalDistance_nonneg recorded).eq_or_lt with none | driven
  · rw [if_neg none.not_lt, toFixed_full]
    exact ⟨fun between _ => between, fun between => between none.symm⟩
  · rw [if_pos driven]
    refine iff_of_true (round_between recorded (weighted_between recorded driven)) ?_
    intro none
    exact absurd none driven.ne'

end Groups

/-! ## The law of the report -/

/-- The entries are the dates of the range, each trip is counted in one of them, and each
average lies between two scores of the trips that it covers. -/
structure CoversOnce (report : WeeklyReport) (trips : List Trip) : Prop where
  dates : report.dailyScores.map Prod.fst = (datesOf report.range).map monthAndDay
  once : ∀ trip ∈ trips, (scanDates report.range.1 report.range.2).countP
    (fun scanDate => decide (trip ∈ tripsOn (utcDay scanDate) trips)) = 1
  fleet : trips ≠ [] → Between Trip.score trips report.avgScore
  days : ∀ entry ∈ (scanDates report.range.1 report.range.2).zip report.dailyScores,
    tripsOn (utcDay entry.1) trips ≠ [] →
      Between Trip.score (tripsOn (utcDay entry.1) trips) entry.2.2
  bikes : ∀ bikeId, tripsOfBike bikeId trips ≠ [] →
    Between Trip.score (tripsOfBike bikeId trips) (groupScore (tripsOfBike bikeId trips))
  riders : ∀ riderId, tripsOfRider riderId trips ≠ [] →
    Between Trip.score (tripsOfRider riderId trips) (groupScore (tripsOfRider riderId trips))

/-- Trips without a distance are given the full score, which must be between theirs. -/
def FallsBackFairly (group : List Trip) : Prop :=
  group ≠ [] → totalDistance group = 0 → Between Trip.score group 100

/-- The fallback is not taken where all trips have a distance. -/
theorem fallsBackFairly_of_driven {group : List Trip}
    (driven : ∀ trip ∈ group, 0 < trip.distanceKm) : FallsBackFairly group := by
  intro inhabited none
  have positive : 0 < totalDistance group := by
    apply List.sum_pos
    · intro distance mem
      obtain ⟨trip, stored, rfl⟩ := List.mem_map.mp mem
      exact driven trip stored
    · simpa using inhabited
  exact absurd none positive.ne'

/-- A trip on a scanned day is counted on exactly one of them. -/
theorem counted_once {range : Int × Int} {trips : List Trip} {trip : Trip} (mem : trip ∈ trips)
    (covered : utcDay trip.startTs ∈ (scanDates range.1 range.2).map utcDay) :
    (scanDates range.1 range.2).countP
      (fun scanDate => decide (trip ∈ tripsOn (utcDay scanDate) trips)) = 1 := by
  have counted : (scanDates range.1 range.2).countP
      (fun scanDate => decide (trip ∈ tripsOn (utcDay scanDate) trips)) =
      ((scanDates range.1 range.2).map utcDay).count (utcDay trip.startTs) := by
    rw [List.count, List.countP_map]
    apply List.countP_congr
    intro scanDate _
    simp only [tripsOn, List.mem_filter, mem, true_and, decide_eq_true_eq, Function.comp_apply,
      beq_iff_eq]
    exact eq_comm
  rw [counted]
  exact List.count_eq_one_of_mem (scanDates_days_nodup range) covered

section Reports

variable {report : WeeklyReport} {trips : List Trip}

/-- The report has the dates of its range exactly when the range ends later in the day than it
begins. -/
theorem Shows.dates_iff (shows : Shows report trips) :
    report.dailyScores.map Prod.fst = (datesOf report.range).map monthAndDay ↔
      (report.range.1 ≤ report.range.2 → EndsLaterInTheDay report.range) := by
  have labels : report.dailyScores.map Prod.fst =
      ((scanDates report.range.1 report.range.2).map utcDay).map monthAndDay := by
    rw [shows.days, List.map_map, List.map_map]
    rfl
  rw [← length_datesOf_eq_iff, labels]
  constructor
  · -- Dates of two years may share a label, so it is the number of labels that tells.
    intro same
    simpa [scanDates_days] using congrArg List.length same
  · intro lengths
    rw [(scanDates_days_eq_iff_length report.range).mpr lengths]

/-- Each day is shown with the score of its trips. -/
theorem Shows.day_score (shows : Shows report trips) {entry : Int × String × ℚ}
    (listed : entry ∈ (scanDates report.range.1 report.range.2).zip report.dailyScores) :
    entry.2.2 = dayScore (tripsOn (utcDay entry.1) trips) := by
  rw [shows.days] at listed
  obtain ⟨index, inside, rfl⟩ := List.mem_iff_getElem.mp listed
  rw [List.getElem_zip, List.getElem_map]

/-- Every trip is counted on one day of the report exactly when the range ends later in the day than
it begins. -/
theorem Shows.coversOnce_iff (shows : Shows report trips)
    (recorded : ∀ trip ∈ trips, Recorded trip)
    (inside : ∀ trip ∈ trips,
      report.range.1 ≤ trip.startTs ∧ trip.startTs ≤ report.range.2) :
    CoversOnce report trips ↔
      (report.range.1 ≤ report.range.2 → EndsLaterInTheDay report.range) ∧
        (∀ bikeId, FallsBackFairly (tripsOfBike bikeId trips)) ∧
        ∀ riderId, FallsBackFairly (tripsOfRider riderId trips) := by
  have kept : ∀ keeps : Trip → Bool, ∀ trip ∈ trips.filter keeps, Recorded trip :=
    fun keeps trip mem => recorded trip (List.mem_of_mem_filter mem)
  constructor
  · intro covers
    refine ⟨shows.dates_iff.mp covers.dates, ?_, ?_⟩
    · intro bikeId inhabited
      exact (groupScore_between_iff (kept _)).mp (covers.bikes bikeId inhabited)
    · intro riderId inhabited
      exact (groupScore_between_iff (kept _)).mp (covers.riders riderId inhabited)
  · rintro ⟨later, bikes, riders⟩
    have scanned := (scanDates_days_eq_iff_length report.range).mpr
      ((length_datesOf_eq_iff report.range).mpr later)
    exact
      { dates := shows.dates_iff.mpr later
        once := fun trip mem => counted_once mem (scanned ▸ utcDay_mem_datesOf (inside trip mem))
        fleet := by
          intro inhabited
          rw [shows.fleet, fleetScore, if_neg inhabited]
          exact weightedScore_between recorded inhabited
        days := by
          intro entry listed inhabited
          rw [shows.day_score listed, dayScore, if_neg inhabited]
          exact weightedScore_between (kept _) inhabited
        bikes := fun bikeId inhabited =>
          (groupScore_between_iff (kept _)).mpr (bikes bikeId inhabited)
        riders := fun riderId inhabited =>
          (groupScore_between_iff (kept _)).mpr (riders riderId inhabited) }

end Reports

variable {db : Access.Database} {user : AuthenticatedUser} {now : Int} {query : ReportQueryDto}
  {report : WeeklyReport}

/-- A report that is made shows the trips of its range. -/
theorem report_shows (made : getWeeklyReport db user now query = some report) :
    Shows report (reportTrips db user report.range) := by
  obtain ⟨range, _, rfl⟩ := Option.map_eq_some_iff.mp made
  exact
    { fleet := rfl
      days := dailyScores_eq _ _
      bikes := fun _ shown => risky_bike_score shown
      riders := fun _ shown => risky_rider_score shown }

/-- The report keeps its law just where the range ends no earlier in the day than it starts,
and no bike or rider without a distance scored below the full score throughout. -/
theorem weekly_report_covers_iff (recorded : ∀ trip ∈ db.trips, Recorded trip)
    (made : getWeeklyReport db user now query = some report) :
    Shows report (reportTrips db user report.range) ∧
      (CoversOnce report (reportTrips db user report.range) ↔
        (report.range.1 ≤ report.range.2 → EndsLaterInTheDay report.range) ∧
          (∀ bikeId, FallsBackFairly (tripsOfBike bikeId (reportTrips db user report.range))) ∧
          ∀ riderId, FallsBackFairly
            (tripsOfRider riderId (reportTrips db user report.range))) := by
  refine ⟨report_shows made, (report_shows made).coversOnce_iff ?_ ?_⟩
  · intro trip mem
    exact recorded trip (List.mem_of_mem_filter mem)
  · intro trip mem
    have selected := (Bool.and_eq_true_iff.mp (List.mem_filter.mp mem).2).1
    simpa [Access.within] using selected

/-! ## A range that ends in the morning -/

/-- A trip of ten kilometres. -/
def drivenAt (startTs : Int) : Trip where
  id := "t1"
  fleetId := "f1"
  bikeId := "b1"
  riderId := some "r1"
  startTs := startTs
  endTs := none
  distanceKm := 10
  durationSec := 1200
  score := 90
  startBatteryPct := none
  endBatteryPct := none

/-- A database with one trip. -/
def oneTrip (startTs : Int) : Access.Database where
  users := []
  fleets := fun _ => none
  bikes := []
  assignments := []
  trips := [drivenAt startTs]
  events := []
  incidents := []
  commands := []
  accesses := []
  evidencePacks := fun _ => none
  userKeys := List.nodup_nil
  bikeKeys := List.nodup_nil
  incidentKeys := List.nodup_nil
  accessKeys := Access.Database.noAccess_key

/-- The trip is one that was recorded. -/
theorem oneTrip_recorded (startTs : Int) : ∀ trip ∈ (oneTrip startTs).trips, Recorded trip := by
  intro trip mem
  rw [List.mem_singleton.mp mem]
  exact ⟨⟨9000, by norm_num [drivenAt]⟩, by norm_num [drivenAt]⟩

/-- The owner of the fleet. -/
def owner : AuthenticatedUser := ⟨"u1", "f1", .ENTERPRISE, .OWNER, none⟩

/-- From noon of one day to the morning of the day after the next. -/
def noonToMorning : ReportQueryDto :=
  ⟨some (.instant (some 43200000)), some (.instant (some 194400000))⟩

/-- A range that ends later in the day than it begins. -/
def noonToEvening : ReportQueryDto :=
  ⟨some (.instant (some 43200000)), some (.instant (some 237600000))⟩

/-- A trip of the last morning is counted in no entry. -/
theorem last_morning_missed : ∃ report,
    getWeeklyReport (oneTrip 183600000) owner 194400000 noonToMorning = some report ∧
      (∀ trip ∈ (oneTrip 183600000).trips, Recorded trip) ∧
      ¬ CoversOnce report (reportTrips (oneTrip 183600000) owner report.range) := by
  refine ⟨_, rfl, oneTrip_recorded _, fun covers => ?_⟩
  have counted := covers.once (drivenAt 183600000) (by decide)
  rw [scanDates_eq] at counted
  revert counted
  decide

/-- The trip has a distance. -/
theorem oneTrip_driven {startTs : Int} {range : Int × Int} {keeps : Trip → Bool} :
    ∀ trip ∈ (reportTrips (oneTrip startTs) owner range).filter keeps, 0 < trip.distanceKm := by
  intro trip mem
  have stored := List.mem_of_mem_filter (List.mem_of_mem_filter mem)
  rw [List.mem_singleton.mp stored]
  norm_num [drivenAt]

/-- The same trip is counted where the range ends in the evening. -/
theorem last_evening_covered : ∃ report,
    getWeeklyReport (oneTrip 183600000) owner 237600000 noonToEvening = some report ∧
      CoversOnce report (reportTrips (oneTrip 183600000) owner report.range) := by
  refine ⟨_, rfl, ?_⟩
  refine (@weekly_report_covers_iff _ _ 237600000 noonToEvening _ (oneTrip_recorded _)
    rfl).2.mpr ⟨fun _ => ?_, ?_, ?_⟩
  · exact (by decide : timeOfDay 43200000 ≤ timeOfDay 237600000)
  · exact fun bikeId => fallsBackFairly_of_driven oneTrip_driven
  · exact fun riderId => fallsBackFairly_of_driven oneTrip_driven

end EmotoFleet.Reports
