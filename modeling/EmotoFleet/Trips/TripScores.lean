import EmotoFleet.Foundations.Rounding
import Mathlib.Analysis.Real.Sqrt

/-!
# Scores of trips

A finished trip gets a score out of a hundred. The rider sees a breakdown of it, computed
again by other code: one rounded penalty for each type of event and their rounded total. The
score is what the total leaves of a hundred, up to the rounding.

Both divide by the root of the distance. Nothing is needed of the root but that it is
positive.
-/

namespace EmotoFleet.TripScores

open EmotoFleet.Rounding

variable {K : Type*}

/-- One value for each type of event that counts. -/
structure ByType (α : Type*) where
  OVERSPEED : α
  SPEED_LIMIT_VIOLATION : α
  SCHOOL_ZONE_SPEED : α
  HOSPITAL_ZONE_SPEED : α
  MARKET_ZONE_SPEED : α
  HARSH_BRAKE : α
  HARSH_ACCEL : α
  HARSH_CORNER : α
  CRASH : α
  THEFT_SUSPECTED : α
deriving DecidableEq

/-- How often each kind of event happened. -/
abbrev TripEventCounts := ByType ℕ

/-- The weight of each kind of event. -/
structure TripScoreWeights (K : Type*) where
  overspeed : K
  speedLimitViolation : K
  schoolZoneSpeed : K
  hospitalZoneSpeed : K
  marketZoneSpeed : K
  harshBrake : K
  harshAccel : K
  harshCorner : K
  crash : K
  theftSuspected : K

namespace ByType

/-- The values one after another. -/
def list {α : Type*} (values : ByType α) : List α :=
  [values.OVERSPEED, values.SPEED_LIMIT_VIOLATION, values.SCHOOL_ZONE_SPEED,
    values.HOSPITAL_ZONE_SPEED, values.MARKET_ZONE_SPEED, values.HARSH_BRAKE, values.HARSH_ACCEL,
    values.HARSH_CORNER, values.CRASH, values.THEFT_SUSPECTED]

/-- A function applied to each value. -/
def map {α β : Type*} (f : α → β) (values : ByType α) : ByType β :=
  ⟨f values.OVERSPEED, f values.SPEED_LIMIT_VIOLATION, f values.SCHOOL_ZONE_SPEED,
    f values.HOSPITAL_ZONE_SPEED, f values.MARKET_ZONE_SPEED, f values.HARSH_BRAKE,
    f values.HARSH_ACCEL, f values.HARSH_CORNER, f values.CRASH, f values.THEFT_SUSPECTED⟩

/-- No type of event occurred more often. -/
structure AtMost (fewer more : TripEventCounts) : Prop where
  OVERSPEED : fewer.OVERSPEED ≤ more.OVERSPEED
  SPEED_LIMIT_VIOLATION : fewer.SPEED_LIMIT_VIOLATION ≤ more.SPEED_LIMIT_VIOLATION
  SCHOOL_ZONE_SPEED : fewer.SCHOOL_ZONE_SPEED ≤ more.SCHOOL_ZONE_SPEED
  HOSPITAL_ZONE_SPEED : fewer.HOSPITAL_ZONE_SPEED ≤ more.HOSPITAL_ZONE_SPEED
  MARKET_ZONE_SPEED : fewer.MARKET_ZONE_SPEED ≤ more.MARKET_ZONE_SPEED
  HARSH_BRAKE : fewer.HARSH_BRAKE ≤ more.HARSH_BRAKE
  HARSH_ACCEL : fewer.HARSH_ACCEL ≤ more.HARSH_ACCEL
  HARSH_CORNER : fewer.HARSH_CORNER ≤ more.HARSH_CORNER
  CRASH : fewer.CRASH ≤ more.CRASH
  THEFT_SUSPECTED : fewer.THEFT_SUSPECTED ≤ more.THEFT_SUSPECTED

end ByType

section Settings

variable [Field K] [LinearOrder K]

/-- No weight is negative. -/
structure TripScoreWeights.Nonnegative (weights : TripScoreWeights K) : Prop where
  overspeed : 0 ≤ weights.overspeed
  speedLimitViolation : 0 ≤ weights.speedLimitViolation
  schoolZoneSpeed : 0 ≤ weights.schoolZoneSpeed
  hospitalZoneSpeed : 0 ≤ weights.hospitalZoneSpeed
  marketZoneSpeed : 0 ≤ weights.marketZoneSpeed
  harshBrake : 0 ≤ weights.harshBrake
  harshAccel : 0 ≤ weights.harshAccel
  harshCorner : 0 ≤ weights.harshCorner
  crash : 0 ≤ weights.crash
  theftSuspected : 0 ≤ weights.theftSuspected

/-- The settings that the start of the application lets through, the same for both
services. -/
structure TripScoreSettings (K : Type*) [Field K] [LinearOrder K] where
  minDistanceKm : K
  penaltyMultiplier : K
  weights : TripScoreWeights K
  minDistanceKm_pos : 0 < minDistanceKm
  penaltyMultiplier_pos : 0 < penaltyMultiplier
  weights_nonneg : weights.Nonnegative

/-- The root by which penalties are divided. -/
structure Normaliser (K : Type*) [Field K] [LinearOrder K] where
  sqrt : K → K
  sqrt_pos : ∀ value, 0 < value → 0 < sqrt value

/-- The settings of an environment that names none. -/
def TripScoreSettings.defaults [IsStrictOrderedRing K] : TripScoreSettings K where
  minDistanceKm := 1
  penaltyMultiplier := 20
  weights := ⟨1.2, 1.1, 1.4, 1.2, 1.2, 1, 0.8, 0.8, 4, 3⟩
  minDistanceKm_pos := by norm_num
  penaltyMultiplier_pos := by norm_num
  weights_nonneg := by constructor <;> norm_num

end Settings

variable [Field K] [LinearOrder K]

/-! ## The score -/

/-- Behavioral penalties are divided by the root of the distance, critical ones are not. -/
def behavioralSum (counts : TripEventCounts) (weights : TripScoreWeights K) : K :=
  counts.OVERSPEED * weights.overspeed +
    counts.SPEED_LIMIT_VIOLATION * weights.speedLimitViolation +
    counts.SCHOOL_ZONE_SPEED * weights.schoolZoneSpeed +
    counts.HOSPITAL_ZONE_SPEED * weights.hospitalZoneSpeed +
    counts.MARKET_ZONE_SPEED * weights.marketZoneSpeed +
    counts.HARSH_BRAKE * weights.harshBrake +
    counts.HARSH_ACCEL * weights.harshAccel +
    counts.HARSH_CORNER * weights.harshCorner

/-- What crashes and suspected thefts cost. -/
def criticalPenalty (counts : TripEventCounts) (weights : TripScoreWeights K) : K :=
  counts.CRASH * weights.crash + counts.THEFT_SUSPECTED * weights.theftSuspected

/-- The score of a trip. -/
def computeTripScore (root : Normaliser K) (distanceKm : K) (counts : TripEventCounts)
    (weights : TripScoreWeights K) (penaltyMultiplier minDistanceKm : K) : K :=
  let rawDistance := max distanceKm minDistanceKm
  let normalizedDistanceKm := root.sqrt rawDistance
  let behavioralPenalty := behavioralSum counts weights / normalizedDistanceKm
  let score := 100 - (behavioralPenalty + criticalPenalty counts weights) * penaltyMultiplier
  clamp score 0 100

/-- The part of a hundred that is lost, before it is restricted. -/
def lost (root : Normaliser K) (settings : TripScoreSettings K) (distanceKm : K)
    (counts : TripEventCounts) : K :=
  (behavioralSum counts settings.weights / root.sqrt (max distanceKm settings.minDistanceKm) +
    criticalPenalty counts settings.weights) * settings.penaltyMultiplier

/-- The score is the final score of the settings. -/
theorem computeTripScore_eq (root : Normaliser K) (settings : TripScoreSettings K)
    (distanceKm : K) (counts : TripEventCounts) :
    computeTripScore root distanceKm counts settings.weights settings.penaltyMultiplier
      settings.minDistanceKm = clamp (100 - lost root settings distanceKm counts) 0 100 := rfl

/-- The distance that the events are related to is positive. -/
theorem normalizedDistanceKm_pos {root : Normaliser K} {settings : TripScoreSettings K}
    {distanceKm : K} :
    0 < root.sqrt (max distanceKm settings.minDistanceKm) :=
  root.sqrt_pos _ (lt_max_of_lt_right settings.minDistanceKm_pos)

section Monotone

variable [IsStrictOrderedRing K] {root : Normaliser K} {settings : TripScoreSettings K}
  {weights : TripScoreWeights K} {fewer more : TripEventCounts} {distanceKm : K}

/-- More events weigh at least as much. -/
theorem behavioralSum_mono (nonneg : weights.Nonnegative) (le : fewer.AtMost more) :
    behavioralSum fewer weights ≤ behavioralSum more weights := by
  have grows : ∀ {few many : ℕ} {weight : K}, few ≤ many → 0 ≤ weight →
      (few : K) * weight ≤ many * weight := fun le nonneg =>
    mul_le_mul_of_nonneg_right (Nat.cast_le.mpr le) nonneg
  have overspeed := grows le.OVERSPEED nonneg.overspeed
  have limit := grows le.SPEED_LIMIT_VIOLATION nonneg.speedLimitViolation
  have school := grows le.SCHOOL_ZONE_SPEED nonneg.schoolZoneSpeed
  have hospital := grows le.HOSPITAL_ZONE_SPEED nonneg.hospitalZoneSpeed
  have market := grows le.MARKET_ZONE_SPEED nonneg.marketZoneSpeed
  have brake := grows le.HARSH_BRAKE nonneg.harshBrake
  have accel := grows le.HARSH_ACCEL nonneg.harshAccel
  have corner := grows le.HARSH_CORNER nonneg.harshCorner
  unfold behavioralSum
  gcongr

/-- More crashes cost at least as much. -/
theorem criticalPenalty_mono (nonneg : weights.Nonnegative) (le : fewer.AtMost more) :
    criticalPenalty fewer weights ≤ criticalPenalty more weights := by
  have crash : (fewer.CRASH : K) * weights.crash ≤ more.CRASH * weights.crash :=
    mul_le_mul_of_nonneg_right (Nat.cast_le.mpr le.CRASH) nonneg.crash
  have theft : (fewer.THEFT_SUSPECTED : K) * weights.theftSuspected ≤
      more.THEFT_SUSPECTED * weights.theftSuspected :=
    mul_le_mul_of_nonneg_right (Nat.cast_le.mpr le.THEFT_SUSPECTED) nonneg.theftSuspected
  exact add_le_add crash theft

/-- More events lose at least as many points. -/
theorem lost_mono (le : fewer.AtMost more) :
    lost root settings distanceKm fewer ≤ lost root settings distanceKm more := by
  have root_pos : 0 < root.sqrt (max distanceKm settings.minDistanceKm) := normalizedDistanceKm_pos
  have behavioral := div_le_div_of_nonneg_right
    (behavioralSum_mono settings.weights_nonneg le) root_pos.le
  have critical := criticalPenalty_mono settings.weights_nonneg le
  exact mul_le_mul_of_nonneg_right (add_le_add behavioral critical)
    settings.penaltyMultiplier_pos.le

end Monotone

variable [FloorRing K]

/-- Rounding to a number of decimals. -/
def roundToDecimals (value : K) (decimals : ℕ) : K :=
  toGrid (10 ^ decimals) value

/-- The score that `finalizeTrip` writes. -/
def finalScore (root : Normaliser K) (settings : TripScoreSettings K) (distanceKm : K)
    (counts : TripEventCounts) : K :=
  roundToDecimals (computeTripScore root distanceKm counts settings.weights
    settings.penaltyMultiplier settings.minDistanceKm) 2

/-! ## The breakdown -/

/-- `Number(value.toFixed(digits))`: numbers from 10^21 on are printed as they are. -/
def toFixed (digits : ℕ) (value : K) : K :=
  if |value| < 10 ^ 21 then awayFromZero (10 ^ digits) value else value

/-- A penalty to two decimals. -/
def roundScorePenalty (value : K) : K :=
  toFixed 2 value

/-- The penalty of each kind of event, and their sum. -/
structure Penalties (K : Type*) extends ByType K where
  total : K

/-- A score with all that it was computed from. -/
structure ScoreBreakdown (K : Type*) where
  minDistanceKm : K
  normalizedDistanceKm : K
  penaltyMultiplier : K
  weights : TripScoreWeights K
  penalties : Penalties K

/-- Each kind's events times its weight. -/
def weightedBaseByType (counts : TripEventCounts) (weights : TripScoreWeights K) : ByType K where
  OVERSPEED := counts.OVERSPEED * weights.overspeed
  SPEED_LIMIT_VIOLATION := counts.SPEED_LIMIT_VIOLATION * weights.speedLimitViolation
  SCHOOL_ZONE_SPEED := counts.SCHOOL_ZONE_SPEED * weights.schoolZoneSpeed
  HOSPITAL_ZONE_SPEED := counts.HOSPITAL_ZONE_SPEED * weights.hospitalZoneSpeed
  MARKET_ZONE_SPEED := counts.MARKET_ZONE_SPEED * weights.marketZoneSpeed
  HARSH_BRAKE := counts.HARSH_BRAKE * weights.harshBrake
  HARSH_ACCEL := counts.HARSH_ACCEL * weights.harshAccel
  HARSH_CORNER := counts.HARSH_CORNER * weights.harshCorner
  CRASH := counts.CRASH * weights.crash
  THEFT_SUSPECTED := counts.THEFT_SUSPECTED * weights.theftSuspected

/-- The penalties before they are rounded. -/
def exactPenalties (base : ByType K) (normalizedDistanceKm penaltyMultiplier : K) : ByType K where
  OVERSPEED := base.OVERSPEED / normalizedDistanceKm * penaltyMultiplier
  SPEED_LIMIT_VIOLATION := base.SPEED_LIMIT_VIOLATION / normalizedDistanceKm * penaltyMultiplier
  SCHOOL_ZONE_SPEED := base.SCHOOL_ZONE_SPEED / normalizedDistanceKm * penaltyMultiplier
  HOSPITAL_ZONE_SPEED := base.HOSPITAL_ZONE_SPEED / normalizedDistanceKm * penaltyMultiplier
  MARKET_ZONE_SPEED := base.MARKET_ZONE_SPEED / normalizedDistanceKm * penaltyMultiplier
  HARSH_BRAKE := base.HARSH_BRAKE / normalizedDistanceKm * penaltyMultiplier
  HARSH_ACCEL := base.HARSH_ACCEL / normalizedDistanceKm * penaltyMultiplier
  HARSH_CORNER := base.HARSH_CORNER / normalizedDistanceKm * penaltyMultiplier
  CRASH := base.CRASH * penaltyMultiplier
  THEFT_SUSPECTED := base.THEFT_SUSPECTED * penaltyMultiplier

/-- The breakdown of a trip's score. -/
def computeTripScoreBreakdown (root : Normaliser K) (settings : TripScoreSettings K)
    (distanceKm : K) (counts : TripEventCounts) : ScoreBreakdown K :=
  let rawDistance := max distanceKm settings.minDistanceKm
  let normalizedDistanceKm := root.sqrt rawDistance
  let penalties := (exactPenalties (weightedBaseByType counts settings.weights)
    normalizedDistanceKm settings.penaltyMultiplier).map roundScorePenalty
  { minDistanceKm := settings.minDistanceKm
    normalizedDistanceKm := roundScorePenalty normalizedDistanceKm
    penaltyMultiplier := settings.penaltyMultiplier
    weights := settings.weights
    penalties := { penalties with total := roundScorePenalty penalties.list.sum } }

/-- What the breakdown leaves of a hundred. -/
def explainedScore (root : Normaliser K) (settings : TripScoreSettings K) (distanceKm : K)
    (counts : TripEventCounts) : K :=
  clamp (100 - (computeTripScoreBreakdown root settings distanceKm counts).penalties.total) 0 100

/-- The penalties before rounding make up what is lost. -/
theorem exactPenalties_sum (root : Normaliser K) (settings : TripScoreSettings K)
    (distanceKm : K) (counts : TripEventCounts) :
    (exactPenalties (weightedBaseByType counts settings.weights)
      (root.sqrt (max distanceKm settings.minDistanceKm)) settings.penaltyMultiplier).list.sum =
        lost root settings distanceKm counts := by
  simp only [ByType.list, exactPenalties, weightedBaseByType, lost, behavioralSum,
    criticalPenalty, List.sum_cons, List.sum_nil]
  ring

section Laws

variable [IsStrictOrderedRing K] {root : Normaliser K} {settings : TripScoreSettings K}
  {counts : TripEventCounts} {distanceKm : K}

/-- A rounded penalty is off by at most half a hundredth. -/
theorem abs_roundScorePenalty_sub_le (value : K) : |roundScorePenalty value - value| ≤ 1 / 200 := by
  unfold roundScorePenalty toFixed
  split
  · calc |awayFromZero (10 ^ 2) value - value| ≤ 1 / (2 * 10 ^ 2) :=
          abs_awayFromZero_sub_le (by positivity) value
      _ = 1 / 200 := by norm_num
  · simp

/-- Ten penalties and their total are rounded. -/
theorem abs_total_sub_le (root : Normaliser K) (settings : TripScoreSettings K) (distanceKm : K)
    (counts : TripEventCounts) :
    |(computeTripScoreBreakdown root settings distanceKm counts).penalties.total -
      lost root settings distanceKm counts| ≤ 11 / 200 := by
  set plain := exactPenalties (weightedBaseByType counts settings.weights)
    (root.sqrt (max distanceKm settings.minDistanceKm)) settings.penaltyMultiplier with named
  have parts := abs_sum_map_sub_le abs_roundScorePenalty_sub_le plain.list
  have whole := abs_roundScorePenalty_sub_le (plain.list.map roundScorePenalty).sum
  have ten : (plain.list.length : K) = 10 := by simp [ByType.list]
  rw [ten] at parts
  rw [← exactPenalties_sum, ← named]
  calc |roundScorePenalty (plain.list.map roundScorePenalty).sum - plain.list.sum|
      ≤ |roundScorePenalty (plain.list.map roundScorePenalty).sum -
          (plain.list.map roundScorePenalty).sum| +
        |(plain.list.map roundScorePenalty).sum - plain.list.sum| := abs_sub_le _ _ _
    _ ≤ 1 / 200 + 10 * (1 / 200) := add_le_add whole parts
    _ = 11 / 200 := by norm_num

/-- A score is off by at most its rounding. -/
theorem abs_score_sub_le (root : Normaliser K) (settings : TripScoreSettings K) (distanceKm : K)
    (counts : TripEventCounts) :
    |computeTripScore root distanceKm counts settings.weights settings.penaltyMultiplier
        settings.minDistanceKm - explainedScore root settings distanceKm counts| ≤ 11 / 200 := by
  set total := (computeTripScoreBreakdown root settings distanceKm counts).penalties.total with named
  have apart : 100 - lost root settings distanceKm counts - (100 - total) =
      total - lost root settings distanceKm counts := by ring
  calc |computeTripScore root distanceKm counts settings.weights settings.penaltyMultiplier
        settings.minDistanceKm - explainedScore root settings distanceKm counts|
      ≤ |100 - lost root settings distanceKm counts - (100 - total)| := abs_clamp_sub_le
    _ = |total - lost root settings distanceKm counts| := by rw [apart]
    _ ≤ 11 / 200 := abs_total_sub_le root settings distanceKm counts

/-- The rounding of the written score adds half a hundredth. -/
theorem abs_finalScore_sub_le (root : Normaliser K) (settings : TripScoreSettings K)
    (distanceKm : K) (counts : TripEventCounts) :
    |finalScore root settings distanceKm counts - explainedScore root settings distanceKm counts| ≤
      6 / 100 := by
  set score := computeTripScore root distanceKm counts settings.weights
    settings.penaltyMultiplier settings.minDistanceKm
  have written : |roundToDecimals score 2 - score| ≤ 1 / (2 * 10 ^ 2) :=
    abs_toGrid_sub_le (by positivity) score
  calc |roundToDecimals score 2 - explainedScore root settings distanceKm counts|
      ≤ |roundToDecimals score 2 - score| +
        |score - explainedScore root settings distanceKm counts| := abs_sub_le _ _ _
    _ ≤ 1 / (2 * 10 ^ 2) + 11 / 200 :=
        add_le_add written (abs_score_sub_le root settings distanceKm counts)
    _ = 6 / 100 := by norm_num

/-- A score lies between nothing and a hundred. -/
theorem finalScore_mem : 0 ≤ finalScore root settings distanceKm counts ∧
    finalScore root settings distanceKm counts ≤ 100 := by
  have score := computeTripScore_eq root settings distanceKm counts
  have ordered : (0 : K) ≤ 100 := by norm_num
  have least := (clamp_mem ordered).1.trans_eq score.symm
  have most := score.trans_le (clamp_mem ordered).2
  have hundredths : (0 : K) < 10 ^ 2 := by positivity
  have bottom : toGrid (10 ^ 2) (0 : K) = 0 := by
    simpa using toGrid_point hundredths 0
  have top : toGrid (10 ^ 2) (100 : K) = 100 := by
    have point : ((10000 : ℤ) : K) / 10 ^ 2 = 100 := by norm_num
    rw [← point, toGrid_point hundredths]
  constructor
  · calc (0 : K) = toGrid (10 ^ 2) 0 := bottom.symm
      _ ≤ finalScore root settings distanceKm counts := toGrid_mono hundredths least
  · calc finalScore root settings distanceKm counts ≤ toGrid (10 ^ 2) 100 :=
          toGrid_mono hundredths most
      _ = 100 := top

/-- What holds of the score of a trip, before and after it is rounded for the table. -/
structure Explained (root : Normaliser K) (settings : TripScoreSettings K) (distanceKm : K)
    (counts : TripEventCounts) : Prop where
  within : 0 ≤ computeTripScore root distanceKm counts settings.weights
      settings.penaltyMultiplier settings.minDistanceKm ∧
    computeTripScore root distanceKm counts settings.weights
      settings.penaltyMultiplier settings.minDistanceKm ≤ 100
  antitone : ∀ more, counts.AtMost more →
    computeTripScore root distanceKm more settings.weights
        settings.penaltyMultiplier settings.minDistanceKm ≤
      computeTripScore root distanceKm counts settings.weights
        settings.penaltyMultiplier settings.minDistanceKm
  close : |computeTripScore root distanceKm counts settings.weights
      settings.penaltyMultiplier settings.minDistanceKm -
    explainedScore root settings distanceKm counts| ≤ 6 / 100
  written_within : 0 ≤ finalScore root settings distanceKm counts ∧
    finalScore root settings distanceKm counts ≤ 100
  written_antitone : ∀ more, counts.AtMost more →
    finalScore root settings distanceKm more ≤ finalScore root settings distanceKm counts
  written_close : |finalScore root settings distanceKm counts -
    explainedScore root settings distanceKm counts| ≤ 6 / 100

/-- A score is what the breakdown leaves of a hundred, within the rounding of both. -/
theorem tripScore_explained (root : Normaliser K) (settings : TripScoreSettings K)
    (distanceKm : K) (counts : TripEventCounts) :
    Explained root settings distanceKm counts where
  within := clamp_mem (by norm_num)
  antitone := fun _ le => clamp_mono (sub_le_sub_left (lost_mono le) _)
  close := (abs_score_sub_le root settings distanceKm counts).trans (by norm_num)
  written_within := finalScore_mem
  written_antitone := fun _ le =>
    toGrid_mono (by positivity) (clamp_mono (sub_le_sub_left (lost_mono le) _))
  written_close := abs_finalScore_sub_le root settings distanceKm counts

end Laws

/-- The square root of the reals. -/
noncomputable def squareRoot : Normaliser ℝ := ⟨Real.sqrt, fun _ => Real.sqrt_pos.mpr⟩

/-- One event of overspeed. -/
def onceTooFast : TripEventCounts := ⟨1, 0, 0, 0, 0, 0, 0, 0, 0, 0⟩

/-- A trip of four kilometres with one event scores 88, and its breakdown explains it. -/
theorem fourKilometres_explained :
    computeTripScore squareRoot 4 onceTooFast TripScoreSettings.defaults.weights 20 1 = 88 ∧
      Explained squareRoot TripScoreSettings.defaults 4 onceTooFast := by
  refine ⟨?_, tripScore_explained squareRoot TripScoreSettings.defaults 4 onceTooFast⟩
  have two : Real.sqrt 4 = 2 := by
    rw [Real.sqrt_eq_iff_mul_self_eq_of_pos] <;> norm_num
  norm_num [computeTripScore, squareRoot, onceTooFast, behavioralSum, criticalPenalty,
    TripScoreSettings.defaults, clamp, two]

end EmotoFleet.TripScores
