import EmotoFleet.Foundations.Doubles
import EmotoFleet.Foundations.Expiring
import Mathlib.Algebra.Order.Floor.Ring
import Mathlib.Data.Rat.Floor

/-!
# The cached live state of a bike

Each bike's most recent position is cached under one key with an hour to live.
The cache is read by the drift filter, which every telemetry packet passes
before anything else looks at it, and is written with the filter's result.

Coordinates and speeds are the decimals that a packet carries; what is computed
from them is computed in double precision. The great-circle distance is a
parameter: the filter compares it with fifteen metres and nothing proved here
depends on its value. An entry that `parseState` would reject reads as absent,
so it is represented by an absent cell. The gateway broadcast and the battery
swap detector run after the write and do not change the cache.
-/

namespace EmotoFleet.LiveState

open Doubles (toDouble)
open Expiring

/-- A packet's timestamp: its text, which the cache compares, together with the
instant that `Date.parse` reads from that text. -/
structure Timestamp where
  text : String
  epochMs : Int
deriving DecidableEq

/-- The collation order of the characters of an ISO date text. Punctuation comes
before digits and digits before letters. -/
def collationRank (letter : Char) : Nat :=
  if letter = '-' then 0
  else if letter = ':' then 1
  else if letter = '.' then 2
  else if letter = '+' then 3
  else 4 + letter.toNat

/-- `localeCompare` on date texts, which is lexicographic in the collation order. -/
def localeCompare (left right : String) : Ordering :=
  compareOfLessAndEq (left.toList.map collationRank) (right.toList.map collationRank)

/-- A cached live state. Fields the source does not set are absent. -/
structure LiveBikeState where
  fleetId : String
  bikeId : String
  deviceId : String
  deviceUid : String
  ts : Timestamp
  lat : ℚ
  lng : ℚ
  speedKph : ℚ
  heading : Option ℚ
  batteryV : Option ℚ
  batteryPct : Option ℚ
  ignition : Option Bool
deriving DecidableEq

def LIVE_STATE_TTL_SECONDS : Int := 60 * 60

/-- The part of a packet that the drift filter reads. -/
structure Incoming where
  lat : ℚ
  lng : ℚ
  speedKph : ℚ
  ignition : Option Bool

/-- The position and speed that replace those of the packet. -/
structure Filtered where
  lat : ℚ
  lng : ℚ
  speedKph : ℚ
deriving DecidableEq

/-- Six decimal places, rounding halves towards positive infinity, in double precision. -/
def roundCoordinate (coordinate : ℚ) : ℚ :=
  toDouble ((⌊toDouble (toDouble coordinate * 1000000) + 1 / 2⌋ : ℚ) / 1000000)

/-- A zero coordinate is falsy, so a cached state on the equator or on the prime
meridian is treated as no position at all. -/
def hasPosition (cached : LiveBikeState) : Bool := cached.lat != 0 && cached.lng != 0

/-- The cached state whose position the filter may substitute: present, not
lapsed, and with two nonzero coordinates. -/
def cachedFix (cell : Cell LiveBikeState) (now : Int) : Option LiveBikeState :=
  (read cell now).filter hasPosition

/-- Speeds under two kilometres an hour count as standing still. -/
def clampNoise (speedKph : ℚ) : ℚ := if speedKph < 2 then 0 else speedKph

/-- The filter of the source. With a cached position, a packet whose ignition is
off takes that position and the speed zero; a packet standing still within
fifteen metres takes the position only. -/
def filterStationaryDrift (calculateHaversineDistanceMeters : ℚ → ℚ → ℚ → ℚ → ℚ)
    (cell : Cell LiveBikeState) (now : Int) (bikeId : Option String) (incoming : Incoming) :
    Filtered :=
  let lat := roundCoordinate incoming.lat
  let lng := roundCoordinate incoming.lng
  let speedKph := clampNoise incoming.speedKph
  match bikeId, cachedFix cell now with
  | some _, some cached =>
    let distMeters := calculateHaversineDistanceMeters cached.lat cached.lng lat lng
    if incoming.ignition = some false then ⟨cached.lat, cached.lng, 0⟩
    else if speedKph = 0 ∧ distMeters < 15 then ⟨cached.lat, cached.lng, speedKph⟩
    else ⟨lat, lng, speedKph⟩
  | _, _ => ⟨lat, lng, speedKph⟩

/-- The cache after a new state. A state older than the cached one is discarded. -/
def setLatestBikeState (cell : Cell LiveBikeState) (now : Int) (state : LiveBikeState) :
    Cell LiveBikeState :=
  match read cell now with
  | some existing =>
    if localeCompare existing.ts.text state.ts.text = .gt then cell
    else write state now (LIVE_STATE_TTL_SECONDS * 1000)
  | none => write state now (LIVE_STATE_TTL_SECONDS * 1000)

variable (distance : ℚ → ℚ → ℚ → ℚ → ℚ)

/-- Without a cached position the filter only rounds and clamps. -/
theorem filter_without_fix (cell : Cell LiveBikeState) (now : Int) (bikeId : Option String)
    (incoming : Incoming) (unfixed : cachedFix cell now = none) :
    filterStationaryDrift distance cell now bikeId incoming =
      ⟨roundCoordinate incoming.lat, roundCoordinate incoming.lng, clampNoise incoming.speedKph⟩ := by
  cases bikeId <;> simp [filterStationaryDrift, unfixed]

/-- With a cached position, a packet of an assigned bike whose ignition is off
loses its speed, however fast it was. -/
theorem filter_parked (cell : Cell LiveBikeState) (now : Int) (bikeId : String)
    (incoming : Incoming) (cached : LiveBikeState) (fixed : cachedFix cell now = some cached)
    (off : incoming.ignition = some false) :
    filterStationaryDrift distance cell now (some bikeId) incoming =
      ⟨cached.lat, cached.lng, 0⟩ := by
  simp [filterStationaryDrift, fixed, off]

/-- A write leaves either the old cell or the new state with a full hour. -/
theorem setLatestBikeState_cases (cell : Cell LiveBikeState) (now : Int) (state : LiveBikeState) :
    (∃ existing, read cell now = some existing ∧
        localeCompare existing.ts.text state.ts.text = .gt ∧
        setLatestBikeState cell now state = cell) ∨
      setLatestBikeState cell now state = write state now (LIVE_STATE_TTL_SECONDS * 1000) := by
  unfold setLatestBikeState
  cases found : read cell now with
  | none => exact Or.inr rfl
  | some existing =>
    by_cases older : localeCompare existing.ts.text state.ts.text = .gt
    · exact Or.inl ⟨existing, rfl, older, by simp [older]⟩
    · exact Or.inr (by simp [older])

end EmotoFleet.LiveState
