import EmotoFleet.Foundations.CivilDates
import EmotoFleet.Foundations.FixedWidth
import EmotoFleet.Telemetry.LiveState
import Mathlib.Data.List.Lex

/-!
# The date texts that the message schema admits

The schema takes the extended form of ISO 8601: seconds are optional, a fraction
of any length may follow them, and the zone is `Z` or an offset from it. One
instant therefore has many spellings. The server itself writes a single one,
with three fractional digits and `Z`, and texts in that spelling are ordered as
their instants are.
-/

namespace EmotoFleet.LiveState

open CivilDates FixedWidth

/-- The zone at the end of a date text. -/
inductive Zone where
  | utc
  | offset (ahead : Bool) (hours : Fin 24) (minutes : Fin 60)
deriving DecidableEq

/-- The letter of a digit. -/
def digitChar (digit : Nat) : Char := Char.ofNat ('0'.toNat + digit)

/-- How a zone is written. -/
def Zone.letters : Zone → List Char
  | .utc => ['Z']
  | .offset ahead hours minutes =>
    (if ahead then '+' else '-') ::
      (digits digitChar 2 hours ++ (':' :: digits digitChar 2 minutes))

/-- How far a zone is ahead of UTC. -/
def Zone.minutesAhead : Zone → Int
  | .utc => 0
  | .offset true hours minutes => hours * 60 + minutes
  | .offset false hours minutes => -(hours * 60 + minutes)

/-- A date text that `z.string().datetime({ offset: true })` accepts, taken apart.
Seconds may be absent; an empty fraction is not written. -/
structure IsoDateTime where
  date : CivilDate
  year_lt : date.year < 10000
  hour : Fin 24
  minute : Fin 60
  second : Option (Fin 60 × List (Fin 10))
  zone : Zone
deriving DecidableEq

namespace IsoDateTime

/-- How seconds and their fraction are written. -/
def secondLetters : Option (Fin 60 × List (Fin 10)) → List Char
  | none => []
  | some (second, []) => ':' :: digits digitChar 2 second
  | some (second, fraction) =>
    ':' :: (digits digitChar 2 second ++ ('.' :: fraction.map fun digit => digitChar digit))

/-- How a timestamp is written. -/
def letters (iso : IsoDateTime) : List Char :=
  digits digitChar 4 iso.date.year ++ ['-'] ++ digits digitChar 2 iso.date.month ++ ['-'] ++
    digits digitChar 2 iso.date.day ++ ['T'] ++ digits digitChar 2 iso.hour ++ [':'] ++
    digits digitChar 2 iso.minute ++ secondLetters iso.second ++ Zone.letters iso.zone

/-- `Date.parse` reads three fractional digits and ignores the rest. -/
def fractionMs : List (Fin 10) → Nat
  | [] => 0
  | [tenths] => 100 * tenths
  | [tenths, hundredths] => 100 * tenths + 10 * hundredths
  | tenths :: hundredths :: thousandths :: _ => 100 * tenths + 10 * hundredths + thousandths

/-- The second, zero where none is written. -/
def wholeSecond (iso : IsoDateTime) : Nat := iso.second.elim 0 fun second => second.1

/-- The milliseconds of a timestamp. -/
def millisecond (iso : IsoDateTime) : Nat := iso.second.elim 0 fun second => fractionMs second.2

/-- The milliseconds of the local day that have passed. -/
def dayMs (iso : IsoDateTime) : Nat :=
  iso.hour * 3600000 + iso.minute * 60000 + iso.wholeSecond * 1000 + iso.millisecond

/-- The instant that the text denotes, in milliseconds since 1970. -/
def epochMs (iso : IsoDateTime) : Int :=
  ((iso.date.dayNumber : Int) - daysBeforeYear 1970) * 86400000 + iso.dayMs -
    iso.zone.minutesAhead * 60000

/-- The text of a timestamp and its instant. -/
def timestamp (iso : IsoDateTime) : Timestamp := ⟨String.ofList iso.letters, iso.epochMs⟩

/-- The spelling of `toISOString`: three fractional digits and `Z`. -/
def Canonical (iso : IsoDateTime) : Prop :=
  iso.zone = .utc ∧ ∃ second tenths hundredths thousandths,
    iso.second = some (second, [tenths, hundredths, thousandths])

/-- The spelling of an instant. Years that do not have four digits are not written here. -/
def toISOString (epochMs : Int) : Option IsoDateTime :=
  let day := epochMs / 86400000 + daysBeforeYear 1970
  let time := (epochMs % 86400000).toNat
  let date := CivilDate.ofDayNumber day.toNat
  if year_lt : date.year < 10000 then
    if day < 0 then none
    else some
      { date, year_lt
        hour := .ofNat 24 (time / 3600000)
        minute := .ofNat 60 (time / 60000)
        second := some (.ofNat 60 (time / 1000),
          [.ofNat 10 (time / 100), .ofNat 10 (time / 10), .ofNat 10 time])
        zone := .utc }
  else none

/-- The numbers of a date text, from the year to the millisecond. -/
def numbers (iso : IsoDateTime) : List Nat :=
  [iso.date.year, iso.date.month, iso.date.day, iso.hour, iso.minute, iso.wholeSecond,
    iso.millisecond]

/-- The collation ranks of the separators of `toISOString`, with the widths of the
fields before them. -/
def canonicalLayout : List (Nat × List Nat) :=
  [(4, '-'), (2, '-'), (2, 'T'), (2, ':'), (2, ':'), (2, '.'), (3, 'Z')].map
    fun field => (field.1, [collationRank field.2])

/-- The rank of a digit among letters. -/
def digitRank (digit : Nat) : Nat := collationRank (digitChar digit)

/-- Digits rank by their values. -/
theorem digitRank_lt_iff : ∀ left < 10, ∀ right < 10,
    (digitRank left < digitRank right ↔ left < right) := by
  decide

/-- A fraction is less than a second. -/
theorem fractionMs_lt (fraction : List (Fin 10)) : fractionMs fraction < 1000 := by
  unfold fractionMs
  split <;> omega

/-- The seconds are less than a minute. -/
theorem wholeSecond_lt (iso : IsoDateTime) : iso.wholeSecond < 60 := by
  unfold wholeSecond
  cases iso.second with
  | none => simp
  | some second => exact second.1.isLt

/-- The milliseconds are less than a second. -/
theorem millisecond_lt (iso : IsoDateTime) : iso.millisecond < 1000 := by
  unfold millisecond
  cases iso.second with
  | none => simp
  | some second => exact fractionMs_lt second.2

/-- The time of the day is less than a day. -/
theorem dayMs_lt (iso : IsoDateTime) : iso.dayMs < 86400000 := by
  have second := iso.wholeSecond_lt
  have millisecond := iso.millisecond_lt
  unfold dayMs
  omega

/-- Hours, minutes, seconds and the three digits of the fraction add up to the time of day. -/
theorem clock_sum {time : Nat} (within : time < 86400000) :
    time / 3600000 % 24 * 3600000 + time / 60000 % 60 * 60000 + time / 1000 % 60 * 1000 +
      (100 * (time / 100 % 10) + 10 * (time / 10 % 10) + time % 10) = time := by
  have fraction : 100 * (time / 100 % 10) + 10 * (time / 10 % 10) + time % 10 = time % 1000 := by
    omega
  have second : time % (1000 * 60) = time % 1000 + 1000 * (time / 1000 % 60) := Nat.mod_mul
  have minute : time % (60000 * 60) = time % 60000 + 60000 * (time / 60000 % 60) := Nat.mod_mul
  have hour : time % (3600000 * 24) = time % 3600000 + 3600000 * (time / 3600000 % 24) :=
    Nat.mod_mul
  have whole : time % 86400000 = time := Nat.mod_eq_of_lt within
  rw [fraction]
  norm_num only at second minute hour
  linarith only [second, minute, hour, whole]

/-- What is written is in the server's spelling and denotes the instant. -/
theorem toISOString_spec {ms : Int} {iso : IsoDateTime} (written : toISOString ms = some iso) :
    iso.Canonical ∧ iso.epochMs = ms := by
  simp only [toISOString] at written
  split at written
  · split at written
    · cases written
    · obtain rfl := Option.some.inj written
      refine ⟨⟨rfl, _, _, _, _, rfl⟩, ?_⟩
      simp only [epochMs, dayMs, wholeSecond, millisecond, Option.elim, fractionMs,
        CivilDate.dayNumber_ofDayNumber, Zone.minutesAhead, Fin.val_ofNat]
      rw [clock_sum (by omega)]
      omega
  · cases written

/-- The time of day gives back its hours, minutes, seconds and digits of the fraction. -/
theorem clock_fields {hour minute second tenths hundredths thousandths time : Nat}
    (minute_lt : minute < 60) (second_lt : second < 60) (tenths_lt : tenths < 10)
    (hundredths_lt : hundredths < 10) (thousandths_lt : thousandths < 10)
    (sum : time = hour * 3600000 + minute * 60000 + second * 1000 +
      (100 * tenths + 10 * hundredths + thousandths)) :
    time / 3600000 = hour ∧ time / 60000 % 60 = minute ∧ time / 1000 % 60 = second ∧
      time / 100 % 10 = tenths ∧ time / 10 % 10 = hundredths ∧ time % 10 = thousandths := by
  subst sum
  refine ⟨?_, ?_, ?_, ?_, ?_, ?_⟩ <;> omega

/-- The server spells an instant as the text in its spelling that denotes it. -/
theorem toISOString_epochMs {iso : IsoDateTime} (canonical : iso.Canonical) :
    toISOString iso.epochMs = some iso := by
  obtain ⟨utc, second, tenths, hundredths, thousandths, written⟩ := canonical
  have dayMs_lt := iso.dayMs_lt
  have sum : iso.dayMs = iso.hour * 3600000 + iso.minute * 60000 + second * 1000 +
      (100 * tenths + 10 * hundredths + thousandths) := by
    simp only [dayMs, wholeSecond, millisecond, written, Option.elim, fractionMs]
  have epochMs : iso.epochMs =
      ((iso.date.dayNumber : Int) - daysBeforeYear 1970) * 86400000 + iso.dayMs := by
    simp only [IsoDateTime.epochMs, utc, Zone.minutesAhead]
    omega
  have day : iso.epochMs / 86400000 + daysBeforeYear 1970 = iso.date.dayNumber := by omega
  have time : (iso.epochMs % 86400000).toNat = iso.dayMs := by omega
  obtain ⟨hours, minutes, seconds, first, middle, last⟩ := clock_fields iso.minute.isLt second.isLt
    tenths.isLt hundredths.isLt thousandths.isLt sum
  have hour_eq : Fin.ofNat 24 (iso.dayMs / 3600000) = iso.hour := by
    rw [hours]
    exact Fin.ofNat_val_eq_self _
  have minute_eq : Fin.ofNat 60 (iso.dayMs / 60000) = iso.minute := Fin.ext minutes
  have second_eq : Fin.ofNat 60 (iso.dayMs / 1000) = second := Fin.ext seconds
  have tenths_eq : Fin.ofNat 10 (iso.dayMs / 100) = tenths := Fin.ext first
  have hundredths_eq : Fin.ofNat 10 (iso.dayMs / 10) = hundredths := Fin.ext middle
  have thousandths_eq : Fin.ofNat 10 iso.dayMs = thousandths := Fin.ext last
  have present : ¬ (iso.date.dayNumber : Int) < 0 := by omega
  simp only [toISOString, day, time, Int.toNat_natCast, CivilDate.ofDayNumber_dayNumber,
    dif_pos iso.year_lt, if_neg present, hour_eq, minute_eq, second_eq, tenths_eq, hundredths_eq,
    thousandths_eq, ← written, ← utc]

/-- The numbers of a timestamp fit their fields. -/
theorem numbers_fit (iso : IsoDateTime) : Fits canonicalLayout iso.numbers := by
  have year := iso.year_lt
  have month := iso.date.month_le
  have day := iso.date.day_lt
  have second := iso.wholeSecond_lt
  have millisecond := iso.millisecond_lt
  simp only [Fits, canonicalLayout, numbers, List.map_cons, List.map_nil, List.forall₂_cons,
    List.Forall₂.nil, and_true]
  omega

/-- The three digits of a fraction are the digits of its number. -/
theorem digits_fractionMs (tenths hundredths thousandths : Fin 10) :
    digits digitRank 3 (fractionMs [tenths, hundredths, thousandths]) =
      [digitRank tenths, digitRank hundredths, digitRank thousandths] := by
  have first : (100 * (tenths : Nat) + 10 * hundredths + thousandths) / 10 / 10 % 10 = tenths := by
    omega
  have second : (100 * (tenths : Nat) + 10 * hundredths + thousandths) / 10 % 10 = hundredths := by
    omega
  have third : (100 * (tenths : Nat) + 10 * hundredths + thousandths) % 10 = thousandths := by
    omega
  simp [digits, fractionMs, first, second, third]

/-- A text in the server's spelling is the rendering of its numbers. -/
theorem letters_of_canonical {iso : IsoDateTime} (canonical : iso.Canonical) :
    iso.letters.map collationRank = render digitRank canonicalLayout iso.numbers := by
  obtain ⟨utc, second, tenths, hundredths, thousandths, written⟩ := canonical
  simp only [letters, utc, written, numbers, canonicalLayout, Zone.letters, secondLetters,
    wholeSecond, millisecond, Option.elim, List.map_append, List.map_cons, List.map_nil, map_digits, render,
    List.append_assoc, List.cons_append, List.nil_append, List.append_nil, digits_fractionMs]
  rfl

/-- Smaller numbers, field by field, denote an earlier instant when both texts end in
`Z`. -/
theorem epochMs_lt {earlier later : IsoDateTime} (earlierUtc : earlier.zone = .utc)
    (laterUtc : later.zone = .utc) (smaller : earlier.numbers < later.numbers) :
    earlier.epochMs < later.epochMs := by
  have earlierDay := earlier.dayMs_lt
  have order : earlier.date.Precedes later.date ∨
      earlier.date.dayNumber = later.date.dayNumber ∧ earlier.dayMs < later.dayMs := by
    simp only [numbers, List.cons_lt_cons_iff, List.lt_irrefl, and_false, or_false] at smaller
    rcases smaller with year | ⟨sameYear, month | ⟨sameMonth, day | ⟨sameDay, time⟩⟩⟩
    · exact Or.inl (Or.inl year)
    · exact Or.inl (Or.inr ⟨sameYear, Or.inl month⟩)
    · exact Or.inl (Or.inr ⟨sameYear, Or.inr ⟨sameMonth, day⟩⟩)
    · have second := earlier.wholeSecond_lt
      have millisecond := earlier.millisecond_lt
      refine Or.inr ⟨by rw [CivilDate.dayNumber, CivilDate.dayNumber, sameYear, sameMonth, sameDay], ?_⟩
      unfold dayMs
      omega
  simp only [epochMs, earlierUtc, laterUtc, Zone.minutesAhead]
  rcases order with precedes | ⟨sameDay, time⟩
  · have dayBefore := CivilDate.dayNumber_lt precedes
    omega
  · omega

/-- Texts with the same numbers denote the same instant when both end in `Z`. -/
theorem epochMs_eq {left right : IsoDateTime} (leftUtc : left.zone = .utc)
    (rightUtc : right.zone = .utc) (same : left.numbers = right.numbers) :
    left.epochMs = right.epochMs := by
  simp only [numbers, List.cons.injEq, and_true] at same
  obtain ⟨year, month, day, hour, minute, second, millisecond⟩ := same
  simp only [epochMs, dayMs, CivilDate.dayNumber, leftUtc, rightUtc, year, month, day, hour, minute,
    second, millisecond]

/-- One text comes after another when its ranks do. -/
theorem localeCompare_gt_iff (left right : String) :
    localeCompare left right = .gt ↔
      right.toList.map collationRank < left.toList.map collationRank := by
  rw [localeCompare, compareOfLessAndEq]
  rcases lt_trichotomy (left.toList.map collationRank) (right.toList.map collationRank) with
    before | same | after
  · simp [before, before.asymm]
  · simp [same]
  · simp [after, after.asymm, after.ne']

/-- In the server's spelling the order of the texts is the order of the instants. -/
theorem localeCompare_canonical {left right : IsoDateTime} (leftCanonical : left.Canonical)
    (rightCanonical : right.Canonical) :
    localeCompare left.timestamp.text right.timestamp.text = .gt ↔
      right.epochMs < left.epochMs := by
  rw [localeCompare_gt_iff, timestamp, timestamp, String.toList_ofList, String.toList_ofList,
    letters_of_canonical leftCanonical, letters_of_canonical rightCanonical,
    render_lt_iff digitRank_lt_iff right.numbers_fit left.numbers_fit]
  constructor
  · exact epochMs_lt rightCanonical.1 leftCanonical.1
  · intro earlier
    rcases lt_trichotomy right.numbers left.numbers with before | same | after
    · exact before
    · exact absurd (epochMs_eq rightCanonical.1 leftCanonical.1 same) (Int.ne_of_lt earlier)
    · exact absurd (epochMs_lt leftCanonical.1 rightCanonical.1 after)
        (Int.not_lt.mpr (Int.le_of_lt earlier))

end IsoDateTime

end EmotoFleet.LiveState
