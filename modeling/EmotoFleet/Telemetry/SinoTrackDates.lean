import EmotoFleet.Telemetry.SinoTrack

/-!
# The dates of SinoTrack packets

A packet carries its date as `ddmmyy` and its time as `hhmmss`. What the adapter makes of
them is the instant that shows these digits, whenever there is one. Where there is none,
the numbers at the beginning of each pair are taken all the same, and they carry over into
another date; only texts of other lengths and pairs without any number are refused.
-/

namespace EmotoFleet.SinoTrack

open CivilDates FixedWidth LiveState
open LiveState.IsoDateTime (toISOString)

variable {dateStr timeStr : Letters} {instant : Int}

/-- A number in two digits. -/
def twoDigits (number : Nat) : Letters := digits digitChar 2 number

/-- The texts are the digits of the instant in UTC, from the day to the year and from the
hour to the second. -/
def Shows (instant : Int) (dateStr timeStr : Letters) : Prop :=
  ∃ iso, toISOString instant = some iso ∧ iso.millisecond = 0 ∧
    2000 ≤ iso.date.year ∧ iso.date.year < 2100 ∧
    dateStr = twoDigits iso.date.day ++ twoDigits iso.date.month ++
      twoDigits (iso.date.year - 2000) ∧
    timeStr = twoDigits iso.hour ++ twoDigits iso.minute ++ twoDigits iso.wholeSecond

/-- The texts are the digits of a date in this century and of a time that exist. -/
def ExistingDateTime (dateStr timeStr : Letters) : Prop :=
  ∃ (date : CivilDate) (hour : Fin 24) (minute second : Fin 60),
    2000 ≤ date.year ∧ date.year < 2100 ∧
    dateStr = twoDigits date.day ++ twoDigits date.month ++ twoDigits (date.year - 2000) ∧
    timeStr = twoDigits hour ++ twoDigits minute ++ twoDigits second

/-- What is read is the instant that the texts show, and what is accepted are the texts that
denote a date and a time. -/
structure ReadsDates (dateStr timeStr : Letters) : Prop where
  shown : ∀ instant, parseDateTime dateStr timeStr = .ok instant → Shows instant dateStr timeStr
  accepted : (∃ instant, parseDateTime dateStr timeStr = .ok instant) ↔ ExistingDateTime dateStr timeStr

/-- The number at the beginning of a pair. -/
def pairNumber (text : Letters) (start : Nat) : Option Int := parseInt 10 ((text.drop start).take 2)

/-- Both texts have six letters, and every pair begins with a number. -/
structure Numeric (dateStr timeStr : Letters) : Prop where
  date : dateStr.length = 6
  time : timeStr.length = 6
  pairs : ∀ start ∈ [0, 2, 4], (pairNumber dateStr start).isSome = true ∧
    (pairNumber timeStr start).isSome = true

theorem parseInt_twoDigits : ∀ number < 100, parseInt 10 (twoDigits number) = some (number : Int) := by
  decide +kernel

theorem length_twoDigits (number : Nat) : (twoDigits number).length = 2 := length_digits _ _ _

/-- Three numbers in two digits each are read back. -/
theorem pairNumber_three {first second third : Nat} (firstFits : first < 100)
    (secondFits : second < 100) (thirdFits : third < 100) :
    let text := twoDigits first ++ twoDigits second ++ twoDigits third
    pairNumber text 0 = some (first : Int) ∧ pairNumber text 2 = some (second : Int) ∧
      pairNumber text 4 = some (third : Int) := by
  intro text
  refine ⟨?_, ?_, ?_⟩
  · have taken : (text.drop 0).take 2 = twoDigits first := rfl
    rw [pairNumber, taken, parseInt_twoDigits first firstFits]
  · have taken : (text.drop 2).take 2 = twoDigits second := rfl
    rw [pairNumber, taken, parseInt_twoDigits second secondFits]
  · have taken : (text.drop 4).take 2 = twoDigits third := rfl
    rw [pairNumber, taken, parseInt_twoDigits third thirdFits]

/-- The parser, with its pairs by name. -/
theorem parseDateTime_numeric {dd mm yy hh min ss : Int} (date : dateStr.length = 6)
    (time : timeStr.length = 6) (day : pairNumber dateStr 0 = some dd)
    (month : pairNumber dateStr 2 = some mm) (year : pairNumber dateStr 4 = some yy)
    (hour : pairNumber timeStr 0 = some hh) (minute : pairNumber timeStr 2 = some min)
    (second : pairNumber timeStr 4 = some ss) :
    parseDateTime dateStr timeStr = .ok (dateUTC (2000 + yy) (mm - 1) dd hh min ss) := by
  rw [pairNumber] at day month year hour minute second
  have whole : ¬ (dateStr.length ≠ 6 ∨ timeStr.length ≠ 6) := by omega
  simp only [parseDateTime, if_neg whole, day, month, year, hour, minute, second]
  rfl

/-- Numeric texts are the ones that are read. -/
theorem numeric_iff_read (dateStr timeStr : Letters) :
    Numeric dateStr timeStr ↔ ∃ instant, parseDateTime dateStr timeStr = .ok instant := by
  constructor
  case mp =>
    rintro ⟨date, time, pairs⟩
    obtain ⟨dd, day⟩ := Option.isSome_iff_exists.mp (pairs 0 (by decide)).1
    obtain ⟨mm, month⟩ := Option.isSome_iff_exists.mp (pairs 2 (by decide)).1
    obtain ⟨yy, year⟩ := Option.isSome_iff_exists.mp (pairs 4 (by decide)).1
    obtain ⟨hh, hour⟩ := Option.isSome_iff_exists.mp (pairs 0 (by decide)).2
    obtain ⟨min, minute⟩ := Option.isSome_iff_exists.mp (pairs 2 (by decide)).2
    obtain ⟨ss, second⟩ := Option.isSome_iff_exists.mp (pairs 4 (by decide)).2
    exact ⟨_, parseDateTime_numeric date time day month year hour minute second⟩
  case mpr =>
    rintro ⟨instant, read⟩
    by_cases whole : dateStr.length ≠ 6 ∨ timeStr.length ≠ 6
    case pos =>
      have refused : parseDateTime dateStr timeStr = .error (.malformedDateTime dateStr timeStr) := by
        simp only [parseDateTime, if_pos whole]
        rfl
      rw [refused] at read
      cases read
    case neg =>
      refine ⟨by omega, by omega, ?_⟩
      simp only [parseDateTime, if_neg whole, bind, Except.bind, pure, Except.pure] at read
      split at read
      case h_1 day month year hour minute second =>
        intro start member
        simp only [List.mem_cons, List.not_mem_nil, or_false] at member
        rcases member with rfl | rfl | rfl
        · exact ⟨Option.isSome_of_eq_some day, Option.isSome_of_eq_some hour⟩
        · exact ⟨Option.isSome_of_eq_some month, Option.isSome_of_eq_some minute⟩
        · exact ⟨Option.isSome_of_eq_some year, Option.isSome_of_eq_some second⟩
      case h_2 => cases read

/-- The fields of an existing date do not carry over. -/
theorem dateUTC_existing (iso : IsoDateTime) (utc : iso.zone = .utc) (wholeSeconds : iso.millisecond = 0) :
    dateUTC iso.date.year ((iso.date.month : Int) - 1) iso.date.day iso.hour iso.minute
      iso.wholeSecond = iso.epochMs := by
  have named : 0 < iso.date.month := by
    rw [Nat.pos_iff_ne_zero]
    intro unnamed
    have le := iso.date.day_le
    rw [unnamed] at le
    have none : iso.date.day ≤ 0 := le
    exact absurd iso.date.day_pos (not_lt.mpr none)
  have month_le := iso.date.month_le
  have sameYear : ((iso.date.year : Int) + ((iso.date.month : Int) - 1) / 12).toNat =
      iso.date.year := by omega
  have sameMonth : (((iso.date.month : Int) - 1) % 12).toNat + 1 = iso.date.month := by omega
  have pos := iso.date.day_pos
  rw [dateUTC, sameYear, sameMonth, IsoDateTime.epochMs, CivilDate.dayNumber, IsoDateTime.dayMs, utc,
    wholeSeconds]
  dsimp only [Zone.minutesAhead]
  omega

/-- Texts that show an instant are read as it. -/
theorem read_of_shows (shows : Shows instant dateStr timeStr) :
    parseDateTime dateStr timeStr = .ok instant := by
  obtain ⟨iso, written, wholeSeconds, early, late, rfl, rfl⟩ := shows
  obtain ⟨canonical, same⟩ := IsoDateTime.toISOString_spec written
  have day := iso.date.day_lt
  have month := iso.date.month_le
  have second := iso.wholeSecond_lt
  obtain ⟨dd, mm, yy⟩ := pairNumber_three (by omega : iso.date.day < 100)
    (by omega : iso.date.month < 100) (by omega : iso.date.year - 2000 < 100)
  obtain ⟨hh, min, ss⟩ := pairNumber_three (by omega : (iso.hour : Nat) < 100)
    (by omega : (iso.minute : Nat) < 100) (by omega : iso.wholeSecond < 100)
  have year : (2000 + (iso.date.year - 2000 : Nat) : Int) = iso.date.year := by omega
  rw [parseDateTime_numeric (by simp [length_twoDigits]) (by simp [length_twoDigits]) dd mm yy hh min
    ss, year, dateUTC_existing iso canonical.1 wholeSeconds, same]

/-- Every date and time is shown by an instant. -/
theorem shown_of_existing (denotes : ExistingDateTime dateStr timeStr) :
    ∃ instant, Shows instant dateStr timeStr := by
  obtain ⟨date, hour, minute, second, early, late, rfl, rfl⟩ := denotes
  have year_lt : date.year < 10000 := by omega
  refine ⟨_, ⟨date, year_lt, hour, minute, some (second, [0, 0, 0]), .utc⟩,
    IsoDateTime.toISOString_epochMs ⟨rfl, second, 0, 0, 0, rfl⟩, rfl, early, late, rfl, rfl⟩

/-- A date and a time are read rightly exactly if they denote an instant or are not numeric
throughout. -/
theorem readsDates_iff (dateStr timeStr : Letters) :
    ReadsDates dateStr timeStr ↔ ExistingDateTime dateStr timeStr ∨ ¬ Numeric dateStr timeStr := by
  constructor
  case mp =>
    intro reads
    by_cases numeric : Numeric dateStr timeStr
    case pos => exact Or.inl (reads.accepted.mp ((numeric_iff_read dateStr timeStr).mp numeric))
    case neg => exact Or.inr numeric
  case mpr =>
    rintro (denotes | unread)
    case inl =>
      obtain ⟨instant, shows⟩ := shown_of_existing denotes
      refine ⟨fun other read => ?_, iff_of_true ⟨instant, read_of_shows shows⟩ denotes⟩
      obtain rfl := Except.ok.inj ((read_of_shows shows).symm.trans read)
      exact shows
    case inr =>
      have refused := mt (numeric_iff_read dateStr timeStr).mpr unread
      refine ⟨fun instant read => absurd ⟨instant, read⟩ refused, iff_of_false refused ?_⟩
      intro denotes
      obtain ⟨instant, shows⟩ := shown_of_existing denotes
      exact refused ⟨instant, read_of_shows shows⟩

/-- The thirty-first of February 2026 is read as the third of March. -/
theorem february_carries_over :
    ¬ ∀ dateStr timeStr, ReadsDates dateStr timeStr := by
  intro claim
  have read : parseDateTime "310226".toList "120000".toList = .ok 1772539200000 := by decide +kernel
  obtain ⟨iso, written, -, -, -, date, -⟩ := (claim _ _).shown _ read
  have day : (toISOString 1772539200000).map (fun iso => iso.date.day) = some 3 := by decide +kernel
  rw [written] at day
  have third : iso.date.day = 3 := Option.some.inj day
  rw [third] at date
  have differ : some '3' = some '0' := congrArg List.head? date
  exact absurd differ (by decide)

end EmotoFleet.SinoTrack
