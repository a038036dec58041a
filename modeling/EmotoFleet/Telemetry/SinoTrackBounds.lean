import EmotoFleet.Telemetry.SinoTrack

/-!
# What the adapter for SinoTrack trackers lets through

Telemetry over MQTT is validated against a schema; the adapter reads the same numbers out
of text fields. It accepts every text that can be divided into two numbers, whatever its
form, and does not compare what it reads with the bounds of the schema. What it hands on is
in bounds as long as the fields are, and the cached position that the drift filter may put
in their place.
-/

namespace EmotoFleet.SinoTrack

open Doubles (IsDouble toDouble toDouble_nonneg toDouble_le)
open Expiring LiveState TheftRules Ingestion
open WhiteSpace (isSpace isSpace_of_printing)

section Numbers

/-- The digits lie between zero and nine. -/
theorem digit_range {letter : Char} (digit : isDigit 10 letter = true) :
    '0' ≤ letter ∧ letter ≤ '9' := by
  rw [isDigit, digitValue] at digit
  by_contra other
  rw [if_neg other] at digit
  split at digit
  case isTrue => simp at digit
  case isFalse =>
    split at digit
    case isTrue => simp at digit
    case isFalse => cases digit

/-- A number that begins with a digit has no sign. -/
theorem parseDecimal_unsigned {first : Char} (digit : isDigit 10 first = true) (rest : Letters) :
    splitSign ((first :: rest).dropWhile isSpace) = (1, first :: rest) ∧
      "Infinity".toList.isPrefixOf (first :: rest) = false := by
  obtain ⟨low, high⟩ := digit_range digit
  have low : 48 ≤ first.toNat := low
  have high : first.toNat ≤ 57 := high
  have apart : ∀ letter : Char, letter.toNat < 48 ∨ 57 < letter.toNat → first ≠ letter := by
    rintro letter outside rfl
    omega
  have visible : isSpace first = false := isSpace_of_printing (by omega) (by omega)
  constructor
  case left =>
    rw [List.dropWhile_cons, if_neg (by rw [visible]; exact Bool.false_ne_true)]
    exact splitSign.eq_3 _ (fun tail equal => apart '-' (Or.inl (by decide)) (List.cons.inj equal).1)
      (fun tail equal => apart '+' (Or.inl (by decide)) (List.cons.inj equal).1)
  case right =>
    rw [Bool.eq_false_iff, ne_eq, List.isPrefixOf_iff_prefix]
    rintro ⟨tail, equal⟩
    exact apart 'I' (Or.inr (by decide)) (List.cons.inj equal).1.symm

/-- The parts of a number that begins with a digit. -/
theorem parseDecimal_parts {first : Char} (digit : isDigit 10 first = true)
    {rest whole after : Letters}
    (before : (first :: rest).takeWhile (isDigit 10) = whole)
    (tail : (first :: rest).dropWhile (isDigit 10) = after) (nonempty : whole ≠ []) :
    parseDecimal (first :: rest) =
      some (digitsValue 10 (whole ++ (splitFraction after).1) / 10 ^ (splitFraction after).1.length *
        10 ^ readExponent (splitFraction after).2 : ℚ) := by
  obtain ⟨unsigned, finite⟩ := parseDecimal_unsigned digit rest
  have some_ : (whole.isEmpty && (splitFraction after).1.isEmpty) = false := by
    rw [List.isEmpty_eq_false_iff.mpr nonempty, Bool.false_and]
  rw [parseDecimal, unsigned]
  dsimp only
  rw [before, tail, finite, some_, if_neg Bool.false_ne_true, if_neg Bool.false_ne_true,
    Int.cast_one, one_mul]

/-- A text of digits is read as its value. -/
theorem parseFloat_digits {text : Letters} (digits : ∀ letter ∈ text, isDigit 10 letter = true)
    (nonempty : text ≠ []) : parseFloat text = some (toDouble (digitsValue 10 text)) := by
  obtain ⟨first, rest, rfl⟩ := List.exists_cons_of_ne_nil nonempty
  rw [parseFloat, parseDecimal_parts (digits first List.mem_cons_self)
    (List.takeWhile_eq_self_iff.mpr digits) (List.dropWhile_eq_nil_iff.mpr digits) nonempty]
  simp [splitFraction, readExponent]

/-- A text of digits with a point is read as its value. -/
theorem parseFloat_decimal {whole fraction : Letters}
    (wholeDigits : ∀ letter ∈ whole, isDigit 10 letter = true) (nonempty : whole ≠ [])
    (fractionDigits : ∀ letter ∈ fraction, isDigit 10 letter = true) :
    parseFloat (whole ++ '.' :: fraction) =
      some (toDouble (digitsValue 10 (whole ++ fraction) / 10 ^ fraction.length)) := by
  obtain ⟨first, rest, rfl⟩ := List.exists_cons_of_ne_nil nonempty
  have point : isDigit 10 '.' = false := by decide
  have before : (first :: rest ++ '.' :: fraction).takeWhile (isDigit 10) = first :: rest := by
    rw [List.takeWhile_append_of_pos wholeDigits, List.takeWhile_cons, point]
    simp
  have tail : (first :: rest ++ '.' :: fraction).dropWhile (isDigit 10) = '.' :: fraction := by
    rw [List.dropWhile_append_of_pos wholeDigits, List.dropWhile_cons, point]
    simp
  have split : splitFraction ('.' :: fraction) = (fraction, []) := by
    rw [splitFraction, List.takeWhile_eq_self_iff.mpr fractionDigits,
      List.dropWhile_eq_nil_iff.mpr fractionDigits]
  have parts := parseDecimal_parts (wholeDigits first List.mem_cons_self) before tail nonempty
  rw [split] at parts
  exact (congrArg (Option.map toDouble) parts).trans (by simp [readExponent])

end Numbers
section Coordinates

/-- The degrees and minutes that the adapter finds in a text. -/
def Reads (text : Letters) (value : ℚ) : Prop :=
  ∃ point degrees minutes, text.findIdx? (· == '.') = some point ∧ 2 ≤ point ∧
    parseFloat (text.take (point - 2)) = some degrees ∧
    parseFloat (text.drop (point - 2)) = some minutes ∧
    (isFinite degrees && isFinite minutes && isFinite (degreesOf degrees minutes)) = true ∧
    value = degreesOf degrees minutes

/-- The one letter that turns a sign. -/
def signed (minus : Char) (hemisphere : Letters) (value : ℚ) : ℚ :=
  if hemisphere == [minus] then -value else value

/-- A text in the form `ddmm.mmmm` with as many digits for the degrees as given, its
minutes below sixty, its degrees in range and its hemisphere one of the two. The number that
it denotes is the sum in double precision. -/
inductive Denotes (width bound : Nat) (plus minus : Char) : Letters → Letters → ℚ → Prop where
  | written {degrees minutes fraction hemisphere : Letters}
      (sizes : degrees.length = width ∧ minutes.length = 2 ∧ fraction.length = 4)
      (digits : ∀ letter ∈ degrees ++ minutes ++ fraction, isDigit 10 letter = true)
      (below : digitsValue 10 minutes < 60)
      (within : (digitsValue 10 degrees : ℚ) +
        digitsValue 10 (minutes ++ fraction) / 10 ^ fraction.length / 60 ≤ bound)
      (letter : hemisphere = [plus] ∨ hemisphere = [minus]) :
      Denotes width bound plus minus (degrees ++ (minutes ++ '.' :: fraction)) hemisphere
        (signed minus hemisphere (degreesOf (toDouble (digitsValue 10 degrees))
          (toDouble (digitsValue 10 (minutes ++ fraction) / 10 ^ fraction.length))))

/-- What is accepted are the two forms, and the numbers are those that they denote. -/
def Exact (latStr latHem lngStr lngHem : Letters) : Prop :=
  ∀ lat lng, parseCoordinates latStr latHem lngStr lngHem = .ok (lat, lng) ↔
    Denotes 2 90 'N' 'S' latStr latHem lat ∧ Denotes 3 180 'E' 'W' lngStr lngHem lng

/-- A text is read as one number. -/
theorem reads_unique {text : Letters} {left right : ℚ} (first : Reads text left)
    (second : Reads text right) : left = right := by
  obtain ⟨point, degrees, minutes, found, _, before, after, _, rfl⟩ := first
  obtain ⟨point', degrees', minutes', found', _, before', after', _, rfl⟩ := second
  obtain rfl := Option.some.inj (found.symm.trans found')
  rw [Option.some.inj (before.symm.trans before'), Option.some.inj (after.symm.trans after')]

/-- Degrees are parsed exactly when the text reads as a number. -/
theorem parseDegrees_iff {text : Letters} {malformed : PacketError} {value : ℚ} :
    parseDegrees text malformed = .ok (some value) ↔ Reads text value := by
  rw [parseDegrees, Reads]
  cases found : text.findIdx? (· == '.') with
  | none => simp
  | some point =>
    by_cases short : point < 2
    case pos =>
      simp [short]
    case neg =>
      cases before : parseFloat (text.take (point - 2)) with
      | none => simp [short, before]
      | some degrees =>
        cases after : parseFloat (text.drop (point - 2)) with
        | none => simp [short, before, after]
        | some minutes =>
          have long : 2 ≤ point := Nat.not_lt.mp short
          simp only [short, before, after, guard, failure, Bool.and_eq_true, if_false,
            Except.ok.injEq, Option.some.injEq, Option.bind_eq_bind, Option.bind_some,
            Option.pure_def]
          split
          case isTrue finite =>
            constructor
            case mp =>
              intro equal
              exact ⟨point, degrees, minutes, rfl, long, before, after, finite,
                (Option.some.inj equal).symm⟩
            case mpr =>
              rintro ⟨_, _, _, rfl, _, before', after', _, rfl⟩
              rw [Option.some.inj (before.symm.trans before'),
                Option.some.inj (after.symm.trans after')]
              rfl
          case isFalse infinite =>
            constructor
            case mp =>
              intro equal
              cases equal
            case mpr =>
              rintro ⟨_, _, _, rfl, _, before', after', finite, _⟩
              rw [← Option.some.inj (before.symm.trans before'),
                ← Option.some.inj (after.symm.trans after')] at finite
              exact absurd finite infinite

/-- Both texts are read, and the two letters turn the signs. -/
theorem parseCoordinates_iff {latStr latHem lngStr lngHem : Letters} {lat lng : ℚ} :
    parseCoordinates latStr latHem lngStr lngHem = .ok (lat, lng) ↔
      ∃ north east, Reads latStr north ∧ Reads lngStr east ∧
        lat = signed 'S' latHem north ∧ lng = signed 'W' lngHem east := by
  have empty : ∀ {value}, ¬ Reads [] value := by
    rintro value ⟨point, degrees, minutes, found, -⟩
    cases found
  rw [parseCoordinates]
  by_cases missing : (latStr.isEmpty || lngStr.isEmpty) = true
  case pos =>
    rw [if_pos missing]
    rw [Bool.or_eq_true, List.isEmpty_iff, List.isEmpty_iff] at missing
    constructor
    case mp =>
      intro accepted
      cases accepted
    case mpr =>
      rintro ⟨north, east, latitude, longitude, -⟩
      cases missing with
      | inl noLatitude => exact absurd (noLatitude ▸ latitude) empty
      | inr noLongitude => exact absurd (noLongitude ▸ longitude) empty
  case neg =>
    rw [if_neg missing]
    simp only [← @parseDegrees_iff latStr (.malformedLatitude latStr),
      ← @parseDegrees_iff lngStr (.malformedLongitude lngStr)]
    cases parseDegrees latStr (.malformedLatitude latStr) with
    | error refused => simp [bind, Except.bind]
    | ok north =>
      cases parseDegrees lngStr (.malformedLongitude lngStr) with
      | error refused => simp [bind, Except.bind]
      | ok east =>
        cases north with
        | none => simp [bind, Except.bind, throw, throwThe, MonadExceptOf.throw]
        | some north =>
          cases east with
          | none => simp [bind, Except.bind, throw, throwThe, MonadExceptOf.throw]
          | some east =>
            simp only [bind, Except.bind, pure, Except.pure, Except.ok.injEq, Prod.mk.injEq,
              Option.some.injEq]
            constructor
            case mp =>
              rintro ⟨rfl, rfl⟩
              exact ⟨north, east, rfl, rfl, rfl, rfl⟩
            case mpr =>
              rintro ⟨_, _, rfl, rfl, rfl, rfl⟩
              exact ⟨rfl, rfl⟩

/-- A number of ordinary size is finite as a double. -/
theorem isFinite_toDouble {value : ℚ} (positive : 0 ≤ value) (small : value ≤ 20000) :
    isFinite (toDouble value) = true := by
  have limit : toDouble value ≤ 20000 :=
    toDouble_le ⟨20000, 0, by norm_num, by norm_num, by norm_num⟩ small
  rw [isFinite, abs_of_nonneg (toDouble_nonneg positive), decide_eq_true_eq, infinity]
  calc toDouble value ≤ 20000 := limit
    _ < 2 ^ 15 := by norm_num
    _ ≤ 2 ^ 1024 := pow_le_pow_right₀ one_le_two (by decide)

/-- What denotes a number is read as that number. -/
theorem reads_of_denotes {width bound : Nat} {plus minus : Char} {text hemisphere : Letters}
    {value : ℚ} (degreesWritten : 0 < width) (narrow : bound ≤ 180)
    (denotes : Denotes width bound plus minus text hemisphere value) :
    ∃ north, Reads text north ∧ value = signed minus hemisphere north := by
  cases denotes with
  | @written degrees minutes fraction _ sizes digits below within letter =>
    obtain ⟨degreesSize, minutesSize, fractionSize⟩ := sizes
    have degreesDigits : ∀ letter ∈ degrees, isDigit 10 letter = true := fun letter listed =>
      digits letter (List.mem_append_left _ (List.mem_append_left _ listed))
    have minutesDigits : ∀ letter ∈ minutes, isDigit 10 letter = true := fun letter listed =>
      digits letter (List.mem_append_left _ (List.mem_append_right _ listed))
    have fractionDigits : ∀ letter ∈ fraction, isDigit 10 letter = true := fun letter listed =>
      digits letter (List.mem_append_right _ listed)
    have degreesSome : degrees ≠ [] := List.ne_nil_of_length_pos (degreesSize ▸ degreesWritten)
    have minutesSome : minutes ≠ [] := List.ne_nil_of_length_pos (minutesSize ▸ Nat.two_pos)
    have pointless : (degrees ++ minutes).findIdx? (· == '.') = none := by
      rw [List.findIdx?_eq_none_iff]
      intro letter listed
      have digit := digits letter (List.mem_append_left _ listed)
      rw [beq_eq_false_iff_ne]
      rintro rfl
      exact absurd digit (by decide)
    have point : (degrees ++ (minutes ++ '.' :: fraction)).findIdx? (· == '.') =
        some (degrees.length + 2) := by
      have first : ('.' :: fraction).findIdx? (· == '.') = some 0 := by
        rw [List.findIdx?_cons]
        rfl
      rw [← List.append_assoc, List.findIdx?_append, pointless, first, List.length_append,
        minutesSize]
      simp
    have minutesRange : (0 : ℚ) ≤ digitsValue 10 (minutes ++ fraction) / 10 ^ fraction.length := by
      positivity
    have degreesRange : (0 : ℚ) ≤ digitsValue 10 degrees := Nat.cast_nonneg _
    have limit : (bound : ℚ) ≤ 180 := by exact_mod_cast narrow
    refine ⟨_, ⟨degrees.length + 2, _, _, point, Nat.le_add_left 2 _, ?_, ?_, ?_, rfl⟩, rfl⟩
    case refine_1 =>
      rw [Nat.add_sub_cancel, List.take_left]
      exact parseFloat_digits degreesDigits degreesSome
    case refine_2 =>
      rw [Nat.add_sub_cancel, List.drop_left]
      exact parseFloat_decimal minutesDigits minutesSome fractionDigits
    case refine_3 =>
      have sixtieth : (0 : ℚ) ≤
          toDouble (digitsValue 10 (minutes ++ fraction) / 10 ^ fraction.length) / 60 :=
        div_nonneg (toDouble_nonneg minutesRange) (by norm_num)
      have few : toDouble (toDouble (digitsValue 10 (minutes ++ fraction) /
          10 ^ fraction.length) / 60) ≤ 180 := by
        have minutesLimit : toDouble (digitsValue 10 (minutes ++ fraction) /
            10 ^ fraction.length) ≤ 10800 :=
          toDouble_le ⟨10800, 0, by norm_num, by norm_num, by norm_num⟩ (by linarith)
        exact toDouble_le ⟨180, 0, by norm_num, by norm_num, by norm_num⟩ (by linarith)
      have many : toDouble (digitsValue 10 degrees) ≤ 180 :=
        toDouble_le ⟨180, 0, by norm_num, by norm_num, by norm_num⟩ (by linarith)
      rw [isFinite_toDouble degreesRange (by linarith), isFinite_toDouble minutesRange (by linarith),
        degreesOf, isFinite_toDouble
          (add_nonneg (toDouble_nonneg degreesRange) (toDouble_nonneg sixtieth)) (by linarith)]
      rfl

/-- Both texts have their form. -/
def Formed (latStr latHem lngStr lngHem : Letters) : Prop :=
  ∃ lat lng, Denotes 2 90 'N' 'S' latStr latHem lat ∧ Denotes 3 180 'E' 'W' lngStr lngHem lng

/-- A text that the adapter can divide into two numbers. -/
def Readable (text : Letters) : Prop := ∃ value, Reads text value

/-- The coordinates are accepted exactly as they are denoted, where they have the form, or
where not even two numbers can be found. -/
theorem exact_iff (latStr latHem lngStr lngHem : Letters) :
    Exact latStr latHem lngStr lngHem ↔
      Formed latStr latHem lngStr lngHem ∨ ¬ (Readable latStr ∧ Readable lngStr) := by
  constructor
  case mp =>
    intro exact_
    by_cases readable : Readable latStr ∧ Readable lngStr
    case neg => exact Or.inr readable
    case pos =>
      obtain ⟨⟨north, latitude⟩, east, longitude⟩ := readable
      obtain ⟨denotesLat, denotesLng⟩ := (exact_ _ _).mp
        (parseCoordinates_iff.mpr ⟨north, east, latitude, longitude, rfl, rfl⟩)
      exact Or.inl ⟨_, _, denotesLat, denotesLng⟩
  case mpr =>
    intro condition lat lng
    rw [parseCoordinates_iff]
    constructor
    case mp =>
      rintro ⟨north, east, latitude, longitude, rfl, rfl⟩
      rcases condition with ⟨lat, lng, denotesLat, denotesLng⟩ | unreadable
      case inl =>
        obtain ⟨north', latitude', rfl⟩ := reads_of_denotes (by decide) (by decide) denotesLat
        obtain ⟨east', longitude', rfl⟩ := reads_of_denotes (by decide) (by decide) denotesLng
        rw [reads_unique latitude latitude', reads_unique longitude longitude']
        exact ⟨denotesLat, denotesLng⟩
      case inr => exact absurd ⟨⟨north, latitude⟩, east, longitude⟩ unreadable
    case mpr =>
      rintro ⟨denotesLat, denotesLng⟩
      obtain ⟨north, latitude, rfl⟩ := reads_of_denotes (by decide) (by decide) denotesLat
      obtain ⟨east, longitude, rfl⟩ := reads_of_denotes (by decide) (by decide) denotesLng
      exact ⟨north, east, latitude, longitude, rfl, rfl⟩

end Coordinates

section Battery

/-- A voltage with its unit, at which the search ends. -/
def isMeasured (part : Letters) : Bool :=
  isVoltText (trim part) &&
    (parseFloat (trim part).dropLast).any fun val => decide (0 < val ∧ val ≤ 200)

/-- A percentage, or a bare number up to one. -/
def givesLevel (part : Letters) : Bool :=
  !(trim part).isEmpty && !isVoltText (trim part) &&
    if isPercentText (trim part) then
      (parseFloat ((trim part).erase '%')).any fun pct => decide (0 ≤ pct ∧ pct ≤ 100)
    else (parseFloat (trim part)).any fun num => decide (0 < num ∧ num ≤ 1)

/-- The voltage of a bare number, which is in volts or in millivolts. -/
def bareVoltage (part : Letters) : Option ℚ :=
  if (trim part).isEmpty || isVoltText (trim part) || isPercentText (trim part) then none
  else (parseFloat (trim part)).bind fun num =>
    if 3 ≤ num ∧ num ≤ 120 then some num
    else if 120 < num ∧ num ≤ 120000 then some (toDouble (num / 1000))
    else none

/-- The fields of a packet that may tell of its battery. -/
def batteryFields (parts : List Letters) : List Letters :=
  parts.drop (if parts.length ≥ 17 then 17 else 13)

/-- The first voltage that is written as one. -/
def measuredVoltage (fields : List Letters) : Option ℚ :=
  (fields.find? isMeasured).bind fun part => parseFloat (trim part).dropLast

/-- The voltage with a unit, or else the first bare one. -/
def voltage (parts : List Letters) : Option ℚ :=
  (measuredVoltage (batteryFields parts)).or ((batteryFields parts).findSome? bareVoltage)

/-- A level before the voltage at which the search ends. -/
def levelGiven (parts : List Letters) : Bool :=
  ((batteryFields parts).takeWhile fun part => !isMeasured part).any givesLevel

/-- A number rounds to at most a hundred exactly when it is below a hundred and a half. -/
theorem mathRound_range_iff {number : ℚ} (positive : 0 ≤ number) :
    (0 ≤ mathRound number ∧ mathRound number ≤ 100) ↔ number < 201 / 2 := by
  have lowest : (0 : ℤ) ≤ ⌊number + 1 / 2⌋ := Int.floor_nonneg.mpr (by linarith)
  have highest : ⌊number + 1 / 2⌋ ≤ 100 ↔ number < 201 / 2 := by
    rw [← Int.lt_add_one_iff, Int.floor_lt]
    push_cast
    constructor
    case mp =>
      intro below
      linarith
    case mpr =>
      intro below
      linarith
  rw [mathRound, ← highest]
  exact_mod_cast and_iff_right lowest

/-- A ratio gives a level of at most a hundred exactly when its double percentage is below a hundred
and a half. -/
theorem levelOf_range_iff {ratio : ℚ} (positive : 0 ≤ ratio) :
    (0 ≤ levelOf ratio ∧ levelOf ratio ≤ 100) ↔ toDouble (ratio * 100) < 201 / 2 := by
  rw [levelOf]
  split
  case isTrue full =>
    have sixty : toDouble (toDouble (3 / 5) * 100) < 201 / 2 := by decide +kernel
    rw [full]
    exact iff_of_true (by norm_num) sixty
  case isFalse => exact mathRound_range_iff (toDouble_nonneg (by linarith))

/-- What is known after one field. -/
structure Noted (part : Letters) (info next : BatteryInfo) : Prop where
  volts : next.batteryV = info.batteryV.or (bareVoltage part)
  level : next.batteryPct.isSome = (info.batteryPct.isSome || givesLevel part)
  range : ∀ pct, next.batteryPct = some pct → info.batteryPct = some pct ∨ 0 ≤ pct ∧ pct ≤ 100

/-- A field that tells nothing changes nothing. -/
theorem noted_silent {part : Letters} {info : BatteryInfo} (volts : bareVoltage part = none)
    (level : givesLevel part = false) : Noted part info info where
  volts := by rw [volts, Option.or_none]
  level := by rw [level, Bool.or_false]
  range := fun _ known => Or.inl known

/-- A bare number tells what its size says. -/
theorem noted_number {part : Letters} {info : BatteryInfo} {num : ℚ}
    (some_ : (trim part).isEmpty = false) (plain : isVoltText (trim part) = false)
    (bare : isPercentText (trim part) = false) (number : parseFloat (trim part) = some num) :
    Noted part info (readBatteryNumber num info) := by
  have volts : bareVoltage part = if 3 ≤ num ∧ num ≤ 120 then some num
      else if 120 < num ∧ num ≤ 120000 then some (toDouble (num / 1000)) else none := by
    simp [bareVoltage, some_, plain, bare, number]
  have level : givesLevel part = decide (0 < num ∧ num ≤ 1) := by
    simp [givesLevel, some_, plain, bare, number]
  constructor
  case volts =>
    rw [volts, readBatteryNumber]
    cases known : info.batteryV with
    | none => grind
    | some earlier => grind
  case level =>
    rw [level, readBatteryNumber]
    cases known : info.batteryPct with
    | none => grind
    | some earlier => grind
  case range =>
    intro pct
    rw [readBatteryNumber]
    split
    case isTrue => exact Or.inl
    case isFalse =>
      split
      case isTrue => exact Or.inl
      case isFalse =>
        split
        case isFalse => exact Or.inl
        case isTrue ratio =>
          intro equal
          obtain rfl := Option.some.inj equal
          have whole : toDouble (num * 100) ≤ 100 :=
            toDouble_le ⟨100, 0, by norm_num, by norm_num, by norm_num⟩ (by linarith [ratio.2.1])
          exact Or.inr ((levelOf_range_iff ratio.1.le).mpr (by linarith))

/-- One field either ends the search or adds to what is known. -/
theorem scanBattery_cons (part : Letters) (rest : List Letters) (info : BatteryInfo) :
    (isMeasured part = true ∧
        scanBattery (part :: rest) info =
          { info with batteryV := parseFloat (trim part).dropLast }) ∨
      (isMeasured part = false ∧ ∃ next, Noted part info next ∧
        scanBattery (part :: rest) info = scanBattery rest next) := by
  rw [scanBattery]
  by_cases empty : (trim part).isEmpty = true
  case pos =>
    have nothing : trim part = [] := List.isEmpty_iff.mp empty
    refine Or.inr ⟨by rw [isMeasured, nothing]; rfl, info, noted_silent ?_ ?_, ?_⟩
    case refine_1 => rw [bareVoltage, nothing]; rfl
    case refine_2 => rw [givesLevel, nothing]; rfl
    case refine_3 => rw [if_pos empty]
  case neg =>
    have some_ : (trim part).isEmpty = false := Bool.eq_false_iff.mpr empty
    by_cases unit : isVoltText (trim part) = true
    case pos =>
      have silent : Noted part info info :=
        noted_silent (by simp [bareVoltage, unit]) (by simp [givesLevel, unit])
      cases number : parseFloat (trim part).dropLast with
      | none =>
        exact Or.inr ⟨by simp [isMeasured, number], info, silent, by simp [some_, unit]⟩
      | some val =>
        by_cases inRange : 0 < val ∧ val ≤ 200
        case pos =>
          exact Or.inl ⟨by simp [isMeasured, unit, number, inRange], by simp [some_, unit, inRange]⟩
        case neg =>
          refine Or.inr ⟨?_, info, silent, ?_⟩
          case refine_1 => simpa [isMeasured, unit, number] using inRange
          case refine_2 => simp [some_, unit, inRange]
    case neg =>
      have plain : isVoltText (trim part) = false := Bool.eq_false_iff.mpr unit
      have unmeasured : isMeasured part = false := by rw [isMeasured, plain, Bool.false_and]
      by_cases percent : isPercentText (trim part) = true
      case pos =>
        have novolts : bareVoltage part = none := by simp [bareVoltage, percent]
        cases number : parseFloat ((trim part).erase '%') with
        | none =>
          have nolevel : givesLevel part = false := by simp [givesLevel, percent, number]
          exact Or.inr ⟨unmeasured, info, noted_silent novolts nolevel,
            by simp [some_, plain, percent]⟩
        | some pct =>
          by_cases inRange : 0 ≤ pct ∧ pct ≤ 100
          case pos =>
            have level : givesLevel part = true := by
              simp [givesLevel, some_, plain, percent, number, inRange]
            refine Or.inr ⟨unmeasured, { info with batteryPct := some pct }, ?_, ?_⟩
            case refine_1 =>
              constructor
              case volts => rw [novolts, Option.or_none]
              case level => rw [level, Bool.or_true, Option.isSome_some]
              case range =>
                intro known equal
                exact Or.inr (Option.some.inj equal ▸ inRange)
            case refine_2 => simp [some_, plain, percent, inRange]
          case neg =>
            have nolevel : givesLevel part = false := by
              simpa [givesLevel, some_, plain, percent, number] using inRange
            exact Or.inr ⟨unmeasured, info, noted_silent novolts nolevel,
              by simp [some_, plain, percent, inRange]⟩
      case neg =>
        have bare : isPercentText (trim part) = false := Bool.eq_false_iff.mpr percent
        cases number : parseFloat (trim part) with
        | none =>
          refine Or.inr ⟨unmeasured, info, noted_silent ?_ ?_, ?_⟩
          case refine_1 => simp [bareVoltage, number]
          case refine_2 => simp [givesLevel, bare, number]
          case refine_3 => simp [some_, plain, bare]
        | some num =>
          refine Or.inr ⟨unmeasured, _, noted_number some_ plain bare number, ?_⟩
          simp [some_, plain, bare]

/-- The scan finds the measured voltage, or else the first bare one. -/
theorem scanBattery_volts (fields : List Letters) (info : BatteryInfo) :
    (scanBattery fields info).batteryV =
      (measuredVoltage fields).or (info.batteryV.or (fields.findSome? bareVoltage)) := by
  induction fields generalizing info with
  | nil => rw [scanBattery, List.findSome?_nil, Option.or_none]; rfl
  | cons part rest inductionHypothesis =>
    cases scanBattery_cons part rest info with
    | inl ends =>
      obtain ⟨measured, equal⟩ := ends
      have found : measuredVoltage (part :: rest) = parseFloat (trim part).dropLast := by
        rw [measuredVoltage, List.find?_cons_of_pos measured, Option.bind_some]
      rw [equal, found]
      rw [isMeasured, Bool.and_eq_true] at measured
      obtain ⟨val, number, -⟩ := (Option.any_eq_true _ _).mp measured.2
      rw [number, Option.some_or]
    | inr adds =>
      obtain ⟨unmeasured, next, noted, equal⟩ := adds
      have found : measuredVoltage (part :: rest) = measuredVoltage rest := by
        rw [measuredVoltage, List.find?_cons_of_neg (Bool.eq_false_iff.mp unmeasured)]
        rfl
      rw [equal, inductionHypothesis, noted.volts, found, List.findSome?_cons, Option.or_assoc]
      cases bareVoltage part with
      | none => rfl
      | some volts => rfl

/-- The scan finds a level exactly when a field gives one before the scan ends. -/
theorem scanBattery_level (fields : List Letters) (info : BatteryInfo) :
    (scanBattery fields info).batteryPct.isSome =
      (info.batteryPct.isSome || (fields.takeWhile fun part => !isMeasured part).any givesLevel) := by
  induction fields generalizing info with
  | nil => rw [scanBattery, List.takeWhile_nil, List.any_nil, Bool.or_false]
  | cons part rest inductionHypothesis =>
    cases scanBattery_cons part rest info with
    | inl ends =>
      rw [ends.2, List.takeWhile_cons, ends.1]
      exact (Bool.or_false _).symm
    | inr adds =>
      obtain ⟨unmeasured, next, noted, equal⟩ := adds
      rw [equal, inductionHypothesis, noted.level, List.takeWhile_cons, unmeasured, Bool.or_assoc]
      rfl

/-- The scan keeps the level between nothing and a hundred. -/
theorem scanBattery_range (fields : List Letters) {info : BatteryInfo}
    (range : ∀ pct, info.batteryPct = some pct → 0 ≤ pct ∧ pct ≤ 100) :
    ∀ pct, (scanBattery fields info).batteryPct = some pct → 0 ≤ pct ∧ pct ≤ 100 := by
  induction fields generalizing info with
  | nil => exact range
  | cons part rest inductionHypothesis =>
    cases scanBattery_cons part rest info with
    | inl ends =>
      rw [ends.2]
      exact range
    | inr adds =>
      obtain ⟨_, next, noted, equal⟩ := adds
      rw [equal]
      refine inductionHypothesis fun pct known => ?_
      cases noted.range pct known with
      | inl before => exact range pct before
      | inr within => exact within

/-- No voltage is negative. -/
theorem voltage_nonneg {parts : List Letters} {volts : ℚ} (given : voltage parts = some volts) :
    0 ≤ volts := by
  rw [voltage, Option.or_eq_some_iff] at given
  rcases given with measured | ⟨-, bare⟩
  case inl =>
    obtain ⟨part, found, number⟩ := Option.bind_eq_some_iff.mp measured
    have measured := List.find?_some found
    rw [isMeasured, Bool.and_eq_true] at measured
    obtain ⟨val, number', range⟩ := (Option.any_eq_true _ _).mp measured.2
    rw [Option.some.inj (number.symm.trans number')]
    exact (of_decide_eq_true range).1.le
  case inr =>
    obtain ⟨part, -, bare⟩ := List.exists_of_findSome?_eq_some bare
    rw [bareVoltage] at bare
    split at bare
    case isTrue => cases bare
    case isFalse =>
      obtain ⟨num, -, value⟩ := Option.bind_eq_some_iff.mp bare
      split at value
      case isTrue range =>
        obtain rfl := Option.some.inj value
        linarith [range.1]
      case isFalse =>
        split at value
        case isTrue range =>
          obtain rfl := Option.some.inj value
          exact toDouble_nonneg (by linarith [range.1])
        case isFalse => cases value

/-- A charge lies between nothing and a hundred. -/
theorem chargePct_range (batteryV empty span : ℚ) :
    0 ≤ chargePct batteryV empty span ∧ chargePct batteryV empty span ≤ 100 := by
  rw [chargePct]
  exact ⟨le_min (by norm_num) (le_max_left _ _), min_le_left _ _⟩

/-- A voltage of three volts or more gives a level in range. -/
theorem rateVoltage_range {batteryV : ℚ} {info : BatteryInfo} (enough : 3 ≤ batteryV)
    (range : ∀ pct, info.batteryPct = some pct → 0 ≤ pct ∧ pct ≤ 100) :
    ∀ pct, (rateVoltage batteryV info).batteryPct = some pct → 0 ≤ pct ∧ pct ≤ 100 := by
  rw [rateVoltage, if_neg (not_lt.mpr enough)]
  repeat' split
  all_goals
    intro pct known
    first
    | exact range pct known
    | exact Option.some.inj known ▸ chargePct_range _ _ _

/-- The level that is stored is in range, where it was given, or where the voltage is not
one between a level and a battery. -/
theorem level_iff (parts : List Letters) :
    (∀ pct, (extractBatteryInfo parts).batteryPct = some pct → 0 ≤ pct ∧ pct ≤ 100) ↔
      levelGiven parts = true ∨
        ∀ volts, voltage parts = some volts → toDouble (volts * 100) < 201 / 2 ∨ 3 ≤ volts := by
  have scanned : (if parts.length > 13 then
      scanBattery (batteryFields parts) ⟨none, none⟩ else ⟨none, none⟩) =
      scanBattery (batteryFields parts) ⟨none, none⟩ := by
    split
    case isTrue => rfl
    case isFalse short =>
      have nothing : batteryFields parts = [] := by
        rw [batteryFields, List.drop_eq_nil_iff]
        split <;> omega
      rw [nothing]
      rfl
  have volts : (scanBattery (batteryFields parts) ⟨none, none⟩).batteryV = voltage parts :=
    scanBattery_volts _ _
  have level : (scanBattery (batteryFields parts) ⟨none, none⟩).batteryPct.isSome =
      levelGiven parts :=
    scanBattery_level _ _
  have range : ∀ pct, (scanBattery (batteryFields parts) ⟨none, none⟩).batteryPct = some pct →
      0 ≤ pct ∧ pct ≤ 100 :=
    scanBattery_range _ fun pct known => by cases known
  have extracted : extractBatteryInfo parts =
      (scanBattery (batteryFields parts) ⟨none, none⟩).batteryV.elim
        (scanBattery (batteryFields parts) ⟨none, none⟩)
        fun batteryV => rateVoltage batteryV (scanBattery (batteryFields parts) ⟨none, none⟩) := by
    rw [← scanned, extractBatteryInfo, batteryFields]
    split
    case h_1 batteryV known => rw [known, Option.elim_some]
    case h_2 known => rw [known, Option.elim_none]
  rw [extracted, volts]
  rw [← level]
  generalize scanBattery (batteryFields parts) ⟨none, none⟩ = info at range level
  cases given : voltage parts with
  | none => exact iff_of_true range (Or.inr fun volts known => by cases known)
  | some batteryV =>
    have nonneg := voltage_nonneg given
    rw [Option.elim_some]
    by_cases low : batteryV < 3
    case neg =>
      refine iff_of_true (rateVoltage_range (not_lt.mp low) range) (Or.inr fun volts known => ?_)
      rw [← Option.some.inj known]
      exact Or.inr (not_lt.mp low)
    case pos =>
      rw [rateVoltage, if_pos low]
      cases known : info.batteryPct with
      | some pct => exact iff_of_true (fun pct' equal => range pct' (known.trans equal)) (Or.inl rfl)
      | none =>
        constructor
        case mp =>
          intro inRange
          refine Or.inr fun volts equal => Or.inl ?_
          rw [← Option.some.inj equal]
          exact (levelOf_range_iff nonneg).mp (inRange _ rfl)
        case mpr =>
          rintro (given | small) pct equal
          case inl => cases given
          case inr =>
            obtain rfl := Option.some.inj equal
            exact (levelOf_range_iff nonneg).mpr
              ((small batteryV rfl).resolve_right (not_le.mpr low))

/-- The percentage is between 0 and 100, and the voltage is one of a battery. -/
structure PlausibleBattery (info : BatteryInfo) : Prop where
  batteryPct : ∀ pct, info.batteryPct = some pct → 0 ≤ pct ∧ pct ≤ 100
  batteryV : ∀ volts, info.batteryV = some volts → 3 ≤ volts

/-- Rating a voltage leaves it as it is. -/
theorem rateVoltage_volts {batteryV : ℚ} {info : BatteryInfo} (enough : 3 ≤ batteryV) :
    (rateVoltage batteryV info).batteryV = info.batteryV := by
  rw [rateVoltage, if_neg (not_lt.mpr enough)]
  repeat' split
  all_goals rfl

/-- Less than three volts are never given. -/
theorem extractBatteryInfo_volts {parts : List Letters} {volts : ℚ}
    (given : (extractBatteryInfo parts).batteryV = some volts) : 3 ≤ volts := by
  rw [extractBatteryInfo] at given
  split at given
  case h_1 batteryV known =>
    by_cases low : batteryV < 3
    case pos =>
      rw [rateVoltage, if_pos low] at given
      cases given
    case neg =>
      rw [rateVoltage_volts (not_lt.mp low), known] at given
      rw [← Option.some.inj given]
      exact not_lt.mp low
  case h_2 unknown =>
    rw [unknown] at given
    cases given

/-- What is read of a battery is plausible exactly if a level was given, or the voltage is
not one between a level and a battery. -/
theorem plausible_battery_iff (parts : List Letters) :
    PlausibleBattery (extractBatteryInfo parts) ↔
      levelGiven parts = true ∨
        ∀ volts, voltage parts = some volts → toDouble (volts * 100) < 201 / 2 ∨ 3 ≤ volts := by
  rw [← level_iff]
  exact ⟨PlausibleBattery.batteryPct, fun level => ⟨level, fun _ => extractBatteryInfo_volts⟩⟩

/-- Two and a half volts are taken for two hundred and fifty percent. -/
theorem low_voltage_overcharged : ¬ ∀ parts, PlausibleBattery (extractBatteryInfo parts) := by
  intro claim
  have level := (claim (List.replicate 13 [] ++ ["2.5V".toList])).batteryPct 250 (by decide +kernel)
  exact absurd level (by norm_num)

end Battery

section Packets

variable (settings : RulesEngine.Settings) (distance : ℚ → ℚ → ℚ → ℚ → ℚ)
variable (devices : List Tracker) (packet : RawPacket) (state : TrackerState)

/-- The payload that a packet hands to the storage and to the rules. -/
def handedOn : Option TelemetryPayload :=
  match splitPacket packet.text with
  | none => none
  | some parts =>
    match loadDeviceByImei devices (field parts 1) with
    | none => none
    | some device =>
      if device.status = .ACTIVE ∧ isPositionCommand (field parts 2) = true ∧
          13 ≤ parts.length ∧ field parts 4 = ['A'] then
        (readPacket parts).toOption.map (buildPayload distance device packet state)
      else none

/-- The bounds of the schema for messages over MQTT. -/
structure InBounds (payload : TelemetryPayload) : Prop where
  lat : |payload.lat| ≤ 90
  lng : |payload.lng| ≤ 180
  speedKph : 0 ≤ payload.speedKph ∧ payload.speedKph ≤ 300
  heading : ∀ heading, payload.heading = some heading → 0 ≤ heading ∧ heading ≤ 360
  batteryPct : ∀ pct, payload.batteryPct = some pct → 0 ≤ pct ∧ pct ≤ 100

/-- What is handed on is what is stored and what the rules see. -/
theorem processRawPacket_handedOn :
    ((processRawPacket settings distance packet devices state).telemetry,
        (processRawPacket settings distance packet devices state).engine) =
      match handedOn distance devices packet state with
      | none => (state.telemetry, state.engine)
      | some payload =>
        if packet.storageFails then (state.telemetry, state.engine)
        else
          (upsertTelemetryPoint state.telemetry
            { ts := payload.ts.epochMs, lat := payload.lat, lng := payload.lng,
              speedKph := payload.speedKph, heading := payload.heading,
              batteryV := payload.batteryV, batteryPct := payload.batteryPct,
              ignition := payload.ignition },
            RulesEngine.evaluateTelemetry (rulePacket packet payload) settings distance
              state.engine) := by
  rw [processRawPacket, handedOn]
  cases splitPacket packet.text with
  | none => rfl
  | some parts =>
    dsimp only
    cases loadDeviceByImei devices (field parts 1) with
    | none => rfl
    | some device =>
      dsimp only
      by_cases active : device.status = .ACTIVE
      case neg =>
        rw [if_pos active, if_neg fun all : _ ∧ _ => active all.1]
      case pos =>
        rw [if_neg (not_not.mpr active), dispatch]
        by_cases position : isPositionCommand (field parts 2) = true
        case neg =>
          rw [if_neg position, if_neg fun all : _ ∧ _ => position all.2.1]
          by_cases ack : isAckCommand (field parts 2) = true
          case pos => rw [if_pos ack]
          case neg =>
            rw [if_neg ack]
            rfl
        case pos =>
          rw [if_pos position, processTelemetryPacket]
          by_cases complete : 13 ≤ parts.length
          case neg =>
            rw [if_pos (not_le.mp complete), if_neg fun all : _ ∧ _ => complete all.2.2.1]
            rfl
          case pos =>
            rw [if_neg (not_lt.mpr complete)]
            by_cases valid : field parts 4 = ['A']
            case neg =>
              rw [if_neg fun all : _ ∧ _ => valid all.2.2.2, if_pos valid]
              rfl
            case pos =>
              have handed : device.status = .ACTIVE ∧ isPositionCommand (field parts 2) = true ∧
                  13 ≤ parts.length ∧ field parts 4 = ['A'] :=
                ⟨active, position, complete, valid⟩
              rw [if_pos handed, if_neg (not_not.mpr valid)]
              cases readPacket parts with
              | error refused => rfl
              | ok reading =>
                cases packet.storageFails with
                | true => rfl
                | false => rfl

/-- A packet that is handed on, and the numbers of its position and its speed. -/
structure Handed (device : Tracker) (parts : List Letters) (lat lng speedKnots : ℚ) : Prop where
  split : splitPacket packet.text = some parts
  known : loadDeviceByImei devices (field parts 1) = some device
  active : device.status = .ACTIVE
  position : isPositionCommand (field parts 2) = true
  complete : 13 ≤ parts.length
  valid : field parts 4 = ['A']
  coordinates : ∃ north east, Reads (field parts 5) north ∧ Reads (field parts 7) east ∧
    lat = signed 'S' (field parts 6) north ∧ lng = signed 'W' (field parts 8) east
  speed : parseFloat (field parts 9) = some speedKnots
  instant : ∃ epochMs, parseDateTime (field parts 11) (field parts 3) = .ok epochMs

/-- A packet is handed on exactly when its device is known and its fields are read. -/
theorem handedOn_iff {payload : TelemetryPayload} :
    handedOn distance devices packet state = some payload ↔
      ∃ device parts lat lng speedKnots epochMs,
        Handed devices packet device parts lat lng speedKnots ∧
          parseDateTime (field parts 11) (field parts 3) = .ok epochMs ∧
          payload = buildPayload distance device packet state
            (readingOf parts lat lng speedKnots epochMs) := by
  constructor
  case mp =>
    intro handed
    rw [handedOn] at handed
    split at handed
    case h_1 => cases handed
    case h_2 parts split =>
      split at handed
      case h_1 => cases handed
      case h_2 device known =>
        split at handed
        case isFalse => cases handed
        case isTrue accepted =>
          obtain ⟨active, position, complete, valid⟩ := accepted
          cases read : readPacket parts with
          | error refused =>
            rw [read] at handed
            cases handed
          | ok reading =>
            rw [read] at handed
            obtain ⟨lat, lng, speedKnots, epochMs, place, speed, instant, rfl⟩ :=
              readPacket_ok_iff.mp read
            exact ⟨device, parts, lat, lng, speedKnots, epochMs,
              ⟨split, known, active, position, complete, valid, parseCoordinates_iff.mp place,
                speed, epochMs, instant⟩, instant, (Option.some.inj handed).symm⟩
  case mpr =>
    rintro ⟨device, parts, lat, lng, speedKnots, epochMs, handed, instant, rfl⟩
    have read := readPacket_ok_iff.mpr ⟨lat, lng, speedKnots, epochMs,
      parseCoordinates_iff.mpr handed.coordinates, handed.speed, instant, rfl⟩
    rw [handedOn, handed.split]
    dsimp only
    rw [handed.known]
    dsimp only
    rw [if_pos ⟨handed.active, handed.position, handed.complete, handed.valid⟩, read]
    rfl

section Fields

variable (device : Tracker) (parts : List Letters) (lat lng speedKnots : ℚ)

/-- The ignition is off, and there is a position to keep. -/
def Parked : Prop :=
  device.bikeId.isSome = true ∧ (cachedFix state.liveState packet.now).isSome = true ∧
    (readStatus (field parts 2) (field parts 12)).1 = false

/-- The drift filter keeps the position of the cached state. -/
def Kept (cached : LiveBikeState) : Prop :=
  device.bikeId.isSome = true ∧ cachedFix state.liveState packet.now = some cached ∧
    ((readStatus (field parts 2) (field parts 12)).1 = false ∨
      kphOf speedKnots < 2 ∧
        distance cached.lat cached.lng (roundCoordinate lat) (roundCoordinate lng) < 15)

/-- What the adapter does not check, and has to hold of the fields or of the cached state. -/
structure FieldsInRange : Prop where
  kept : ∀ cached, Kept distance packet state device parts lat lng speedKnots cached →
    |cached.lat| ≤ 90 ∧ |cached.lng| ≤ 180
  moved : (∀ cached, ¬ Kept distance packet state device parts lat lng speedKnots cached) →
    |roundCoordinate lat| ≤ 90 ∧ |roundCoordinate lng| ≤ 180
  speed : Parked packet state device parts ∨ kphOf speedKnots ≤ 300
  heading : ∀ heading, parseFloat (field parts 10) = some heading → 0 ≤ heading ∧ heading ≤ 360
  battery : levelGiven parts = true ∨
    ∀ volts, voltage parts = some volts → toDouble (volts * 100) < 201 / 2 ∨ 3 ≤ volts

/-- A clamped speed is at most three hundred exactly when the speed is. -/
theorem clampNoise_range_iff (speedKph : ℚ) :
    (0 ≤ clampNoise speedKph ∧ clampNoise speedKph ≤ 300) ↔ speedKph ≤ 300 := by
  rw [clampNoise]
  split
  case isTrue slow => exact iff_of_true (by norm_num) (by linarith)
  case isFalse fast => exact and_iff_right (by linarith)

/-- A speed is clamped to zero exactly when it is below two. -/
theorem clampNoise_zero_iff (speedKph : ℚ) : clampNoise speedKph = 0 ↔ speedKph < 2 := by
  rw [clampNoise]
  split
  case isTrue slow => exact iff_of_true rfl slow
  case isFalse fast => exact iff_of_false (by linarith) fast

/-- The position is either that of the cached state or that of the packet. -/
theorem place_cases (epochMs : Int) {payload : TelemetryPayload}
    (built : payload = buildPayload distance device packet state
      (readingOf parts lat lng speedKnots epochMs)) :
    (∃ cached, Kept distance packet state device parts lat lng speedKnots cached ∧
        payload.lat = cached.lat ∧ payload.lng = cached.lng) ∨
      ((∀ cached, ¬ Kept distance packet state device parts lat lng speedKnots cached) ∧
        payload.lat = roundCoordinate lat ∧ payload.lng = roundCoordinate lng) := by
  subst built
  simp only [Kept, buildPayload, readingOf, filterStationaryDrift]
  cases device.bikeId with
  | none => simp
  | some bikeId =>
    cases cachedFix state.liveState packet.now with
    | none => simp
    | some cached =>
      simp only [Option.isSome_some, true_and, Option.some.injEq, clampNoise_zero_iff]
      by_cases off : (readStatus (field parts 2) (field parts 12)).1 = false
      case pos => exact Or.inl ⟨cached, ⟨rfl, Or.inl off⟩, by simp [off]⟩
      case neg =>
        by_cases still : kphOf speedKnots < 2 ∧
            distance cached.lat cached.lng (roundCoordinate lat) (roundCoordinate lng) < 15
        case pos => exact Or.inl ⟨cached, ⟨rfl, Or.inr still⟩, by simp [off, still]⟩
        case neg =>
          refine Or.inr ⟨?_, by simp [off, still]⟩
          rintro _ ⟨rfl, kept⟩
          exact kept.elim off still

/-- The speed of a parked bike is zero; other speeds lose the noise only. -/
theorem speed_cases (epochMs : Int) {payload : TelemetryPayload}
    (built : payload = buildPayload distance device packet state
      (readingOf parts lat lng speedKnots epochMs)) :
    (Parked packet state device parts ∧ payload.speedKph = 0) ∨
      (¬ Parked packet state device parts ∧
        payload.speedKph = clampNoise (kphOf speedKnots)) := by
  subst built
  simp only [Parked, buildPayload, readingOf, filterStationaryDrift]
  cases device.bikeId with
  | none => simp
  | some bikeId =>
    cases cachedFix state.liveState packet.now with
    | none => simp
    | some cached =>
      by_cases off : (readStatus (field parts 2) (field parts 12)).1 = false
      case pos => simp [off]
      case neg =>
        refine Or.inr ⟨fun parked => off parked.2.2, ?_⟩
        simp only [Option.some.injEq]
        by_cases still : clampNoise (kphOf speedKnots) = 0 ∧
            distance cached.lat cached.lng (roundCoordinate lat) (roundCoordinate lng) < 15
        case pos => simp [off, still]
        case neg => simp [off, still]

/-- The payload of a packet is in bounds exactly if its fields are. -/
theorem inBounds_iff (epochMs : Int) {payload : TelemetryPayload}
    (built : payload = buildPayload distance device packet state
      (readingOf parts lat lng speedKnots epochMs)) :
    InBounds payload ↔ FieldsInRange distance packet state device parts lat lng speedKnots := by
  have place := place_cases distance packet state device parts lat lng speedKnots epochMs built
  have speed := speed_cases distance packet state device parts lat lng speedKnots epochMs built
  have heading : payload.heading = parseFloat (field parts 10) := by rw [built]; rfl
  have level : payload.batteryPct = (extractBatteryInfo parts).batteryPct := by rw [built]; rfl
  have speedRange : (0 ≤ payload.speedKph ∧ payload.speedKph ≤ 300) ↔
      Parked packet state device parts ∨ kphOf speedKnots ≤ 300 := by
    rcases speed with ⟨parked, zero⟩ | ⟨moving, clamped⟩
    case inl =>
      rw [zero]
      exact iff_of_true (by norm_num) (Or.inl parked)
    case inr =>
      rw [clamped, clampNoise_range_iff]
      exact (or_iff_right moving).symm
  constructor
  case mp =>
    intro bounds
    constructor
    case kept =>
      intro cached kept
      rcases place with ⟨cached', kept', north, east⟩ | ⟨other, -⟩
      case inl =>
        obtain rfl := Option.some.inj (kept.2.1.symm.trans kept'.2.1)
        exact ⟨north ▸ bounds.lat, east ▸ bounds.lng⟩
      case inr => exact absurd kept (other cached)
    case moved =>
      intro other
      rcases place with ⟨cached, kept, -⟩ | ⟨-, north, east⟩
      case inl => exact absurd kept (other cached)
      case inr => exact ⟨north ▸ bounds.lat, east ▸ bounds.lng⟩
    case speed => exact speedRange.mp bounds.speedKph
    case heading => exact heading ▸ bounds.heading
    case battery => exact (level_iff parts).mp (level ▸ bounds.batteryPct)
  case mpr =>
    intro fields
    have bounds : |payload.lat| ≤ 90 ∧ |payload.lng| ≤ 180 := by
      rcases place with ⟨cached, kept, north, east⟩ | ⟨other, north, east⟩
      case inl =>
        rw [north, east]
        exact fields.kept cached kept
      case inr =>
        rw [north, east]
        exact fields.moved other
    exact
      { lat := bounds.1
        lng := bounds.2
        speedKph := speedRange.mpr fields.speed
        heading := heading ▸ fields.heading
        batteryPct := level ▸ (level_iff parts).mpr fields.battery }

end Fields

/-- The adapter admits what the schema would admit: what it accepts as coordinates is what
they denote exactly where the texts have the form or hold no two numbers; what it hands on
is in bounds exactly where the fields that it does not check are in range. -/
theorem admitted_iff (latStr latHem lngStr lngHem : Letters) :
    (Exact latStr latHem lngStr lngHem ↔
        Formed latStr latHem lngStr lngHem ∨ ¬ (Readable latStr ∧ Readable lngStr)) ∧
      ((∀ payload, handedOn distance devices packet state = some payload → InBounds payload) ↔
        ∀ device parts lat lng speedKnots, Handed devices packet device parts lat lng speedKnots →
          FieldsInRange distance packet state device parts lat lng speedKnots) := by
  refine ⟨exact_iff latStr latHem lngStr lngHem, ?_⟩
  constructor
  case mp =>
    intro bounds device parts lat lng speedKnots handed
    obtain ⟨epochMs, instant⟩ := handed.instant
    have payload := (handedOn_iff distance devices packet state).mpr
      ⟨device, parts, lat, lng, speedKnots, epochMs, handed, instant, rfl⟩
    exact (inBounds_iff distance packet state device parts lat lng speedKnots epochMs rfl).mp
      (bounds _ payload)
  case mpr =>
    intro fields payload handed
    obtain ⟨device, parts, lat, lng, speedKnots, epochMs, numbers, -, built⟩ :=
      (handedOn_iff distance devices packet state).mp handed
    exact (inBounds_iff distance packet state device parts lat lng speedKnots epochMs built).mpr
      (fields device parts lat lng speedKnots numbers)

end Packets

section Samples

/-- A tracker on no bike. -/
def newTracker : Tracker := ⟨⟨"device", "fleet", none, "9170000001"⟩, none, .ACTIVE⟩

/-- The state before the first packet. -/
def untouched : TrackerState := ⟨none, [], none, ⟨fun _ => none, none, none, [], []⟩⟩

/-- Ninety-nine degrees and ninety-nine minutes. -/
def beyondThePole : RawPacket :=
  ⟨1_767_268_800_000,
    "*HQ,9170000001,V1,120000,A,9999.0000,N,03000.0000,E,20.00,90,010126,FFFFFFFF#".toList,
    [], [], some [], false, fun _ => .commits⟩

/-- A latitude beyond the pole is accepted and handed on. -/
theorem impossible_latitude_admitted :
    ¬ ∀ distance devices packet state latStr latHem lngStr lngHem,
      Exact latStr latHem lngStr lngHem ∧
        ∀ payload, handedOn distance devices packet state = some payload → InBounds payload := by
  intro claim
  have checked : (handedOn (fun _ _ _ _ => 0) [newTracker] beyondThePole untouched).any
      (fun payload => decide (90 < payload.lat)) = true := by decide +kernel
  obtain ⟨payload, handed, north⟩ := (Option.any_eq_true _ _).mp checked
  have bounds := (claim (fun _ _ _ _ => 0) [newTracker] beyondThePole untouched [] [] [] []).2
    payload handed
  have limit := (abs_le.mp bounds.lat).2
  exact absurd limit (not_le.mpr (of_decide_eq_true north))

end Samples

end EmotoFleet.SinoTrack
