import EmotoFleet.Foundations.WhiteSpace
import EmotoFleet.Telemetry.Ingestion
import EmotoFleet.Telemetry.IsoTimestamps
import EmotoFleet.Telemetry.RulesEngine
import Mathlib.Data.Rat.Floor

/-!
# The adapter for SinoTrack trackers

A tracker sends packets of comma-separated fields over a socket. The third field is
a command: `V1` and `V8` carry a position, some others answer to commands of the
server, and the rest count as signs of life. A packet with a position is read field
by field, filtered, stored, cached and handed to the rules.

The state is what the packets of one tracker read and write. The numbers are doubles, and
what floating point calls infinite is a number from `infinity` on. The socket, the queue of
pending commands, the stream and the trip builder change nothing here and are left out, as
are the texts of the errors, which only reach the log.
-/

namespace EmotoFleet.SinoTrack

open CivilDates Expiring LiveState TheftRules Ingestion
open Doubles (toDouble)
open WhiteSpace (isSpace)

/-- The characters of a field. -/
abbrev Letters := List Char

section Numbers

/-- The field without the white space around it. -/
def trim (text : Letters) : Letters := WhiteSpace.trimLetters text

/-- The value of a letter as a digit of some base. -/
def digitValue (letter : Char) : Option Nat :=
  if '0' ≤ letter ∧ letter ≤ '9' then some (letter.toNat - '0'.toNat)
  else if 'a' ≤ letter ∧ letter ≤ 'z' then some (letter.toNat - 'a'.toNat + 10)
  else if 'A' ≤ letter ∧ letter ≤ 'Z' then some (letter.toNat - 'A'.toNat + 10)
  else none

def isDigit (radix : Nat) (letter : Char) : Bool :=
  (digitValue letter).any fun digit => decide (digit < radix)

def digitsValue (radix : Nat) (text : Letters) : Nat :=
  text.foldl (fun value letter => value * radix + (digitValue letter).getD 0) 0

/-- The sign at the beginning of a number, and what follows it. -/
def splitSign : Letters → Int × Letters
  | '-' :: rest => (-1, rest)
  | '+' :: rest => (1, rest)
  | text => (1, text)

/-- The prefix of a hexadecimal number. -/
def dropHexMark : Letters → Letters
  | '0' :: 'x' :: rest => rest
  | '0' :: 'X' :: rest => rest
  | text => text

/-- `parseInt` reads as many digits as there are; without one there is no number. -/
def parseInt (radix : Nat) (text : Letters) : Option Int :=
  let (sign, unsigned) := splitSign (text.dropWhile isSpace)
  let number := (if radix = 16 then dropHexMark unsigned else unsigned).takeWhile (isDigit radix)
  if number.isEmpty then none else some (sign * digitsValue radix number)

/-- The fractional digits after a whole number, and what follows them. -/
def splitFraction : Letters → Letters × Letters
  | '.' :: rest => (rest.takeWhile (isDigit 10), rest.dropWhile (isDigit 10))
  | text => ([], text)

/-- The exponent after a decimal number, zero where none is written. -/
def readExponent (text : Letters) : Int :=
  match text with
  | 'e' :: rest | 'E' :: rest =>
    let (sign, unsigned) := splitSign rest
    sign * digitsValue 10 (unsigned.takeWhile (isDigit 10))
  | _ => 0

/-- The first power of two beyond the doubles. -/
def infinity : ℚ := 2 ^ 1024

def isFinite (number : ℚ) : Bool := decide (|number| < infinity)

/-- The longest decimal number at the beginning of a text. -/
def parseDecimal (text : Letters) : Option ℚ :=
  let (sign, unsigned) := splitSign (text.dropWhile isSpace)
  let whole := unsigned.takeWhile (isDigit 10)
  let (fraction, rest) := splitFraction (unsigned.dropWhile (isDigit 10))
  if "Infinity".toList.isPrefixOf unsigned then some (sign * infinity)
  else if whole.isEmpty && fraction.isEmpty then none
  else
    some (sign * digitsValue 10 (whole ++ fraction) / 10 ^ fraction.length * 10 ^ readExponent rest)

/-- `parseFloat` reads a decimal number as the nearest double. -/
def parseFloat (text : Letters) : Option ℚ := (parseDecimal text).map toDouble

/-- `Math.round` rounds halves upwards. -/
def mathRound (number : ℚ) : ℚ := ⌊number + 1 / 2⌋

end Numbers

/-- What makes a packet with a position unreadable. -/
inductive PacketError where
  | fewerParts (length : Nat)
  | coordinatesEmpty
  | malformedLatitude (latStr : Letters)
  | malformedLongitude (lngStr : Letters)
  | coordinatesNotFinite
  | speedNotNumeric (speedStr : Letters)
  | malformedDateTime (dateStr timeStr : Letters)
  | dateTimeNotNumeric
  | storageFailed
deriving DecidableEq

section Fields

/-- Degrees and minutes together. -/
def degreesOf (degrees minutes : ℚ) : ℚ := toDouble (degrees + toDouble (minutes / 60))

/-- Degrees and minutes, divided two digits before the decimal point. -/
def parseDegrees (text : Letters) (malformed : PacketError) : Except PacketError (Option ℚ) :=
  match text.findIdx? (· == '.') with
  | none => .error malformed
  | some point =>
    if point < 2 then .error malformed
    else .ok do
      let degrees ← parseFloat (text.take (point - 2))
      let minutes ← parseFloat (text.drop (point - 2))
      guard (isFinite degrees && isFinite minutes && isFinite (degreesOf degrees minutes))
      return degreesOf degrees minutes

def parseCoordinates (latStr latHem lngStr lngHem : Letters) : Except PacketError (ℚ × ℚ) := do
  if latStr.isEmpty || lngStr.isEmpty then throw .coordinatesEmpty
  let lat ← parseDegrees latStr (.malformedLatitude latStr)
  let lng ← parseDegrees lngStr (.malformedLongitude lngStr)
  match lat, lng with
  | some lat, some lng =>
    return (if latHem == ['S'] then -lat else lat, if lngHem == ['W'] then -lng else lng)
  | _, _ => throw .coordinatesNotFinite

/-- `Date.UTC`: months beyond the year and days beyond the month carry over. -/
def dateUTC (year monthIndex day hour minute second : Int) : Int :=
  let civilYear := (year + monthIndex / 12).toNat
  let month := (monthIndex % 12).toNat + 1
  let firstOfMonth : Int := (daysBeforeYear civilYear : Int) +
    daysBeforeMonth (isLeapYear civilYear) month - daysBeforeYear 1970
  (firstOfMonth + day - 1) * 86400000 + hour * 3600000 + minute * 60000 + second * 1000

/-- The instant of a date `ddmmyy` and a time `hhmmss`. -/
def parseDateTime (dateStr timeStr : Letters) : Except PacketError Int := do
  if dateStr.length ≠ 6 ∨ timeStr.length ≠ 6 then throw (.malformedDateTime dateStr timeStr)
  let pair (text : Letters) (start : Nat) : Option Int := parseInt 10 ((text.drop start).take 2)
  match pair dateStr 0, pair dateStr 2, pair dateStr 4, pair timeStr 0, pair timeStr 2,
    pair timeStr 4 with
  | some dd, some mm, some yy, some hh, some min, some ss =>
    return dateUTC (2000 + yy) (mm - 1) dd hh min ss
  | _, _, _, _, _, _ => throw .dateTimeNotNumeric

/-- The server's timestamp of an instant. Two digits reach no year that is spelled with
more than four. -/
def timestampOf (epochMs : Int) : Timestamp :=
  ⟨String.ofList ((IsoDateTime.toISOString epochMs).elim [] IsoDateTime.letters), epochMs⟩

/-- Battery voltage and percentage, as far as they are known. -/
structure BatteryInfo where
  batteryV : Option ℚ
  batteryPct : Option ℚ
deriving DecidableEq

/-- Digits with an optional fraction, followed by a `v` of either case. -/
def isVoltText (text : Letters) : Bool :=
  let rest := text.dropWhile (isDigit 10)
  let (fraction, unit) := splitFraction rest
  !(text.takeWhile (isDigit 10)).isEmpty && (unit == ['v'] || unit == ['V']) &&
    (rest == unit || !fraction.isEmpty)

/-- Digits followed by a percent sign and anything else. -/
def isPercentText (text : Letters) : Bool :=
  !(text.takeWhile (isDigit 10)).isEmpty && (text.dropWhile (isDigit 10)).head? == some '%'

/-- The level of a ratio; the sixth of six levels is sent as 0.6. -/
def levelOf (ratio : ℚ) : ℚ :=
  if ratio = toDouble (3 / 5) then 100 else mathRound (toDouble (ratio * 100))

/-- What a bare number says about the battery: volts, millivolts or a level. -/
def readBatteryNumber (num : ℚ) (info : BatteryInfo) : BatteryInfo :=
  if 3 ≤ num ∧ num ≤ 120 ∧ info.batteryV = none then { info with batteryV := some num }
  else if 120 < num ∧ num ≤ 120000 ∧ info.batteryV = none then
    { info with batteryV := some (toDouble (num / 1000)) }
  else if 0 < num ∧ num ≤ 1 ∧ info.batteryPct = none then
    { info with batteryPct := some (levelOf num) }
  else info

/-- The extended fields one after another; a voltage with its unit ends the search. -/
def scanBattery : List Letters → BatteryInfo → BatteryInfo
  | [], info => info
  | part :: rest, info =>
    let text := trim part
    if text.isEmpty then scanBattery rest info
    else if isVoltText text then
      match parseFloat text.dropLast with
      | some val =>
        if 0 < val ∧ val ≤ 200 then { info with batteryV := some val } else scanBattery rest info
      | none => scanBattery rest info
    else if isPercentText text then
      match parseFloat (text.erase '%') with
      | some pct =>
        if 0 ≤ pct ∧ pct ≤ 100 then scanBattery rest { info with batteryPct := some pct }
        else scanBattery rest info
      | none => scanBattery rest info
    else
      match parseFloat text with
      | some num => scanBattery rest (readBatteryNumber num info)
      | none => scanBattery rest info

/-- The charge between an empty voltage and a full one, as a percentage. -/
def chargePct (batteryV empty span : ℚ) : ℚ :=
  let charge := toDouble (toDouble (batteryV - toDouble empty) / toDouble span)
  min 100 (max 0 (mathRound (toDouble (charge * 100))))

/-- The percentage that a voltage stands for; less than three volts is no voltage. -/
def rateVoltage (batteryV : ℚ) (info : BatteryInfo) : BatteryInfo :=
  if batteryV < 3 then
    ⟨none, info.batteryPct.or (some (levelOf batteryV))⟩
  else if 58 < batteryV ∧ batteryV ≤ 90 then { info with batteryPct := some (chargePct batteryV 60 24) }
  else if 46 < batteryV ∧ batteryV ≤ 58 then { info with batteryPct := some (chargePct batteryV 50 20) }
  else if 35 < batteryV ∧ batteryV ≤ 46 then
    { info with batteryPct := some (chargePct batteryV 40 (73 / 5)) }
  else if 15 < batteryV ∧ batteryV ≤ 35 then
    { info with batteryPct := some (chargePct batteryV 19 (17 / 2)) }
  else if 6 < batteryV ∧ batteryV ≤ 15 then
    { info with batteryPct := some (chargePct batteryV (21 / 2) (33 / 10)) }
  else if 3 ≤ batteryV ∧ batteryV ≤ 6 then
    { info with batteryPct := some (chargePct batteryV (7 / 2) (7 / 10)) }
  else info

/-- The fields after the cell towers, where the packet has those. -/
def extractBatteryInfo (parts : List Letters) : BatteryInfo :=
  let startIndex := if parts.length ≥ 17 then 17 else 13
  let scanned :=
    if parts.length > 13 then scanBattery (parts.drop startIndex) ⟨none, none⟩ else ⟨none, none⟩
  match scanned.batteryV with
  | some batteryV => rateVoltage batteryV scanned
  | none => scanned

/-- A bit of a number in two's complement. -/
def bit (index : Nat) (number : Int) : Bool := number / 2 ^ index % 2 == 1

def powerCutCommands : List Letters :=
  ["EXPOWER".toList, "POWERCUT".toList, "POWEROFF".toList]

def alarmByte (statusHex : Letters) : Option Int := parseInt 16 ((statusHex.drop 2).take 2)

def thirdByte (statusHex : Letters) : Option Int := parseInt 16 ((statusHex.drop 4).take 2)

/-- The ignition and the power cut that a packet reports by its command or its status. -/
def readStatus (command statusHex : Letters) : Bool × Bool :=
  if powerCutCommands.contains command then (true, true)
  else if statusHex.length ≥ 6 then
    ((thirdByte statusHex).elim true (bit 2),
      (alarmByte statusHex).any (fun alarm => alarm == 2 || alarm == 10) ||
        (thirdByte statusHex).any fun third => !bit 0 third)
  else (true, false)

end Fields

/-- Knots in kilometres an hour. -/
def kphOf (speedKnots : ℚ) : ℚ := toDouble (speedKnots * toDouble (1852 / 1000))

/-- A packet with a position, read. -/
structure Reading where
  lat : ℚ
  lng : ℚ
  speedKph : ℚ
  heading : Option ℚ
  ts : Timestamp
  battery : BatteryInfo
  ignition : Bool
  mainPowerCut : Bool
deriving DecidableEq

/-- A field by its position; a missing one is empty. -/
def field (parts : List Letters) (index : Nat) : Letters := (parts[index]?).getD []

def readPacket (parts : List Letters) : Except PacketError Reading := do
  let (lat, lng) ← parseCoordinates (field parts 5) (field parts 6) (field parts 7) (field parts 8)
  let speedKnots ←
    match parseFloat (field parts 9) with
    | some speedKnots => pure speedKnots
    | none => throw (.speedNotNumeric (field parts 9))
  let epochMs ← parseDateTime (field parts 11) (field parts 3)
  let battery := extractBatteryInfo parts
  let (ignition, powerCut) := readStatus (field parts 2) (field parts 12)
  -- At six volts or less the tracker runs on its internal backup battery.
  let onBackup := battery.batteryV.any fun batteryV => decide (0 < batteryV ∧ batteryV ≤ 6)
  return { lat, lng, speedKph := kphOf speedKnots, heading := parseFloat (field parts 10),
           ts := timestampOf epochMs, battery, ignition, mainPowerCut := powerCut || onBackup }

/-- A reading with given numbers for the position, the speed and the instant. -/
def readingOf (parts : List Letters) (lat lng speedKnots : ℚ) (epochMs : Int) : Reading :=
  { lat, lng, speedKph := kphOf speedKnots, heading := parseFloat (field parts 10),
    ts := timestampOf epochMs, battery := extractBatteryInfo parts,
    ignition := (readStatus (field parts 2) (field parts 12)).1,
    mainPowerCut := (readStatus (field parts 2) (field parts 12)).2 ||
      (extractBatteryInfo parts).batteryV.any fun batteryV =>
        decide (0 < batteryV ∧ batteryV ≤ 6) }

/-- A packet is read from its coordinates, its speed and its instant. -/
theorem readPacket_ok_iff {parts : List Letters} {reading : Reading} :
    readPacket parts = .ok reading ↔
      ∃ lat lng speedKnots epochMs,
        parseCoordinates (field parts 5) (field parts 6) (field parts 7) (field parts 8) =
            .ok (lat, lng) ∧
          parseFloat (field parts 9) = some speedKnots ∧
          parseDateTime (field parts 11) (field parts 3) = .ok epochMs ∧
          reading = readingOf parts lat lng speedKnots epochMs := by
  simp only [readPacket, bind, Except.bind]
  cases parseCoordinates (field parts 5) (field parts 6) (field parts 7) (field parts 8) with
  | error refused => simp
  | ok position =>
    cases parseFloat (field parts 9) with
    | none => simp [throw, throwThe, MonadExceptOf.throw]
    | some speedKnots =>
      cases parseDateTime (field parts 11) (field parts 3) with
      | error refused => simp [pure, Except.pure]
      | ok epochMs =>
        simp only [pure, Except.pure, Except.ok.injEq]
        constructor
        case mp =>
          rintro rfl
          exact ⟨position.1, position.2, speedKnots, epochMs, rfl, rfl, rfl, rfl⟩
        case mpr =>
          rintro ⟨_, _, _, _, rfl, equal, rfl, rfl⟩
          rw [Option.some.inj equal]
          rfl

inductive DeviceStatus where
  | ACTIVE
  | INACTIVE
  | RETIRED
deriving DecidableEq

structure Tracker extends DeviceForIngestion where
  imei : Option Letters
  status : DeviceStatus
deriving DecidableEq

/-- A packet as it arrives: the clock, the text, what the database says about its
position, whether storing the point or the live state fails, and how the calls that
store events end. -/
structure RawPacket where
  now : Int
  text : Letters
  activeZones : List RulesEngine.GeofenceZone
  insideZoneIds : List String
  nearbyFeatures : Option (List RulesEngine.RoadFeature)
  storageFails : Bool
  outcome : RulesEngine.Alert → RulesEngine.Outcome

/-- What the packets of one tracker read and write. -/
structure TrackerState where
  liveState : Cell LiveBikeState
  telemetry : List TelemetryPoint
  lastSeenAt : Option Int
  engine : RulesEngine.EngineState

section Handlers

variable (settings : RulesEngine.Settings) (distance : ℚ → ℚ → ℚ → ℚ → ℚ)
variable (device : Tracker) (packet : RawPacket)

/-- The payload of a reading, after the drift filter. -/
def buildPayload (state : TrackerState) (reading : Reading) : TelemetryPayload :=
  let filtered := filterStationaryDrift distance state.liveState packet.now device.bikeId
    ⟨reading.lat, reading.lng, reading.speedKph, some reading.ignition⟩
  { ts := reading.ts, lat := filtered.lat, lng := filtered.lng, speedKph := filtered.speedKph,
    heading := reading.heading, batteryV := reading.battery.batteryV,
    batteryPct := reading.battery.batteryPct, ignition := some reading.ignition,
    mainPowerCut := some reading.mainPowerCut }

/-- The packet that the rules see. The tracker measures no acceleration. -/
def rulePacket (payload : TelemetryPayload) : RulesEngine.Packet where
  now := packet.now
  payload := { payload with accel := none }
  activeZones := packet.activeZones
  insideZoneIds := packet.insideZoneIds
  nearbyFeatures := packet.nearbyFeatures
  outcome := packet.outcome

/-- A sign of life renews the timestamp of the cached state. -/
def processHeartbeatPacket (state : TrackerState) : TrackerState :=
  let liveState :=
    match device.bikeId, read state.liveState packet.now with
    | some _, some cached =>
      setLatestBikeState state.liveState packet.now { cached with ts := timestampOf packet.now }
    | _, _ => state.liveState
  { state with liveState, lastSeenAt := some packet.now }

def processTelemetryPacket (parts : List Letters) (state : TrackerState) :
    Except PacketError TrackerState := do
  if parts.length < 13 then throw (.fewerParts parts.length)
  if field parts 4 ≠ ['A'] then return processHeartbeatPacket device packet state
  let reading ← readPacket parts
  let payload := buildPayload distance device packet state reading
  if packet.storageFails then throw .storageFailed
  let telemetry := upsertTelemetryPoint state.telemetry
    { ts := payload.ts.epochMs, lat := payload.lat, lng := payload.lng,
      speedKph := payload.speedKph, heading := payload.heading, batteryV := payload.batteryV,
      batteryPct := payload.batteryPct, ignition := payload.ignition }
  let liveState :=
    match device.bikeId with
    | some bikeId => setLatestBikeState state.liveState packet.now
        (buildLiveBikeState device.toDeviceForIngestion bikeId payload)
    | none => state.liveState
  let engine := RulesEngine.evaluateTelemetry (rulePacket packet payload) settings distance
    state.engine
  return { liveState, telemetry, lastSeenAt := some packet.now, engine }

def isPositionCommand (command : Letters) : Bool :=
  command == "V1".toList || command == "V8".toList

def isAckCommand (command : Letters) : Bool :=
  command == "S20".toList || "94".toList.isPrefixOf command || command == "555".toList ||
    command == "666".toList || command == "R12".toList

/-- The fields of a packet between the header and the end mark. -/
def splitPacket (text : Letters) : Option (List Letters) :=
  let trimmed := trim text
  if "*HQ".toList.isPrefixOf trimmed then
    let content := if trimmed.getLast? = some '#' then trimmed.dropLast else trimmed
    let parts := content.splitOn ','
    if parts.length < 3 then none else some parts
  else none

/-- Finds the device by its hardware identifier or the one that it was registered with. -/
def loadDeviceByImei (devices : List Tracker) (imei : Letters) : Option Tracker :=
  devices.find? fun device => device.imei == some imei || device.deviceUid.toList == imei

/-- The commands of the packet, for a device that is known. -/
def dispatch (parts : List Letters) (state : TrackerState) : Except PacketError TrackerState :=
  if isPositionCommand (field parts 2) then
    processTelemetryPacket settings distance device packet parts state
  else if isAckCommand (field parts 2) then .ok state
  else .ok (processHeartbeatPacket device packet state)

/-- The state of the packet's tracker after the packet. What goes wrong is caught. -/
def processRawPacket (devices : List Tracker) (state : TrackerState) : TrackerState :=
  match splitPacket packet.text with
  | none => state
  | some parts =>
    match loadDeviceByImei devices (field parts 1) with
    | none => state
    | some device =>
      if device.status ≠ .ACTIVE then state
      else
        match dispatch settings distance device packet parts state with
        | .ok next => next
        | .error _ => state

end Handlers

end EmotoFleet.SinoTrack
