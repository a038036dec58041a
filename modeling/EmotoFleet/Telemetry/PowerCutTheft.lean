import EmotoFleet.Telemetry.SinoTrack
import Mathlib.Data.List.Find

/-!
# Theft suspicions about a cut power supply

A cut of the main power is reported in four ways: by a command of its own, by an
alarm number, by a cleared bit of the status, and by the low voltage of the tracker's
backup battery. A report from a bike in use calls for a critical theft suspicion,
unless one has been stored within five minutes.

Several things come in between. Only two commands carry a position that is read. The
drift filter takes away the speed of a packet whose ignition is off. The event shares
its type and its instant with those of the other theft rules, of which the table
admits one. The main result says exactly when the suspicion is stored nevertheless.
-/

namespace EmotoFleet.PowerCutTheft

open Expiring LiveState RulesEngine SinoTrack

/-- Whether a row is of a suspected theft. -/
def isTheft (row : EventRow) : Bool := row.type == .THEFT_SUSPECTED

/-- Whether a row is of a critical one. -/
def isCritical (row : EventRow) : Bool := isTheft row && row.severity == .CRITICAL

/-- A critical theft suspicion has been stored within the last five minutes. -/
def Raised (now : Int) (engine : EngineState) : Prop :=
  ∃ row ∈ engine.events, isCritical row = true ∧ row.createdAt ≤ now ∧
    now < row.createdAt + TheftRules.THEFT_EVENT_COOLDOWN_SECONDS * 1000

/-- Of alerts with one type, the first whose key is free decides: its event is stored
or its rule ends. -/
def storesOne (packet : RulesEngine.Packet) (state : EngineState) (alerts : List Alert) : Bool :=
  (alerts.find? fun alert => decide (Free packet state alert)).any fun alert =>
    packet.outcome alert != .fails

/-- What the table and the keys require of the power cut alert. -/
structure Stores (packet : RulesEngine.Packet) (state : EngineState) : Prop where
  free : Free packet state powerCutAlert
  succeeds : packet.outcome powerCutAlert ≠ .fails
  vacant : occupied packet state.events .THEFT_SUSPECTED = false
  alone : storesOne packet state
    (evaluateTheft packet (read state.movementStart packet.now)) = false

instance (packet : RulesEngine.Packet) (state : EngineState) : Decidable (Stores packet state) :=
  decidable_of_iff
    (Free packet state powerCutAlert ∧ packet.outcome powerCutAlert ≠ .fails ∧
      occupied packet state.events .THEFT_SUSPECTED = false ∧
      storesOne packet state (evaluateTheft packet (read state.movementStart packet.now)) = false)
    ⟨fun ⟨free, succeeds, vacant, alone⟩ => ⟨free, succeeds, vacant, alone⟩,
      fun stores => ⟨stores.free, stores.succeeds, stores.vacant, stores.alone⟩⟩

/-- Two states that the theft rules cannot tell apart. -/
structure SameTheft (left right : EngineState) : Prop where
  keys : ∀ key, key.eventType = .THEFT_SUSPECTED → left.keys key = right.keys key
  rows : left.events.filter isTheft = right.events.filter isTheft

section Engine

variable {packet : RulesEngine.Packet} {state : EngineState}

/-- A theft is stored already exactly when one of the same instant is. -/
theorem occupied_theft (events : List EventRow) :
    occupied packet events .THEFT_SUSPECTED =
      (events.filter isTheft).any fun row => row.ts == packet.payload.ts.epochMs := by
  induction events with
  | nil => rfl
  | cons row rest inductionHypothesis =>
    simp only [occupied] at inductionHypothesis ⊢
    by_cases theft : isTheft row = true
    · rw [List.filter_cons_of_pos theft, List.any_cons, List.any_cons, inductionHypothesis]
      simp [show (row.type == EventType.THEFT_SUSPECTED) = true from theft]
    · rw [List.filter_cons_of_neg theft, List.any_cons, inductionHypothesis]
      have other : (row.type == EventType.THEFT_SUSPECTED) = false := by simpa [isTheft] using theft
      rw [other, Bool.and_false, Bool.false_or]

/-- The critical rows are among the thefts. -/
theorem filter_isCritical (events : List EventRow) :
    events.filter isCritical = (events.filter isTheft).filter fun row => row.severity == .CRITICAL := by
  rw [List.filter_filter]
  congr 1
  funext row
  exact Bool.and_comm ..

/-- Ordinary alerts leave the thefts. -/
theorem sameTheft_ordinary {other : EngineState} {rule : List Alert} (same : SameTheft state other)
    (ordinary : ∀ alert ∈ rule, Ordinary alert) : SameTheft (emitAll packet state rule) other := by
  refine emitAll_induction (fun next => SameTheft next other) ?_ same
  intro alert member next unchanged
  have foreign := (ordinary alert member).ordinary
  have keyed := (ordinary alert member).typed
  have keys : ∀ key, key.eventType = .THEFT_SUSPECTED →
      (claimKey packet next alert).keys key = other.keys key := by
    intro key theft
    have different : key ≠ alert.key := fun equal => foreign (by rw [keyed, ← equal, theft])
    rw [← unchanged.keys key theft]
    exact Function.update_of_ne different ..
  rcases emit_cases packet next alert with ⟨_, emitted⟩ | ⟨_, _, emitted⟩ | ⟨_, _, _, emitted⟩
  · rw [emitted]
    exact unchanged
  · rw [emitted]
    exact ⟨keys, unchanged.rows⟩
  · rw [emitted]
    refine ⟨keys, ?_⟩
    simp [storeAlert, isTheft, foreign, ← unchanged.rows]

/-- Ordinary rules leave the thefts. -/
theorem sameTheft_runRules {other : EngineState} {rules : List (List Alert)}
    (same : SameTheft state other) (ordinary : ∀ rule ∈ rules, ∀ alert ∈ rule, Ordinary alert) :
    SameTheft (runRules packet state rules) other := by
  induction rules generalizing state with
  | nil => exact same
  | cons rule rest inductionHypothesis =>
    rw [runRules_cons]
    exact inductionHypothesis (sameTheft_ordinary same (ordinary rule (List.mem_cons_self ..)))
      fun later listed => ordinary later (List.mem_cons_of_mem _ listed)

/-- The alerts of the first theft rule concern theft, are not critical, and leave the
key of the power cut alone. -/
theorem evaluateTheft_alert {start : Option Timestamp} {alert : Alert}
    (member : alert ∈ evaluateTheft packet start) :
    alert.type = .THEFT_SUSPECTED ∧ alert.key.eventType = .THEFT_SUSPECTED ∧
      alert.severity = .HIGH ∧ alert.key ≠ .THEFT_POWER_CUT := by
  rcases List.mem_append.mp member with moving | night
  · rw [(movementAlerts_eq moving).2]
    exact ⟨rfl, rfl, rfl, by decide⟩
  · rw [nightAlerts_eq night]
    exact ⟨rfl, rfl, rfl, by decide⟩

/-- A stored alert is stored. -/
theorem occupied_storeAlert (alert : Alert) :
    occupied packet (storeAlert packet state alert).events alert.type = true := by
  simp [occupied, storeAlert]

/-- A stored alert stays stored. -/
theorem occupied_append {events more : List EventRow} {type : EventType}
    (taken : occupied packet events type = true) : occupied packet (events ++ more) type = true := by
  rw [occupied, List.any_append]
  rw [occupied] at taken
  rw [taken, Bool.true_or]

/-- The first theft rule takes the slot of its type at the packet's instant if one of its
alerts is stored. -/
theorem occupied_evaluateTheft {alerts : List Alert}
    (theft : ∀ alert ∈ alerts, alert.type = .THEFT_SUSPECTED) :
    occupied packet (emitAll packet state alerts).events .THEFT_SUSPECTED =
      (occupied packet state.events .THEFT_SUSPECTED || storesOne packet state alerts) := by
  induction alerts with
  | nil => exact (Bool.or_false _).symm
  | cons alert rest inductionHypothesis =>
    have ofType := theft alert (List.mem_cons_self ..)
    have restTheft : ∀ other ∈ rest, other.type = .THEFT_SUSPECTED := fun other member =>
      theft other (List.mem_cons_of_mem _ member)
    rw [emitAll, storesOne]
    rcases emit_cases packet state alert with ⟨held, emitted⟩ | ⟨free, refused, emitted⟩ |
      ⟨free, succeeds, _, emitted⟩
    · rw [emitted, List.find?_cons_of_neg (by simpa using held)]
      exact inductionHypothesis restTheft
    · rw [emitted, List.find?_cons_of_pos (by simpa using free)]
      rcases refused with fails | taken
      · simp [fails, claimKey]
      · rw [ofType] at taken
        simp [taken, claimKey]
    · rw [emitted, List.find?_cons_of_pos (by simpa using free)]
      have slot : occupied packet (storeAlert packet state alert).events alert.type = true :=
        occupied_storeAlert alert
      rw [ofType] at slot
      have kept : ∀ next, occupied packet next.events .THEFT_SUSPECTED = true →
          occupied packet (emitAll packet next rest).events .THEFT_SUSPECTED = true := by
        intro next taken
        refine emitAll_induction
          (fun after => occupied packet after.events .THEFT_SUSPECTED = true) ?_ taken
        intro other _ after stillTaken
        rcases emit_cases packet after other with ⟨_, same⟩ | ⟨_, _, same⟩ | ⟨_, _, _, same⟩
        · rw [same]
          exact stillTaken
        · rw [same]
          exact stillTaken
        · rw [same]
          exact occupied_append stillTaken
      have stores : (packet.outcome alert != .fails) = true := by simpa using succeeds
      cases returned : packet.outcome alert != .commitsThenThrows with
      | true => simp [kept _ slot, stores]
      | false => simp [slot, stores]

/-- It leaves the key of the power cut and the critical events as they are. -/
theorem critical_evaluateTheft (start : Option Timestamp) :
    (emitAll packet state (evaluateTheft packet start)).keys .THEFT_POWER_CUT =
        state.keys .THEFT_POWER_CUT ∧
      (emitAll packet state (evaluateTheft packet start)).events.filter isCritical =
        state.events.filter isCritical := by
  refine emitAll_induction (fun next => next.keys .THEFT_POWER_CUT = state.keys .THEFT_POWER_CUT ∧
    next.events.filter isCritical = state.events.filter isCritical) ?_ ⟨rfl, rfl⟩
  intro alert member next unchanged
  obtain ⟨_, _, high, foreign⟩ := evaluateTheft_alert member
  have key : (claimKey packet next alert).keys .THEFT_POWER_CUT = state.keys .THEFT_POWER_CUT := by
    rw [← unchanged.1]
    exact Function.update_of_ne foreign.symm ..
  rcases emit_cases packet next alert with ⟨_, emitted⟩ | ⟨_, _, emitted⟩ | ⟨_, _, _, emitted⟩
  · rw [emitted]
    exact unchanged
  · rw [emitted]
    exact ⟨key, unchanged.2⟩
  · rw [emitted]
    refine ⟨key, ?_⟩
    simp [storeAlert, isCritical, high, ← unchanged.2]

/-- The power cut rule stores its event when its key is free and the slot is vacant. -/
theorem critical_evaluatePowerCut :
    (emitAll packet state (evaluatePowerCut packet)).events.filter isCritical =
      state.events.filter isCritical ++
        if evaluatePowerCut packet = [powerCutAlert] ∧ Free packet state powerCutAlert ∧
            packet.outcome powerCutAlert ≠ .fails ∧
            occupied packet state.events .THEFT_SUSPECTED = false then
          [⟨packet.payload.ts.epochMs, .THEFT_SUSPECTED, .CRITICAL, packet.now⟩]
        else [] := by
  have silent_or_alert : evaluatePowerCut packet = [] ∨ evaluatePowerCut packet = [powerCutAlert] := by
    rw [evaluatePowerCut]
    split
    · exact Or.inr rfl
    · exact Or.inl rfl
  rcases silent_or_alert with silent | called
  · rw [silent]
    simp [emitAll]
  · rw [called]
    have single : emitAll packet state [powerCutAlert] =
        (emitWithCooldown packet state powerCutAlert).1 := by
      rw [emitAll]
      cases emitWithCooldown packet state powerCutAlert with
      | mk next returned => cases returned <;> rfl
    rw [single]
    rcases emit_cases packet state powerCutAlert with ⟨held, emitted⟩ | ⟨_, refused, emitted⟩ |
      ⟨free, succeeds, vacant, emitted⟩
    · rw [emitted, if_neg fun stores => held stores.2.1, List.append_nil]
    · rw [emitted, if_neg, List.append_nil]
      · rfl
      · rintro ⟨_, _, succeeds, vacant⟩
        rcases refused with fails | taken
        · exact succeeds fails
        · rw [show powerCutAlert.type = .THEFT_SUSPECTED from rfl, vacant] at taken
          cases taken
    · rw [emitted, if_pos ⟨rfl, free, succeeds, vacant⟩]
      simp [storeAlert, isCritical, isTheft, powerCutAlert]

/-- Tracking the movement sets only its own key. -/
theorem keys_trackMovement {key : CooldownKey} (other : key ≠ .theftMovementActive) :
    (trackMovement packet state).keys key = state.keys key := by
  unfold trackMovement
  split
  · split <;> rfl
  · exact Function.update_of_ne other ..

/-- Noting the movement frees none of the keys that the first theft rule is going to use. -/
theorem free_trackMovement_iff {start : Option Timestamp} {alert : Alert}
    (member : alert ∈ evaluateTheft packet start) :
    Free packet (trackMovement packet state) alert ↔ Free packet state alert := by
  have same : (trackMovement packet state).keys alert.key = state.keys alert.key := by
    rcases List.mem_append.mp member with moving | night
    · unfold trackMovement
      rw [if_pos (movementAlerts_eq moving).1]
      split <;> rfl
    · rw [nightAlerts_eq night]
      exact keys_trackMovement (by decide)
  rw [Free, Free, same]

variable (settings : Settings) (distance : ℚ → ℚ → ℚ → ℚ → ℚ) (packet state)

/-- The engine when the power cut rule begins. -/
def beforePowerCut : EngineState :=
  emitAll packet (trackMovement packet (runRules packet state (earlyRules packet settings state)))
    (evaluateTheft packet (read state.movementStart packet.now))

/-- The rules before the power cut, the power cut and the rules after it. -/
theorem evaluateTelemetry_eq :
    evaluateTelemetry packet settings distance state =
      storeLastSpeedState packet (runRules packet
        (emitAll packet (beforePowerCut packet state settings) (evaluatePowerCut packet))
        [evaluateRoadSafety settings distance packet, evaluateWorkBoundary packet]) := by
  rw [evaluateTelemetry, lateRules, (runRules_samples state (earlyRules packet settings state)).1]
  rfl

/-- What the power cut rule finds was decided before the packet. -/
theorem beforePowerCut_stores_iff :
    (Free packet (beforePowerCut packet state settings) powerCutAlert ∧
      packet.outcome powerCutAlert ≠ .fails ∧
      occupied packet (beforePowerCut packet state settings).events .THEFT_SUSPECTED = false) ↔
      Stores packet state := by
  have same : SameTheft (runRules packet state (earlyRules packet settings state)) state :=
    sameTheft_runRules ⟨fun _ _ => rfl, rfl⟩ fun rule listed alert member =>
      earlyRules_ordinary listed member
  have key : (beforePowerCut packet state settings).keys .THEFT_POWER_CUT =
      state.keys .THEFT_POWER_CUT := by
    rw [beforePowerCut, (critical_evaluateTheft _).1, keys_trackMovement (by decide)]
    exact same.keys _ rfl
  have free : Free packet (beforePowerCut packet state settings) powerCutAlert ↔
      Free packet state powerCutAlert := by
    rw [Free, Free, powerCutAlert, key]
  have earlier : occupied packet (trackMovement packet
        (runRules packet state (earlyRules packet settings state))).events .THEFT_SUSPECTED =
      occupied packet state.events .THEFT_SUSPECTED := by
    rw [(trackMovement_events _).1, occupied_theft, occupied_theft, same.rows]
  have decided : storesOne packet (trackMovement packet
        (runRules packet state (earlyRules packet settings state)))
        (evaluateTheft packet (read state.movementStart packet.now)) =
      storesOne packet state (evaluateTheft packet (read state.movementStart packet.now)) := by
    rw [storesOne, storesOne, List.find?_congr]
    intro alert member
    rw [decide_eq_decide, free_trackMovement_iff member, Free, Free,
      same.keys _ (evaluateTheft_alert member).2.1]
  have slot : occupied packet (beforePowerCut packet state settings).events .THEFT_SUSPECTED =
      (occupied packet state.events .THEFT_SUSPECTED || storesOne packet state
        (evaluateTheft packet (read state.movementStart packet.now))) := by
    rw [← earlier, ← decided]
    exact occupied_evaluateTheft fun alert member => (evaluateTheft_alert member).1
  rw [free, slot, Bool.or_eq_false_iff]
  constructor
  · intro ⟨isFree, succeeds, vacant, alone⟩
    exact ⟨isFree, succeeds, vacant, alone⟩
  · intro stores
    exact ⟨stores.free, stores.succeeds, stores.vacant, stores.alone⟩

/-- Whether the power cut alert of a packet is stored is decided by the state before
the packet. -/
theorem critical_evaluateTelemetry :
    (evaluateTelemetry packet settings distance state).events.filter isCritical =
      state.events.filter isCritical ++
        if evaluatePowerCut packet = [powerCutAlert] ∧ Stores packet state then
          [⟨packet.payload.ts.epochMs, .THEFT_SUSPECTED, .CRITICAL, packet.now⟩]
        else [] := by
  have same : SameTheft (runRules packet state (earlyRules packet settings state)) state :=
    sameTheft_runRules ⟨fun _ _ => rfl, rfl⟩ fun rule listed alert member =>
      earlyRules_ordinary listed member
  have roads : SameTheft (runRules packet
      (emitAll packet (beforePowerCut packet state settings) (evaluatePowerCut packet))
      [evaluateRoadSafety settings distance packet, evaluateWorkBoundary packet])
      (emitAll packet (beforePowerCut packet state settings) (evaluatePowerCut packet)) := by
    refine sameTheft_runRules ⟨fun _ _ => rfl, rfl⟩ ?_
    intro rule listed alert member
    rcases List.mem_cons.mp listed with isRoads | isBoundary
    · rw [isRoads] at member
      exact evaluateRoadSafety_ordinary member
    · rw [List.mem_singleton.mp isBoundary] at member
      exact evaluateWorkBoundary_ordinary member
  have unchanged : (beforePowerCut packet state settings).events.filter isCritical =
      state.events.filter isCritical := by
    rw [beforePowerCut, (critical_evaluateTheft _).2, (trackMovement_events _).1, filter_isCritical,
      same.rows, ← filter_isCritical]
  rw [evaluateTelemetry_eq, storeLastSpeedState, filter_isCritical, roads.rows, ← filter_isCritical,
    critical_evaluatePowerCut, unchanged]
  simp only [beforePowerCut_stores_iff]

end Engine

section Reports

/-- The four forms in which the adapter recognises a cut. -/
inductive ReportsCut (parts : List Letters) : Prop where
  | command (named : field parts 2 ∈ powerCutCommands)
  | alarm (long : 6 ≤ (field parts 12).length)
      (number : alarmByte (field parts 12) = some 2 ∨ alarmByte (field parts 12) = some 10)
  | powerBit (long : 6 ≤ (field parts 12).length) (third : Int)
      (status : thirdByte (field parts 12) = some third) (cleared : bit 0 third = false)
  | backupBattery (volts : ℚ) (measured : (extractBatteryInfo parts).batteryV = some volts)
      (low : volts ≤ 6)

/-- Rating a voltage leaves it as it is. -/
theorem rateVoltage_batteryV {volts : ℚ} (info : BatteryInfo) (enough : ¬ volts < 3) :
    (rateVoltage volts info).batteryV = info.batteryV := by
  rw [rateVoltage, if_neg enough]
  repeat' split
  all_goals rfl

/-- What is given out as a voltage is at least three volts. -/
theorem extractBatteryInfo_volts {parts : List Letters} {volts : ℚ}
    (measured : (extractBatteryInfo parts).batteryV = some volts) : 3 ≤ volts := by
  simp only [extractBatteryInfo] at measured
  split at measured
  · rename_i batteryV found
    by_cases low : batteryV < 3
    · rw [rateVoltage, if_pos low] at measured
      cases measured
    · rw [rateVoltage_batteryV _ low, found] at measured
      exact Option.some.inj measured ▸ not_lt.mp low
  · rename_i absent
    rw [absent] at measured
    cases measured

/-- The fields of a packet that the power cut rule reads. -/
theorem readPacket_ok {parts : List Letters} {reading : Reading} (read : readPacket parts = .ok reading) :
    reading.ignition = (readStatus (field parts 2) (field parts 12)).1 ∧
      reading.mainPowerCut = ((readStatus (field parts 2) (field parts 12)).2 ||
        (extractBatteryInfo parts).batteryV.any fun batteryV =>
          decide (0 < batteryV ∧ batteryV ≤ 6)) := by
  obtain ⟨_, _, _, _, _, _, _, rfl⟩ := readPacket_ok_iff.mp read
  exact ⟨rfl, rfl⟩

/-- The status reports a cut by the command, the alarm number or the power bit. -/
theorem readStatus_cut_iff (command statusHex : Letters) :
    (readStatus command statusHex).2 = true ↔
      command ∈ powerCutCommands ∨ 6 ≤ statusHex.length ∧
        ((alarmByte statusHex = some 2 ∨ alarmByte statusHex = some 10) ∨
          ∃ third, thirdByte statusHex = some third ∧ bit 0 third = false) := by
  rw [readStatus]
  by_cases named : command ∈ powerCutCommands
  · simp [named]
  · by_cases long : 6 ≤ statusHex.length
    · simp [named, long, Option.any_eq_true, and_or_left, exists_or]
    · simp [named, long]

/-- The reading reports a cut exactly in the four forms. -/
theorem mainPowerCut_iff {parts : List Letters} {reading : Reading}
    (read : readPacket parts = .ok reading) : reading.mainPowerCut = true ↔ ReportsCut parts := by
  rw [(readPacket_ok read).2, Bool.or_eq_true, readStatus_cut_iff, Option.any_eq_true]
  constructor
  · rintro ((named | ⟨long, number | ⟨third, status, cleared⟩⟩) | ⟨volts, measured, low⟩)
    · exact .command named
    · exact .alarm long number
    · exact .powerBit long third status cleared
    · exact .backupBattery volts measured (of_decide_eq_true low).2
  · intro cut
    cases cut with
    | command named => exact Or.inl (Or.inl named)
    | alarm long number => exact Or.inl (Or.inr ⟨long, Or.inl number⟩)
    | powerBit long third status cleared =>
      exact Or.inl (Or.inr ⟨long, Or.inr ⟨third, status, cleared⟩⟩)
    | backupBattery volts measured low =>
      have three := extractBatteryInfo_volts measured
      exact Or.inr ⟨volts, measured, decide_eq_true ⟨by linarith, low⟩⟩

end Reports

section Packets

variable (settings : RulesEngine.Settings) (distance : ℚ → ℚ → ℚ → ℚ → ℚ)
variable {devices : List Tracker} {device : Tracker} {packet : RawPacket} {parts : List Letters}
variable {reading : Reading}

/-- A packet with a valid position of an active device on a bike reports a cut while the
bike moves or its ignition is on. -/
structure Report (devices : List Tracker) (packet : RawPacket) (device : Tracker)
    (parts : List Letters) (reading : Reading) : Prop where
  split : splitPacket packet.text = some parts
  known : loadDeviceByImei devices (field parts 1) = some device
  active : device.status = .ACTIVE
  assigned : device.bikeId.isSome = true
  complete : 13 ≤ parts.length
  valid : field parts 4 = ['A']
  read : readPacket parts = .ok reading
  cut : ReportsCut parts
  inUse : 3 < reading.speedKph ∨ reading.ignition = true

/-- What has to hold in the state before the packet for its event to be stored. -/
structure Passes (packet : RawPacket) (device : Tracker) (parts : List Letters) (reading : Reading)
    (state : TrackerState) : Prop where
  position : isPositionCommand (field parts 2) = true
  persists : packet.storageFails = false
  unparked : reading.ignition = true ∨ cachedFix state.liveState packet.now = none
  stores : Stores (rulePacket packet (buildPayload distance device packet state reading)) state.engine

/-- Behind the drift filter the power cut rule calls for its alert when the ignition is on,
or when there is no cached position to take the speed away. -/
theorem evaluatePowerCut_iff (state : TrackerState)
    (report : Report devices packet device parts reading) :
    evaluatePowerCut (rulePacket packet (buildPayload distance device packet state reading)) =
        [powerCutAlert] ↔
      reading.ignition = true ∨ cachedFix state.liveState packet.now = none := by
  have cut : reading.mainPowerCut = true := (mainPowerCut_iff report.read).mpr report.cut
  obtain ⟨bikeId, assigned⟩ := Option.isSome_iff_exists.mp report.assigned
  cases ignition : reading.ignition with
  | true => simp [evaluatePowerCut, rulePacket, buildPayload, cut, ignition]
  | false =>
    have fast : 3 < reading.speedKph := by simpa [ignition] using report.inUse
    have clamped : clampNoise reading.speedKph = reading.speedKph := by
      rw [clampNoise, if_neg (by linarith)]
    cases fix : cachedFix state.liveState packet.now with
    | none =>
      simp [evaluatePowerCut, rulePacket, buildPayload, cut, ignition, isMoving, clamped, fast,
        TheftRules.MOVEMENT_SPEED_THRESHOLD_KPH, filter_without_fix distance _ _ _ _ fix]
    | some cached =>
      simp [evaluatePowerCut, rulePacket, buildPayload, cut, ignition, isMoving, assigned,
        TheftRules.MOVEMENT_SPEED_THRESHOLD_KPH, filter_parked distance _ _ _ _ cached fix]

/-- Only a position that can be stored reaches the rules. -/
theorem processRawPacket_engine (state : TrackerState)
    (report : Report devices packet device parts reading) :
    (processRawPacket settings distance packet devices state).engine =
      if isPositionCommand (field parts 2) = true ∧ packet.storageFails = false then
        evaluateTelemetry (rulePacket packet (buildPayload distance device packet state reading))
          settings distance state.engine
      else state.engine := by
  have active : ¬ device.status ≠ .ACTIVE := not_not.mpr report.active
  rw [processRawPacket]
  simp only [report.split, report.known, if_neg active, dispatch]
  by_cases position : isPositionCommand (field parts 2) = true
  · have complete : ¬ parts.length < 13 := not_lt.mpr report.complete
    simp only [position, if_true, processTelemetryPacket, if_neg complete, report.valid, report.read,
      ne_eq, not_true_eq_false, if_false, bind, Except.bind, pure, Except.pure, true_and]
    cases packet.storageFails with
    | true => rfl
    | false => rfl
  · simp only [position, Bool.false_eq_true, if_false, false_and]
    by_cases ack : isAckCommand (field parts 2) = true
    · simp only [ack, if_true]
    · simp only [ack, Bool.false_eq_true, if_false]
      rfl

/-- A theft is raised exactly when a critical row is recent. -/
theorem raised_iff (now : Int) (engine : EngineState) :
    Raised now engine ↔ ∃ row ∈ engine.events.filter isCritical, row.createdAt ≤ now ∧
      now < row.createdAt + TheftRules.THEFT_EVENT_COOLDOWN_SECONDS * 1000 := by
  simp only [Raised, List.mem_filter, and_assoc]

/-- A reported power cut has a critical theft suspicion within five minutes exactly when
there was one before, or when the packet passes everything that comes in between. -/
theorem power_cut_raised_iff (state : TrackerState)
    (report : Report devices packet device parts reading) :
    Raised packet.now (processRawPacket settings distance packet devices state).engine ↔
      Raised packet.now state.engine ∨ Passes distance packet device parts reading state := by
  rw [processRawPacket_engine settings distance state report]
  by_cases reached : isPositionCommand (field parts 2) = true ∧ packet.storageFails = false
  · have calls := evaluatePowerCut_iff distance state report
    rw [if_pos reached, raised_iff, critical_evaluateTelemetry, raised_iff]
    by_cases stored : evaluatePowerCut (rulePacket packet
        (buildPayload distance device packet state reading)) = [powerCutAlert] ∧
        Stores (rulePacket packet (buildPayload distance device packet state reading)) state.engine
    · have passes : Passes distance packet device parts reading state :=
        ⟨reached.1, reached.2, calls.mp stored.1, stored.2⟩
      rw [if_pos stored]
      refine iff_of_true ⟨_, List.mem_append_right _ (List.mem_singleton_self _), ?_, ?_⟩
        (Or.inr passes)
      · exact le_refl _
      · show packet.now < packet.now + 300 * 1000
        omega
    · have blocked : ¬ Passes distance packet device parts reading state := fun passes =>
        stored ⟨calls.mpr passes.unparked, passes.stores⟩
      rw [if_neg stored, List.append_nil]
      exact (or_iff_left blocked).symm
  · have blocked : ¬ Passes distance packet device parts reading state := fun passes =>
      reached ⟨passes.position, passes.persists⟩
    rw [if_neg reached]
    exact (or_iff_left blocked).symm

end Packets

section Samples

/-- The state before the first packet. -/
def idle : TrackerState := ⟨none, [], none, ⟨fun _ => none, none, none, [], []⟩⟩

/-- A tracker on a bike. -/
def sampleTracker : Tracker := ⟨⟨"device", "fleet", some "bike", "9170000001"⟩, none, .ACTIVE⟩

/-- A packet without zones or features nearby, while nothing fails. -/
def samplePacket (now : Int) (text : String) : RawPacket :=
  ⟨now, text.toList, [], [], some [], false, fun _ => .commits⟩

/-- A packet is made of the letters of its text, whose bytes need not be read for it. -/
theorem samplePacket_letters (now : Int) (letters : Letters) :
    samplePacket now (String.ofList letters) =
      ⟨now, letters, [], [], some [], false, fun _ => .commits⟩ := by
  rw [samplePacket, String.toList_ofList]

/-- A bike under way: twenty knots, the ignition on. -/
def underWay : RawPacket := samplePacket 1_767_268_800_000
  "*HQ,9170000001,V1,120000,A,0200.0000,S,03000.0000,E,20.00,90,010126,FFFFFFFF#"

/-- The same bike with the alarm for a cut power supply, the ignition on. -/
def powerCut : RawPacket := samplePacket 1_767_268_830_000
  "*HQ,9170000001,V1,120030,A,0200.1500,S,03000.0000,E,20.00,90,010126,FF02FFFF#"

/-- As fast, but with the ignition off. -/
def powerCutIgnitionOff : RawPacket := samplePacket 1_767_268_830_000
  "*HQ,9170000001,V1,120030,A,0200.1500,S,03000.0000,E,20.00,90,010126,FF02FBFF#"

/-- The fields of a packet. -/
def partsOf (packet : RawPacket) : List Letters := (splitPacket packet.text).getD []

/-- A reading that passes a check is there. -/
theorem exists_reading {parts : List Letters} {check : Reading → Bool}
    (checked : (readPacket parts).toOption.any check = true) :
    ∃ reading, readPacket parts = .ok reading ∧ check reading = true := by
  cases read : readPacket parts with
  | error refused => simp [read, Except.toOption] at checked
  | ok reading => exact ⟨reading, rfl, by simpa [read, Except.toOption] using checked⟩

/-- A position of the sample tracker with the alarm for a cut power supply. -/
def AlarmParts (packet : RawPacket) : Prop :=
  splitPacket packet.text = some (partsOf packet) ∧
    loadDeviceByImei [sampleTracker] (field (partsOf packet) 1) = some sampleTracker ∧
    13 ≤ (partsOf packet).length ∧ field (partsOf packet) 4 = ['A'] ∧
    6 ≤ (field (partsOf packet) 12).length ∧ alarmByte (field (partsOf packet) 12) = some 2 ∧
    isPositionCommand (field (partsOf packet) 2) = true

instance (packet : RawPacket) : Decidable (AlarmParts packet) :=
  inferInstanceAs (Decidable (_ ∧ _))

/-- The packet is an alarm. -/
theorem powerCut_parts : AlarmParts powerCut := by
  rw [powerCut, samplePacket_letters]
  decide +kernel

/-- The packet with the ignition off is an alarm. -/
theorem powerCutIgnitionOff_parts : AlarmParts powerCutIgnitionOff := by
  rw [powerCutIgnitionOff, samplePacket_letters]
  decide +kernel

/-- The packet raises a theft. -/
theorem power_cut_raised_powerCut :
    Raised powerCut.now
      (processRawPacket .default (fun _ _ _ _ => 0) powerCut [sampleTracker] idle).engine := by
  have checked : (readPacket (partsOf powerCut)).toOption.any (fun reading => reading.ignition &&
      decide (Stores (rulePacket powerCut (buildPayload (fun _ _ _ _ => 0) sampleTracker powerCut
        idle reading)) idle.engine)) = true := by
    rw [powerCut, samplePacket_letters]
    decide +kernel
  obtain ⟨reading, read, good⟩ := exists_reading checked
  simp only [Bool.and_eq_true, decide_eq_true_eq] at good
  obtain ⟨split, known, complete, valid, long, number, position⟩ := powerCut_parts
  have report : Report [sampleTracker] powerCut sampleTracker (partsOf powerCut) reading :=
    ⟨split, known, rfl, rfl, complete, valid, read, .alarm long (Or.inl number), Or.inr good.1⟩
  exact (power_cut_raised_iff .default (fun _ _ _ _ => 0) idle report).mpr
    (Or.inr ⟨position, rfl, Or.inl good.1, good.2⟩)

/-- A thief who switches the ignition off loses the speed in the drift filter, and the
report of the cut raises nothing. -/
theorem power_cut_report_lost :
    ¬ ∀ settings distance devices (before : List RawPacket) packet device parts reading,
      Report devices packet device parts reading →
      Raised packet.now (processRawPacket settings distance packet devices
        (before.foldl (fun state earlier =>
          processRawPacket settings distance earlier devices state) idle)).engine := by
  intro claim
  have checked : (readPacket (partsOf powerCutIgnitionOff)).toOption.any
      (fun reading => decide (3 < reading.speedKph)) = true := by
    rw [powerCutIgnitionOff, samplePacket_letters]
    decide +kernel
  obtain ⟨reading, read, fast⟩ := exists_reading checked
  obtain ⟨split, known, complete, valid, long, number, _⟩ := powerCutIgnitionOff_parts
  have report : Report [sampleTracker] powerCutIgnitionOff sampleTracker
      (partsOf powerCutIgnitionOff) reading :=
    ⟨split, known, rfl, rfl, complete, valid, read, .alarm long (Or.inl number),
      Or.inl (of_decide_eq_true fast)⟩
  obtain ⟨row, stored, _⟩ := (raised_iff _ _).mp
    (claim .default (fun _ _ _ _ => 0) [sampleTracker] [underWay] _ _ _ _ report)
  have nothing : ((processRawPacket .default (fun _ _ _ _ => 0) powerCutIgnitionOff [sampleTracker]
      ([underWay].foldl (fun state earlier => processRawPacket .default (fun _ _ _ _ => 0) earlier
        [sampleTracker] state) idle)).engine.events.filter isCritical) = [] := by
    rw [powerCutIgnitionOff, underWay, samplePacket_letters, samplePacket_letters]
    decide +kernel
  rw [nothing] at stored
  exact absurd stored List.not_mem_nil

end Samples

end EmotoFleet.PowerCutTheft
