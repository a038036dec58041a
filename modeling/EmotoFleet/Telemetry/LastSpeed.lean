import EmotoFleet.Telemetry.AlertSuppression

/-!
# The sample that the rules compare with

After every packet the engine keeps its speed and its instant for ten minutes, and the
rules for harsh manoeuvres and for crashes compare the next packet with this sample. The
sample is that of the packet processed last, whatever its instant is, and it is gone
after ten minutes without packets. The rule for crashes gives up without a sample, even
where it would not need one.

What a crash is, is said about the numbers as the device sends them. The rule reads and
computes in double precision, so that close to a threshold it can decide differently: 50.3 less
30.3 is a little less than twenty.
-/

namespace EmotoFleet.LastSpeed

open Doubles (toDouble)
open Expiring LiveState RulesEngine Runs
open AlertSuppression (Action storeOther idle)

/-- A packet's sample and the instant at which it was processed. -/
structure Processed where
  sample : SpeedSample
  processedAt : Int

/-- The engine of a device, with a note of the packets that it has processed. -/
structure World where
  engine : EngineState
  processed : List Processed

/-- What is remembered of a packet. -/
def processedPacket (packet : Packet) : Processed :=
  ⟨⟨packet.payload.speedKph, packet.payload.ts⟩, packet.now⟩

variable (settings : Settings) (distance : ℚ → ℚ → ℚ → ℚ → ℚ)

/-- One packet, or a row that somebody else stores. -/
def step (world : World) : Action → World
  | .telemetry packet =>
    ⟨evaluateTelemetry packet settings distance world.engine,
      world.processed ++ [processedPacket packet]⟩
  | .otherEvent row => { world with engine := storeOther world.engine row }

/-- An engine that has no sample. -/
def start (engine : EngineState) : World := ⟨{ engine with lastSpeed := none }, []⟩

/-! ## The predecessor of a packet -/

/-- The sample that the rules read for a packet. -/
def readSample (world : World) (packet : Packet) : Option SpeedSample :=
  read world.engine.lastSpeed packet.now

/-- The sample that is read is the latest one of the packets processed so far, and the one that
is stored then is not earlier. -/
structure RightPredecessor (world : World) (packet : Packet) (next : World) : Prop where
  latest : ∀ sample ∈ readSample world packet,
    (∃ earlier ∈ world.processed, earlier.sample = sample) ∧
      ∀ earlier ∈ world.processed, earlier.sample.ts.epochMs ≤ sample.ts.epochMs
  forward : ∀ sample ∈ readSample world packet, ∀ stored ∈ readSample next packet,
    sample.ts.epochMs ≤ stored.ts.epochMs

/-- A packet is compared with its predecessor. -/
def ComparesRightly (world : World) (action : Action) (next : World) : Prop :=
  match action with
  | .telemetry packet => RightPredecessor world packet next
  | .otherEvent _ => True

/-- If the last packet was processed less than ten minutes ago, it is the latest of those
processed so far and not later than this one. -/
def InOrder (world : World) (action : Action) : Prop :=
  match action with
  | .telemetry packet => ∀ last ∈ world.processed.getLast?,
      packet.now < last.processedAt + LAST_SPEED_STATE_TTL_SECONDS * 1000 →
        (∀ earlier ∈ world.processed,
          earlier.sample.ts.epochMs ≤ last.sample.ts.epochMs) ∧
        last.sample.ts.epochMs ≤ packet.payload.ts.epochMs
  | .otherEvent _ => True

/-- The sample is that of the packet processed last. -/
def KeepsLast (world : World) : Prop :=
  world.engine.lastSpeed = world.processed.getLast?.map fun last =>
    ⟨last.sample, last.processedAt + LAST_SPEED_STATE_TTL_SECONDS * 1000⟩

section Predecessor

variable {settings : Settings} {distance : ℚ → ℚ → ℚ → ℚ → ℚ} {world : World} {packet : Packet}

/-- A packet leaves its speed behind. -/
theorem evaluateTelemetry_lastSpeed (state : EngineState) :
    (evaluateTelemetry packet settings distance state).lastSpeed =
      write ⟨packet.payload.speedKph, packet.payload.ts⟩ packet.now
        (LAST_SPEED_STATE_TTL_SECONDS * 1000) :=
  rfl

/-- Rows of others leave the speed. -/
theorem storeOther_lastSpeed (state : EngineState) (row : EventRow) :
    (storeOther state row).lastSpeed = state.lastSpeed := by
  rw [storeOther]
  split <;> rfl

/-- Nothing is kept of no packet. -/
theorem keepsLast_start (engine : EngineState) : KeepsLast (start engine) := rfl

/-- The last speed is that of the last packet. -/
theorem keepsLast_step (keeps : KeepsLast world) (action : Action) :
    KeepsLast (step settings distance world action) := by
  cases action with
  | telemetry packet =>
    rw [KeepsLast, step, evaluateTelemetry_lastSpeed, List.getLast?_concat]
    rfl
  | otherEvent row =>
    rw [KeepsLast, step, storeOther_lastSpeed]
    exact keeps

/-- A sample is read exactly of the last packet, for ten minutes. -/
theorem readSample_iff (keeps : KeepsLast world) {sample : SpeedSample} :
    sample ∈ readSample world packet ↔
      ∃ last ∈ world.processed.getLast?, last.sample = sample ∧
        packet.now < last.processedAt + LAST_SPEED_STATE_TTL_SECONDS * 1000 := by
  rw [readSample, keeps, Option.mem_def, read_eq_some_iff]
  constructor
  · rintro ⟨entry, stored, alive, same⟩
    obtain ⟨last, found, rfl⟩ := Option.map_eq_some_iff.mp stored
    exact ⟨last, found, same, alive⟩
  · rintro ⟨last, found, same, alive⟩
    exact ⟨_, Option.map_eq_some_iff.mpr ⟨last, found, rfl⟩, alive, same⟩

/-- What is stored for a packet is its own sample. -/
theorem readSample_step (world : World) (packet : Packet) :
    readSample (step settings distance world (.telemetry packet)) packet =
      some ⟨packet.payload.speedKph, packet.payload.ts⟩ := by
  rw [readSample, step, evaluateTelemetry_lastSpeed]
  exact read_write_alive _ (Int.lt_add_of_pos_right _ (by decide))

/-- A packet is compared rightly exactly when it comes in order. -/
theorem comparesRightly_iff (keeps : KeepsLast world) (action : Action) :
    ComparesRightly world action (step settings distance world action) ↔ InOrder world action := by
  cases action with
  | otherEvent row => exact Iff.rfl
  | telemetry packet =>
    constructor
    case mp =>
      intro right last found alive
      have sampled := (readSample_iff keeps).mpr ⟨last, found, rfl, alive⟩
      refine ⟨(right.latest _ sampled).2, ?_⟩
      exact right.forward _ sampled _ (readSample_step world packet)
    case mpr =>
      intro ordered
      constructor
      · intro sample sampled
        obtain ⟨last, found, rfl, alive⟩ := (readSample_iff keeps).mp sampled
        exact ⟨⟨last, List.mem_of_getLast? found, rfl⟩, (ordered last found alive).1⟩
      · intro sample sampled stored kept
        obtain ⟨last, found, rfl, alive⟩ := (readSample_iff keeps).mp sampled
        rw [readSample_step] at kept
        cases kept
        exact (ordered last found alive).2

/-- The rules compare every packet of a run with the latest one before it exactly if each
packet that comes within ten minutes finds the last one to be the latest and comes after it. -/
theorem right_predecessors_iff (settings : Settings) (distance : ℚ → ℚ → ℚ → ℚ → ℚ)
    (engine : EngineState) (actions : List Action) :
    Along (total (step settings distance)) ComparesRightly (start engine) actions ↔
      Along (total (step settings distance)) (fun world action _ => InOrder world action)
        (start engine) actions := by
  refine along_iff_of_invariant KeepsLast ?_ ?_ actions (keepsLast_start engine)
  · intro world action next keeps moved
    obtain rfl := Option.some.inj moved
    exact comparesRightly_iff keeps action
  · intro world action next keeps _ moved
    obtain rfl := Option.some.inj moved
    exact keepsLast_step keeps action

end Predecessor

/-! ## Crashes -/

/-- The alert of a crash. -/
def crashAlert : Alert := ⟨.CRASH, CRASH_EVENT_COOLDOWN_SECONDS, .CRASH, .CRITICAL⟩

/-- The measured force is at least that of a crash. -/
def HardImpact (accel : Accel) : Prop :=
  (CRASH_G_FORCE_THRESHOLD * (981 / 100)) ^ 2 ≤ accel.x ^ 2 + accel.y ^ 2 + accel.z ^ 2

/-- The latest sample before the instant among the packets processed so far. -/
structure Preceding (processed : List Processed) (ts : Int) (sample : SpeedSample) : Prop where
  listed : ∃ earlier ∈ processed, earlier.sample = sample
  before : sample.ts.epochMs < ts
  latest : ∀ earlier ∈ processed, earlier.sample.ts.epochMs < ts →
    earlier.sample.ts.epochMs ≤ sample.ts.epochMs

/-- The bike is tilted past the threshold. -/
def Tilted (accel : Accel) : Prop := |accel.z| ≤ CRASH_TILT_Z_THRESHOLD

/-- The packet is slower than the sample by the speed drop of a crash. -/
def Slower (packet : Packet) (sample : SpeedSample) : Prop :=
  CRASH_SPEED_DROP_THRESHOLD_KPH ≤ sample.speedKph - packet.payload.speedKph

/-- A hard impact with a tilt, or with a speed drop since the preceding sample. -/
def Crashes (world : World) (packet : Packet) : Prop :=
  ∃ accel ∈ packet.payload.accel, HardImpact accel ∧
    (Tilted accel ∨ ∃ sample, Preceding world.processed packet.payload.ts.epochMs sample ∧
      Slower packet sample)

/-- A crash has been stored for the device within the cooldown. -/
def RecentCrash (events : List EventRow) (now : Int) : Prop :=
  ∃ row ∈ events, row.type = .CRASH ∧ now < row.createdAt + CRASH_EVENT_COOLDOWN_SECONDS * 1000

/-- Every crash is among the events afterwards, unless there was one shortly before. -/
def ReportsCrash (world : World) (action : Action) (next : World) : Prop :=
  match action with
  | .telemetry packet => Crashes world packet → ¬ RecentCrash world.engine.events packet.now →
      ∃ row ∈ next.engine.events, row.type = .CRASH ∧ row.ts = packet.payload.ts.epochMs
  | .otherEvent _ => True

/-- The rule sees a crash in the numbers that it has computed. -/
def Seen (packet : Packet) (accel : Accel) (sample : SpeedSample) : Prop :=
  toDouble CRASH_G_FORCE_THRESHOLD ≤ gForce accel ∧
    (|toDouble accel.z| ≤ CRASH_TILT_Z_THRESHOLD ∨
      CRASH_SPEED_DROP_THRESHOLD_KPH ≤ speedDrop packet sample)

/-- For a crash without another one shortly before, there is an event of its instant already,
or the engine has a sample with which the rule sees it, the key of the cooldown is free, and the
event can be stored. -/
def DetectsCrash (world : World) (action : Action) : Prop :=
  match action with
  | .telemetry packet => Crashes world packet → ¬ RecentCrash world.engine.events packet.now →
      occupied packet world.engine.events .CRASH = true ∨
        (∃ accel ∈ packet.payload.accel, ∃ sample ∈ readSample world packet,
          Seen packet accel sample) ∧
        Free packet world.engine crashAlert ∧ packet.outcome crashAlert ≠ .fails
  | .otherEvent _ => True

section Crashes

variable {settings : Settings} {distance : ℚ → ℚ → ℚ → ℚ → ℚ} {world : World} {packet : Packet}
  {state : EngineState} {alert : Alert}

/-- A crash is stored already exactly when there is one of the same instant. -/
theorem occupied_crash_iff (events : List EventRow) :
    occupied packet events .CRASH = true ↔
      ∃ row ∈ events, row.type = .CRASH ∧ row.ts = packet.payload.ts.epochMs := by
  rw [occupied, List.any_eq_true]
  simp only [Bool.and_eq_true, beq_iff_eq]
  exact exists_congr fun row => and_congr_right fun _ => and_comm

/-! The other rules leave the key and the events of crashes alone. -/

/-- An alert that is not about a crash. -/
structure Foreign (alert : Alert) : Prop extends Keyed alert where
  foreign : alert.type ≠ .CRASH

/-- Overspeed is not about crashes. -/
theorem evaluateOverspeed_foreign (member : alert ∈ evaluateOverspeed settings packet) :
    Foreign alert := by
  refine ⟨(evaluateOverspeed_ordinary member).toKeyed, ?_⟩
  rcases List.mem_append.mp member with zoned | global
  · obtain ⟨zone, -, rfl⟩ := List.mem_map.mp zoned
    exact fun crash => nomatch crash
  · split at global
    · rw [List.mem_singleton.mp global]
      exact fun crash => nomatch crash
    · cases global

/-- Harsh braking and acceleration are not about crashes. -/
theorem harshAlert_foreign {key : CooldownKey} {type : EventType} (typed : type = key.eventType)
    (other : type ≠ .CRASH) : Foreign (harshAlert key type) :=
  ⟨⟨typed, (by decide : 0 < HARSH_EVENT_COOLDOWN_SECONDS)⟩, other⟩

/-- A conditional alert is about what the alert is. -/
theorem foreign_of_mem_ite {condition : Prop} [Decidable condition] {raised : Alert}
    (foreign : Foreign raised) (member : alert ∈ if condition then [raised] else []) :
    Foreign alert := by
  split at member
  · exact List.mem_singleton.mp member ▸ foreign
  · cases member

/-- Harsh dynamics are not about crashes. -/
theorem evaluateHarshDynamics_foreign {previous : Option SpeedSample}
    (member : alert ∈ evaluateHarshDynamics packet previous) : Foreign alert := by
  have brake : Foreign (harshAlert .HARSH_BRAKE .HARSH_BRAKE) := harshAlert_foreign rfl (by decide)
  have accel : Foreign (harshAlert .HARSH_ACCEL .HARSH_ACCEL) := harshAlert_foreign rfl (by decide)
  have corner : Foreign (harshAlert .HARSH_CORNER .HARSH_CORNER) :=
    harshAlert_foreign rfl (by decide)
  rw [evaluateHarshDynamics] at member
  split at member
  · split at member
    · cases member
    · rcases List.mem_append.mp member with braked | accelerated
      · exact foreign_of_mem_ite brake braked
      · exact foreign_of_mem_ite accel accelerated
  · rcases List.mem_append.mp member with straight | cornered
    · rcases List.mem_append.mp straight with braked | accelerated
      · exact foreign_of_mem_ite brake braked
      · exact foreign_of_mem_ite accel accelerated
    · exact foreign_of_mem_ite corner cornered

/-- Theft is not about crashes. -/
theorem evaluateTheft_foreign {movementStart : Option Timestamp}
    (member : alert ∈ evaluateTheft packet movementStart) : Foreign alert := by
  rcases List.mem_append.mp member with moving | night
  · rw [(movementAlerts_eq moving).2]
    exact ⟨⟨rfl, by decide⟩, fun crash => nomatch crash⟩
  · rw [nightAlerts_eq night]
    exact ⟨⟨rfl, by decide⟩, fun crash => nomatch crash⟩

/-- Road safety is not about crashes. -/
theorem evaluateRoadSafety_foreign
    (member : alert ∈ evaluateRoadSafety settings distance packet) : Foreign alert := by
  refine ⟨(evaluateRoadSafety_ordinary member).toKeyed, ?_⟩
  rw [evaluateRoadSafety] at member
  split at member
  · cases member
  · rcases List.mem_append.mp member with limit | zoned
    · simp only [evaluateSpeedLimitViolation] at limit
      split at limit
      · cases limit
      · rw [List.mem_singleton.mp limit]
        intro crash
        cases crash
    · obtain ⟨zone, listed, found⟩ := List.mem_flatMap.mp zoned
      have other : zone.2.1 ≠ .CRASH := by
        simp only [sensitiveZones, List.mem_cons, List.not_mem_nil, or_false] at listed
        rcases listed with rfl | rfl | rfl <;> simp
      simp only at found
      split at found
      · cases found
      · split at found
        · cases found
        · rw [List.mem_singleton.mp found]
          exact other

/-- Work boundaries are not about crashes. -/
theorem evaluateWorkBoundary_foreign (member : alert ∈ evaluateWorkBoundary packet) :
    Foreign alert := by
  refine ⟨(evaluateWorkBoundary_ordinary member).toKeyed, ?_⟩
  simp only [evaluateWorkBoundary] at member
  split at member
  · cases member
  · rw [List.mem_singleton.mp member]
    intro crash
    cases crash

/-- The later rules are not about crashes. -/
theorem lateRules_foreign {rule : List Alert}
    (listed : rule ∈ lateRules packet settings distance state) (member : alert ∈ rule) :
    Foreign alert := by
  simp only [lateRules, List.mem_cons, List.not_mem_nil, or_false] at listed
  rcases listed with rfl | rfl | rfl | rfl
  · exact evaluateTheft_foreign member
  · rw [evaluatePowerCut_eq member]
    exact ⟨⟨rfl, by decide⟩, by decide⟩
  · exact evaluateRoadSafety_foreign member
  · exact evaluateWorkBoundary_foreign member

/-- Two states with the same events of crashes for the packet and the same key. -/
structure SameCrash (packet : Packet) (left right : EngineState) : Prop where
  key : left.keys .CRASH = right.keys .CRASH
  rows : occupied packet left.events .CRASH = occupied packet right.events .CRASH

/-- An alert about something else leaves the crashes. -/
theorem sameCrash_emit {other : EngineState} (foreign : Foreign alert)
    (same : SameCrash packet state other) :
    SameCrash packet (emitWithCooldown packet state alert).1 other := by
  have key : (claimKey packet state alert).keys .CRASH = other.keys .CRASH := by
    have different : CooldownKey.CRASH ≠ alert.key := by
      intro equal
      exact foreign.foreign (foreign.typed.trans (congrArg CooldownKey.eventType equal.symm))
    rw [← same.key]
    exact Function.update_of_ne different ..
  rcases emit_cases packet state alert with ⟨-, emitted⟩ | ⟨-, -, emitted⟩ | ⟨-, -, -, emitted⟩
  · rw [emitted]
    exact same
  · rw [emitted]
    exact ⟨key, same.rows⟩
  · rw [emitted]
    refine ⟨key, ?_⟩
    rw [← same.rows]
    simp [storeAlert, occupied, foreign.foreign]

/-- Rules about something else leave the crashes. -/
theorem sameCrash_runRules {rules : List (List Alert)}
    (foreign : ∀ rule ∈ rules, ∀ alert ∈ rule, Foreign alert) :
    SameCrash packet (runRules packet state rules) state :=
  runRules_induction (fun after => SameCrash packet after state)
    (fun rule listed alert member _ same => sameCrash_emit (foreign rule listed alert member) same)
    ⟨rfl, rfl⟩

/-- Tracking the movement leaves the crashes. -/
theorem sameCrash_trackMovement : SameCrash packet (trackMovement packet state) state := by
  refine ⟨?_, by rw [(trackMovement_events state).1]⟩
  rw [trackMovement]
  split
  · split <;> rfl
  · have different : CooldownKey.CRASH ≠ .theftMovementActive := by decide
    exact Function.update_of_ne different none state.keys

/-- The event of a crash is there after the rule if it was there before, or if its key is free
and it can be stored. -/
theorem occupied_evaluateCrash (previous : Option SpeedSample) :
    occupied packet (emitAll packet state (evaluateCrash packet previous)).events .CRASH = true ↔
      occupied packet state.events .CRASH = true ∨ crashDetected packet previous = true ∧
        Free packet state crashAlert ∧ packet.outcome crashAlert ≠ .fails := by
  rw [evaluateCrash]
  split
  case isFalse undetected =>
    rw [emitAll]
    exact ⟨Or.inl, fun either => either.resolve_right fun detected => undetected detected.1⟩
  case isTrue detected =>
    change occupied packet (emitAll packet state [crashAlert]).events .CRASH = true ↔ _
    rw [and_iff_right detected]
    rcases emit_cases packet state crashAlert with
      ⟨held, emitted⟩ | ⟨free, refused, emitted⟩ | ⟨free, succeeds, -, emitted⟩
    · rw [emitAll, emitted]
      exact ⟨Or.inl, fun either => either.resolve_right fun stored => held stored.1⟩
    · rw [emitAll, emitted]
      constructor
      · exact Or.inl
      · rintro (there | ⟨-, succeeds⟩)
        · exact there
        · exact refused.resolve_left succeeds
    · have there : occupied packet (storeAlert packet state crashAlert).events .CRASH = true := by
        rw [occupied_crash_iff]
        exact ⟨_, List.mem_append_right _ (List.mem_singleton_self _), rfl, rfl⟩
      have after : emitAll packet state [crashAlert] = storeAlert packet state crashAlert := by
        rw [emitAll, emitted]
        split <;> simp_all [emitAll]
      rw [after]
      exact iff_of_true there (Or.inr ⟨free, succeeds⟩)

/-- Among all rules, the rule for crashes alone decides about the event of a crash. -/
theorem occupied_evaluateTelemetry :
    occupied packet (evaluateTelemetry packet settings distance state).events .CRASH = true ↔
      occupied packet state.events .CRASH = true ∨
        crashDetected packet (read state.lastSpeed packet.now) = true ∧
          Free packet state crashAlert ∧ packet.outcome crashAlert ≠ .fails := by
  let previous := read state.lastSpeed packet.now
  let quiet := runRules packet state
    [evaluateOverspeed settings packet, evaluateHarshDynamics packet previous]
  have before : SameCrash packet quiet state := by
    apply sameCrash_runRules
    intro rule listed alert member
    rcases List.mem_pair.mp listed with rfl | rfl
    · exact evaluateOverspeed_foreign member
    · exact evaluateHarshDynamics_foreign member
  let early := emitAll packet quiet (evaluateCrash packet previous)
  have after : SameCrash packet (evaluateTelemetry packet settings distance state) early := by
    have late : SameCrash packet (runRules packet (trackMovement packet early)
        (lateRules packet settings distance early)) (trackMovement packet early) :=
      sameCrash_runRules fun rule listed alert member => lateRules_foreign listed member
    have tracked : SameCrash packet (trackMovement packet early) early := sameCrash_trackMovement
    exact ⟨late.key.trans tracked.key, late.rows.trans tracked.rows⟩
  have free : Free packet quiet crashAlert ↔ Free packet state crashAlert := by
    rw [Free, Free]
    exact Eq.congr_left (congrArg (read · packet.now) before.key)
  rw [after.rows, occupied_evaluateCrash, before.rows, free]

/-- With a measured acceleration the rule needs a sample. -/
theorem crashDetected_iff {accel : Accel} (measured : packet.payload.accel = some accel)
    (previous : Option SpeedSample) :
    crashDetected packet previous = true ↔ ∃ sample ∈ previous, Seen packet accel sample := by
  rw [crashDetected, measured]
  simp only [Option.any_eq_true, Bool.and_eq_true, Bool.or_eq_true, decide_eq_true_iff]
  exact exists_congr fun sample => and_congr_right fun _ => and_congr_right fun _ => or_comm

/-- A crash is reported exactly when it is detected. -/
theorem reportsCrash_iff (action : Action) :
    ReportsCrash world action (step settings distance world action) ↔ DetectsCrash world action := by
  cases action with
  | otherEvent row => exact Iff.rfl
  | telemetry packet =>
    refine imp_congr_right fun crashes => imp_congr_right fun _ => ?_
    obtain ⟨accel, measured, -, -⟩ := crashes
    have same : (∃ given ∈ packet.payload.accel, ∃ sample ∈ readSample world packet,
        Seen packet given sample) ↔
        crashDetected packet (read world.engine.lastSpeed packet.now) = true := by
      rw [crashDetected_iff measured]
      constructor
      · rintro ⟨given, found, detected⟩
        obtain rfl := Option.some.inj (found.symm.trans measured)
        exact detected
      · exact fun detected => ⟨accel, measured, detected⟩
    rw [same, ← occupied_crash_iff]
    exact occupied_evaluateTelemetry

/-- Along every run all crashes are among the events, unless another one was shortly before,
exactly if each of them finds a sample with which the rule sees it, a free key and a table that
accepts the event, or has its event already. -/
theorem crashes_reported_iff (settings : Settings) (distance : ℚ → ℚ → ℚ → ℚ → ℚ)
    (engine : EngineState) (actions : List Action) :
    Along (total (step settings distance)) ReportsCrash (start engine) actions ↔
      Along (total (step settings distance)) (fun world action _ => DetectsCrash world action)
        (start engine) actions := by
  apply along_congr
  intro world action next moved
  obtain rfl := Option.some.inj moved
  exact reportsCrash_iff action

end Crashes

section Samples

/-- A packet of a bike that rides along, with its instant and its speed. -/
def ridingPacket (now : Int) (ts : Timestamp) (speedKph : ℚ) (accel : Option Accel) : Packet where
  now := now
  payload := { ts := ts, lat := -2, lng := 30, speedKph := speedKph, heading := none,
               batteryV := none, batteryPct := none, ignition := some true, mainPowerCut := none,
               accel := accel }
  activeZones := []
  insideZoneIds := []
  nearbyFeatures := none
  outcome := fun _ => .commits

/-- The second of two packets is ten seconds older than the first, and its sample takes the
place of the later one. -/
theorem sample_goes_back :
    ¬ ∀ settings distance engine actions,
      Along (total (step settings distance)) ComparesRightly (start engine) actions := by
  intro claim
  let late := ridingPacket 43_221_000 ⟨"1970-01-01T12:00:10.000Z", 43_210_000⟩ 30 none
  have run := claim .default (fun _ _ _ _ => 0) idle
    [.telemetry (ridingPacket 43_220_000 ⟨"1970-01-01T12:00:20.000Z", 43_220_000⟩ 40 none),
      .telemetry late]
  rw [along_total_cons, along_total_cons] at run
  have sampled : readSample (step .default (fun _ _ _ _ => 0) (start idle)
      (.telemetry (ridingPacket 43_220_000 ⟨"1970-01-01T12:00:20.000Z", 43_220_000⟩ 40 none))) late =
        some ⟨40, ⟨"1970-01-01T12:00:20.000Z", 43_220_000⟩⟩ := by
    decide +kernel
  have backwards := run.2.1.forward _ sampled _ (readSample_step _ late)
  exact absurd backwards (by decide)

/-- The first packet of a bike that lies on its side after an impact of three g. There is no
sample to compare with, which the tilt would not need. -/
theorem first_crash_missed :
    ¬ ∀ settings distance engine actions,
      Along (total (step settings distance)) ReportsCrash (start engine) actions := by
  intro claim
  let crash := ridingPacket 43_200_000 ⟨"1970-01-01T12:00:00.000Z", 43_200_000⟩ 0 (some ⟨30, 0, 0⟩)
  have run := claim .default (fun _ _ _ _ => 0) idle [.telemetry crash]
  rw [along_total_cons] at run
  have crashes : Crashes (start idle) crash := by
    refine ⟨⟨30, 0, 0⟩, rfl, ?_, Or.inl ?_⟩
    · norm_num [HardImpact, CRASH_G_FORCE_THRESHOLD]
    · norm_num [Tilted, CRASH_TILT_Z_THRESHOLD]
  have alone : ¬ RecentCrash (start idle).engine.events crash.now := by
    rintro ⟨row, listed, -⟩
    cases listed
  obtain ⟨row, listed, kind, -⟩ := run.1 crashes alone
  have missed : ((step .default (fun _ _ _ _ => 0) (start idle) (.telemetry crash)).engine.events.any
      fun row => row.type == .CRASH) = false := by
    decide +kernel
  rw [List.any_eq_false] at missed
  exact missed row listed (beq_iff_eq.mpr kind)

end Samples

end EmotoFleet.LastSpeed
