import EmotoFleet.Foundations.Runs
import EmotoFleet.Telemetry.RulesEngine

/-!
# Alerts that are suppressed

A cooldown is meant to keep a rule from raising one alert again and again. Its key
is claimed before the event is stored, however, and storing can fail: the database
may refuse, and the table admits a single event of a type for one instant, while
several rules of a packet may call for that type. The key then suppresses the next
alerts although there is no event.

The main result gives the condition under which every alert that a rule calls for is
stored or has a stored alert of its key inside the cooldown.
-/

namespace EmotoFleet.AlertSuppression

open Expiring LiveState RulesEngine Runs

/-- What happens to the engine of one device: a packet is evaluated, or an event of
another origin is stored. -/
inductive Action where
  | telemetry (packet : Packet)
  | otherEvent (row : EventRow)

/-- An event of another origin is subject to the same uniqueness. -/
def storeOther (state : EngineState) (row : EventRow) : EngineState :=
  if state.events.any fun stored => stored.ts == row.ts && stored.type == row.type then state
  else { state with events := state.events ++ [row] }

variable (settings : Settings) (distance : ℚ → ℚ → ℚ → ℚ → ℚ)

def step (state : EngineState) : Action → EngineState
  | .telemetry packet => evaluateTelemetry packet settings distance state
  | .otherEvent row => storeOther state row

def idle : EngineState := ⟨fun _ => none, none, none, [], []⟩

/-- An alert of the same key has been stored, and its cooldown is not over. -/
def Answered (state : EngineState) (now : Int) (alert : Alert) : Prop :=
  ∃ earlier ∈ state.stored, earlier.alert.key = alert.key ∧
    now < earlier.storedAt + earlier.alert.cooldownSeconds * 1000

/-- Every noted alert has its event. -/
def Noted (state : EngineState) : Prop :=
  ∀ noted ∈ state.stored, ∃ row ∈ state.events, row.type = noted.alert.type ∧
    row.severity = noted.alert.severity ∧ row.createdAt = noted.storedAt

/-- Every alert that a rule calls for is stored or suppressed by a stored one, and what
counts as stored is among the events. -/
def NothingLost (state : EngineState) (action : Action) (next : EngineState) : Prop :=
  Noted next ∧
    match action with
    | .telemetry packet => ∀ rule ∈ called packet settings distance state, ∀ alert ∈ rule,
        Answered next packet.now alert
    | .otherEvent _ => True

/-- The alerts whose keys are free will be stored: no call fails, none of their events
exists already, and no two of them share a type. -/
structure Ready (packet : Packet) (state : EngineState) (alerts : List Alert) : Prop where
  succeeds : ∀ alert ∈ alerts, Free packet state alert → packet.outcome alert ≠ .fails
  unoccupied : ∀ alert ∈ alerts, Free packet state alert →
    occupied packet state.events alert.type = false
  distinct : alerts.Pairwise fun earlier later =>
    Free packet state earlier → Free packet state later → earlier.type ≠ later.type

/-- A call that fails after storing its event leaves no alert of its rule behind whose
key is free. -/
def Unbroken (packet : Packet) (state : EngineState) (rule : List Alert) : Prop :=
  ∀ before alert after, rule = before ++ alert :: after → Free packet state alert →
    packet.outcome alert = .commitsThenThrows → ∀ later ∈ after, ¬ Free packet state later

/-- The condition on a packet, in the state before it. -/
def Undisturbed (state : EngineState) (action : Action) : Prop :=
  match action with
  | .telemetry packet => Ready packet state (called packet settings distance state).flatten ∧
      ∀ rule ∈ called packet settings distance state, Unbroken packet state rule
  | .otherEvent _ => True

/-- Every key has been claimed by an alert that was stored. -/
def Covered (state : EngineState) : Prop :=
  ∀ key entry, state.keys key = some entry → ∃ earlier ∈ state.stored,
    earlier.alert.key = key ∧ entry.expiresAt = earlier.storedAt + earlier.alert.cooldownSeconds * 1000

section Emission

variable {packet : Packet} {state : EngineState}

theorem answered_mono {next : EngineState} {now : Int} {alert : Alert}
    (kept : ∀ earlier ∈ state.stored, earlier ∈ next.stored) (answered : Answered state now alert) :
    Answered next now alert := by
  obtain ⟨earlier, member, found⟩ := answered
  exact ⟨earlier, kept earlier member, found⟩

/-- An alert whose key is held has been answered. -/
theorem answered_of_held (covered : Covered state) {alert : Alert}
    (held : ¬ Free packet state alert) : Answered state packet.now alert := by
  obtain ⟨mark, found⟩ := Option.ne_none_iff_exists'.mp held
  obtain ⟨entry, present, alive, _⟩ := (read_eq_some_iff _ _ _).mp found
  obtain ⟨earlier, member, sameKey, lapse⟩ := covered alert.key entry present
  exact ⟨earlier, member, sameKey, lapse ▸ alive⟩

theorem covered_storeAlert (covered : Covered state) (alert : Alert) :
    Covered (storeAlert packet state alert) := by
  intro key entry present
  by_cases same : key = alert.key
  · subst same
    have written : entry = ⟨(), packet.now + alert.cooldownSeconds * 1000⟩ := by
      simpa [storeAlert, claimKey, write, eq_comm] using present
    exact ⟨⟨alert, packet.now⟩, by simp [storeAlert], rfl, by rw [written]⟩
  · have before : state.keys key = some entry := by
      simpa [storeAlert, claimKey, Function.update_of_ne same] using present
    obtain ⟨earlier, member, found⟩ := covered key entry before
    exact ⟨earlier, List.mem_append_left _ member, found⟩

/-- Storing an alert frees no key. -/
theorem free_of_storeAlert {alert other : Alert} (free : Free packet state alert)
    (afterwards : Free packet (storeAlert packet state alert) other) : Free packet state other := by
  by_cases same : other.key = alert.key
  · rw [Free, same]
    exact free
  · simpa [Free, storeAlert, claimKey, Function.update_of_ne same] using afterwards

theorem unbroken_of_free {next : EngineState} {rule : List Alert}
    (freed : ∀ alert ∈ rule, Free packet next alert → Free packet state alert)
    (unbroken : Unbroken packet state rule) : Unbroken packet next rule := by
  intro before alert after split free throws later member freeLater
  have listed : alert ∈ rule ∧ later ∈ rule := by simp [split, member]
  exact unbroken before alert after split (freed alert listed.1 free) throws later member
    (freed later listed.2 freeLater)

/-- A step that frees no key of the alerts and adds no event leaves them ready. -/
theorem ready_of_free {next : EngineState} {alerts : List Alert} (sameEvents : next.events = state.events)
    (freed : ∀ alert ∈ alerts, Free packet next alert → Free packet state alert)
    (ready : Ready packet state alerts) : Ready packet next alerts where
  succeeds := fun alert member free => ready.succeeds alert member (freed alert member free)
  unoccupied := fun alert member free => by
    rw [sameEvents]
    exact ready.unoccupied alert member (freed alert member free)
  distinct := ready.distinct.imp_of_mem fun earlier later distinct earlierFree laterFree =>
    distinct (freed _ earlier earlierFree) (freed _ later laterFree)

/-- What one alert does to the alerts that follow it. -/
theorem ready_storeAlert {alert : Alert} {rest : List Alert} (free : Free packet state alert)
    (ready : Ready packet state (alert :: rest)) :
    Ready packet (storeAlert packet state alert) rest where
  succeeds := fun other member freeAfter =>
    ready.succeeds other (List.mem_cons_of_mem _ member) (free_of_storeAlert free freeAfter)
  unoccupied := by
    intro other member freeAfter
    have freeBefore := free_of_storeAlert free freeAfter
    have before := ready.unoccupied other (List.mem_cons_of_mem _ member) freeBefore
    have different := (List.pairwise_cons.mp ready.distinct).1 other member free freeBefore
    rw [occupied] at before ⊢
    simp [storeAlert, before, different]
  distinct := (List.pairwise_cons.mp ready.distinct).2.imp fun distinct earlierFree laterFree =>
    distinct (free_of_storeAlert free earlierFree) (free_of_storeAlert free laterFree)

theorem ready_tail (before : List Alert) {after : List Alert}
    (ready : Ready packet state (before ++ after)) :
    Ready packet state after where
  succeeds := fun other member => ready.succeeds other (List.mem_append_right _ member)
  unoccupied := fun other member => ready.unoccupied other (List.mem_append_right _ member)
  distinct := (List.pairwise_append.mp ready.distinct).2.1

/-- The state in which a rule leaves the engine: everything the rule called for is
answered, and the alerts of the later rules are still ready. -/
structure Settled (packet : Packet) (state next : EngineState) (rule later : List Alert) : Prop where
  covered : Covered next
  kept : ∀ earlier ∈ state.stored, earlier ∈ next.stored
  answered : ∀ alert ∈ rule, Answered next packet.now alert
  ready : Ready packet next later
  free : ∀ alert, Free packet next alert → Free packet state alert

/-- A rule whose alerts are ready answers all of them. -/
theorem emitAll_settled {rule later : List Alert} (covered : Covered state)
    (lasting : ∀ alert ∈ rule, 0 < alert.cooldownSeconds)
    (ready : Ready packet state (rule ++ later)) (unbroken : Unbroken packet state rule) :
    Settled packet state (emitAll packet state rule) rule later := by
  induction rule generalizing state with
  | nil =>
    exact ⟨covered, fun _ member => member, fun _ member => absurd member List.not_mem_nil, ready,
      fun _ free => free⟩
  | cons alert rest inductionHypothesis =>
    have restLasting : ∀ other ∈ rest, 0 < other.cooldownSeconds := fun other member =>
      lasting other (List.mem_cons_of_mem _ member)
    rcases emit_cases packet state alert with ⟨held, same⟩ | ⟨free, refused, _⟩ |
      ⟨free, _, _, stored⟩
    · have restUnbroken : Unbroken packet state rest := by
        intro before other after split
        exact unbroken (alert :: before) other after (by rw [split, List.cons_append])
      have settled := inductionHypothesis covered restLasting
        (ready_tail [alert] ready) restUnbroken
      rw [emitAll, same]
      refine ⟨settled.covered, settled.kept, ?_, settled.ready, settled.free⟩
      intro other member
      rcases List.mem_cons.mp member with isFirst | inRest
      · rw [isFirst]
        exact answered_mono settled.kept (answered_of_held covered held)
      · exact settled.answered other inRest
    · have first : alert ∈ (alert :: rest) ++ later := List.mem_cons_self ..
      rcases refused with fails | taken
      · exact absurd fails (ready.succeeds alert first free)
      · rw [ready.unoccupied alert first free] at taken
        cases taken
    · have nextCovered : Covered (storeAlert packet state alert) := covered_storeAlert covered alert
      have nextReady := ready_storeAlert free ready
      have keptFirst : ∀ earlier ∈ state.stored, earlier ∈ (storeAlert packet state alert).stored :=
        fun _ member => List.mem_append_left _ member
      have answeredFirst : Answered (storeAlert packet state alert) packet.now alert := by
        have pos := lasting alert (List.mem_cons_self ..)
        exact ⟨⟨alert, packet.now⟩, by simp [storeAlert], rfl, by simp only; omega⟩
      rw [emitAll, stored]
      by_cases throws : packet.outcome alert = .commitsThenThrows
      · have thrown : (packet.outcome alert != .commitsThenThrows) = false := by simp [throws]
        rw [thrown]
        refine ⟨nextCovered, keptFirst, ?_, ready_tail rest nextReady,
          fun other freeAfter => free_of_storeAlert free freeAfter⟩
        intro other member
        rcases List.mem_cons.mp member with isFirst | inRest
        · rw [isFirst]
          exact answeredFirst
        · have held := unbroken [] alert rest rfl free throws other inRest
          exact answered_mono keptFirst (answered_of_held covered held)
      · have returned : (packet.outcome alert != .commitsThenThrows) = true := by simpa using throws
        have restUnbroken : Unbroken packet (storeAlert packet state alert) rest := by
          apply unbroken_of_free fun other _ freeAfter => free_of_storeAlert free freeAfter
          intro before other after split
          exact unbroken (alert :: before) other after (by rw [split, List.cons_append])
        have settled := inductionHypothesis nextCovered restLasting nextReady restUnbroken
        rw [returned]
        refine ⟨settled.covered, fun earlier member => settled.kept earlier (keptFirst earlier member),
          ?_, settled.ready, fun other freeAfter => free_of_storeAlert free (settled.free other freeAfter)⟩
        intro other member
        rcases List.mem_cons.mp member with isFirst | inRest
        · rw [isFirst]
          exact answered_mono settled.kept answeredFirst
        · exact settled.answered other inRest

/-- The rules one after another answer everything that they call for. -/
theorem runRules_settled {rules : List (List Alert)} {later : List Alert} (covered : Covered state)
    (lasting : ∀ rule ∈ rules, ∀ alert ∈ rule, 0 < alert.cooldownSeconds)
    (ready : Ready packet state (rules.flatten ++ later))
    (unbroken : ∀ rule ∈ rules, Unbroken packet state rule) :
    Settled packet state (runRules packet state rules) rules.flatten later := by
  induction rules generalizing state with
  | nil =>
    exact ⟨covered, fun _ member => member, fun _ member => absurd member List.not_mem_nil, ready,
      fun _ free => free⟩
  | cons rule rest inductionHypothesis =>
    have split : Ready packet state (rule ++ (rest.flatten ++ later)) := by
      simpa [List.append_assoc] using ready
    have first := emitAll_settled covered (lasting rule (List.mem_cons_self ..)) split
      (unbroken rule (List.mem_cons_self ..))
    have others := inductionHypothesis first.covered
      (fun other member => lasting other (List.mem_cons_of_mem _ member)) first.ready
      fun other member => unbroken_of_free (fun alert _ => first.free alert)
        (unbroken other (List.mem_cons_of_mem _ member))
    rw [runRules_cons, List.flatten_cons]
    refine ⟨others.covered, fun earlier member => others.kept earlier (first.kept earlier member), ?_,
      others.ready, fun alert free => first.free alert (others.free alert free)⟩
    intro alert member
    rcases List.mem_append.mp member with inFirst | inOthers
    · exact answered_mono others.kept (first.answered alert inFirst)
    · exact others.answered alert inOthers

/-- A packet without movement deletes a key; it claims none. -/
theorem covered_trackMovement (covered : Covered state) : Covered (trackMovement packet state) := by
  unfold trackMovement
  split
  · split
    · exact covered
    · exact covered
  · intro key entry present
    by_cases same : key = .theftMovementActive
    · simp [same] at present
    · exact covered key entry (by simpa [Function.update_of_ne same] using present)

/-- The deleted key belongs to none of the alerts that follow. -/
theorem free_of_trackMovement {alert : Alert}
    (own : alert.key = .theftMovementActive →
      TheftRules.movementDetected packet.payload.toTelemetryPayload = true)
    (free : Free packet (trackMovement packet state) alert) : Free packet state alert := by
  unfold trackMovement at free
  split at free
  · split at free
    · exact free
    · exact free
  · rename_i still
    have other : alert.key ≠ .theftMovementActive := fun same => still (own same)
    simpa [Free, Function.update_of_ne other] using free

end Emission

section Steps

variable {settings : Settings} {distance : ℚ → ℚ → ℚ → ℚ → ℚ} {state : EngineState}

/-- What the late rules call for does not depend on the events stored before them. -/
theorem lateRules_early (packet : Packet) :
    lateRules packet settings distance (runRules packet state (earlyRules packet settings state)) =
      lateRules packet settings distance state := by
  rw [lateRules, (runRules_samples state _).1, lateRules]

/-- A packet under the condition keeps the keys covered and loses no alert. -/
theorem evaluateTelemetry_settled {packet : Packet} (covered : Covered state)
    (undisturbed : Undisturbed settings distance state (.telemetry packet)) :
    Covered (evaluateTelemetry packet settings distance state) ∧
      ∀ rule ∈ called packet settings distance state, ∀ alert ∈ rule,
        Answered (evaluateTelemetry packet settings distance state) packet.now alert := by
  obtain ⟨ready, unbroken⟩ := undisturbed
  have lasting : ∀ rule ∈ called packet settings distance state, ∀ alert ∈ rule,
      0 < alert.cooldownSeconds := fun rule listed alert member => (called_keyed listed member).lasting
  have split : Ready packet state ((earlyRules packet settings state).flatten ++
      (lateRules packet settings distance state).flatten) := by
    simpa [called] using ready
  have early := runRules_settled covered
    (fun rule listed => lasting rule (List.mem_append_left _ listed)) split
    fun rule listed => unbroken rule (List.mem_append_left _ listed)
  -- Between the two groups of rules a packet without movement frees the movement key.
  have freed : ∀ rule ∈ lateRules packet settings distance state, ∀ alert ∈ rule,
      Free packet (trackMovement packet
        (runRules packet state (earlyRules packet settings state))) alert →
      Free packet (runRules packet state (earlyRules packet settings state)) alert :=
    fun rule listed alert member => free_of_trackMovement (lateRules_keyed listed member).2
  have tracked := ready_of_free (trackMovement_events _).1 (fun alert member => by
    obtain ⟨rule, listed, inRule⟩ := List.mem_flatten.mp member
    exact freed rule listed alert inRule) early.ready
  rw [← List.append_nil (lateRules packet settings distance state).flatten] at tracked
  have late := runRules_settled (covered_trackMovement early.covered)
    (fun rule listed => lasting rule (List.mem_append_right _ listed)) tracked
    fun rule listed => unbroken_of_free
      (fun alert member free => early.free alert (freed rule listed alert member free))
      (unbroken rule (List.mem_append_right _ listed))
  rw [evaluateTelemetry, lateRules_early]
  refine ⟨late.covered, ?_⟩
  intro rule listed alert member
  rcases List.mem_append.mp listed with inEarly | inLate
  · apply answered_mono late.kept
    refine answered_mono ?_ (early.answered alert (List.mem_flatten_of_mem inEarly member))
    rw [(trackMovement_events _).2]
    exact fun _ kept => kept
  · exact late.answered alert (List.mem_flatten_of_mem inLate member)

theorem noted_append {next : EngineState} (rows : List EventRow) (noted : Noted state)
    (sameNotes : next.stored = state.stored) (grown : next.events = state.events ++ rows) :
    Noted next := by
  intro note member
  rw [sameNotes] at member
  obtain ⟨row, present, found⟩ := noted note member
  exact ⟨row, by rw [grown]; exact List.mem_append_left _ present, found⟩

/-- Alerts are noted together with their events, whatever fails. -/
theorem noted_emit {packet : Packet} (alert : Alert) (noted : Noted state) :
    Noted (emitWithCooldown packet state alert).1 := by
  rcases emit_cases packet state alert with ⟨_, same⟩ | ⟨_, _, same⟩ | ⟨_, _, _, same⟩
  · rw [same]
    exact noted
  · rw [same]
    exact noted_append [] noted rfl (List.append_nil _).symm
  · rw [same]
    intro note member
    rcases List.mem_append.mp member with earlier | new
    · obtain ⟨row, present, found⟩ := noted note earlier
      exact ⟨row, List.mem_append_left _ present, found⟩
    · rw [List.mem_singleton.mp new]
      exact ⟨_, List.mem_append_right _ (List.mem_singleton_self _), rfl, rfl, rfl⟩

theorem noted_step (action : Action) (noted : Noted state) :
    Noted (step settings distance state action) := by
  cases action with
  | telemetry packet =>
    have early : Noted (runRules packet state (earlyRules packet settings state)) :=
      runRules_induction Noted (fun _ _ alert _ _ => noted_emit alert) noted
    have tracked : Noted (trackMovement packet (runRules packet state
        (earlyRules packet settings state))) :=
      noted_append [] early (trackMovement_events _).2
        (by rw [(trackMovement_events _).1, List.append_nil])
    exact runRules_induction Noted (fun _ _ alert _ _ => noted_emit alert) tracked
  | otherEvent row =>
    rw [step, storeOther]
    split
    · exact noted
    · exact noted_append [row] noted rfl rfl

theorem covered_storeOther (row : EventRow) (covered : Covered state) :
    Covered (storeOther state row) := by
  rw [storeOther]
  split
  · exact covered
  · exact covered

end Steps

section Runs

variable {settings : Settings} {distance : ℚ → ℚ → ℚ → ℚ → ℚ} {actions : List Action}

/-- Along every run whose packets meet the condition, an alert that a rule calls for is
stored, or an alert of its key has been stored within the cooldown. -/
theorem alerts_answered
    (guarded : Along (total (step settings distance))
      (fun state action _ => Undisturbed settings distance state action) idle actions) :
    Along (total (step settings distance)) (NothingLost settings distance) idle actions := by
  have settled : ∀ state action next, Covered state ∧ Noted state →
      Undisturbed settings distance state action →
      total (step settings distance) state action = some next →
      (Covered next ∧ Noted next) ∧ NothingLost settings distance state action next := by
    intro state action next held undisturbed moved
    have same : step settings distance state action = next := Option.some.inj moved
    have noted : Noted next := same ▸ noted_step action held.2
    cases action with
    | telemetry packet =>
      obtain ⟨covered, answered⟩ := evaluateTelemetry_settled held.1 undisturbed
      rw [← same] at noted ⊢
      exact ⟨⟨covered, noted⟩, noted, answered⟩
    | otherEvent row =>
      rw [← same] at noted ⊢
      exact ⟨⟨covered_storeOther row held.1, noted⟩, noted, trivial⟩
  have initially : Covered idle ∧ Noted idle :=
    ⟨fun _ _ absent => by simp [idle] at absent, fun _ absent => absurd absent List.not_mem_nil⟩
  exact along_of_invariant (fun state => Covered state ∧ Noted state)
    (fun state action next held undisturbed moved =>
      (settled state action next held undisturbed moved).1)
    (fun state action next held undisturbed moved =>
      (settled state action next held undisturbed moved).2) initially guarded

end Runs

/-- A packet of a moving bike whose power is cut at noon; nothing fails. -/
def dayPowerCut : Packet where
  now := 43_300_000
  payload := { ts := ⟨"1970-01-01T12:00:00.000Z", 43_200_000⟩, lat := -2, lng := 30, speedKph := 30,
               heading := none, batteryV := none, batteryPct := none, ignition := some true,
               mainPowerCut := some true, accel := none }
  activeZones := []
  insideZoneIds := []
  nearbyFeatures := some []
  outcome := fun _ => .commits

/-- The same packet at night, when the night rule raises an event of the same type. -/
def nightPowerCut : Packet :=
  { dayPowerCut with
    now := 82_900_000
    payload := { dayPowerCut.payload with ts := ⟨"1970-01-01T23:00:00.000Z", 82_800_000⟩ } }

theorem alerts_answered_dayPowerCut :
    Along (total (step .default fun _ _ _ _ => 0)) (NothingLost .default fun _ _ _ _ => 0) idle
      [.telemetry dayPowerCut] := by
  apply alerts_answered
  have calls : (called dayPowerCut .default (fun _ _ _ _ => 0) idle).flatten = [powerCutAlert] := by
    decide +kernel
  rw [along_total_cons, Undisturbed, calls]
  refine ⟨⟨⟨?_, ?_, List.pairwise_singleton ..⟩, ?_⟩, trivial⟩
  · intro alert _ _
    simp [dayPowerCut]
  · intro alert _ _
    simp [occupied, idle]
  · intro rule _ before alert after _ _ throws
    simp [dayPowerCut] at throws

/-- At night the power cut alert claims its key, its event is refused because of the
night alert, and the key suppresses the power cut alerts of the next five minutes. -/
theorem power_cut_alert_lost :
    ¬ ∀ settings distance actions,
      Along (total (step settings distance)) (NothingLost settings distance) idle actions := by
  intro everywhere
  have calls : called nightPowerCut .default (fun _ _ _ _ => 0) idle =
      [[], [], [], [nightAlert], [powerCutAlert], [], []] := by decide +kernel
  have stores : (evaluateTelemetry nightPowerCut .default (fun _ _ _ _ => 0) idle).stored =
      [⟨nightAlert, 82_900_000⟩] := by decide +kernel
  have run := everywhere .default (fun _ _ _ _ => 0) [.telemetry nightPowerCut]
  rw [along_total_cons] at run
  obtain ⟨⟨_, answered⟩, _⟩ := run
  simp only [calls] at answered
  obtain ⟨earlier, member, sameKey, _⟩ :=
    answered [powerCutAlert] (by simp) powerCutAlert (List.mem_singleton_self _)
  rw [step, stores] at member
  rw [List.mem_singleton.mp member] at sameKey
  simp [nightAlert, powerCutAlert] at sameKey

end EmotoFleet.AlertSuppression
