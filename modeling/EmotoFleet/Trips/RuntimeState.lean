import EmotoFleet.Trips.TripBuilder

/-!
# What the runtime state guards

As long as the runtime state is kept, it remembers the instant of the last packet, and no
earlier ride reaches beyond that instant, beyond the start of the active trip or beyond
the start of a movement that may become one. A decision about a packet carries this
over, with the ride that it ends. Where nothing is stored, it has to be seen from the
packet itself that it is not older than the earlier rides.
-/

namespace EmotoFleet.TripBuilder

open EmotoFleet.Spans
open EmotoFleet.TheftRules (TelemetryPayload)

variable {rides : List (Span Int)} {state loaded : TripRuntimeState} {instant : Int}

/-- All rides are finished at the instant. -/
def OverBy (rides : List (Span Int)) (instant : Int) : Prop := ∀ ride ∈ rides, ride.stop ≤ instant

theorem OverBy.later {later : Int} (early : OverBy rides instant) (ordered : instant ≤ later) :
    OverBy rides later :=
  fun ride member => le_trans (early ride member) ordered

theorem OverBy.append {ride : Span Int} (early : OverBy rides instant) (finished : ride.stop ≤ instant) :
    OverBy (rides ++ [ride]) instant := by
  intro other member
  cases List.mem_append.mp member with
  | inl old => exact early other old
  | inr new =>
    rw [List.mem_singleton.mp new]
    exact finished

/-- A runtime state that no ride reaches beyond. -/
structure Covers (rides : List (Span Int)) (state : TripRuntimeState) : Prop where
  processed : ∃ last, state.lastProcessedTs = some last ∧ OverBy rides last ∧
    ∀ since, state.idleSinceTs = some since → since ≤ last
  active : ∀ start, state.activeStartTs = some start → OverBy rides start
  candidate : ∀ start, state.candidateStartTs = some start → OverBy rides start

theorem Covers.mono {fewer : List (Span Int)} (covers : Covers rides state)
    (subset : ∀ ride ∈ fewer, ride ∈ rides) : Covers fewer state := by
  obtain ⟨last, same, finished, idle⟩ := covers.processed
  refine ⟨⟨last, same, fun ride member => finished ride (subset ride member), idle⟩, ?_, ?_⟩
  · exact fun start active ride member => covers.active start active ride (subset ride member)
  · exact fun start waiting ride member => covers.candidate start waiting ride (subset ride member)

/-- A packet of this instant may be judged by the loaded state. -/
def Ready (rides : List (Span Int)) (loaded : TripRuntimeState) (instant : Int) : Prop :=
  Covers rides loaded ∨ loaded = emptyState ∧ OverBy rides instant

/-- What holds of the loaded state once the packet's instant has been noted. -/
structure Noted (rides : List (Span Int)) (loaded : TripRuntimeState) (instant : Int) : Prop where
  finished : OverBy rides instant
  idle : ∀ since, loaded.idleSinceTs = some since → since ≤ instant
  active : ∀ start, loaded.activeStartTs = some start → OverBy rides start
  candidate : ∀ start, loaded.candidateStartTs = some start → OverBy rides start

theorem Ready.noted (ready : Ready rides loaded instant)
    (current : ¬ loaded.lastProcessedTs.any (fun last => decide (instant < last)) = true) :
    Noted rides loaded instant := by
  cases ready with
  | inl covers =>
    obtain ⟨last, same, finished, idle⟩ := covers.processed
    have ordered : last ≤ instant := by
      rw [same] at current
      simpa using current
    exact ⟨finished.later ordered, fun since idling => le_trans (idle since idling) ordered,
      covers.active, covers.candidate⟩
  | inr fresh =>
    obtain ⟨rfl, finished⟩ := fresh
    exact ⟨finished, by simp [emptyState], by simp [emptyState], by simp [emptyState]⟩

/-- Idling that goes on or begins with this packet is no later than the packet. -/
theorem Noted.idling (noted : Noted rides loaded instant) (noMovement : Bool) :
    ∀ since, (if noMovement = true then some (loaded.idleSinceTs.getD instant) else none) = some since →
      since ≤ instant := by
  intro since idling
  split at idling
  · obtain rfl := Option.some.inj idling
    cases earlier : loaded.idleSinceTs with
    | none => exact le_refl _
    | some began => exact noted.idle began earlier
  · cases idling

/-- The state that is saved while the device is idle starts nothing before the earlier
rides are over. -/
theorem handleIdleState_covers (settings : TripSettings) (noted : Noted rides loaded instant)
    (parked : loaded.activeStartTs = none) (movingForStart ignitionOn : Bool) :
    Covers rides (handleIdleState settings { loaded with lastProcessedTs := some instant } instant
      movingForStart ignitionOn) := by
  have kept : ∀ candidateStartTs : Option Int,
      (∀ start, candidateStartTs = some start → OverBy rides start) →
      Covers rides { loaded with
        lastProcessedTs := some instant, candidateStartTs := candidateStartTs } := by
    intro candidateStartTs candidate
    refine ⟨⟨instant, rfl, noted.finished, noted.idle⟩, ?_, candidate⟩
    intro start active
    rw [parked] at active
    cases active
  have begun : ∀ start, OverBy rides start →
      Covers rides { loaded with
        lastProcessedTs := some instant, activeStartTs := some start, candidateStartTs := none,
        idleSinceTs := none } := by
    intro start finished
    refine ⟨⟨instant, rfl, noted.finished, by simp⟩, ?_, by simp⟩
    intro active same
    obtain rfl := Option.some.inj same
    exact finished
  unfold handleIdleState
  simp only []
  split
  · exact begun instant noted.finished
  · split
    · exact kept none (by simp)
    · cases waiting : loaded.candidateStartTs with
      | none =>
        apply kept (some instant)
        intro start same
        obtain rfl := Option.some.inj same
        exact noted.finished
      | some candidateStartTs =>
        have finished := noted.candidate candidateStartTs waiting
        simp only []
        split
        · exact begun candidateStartTs finished
        · have unchanged := kept loaded.candidateStartTs noted.candidate
          simpa [waiting] using unchanged

/-- What a decision guarantees about the rides before it. -/
inductive Decided (rides : List (Span Int)) (instant : Int) : Decision → Prop where
  | discard : Decided rides instant .discard
  | idle (state : TripRuntimeState) (covers : Covers rides state) :
      Decided rides instant (.idle state)
  | tooLong (start : Int) (after : OverBy rides start) : Decided rides instant (.tooLong start)
  | ongoing (state : TripRuntimeState) (covers : Covers rides state) :
      Decided rides instant (.ongoing state)
  | ended (start stop : Int) (state : TripRuntimeState) (after : OverBy rides start)
      (within : stop ≤ instant) (covers : Covers (rides ++ [⟨start, stop⟩]) state) :
      Decided rides instant (.ended start stop state)

theorem decision_covers (settings : TripSettings) {payload : TelemetryPayload}
    (ready : Ready rides loaded payload.ts.epochMs) :
    Decided rides payload.ts.epochMs (decision settings loaded payload) := by
  unfold decision
  simp only []
  split
  · exact .discard
  · rename_i current
    have noted := ready.noted current
    cases active : loaded.activeStartTs with
    | none =>
      have covers := handleIdleState_covers settings noted active
      simp only [active] at covers ⊢
      exact .idle _ (covers _ _)
    | some start =>
      have after := noted.active start active
      have idle := noted.idling (!decide (settings.endSpeedKph ≤ payload.speedKph))
      generalize (if (!decide (settings.endSpeedKph ≤ payload.speedKph)) = true then
        some (loaded.idleSinceTs.getD payload.ts.epochMs) else none) = idleSinceTs at idle ⊢
      simp only []
      split
      · exact .tooLong start after
      · split
        · refine .ongoing _ ⟨⟨payload.ts.epochMs, rfl, noted.finished, idle⟩, ?_, noted.candidate⟩
          intro begun same
          obtain rfl := Option.some.inj same
          exact after
        · have within : (if (!decide (settings.endSpeedKph ≤ payload.speedKph) &&
              idleSinceTs.any fun since =>
                decide (settings.endIdleSeconds * 1000 ≤ payload.ts.epochMs - since)) = true then
              idleSinceTs.getD payload.ts.epochMs else payload.ts.epochMs) ≤ payload.ts.epochMs := by
            split
            · cases since : idleSinceTs with
              | none => exact le_refl _
              | some instant => exact idle instant since
            · exact le_refl _
          exact .ended start _ _ after within
            ⟨⟨payload.ts.epochMs, rfl, noted.finished.append within, by simp⟩, by simp, by simp⟩

end EmotoFleet.TripBuilder
