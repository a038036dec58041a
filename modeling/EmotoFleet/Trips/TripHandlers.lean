import EmotoFleet.Trips.TripBuilder

/-!
# Handlers that interleave

Every message starts its handler at once, so the handlers of one device run side by side.
A handler is kept as the access it makes next, with what it has read; it computes
nothing but what it has loaded and its packet decide. The finalising lock is only asked
for by handlers that found no active trip.
-/

namespace EmotoFleet.TripHandlers

open Expiring
open EmotoFleet.Spans
open EmotoFleet.TripBuilder
open EmotoFleet.TheftRules (TelemetryPayload)
open EmotoFleet.Ingestion (TelemetryPoint upsertTelemetryPoint)

/-- The packet of a handler, and the runtime state that it has loaded for it. -/
structure Loaded where
  payload : TelemetryPayload
  stored : Option TripRuntimeState

/-- The next access of a handler. A handler that has set the finalising lock removes it at
its end. -/
inductive Handler where
  | asking (loaded : Loaded) (state : TripRuntimeState)
  | saving (loaded : Loaded) (state : TripRuntimeState)
  | clearing (loaded : Loaded) (ride : Span Int)
  | locking (loaded : Loaded) (ride : Span Int) (state : TripRuntimeState)
  | ending (loaded : Loaded) (ride : Span Int) (state : TripRuntimeState)
  | gathering (ride : Span Int) (isLocked : Bool)
  | deleting (ride : Span Int) (isLocked : Bool)
  | creating (ride : Span Int) (isLocked : Bool)
  | unlocking

/-- The tables and the handlers that have not finished. The rides that were taken out of
the runtime state, those among them that turned out to be empty or noise and those that
were to be written are notes of the model. -/
structure World where
  store : TripStore
  handlers : List Handler
  ended : List (Span Int)
  noise : List (Span Int)
  kept : List (Span Int)

inductive Action where
  | tick (elapsed : Nat)
  | storePoint (point : TelemetryPoint)
  | deliver (payload : TelemetryPayload)
  | proceed (position : Nat)

variable (builder : Builder)

/-- What remains of a handler once it has loaded the runtime state. -/
def deliver (store : TripStore) (payload : TelemetryPayload) : List Handler :=
  let loaded : Loaded := ⟨payload, read store.state store.now⟩
  match decision builder.settings store.loadState payload with
  | .discard => []
  | .idle state => [.asking loaded state]
  | .tooLong activeStartTs => [.clearing loaded ⟨activeStartTs, payload.ts.epochMs⟩]
  | .ongoing state => [.saving loaded state]
  | .ended activeStartTs tripEndTs state => [.locking loaded ⟨activeStartTs, tripEndTs⟩ state]

def afterFinalizing (isLocked : Bool) : List Handler := if isLocked then [.unlocking] else []

/-- One access of a handler: the world after it, and the handler that remains. -/
def advance (world : World) : Handler → World × List Handler
  | .asking loaded state =>
    (world, if world.store.isFinalizing then [] else [.saving loaded state])
  | .saving _ state => ({ world with store := world.store.saveState state }, [])
  | .clearing _ ride =>
    ({ world with store := world.store.clearState, ended := world.ended ++ [ride] },
      [.gathering ride false])
  | .locking loaded ride state =>
    ({ world with store := world.store.setFinalizing ride.stop }, [.ending loaded ride state])
  | .ending _ ride state =>
    ({ world with store := world.store.saveState state, ended := world.ended ++ [ride] },
      [.gathering ride true])
  | .gathering ride isLocked =>
    if ride.stop ≤ ride.start then
      ({ world with noise := world.noise ++ [ride] }, afterFinalizing isLocked)
    else if isNoise builder world.store.telemetry ride then
      ({ world with noise := world.noise ++ [ride] }, afterFinalizing isLocked)
    else ({ world with kept := world.kept ++ [ride] }, [.deleting ride isLocked])
  | .deleting ride isLocked =>
    ({ world with store := world.store.deleteTrips builder ride }, [.creating ride isLocked])
  | .creating ride isLocked =>
    ({ world with store := world.store.createTrip builder ride }, afterFinalizing isLocked)
  | .unlocking => ({ world with store := world.store.clearFinalizing }, [])

def step (world : World) : Action → Option World
  | .tick elapsed =>
    some { world with store := { world.store with now := world.store.now + elapsed } }
  | .storePoint point =>
    some { world with
      store := { world.store with telemetry := upsertTelemetryPoint world.store.telemetry point } }
  | .deliver payload =>
    some { world with handlers := world.handlers ++ deliver builder world.store payload }
  | .proceed position =>
    world.handlers[position]?.map fun handler =>
      { (advance builder world handler).1 with
        handlers := world.handlers.eraseIdx position ++ (advance builder world handler).2 }

/-! A handler that no other interrupts -/

/-- The world after the handlers, one after another, as far as the fuel goes. -/
def finish : Nat → World → List Handler → World
  | 0, world, _ => world
  | _ + 1, world, [] => world
  | fuel + 1, world, handler :: rest =>
    finish fuel (advance builder world handler).1 ((advance builder world handler).2 ++ rest)

variable {builder} {world : World}

theorem finish_nil (fuel : Nat) (world : World) : finish builder fuel world [] = world := by
  cases fuel with
  | zero => rfl
  | succ fuel => rfl

theorem finish_handler (fuel : Nat) (world : World) (handler : Handler) :
    finish builder (fuel + 1) world [handler] =
      finish builder fuel (advance builder world handler).1 (advance builder world handler).2 := by
  rw [finish, List.append_nil]

/-- The store after the lock is removed, if it was set. -/
def unlockedStore (store : TripStore) (isLocked : Bool) : TripStore :=
  if isLocked then store.clearFinalizing else store

theorem finish_after (fuel : Nat) (world : World) (isLocked : Bool) :
    (finish builder (fuel + 1) world (afterFinalizing isLocked)).store =
      unlockedStore world.store isLocked := by
  cases isLocked with
  | true =>
    rw [afterFinalizing, if_pos rfl, finish_handler, advance, finish_nil]
    rfl
  | false => exact congrArg World.store (finish_nil (fuel + 1) world)

theorem finalizeTrip_alone (fuel : Nat) (world : World) (ride : Span Int) (isLocked : Bool) :
    (finish builder (fuel + 4) world [.gathering ride isLocked]).store =
      unlockedStore (world.store.finalizeTrip builder ride) isLocked := by
  rw [finish_handler, advance, TripStore.finalizeTrip]
  split
  · exact finish_after _ _ _
  · split
    · exact finish_after _ _ _
    · rw [finish_handler, advance, finish_handler, advance]
      exact finish_after _ _ _

/-- A handler that is not interrupted does what the packet's processing does. -/
theorem processTelemetryForTrips_alone (fuel : Nat) (world : World) (payload : TelemetryPayload) :
    (finish builder (fuel + 6) world (deliver builder world.store payload)).store =
      world.store.processTelemetryForTrips builder payload := by
  unfold deliver TripStore.processTelemetryForTrips
  cases decision builder.settings world.store.loadState payload with
  | discard => exact congrArg World.store (finish_nil _ _)
  | idle state =>
    simp only []
    rw [finish_handler, advance]
    split
    · exact congrArg World.store (finish_nil _ _)
    · rw [finish_handler, advance, finish_nil]
  | tooLong activeStartTs =>
    simp only []
    rw [finish_handler, advance]
    exact finalizeTrip_alone _ _ _ false
  | ongoing state =>
    simp only []
    rw [finish_handler, advance, finish_nil]
  | ended activeStartTs tripEndTs state =>
    simp only []
    rw [finish_handler, advance, finish_handler, advance]
    exact finalizeTrip_alone _ _ _ true

end EmotoFleet.TripHandlers
