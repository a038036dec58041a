import EmotoFleet.Foundations.Runs
import EmotoFleet.Trips.RuntimeState
import EmotoFleet.Trips.TripHandlers
import EmotoFleet.Trips.TripOrder

/-!
# Rides that are lost or repeated by interleaved handlers

A handler writes the runtime state that it has computed from what it loaded. When nobody
else has written in between, a ride that was taken out of the runtime state stays out, and
the rides that were to be written are written once each. A handler that writes over the
state of another one brings back a ride that has ended.
-/

namespace EmotoFleet.RideCounts

open Expiring
open EmotoFleet.Runs
open EmotoFleet.Spans
open EmotoFleet.TripBuilder
open EmotoFleet.TripHandlers
open EmotoFleet.Billing (Trip overlaps)
open EmotoFleet.TheftRules (TelemetryPayload)
open EmotoFleet.TripOrder (deleteTrips_spared)

variable {builder : Builder} {world next : World} {handler : Handler} {ride : Span Int}

/-! What is to hold -/

/-- The rides that a handler has still to look at. -/
def gathering : Handler → List (Span Int)
  | .gathering ride _ => [ride]
  | _ => []

/-- The ride that a handler is about to write. -/
def writing : Handler → List (Span Int)
  | .deleting ride _ => [ride]
  | .creating ride _ => [ride]
  | _ => []

/-- The start of a ride that has ended is not the active start. -/
def NeverAgain (world : World) : Prop :=
  ∀ ride ∈ world.ended, ∀ state, read world.store.state world.store.now = some state →
    state.activeStartTs ≠ some ride.start

/-- Each ride that was to be written is the only one of its start that is being written or
was created, and the created ones are stored. -/
structure Once (builder : Builder) (world : World) : Prop where
  single : ∀ ride ∈ world.kept,
    (world.handlers.flatMap writing ++ world.store.created).filter (·.start = ride.start) = [ride]
  stored : ∀ ride ∈ world.store.created, tripOf builder ride ∈ world.store.trips

/-- The handler is about to write the runtime state. -/
def writesState : Handler → Option Loaded
  | .saving loaded _ => some loaded
  | .clearing loaded _ => some loaded
  | .ending loaded _ _ => some loaded
  | _ => none

/-- The ride that the handler is about to take out of the runtime state. -/
def endsRide : Handler → Option (Span Int)
  | .clearing _ ride => some ride
  | .ending _ ride _ => some ride
  | _ => none

/-- A handler that writes the runtime state finds what it has loaded; where that is
nothing, its packet is not older than the end of any ride; and a ride that it ends is not
empty. -/
structure CarefulWrite (world : World) (handler : Handler) (loaded : Loaded) : Prop where
  fresh : read world.store.state world.store.now = loaded.stored
  onTime : loaded.stored = none → OverBy world.ended loaded.payload.ts.epochMs
  lasting : ∀ ride, endsRide handler = some ride → ride.start < ride.stop

/-- What a handler writes is no older than what is stored. -/
def Careful (world : World) (action : Action) (_next : World) : Prop :=
  ∀ position handler loaded, action = .proceed position →
    world.handlers[position]? = some handler → writesState handler = some loaded →
    CarefulWrite world handler loaded

/-! The invariant -/

/-- What a handler is about to do was decided from what it has loaded. -/
def Decides (settings : TripSettings) : Handler → Prop
  | .asking loaded state =>
    decision settings (loaded.stored.getD emptyState) loaded.payload = .idle state
  | .saving loaded state =>
    decision settings (loaded.stored.getD emptyState) loaded.payload = .idle state ∨
      decision settings (loaded.stored.getD emptyState) loaded.payload = .ongoing state
  | .clearing loaded ride =>
    decision settings (loaded.stored.getD emptyState) loaded.payload = .tooLong ride.start
  | .locking loaded ride state =>
    decision settings (loaded.stored.getD emptyState) loaded.payload =
      .ended ride.start ride.stop state
  | .ending loaded ride state =>
    decision settings (loaded.stored.getD emptyState) loaded.payload =
      .ended ride.start ride.stop state
  | _ => True

/-- The rides that have ended follow one another, and the runtime state reaches beyond
them. -/
structure Past (builder : Builder) (world : World) : Prop where
  chronicle : Chronicle world.ended
  covers : ∀ entry, world.store.state = some entry → Covers world.ended entry.value
  decides : ∀ handler ∈ world.handlers, Decides builder.settings handler

/-- Every ride that has ended is looked at, was noise, or is to be written; and every
ride that is to be written is being written or was created. -/
structure Accounts (world : World) : Prop where
  split : world.ended.Perm (world.handlers.flatMap gathering ++ world.noise ++ world.kept)
  written : world.kept.Perm (world.handlers.flatMap writing ++ world.store.created)

/-- The trips of the bike end after they start. -/
def EndsLater (bikeId : String) (trips : List Trip) : Prop :=
  ∀ trip ∈ trips, trip.bikeId = bikeId → ∃ stop, trip.endTs = some stop ∧ trip.startTs < stop

/-- The created trips are stored, and the key of a trip that is to be created is free. -/
structure Table (builder : Builder) (world : World) : Prop where
  endsLater : EndsLater builder.bikeId world.store.trips
  stored : ∀ ride ∈ world.store.created, tripOf builder ride ∈ world.store.trips
  free : ∀ ride isLocked, .creating ride isLocked ∈ world.handlers →
    isTaken world.store.trips (tripOf builder ride) = false

/-- A ride that ended is past. -/
theorem Past.neverAgain (past : Past builder world) : NeverAgain world := by
  intro ride member state loaded active
  obtain ⟨entry, present, _, rfl⟩ := (read_eq_some_iff _ _ _).mp loaded
  have finished := (past.covers entry present).active ride.start active
  exact past.chronicle.start_ne finished member rfl

/-- The rides in the accounts are distinct, even in their starts. -/
theorem Accounts.distinct (accounts : Accounts world) (chronicle : Chronicle world.ended) :
    ((world.handlers.flatMap writing ++ world.store.created).map (·.start)).Nodup := by
  have all := ((accounts.split.map (·.start)).nodup_iff).mp chronicle.starts_nodup
  rw [List.map_append, List.nodup_append] at all
  exact ((accounts.written.map (·.start)).nodup_iff).mp all.2.1

/-- Rides that are accounted for are written once. -/
theorem Accounts.once (accounts : Accounts world) (chronicle : Chronicle world.ended)
    (table : Table builder world) : Once builder world :=
  ⟨fun _ member => filter_start_eq (accounts.distinct chronicle)
    (accounts.written.mem_iff.mp member), table.stored⟩

/-- A ride that was kept has ended. -/
theorem Accounts.kept_ended (accounts : Accounts world) (member : ride ∈ world.kept) :
    ride ∈ world.ended :=
  accounts.split.mem_iff.mpr (List.mem_append_right _ member)

/-! One access -/

/-- The world once a handler has gone on. -/
def proceeded (builder : Builder) (world : World) (position : Nat) (handler : Handler) : World :=
  { (advance builder world handler).1 with
    handlers := world.handlers.eraseIdx position ++ (advance builder world handler).2 }

/-- Taking a handler out takes its rides out. -/
theorem flatMap_eraseIdx (rides : Handler → List (Span Int)) {handlers : List Handler}
    {position : Nat} (found : handlers[position]? = some handler) :
    (handlers.flatMap rides).Perm (rides handler ++ (handlers.eraseIdx position).flatMap rides) := by
  obtain ⟨bound, rfl⟩ := List.getElem?_eq_some_iff.mp found
  exact ((List.getElem_cons_eraseIdx_perm bound).flatMap_right rides).symm

/-- An account stays balanced when what the handler held and what comes in make up what
the rest of the handler holds and what goes out. -/
theorem account_step (rides : Handler → List (Span Int)) {handlers rest : List Handler}
    {position : Nat} {sources targets comes goes : List (Span Int)}
    (found : handlers[position]? = some handler)
    (balanced : sources.Perm (handlers.flatMap rides ++ targets))
    (turn : (rides handler ++ comes).Perm (rest.flatMap rides ++ goes)) :
    (sources ++ comes).Perm
      ((handlers.eraseIdx position ++ rest).flatMap rides ++ (targets ++ goes)) := by
  have moved := flatMap_eraseIdx rides found
  rw [List.perm_iff_count] at balanced turn moved ⊢
  intro ride
  have one := balanced ride
  have two := turn ride
  have three := moved ride
  simp only [List.count_append, List.flatMap_append] at one two three ⊢
  omega

/-- A ride that is looked at is dropped as empty or noise, or it is to be written. -/
theorem advance_gathering (builder : Builder) (world : World) (ride : Span Int) (isLocked : Bool) :
    advance builder world (.gathering ride isLocked) =
        ({ world with noise := world.noise ++ [ride] }, afterFinalizing isLocked) ∨
      advance builder world (.gathering ride isLocked) =
        ({ world with kept := world.kept ++ [ride] }, [.deleting ride isLocked]) := by
  rw [advance]
  by_cases empty : ride.stop ≤ ride.start
  · rw [if_pos empty]
    exact Or.inl rfl
  · rw [if_neg empty]
    by_cases isNoisy : isNoise builder world.store.telemetry ride = true
    · rw [if_pos isNoisy]
      exact Or.inl rfl
    · rw [if_neg isNoisy]
      exact Or.inr rfl

/-- After its trip is written, a handler has nothing left to do but to remove the lock. -/
theorem mem_afterFinalizing {isLocked : Bool} (member : handler ∈ afterFinalizing isLocked) :
    handler = .unlocking := by
  cases isLocked with
  | true => exact List.mem_singleton.mp member
  | false => cases member

/-- After a finalisation nothing is gathered. -/
theorem gathering_after (isLocked : Bool) : (afterFinalizing isLocked).flatMap gathering = [] := by
  cases isLocked with
  | true => rfl
  | false => rfl

/-- After a finalisation nothing is written. -/
theorem writing_after (isLocked : Bool) : (afterFinalizing isLocked).flatMap writing = [] := by
  cases isLocked with
  | true => rfl
  | false => rfl

/-- How an access moves rides from one account to another. -/
structure Turn (builder : Builder) (world : World) (handler : Handler)
    (comes drops keeps creates : List (Span Int)) : Prop where
  ended : (advance builder world handler).1.ended = world.ended ++ comes
  noise : (advance builder world handler).1.noise = world.noise ++ drops
  kept : (advance builder world handler).1.kept = world.kept ++ keeps
  created : (advance builder world handler).1.store.created = world.store.created ++ creates
  looked : (gathering handler ++ comes).Perm
    ((advance builder world handler).2.flatMap gathering ++ (drops ++ keeps))
  wrote : (writing handler ++ keeps).Perm
    ((advance builder world handler).2.flatMap writing ++ creates)

/-- An access that moves no ride. -/
theorem Turn.idle (ended : (advance builder world handler).1.ended = world.ended)
    (noise : (advance builder world handler).1.noise = world.noise)
    (kept : (advance builder world handler).1.kept = world.kept)
    (created : (advance builder world handler).1.store.created = world.store.created)
    (looked : gathering handler = (advance builder world handler).2.flatMap gathering)
    (wrote : writing handler = (advance builder world handler).2.flatMap writing) :
    ∃ comes drops keeps creates, Turn builder world handler comes drops keeps creates := by
  refine ⟨[], [], [], [], ?_⟩
  constructor
  · rw [ended, List.append_nil]
  · rw [noise, List.append_nil]
  · rw [kept, List.append_nil]
  · rw [created, List.append_nil]
  · rw [looked]
    exact List.Perm.refl _
  · rw [wrote]

/-- What becomes of a ride whose points are gathered. -/
theorem turn_gathering (world : World) (ride : Span Int) (isLocked : Bool) :
    ∃ comes drops keeps creates,
      Turn builder world (.gathering ride isLocked) comes drops keeps creates := by
  cases advance_gathering builder world ride isLocked with
  | inl dropped =>
    refine ⟨[], [ride], [], [], ?_⟩
    constructor
    · rw [dropped, List.append_nil]
    · rw [dropped]
    · rw [dropped, List.append_nil]
    · rw [dropped, List.append_nil]
    · rw [dropped, gathering_after]
      exact List.Perm.refl _
    · rw [dropped, writing_after]
      exact List.Perm.refl _
  | inr kept =>
    refine ⟨[], [], [ride], [], ?_⟩
    constructor
    · rw [kept, List.append_nil]
    · rw [kept, List.append_nil]
    · rw [kept]
    · rw [kept, List.append_nil]
    · rw [kept]
      exact List.Perm.refl _
    · rw [kept]
      exact List.Perm.refl _

/-- Where the key of a ride is free, the access that creates it does. -/
theorem turn_creating (isLocked : Bool)
    (free : isTaken world.store.trips (tripOf builder ride) = false) :
    Turn builder world (.creating ride isLocked) [] [] [] [ride] := by
  have created : (world.store.createTrip builder ride).created = world.store.created ++ [ride] := by
    rw [TripStore.createTrip, free]
    rfl
  constructor
  · rw [advance, List.append_nil]
  · rw [advance, List.append_nil]
  · rw [advance, List.append_nil]
  · rw [advance, created]
  · rw [advance, gathering_after]
    exact List.Perm.refl _
  · rw [advance, writing_after]
    exact List.Perm.refl _

/-- What becomes of the rides at every step of a handler. -/
theorem turn (table : Table builder world) (member : handler ∈ world.handlers) :
    ∃ comes drops keeps creates, Turn builder world handler comes drops keeps creates := by
  cases handler with
  | gathering ride isLocked => exact turn_gathering world ride isLocked
  | creating ride isLocked => exact ⟨_, _, _, _, turn_creating isLocked (table.free _ _ member)⟩
  | asking loaded state =>
    apply Turn.idle rfl rfl rfl rfl
    · rw [advance]
      split
      · rfl
      · rfl
    · rw [advance]
      split
      · rfl
      · rfl
  | saving loaded state => exact Turn.idle rfl rfl rfl rfl rfl rfl
  | locking loaded ride state => exact Turn.idle rfl rfl rfl rfl rfl rfl
  | deleting ride isLocked => exact Turn.idle rfl rfl rfl rfl rfl rfl
  | unlocking => exact Turn.idle rfl rfl rfl rfl rfl rfl
  | clearing loaded ride =>
    refine ⟨[ride], [], [], [], rfl, ?_, ?_, ?_, List.Perm.refl _, List.Perm.refl _⟩
    · rw [advance, List.append_nil]
    · rw [advance, List.append_nil]
    · exact (List.append_nil _).symm
  | ending loaded ride state =>
    refine ⟨[ride], [], [], [], rfl, ?_, ?_, ?_, List.Perm.refl _, List.Perm.refl _⟩
    · rw [advance, List.append_nil]
    · rw [advance, List.append_nil]
    · exact (List.append_nil _).symm

/-- A step of a handler keeps the accounts. -/
theorem Accounts.proceed (accounts : Accounts world) (table : Table builder world) {position : Nat}
    (found : world.handlers[position]? = some handler) :
    Accounts (proceeded builder world position handler) := by
  obtain ⟨comes, drops, keeps, creates, turn⟩ := turn table (List.mem_of_getElem? found)
  constructor
  · have split := accounts.split
    rw [List.append_assoc] at split
    have moved := account_step gathering found split turn.looked
    have ended := turn.ended
    rw [proceeded]
    simp only [turn.ended, turn.noise, turn.kept]
    refine moved.trans ?_
    rw [List.perm_iff_count]
    intro ride
    simp only [List.count_append]
    omega
  · have moved := account_step writing found accounts.written turn.wrote
    rw [proceeded]
    simp only [turn.kept, turn.created]
    exact moved

/-- An access that does not write the runtime state ends no ride. -/
theorem advance_unwritten (world : World) (unwritten : writesState handler = none) :
    (advance builder world handler).1.ended = world.ended ∧
      (advance builder world handler).1.store.state = world.store.state := by
  cases handler with
  | saving loaded state => cases unwritten
  | clearing loaded ride => cases unwritten
  | ending loaded ride state => cases unwritten
  | gathering ride isLocked =>
    obtain dropped | kept := advance_gathering builder world ride isLocked
    · rw [dropped]
      exact ⟨rfl, rfl⟩
    · rw [kept]
      exact ⟨rfl, rfl⟩
  | creating ride isLocked =>
    rw [advance, TripStore.createTrip]
    split
    · exact ⟨rfl, rfl⟩
    · exact ⟨rfl, rfl⟩
  | _ => exact ⟨rfl, rfl⟩

/-- A handler goes on with what it decided. -/
theorem decides_rest (decides : Decides builder.settings handler) :
    ∀ later ∈ (advance builder world handler).2, Decides builder.settings later := by
  have after : ∀ isLocked : Bool, ∀ later ∈ afterFinalizing isLocked,
      Decides builder.settings later := by
    intro isLocked later member
    rw [mem_afterFinalizing member]
    trivial
  cases handler with
  | asking loaded state =>
    rw [advance]
    split
    · simp
    · intro later member
      rw [List.mem_singleton.mp member]
      exact Or.inl decides
  | locking loaded ride state =>
    intro later member
    rw [List.mem_singleton.mp member]
    exact decides
  | gathering ride isLocked =>
    obtain dropped | kept := advance_gathering builder world ride isLocked
    · rw [dropped]
      exact after isLocked
    · rw [kept]
      simp [Decides]
  | creating ride isLocked => exact after isLocked
  | saving loaded state => simp [advance]
  | clearing loaded ride => simp [advance, Decides]
  | ending loaded ride state => simp [advance, Decides]
  | deleting ride isLocked => simp [advance, Decides]
  | unlocking => simp [advance]

/-- What was loaded is fit to judge the packet as long as it is what is stored. -/
theorem Past.ready (past : Past builder world) {loaded : Loaded}
    (fresh : read world.store.state world.store.now = loaded.stored)
    (onTime : loaded.stored = none → OverBy world.ended loaded.payload.ts.epochMs) :
    Ready world.ended (loaded.stored.getD emptyState) loaded.payload.ts.epochMs := by
  cases stored : loaded.stored with
  | none => exact Or.inr ⟨rfl, onTime stored⟩
  | some state =>
    obtain ⟨entry, present, _, rfl⟩ := (read_eq_some_iff _ _ _).mp (fresh.trans stored)
    exact Or.inl (past.covers entry present)

/-- A careful step keeps the rides that ended past. -/
theorem Past.advance (past : Past builder world) (member : handler ∈ world.handlers)
    (careful : ∀ loaded, writesState handler = some loaded → CarefulWrite world handler loaded) :
    Chronicle (TripHandlers.advance builder world handler).1.ended ∧
      ∀ entry, (TripHandlers.advance builder world handler).1.store.state = some entry →
        Covers (TripHandlers.advance builder world handler).1.ended entry.value := by
  have decides := past.decides handler member
  cases writes : writesState handler with
  | none =>
    obtain ⟨ended, state⟩ := advance_unwritten world writes
    rw [ended, state]
    exact ⟨past.chronicle, past.covers⟩
  | some loaded =>
    obtain ⟨fresh, onTime, lasting⟩ := careful loaded writes
    have decided := decision_covers builder.settings (past.ready fresh onTime)
    cases handler with
    | saving _ state =>
      obtain rfl := Option.some.inj writes
      have covers : Covers world.ended state := by
        cases decides with
        | inl idle =>
          rw [idle] at decided
          cases decided with
          | idle _ covers => exact covers
        | inr ongoing =>
          rw [ongoing] at decided
          cases decided with
          | ongoing _ covers => exact covers
      refine ⟨past.chronicle, ?_⟩
      intro entry present
      obtain rfl := Option.some.inj present
      exact covers
    | clearing _ ride =>
      obtain rfl := Option.some.inj writes
      rw [decides] at decided
      cases decided with
      | tooLong _ after =>
        refine ⟨past.chronicle.append (lasting ride rfl) after, ?_⟩
        intro entry present
        cases present
    | ending _ ride state =>
      obtain rfl := Option.some.inj writes
      rw [decides] at decided
      cases decided with
      | ended _ _ _ after within covers =>
        refine ⟨past.chronicle.append (lasting ride rfl) after, ?_⟩
        intro entry present
        obtain rfl := Option.some.inj present
        exact covers
    | _ => cases writes

/-! The table of trips -/

/-- A trip is not taken when no trip of the bike starts with it. -/
theorem isTaken_false {trips : List Trip} {finished : Trip} :
    isTaken trips finished = false ↔
      ∀ trip ∈ trips, trip.bikeId = finished.bikeId → trip.startTs ≠ finished.startTs := by
  rw [isTaken, List.any_eq_false]
  simp

/-- A deletion adds no trip. -/
theorem deleteTrips_subset {store : TripStore} {trip : Trip}
    (member : trip ∈ (store.deleteTrips builder ride).trips) : trip ∈ store.trips :=
  List.mem_of_mem_filter member

/-- A trip of the bike with the start of a ride that is not empty overlaps it. -/
theorem deleteTrips_free {store : TripStore} (endsLater : EndsLater builder.bikeId store.trips)
    (lasting : ride.start < ride.stop) :
    isTaken (store.deleteTrips builder ride).trips (tripOf builder ride) = false := by
  rw [isTaken_false]
  intro trip member bike start
  obtain ⟨stored, apart⟩ := List.mem_filter.mp member
  obtain ⟨stop, ends, later⟩ := endsLater trip stored bike
  have overlapping : overlaps trip (tripOf builder ride) = true := by
    change trip.startTs = ride.start at start
    rw [overlaps, ends, Bool.and_eq_true, Bool.and_eq_true]
    refine ⟨⟨decide_eq_true bike, ?_⟩, ?_⟩
    · exact decide_eq_true (start ▸ lasting)
    · exact decide_eq_true (show ride.start < stop from start ▸ later)
  rw [overlapping] at apart
  cases apart

/-- An access that neither deletes nor creates trips. -/
theorem Table.kept (table : Table builder world) {position : Nat}
    (trips : (advance builder world handler).1.store.trips = world.store.trips)
    (created : (advance builder world handler).1.store.created = world.store.created)
    (none : ∀ ride isLocked, .creating ride isLocked ∉ (advance builder world handler).2) :
    Table builder (proceeded builder world position handler) := by
  constructor
  · change EndsLater builder.bikeId (advance builder world handler).1.store.trips
    rw [trips]
    exact table.endsLater
  · change ∀ ride ∈ (advance builder world handler).1.store.created,
      tripOf builder ride ∈ (advance builder world handler).1.store.trips
    rw [trips, created]
    exact table.stored
  · intro ride isLocked member
    change isTaken (advance builder world handler).1.store.trips (tripOf builder ride) = false
    rw [trips]
    cases List.mem_append.mp member with
    | inl old => exact table.free ride isLocked (List.mem_of_mem_eraseIdx old)
    | inr new => exact absurd new (none ride isLocked)

/-- A finalisation is not followed by another creation. -/
theorem creating_after (ride : Span Int) (isLocked wasLocked : Bool) :
    .creating ride isLocked ∉ afterFinalizing wasLocked := by
  intro member
  cases mem_afterFinalizing member

/-- The ride that a handler is about to write is one that has ended, with another start than
the rides that were created. -/
theorem Accounts.apart (accounts : Accounts world) (chronicle : Chronicle world.ended)
    (member : handler ∈ world.handlers) (writes : writing handler = [ride]) :
    ride ∈ world.ended ∧ ∀ other ∈ world.store.created, other.Apart ride := by
  have held : ride ∈ world.handlers.flatMap writing :=
    List.mem_flatMap.mpr ⟨handler, member, by rw [writes]; exact List.mem_singleton_self _⟩
  have ended : ∀ other ∈ world.handlers.flatMap writing ++ world.store.created,
      other ∈ world.ended :=
    fun other present => accounts.kept_ended (accounts.written.mem_iff.mpr present)
  refine ⟨ended ride (List.mem_append_left _ held), ?_⟩
  intro other created
  have distinct := accounts.distinct chronicle
  rw [List.map_append, List.nodup_append] at distinct
  have different : ride.start ≠ other.start :=
    distinct.2.2 _ (List.mem_map_of_mem held) _ (List.mem_map_of_mem created)
  refine chronicle.apart_of_ne (ended other (List.mem_append_right _ created))
    (ended ride (List.mem_append_left _ held)) ?_
  rintro rfl
  exact different rfl

/-- No other handler is about to write a ride of the same start. -/
theorem Accounts.other_start (accounts : Accounts world) (chronicle : Chronicle world.ended)
    {position : Nat} (found : world.handlers[position]? = some handler)
    (writes : writing handler = [ride]) :
    ∀ another ∈ world.handlers.eraseIdx position, ∀ other ∈ writing another,
      ride.start ≠ other.start := by
  have distinct := accounts.distinct chronicle
  rw [List.map_append, List.nodup_append] at distinct
  have split := ((flatMap_eraseIdx writing found).map (·.start)).nodup_iff.mp distinct.1
  rw [writes, List.singleton_append, List.map_cons, List.nodup_cons] at split
  intro another remaining other writes' same
  have held : other ∈ (world.handlers.eraseIdx position).flatMap writing :=
    List.mem_flatMap.mpr ⟨another, remaining, writes'⟩
  exact split.1 (List.mem_map.mpr ⟨other, held, same.symm⟩)

/-- A step of a handler keeps the table. -/
theorem Table.proceed (table : Table builder world) (accounts : Accounts world)
    (chronicle : Chronicle world.ended) {position : Nat}
    (found : world.handlers[position]? = some handler) :
    Table builder (proceeded builder world position handler) := by
  have member := List.mem_of_getElem? found
  cases handler with
  | deleting ride isLocked =>
    obtain ⟨ended, apart⟩ := accounts.apart chronicle member rfl
    constructor
    · exact fun trip present => table.endsLater trip (deleteTrips_subset present)
    · intro other created
      exact deleteTrips_spared (apart other created) (table.stored other created)
    · intro other wasLocked present
      cases List.mem_append.mp present with
      | inl old =>
        have free := isTaken_false.mp (table.free other wasLocked (List.mem_of_mem_eraseIdx old))
        exact isTaken_false.mpr fun trip stored => free trip (deleteTrips_subset stored)
      | inr new =>
        obtain ⟨rfl, rfl⟩ := Handler.creating.inj (List.mem_singleton.mp new)
        exact deleteTrips_free table.endsLater (chronicle.proper _ ended)
  | creating ride isLocked =>
    obtain ⟨ended, _⟩ := accounts.apart chronicle member rfl
    have others := accounts.other_start chronicle found rfl
    have free := table.free ride isLocked member
    have created : world.store.createTrip builder ride =
        { world.store with
          trips := world.store.trips ++ [tripOf builder ride]
          created := world.store.created ++ [ride] } := by
      rw [TripStore.createTrip, free]
      rfl
    constructor
    · rw [proceeded, advance, created]
      intro trip present bike
      cases List.mem_append.mp present with
      | inl old => exact table.endsLater trip old bike
      | inr new =>
        rw [List.mem_singleton.mp new]
        exact ⟨ride.stop, rfl, chronicle.proper ride ended⟩
    · rw [proceeded, advance, created]
      intro other present
      cases List.mem_append.mp present with
      | inl old => exact List.mem_append_left _ (table.stored other old)
      | inr new =>
        rw [List.mem_singleton.mp new]
        exact List.mem_append_right _ (List.mem_singleton_self _)
    · intro other wasLocked present
      rw [proceeded, advance, created]
      cases List.mem_append.mp present with
      | inr new => exact absurd new (creating_after _ _ _)
      | inl old =>
        rw [isTaken_false]
        intro trip stored bike
        cases List.mem_append.mp stored with
        | inl before =>
          have untaken := table.free other wasLocked (List.mem_of_mem_eraseIdx old)
          exact isTaken_false.mp untaken trip before bike
        | inr added =>
          rw [List.mem_singleton.mp added]
          exact others (.creating other wasLocked) old other (List.mem_singleton_self _)
  | asking loaded state =>
    apply table.kept rfl rfl
    intro other wasLocked
    rw [advance]
    split
    · simp
    · simp
  | gathering ride isLocked =>
    obtain dropped | kept := advance_gathering builder world ride isLocked
    · apply table.kept
      · rw [dropped]
      · rw [dropped]
      · rw [dropped]
        exact fun other wasLocked => creating_after _ _ _
    · apply table.kept
      · rw [kept]
      · rw [kept]
      · rw [kept]
        simp
  | saving loaded state => exact table.kept rfl rfl (by simp [advance])
  | clearing loaded ride => exact table.kept rfl rfl (by simp [advance])
  | locking loaded ride state => exact table.kept rfl rfl (by simp [advance])
  | ending loaded ride state => exact table.kept rfl rfl (by simp [advance])
  | unlocking => exact table.kept rfl rfl (by simp [advance])

/-! Runs -/

/-- What every step keeps. -/
structure Sound (builder : Builder) (world : World) : Prop where
  past : Past builder world
  accounts : Accounts world
  table : Table builder world

/-- A handler that begins does what its packet and the loaded state decide, and holds no
ride yet. -/
theorem deliver_cases (builder : Builder) (store : TripStore) (payload : TelemetryPayload) :
    (∀ handler ∈ deliver builder store payload, Decides builder.settings handler) ∧
      (deliver builder store payload).flatMap gathering = [] ∧
      (deliver builder store payload).flatMap writing = [] ∧
      ∀ ride isLocked, .creating ride isLocked ∉ deliver builder store payload := by
  have loads : (read store.state store.now).getD emptyState = store.loadState := rfl
  unfold deliver
  cases decided : decision builder.settings store.loadState payload with
  | discard => simp
  | idle state => simp [Decides, gathering, writing, loads, decided]
  | tooLong start => simp [Decides, gathering, writing, loads, decided]
  | ongoing state => simp [Decides, gathering, writing, loads, decided]
  | ended start stop state => simp [Decides, gathering, writing, loads, decided]

/-- A careful step keeps the world sound. -/
theorem sound_step {action : Action} (sound : Sound builder world)
    (careful : Careful world action next) (moved : step builder world action = some next) :
    Sound builder next := by
  obtain ⟨past, accounts, table⟩ := sound
  cases action with
  | tick elapsed =>
    obtain rfl := Option.some.inj moved
    exact ⟨⟨past.chronicle, past.covers, past.decides⟩, ⟨accounts.split, accounts.written⟩,
      ⟨table.endsLater, table.stored, table.free⟩⟩
  | storePoint point =>
    obtain rfl := Option.some.inj moved
    exact ⟨⟨past.chronicle, past.covers, past.decides⟩, ⟨accounts.split, accounts.written⟩,
      ⟨table.endsLater, table.stored, table.free⟩⟩
  | deliver payload =>
    obtain rfl := Option.some.inj moved
    obtain ⟨decides, unlooked, unwritten, uncreated⟩ := deliver_cases builder world.store payload
    refine ⟨⟨past.chronicle, past.covers, ?_⟩, ⟨?_, ?_⟩, ⟨table.endsLater, table.stored, ?_⟩⟩
    · intro handler member
      cases List.mem_append.mp member with
      | inl old => exact past.decides handler old
      | inr new => exact decides handler new
    · rw [List.flatMap_append, unlooked, List.append_nil]
      exact accounts.split
    · rw [List.flatMap_append, unwritten, List.append_nil]
      exact accounts.written
    · intro ride isLocked member
      cases List.mem_append.mp member with
      | inl old => exact table.free ride isLocked old
      | inr new => exact absurd new (uncreated ride isLocked)
  | proceed position =>
    obtain ⟨handler, found, rfl⟩ := Option.map_eq_some_iff.mp moved
    have member := List.mem_of_getElem? found
    obtain ⟨chronicle, covers⟩ := past.advance member fun loaded writes =>
      careful position handler loaded rfl found writes
    refine ⟨⟨chronicle, covers, ?_⟩, accounts.proceed table found,
      table.proceed accounts past.chronicle found⟩
    intro other present
    cases List.mem_append.mp present with
    | inl old => exact past.decides other (List.mem_of_mem_eraseIdx old)
    | inr new => exact decides_rest (past.decides handler member) other new

/-- A device before its first packet. -/
def newWorld (store : TripStore) : World := ⟨store, [], [], [], []⟩

/-- A new world is sound. -/
theorem newWorld_sound {store : TripStore} (unknown : store.state = none)
    (none : store.created = []) (endsLater : EndsLater builder.bikeId store.trips) :
    Sound builder (newWorld store) := by
  refine ⟨⟨chronicle_nil, ?_, ?_⟩, ⟨List.Perm.refl _, ?_⟩, ⟨endsLater, ?_, ?_⟩⟩
  · intro entry present
    rw [newWorld, unknown] at present
    cases present
  · intro handler member
    cases member
  · rw [newWorld, none]
    exact List.Perm.refl _
  · rw [newWorld, none]
    intro ride member
    cases member
  · intro ride isLocked member
    cases member

/-- In a run whose handlers write the runtime state with care, no start of a ride that has
ended becomes the active start again, and each ride that is to be written is written
once. -/
theorem rides_written_once {store : TripStore} (unknown : store.state = none)
    (none : store.created = []) (endsLater : EndsLater builder.bikeId store.trips)
    (actions : List Action) (careful : Along (step builder) Careful (newWorld store) actions) :
    Along (step builder) (fun _ _ next => NeverAgain next ∧ Once builder next) (newWorld store)
      actions := by
  apply along_of_invariant (Sound builder) ?_ ?_ (newWorld_sound unknown none endsLater) careful
  · intro world action next sound met moved
    exact sound_step sound met moved
  · intro world action next sound met moved
    have after := sound_step sound met moved
    exact ⟨after.past.neverAgain, after.accounts.once after.past.chronicle after.table⟩

/-- Where no handler is open, each ride that was to be written was created once. -/
theorem Once.persisted (once : Once builder world) (quiet : world.handlers = [])
    (member : ride ∈ world.kept) :
    world.store.created.filter (·.start = ride.start) = [ride] ∧
      tripOf builder ride ∈ world.store.trips := by
  have single := once.single ride member
  rw [quiet, List.flatMap_nil, List.nil_append] at single
  refine ⟨single, once.stored ride ?_⟩
  have only : ride ∈ world.store.created.filter (·.start = ride.start) := by
    rw [single]
    exact List.mem_singleton_self _
  exact List.mem_of_mem_filter only

/-- The executable form of `Careful`. -/
def carefulCheck (world : World) : Action → Bool
  | .proceed position =>
    match (world.handlers[position]?).bind writesState with
    | some loaded =>
      decide (read world.store.state world.store.now = loaded.stored) &&
        (loaded.stored.isSome ||
          world.ended.all fun ride => decide (ride.stop ≤ loaded.payload.ts.epochMs)) &&
        ((world.handlers[position]?).bind endsRide).all fun ride => decide (ride.start < ride.stop)
    | none => true
  | _ => true

/-- The check is enough for a careful step. -/
theorem careful_of_check (world : World) (action : Action) (next : World)
    (checked : carefulCheck world action = true) : Careful world action next := by
  rintro position handler loaded rfl found writes
  have write : (world.handlers[position]?).bind writesState = some loaded := by
    rw [found, Option.bind_some, writes]
  rw [carefulCheck, write] at checked
  simp only [Bool.and_eq_true, decide_eq_true_eq] at checked
  obtain ⟨⟨fresh, late⟩, lasts⟩ := checked
  refine ⟨fresh, ?_, ?_⟩
  · intro lost ride member
    rw [lost, Option.isSome_none, Bool.false_or, List.all_eq_true] at late
    exact of_decide_eq_true (late ride member)
  · intro ride ends
    rw [found, Option.bind_some, ends, Option.all_some] at lasts
    exact of_decide_eq_true lasts

/-- A ride that begins with the first packet. -/
def rideBegins : List Action :=
  [.storePoint (pointAt 0 (-2)), .deliver (ridingAt 0), .proceed 0, .proceed 0,
    .storePoint (pointAt 120000 (-1)), .deliver (parkedAt 120000)]

/-- The handler that ends the ride is not interrupted. -/
theorem rides_written_once_alone :
    (run (step defaultBuilder) (newWorld newStore)
      (rideBegins ++ List.replicate 6 (Action.proceed 0))).map (·.store.created) = some [⟨0, 120000⟩] ∧
      Along (step defaultBuilder) (fun _ _ next => NeverAgain next ∧ Once defaultBuilder next)
        (newWorld newStore) (rideBegins ++ List.replicate 6 (Action.proceed 0)) := by
  have unused : EndsLater defaultBuilder.bikeId newStore.trips := by
    intro trip member
    cases member
  refine ⟨by decide +kernel, rides_written_once rfl rfl unused _ ?_⟩
  apply along_of_check (fun world action next => careful_of_check world action next)
  decide +kernel

/-- While the ride is being ended, a handler that has loaded the runtime state before saves
it with the ride still active. -/
def staleSave : List Action :=
  rideBegins ++ ([.deliver (ridingAt 121000), .proceed 0, .proceed 1, .proceed 1, .proceed 1,
    .proceed 1, .proceed 1, .proceed 0] : List Action)

/-- Without care an ended ride may come back. -/
theorem ended_ride_resurrected :
    ¬ ∀ (builder : Builder) (store : TripStore) (actions : List Action) (reached : World),
      store.state = none → store.created = [] → EndsLater builder.bikeId store.trips →
      run (step builder) (newWorld store) actions = some reached → reached.handlers = [] →
      NeverAgain reached ∧ Once builder reached := by
  intro claim
  have unused : EndsLater defaultBuilder.bikeId newStore.trips := by
    intro trip member
    cases member
  have found : ((run (step defaultBuilder) (newWorld newStore) staleSave).map fun reached =>
      (reached.handlers.length, reached.ended,
        (read reached.store.state reached.store.now).bind (·.activeStartTs))) =
      some (0, [⟨0, 120000⟩], some 0) := by
    decide +kernel
  obtain ⟨reached, completed, parts⟩ := Option.map_eq_some_iff.mp found
  obtain ⟨finished, ended, active⟩ : reached.handlers.length = 0 ∧ reached.ended = [⟨0, 120000⟩] ∧
      (read reached.store.state reached.store.now).bind (·.activeStartTs) = some 0 := by
    simpa using parts
  obtain ⟨state, loaded, resumed⟩ := Option.bind_eq_some_iff.mp active
  have never := (claim defaultBuilder newStore staleSave reached rfl rfl unused completed
    (List.length_eq_zero_iff.mp finished)).1
  exact never ⟨0, 120000⟩ (by simp [ended]) state loaded resumed

/-- The next packet that ends the ride writes it again, in place of the first time. -/
example :
    (run (step defaultBuilder) (newWorld newStore)
      (staleSave ++ Action.deliver (parkedAt 180000) :: List.replicate 6 (.proceed 0))).map
        (fun reached => (reached.store.created, reached.store.trips.length)) =
      some ([⟨0, 120000⟩, ⟨0, 180000⟩], 1) := by
  decide +kernel

end EmotoFleet.RideCounts
