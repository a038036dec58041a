import EmotoFleet.Commands.Copies

/-!
# Locking only a bike that stands still

The guard is evaluated once, when a lock is requested. From then on the
instruction is on its way: through the debounce check, the creation of the row
and the local socket, or later from the pending key or the broker. Telemetry is
processed all the while, and none of the sending paths looks at it again.

A lock is written to a safe bike only if the bike stays safe while a lock is on
its way. The main result is that this is also enough. For a request that has
read a parked live state and has still to look for stored movement, it suffices
that the live state stays parked; the guard itself checks the rest.
-/

namespace EmotoFleet.LockSafety

open Expiring LiveState TheftRules DeviceCommands Dispatch Runs

/-- The guard would let a lock through at this moment. -/
def SafeToLock (world : World) : Prop :=
  assertSafeToLock world.telemetry world.now (loadLatestState world.liveState world.now) = .ok ()

/-- The live state, where there is one, has the ignition off and no speed. -/
def Parked (world : World) : Prop :=
  ∀ known ∈ loadLatestState world.liveState world.now, known.parked = true

/-- The task carries a lock that no guard will stop any more. Without a live state
the guard passes before it looks at the stored points. -/
def carriesLock : Task → Bool
  | .checking _ type none | .debouncing _ type | .creating _ type => type == .LOCK
  | task => task.copy.any fun instruction => instruction.type == .LOCK

/-- The task carries a lock whose live state has been read and found parked, and
whose stored movement is still to be checked. -/
def vetsLock : Task → Bool
  | .checking _ type (some state) => type == .LOCK && state.parked
  | _ => false

/-- A lock is on its way to the tracker. -/
def LockUnderway (world : World) : Prop :=
  (∃ task ∈ world.tasks, carriesLock task = true) ∨
    (∃ instruction, Queued world instruction ∧ instruction.type = .LOCK) ∨
    ∃ instruction, Sent world instruction ∧ instruction.type = .LOCK

/-- A lock request has still to check for stored movement. -/
def LockVetted (world : World) : Prop := ∃ task ∈ world.tasks, vetsLock task = true

/-- Telemetry that is stored or cached while a lock is on its way leaves the bike
safe to lock; while a request has still to check for movement, it leaves the live
state parked. -/
def StaysSafe (world : World) (action : Action) (next : World) : Prop :=
  match action with
  | .proceed (.storing _) _ | .proceed (.caching _) _ =>
    (LockUnderway world → SafeToLock next) ∧ (LockVetted world → Parked next)
  | _ => True

/-- A lock is written only while the guard would let it through. -/
def LocksSafely (world : World) (_ : Action) (next : World) : Prop :=
  ∀ instruction, next.wire = world.wire ++ [instruction] → instruction.type = .LOCK →
    SafeToLock world

variable {config : Config} {world next : World} {action : Action}

theorem safeToLock_iff : SafeToLock world ↔
    ∀ known ∈ loadLatestState world.liveState world.now,
      known.parked = true ∧ StandsStill world.telemetry world.now :=
  assertSafeToLock_ok_iff _ _ _

/-- A live state that is still readable was readable before. -/
theorem loadLatestState_earlier {cell : Cell LiveBikeState} {now later : Int}
    (ordered : now ≤ later) {known : LiveStateSnapshot}
    (found : known ∈ loadLatestState cell later) : known ∈ loadLatestState cell now := by
  obtain ⟨state, alive, rfl⟩ := Option.map_eq_some_iff.mp found
  exact Option.map_eq_some_iff.mpr ⟨state, read_alive_earlier ordered alive, rfl⟩

/-- A step that handles no telemetry. -/
structure Quiet (world next : World) : Prop where
  liveState : next.liveState = world.liveState
  telemetry : next.telemetry = world.telemetry
  later : world.now ≤ next.now

theorem parked_quiet (quiet : Quiet world next) (parked : Parked world) : Parked next := by
  intro known found
  rw [quiet.liveState] at found
  exact parked known (loadLatestState_earlier quiet.later found)

theorem safe_quiet (quiet : Quiet world next) (safe : SafeToLock world) : SafeToLock next := by
  refine safeToLock_iff.mpr fun known found => ?_
  rw [quiet.liveState] at found
  obtain ⟨parked, still⟩ :=
    safeToLock_iff.mp safe known (loadLatestState_earlier quiet.later found)
  exact ⟨parked, quiet.telemetry ▸ standsStill_later quiet.later still⟩

/-- The invariant of conditional runs. -/
structure Guarded (world : World) : Prop where
  sound : Sound world
  underway : LockUnderway world → SafeToLock world
  vetted : LockVetted world → Parked world

/-- A task that follows carries a lock that was carried before, or the guard has
just let it through. -/
theorem perform_carries (task : Task) (outcome : Outcome) :
    ∀ following ∈ (perform config world task outcome).2, carriesLock following = true →
      carriesLock task = true ∨
        ∃ node state, task = .checking node .LOCK (some state) ∧
          assertSafeToLock world.telemetry world.now (some state) = .ok () := by
  cases task with
  | checking node type state =>
    cases type with
    | UNLOCK => simp [perform, carriesLock]
    | LOCK =>
      cases state with
      | none => simp [carriesLock]
      | some known =>
        cases passed : assertSafeToLock world.telemetry world.now (some known) with
        | error reason => simp [perform, passed]
        | ok _ => exact fun _ _ _ => Or.inr ⟨node, known, rfl, passed⟩
  | creating | flushing | unqueueing | delivering | storing | caching =>
    simp_all [perform, carriesLock, Task.copy]
  | recording commandId update =>
    rw [perform.eq_def]
    cases outcome with
    | failed reason =>
      intro following listed
      obtain ⟨_, rfl⟩ := afterFailure_recording listed
      intro carries
      cases carries
    | succeeded | unconfirmed => exact fun _ listed => absurd listed List.not_mem_nil
  | debouncing node type =>
    rw [perform]
    split <;> simp_all [carriesLock]
  | dispatching node instruction =>
    rw [perform]
    split <;> simp_all [carriesLock, Task.copy]
  | queueing instruction =>
    simp only [perform]
    split <;> simp_all [carriesLock, Task.copy]
  | texting instruction | confirmingText instruction | settlingText instruction =>
    cases outcome <;> simp_all [perform, carriesLock, Task.copy]
  | publishing instruction =>
    cases disabled : config.mqttDisabled <;> cases outcome <;>
      simp [perform, disabled, carriesLock, Task.copy]
  | sweeping startedAt rows =>
    cases rows with
    | nil => simp [perform]
    | cons row rest =>
      rw [perform]
      split <;> simp [carriesLock, Task.copy]

theorem perform_vets (task : Task) (outcome : Outcome) :
    ∀ following ∈ (perform config world task outcome).2, vetsLock following = false := by
  unfold perform
  split <;> (repeat' split) <;> (try simp [vetsLock])
  intro following listed
  obtain ⟨_, rfl⟩ := afterFailure_recording listed
  rfl

/-- The guard's verdict on a parked live state read earlier holds of the present
one, as long as the live state has stayed parked. -/
theorem safe_of_passed {known : LiveStateSnapshot} (parked : Parked world)
    (passed : assertSafeToLock world.telemetry world.now (some known) = .ok ()) :
    SafeToLock world := by
  have still := ((assertSafeToLock_ok_iff _ _ _).mp passed known rfl).2
  exact safeToLock_iff.mpr fun present found => ⟨parked present found, still⟩

/-- A request that the guard will refuse is not vetted. -/
theorem vets_of_passed {node : Nat} {known : LiveStateSnapshot}
    (passed : assertSafeToLock world.telemetry world.now (some known) = .ok ()) :
    vetsLock (.checking node .LOCK (some known)) = true := by
  simp [vetsLock, ((assertSafeToLock_ok_iff _ _ _).mp passed known rfl).1]

/-- A lock that is on its way after a task's step was on its way before, or has
just passed the guard. -/
theorem underway_continued {task : Task} {outcome : Outcome} (present : task ∈ world.tasks)
    (underway : LockUnderway (world.continued config task outcome)) :
    LockUnderway world ∨
      ∃ node known, task = .checking node .LOCK (some known) ∧
        assertSafeToLock world.telemetry world.now (some known) = .ok () := by
  have held : ∀ instruction, task.copy = some instruction → instruction.type = .LOCK →
      LockUnderway world := by
    intro instruction copied lock
    refine Or.inl ⟨task, present, ?_⟩
    cases task <;> simp_all [carriesLock, Task.copy]
  rcases underway with ⟨other, member, carries⟩ | ⟨instruction, queued, lock⟩ |
    ⟨instruction, sent, lock⟩
  · cases mem_continued member with
    | inl kept => exact Or.inl (Or.inl ⟨other, kept, carries⟩)
    | inr follows =>
      cases perform_carries task outcome other follows carries with
      | inl before => exact Or.inl (Or.inl ⟨task, present, before⟩)
      | inr passed => exact Or.inr passed
  · cases queued_continued queued with
    | inl changed =>
      obtain ⟨before, _⟩ := changed
      exact Or.inl (Or.inr (Or.inl ⟨instruction, before, lock⟩))
    | inr same =>
      obtain rfl := same
      exact Or.inl (held instruction rfl lock)
  · cases sent_continued sent with
    | inl before => exact Or.inl (Or.inr (Or.inr ⟨instruction, before, lock⟩))
    | inr same =>
      obtain rfl := same
      exact Or.inl (held instruction rfl lock)

/-- Handling telemetry puts no lock on its way. -/
theorem telemetry_carries {task : Task} {outcome : Outcome}
    (handles : (∃ payload, task = .storing payload) ∨ ∃ state, task = .caching state)
    (present : task ∈ world.tasks)
    (underway : LockUnderway (world.continued config task outcome)) : LockUnderway world := by
  cases underway_continued present underway with
  | inl before => exact before
  | inr changed =>
    obtain ⟨_, _, rfl, _⟩ := changed
    rcases handles with ⟨_, impossible⟩ | ⟨_, impossible⟩ <;> cases impossible

/-- All other tasks leave the live state and the stored points alone. -/
theorem quiet_continued {task : Task} {outcome : Outcome}
    (storing : ∀ payload, task ≠ .storing payload) (caching : ∀ state, task ≠ .caching state) :
    Quiet world (world.continued config task outcome) := by
  refine ⟨?_, ?_, le_of_eq (perform_now config world task outcome).symm⟩
  · cases perform_liveState config world task outcome with
    | inl same => exact same
    | inr changed =>
      obtain ⟨state, rfl⟩ := changed
      exact absurd rfl (caching state)
  · cases perform_telemetry config world task outcome with
    | inl same => exact same
    | inr changed =>
      obtain ⟨payload, rfl⟩ := changed
      exact absurd rfl (storing payload)

theorem vetted_continued {task : Task} {outcome : Outcome}
    (vetted : LockVetted (world.continued config task outcome)) : LockVetted world := by
  obtain ⟨other, member, vets⟩ := vetted
  cases mem_continued member with
  | inl kept => exact ⟨other, kept, vets⟩
  | inr follows =>
    rw [perform_vets task outcome other follows] at vets
    cases vets

/-- An arriving request for which there is no live state may be let through, and
one whose live state is parked is vetted. A flush takes its lock from the queue. -/
theorem arrival_guarded {task : Task} (guarded : Guarded world)
    (arrives : Arrival config world action task) :
    (carriesLock task = true → SafeToLock world) ∧ (vetsLock task = true → Parked world) := by
  cases arrives with
  | request node type =>
    cases found : loadLatestState world.liveState world.now with
    | none =>
      constructor
      · intro _
        apply safeToLock_iff.mpr
        intro known present
        rw [found] at present
        cases present
      · intro vets
        cases vets
    | some state =>
      constructor
      · intro carries
        cases carries
      · intro vets known present
        rw [found] at present
        obtain rfl := Option.some.inj present
        exact (Bool.and_eq_true_iff.mp vets).2
  | packet node instruction queued =>
    constructor
    · intro carries
      have lock : instruction.type = .LOCK := by simpa [carriesLock, Task.copy] using carries
      exact guarded.underway (Or.inr (Or.inl ⟨instruction, queued, lock⟩))
    · intro vets
      cases vets
  | _ =>
    constructor
    · intro carries
      cases carries
    · intro vets
      cases vets

theorem guarded_arrival {task : Task} (guarded : Guarded world) (sound : Sound (world.spawn task))
    (admitted : (carriesLock task = true → SafeToLock world) ∧
      (vetsLock task = true → Parked world)) : Guarded (world.spawn task) where
  sound := sound
  underway := by
    rintro (⟨other, member, carries⟩ | elsewhere)
    · cases List.mem_append.mp member with
      | inl kept => exact guarded.underway (Or.inl ⟨other, kept, carries⟩)
      | inr added =>
        obtain rfl := List.mem_singleton.mp added
        exact admitted.1 carries
    · exact guarded.underway (Or.inr elsewhere)
  vetted := by
    rintro ⟨other, member, vets⟩
    cases List.mem_append.mp member with
    | inl kept => exact guarded.vetted ⟨other, kept, vets⟩
    | inr added =>
      obtain rfl := List.mem_singleton.mp added
      exact admitted.2 vets

/-- What a task's step preserves. Telemetry tasks preserve it by the condition of
the run; a lock that has just passed the guard is safe by the guard's verdict. -/
theorem guarded_continued {task : Task} {outcome : Outcome} (guarded : Guarded world)
    (present : task ∈ world.tasks) (sound : Sound (world.continued config task outcome))
    (stays : StaysSafe world (.proceed task outcome) (world.continued config task outcome)) :
    Guarded (world.continued config task outcome) := by
  by_cases handles : (∃ payload, task = .storing payload) ∨ ∃ state, task = .caching state
  · have kept : (LockUnderway world → SafeToLock (world.continued config task outcome)) ∧
        (LockVetted world → Parked (world.continued config task outcome)) := by
      rcases handles with ⟨payload, rfl⟩ | ⟨state, rfl⟩ <;> exact stays
    exact ⟨sound, fun underway => kept.1 (telemetry_carries handles present underway),
      fun vetted => kept.2 (vetted_continued vetted)⟩
  · have quiet : Quiet world (world.continued config task outcome) :=
      quiet_continued (fun payload same => handles (Or.inl ⟨payload, same⟩))
        (fun state same => handles (Or.inr ⟨state, same⟩))
    refine ⟨sound, fun underway => safe_quiet quiet ?_,
      fun vetted => parked_quiet quiet (guarded.vetted (vetted_continued vetted))⟩
    cases underway_continued present underway with
    | inl before => exact guarded.underway before
    | inr changed =>
      obtain ⟨node, known, rfl, passed⟩ := changed
      exact safe_of_passed (guarded.vetted ⟨_, present, vets_of_passed passed⟩) passed

theorem guarded_step (guarded : Guarded world) (stays : StaysSafe world action next)
    (moved : step config world action = some next) : Guarded next := by
  have sound := sound_step guarded.sound moved
  cases step_transition moved with
  | tick elapsed =>
    have quiet : Quiet world { world with now := world.now + elapsed } :=
      ⟨rfl, rfl, by show world.now ≤ world.now + elapsed; omega⟩
    refine ⟨sound, fun underway => safe_quiet quiet (guarded.underway ?_),
      fun vetted => parked_quiet quiet (guarded.vetted vetted)⟩
    rcases underway with task | ⟨instruction, queued, lock⟩ | ⟨instruction, sent, lock⟩
    · exact Or.inl task
    · exact Or.inr (Or.inl ⟨instruction, queued_tick queued, lock⟩)
    · exact Or.inr (Or.inr ⟨instruction, sent_tick sent, lock⟩)
  | socket action connected => exact ⟨sound, guarded.underway, guarded.vetted⟩
  | arrival action task arrives =>
    exact guarded_arrival guarded sound (arrival_guarded guarded arrives)
  | claim node message present timely fresh =>
    refine ⟨sound, ?_, ?_⟩
    · rintro (⟨other, member, carries⟩ | queued | ⟨instruction, sent, lock⟩)
      · cases List.mem_append.mp member with
        | inl kept => exact guarded.underway (Or.inl ⟨other, kept, carries⟩)
        | inr added =>
          obtain rfl := List.mem_singleton.mp added
          have lock : message.instruction.type = .LOCK := by
            simpa [carriesLock, Task.copy] using carries
          have deliverable := deliverable_of_accepted guarded.sound.once present timely fresh
          exact guarded.underway
            (Or.inr (Or.inr ⟨message.instruction, ⟨message, present, rfl, deliverable⟩, lock⟩))
      · exact guarded.underway (Or.inr (Or.inl queued))
      · exact guarded.underway
          (Or.inr (Or.inr ⟨instruction, sent_claim (Option.some_ne_none _) sent, lock⟩))
    · rintro ⟨other, member, vets⟩
      cases List.mem_append.mp member with
      | inl kept => exact guarded.vetted ⟨other, kept, vets⟩
      | inr added =>
        obtain rfl := List.mem_singleton.mp added
        cases vets
  | lost message =>
    refine ⟨sound, ?_, guarded.vetted⟩
    rintro (task | queued | ⟨instruction, ⟨other, member, rest⟩, lock⟩)
    · exact guarded.underway (Or.inl task)
    · exact guarded.underway (Or.inr (Or.inl queued))
    · exact guarded.underway
        (Or.inr (Or.inr ⟨instruction, ⟨other, List.mem_of_mem_erase member, rest⟩, lock⟩))
  | proceed task outcome present => exact guarded_continued guarded present sound stays
  | abandon task =>
    refine ⟨sound, ?_, ?_⟩
    · rintro (⟨other, member, carries⟩ | elsewhere)
      · exact guarded.underway (Or.inl ⟨other, List.mem_of_mem_erase member, carries⟩)
      · exact guarded.underway (Or.inr elsewhere)
    · rintro ⟨other, member, vets⟩
      exact guarded.vetted ⟨other, List.mem_of_mem_erase member, vets⟩

/-- In every run in which the bike stays safe while a lock is on its way, a lock is
written to the tracker only at moments at which the guard would let it through. -/
theorem locks_only_safe_bikes (config : Config) (start : World) (actions : List Action)
    (fresh : Fresh start) (guarded : Along (step config) StaysSafe start actions) :
    Along (step config) LocksSafely start actions := by
  have preserved : ∀ state action next, Guarded state → StaysSafe state action next →
      step config state action = some next → Guarded next :=
    fun state action next before stays moved => guarded_step before stays moved
  refine along_of_invariant Guarded preserved ?_ ⟨sound_fresh fresh, ?_, ?_⟩ guarded
  · intro state action next guarded _ moved instruction written lock
    cases wire_step moved with
    | inl same =>
      rw [written] at same
      simp at same
    | inr changed =>
      obtain ⟨task, present, _, sent, _, transmits, appended⟩ := changed
      have equal : sent = instruction := by simpa using appended.symm.trans written
      have copied := transmits_copy transmits
      refine guarded.underway (Or.inl ⟨task, present, ?_⟩)
      cases task <;> simp_all [carriesLock, Task.copy]
  · rintro (⟨task, member, _⟩ | ⟨instruction, queued, _⟩ | ⟨instruction, ⟨message, member, _⟩, _⟩)
    · simp [fresh.noTasks] at member
    · simp [Queued, fresh.noPending] at queued
    · simp [fresh.noBroker] at member
  · rintro ⟨task, member, _⟩
    simp [fresh.noTasks] at member

/-- A check that telemetry is handled only while no lock is on its way. -/
def telemetryApart (world : World) (action : Action) (_ : World) : Bool :=
  match action with
  | .proceed (.storing _) _ | .proceed (.caching _) _ =>
    world.tasks.all (fun task => !carriesLock task && !vetsLock task) &&
      world.pending.isNone && world.broker.isEmpty
  | _ => true

theorem nothing_underway (checked : (world.tasks.all (fun task => !carriesLock task && !vetsLock task)
      && world.pending.isNone && world.broker.isEmpty) = true) :
    ¬ LockUnderway world ∧ ¬ LockVetted world := by
  simp only [Bool.and_eq_true, Option.isNone_iff_eq_none, List.isEmpty_iff, List.all_eq_true] at checked
  obtain ⟨⟨tasks, unqueued⟩, unsent⟩ := checked
  constructor
  · rintro (⟨task, member, carries⟩ | ⟨instruction, queued, _⟩ | ⟨_, ⟨message, member, _⟩, _⟩)
    · simpa [carries] using (tasks task member).1
    · simp [Queued, unqueued] at queued
    · simp [unsent] at member
  · rintro ⟨task, member, vets⟩
    simpa [vets] using (tasks task member).2

theorem telemetryApart_sound (world : World) (action : Action) (next : World)
    (checked : telemetryApart world action next = true) : StaysSafe world action next := by
  unfold telemetryApart at checked
  split at checked
  · exact ⟨fun underway => absurd underway (nothing_underway checked).1,
      fun vetted => absurd vetted (nothing_underway checked).2⟩
  · exact ⟨fun underway => absurd underway (nothing_underway checked).1,
      fun vetted => absurd vetted (nothing_underway checked).2⟩
  · rename_i notStoring notCaching
    unfold StaysSafe
    split
    · exact absurd rfl (notStoring _ _)
    · exact absurd rfl (notCaching _ _)
    · trivial

/-- A reading of the bike in Kigali on the second of March 2026. -/
def reading (text : String) (epochMs : Int) (speedKph : ℚ) (ignition : Bool) : TelemetryPayload :=
  ⟨⟨text, epochMs⟩, -2, 30, speedKph, none, none, none, some ignition, none⟩

def parkedReading : TelemetryPayload :=
  reading "2026-03-02T08:00:00.000Z" 1772438400000 0 false

def ridingReading : TelemetryPayload :=
  reading "2026-03-02T08:00:00.000Z" 1772438400000 36 true

/-- A parked bike is locked twenty seconds after its last packet. -/
theorem parked_bike_locked :
    Along (step defaultConfig) LocksSafely idleWorld
      [.telemetryArrives parkedReading, .proceed (.storing parkedReading) .succeeded,
       .proceed (.caching (liveStateOf defaultConfig parkedReading)) .succeeded,
       .tick 20000, .connect 0, .requestArrives 0 .LOCK,
       .proceed (.checking 0 .LOCK (some ⟨0, some false⟩)) .succeeded,
       .proceed (.debouncing 0 .LOCK) .succeeded, .proceed (.creating 0 .LOCK) .succeeded,
       .proceed (.dispatching 0 ⟨0, .LOCK⟩) .succeeded] :=
  locks_only_safe_bikes defaultConfig idleWorld _ idleWorld_fresh
    (along_of_check telemetryApart_sound (by decide +kernel))

/-- A lock is requested at one node for a bike without a live state; the tracker is
connected to another node. Before the request has queued the lock, the tracker
reports that the bike is riding, and its next packet flushes the lock. -/
theorem riding_bike_locked :
    ¬ ∀ (config : Config) (start : World) (actions : List Action), Fresh start →
      Along (step config) LocksSafely start actions := by
  intro always
  have breaks : ∀ middle next : World,
      (decide (next.wire = middle.wire ++ [⟨0, .LOCK⟩]) &&
        (loadLatestState middle.liveState middle.now).any (fun known => !known.parked)) = true →
      ¬ LocksSafely middle (.proceed (.flushing 1 ⟨0, .LOCK⟩) .succeeded) next := by
    intro middle next broken safely
    obtain ⟨written, riding⟩ := Bool.and_eq_true_iff.mp broken
    have safe := safeToLock_iff.mp (safely _ (of_decide_eq_true written) rfl)
    cases found : loadLatestState middle.liveState middle.now with
    | none => simp [found] at riding
    | some known => simp [found, (safe known found).1] at riding
  exact not_along_of_check idleWorld (.connect 1 :: requestSteps 0 ⟨0, .LOCK⟩ ++
    ([.telemetryArrives ridingReading, .proceed (.storing ridingReading) .succeeded,
     .proceed (.caching (liveStateOf defaultConfig ridingReading)) .succeeded,
     .proceed (.queueing ⟨0, .LOCK⟩) .succeeded, .tick 1000, .packetArrives 1] : List Action))
    (.proceed (.flushing 1 ⟨0, .LOCK⟩) .succeeded) breaks (by decide +kernel)
    (always defaultConfig idleWorld _ idleWorld_fresh)

end EmotoFleet.LockSafety
