import EmotoFleet.Commands.Copies

/-!
# The order of the instructions on the wire

The tracker obeys the last instruction that it receives, so a stale `LOCK` written
after a newer `UNLOCK` leaves the rider immobilised. The source has no means to
recall a copy: a command delivered by the broker or by a local socket leaves its
entry under the pending key, and every packet of the tracker flushes that entry.

The instructions appear once and in the order of their commands as long as no
step writes a command while a copy of it, or of an older one, stays behind, and
flushes of the pending key do not overlap. The entry that a flush has written
and is about to delete does not count as staying behind.
-/

namespace EmotoFleet.CommandOrder

open Expiring LiveState DeviceCommands Dispatch Holders Runs

/-- A flush has written its instruction and has not deleted the pending key yet. -/
def Flushed (world : World) : Prop := ∃ instruction, Task.unqueueing instruction ∈ world.tasks

/-- A copy of the command stays behind: with an open task, under the pending key
unless a flush is about to delete it, or in the broker. -/
def StaysBehind (world : World) (commandId : Nat) : Prop :=
  ∃ instruction, instruction.commandId = commandId ∧
    (Held world instruction ∨ (¬ Flushed world ∧ Queued world instruction) ∨
      Sent world instruction)

/-- The command itself or a newer one has been written. -/
def Overtaken (world : World) (commandId : Nat) : Prop :=
  ∃ written ∈ world.wire, commandId ≤ written.commandId

/-- The pending key is not read, and its deletion not abandoned, while a flush has
still to delete it. -/
def FlushesAlone (world : World) : Action → Prop
  | .packetArrives _ => ¬ Flushed world
  | .abandon (.unqueueing _) => False
  | _ => True

/-- The step leaves no copy of what it overtakes, and flushes do not overlap. -/
structure OvertakesNothing (world : World) (action : Action) (next : World) : Prop where
  overtakes : ClosesUnheld Overtaken StaysBehind world next
  alone : FlushesAlone world action

/-- The step writes only commands newer than all those written before. -/
def WritesNewest (world : World) (_ : Action) (next : World) : Prop :=
  ∀ instruction, next.wire = world.wire ++ [instruction] →
    ∀ written ∈ world.wire, written.commandId < instruction.commandId

/-- Every command was written at most once and the commands were written in the
order of their creation; the instruction that the tracker obeys is the newest. -/
structure InCreationOrder (world : World) : Prop where
  ordered : world.wire.Pairwise fun earlier later => earlier.commandId < later.commandId
  newest : ∀ last ∈ world.wire.getLast?, ∀ written ∈ world.wire,
    written.commandId ≤ last.commandId

variable {config : Config} {world next : World} {action : Action}

/-- A task's step leaves a flush open unless it is the flush's own deletion. -/
theorem flushed_continued {task : Task} {outcome : Outcome}
    (other : ∀ instruction, task ≠ .unqueueing instruction) (flushed : Flushed world) :
    Flushed (world.continued config task outcome) := by
  obtain ⟨instruction, member⟩ := flushed
  refine ⟨instruction, List.mem_append_left _ ?_⟩
  exact (List.mem_erase_of_ne (other instruction).symm).mpr member

/-- What stays behind was behind before, or is the command just created. -/
theorem behind_step (sound : Sound world) (alone : FlushesAlone world action)
    (moved : step config world action = some next) {commandId : Nat}
    (behind : StaysBehind next commandId) :
    StaysBehind world commandId ∨ commandId = world.commands.length := by
  obtain ⟨instruction, rfl, copy⟩ := behind
  have behindHeld : Held world instruction → StaysBehind world instruction.commandId :=
    fun held => ⟨instruction, rfl, Or.inl held⟩
  have behindSent : Sent world instruction → StaysBehind world instruction.commandId :=
    fun sent => ⟨instruction, rfl, Or.inr (Or.inr sent)⟩
  cases step_transition moved with
  | tick elapsed =>
    rcases copy with held | ⟨unflushed, queued⟩ | sent
    · exact Or.inl (behindHeld held)
    · exact Or.inl ⟨instruction, rfl, Or.inr (Or.inl ⟨unflushed, queued_tick queued⟩)⟩
    · exact Or.inl (behindSent (sent_tick sent))
  | socket action connected => exact Or.inl ⟨instruction, rfl, copy⟩
  | arrival action task arrives =>
    rcases copy with ⟨other, member, held⟩ | ⟨unflushed, queued⟩ | sent
    · cases List.mem_append.mp member with
      | inl kept => exact Or.inl (behindHeld ⟨other, kept, held⟩)
      | inr added =>
        obtain rfl := List.mem_singleton.mp added
        cases arrives with
        | packet node read' found =>
          obtain rfl := Option.some.inj held
          exact Or.inl ⟨_, rfl, Or.inr (Or.inl ⟨alone, found⟩)⟩
        | _ => cases held
    · have before : ¬ Flushed world := by
        rintro ⟨flushed, member⟩
        exact unflushed ⟨flushed, List.mem_append_left _ member⟩
      exact Or.inl ⟨instruction, rfl, Or.inr (Or.inl ⟨before, queued⟩)⟩
    · exact Or.inl (behindSent sent)
  | claim node message present timely fresh =>
    rcases copy with ⟨other, member, held⟩ | ⟨unflushed, queued⟩ | sent
    · cases List.mem_append.mp member with
      | inl kept => exact Or.inl (behindHeld ⟨other, kept, held⟩)
      | inr added =>
        obtain rfl := List.mem_singleton.mp added
        obtain rfl := Option.some.inj held
        exact Or.inl (behindSent
          ⟨message, present, rfl, deliverable_of_accepted sound.once present timely fresh⟩)
    · have before : ¬ Flushed world := by
        rintro ⟨flushed, member⟩
        exact unflushed ⟨flushed, List.mem_append_left _ member⟩
      exact Or.inl ⟨instruction, rfl, Or.inr (Or.inl ⟨before, queued⟩)⟩
    · exact Or.inl (behindSent (sent_claim (Option.some_ne_none _) sent))
  | lost message =>
    rcases copy with held | queued | ⟨other, member, rest⟩
    · exact Or.inl (behindHeld held)
    · exact Or.inl ⟨instruction, rfl, Or.inr (Or.inl queued)⟩
    · exact Or.inl (behindSent ⟨other, List.mem_of_mem_erase member, rest⟩)
  | proceed task outcome present =>
    rcases copy with held | ⟨unflushed, queued⟩ | sent
    · cases held_continued present held with
      | inl before => exact Or.inl (behindHeld before)
      | inr changed =>
        obtain ⟨_, _, created⟩ := changed
        exact Or.inr created
    · cases queued_continued queued with
      | inl changed =>
        obtain ⟨before, other⟩ := changed
        exact Or.inl ⟨instruction, rfl,
          Or.inr (Or.inl ⟨fun flushed => unflushed (flushed_continued other flushed), before⟩)⟩
      | inr same =>
        obtain rfl := same
        exact Or.inl (behindHeld ⟨_, present, rfl⟩)
    · cases sent_continued sent with
      | inl before => exact Or.inl (behindSent before)
      | inr same =>
        obtain rfl := same
        exact Or.inl (behindHeld ⟨_, present, rfl⟩)
  | abandon task =>
    rcases copy with ⟨other, member, held⟩ | ⟨unflushed, queued⟩ | sent
    · exact Or.inl (behindHeld ⟨other, List.mem_of_mem_erase member, held⟩)
    · have before : ¬ Flushed world := by
        rintro ⟨flushed, member⟩
        refine unflushed ⟨flushed, (List.mem_erase_of_ne ?_).mpr member⟩
        rintro rfl
        exact alone
      exact Or.inl ⟨instruction, rfl, Or.inr (Or.inl ⟨before, queued⟩)⟩
    · exact Or.inl (behindSent sent)

/-- Everything written so far is older than a command created by the step. -/
theorem written_before_created (sound : Sound world)
    (moved : step config world action = some next) :
    ∀ written ∈ next.wire, written.commandId < world.commands.length := by
  intro written member
  cases wire_step moved with
  | inl same =>
    rw [same] at member
    exact sound.numbered.wire written member
  | inr changed =>
    obtain ⟨task, present, _, sent, _, transmits, appended⟩ := changed
    have held := transmits_copy transmits
    rw [appended] at member
    cases List.mem_append.mp member with
    | inl before => exact sound.numbered.wire written before
    | inr added =>
      obtain rfl := List.mem_singleton.mp added
      exact sound.numbered.copies task present written held

theorem behind_acquired (sound : Sound world) (alone : FlushesAlone world action)
    (moved : step config world action = some next) :
    Acquires Overtaken StaysBehind world next := by
  intro commandId behind
  cases behind_step sound alone moved behind with
  | inl before => exact Or.inl before
  | inr created =>
    refine Or.inr ?_
    rintro ⟨written, member, older⟩
    have older' := written_before_created sound moved written member
    omega

theorem writes_newest (config : Config) (start : World) (actions : List Action)
    (fresh : Fresh start) (guarded : Along (step config) OvertakesNothing start actions) :
    Along (step config) WritesNewest start actions := by
  refine along_settled Overtaken StaysBehind Sound
    (fun state action next sound moved => sound_step sound moved)
    (fun state action next sound met moved => behind_acquired sound met.alone moved)
    (fun state action next met _ => met.overtakes) ?_ (sound_fresh fresh) ?_ guarded
  · intro state action next _ settled moved instruction written earlier member
    by_contra notOlder
    have behind : StaysBehind state instruction.commandId := by
      cases wire_step moved with
      | inl same =>
        rw [written] at same
        simp at same
      | inr changed =>
        obtain ⟨task, present, _, sent, _, transmits, appended⟩ := changed
        obtain rfl : sent = instruction := by simpa using appended.symm.trans written
        exact ⟨sent, rfl, Or.inl ⟨task, present, transmits_copy transmits⟩⟩
    exact settled instruction.commandId ⟨earlier, member, Nat.le_of_not_lt notOlder⟩ behind
  · rintro commandId ⟨written, member, _⟩ _
    simp [fresh.noWire] at member

/-- An ordered wire ends with its newest command. -/
theorem newest_last {wire : List Instruction}
    (ordered : wire.Pairwise fun earlier later => earlier.commandId < later.commandId) :
    ∀ last ∈ wire.getLast?, ∀ written ∈ wire, written.commandId ≤ last.commandId := by
  intro last ends written member
  obtain ⟨before, rfl⟩ := List.getLast?_eq_some_iff.mp ends
  cases List.mem_append.mp member with
  | inl earlier =>
    exact Nat.le_of_lt ((List.pairwise_append.mp ordered).2.2 written earlier last (by simp))
  | inr final =>
    obtain rfl := List.mem_singleton.mp final
    exact Nat.le_refl _

/-- In every run that overtakes no copy and does not overlap flushes, each command
is written at most once, in the order of creation, in every state reached. -/
theorem written_in_creation_order (config : Config) (start : World) (actions : List Action)
    (fresh : Fresh start) (guarded : Along (step config) OvertakesNothing start actions) :
    Along (step config) (fun _ _ next => InCreationOrder next) start actions := by
  have ordered : ∀ state action next, InCreationOrder state → WritesNewest state action next →
      step config state action = some next → InCreationOrder next := by
    intro state action next inOrder newest moved
    cases wire_step moved with
    | inl same => exact ⟨same ▸ inOrder.ordered, same ▸ inOrder.newest⟩
    | inr changed =>
      obtain ⟨_, _, _, sent, _, _, appended⟩ := changed
      have pairwise : next.wire.Pairwise fun earlier later =>
          earlier.commandId < later.commandId := by
        rw [appended]
        refine List.pairwise_append.mpr ⟨inOrder.ordered, List.pairwise_singleton _ _, ?_⟩
        intro earlier member later added
        obtain rfl := List.mem_singleton.mp added
        exact newest later appended earlier member
      exact ⟨pairwise, newest_last pairwise⟩
  refine along_of_invariant InCreationOrder ordered ordered ?_
    (writes_newest config start actions fresh guarded)
  constructor <;> simp [fresh.noWire]

def isUnqueueing : Task → Bool
  | .unqueueing _ => true
  | _ => false

/-- A check that flushes do not overlap. -/
def flushesAlone (world : World) : Action → Bool
  | .packetArrives _ => world.tasks.all fun task => !isUnqueueing task
  | .abandon (.unqueueing _) => false
  | _ => true

/-- A check that flushes do not overlap and that a write leaves no copies at all. -/
def overtakesNothing (world : World) (action : Action) (next : World) : Bool :=
  flushesAlone world action &&
    (decide (next.wire = world.wire) ||
      (next.tasks.all (·.copy.isNone) && next.broker.isEmpty &&
        (next.pending.isNone || next.tasks.any isUnqueueing)))

theorem flushed_of_any (checked : world.tasks.any isUnqueueing = true) : Flushed world := by
  obtain ⟨task, member, open'⟩ := List.any_eq_true.mp checked
  cases task with
  | unqueueing instruction => exact ⟨instruction, member⟩
  | _ => cases open'

theorem flushesAlone_sound (checked : flushesAlone world action = true) :
    FlushesAlone world action := by
  cases action with
  | packetArrives node =>
    rintro ⟨instruction, member⟩
    simpa [isUnqueueing] using List.all_eq_true.mp checked _ member
  | abandon task => cases task <;> trivial
  | _ => trivial

theorem overtakesNothing_sound (world : World) (action : Action) (next : World)
    (checked : overtakesNothing world action next = true) :
    OvertakesNothing world action next := by
  simp only [overtakesNothing, Bool.and_eq_true, Bool.or_eq_true, decide_eq_true_eq] at checked
  obtain ⟨alone, unchanged | ⟨⟨tasks, sent⟩, pending⟩⟩ := checked
  all_goals refine ⟨?_, flushesAlone_sound alone⟩
  · rintro commandId ⟨written, member, older⟩ notBefore
    exact absurd ⟨written, unchanged ▸ member, older⟩ notBefore
  · rintro commandId _ _ ⟨instruction, _, ⟨task, member, held⟩ | ⟨unflushed, queued⟩ | sent'⟩
    · simpa [held] using List.all_eq_true.mp tasks task member
    · cases pending with
      | inl empty => simp [Queued, Option.isNone_iff_eq_none.mp empty] at queued
      | inr flushing => exact unflushed (flushed_of_any flushing)
    · obtain ⟨message, member, _⟩ := sent'
      simp [List.isEmpty_iff.mp sent] at member

/-- A lock that reaches the tracker when it reconnects, and an unlock after it. -/
theorem reconnect_then_unlock_in_order :
    Along (step defaultConfig) (fun _ _ next => InCreationOrder next) idleWorld
      (requestSteps 0 ⟨0, .LOCK⟩ ++
        [.proceed (.queueing ⟨0, .LOCK⟩) .succeeded,
         .proceed (.texting ⟨0, .LOCK⟩) (.failed "no balance"),
         .proceed (.publishing ⟨0, .LOCK⟩) (.failed "MQTT client is not connected"),
         .proceed (.recording 0 (.published (some "MQTT client is not connected"))) .succeeded,
         .tick 5000, .connect 0, .packetArrives 0, .proceed (.flushing 0 ⟨0, .LOCK⟩) .succeeded,
         .proceed (.unqueueing ⟨0, .LOCK⟩) .succeeded,
         .proceed (.recording 0 .flushed) .succeeded] ++
        requestSteps 0 ⟨1, .UNLOCK⟩) :=
  written_in_creation_order defaultConfig idleWorld _ idleWorld_fresh
    (along_of_check overtakesNothing_sound (by decide +kernel))

/-- A lock accepted by one node reaches the tracker through the broker at another
node. The rider then unlocks at that node, and the tracker's next packet flushes
the entry that the lock has left under the pending key. -/
theorem stale_lock_after_unlock :
    ¬ ∀ (config : Config) (start : World) (actions : List Action), Fresh start →
      Along (step config) (fun _ _ next => InCreationOrder next) start actions := by
  intro always
  have breaks : ∀ middle next : World,
      decide (next.wire = [⟨0, .LOCK⟩, ⟨1, .UNLOCK⟩, ⟨0, .LOCK⟩]) = true →
        ¬ InCreationOrder next := by
    intro middle next broken inOrder
    have ordered := inOrder.ordered
    rw [of_decide_eq_true broken] at ordered
    simp at ordered
  exact not_along_of_check idleWorld
    (.connect 1 :: requestSteps 0 ⟨0, .LOCK⟩ ++
      ([.proceed (.queueing ⟨0, .LOCK⟩) .succeeded,
       .proceed (.texting ⟨0, .LOCK⟩) (.failed "no balance"),
       .proceed (.publishing ⟨0, .LOCK⟩) .succeeded,
       .proceed (.recording 0 (.published none)) .succeeded, .tick 200,
       .commandDelivered 1 ⟨⟨0, .LOCK⟩, 1772438400000⟩,
       .proceed (.delivering 1 ⟨0, .LOCK⟩) .succeeded] : List Action) ++
      requestSteps 1 ⟨1, .UNLOCK⟩ ++ ([.packetArrives 1] : List Action))
    (.proceed (.flushing 1 ⟨0, .LOCK⟩) .succeeded) breaks
    (by decide +kernel) (always defaultConfig idleWorld _ idleWorld_fresh)

end EmotoFleet.CommandOrder
