import EmotoFleet.Deliveries.Deliveries
import EmotoFleet.Foundations.Overlaps

/-!
# The life of a delivery

A delivery should move along the table of transitions, never change once it was delivered
or has failed, and have a rider whenever it is not pending. Only one of the calls asks the
table, and none of them holds the delivery between reading and writing it. What is written
keeps to the table exactly where it would do so if it were checked at that moment.
-/

namespace EmotoFleet.Deliveries

open Access (Id)
open Runs Interleavings Tables

section Property

/-- What may become of a delivery: it stays as it is, or it has not ended and keeps its
status or takes one that the table allows. -/
def MayBecome (old new : Delivery) : Prop :=
  new = old ∨ isTerminal old.status = false ∧
    (new.status = old.status ∨ new.status ∈ VALID_TRANSITIONS old.status)

instance (old new : Delivery) : Decidable (MayBecome old new) :=
  inferInstanceAs (Decidable (_ ∨ _))

/-- Every delivery that is not pending has a rider. -/
def Ridden (store : Store) : Prop :=
  ∀ row ∈ store.deliveries, row.status ≠ .PENDING → row.riderId.isSome = true

instance (store : Store) : Decidable (Ridden store) :=
  inferInstanceAs (Decidable (∀ _ ∈ _, _))

/-- A step keeps to the life of a delivery. -/
structure KeepsLifecycle (before after : Store) : Prop where
  changes : ∀ old ∈ before.deliveries, ∃ new ∈ after.deliveries, new.id = old.id ∧ MayBecome old new
  ridden : Ridden after

instance (before after : Store) : Decidable (KeepsLifecycle before after) :=
  decidable_of_iff ((∀ old ∈ before.deliveries, ∃ new ∈ after.deliveries,
      new.id = old.id ∧ MayBecome old new) ∧ Ridden after)
    ⟨fun both => ⟨both.1, both.2⟩, fun keeps => ⟨keeps.changes, keeps.ridden⟩⟩

/-- The delivery that a write is about: one that is assigned is still pending or assigned;
one that gets a status has not ended, has that status or one from which the table leads to
it, and has a rider unless the status is pending. -/
def Permitted (store : Store) : Write → Prop
  | .assign id _ _ =>
    ∀ row ∈ find store id, row.status = .PENDING ∨ row.status = .ASSIGNED
  | .setStatus id data =>
    ∀ row ∈ find store id, isTerminal row.status = false ∧
      (data.status = row.status ∨ data.status ∈ VALID_TRANSITIONS row.status) ∧
      (data.status = .PENDING ∨ row.riderId.isSome = true)
  | .create _ _ _ | .surround _ => True

instance (store : Store) : (operation : Write) → Decidable (Permitted store operation)
  | .assign _ _ _ => inferInstanceAs (Decidable (∀ _ ∈ _, _))
  | .setStatus _ _ => inferInstanceAs (Decidable (∀ _ ∈ _, _))
  | .create _ _ _ | .surround _ => inferInstanceAs (Decidable True)

end Property

section Changes

variable {store : Store} {id : Id} {row : Delivery}

/-- A delivery is found by its identity exactly when it is listed. -/
theorem find_iff : find store id = some row ↔ row ∈ store.deliveries ∧ row.id = id :=
  find?_key_iff store.distinct

/-- A delivery may stay as it is. -/
theorem mayBecome_self (row : Delivery) : MayBecome row row := Or.inl rfl

/-- A store that stays keeps the lifecycle. -/
theorem keepsLifecycle_self (ridden : Ridden store) : KeepsLifecycle store store where
  changes := fun row listed => ⟨row, listed, rfl, mayBecome_self row⟩
  ridden := ridden

/-- Whether a change of one delivery keeps to its life is a matter of that delivery. -/
theorem keepsLifecycle_change_iff (ridden : Ridden store) (found : find store id = some row)
    {change : Delivery → Delivery} (kept : ∀ row, (change row).id = row.id) :
    KeepsLifecycle store (store.change id change kept) ↔
      MayBecome row (change row) ∧
        ((change row).status ≠ .PENDING → (change row).riderId.isSome = true) := by
  obtain ⟨stored, isWanted⟩ := find_iff.mp found
  have changed : change row ∈ (store.change id change kept).deliveries :=
    mem_updateKey.mpr (Or.inl ⟨row, stored, isWanted, rfl⟩)
  constructor
  case mp =>
    intro keeps
    refine ⟨?_, keeps.ridden _ changed⟩
    obtain ⟨new, listed, same, becomes⟩ := keeps.changes row stored
    have alone := eq_of_key_eq (store.change id change kept).distinct listed changed
      (same.trans (kept row).symm)
    exact alone ▸ becomes
  case mpr =>
    rintro ⟨becomes, staffed⟩
    constructor
    case changes =>
      intro old listed
      by_cases wanted : old.id = id
      case pos =>
        obtain rfl := eq_of_key_eq store.distinct listed stored (wanted.trans isWanted.symm)
        exact ⟨change old, changed, kept old, becomes⟩
      case neg =>
        exact ⟨old, mem_updateKey.mpr (Or.inr ⟨listed, wanted⟩), rfl, mayBecome_self old⟩
    case ridden =>
      intro new listed
      rcases mem_updateKey.mp listed with ⟨old, oldStored, wanted, rfl⟩ | ⟨unchanged, -⟩
      case inl =>
        obtain rfl := eq_of_key_eq store.distinct oldStored stored (wanted.trans isWanted.symm)
        exact staffed
      case inr => exact ridden new unchanged

/-- An update always changes the row, so it has to follow the table. -/
theorem mayBecome_updated_iff {old new : Delivery} (updated : new.updates = old.updates + 1) :
    MayBecome old new ↔ isTerminal old.status = false ∧
      (new.status = old.status ∨ new.status ∈ VALID_TRANSITIONS old.status) := by
  have apart : new ≠ old := by
    intro same
    rw [same] at updated
    exact Nat.succ_ne_self _ updated.symm
  rw [MayBecome, or_iff_right apart]

/-- An assignment keeps the lifecycle exactly when the delivery may be assigned. -/
theorem keepsLifecycle_assigned_iff (ridden : Ridden store) (found : find store id = some row)
    (riderId : Id) (assignedAt : Int) :
    KeepsLifecycle store
        (store.change id (assigned riderId assignedAt) (assigned_id riderId assignedAt)) ↔
      row.status = .PENDING ∨ row.status = .ASSIGNED := by
  have led : ∀ status : DeliveryStatus,
      isTerminal status = false ∧
          (DeliveryStatus.ASSIGNED = status ∨ .ASSIGNED ∈ VALID_TRANSITIONS status) ↔
        status = .PENDING ∨ status = .ASSIGNED := by
    intro status
    cases status
    all_goals decide
  rw [keepsLifecycle_change_iff ridden found, mayBecome_updated_iff rfl, ← led]
  exact and_iff_left fun _ => rfl

/-- A new status keeps the lifecycle exactly when it may follow. -/
theorem keepsLifecycle_moved_iff (ridden : Ridden store) (found : find store id = some row)
    (data : StatusData) :
    KeepsLifecycle store (store.change id (moved data) (moved_id data)) ↔
      isTerminal row.status = false ∧
        (data.status = row.status ∨ data.status ∈ VALID_TRANSITIONS row.status) ∧
        (data.status = .PENDING ∨ row.riderId.isSome = true) := by
  rw [keepsLifecycle_change_iff ridden found, mayBecome_updated_iff rfl, and_assoc]
  refine and_congr_right fun _ => and_congr_right fun _ => ?_
  exact ⟨fun staffed => or_iff_not_imp_left.mpr staffed, fun staffed => or_iff_not_imp_left.mp staffed⟩

/-- What the database accepts keeps to the life of the deliveries exactly if the delivery
that it is about permits it. -/
theorem keepsLifecycle_commit_iff (ridden : Ridden store) {operation : Write} {written : Store}
    (accepted : commit store operation = .ok written) :
    KeepsLifecycle store written ↔ Permitted store operation := by
  cases operation with
  | create id fleetId order =>
    rw [commit] at accepted
    split at accepted
    case isTrue => cases accepted
    case isFalse =>
      split at accepted
      case isTrue => cases accepted
      case isFalse =>
        cases accepted
        refine iff_of_true ⟨?_, ?_⟩ trivial
        · intro old listed
          exact ⟨old, List.mem_append_left _ listed, rfl, mayBecome_self old⟩
        · intro row listed
          cases List.mem_append.mp listed with
          | inl earlier => exact ridden row earlier
          | inr new =>
            rw [List.mem_singleton.mp new]
            exact fun moved => absurd rfl moved
  | assign id riderId assignedAt =>
    rw [commit] at accepted
    cases found : find store id with
    | none =>
      rw [found] at accepted
      cases accepted
    | some row =>
      simp only [found] at accepted
      split at accepted
      case isTrue =>
        cases accepted
        simp only [Permitted, found, Option.mem_def, Option.some.injEq, forall_eq']
        exact keepsLifecycle_assigned_iff ridden found riderId assignedAt
      case isFalse => cases accepted
  | setStatus id data =>
    rw [commit] at accepted
    cases found : find store id with
    | none =>
      rw [found] at accepted
      cases accepted
    | some row =>
      simp only [found] at accepted
      cases accepted
      simp only [Permitted, found, Option.mem_def, Option.some.injEq, forall_eq']
      exact keepsLifecycle_moved_iff ridden found data
  | surround surroundings =>
    rw [commit] at accepted
    split at accepted
    case isTrue =>
      cases accepted
      exact iff_of_true
        ⟨fun old listed => ⟨old, listed, rfl, mayBecome_self old⟩, ridden⟩ trivial
    case isFalse => cases accepted

end Changes

section Overlaps

/-- The delivery as a call has read it, which each of them does first. -/
def readAs (seen : List Store) (id : Id) : Option Delivery :=
  seen.head?.bind fun first => find first id

/-- What the life of a delivery depends on: its status, and whether it has a rider. -/
def standing (row : Delivery) : DeliveryStatus × Bool := (row.status, row.riderId.isSome)

/-- No other call has changed the standing of the delivery between the read of the call and
this write. -/
def NotOvertaken (_ : Request) (seen : List Store) (store : Store) : Write → Prop
  | .assign id _ _ | .setStatus id _ =>
    (readAs seen id).map standing = (find store id).map standing
  | .create _ _ _ | .surround _ => True

instance (request : Request) (seen : List Store) (store : Store) :
    (operation : Write) → Decidable (NotOvertaken request seen store operation)
  | .assign _ _ _ | .setStatus _ _ => inferInstanceAs (Decidable (_ = _))
  | .create _ _ _ | .surround _ => inferInstanceAs (Decidable True)

/-- A request that the checks of the calls let through although they should not: to assign
a delivery that was picked up, to give an ended delivery the status that it has, or to move
a delivery on that nobody rides. The others suit the delivery that the call has read. -/
def Suits : Request → List Store → Store → Write → Prop
  | .assignDelivery _ id _, seen, _, _ =>
    ∀ row ∈ readAs seen id, row.status ≠ .PICKED_UP ∧ row.status ≠ .IN_TRANSIT
  | .updateDeliveryStatus _ id dto _, seen, _, _ =>
    ∀ row ∈ readAs seen id, ¬ (isTerminal row.status = true ∧ dto.status = row.status) ∧
      (dto.status = .PENDING ∨ row.riderId.isSome = true)
  | .createDelivery _ _ _, _, _, _ | .autoAssignDelivery _ _, _, _, _ | .surround _, _, _, _ => True

instance : (request : Request) → (seen : List Store) → (store : Store) → (operation : Write) →
    Decidable (Suits request seen store operation)
  | .assignDelivery _ _ _, _, _, _ => inferInstanceAs (Decidable (∀ _ ∈ _, _))
  | .updateDeliveryStatus _ _ _ _, _, _, _ => inferInstanceAs (Decidable (∀ _ ∈ _, _))
  | .createDelivery _ _ _, _, _, _ | .autoAssignDelivery _ _, _, _, _ | .surround _, _, _, _ =>
    inferInstanceAs (Decidable True)

/-- What the checks of a call tell about its write. -/
def Checked : Request → List Store → Write → Prop
  | .assignDelivery _ id _, seen, operation =>
    ∃ row riderId now, readAs seen id = some row ∧ operation = .assign id riderId now ∧
      isTerminal row.status = false
  | .autoAssignDelivery _ id, seen, operation =>
    ∃ row riderId now, readAs seen id = some row ∧ operation = .assign id riderId now ∧
      row.status = .PENDING
  | .updateDeliveryStatus _ id dto _, seen, operation =>
    ∃ row data, readAs seen id = some row ∧ operation = .setStatus id data ∧
      data.status = dto.status ∧
      (dto.status = row.status ∨ dto.status ∈ VALID_TRANSITIONS row.status)
  | .createDelivery id fleetId dto, _, operation => operation = .create id fleetId dto
  | .surround surroundings, _, operation => operation = .surround surroundings

variable {store : Store} {fleetId id : Id}

/-- A delivery that is found in its fleet is found. -/
theorem findInFleet_find {row : Delivery} (found : findInFleet store fleetId id = some row) :
    find store id = some row := by
  have chosen := List.find?_some found
  rw [Bool.and_eq_true, beq_iff_eq] at chosen
  exact find_iff.mpr ⟨List.mem_of_find?_eq_some found, chosen.1⟩

/-- An assignment by hand is for a delivery that had not ended. -/
theorem assignDelivery_vouches (fleetId id riderId : Id) :
    Overlaps.Vouches commit Ridden (Checked (.assignDelivery fleetId id riderId))
      (fun _ _ => True) [] (assignDelivery fleetId id riderId) := by
  rw [assignDelivery, Overlaps.vouches_bind, Overlaps.vouches_read]
  intro first _
  cases found : findInFleet first fleetId id with
  | none => trivial
  | some row =>
    refine Overlaps.vouches_ite (fun _ => trivial) fun going => ?_
    intro second _
    refine Overlaps.vouches_ite (fun _ => ?_) fun _ => trivial
    intro third _
    exact ⟨⟨row, riderId, _, findInFleet_find found, rfl, Bool.eq_false_iff.mpr going⟩,
      fun _ _ _ _ => trivial⟩

/-- The service chooses a rider for a delivery that was pending. -/
theorem autoAssignDelivery_vouches (calculateHaversineDistance : ℚ → ℚ → ℚ → ℚ → ℚ)
    (fleetId id : Id) :
    Overlaps.Vouches commit Ridden (Checked (.autoAssignDelivery fleetId id))
      (fun _ _ => True) [] (autoAssignDelivery calculateHaversineDistance fleetId id) := by
  rw [autoAssignDelivery, Overlaps.vouches_bind, Overlaps.vouches_read]
  intro first _
  cases found : findInFleet first fleetId id with
  | none => trivial
  | some row =>
    refine Overlaps.vouches_ite (fun _ => trivial) fun going => ?_
    intro second _
    refine Overlaps.vouches_ite (fun _ => trivial) fun _ => ?_
    intro third _ fourth _
    simp only [Program.andThen]
    split
    case h_1 => trivial
    case h_2 chosen _ =>
      intro fifth _
      exact ⟨⟨row, _, _, findInFleet_find found, rfl, not_not.mp going⟩, fun _ _ _ _ => trivial⟩

/-- The table leads from the status that was read to the one that is written. -/
theorem updateDeliveryStatus_vouches (fleetId id : Id) (dto : UpdateDeliveryStatusDto)
    (actor : AuthenticatedUser) :
    Overlaps.Vouches commit Ridden (Checked (.updateDeliveryStatus fleetId id dto actor))
      (fun _ _ => True) [] (updateDeliveryStatus fleetId id dto actor) := by
  rw [updateDeliveryStatus, Overlaps.vouches_bind, Overlaps.vouches_read]
  intro first _
  cases found : findInFleet first fleetId id with
  | none => trivial
  | some row =>
    refine Overlaps.vouches_ite (fun _ => trivial) fun _ => ?_
    refine Overlaps.vouches_ite (fun _ => trivial) fun led => ?_
    intro second _
    refine ⟨⟨row, _, findInFleet_find found, rfl, rfl, ?_⟩, fun _ _ _ _ => trivial⟩
    by_cases same : row.status = dto.status
    case pos => exact Or.inl same.symm
    case neg => exact Or.inr (not_and_not_right.mp led same)

/-- The checks of every request answer for the status that it writes. -/
theorem handle_vouches (calculateHaversineDistance : ℚ → ℚ → ℚ → ℚ → ℚ) (request : Request) :
    Overlaps.Vouches commit Ridden (Checked request) (fun _ _ => True) []
      (handle calculateHaversineDistance request) := by
  cases request with
  | createDelivery id fleetId dto =>
    rw [handle, createDelivery, ensureDeliveryFleet, Overlaps.vouches_bind]
    intro store _
    exact Overlaps.vouches_ite (fun _ => ⟨rfl, fun _ _ _ _ => trivial⟩) fun _ => trivial
  | assignDelivery fleetId id riderId => exact assignDelivery_vouches fleetId id riderId
  | autoAssignDelivery fleetId id => exact autoAssignDelivery_vouches calculateHaversineDistance fleetId id
  | updateDeliveryStatus fleetId id dto actor => exact updateDeliveryStatus_vouches fleetId id dto actor
  | surround surroundings => exact ⟨rfl, fun _ _ _ _ => trivial⟩

/-- Where no other call has come in between, the delivery permits the write of a request
exactly if the request suits it. -/
theorem permitted_iff {request : Request} {seen : List Store} {operation : Write} {written : Store}
    (checked : Checked request seen operation) (timely : NotOvertaken request seen store operation)
    (accepted : commit store operation = .ok written) :
    Permitted store operation ↔ Suits request seen store operation := by
  cases request with
  | createDelivery newId fleetId dto =>
    obtain rfl := checked
    exact Iff.rfl
  | surround surroundings =>
    obtain rfl := checked
    exact Iff.rfl
  | assignDelivery fleetId id riderId =>
    obtain ⟨row, riderId, now, read, rfl, going⟩ := checked
    rw [NotOvertaken, read, Option.map_some, eq_comm, Option.map_eq_some_iff] at timely
    obtain ⟨stored, found, same⟩ := timely
    obtain ⟨status, -⟩ := Prod.mk.inj same
    simp only [Permitted, Suits, found, read, Option.mem_def, Option.some.injEq, forall_eq', status]
    revert going
    cases row.status
    all_goals decide
  | autoAssignDelivery fleetId id =>
    obtain ⟨row, riderId, now, read, rfl, pending⟩ := checked
    rw [NotOvertaken, read, Option.map_some, eq_comm, Option.map_eq_some_iff] at timely
    obtain ⟨stored, found, same⟩ := timely
    obtain ⟨status, -⟩ := Prod.mk.inj same
    simp only [Permitted, Suits, found, Option.mem_def, Option.some.injEq, forall_eq', status,
      pending, true_or]
  | updateDeliveryStatus fleetId id dto actor =>
    obtain ⟨row, data, read, rfl, requested, led⟩ := checked
    rw [NotOvertaken, read, Option.map_some, eq_comm, Option.map_eq_some_iff] at timely
    obtain ⟨stored, found, same⟩ := timely
    obtain ⟨status, rider⟩ := Prod.mk.inj same
    simp only [Permitted, Suits, found, read, Option.mem_def, Option.some.injEq, forall_eq', status,
      rider, requested, led, true_and]
    refine and_congr_left fun _ => ?_
    revert led
    cases row.status
    all_goals cases dto.status
    all_goals decide

end Overlaps

/-- In every interleaving of calls in which no write is overtaken, the deliveries keep to
their life exactly if every request that writes suits the delivery that it has read. -/
theorem lifecycle_kept_iff (calculateHaversineDistance : ℚ → ℚ → ℚ → ℚ → ℚ) (store : Store)
    (actions : List (Action Request)) (ridden : Ridden store)
    (timely : Along (Overlaps.watch commit (handle calculateHaversineDistance))
      (fun before action _ => Overlaps.Meets commit NotOvertaken before action)
      (Overlaps.Watched.begun store) actions) :
    Along (step commit (handle calculateHaversineDistance))
        (fun before _ next => KeepsLifecycle before.store next.store) ⟨store, []⟩ actions ↔
      Along (Overlaps.watch commit (handle calculateHaversineDistance))
        (fun before action _ => Overlaps.Meets commit Suits before action)
        (Overlaps.Watched.begun store) actions :=
  Overlaps.along_changes_iff (handle_vouches calculateHaversineDistance)
    (fun _ => keepsLifecycle_self)
    (fun _ _ _ _ _ ridden checked timely accepted =>
      (keepsLifecycle_commit_iff ridden accepted).trans (permitted_iff checked timely accepted))
    (fun _ _ _ _ keeps _ => keeps.ridden) ridden timely

section Samples

/-- A rider of the fleet. -/
def sampleRider (id : Id) : Access.User where
  id := id
  fleetId := "fleet"
  role := .RIDER
  email := none
  phone := none
  status := "ACTIVE"
  createdAt := 0
  riderProfile := none

/-- An order. -/
def sampleOrder : CreateDeliveryDto where
  orderNumber := "ORD-12345"
  pickupAddress := "Kigali Heights, KG 7 Ave"
  pickupLat := -19441 / 10000
  pickupLng := 300899 / 10000
  dropoffAddress := "Nyabugogo Bus Station"
  dropoffLat := -19398 / 10000
  dropoffLng := 300532 / 10000
  customerName := "Marie Claire"
  customerPhone := "+250788888888"
  notes := none

/-- One delivery fleet with two riders, and no deliveries yet. -/
def sampleStore : Store where
  deliveries := []
  distinct := List.nodup_nil
  surroundings :=
    { now := 1_780_531_200_000, fleets := [("fleet", .DELIVERY)]
      users := [sampleRider "amina", sampleRider "jean"], assignments := [], online := []
      live := [] }

/-- The store before the first order. -/
def sampleSystem : System Store Write DatabaseError Failure := ⟨sampleStore, []⟩

/-- A request for a status by a member of the fleet. -/
def sampleStatus (status : DeliveryStatus) : Request :=
  .updateDeliveryStatus "fleet" "delivery" ⟨status, none, none, none, none⟩
    ⟨"dispatcher", .DISPATCHER⟩

/-- One delivery is created, assigned and picked up, each after the other. -/
def oneDelivery : List (Action Request) :=
  [.submit (.createDelivery "delivery" "fleet" sampleOrder), .advance 0, .advance 0,
    .submit (.assignDelivery "fleet" "delivery" "amina"), .advance 1, .advance 1, .advance 1,
    .advance 1, .submit (sampleStatus .PICKED_UP), .advance 2, .advance 2, .advance 2]

/-- In the run of the example the lifecycle is kept exactly when no action is overtaken. -/
theorem lifecycle_kept_iff_oneDelivery :
    Along (step commit (handle fun _ _ _ _ => 0))
        (fun before _ next => KeepsLifecycle before.store next.store) ⟨sampleStore, []⟩ oneDelivery ↔
      Along (Overlaps.watch commit (handle fun _ _ _ _ => 0))
        (fun before action _ => Overlaps.Meets commit Suits before action)
        (Overlaps.Watched.begun sampleStore) oneDelivery :=
  lifecycle_kept_iff (fun _ _ _ _ => 0) sampleStore oneDelivery
    (fun _ listed => absurd listed List.not_mem_nil)
    (along_of_decide (by decide +kernel))

/-- The delivery is given to another rider while it is marked as failed. -/
theorem failed_delivery_assigned :
    ¬ ∀ calculateHaversineDistance (system : System Store Write DatabaseError Failure) actions,
      Ridden system.store →
        Along (step commit (handle calculateHaversineDistance))
          (fun before _ next => KeepsLifecycle before.store next.store) system actions := by
  intro claim
  refine not_along_of_check sampleSystem
    (oneDelivery ++ [.submit (.assignDelivery "fleet" "delivery" "jean"), .advance 3, .advance 3,
      .advance 3, .submit (sampleStatus .FAILED), .advance 4, .advance 4, .advance 4]) (.advance 3)
    (fun middle next (broken : decide (¬ KeepsLifecycle middle.store next.store) = true) =>
      of_decide_eq_true broken) ?_
    (claim (fun _ _ _ _ => 0) sampleSystem _ fun _ listed => nomatch listed)
  decide +kernel

end Samples

end EmotoFleet.Deliveries
