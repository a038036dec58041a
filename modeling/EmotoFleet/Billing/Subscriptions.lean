import EmotoFleet.Access.FleetTables
import EmotoFleet.Foundations.CivilDates
import EmotoFleet.Foundations.Overlaps
import EmotoFleet.Foundations.Tables

/-!
# Subscriptions of fleets

A fleet subscribes to a plan, and by that its earlier subscriptions are deactivated, a new
one is created and the fleet pays automatically. These are three writes of their own, and
nothing in the table keeps a fleet from having several active subscriptions. A fleet cancels
the renewal of a subscription, which then stays active until it ends.

The server runs in universal time, and an instant is a number of milliseconds since 1970.
Left out are the audit rows, the answers, and the columns of plans that nothing here reads.
-/

namespace EmotoFleet.Billing.Subscriptions

open Access (Id)
open CivilDates (CivilDate daysBeforeYear daysBeforeMonth isLeapYear)
open Runs Interleavings Tables

/-- How long a subscription runs. -/
inductive SubscriptionPlanDuration where
  | MONTHLY
  | QUARTERLY
  | SEMI_ANNUAL
  | ANNUAL
  | BIENNIAL
  deriving DecidableEq

/-- A plan that a fleet may subscribe to. -/
structure SubscriptionPlan where
  id : Id
  duration : SubscriptionPlanDuration
  durationMonths : Nat
  isActive : Bool
  deriving DecidableEq

/-- A fleet, with its means of payment. -/
structure Fleet where
  id : Id
  autoPayEnabled : Bool
  momoPhoneNumber : Option String
  deriving DecidableEq

/-- The subscription of a fleet. -/
structure FleetSubscription where
  id : Id
  fleetId : Id
  planId : Id
  startDate : Nat
  endDate : Nat
  autoRenew : Bool
  momoPhoneNumber : Option String
  isActive : Bool
  cancelledAt : Option Nat
  deriving DecidableEq

/-- The tables, and the clock that the requests read. -/
structure SubscriptionStore where
  now : Nat
  plans : List SubscriptionPlan
  fleets : List Fleet
  subscriptions : List FleetSubscription
  distinct : (subscriptions.map FleetSubscription.id).Nodup

/-- The writes of the service. -/
inductive Write where
  | deactivateAll (fleetId : Id) (cancelledAt : Nat)
  | create (subscription : FleetSubscription)
  | stopRenewal (id : Id) (cancelledAt : Nat)
  | updateFleet (id : Id) (change : Fleet → Fleet)
  | pass (milliseconds : Nat)

/-- What the database objects to: an identity that is taken, a reference to a row that is
missing, and an update of one. -/
inductive DatabaseError where
  | P2002
  | P2003
  | P2025
  deriving DecidableEq

/-- How a call may end without an answer. -/
inductive Failure where
  | notFound (message : String)
  | database (error : DatabaseError)
  deriving DecidableEq

/-- A call of the service, access by access. -/
abbrev Call := Program SubscriptionStore Write DatabaseError Failure

/-! ## The calls -/

/-- The milliseconds of a day. -/
def millisecondsPerDay : Nat := 24 * 60 * 60 * 1000

/-- `setMonth` with a later month. The day of the month stays, and where the month is too
short for it, it falls into the next one. -/
def addMonths (months instant : Nat) : Nat :=
  let date := CivilDate.ofDayNumber (instant / millisecondsPerDay + daysBeforeYear 1970)
  let month := date.year * 12 + (date.month - 1) + months
  let firstDay := daysBeforeYear (month / 12) +
    daysBeforeMonth (isLeapYear (month / 12)) (month % 12 + 1)
  (firstDay + (date.day - 1) - daysBeforeYear 1970) * millisecondsPerDay +
    instant % millisecondsPerDay

/-- A month after the last day of January 2026 it is the third of March. -/
example : addMonths 1 (20484 * millisecondsPerDay) = 20515 * millisecondsPerDay := by
  decide +kernel

/-- The word for each duration. -/
def SubscriptionPlanDuration.text : SubscriptionPlanDuration → String
  | .MONTHLY => "MONTHLY"
  | .QUARTERLY => "QUARTERLY"
  | .SEMI_ANNUAL => "SEMI_ANNUAL"
  | .ANNUAL => "ANNUAL"
  | .BIENNIAL => "BIENNIAL"

/-- The active plan of a duration. -/
def loadPlan (planDuration : SubscriptionPlanDuration) : Call SubscriptionPlan := do
  let plan ← Program.read fun store =>
    store.plans.find? fun plan => decide (plan.duration = planDuration)
  match plan.filter SubscriptionPlan.isActive with
  | none => .failed (.notFound s!"Subscription plan {planDuration.text} is not available")
  | some plan => pure plan

/-- The new row draws its identity. -/
def subscribeToPlan (newId fleetId : Id) (planDuration : SubscriptionPlanDuration)
    (momoPhoneNumber : String) : Call Unit := do
  let plan ← loadPlan planDuration
  let cancelledAt ← Program.read SubscriptionStore.now
  Program.write (.deactivateAll fleetId cancelledAt) .database
  let now ← Program.read SubscriptionStore.now
  Program.write (.create
    { id := newId
      fleetId := fleetId
      planId := plan.id
      startDate := now
      endDate := addMonths plan.durationMonths now
      autoRenew := true
      momoPhoneNumber := some momoPhoneNumber
      isActive := true
      cancelledAt := none }) .database
  Program.write (.updateFleet fleetId fun fleet =>
    { fleet with
      autoPayEnabled := true
      momoPhoneNumber := some momoPhoneNumber }) .database

/-- The first active subscription, where the database orders them as it likes. -/
def loadActive (order : Nat) (fleetId : Id) : Call FleetSubscription := do
  let found ← Program.read fun store => store.subscriptions.filter fun subscription =>
    decide (subscription.fleetId = fleetId) && subscription.isActive
  match found[order % found.length]? with
  | none => .failed (.notFound "No active subscription found")
  | some subscription => pure subscription

/-- The fleet's subscription runs out instead of being renewed. -/
def cancelSubscription (order : Nat) (fleetId : Id) : Call Unit := do
  let subscription ← loadActive order fleetId
  let cancelledAt ← Program.read SubscriptionStore.now
  Program.write (.stopRenewal subscription.id cancelledAt) .database
  Program.write (.updateFleet fleetId fun fleet => { fleet with autoPayEnabled := false }) .database

/-- Time passes as well. -/
inductive Request where
  | subscribe (newId fleetId : Id) (planDuration : SubscriptionPlanDuration)
      (momoPhoneNumber : String)
  | cancel (order : Nat) (fleetId : Id)
  | wait (milliseconds : Nat)

/-- The calls that serve the requests. -/
def handle : Request → Call Unit
  | .subscribe newId fleetId planDuration momoPhoneNumber =>
    subscribeToPlan newId fleetId planDuration momoPhoneNumber
  | .cancel order fleetId => cancelSubscription order fleetId
  | .wait milliseconds => Program.write (.pass milliseconds) .database

/-! ## The tables -/

/-- A subscription that is over. -/
def FleetSubscription.deactivate (cancelledAt : Nat) (subscription : FleetSubscription) :
    FleetSubscription :=
  { subscription with
    isActive := false
    cancelledAt := some cancelledAt }

/-- A subscription that will not be renewed. -/
def FleetSubscription.stopRenewal (cancelledAt : Nat) (subscription : FleetSubscription) :
    FleetSubscription :=
  { subscription with
    autoRenew := false
    cancelledAt := some cancelledAt }

namespace SubscriptionStore

variable (store : SubscriptionStore)

/-- Every active subscription of a fleet is over. -/
def deactivateAll (fleetId : Id) (cancelledAt : Nat) : SubscriptionStore :=
  { store with
    subscriptions := store.subscriptions.map fun subscription =>
      if subscription.fleetId = fleetId ∧ subscription.isActive then
        subscription.deactivate cancelledAt
      else subscription
    distinct := by
      have kept : FleetSubscription.id ∘ (fun subscription : FleetSubscription =>
          if subscription.fleetId = fleetId ∧ subscription.isActive then
            subscription.deactivate cancelledAt
          else subscription) = FleetSubscription.id := by
        funext subscription
        rw [Function.comp_apply]
        split <;> rfl
      rw [List.map_map, kept]
      exact store.distinct }

/-- One more subscription. -/
def insert (subscription : FleetSubscription)
    (new : subscription.id ∉ store.subscriptions.map FleetSubscription.id) : SubscriptionStore :=
  { store with
    subscriptions := store.subscriptions ++ [subscription]
    distinct := (unique_append_iff subscription).mpr ⟨store.distinct, new⟩ }

/-- One subscription is not renewed. -/
def stopRenewal (id : Id) (cancelledAt : Nat) : SubscriptionStore :=
  { store with
    subscriptions := updateKey FleetSubscription.id id (FleetSubscription.stopRenewal cancelledAt)
      store.subscriptions
    distinct := by
      rw [@map_updateKey _ _ _ _ _ id (FleetSubscription.stopRenewal cancelledAt) _ _ fun _ => rfl]
      exact store.distinct }

end SubscriptionStore

/-- The effect of each write. -/
def commit (store : SubscriptionStore) : Write → Except DatabaseError SubscriptionStore
  | .deactivateAll fleetId cancelledAt => .ok (store.deactivateAll fleetId cancelledAt)
  | .create subscription =>
    if new : subscription.id ∉ store.subscriptions.map FleetSubscription.id then
      if subscription.fleetId ∈ store.fleets.map Fleet.id ∧
          subscription.planId ∈ store.plans.map SubscriptionPlan.id then
        .ok (store.insert subscription new)
      else .error .P2003
    else .error .P2002
  | .stopRenewal id cancelledAt =>
    if id ∈ store.subscriptions.map FleetSubscription.id then .ok (store.stopRenewal id cancelledAt)
    else .error .P2025
  | .updateFleet id change =>
    if id ∈ store.fleets.map Fleet.id then
      .ok { store with fleets := updateKey Fleet.id id change store.fleets }
    else .error .P2025
  | .pass milliseconds => .ok { store with now := store.now + milliseconds }

/-! ## Subscriptions in force -/

/-- A subscription counts for the discount of an invoice while it is active and has not
ended. -/
def InForce (now : Nat) (subscription : FleetSubscription) : Prop :=
  subscription.isActive ∧ now ≤ subscription.endDate

instance (now : Nat) (subscription : FleetSubscription) : Decidable (InForce now subscription) :=
  inferInstanceAs (Decidable (_ ∧ _))

/-- No fleet has two subscriptions in force. -/
def OneActive (store : SubscriptionStore) : Prop :=
  ∀ left ∈ store.subscriptions, ∀ right ∈ store.subscriptions, left.fleetId = right.fleetId →
    InForce store.now left → InForce store.now right → left = right

instance (store : SubscriptionStore) : Decidable (OneActive store) :=
  inferInstanceAs (Decidable (∀ _ ∈ _, ∀ _ ∈ _, _))

/-- A subscription is created when no other one of its fleet is in force. -/
def CreatedAlone (store : SubscriptionStore) : Write → Prop
  | .create subscription => InForce store.now subscription →
      ∀ other ∈ store.subscriptions, other.fleetId = subscription.fleetId → ¬ InForce store.now other
  | .deactivateAll _ _ | .stopRenewal _ _ | .updateFleet _ _ | .pass _ => True

/-- No new subscription comes into force where each row comes from one that was in force
before, and different rows from different ones. -/
theorem oneActive_of_origins {store written : SubscriptionStore} (one : OneActive store)
    (origin : ∀ row ∈ written.subscriptions, InForce written.now row →
      ∃ old ∈ store.subscriptions, InForce store.now old ∧ old.id = row.id ∧
        old.fleetId = row.fleetId) : OneActive written := by
  intro left leftListed right rightListed same leftForce rightForce
  obtain ⟨oldLeft, leftStored, leftBefore, leftId, leftFleet⟩ := origin left leftListed leftForce
  obtain ⟨oldRight, rightStored, rightBefore, rightId, rightFleet⟩ :=
    origin right rightListed rightForce
  have equal : oldLeft = oldRight :=
    one oldLeft leftStored oldRight rightStored (leftFleet.trans (same.trans rightFleet.symm))
      leftBefore rightBefore
  apply eq_of_key_eq written.distinct leftListed rightListed
  rw [← leftId, ← rightId, equal]

/-- Ending subscriptions leaves at most one active. -/
theorem oneActive_deactivateAll {store : SubscriptionStore} (one : OneActive store) (fleetId : Id)
    (cancelledAt : Nat) : OneActive (store.deactivateAll fleetId cancelledAt) := by
  apply oneActive_of_origins one
  intro row listed force
  obtain ⟨old, stored, rfl⟩ := List.mem_map.mp listed
  split at force
  case isTrue => cases force.1
  case isFalse kept => exact ⟨old, stored, force, by rw [if_neg kept], by rw [if_neg kept]⟩

/-- Stopping a renewal leaves at most one active. -/
theorem oneActive_stopRenewal {store : SubscriptionStore} (one : OneActive store) (id : Id)
    (cancelledAt : Nat) : OneActive (store.stopRenewal id cancelledAt) := by
  apply oneActive_of_origins one
  intro row listed force
  rcases mem_updateKey.mp listed with ⟨old, stored, -, rfl⟩ | ⟨stored, -⟩
  case inl => exact ⟨old, stored, force, rfl, rfl⟩
  case inr => exact ⟨row, stored, force, rfl, rfl⟩

/-- Subscriptions end as time passes and none begins. -/
theorem oneActive_pass {store : SubscriptionStore} (one : OneActive store) (milliseconds : Nat) :
    OneActive { store with now := store.now + milliseconds } := by
  apply oneActive_of_origins one
  intro row listed force
  refine ⟨row, listed, ⟨force.1, ?_⟩, rfl, rfl⟩
  exact Nat.le_trans (Nat.le_add_right _ _) force.2

/-- A new subscription is the only active one exactly when the fleet has no other. -/
theorem oneActive_insert_iff {store : SubscriptionStore} (one : OneActive store)
    (subscription : FleetSubscription)
    (new : subscription.id ∉ store.subscriptions.map FleetSubscription.id) :
    OneActive (store.insert subscription new) ↔ CreatedAlone store (.create subscription) := by
  constructor
  case mp =>
    intro alone inForce other stored sameFleet otherForce
    have equal : other = subscription :=
      alone other (List.mem_append_left _ stored) subscription
        (List.mem_append_right _ (List.mem_singleton_self _)) sameFleet otherForce inForce
    exact new (List.mem_map.mpr ⟨other, stored, congrArg FleetSubscription.id equal⟩)
  case mpr =>
    intro alone left leftListed right rightListed same leftForce rightForce
    rcases List.mem_append.mp leftListed with leftOld | leftNew
    case inl =>
      rcases List.mem_append.mp rightListed with rightOld | rightNew
      case inl => exact one left leftOld right rightOld same leftForce rightForce
      case inr =>
        obtain rfl := List.mem_singleton.mp rightNew
        exact absurd leftForce (alone rightForce left leftOld same)
    case inr =>
      obtain rfl := List.mem_singleton.mp leftNew
      rcases List.mem_append.mp rightListed with rightOld | rightNew
      case inl => exact absurd rightForce (alone leftForce right rightOld same.symm)
      case inr => exact (List.mem_singleton.mp rightNew).symm

/-- A write leaves at most one active exactly when what it creates is alone. -/
theorem oneActive_commit_iff {store written : SubscriptionStore} {operation : Write}
    (one : OneActive store) (accepted : commit store operation = .ok written) :
    OneActive written ↔ CreatedAlone store operation := by
  cases operation with
  | deactivateAll fleetId cancelledAt =>
    cases accepted
    exact iff_of_true (oneActive_deactivateAll one fleetId cancelledAt) trivial
  | create subscription =>
    rw [commit] at accepted
    split at accepted
    case isFalse => cases accepted
    case isTrue new =>
      split at accepted
      case isFalse => cases accepted
      case isTrue =>
        cases accepted
        exact oneActive_insert_iff one subscription new
  | stopRenewal id cancelledAt =>
    rw [commit] at accepted
    split at accepted
    case isFalse => cases accepted
    case isTrue =>
      cases accepted
      exact iff_of_true (oneActive_stopRenewal one id cancelledAt) trivial
  | updateFleet id change =>
    rw [commit] at accepted
    split at accepted
    case isFalse => cases accepted
    case isTrue =>
      cases accepted
      exact iff_of_true one trivial
  | pass milliseconds =>
    cases accepted
    exact iff_of_true (oneActive_pass one milliseconds) trivial

/-! ## What a call knows when it creates -/

/-- The tables as a call to subscribe has left them when it deactivated the subscriptions of
its fleet, which is its third access. -/
def cleared (seen : List SubscriptionStore) : Option SubscriptionStore := seen[2]?

/-- If the new subscription is in force at all, no other one of the fleet has come into force
since the call deactivated the earlier ones. -/
def NoneSince (_ : Request) (seen : List SubscriptionStore) (store : SubscriptionStore) :
    Write → Prop
  | .create subscription => InForce store.now subscription →
      ∀ row ∈ store.subscriptions, row.fleetId = subscription.fleetId → InForce store.now row →
        ∃ table ∈ cleared seen, ∃ old ∈ table.subscriptions, old.id = row.id ∧
          old.fleetId = row.fleetId ∧ old.isActive = true
  | .deactivateAll _ _ | .stopRenewal _ _ | .updateFleet _ _ | .pass _ => True

/-- A call has deactivated all subscriptions of the fleet for which it creates one. -/
def Cleared (seen : List SubscriptionStore) (operation : Write) : Prop :=
  ∀ subscription, operation = .create subscription → ∃ table ∈ cleared seen,
    ∀ row ∈ table.subscriptions, row.fleetId = subscription.fleetId → row.isActive = false

/-- After the ending the fleet has no active subscription. -/
theorem deactivateAll_inactive {store : SubscriptionStore} {fleetId : Id} {cancelledAt : Nat}
    {row : FleetSubscription} (listed : row ∈ (store.deactivateAll fleetId cancelledAt).subscriptions)
    (ours : row.fleetId = fleetId) : row.isActive = false := by
  obtain ⟨old, stored, rfl⟩ := List.mem_map.mp listed
  split
  case isTrue => rfl
  case isFalse kept =>
    rw [if_neg kept] at ours
    exact Bool.eq_false_iff.mpr fun active => kept ⟨ours, active⟩

/-- Every call ends the other subscriptions before it creates one. -/
theorem handle_vouches {sound : SubscriptionStore → Prop} (request : Request) :
    Overlaps.Vouches commit sound Cleared (fun _ _ => True) [] (handle request) := by
  cases request with
  | subscribe newId fleetId planDuration momoPhoneNumber =>
    rw [handle, subscribeToPlan, loadPlan, Overlaps.vouches_bind, Overlaps.vouches_bind,
      Overlaps.vouches_read]
    intro first _
    cases (first.plans.find? fun plan => decide (plan.duration = planDuration)).filter
        SubscriptionPlan.isActive with
    | none => trivial
    | some plan =>
      intro second _
      refine ⟨fun _ same => ?_, fun third written _ accepted => ?_⟩
      · cases same
      · cases accepted
        intro fourth _
        refine ⟨fun subscription same => ?_, fun _ _ _ _ => ⟨fun _ same => ?_, fun _ _ _ _ => trivial⟩⟩
        · cases same
          exact ⟨_, rfl, fun row listed ours => deactivateAll_inactive listed ours⟩
        · cases same
  | cancel order fleetId =>
    apply Overlaps.vouches_of_makes
    intro first
    simp only [Program.andThen]
    split
    case h_1 => trivial
    case h_2 =>
      refine fun second => ⟨fun _ _ same => ?_, fun _ _ same => ?_, trivial⟩
      all_goals cases same
  | wait milliseconds =>
    refine ⟨fun _ same => ?_, fun _ _ _ _ => trivial⟩
    cases same

/-- A creation is alone exactly when none became active since the ending. -/
theorem createdAlone_iff {request : Request} {seen : List SubscriptionStore}
    {store : SubscriptionStore} {operation : Write} (ready : Cleared seen operation) :
    CreatedAlone store operation ↔ NoneSince request seen store operation := by
  cases operation with
  | create subscription =>
    obtain ⟨table, left, inactive⟩ := ready subscription rfl
    refine forall₄_congr fun inForce row stored ours => ?_
    constructor
    · exact fun ended inForceToo => absurd inForceToo ended
    · intro origin inForceToo
      obtain ⟨shown, same, old, listed, -, sameFleet, active⟩ := origin inForceToo
      obtain rfl := Option.some.inj (left.symm.trans same)
      rw [inactive old listed (sameFleet.trans ours)] at active
      cases active
  | deactivateAll fleetId cancelledAt => exact Iff.rfl
  | stopRenewal id cancelledAt => exact Iff.rfl
  | updateFleet id change => exact Iff.rfl
  | pass milliseconds => exact Iff.rfl

/-- In every interleaving of requests no fleet ever has two subscriptions in force, exactly
if no other subscription of a fleet comes into force between the deactivation and the
creation of one call. -/
theorem subscriptions_alone_iff (store : SubscriptionStore) (actions : List (Action Request))
    (initially : OneActive store) :
    Along (step commit handle) (fun _ _ next => OneActive next.store) ⟨store, []⟩ actions ↔
      Along (Overlaps.watch commit handle)
        (fun before action _ => Overlaps.Meets commit NoneSince before action)
        (Overlaps.Watched.begun store) actions :=
  @Overlaps.along_changes_iff _ _ _ _ _ commit handle OneActive (fun _ => Cleared)
    (fun _ _ _ _ => True) NoneSince (fun _ next => OneActive next) handle_vouches
    (fun _ one => one)
    (fun _ _ _ _ _ one ready _ accepted =>
      (oneActive_commit_iff one accepted).trans (createdAlone_iff ready))
    (fun _ _ _ _ one _ => one) store actions initially
    (along_of_forall_mem _ (fun _ _ _ _ _ _ _ _ => trivial) _)

section Samples

/-- A plan of a month. -/
def monthly : SubscriptionPlan := ⟨"plan", .MONTHLY, 1, true⟩

/-- A fleet without a subscription. -/
def unsubscribed : SubscriptionStore where
  now := 20484 * millisecondsPerDay
  plans := [monthly]
  fleets := [⟨"fleet", false, none⟩]
  subscriptions := []
  distinct := List.nodup_nil

/-- No subscription is at most one. -/
theorem unsubscribed_oneActive : OneActive unsubscribed := fun _ listed => nomatch listed

/-- A request for the monthly plan. -/
def subscribing (newId : Id) : Request := .subscribe newId "fleet" .MONTHLY "250788000000"

/-- The accesses of one call. -/
def accesses (call count : Nat) : List (Action Request) := List.replicate count (.advance call)

/-- A fleet subscribes and subscribes again later. -/
def subscribedTwice : List (Action Request) :=
  .submit (subscribing "first") :: accesses 0 6 ++
    .submit (.wait 1000) :: .advance 1 :: .submit (subscribing "second") :: accesses 2 6

/-- Two subscriptions, one after the other, leave one active. -/
theorem subscriptions_alone_iff_twice :
    Along (step commit handle) (fun _ _ next => OneActive next.store)
        (⟨unsubscribed, []⟩ : System SubscriptionStore Write DatabaseError Failure)
        subscribedTwice ↔
      Along (Overlaps.watch commit handle)
        (fun before action _ => Overlaps.Meets commit NoneSince before action)
        (Overlaps.Watched.begun unsubscribed) subscribedTwice :=
  subscriptions_alone_iff unsubscribed subscribedTwice unsubscribed_oneActive

/-- Both calls deactivate before either creates. -/
def interleaved : List (Action Request) :=
  .submit (subscribing "first") :: .submit (subscribing "second") ::
    accesses 0 3 ++ accesses 1 3 ++ accesses 0 3 ++ accesses 1 3

/-- Two requests that run at once leave the fleet with two subscriptions when both have
completed. -/
theorem two_active_subscriptions :
    ¬ ∀ (store : SubscriptionStore) actions final, OneActive store →
      run (step commit handle) (⟨store, []⟩ : System SubscriptionStore Write DatabaseError Failure)
        actions = some final →
      (∀ call ∈ final.calls, call.completed = true) → OneActive final.store := by
  intro claim
  have reached : ((run (step commit handle)
      (⟨unsubscribed, []⟩ : System SubscriptionStore Write DatabaseError Failure)
      interleaved).any fun final =>
        (final.calls.all Program.completed) && !decide (OneActive final.store)) = true := by
    decide +kernel
  obtain ⟨final, ran, broken⟩ := (Option.any_eq_true _ _).mp reached
  rw [Bool.and_eq_true, List.all_eq_true, Bool.not_eq_true', decide_eq_false_iff_not] at broken
  exact broken.2 (claim unsubscribed interleaved final unsubscribed_oneActive ran broken.1)

end Samples

end EmotoFleet.Billing.Subscriptions
