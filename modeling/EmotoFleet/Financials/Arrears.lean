import EmotoFleet.Financials.LeaseAgreement
import EmotoFleet.Financials.PaymentRecords
import Mathlib.Algebra.Order.BigOperators.Group.List

/-!
# Arrears over time

What a rider should have paid is counted from his current assignment at its daily rate, and
not at all while the bike is under maintenance; what he did pay is counted over all time.
Apart from payments and settled fines the arrears can therefore fall in two ways: the bike
goes into maintenance, or the assignment ends. As long as neither happens they only grow.

The deletion of a rider is modelled where it fails and leaves the rider without a bike; one
that succeeds leaves no account.
-/

namespace EmotoFleet.Financials

open Access (Id User Bike BikeAssignment millisPerDay toFixed)
open Accounts (UserRole)
open Billing (BikeStatus)
open Doubles (Rounding)
open Runs Tables

section Operations

/-- Why an assignment is refused. -/
inductive AssignmentError where
  /-- "Bike not found" -/
  | bikeNotFound
  /-- "Rider not found" -/
  | riderNotFound
  /-- "Fleet access violation" -/
  | fleetAccess
  deriving DecidableEq

/-- Active assignments of some kind end now. -/
def deactivate (now : Int) (chosen : BikeAssignment → Bool) (rows : List BikeAssignment) :
    List BikeAssignment :=
  rows.map fun row =>
    if row.active && chosen row then { row with active := false, unassignedAt := some now } else row

/-- The assignments after a rider was assigned to a bike. A rider who has the bike keeps
the assignment; otherwise the active ones of both end, and a new one begins. -/
def assignRiderToBikeTx (db : Database) (now : Int) (fleetId bikeId riderUserId newId : Id) :
    Except AssignmentError (List BikeAssignment) := do
  match db.bikes.find? fun bike => bike.id == bikeId with
  | none => throw .bikeNotFound
  | some bike =>
    if bike.fleetId ≠ fleetId then throw .fleetAccess
    match db.users.find? fun row => row.id == riderUserId && row.role == .RIDER with
    | none => throw .riderNotFound
    | some riderUser =>
      if riderUser.fleetId ≠ fleetId then throw .fleetAccess
      let previousAssignment := (Access.latestFirst (·.assignedAt)
        (db.assignments.filter fun row => row.bikeId == bikeId && row.active)).head?
      if previousAssignment.any fun row => row.riderUserId == riderUserId then
        return db.assignments
      return deactivate now (fun row => row.bikeId == bikeId || row.riderUserId == riderUserId)
          db.assignments ++
        [{ id := newId, fleetId, bikeId, riderUserId, assignedAt := now, unassignedAt := none,
           active := true }]

/-- With a bike go its assignments. -/
def deleteBike (db : Database) (id : Id) : Database :=
  { db with
    bikes := db.bikes.filter fun bike => bike.id != id
    commands := db.commands.filter fun row => row.bikeId != id
    assignments := db.assignments.filter fun row => row.bikeId != id }

/-- A user who cannot be deleted loses the assignments. -/
def disableUser (db : Database) (now : Int) (userId : Id) : Database :=
  { db with assignments := deactivate now (fun row => row.riderUserId == userId) db.assignments }

/-- A bike with another status. -/
def updateBikeStatus (db : Database) (id : Id) (status : BikeStatus) : Database :=
  { db with bikes := db.bikes.map fun bike => if bike.id = id then { bike with status } else bike }

/-- A fine that is paid. -/
def settleFine (db : Database) (id : Id) : Database :=
  { db with
    fines := db.fines.map fun fine => if fine.id = id then { fine with status := "PAID" } else fine }

end Operations

/-- The tables and the clock. No rider has two active assignments, and no payment is
negative. -/
structure World where
  db : Database
  now : Int
  single : ∀ riderId, SingleAssignment db riderId
  positive : ∀ row ∈ db.ledger.rows, 0 ≤ row.amount

/-- What happens to the accounts. The transfers are of amounts that were asked for. -/
inductive LeaseStep where
  | wait (duration : Nat)
  | assign (fleetId bikeId riderUserId newId : Id)
  | deleteBike (id : Id)
  | disableUser (userId : Id)
  | updateBikeStatus (id : Id) (status : BikeStatus)
  | recordPayment (call : Call)
  | confirmTransfer (transaction : MomoTransfer) (asked : 0 < transaction.amount)
  | settleFine (id : Id)

section Invariants

variable {db : Database}

/-- Ending assignments leaves no more of a rider. -/
theorem countP_deactivate (now : Int) (chosen : BikeAssignment → Bool) (rows : List BikeAssignment)
    (riderId : Id) :
    (deactivate now chosen rows).countP (fun row => row.riderUserId == riderId && row.active) ≤
      rows.countP fun row => row.riderUserId == riderId && row.active := by
  rw [deactivate, List.countP_map]
  apply List.countP_mono_left
  intro row _ still
  rw [Function.comp_apply] at still
  split at still
  case isTrue => simp at still
  case isFalse => exact still

/-- A rider has a single assignment when at most one row is active. -/
theorem single_iff (riderId : Id) :
    SingleAssignment db riderId ↔
      db.assignments.countP (fun row => row.riderUserId == riderId && row.active) ≤ 1 := by
  rw [SingleAssignment, List.countP_eq_length_filter]

/-- A rider who has the bike keeps the assignment; any other gets a new one, and those of
both end. -/
theorem assignRiderToBikeTx_ok {now : Int} {fleetId bikeId riderUserId newId : Id}
    {assignments : List BikeAssignment}
    (assigned : assignRiderToBikeTx db now fleetId bikeId riderUserId newId = .ok assignments) :
    assignments = db.assignments ∨
      assignments =
        deactivate now (fun row => row.bikeId == bikeId || row.riderUserId == riderUserId)
            db.assignments ++
          [⟨newId, fleetId, bikeId, riderUserId, now, none, true⟩] := by
  rw [assignRiderToBikeTx] at assigned
  split at assigned
  case h_1 => cases assigned
  case h_2 bike _ =>
    by_cases ownBike : bike.fleetId = fleetId
    case neg =>
      simp only [ne_eq, ownBike, not_false_eq_true, if_true] at assigned
      cases assigned
    case pos =>
      simp only [ne_eq, ownBike, not_true_eq_false, if_false] at assigned
      split at assigned
      case h_1 => cases assigned
      case h_2 riderUser _ =>
        by_cases ownRider : riderUser.fleetId = fleetId
        case neg =>
          simp only [ownRider, not_false_eq_true, if_true] at assigned
          cases assigned
        case pos =>
          simp only [ownRider, not_true_eq_false, if_false] at assigned
          split at assigned
          case isTrue =>
            cases assigned
            exact Or.inl rfl
          case isFalse =>
            cases assigned
            exact Or.inr rfl

/-- An assignment keeps riders to single ones. -/
theorem single_assign {now : Int} {fleetId bikeId riderUserId newId : Id}
    {assignments : List BikeAssignment} (single : ∀ riderId, SingleAssignment db riderId)
    (assigned : assignRiderToBikeTx db now fleetId bikeId riderUserId newId = .ok assignments) :
    ∀ riderId, SingleAssignment { db with assignments } riderId := by
  intro riderId
  cases assignRiderToBikeTx_ok assigned with
  | inl same => exact same ▸ single riderId
  | inr new =>
    rw [single_iff]
    dsimp only
    rw [new, List.countP_append, List.countP_singleton]
    by_cases assignee : riderUserId = riderId
    case pos =>
      -- all that the rider had has ended
      have ended : (deactivate now (fun row => row.bikeId == bikeId || row.riderUserId == riderUserId)
          db.assignments).countP (fun row => row.riderUserId == riderId && row.active) = 0 := by
        apply List.countP_eq_zero.mpr
        intro row listed
        obtain ⟨old, -, same⟩ := List.mem_map.mp listed
        rw [← same, ← assignee]
        split
        case isTrue => simp
        case isFalse kept =>
          simp only [Bool.and_eq_true, Bool.or_eq_true, not_and, not_or] at kept
          simp only [Bool.and_eq_true, not_and]
          exact fun hisOwn active => (kept active).2 hisOwn
      rw [ended]
      split
      case isTrue => exact Nat.le_refl 1
      case isFalse => exact Nat.zero_le 1
    case neg =>
      rw [if_neg (by simp [assignee])]
      exact Nat.le_trans (countP_deactivate _ _ _ _) ((single_iff riderId).mp (single riderId))

/-- Ending assignments keeps riders to single ones. -/
theorem single_deactivate {now : Int} {chosen : BikeAssignment → Bool}
    (single : ∀ riderId, SingleAssignment db riderId) :
    ∀ riderId, SingleAssignment { db with assignments := deactivate now chosen db.assignments }
      riderId := by
  intro riderId
  exact (single_iff riderId).mpr
    (Nat.le_trans (countP_deactivate _ _ _ _) ((single_iff riderId).mp (single riderId)))

/-- Deleting a bike keeps riders to single assignments. -/
theorem single_deleteBike (single : ∀ riderId, SingleAssignment db riderId) (id : Id) :
    ∀ riderId, SingleAssignment (Financials.deleteBike db id) riderId := by
  intro riderId
  rw [single_iff]
  exact Nat.le_trans List.filter_sublist.countP_le ((single_iff riderId).mp (single riderId))

/-- A payment keeps riders to single assignments. -/
theorem single_recordByHand (single : ∀ riderId, SingleAssignment db riderId) (call : Call) :
    ∀ riderId, SingleAssignment (recordByHand db call) riderId := by
  rw [recordByHand]
  split
  case h_1 => exact single
  case h_2 => exact single

/-- Rounding keeps a number from going below zero. -/
theorem toFixed_nonneg {digits : Nat} {value : ℚ} (positive : 0 ≤ value) :
    0 ≤ toFixed digits value := by
  rw [toFixed, if_neg (not_lt.mpr positive)]
  have rounded : 0 ≤ Access.mathRound (value * 10 ^ digits) := by
    rw [Access.mathRound]
    positivity
  positivity

/-- A payment by hand keeps the amounts from going below zero. -/
theorem positive_recordByHand (positive : ∀ row ∈ db.ledger.rows, 0 ≤ row.amount) (call : Call) :
    ∀ row ∈ (recordByHand db call).ledger.rows, 0 ≤ row.amount := by
  rcases recordByHand_cases db call with ⟨-, refused⟩ | ⟨amount, paidAt, accepted, written⟩
  case inl =>
    rw [refused]
    exact positive
  case inr =>
    have paid : 0 ≤ amount := by
      have stored := accepted.fits
      rw [toDecimal] at stored
      split at stored
      case isTrue =>
        rw [← Option.some.inj stored]
        exact toFixed_nonneg (le_trans (by norm_num) call.dto.least)
      case isFalse => cases stored
    rcases written with ⟨existing, -, written⟩ | ⟨-, written⟩
    case inl =>
      rw [written]
      intro row listed
      rcases mem_updateKey.mp listed with ⟨old, -, -, changed⟩ | ⟨stored, -⟩
      case inl => exact changed ▸ paid
      case inr => exact positive row stored
    case inr =>
      rw [written]
      intro row listed
      cases List.mem_append.mp listed with
      | inl stored => exact positive row stored
      | inr new => exact List.mem_singleton.mp new ▸ paid

/-- A transfer keeps the amounts from going below zero. -/
theorem positive_transfer (positive : ∀ row ∈ db.ledger.rows, 0 ≤ row.amount) {now : Int}
    {transaction : MomoTransfer} (asked : 0 < transaction.amount) :
    ∀ row ∈ (processSuccessfulPayment db.ledger now transaction).rows, 0 ≤ row.amount := by
  intro row listed
  cases List.mem_append.mp listed with
  | inl stored => exact positive row stored
  | inr new =>
    rw [List.mem_singleton.mp new]
    exact Int.cast_nonneg (le_of_lt asked)

end Invariants

/-- The world after a step. A refused request changes nothing. -/
def World.after (world : World) : LeaseStep → World
  | .wait duration => { world with now := world.now + duration }
  | .assign fleetId bikeId riderUserId newId =>
    match assigned : assignRiderToBikeTx world.db world.now fleetId bikeId riderUserId newId with
    | .ok assignments =>
      { db := { world.db with assignments }
        now := world.now
        single := single_assign world.single assigned
        positive := world.positive }
    | .error _ => world
  | .deleteBike id =>
    { db := Financials.deleteBike world.db id
      now := world.now
      single := single_deleteBike world.single id
      positive := world.positive }
  | .disableUser userId =>
    { db := Financials.disableUser world.db world.now userId
      now := world.now
      single := single_deactivate world.single
      positive := world.positive }
  | .updateBikeStatus id status =>
    { db := Financials.updateBikeStatus world.db id status
      now := world.now
      single := world.single
      positive := world.positive }
  | .recordPayment call =>
    { db := recordByHand world.db call
      now := world.now
      single := single_recordByHand world.single call
      positive := positive_recordByHand world.positive call }
  | .confirmTransfer transaction asked =>
    { db := { world.db with ledger := processSuccessfulPayment world.db.ledger world.now transaction }
      now := world.now
      single := world.single
      positive := positive_transfer world.positive asked }
  | .settleFine id =>
    { db := Financials.settleFine world.db id
      now := world.now
      single := world.single
      positive := world.positive }

/-- One step of the lease. -/
def step (world : World) (action : LeaseStep) : Option World := some (world.after action)

/-- A payment is recorded or a fine is settled. -/
def LeaseStep.pays : LeaseStep → Bool
  | .recordPayment _ | .confirmTransfer _ _ | .settleFine _ => true
  | .wait _ | .assign _ _ _ _ | .deleteBike _ | .disableUser _ | .updateBikeStatus _ _ => false

section Growth

variable (rounding : Rounding) (rider : User)

/-- The rider's active assignment is not one any more. -/
def EndsAssignment (before after : Database) : Prop :=
  ∃ row ∈ before.assignments, row.riderUserId = rider.id ∧ row.active = true ∧
    row ∉ after.assignments

/-- Whether the bike of an assignment is under maintenance. -/
def underMaintenance (db : Database) (assignment : BikeAssignment) : Bool :=
  (bikeOf db assignment).any fun bike => bike.status == .MAINTENANCE

/-- The bike that is assigned to the rider goes into maintenance. -/
def StartsMaintenance (before after : Database) : Prop :=
  ∃ row ∈ before.assignments, row.riderUserId = rider.id ∧ row.active = true ∧
    underMaintenance before row = false ∧ underMaintenance after row = true

/-- The bike that is assigned to the rider is under maintenance. -/
def InMaintenance (db : Database) : Prop :=
  ∃ row ∈ db.assignments, row.riderUserId = rider.id ∧ row.active = true ∧
    underMaintenance db row = true

/-- Neither report states smaller arrears than before. -/
structure ArrearsKept (before after : World) : Prop where
  leases : ∀ scan laterScan startDate endDate,
    (toLeaseSummary rounding before.db before.now scan startDate endDate rider).arrears ≤
      (toLeaseSummary rounding after.db after.now laterScan startDate endDate rider).arrears
  summary : ∀ scan laterScan,
    (summarize rounding before.db before.now scan rider).arrears ≤
      (summarize rounding after.db after.now laterScan rider).arrears

/-- Both reports state no arrears but the fines that are pending. -/
structure OnlyFines (world : World) : Prop where
  leases : ∀ scan startDate endDate,
    (toLeaseSummary rounding world.db world.now scan startDate endDate rider).arrears =
      finesPending rounding world.db rider.id
  summary : ∀ scan,
    (summarize rounding world.db world.now scan rider).arrears = finesPending rounding world.db rider.id

variable {rounding} {rider} {before after : World}

/-- What a rider has paid is not negative. -/
theorem daily_nonneg {db : Database} (positive : ∀ row ∈ db.ledger.rows, 0 ≤ row.amount)
    (riderId : Id) : 0 ≤ riderTotal rounding db dailyAmount riderId := by
  apply rounding.sum_nonneg
  intro amount listed
  obtain ⟨row, stored, same⟩ := List.mem_map.mp listed
  rw [← same, dailyAmount]
  have nonneg := positive row stored
  split_ifs
  all_goals first | exact nonneg | exact le_refl 0

/-- What keeps the account of the riders apart from payments and fines. -/
theorem after_keeps (before : World) {action : LeaseStep} (unpaid : action.pays = false) :
    (before.after action).db.ledger = before.db.ledger ∧
      (before.after action).db.fines = before.db.fines ∧ before.now ≤ (before.after action).now := by
  cases action with
  | wait duration => exact ⟨rfl, rfl, Int.le_add_of_nonneg_right (Int.natCast_nonneg duration)⟩
  | assign fleetId bikeId riderUserId newId =>
    rw [World.after]
    split
    case h_1 => exact ⟨rfl, rfl, le_refl _⟩
    case h_2 => exact ⟨rfl, rfl, le_refl _⟩
  | deleteBike id => exact ⟨rfl, rfl, le_refl _⟩
  | disableUser userId => exact ⟨rfl, rfl, le_refl _⟩
  | updateBikeStatus id status => exact ⟨rfl, rfl, le_refl _⟩
  | recordPayment call => cases unpaid
  | confirmTransfer transaction asked => cases unpaid
  | settleFine id => cases unpaid

/-- Later there are no fewer days. -/
theorem daysSince_mono {now later : Int} (instant : Int) (passed : now ≤ later) :
    daysSince now instant ≤ daysSince later instant :=
  max_le_max_left 0 (Int.ediv_le_ediv (by decide) (by omega))

/-- What is due for one assignment grows as long as no maintenance begins. A negative rate
makes nothing due at any time. -/
theorem due_le {assignment : BikeAssignment} {paid : ℚ} (nonneg : 0 ≤ paid)
    (passed : before.now ≤ after.now)
    (unmaintained : underMaintenance after.db assignment = true →
      underMaintenance before.db assignment = true) :
    max 0 (rounding (expectedSince rounding before.db before.now rider assignment - paid)) ≤
      max 0 (rounding (expectedSince rounding after.db after.now rider assignment - paid)) := by
  rw [expectedSince, expectedSince]
  rw [underMaintenance, underMaintenance] at unmaintained
  cases later : (bikeOf after.db assignment).any fun bike => bike.status == .MAINTENANCE with
  | true => simp [unmaintained later]
  | false =>
    have days : (daysSince before.now assignment.assignedAt : ℚ) ≤
        daysSince after.now assignment.assignedAt :=
      Int.cast_le.mpr (daysSince_mono _ passed)
    have daysNonneg : (0 : ℚ) ≤ daysSince before.now assignment.assignedAt :=
      Int.cast_nonneg (le_max_left _ _)
    rcases le_or_gt 0 (dailyRate rider) with rate | rate
    case inl =>
      have rateNonneg : (0 : ℚ) ≤ dailyRate rider := Int.cast_nonneg rate
      refine max_le_max_left 0 (rounding.mono (sub_le_sub_right ?_ paid))
      split
      case isTrue => exact rounding.round_nonneg (mul_nonneg (daysNonneg.trans days) rateNonneg)
      case isFalse => exact rounding.mono (mul_le_mul_of_nonneg_right days rateNonneg)
    case inr =>
      have rateNeg : (dailyRate rider : ℚ) ≤ 0 := Int.cast_nonpos.mpr (le_of_lt rate)
      have nothing := mul_nonpos_of_nonneg_of_nonpos daysNonneg rateNeg
      refine (max_le (le_refl 0) (rounding.round_nonpos ?_)).trans (le_max_left _ _)
      split
      case isTrue => linarith
      case isFalse => linarith [rounding.round_nonpos nothing]

/-- The active assignments of a rider are the active rows. -/
theorem mem_activeAssignments {db : Database} {riderId : Id} {row : BikeAssignment} (scan : Nat) :
    row ∈ activeAssignments db riderId scan ↔
      row ∈ db.assignments ∧ row.riderUserId = riderId ∧ row.active = true := by
  simp [activeAssignments]

/-- The one active assignment of a rider is the one that a query meets first. -/
theorem head?_activeAssignments (world : World) {row : BikeAssignment} (stored : row ∈ world.db.assignments)
    (hisOwn : row.riderUserId = rider.id) (active : row.active = true) (scan : Nat) :
    (activeAssignments world.db rider.id scan).head? = some row := by
  have listed := (mem_activeAssignments scan).mpr ⟨stored, hisOwn, active⟩
  have single : (activeAssignments world.db rider.id scan).length ≤ 1 := by
    rw [activeAssignments_single _ (world.single rider.id)]
    exact world.single rider.id
  match found : activeAssignments world.db rider.id scan with
  | [] =>
    rw [found] at listed
    cases listed
  | [first] =>
    rw [found] at listed
    rw [List.mem_singleton.mp listed]
    rfl
  | first :: second :: rest =>
    rw [found] at single
    simp at single

/-- The arrears do not fall while the assignment lasts and nothing is paid. -/
theorem timeArrears_le (sameLedger : after.db.ledger = before.db.ledger)
    (passed : before.now ≤ after.now) (kept : ¬ EndsAssignment rider before.db after.db)
    (unmaintained : ¬ StartsMaintenance rider before.db after.db) (scan laterScan : Nat) :
    timeArrears rounding before.db before.now scan rider ≤ timeArrears rounding after.db after.now laterScan rider := by
  rw [timeArrears]
  cases found : (activeAssignments before.db rider.id scan).head? with
  | none =>
    rw [timeArrears, Option.elim_none]
    cases (activeAssignments after.db rider.id laterScan).head? with
    | none => exact le_refl 0
    | some assignment => exact le_max_left _ _
  | some assignment =>
    obtain ⟨stored, hisOwn, active⟩ :=
      (mem_activeAssignments scan).mp (List.mem_of_mem_head? found)
    have stays : assignment ∈ after.db.assignments := by
      by_contra ended
      exact kept ⟨assignment, stored, hisOwn, active, ended⟩
    have maintained : underMaintenance after.db assignment = true →
        underMaintenance before.db assignment = true := by
      intro later
      by_contra earlier
      exact unmaintained
        ⟨assignment, stored, hisOwn, active, Bool.eq_false_iff.mpr earlier, later⟩
    have samePaid : riderTotal rounding after.db dailyAmount rider.id =
        riderTotal rounding before.db dailyAmount rider.id := by
      rw [riderTotal, riderTotal, sameLedger]
    rw [timeArrears, head?_activeAssignments after stays hisOwn active, Option.elim_some,
      Option.elim_some, samePaid]
    exact due_le (daily_nonneg before.positive rider.id) passed maintained

/-- One step without a payment, while the rider keeps the bike and no maintenance begins. -/
theorem arrearsKept_step {action : LeaseStep} (unpaid : action.pays = false)
    (kept : ¬ EndsAssignment rider before.db (before.after action).db)
    (unmaintained : ¬ StartsMaintenance rider before.db (before.after action).db) :
    ArrearsKept rounding rider before (before.after action) := by
  obtain ⟨sameLedger, sameFines, passed⟩ := after_keeps before unpaid
  have fines : finesPending rounding (before.after action).db rider.id = finesPending rounding before.db rider.id := by
    rw [finesPending, finesPending, sameFines]
  constructor
  case leases =>
    intro scan laterScan startDate endDate
    rw [toLeaseSummary_arrears, toLeaseSummary_arrears, fines]
    exact rounding.mono
      (add_le_add_left (timeArrears_le sameLedger passed kept unmaintained scan laterScan) _)
  case summary =>
    intro scan laterScan
    rw [summarize_arrears, summarize_arrears, fines]
    exact rounding.mono
      (add_le_add_left (timeArrears_le sameLedger passed kept unmaintained scan laterScan) _)

/-- Under maintenance only fines are due. -/
theorem onlyFines_inMaintenance {world : World} (maintained : InMaintenance rider world.db) :
    OnlyFines rounding rider world := by
  obtain ⟨row, stored, hisOwn, active, inMaintenance⟩ := maintained
  have nothing : ∀ scan, timeArrears rounding world.db world.now scan rider = 0 := by
    intro scan
    rw [underMaintenance] at inMaintenance
    rw [timeArrears, head?_activeAssignments world stored hisOwn active, Option.elim_some,
      expectedSince, if_pos inMaintenance, zero_sub]
    exact max_eq_left (rounding.round_nonpos (neg_nonpos.mpr (daily_nonneg world.positive rider.id)))
  constructor
  case leases =>
    intro scan startDate endDate
    rw [toLeaseSummary_arrears, nothing, zero_add, finesPending_again]
  case summary =>
    intro scan
    rw [summarize_arrears, nothing, zero_add, finesPending_again]

/-- In every run the arrears that either report states for a rider only grow, however it
rounds, but for payments and settled fines, as long as the rider's assignment does not end and
the bike does not go into maintenance. While it is there, nothing but fines is due. -/
theorem arrears_grow (rounding : Rounding) (rider : User) (world : World) (steps : List LeaseStep) :
    Along step
      (fun before action after =>
        (action.pays = false → ¬ EndsAssignment rider before.db after.db →
          ¬ StartsMaintenance rider before.db after.db → ArrearsKept rounding rider before after) ∧
        (InMaintenance rider after.db → OnlyFines rounding rider after))
      world steps := by
  induction steps generalizing world with
  | nil => trivial
  | cons action rest inductionHypothesis =>
    intro next moved
    obtain rfl := Option.some.inj moved
    exact ⟨⟨arrearsKept_step, onlyFines_inMaintenance⟩, inductionHypothesis _⟩

end Growth

section Samples

/-- A rider who is one day behind, and another bike of the fleet. -/
def leaseWorld : World where
  db := { leaseAccount 15000 30000 with
    bikes := [leasedBike, { leasedBike with id := "second", label := "Second" }] }
  now := 1_780_531_200_000
  single := fun _ => List.length_filter_le _ _
  positive := by decide +kernel

/-- Without a payment the arrears fall when the bike goes into maintenance, and when the
rider is assigned to another one. -/
theorem arrears_fall :
    ¬ Along step
      (fun before action after =>
        action.pays = false → ArrearsKept .double (leaseRider 15000) before after)
      leaseWorld [.updateBikeStatus "bike" .MAINTENANCE] ∧
    ¬ Along step
      (fun before action after =>
        action.pays = false → ArrearsKept .double (leaseRider 15000) before after)
      leaseWorld [.assign "fleet" "second" "rider" "next"] := by
  constructor
  case left =>
    intro everywhere
    have kept := ((everywhere _ rfl).1 rfl).summary 0 0
    exact absurd kept (by decide +kernel)
  case right =>
    intro everywhere
    have kept := ((everywhere _ rfl).1 rfl).summary 0 0
    exact absurd kept (by decide +kernel)

end Samples

end EmotoFleet.Financials
