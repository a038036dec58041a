import EmotoFleet.Financials.RiderLedger
import EmotoFleet.Foundations.Runs

/-!
# Payments recorded by hand

Before a payment is recorded by hand the service looks for one of the same rider on the
same day, and overwrites it. The search does not ask who recorded the row that it finds,
so a transfer, a deposit or a commission of that day is overwritten as well.
-/

namespace EmotoFleet.Financials

open Access (User)
open Runs Tables

/-- One request, and where the search for a payment of the day starts. -/
structure Call where
  user : AuthenticatedUser
  dto : RecordPaymentDto
  scan : Nat

/-- A refused request leaves the tables as they were. -/
def recordByHand (db : Database) (call : Call) : Database :=
  match recordPayment db call.user call.dto call.scan with
  | .ok ledger => { db with ledger }
  | .error _ => db

/-- What was recorded by another part of the service. -/
def recordedElsewhere (row : RiderPayment) : Bool := row.recordedBy != .manual

def idsElsewhere (db : Database) : List Nat :=
  (db.ledger.rows.filter recordedElsewhere).map (·.id)

def totalOf (ids : List Nat) (db : Database) : ℚ :=
  (db.ledger.rows.map fun row => if row.id ∈ ids then row.amount else 0).sum

/-- The rows recorded elsewhere keep their amounts, and any of them their total. -/
structure KeepsOthers (db next : Database) : Prop where
  amounts : ∀ row ∈ db.ledger.rows, recordedElsewhere row = true →
    ∃ later ∈ next.ledger.rows, later.id = row.id ∧ later.amount = row.amount
  total : ∀ ids, ids ⊆ idsElsewhere db → totalOf ids next = totalOf ids db

section Requests

variable (db : Database) (user : AuthenticatedUser) (dto : RecordPaymentDto)

/-- The rider belongs to the fleet, somebody on a lease has a bike, and the amount and the
instant can be stored. -/
structure Accepted (amount : ℚ) (paidAt : Int) : Prop where
  known : ∃ rider, findRider db user dto = some rider ∧
    (rider.riderProfile.any (·.leaseToOwn) = true → isAssigned db dto.riderId = true)
  dated : dto.paidAt = some paidAt
  fits : toDecimal dto.amount = some amount

theorem checkPayment_ok_iff {amount : ℚ} {paidAt : Int} :
    checkPayment db user dto = .ok (amount, paidAt) ↔ Accepted db user dto amount paidAt := by
  rw [checkPayment]
  cases found : findRider db user dto with
  | none =>
    constructor
    case mp => exact fun refused => (nomatch refused)
    case mpr =>
      rintro ⟨⟨rider, known, -⟩, -, -⟩
      rw [found] at known
      cases known
  | some rider =>
    by_cases barred : (rider.riderProfile.any (·.leaseToOwn) && !isAssigned db dto.riderId) = true
    case pos =>
      simp only [barred, if_true]
      constructor
      case mp => exact fun refused => (nomatch refused)
      case mpr =>
        rintro ⟨⟨_, known, assigned⟩, -, -⟩
        obtain rfl := Option.some.inj (found.symm.trans known)
        rw [Bool.and_eq_true, Bool.not_eq_true'] at barred
        rw [assigned barred.1] at barred
        cases barred.2
    case neg =>
      have assigned : rider.riderProfile.any (·.leaseToOwn) = true →
          isAssigned db dto.riderId = true := by
        intro lease
        simpa [lease] using barred
      have known : ∃ rider, findRider db user dto = some rider ∧
          (rider.riderProfile.any (·.leaseToOwn) = true → isAssigned db dto.riderId = true) :=
        ⟨rider, found, assigned⟩
      simp only [barred]
      cases dated : dto.paidAt with
      | none =>
        constructor
        case mp => exact fun refused => (nomatch refused)
        case mpr => exact fun accepted => (nomatch dated.symm.trans accepted.dated)
      | some instant =>
        cases fits : toDecimal dto.amount with
        | none =>
          constructor
          case mp => exact fun refused => (nomatch refused)
          case mpr => exact fun accepted => (nomatch fits.symm.trans accepted.fits)
        | some stored =>
          constructor
          case mp =>
            intro passed
            cases passed
            exact ⟨known, dated, fits⟩
          case mpr =>
            intro accepted
            obtain rfl := Option.some.inj (dated.symm.trans accepted.dated)
            obtain rfl := Option.some.inj (fits.symm.trans accepted.fits)
            rfl

end Requests

section Steps

variable {db : Database} {call : Call}

/-- A request that is refused, one that overwrites a payment of the day, and one that
adds a payment. -/
theorem recordByHand_cases (db : Database) (call : Call) :
    ((∀ amount paidAt, ¬ Accepted db call.user call.dto amount paidAt) ∧
        recordByHand db call = db) ∨
      ∃ amount paidAt, Accepted db call.user call.dto amount paidAt ∧
        ((∃ existing, existingPayment db call.user call.dto call.scan paidAt = some existing ∧
            recordByHand db call =
              { db with
                ledger := db.ledger.update existing.id fun row =>
                  { payment call.user call.dto amount paidAt with
                    recordedBy := row.recordedBy.overwrittenBy
                      (payment call.user call.dto amount paidAt).recordedBy } }) ∨
          (existingPayment db call.user call.dto call.scan paidAt = none ∧
            recordByHand db call =
              { db with
                ledger := db.ledger.create (payment call.user call.dto amount paidAt) })) := by
  rw [recordByHand, recordPayment]
  cases checked : checkPayment db call.user call.dto with
  | error refused =>
    refine Or.inl ⟨fun amount paidAt accepted => ?_, rfl⟩
    rw [(checkPayment_ok_iff db call.user call.dto).mpr accepted] at checked
    cases checked
  | ok row =>
    refine Or.inr ⟨row.1, row.2, (checkPayment_ok_iff db call.user call.dto).mp checked, ?_⟩
    cases found : existingPayment db call.user call.dto call.scan row.2 with
    | none =>
      refine Or.inr ⟨rfl, ?_⟩
      simp [bind, Except.bind, pure, Except.pure, found]
    | some existing =>
      refine Or.inl ⟨existing, rfl, ?_⟩
      simp [bind, Except.bind, pure, Except.pure, found]

/-- The payment of the day that an accepted request would overwrite was recorded by hand,
or the request repeats its amount. -/
def SparesOthers (db : Database) (call : Call) : Prop :=
  ∀ amount paidAt existing, Accepted db call.user call.dto amount paidAt →
    existingPayment db call.user call.dto call.scan paidAt = some existing →
    recordedElsewhere existing = true → existing.amount = amount

theorem existing_stored {user : AuthenticatedUser} {dto : RecordPaymentDto} {scan : Nat}
    {paidAt : Int} {existing : RiderPayment}
    (found : existingPayment db user dto scan paidAt = some existing) :
    existing ∈ db.ledger.rows :=
  List.mem_rotate.mp (List.mem_of_find?_eq_some found)

theorem mem_idsElsewhere {row : RiderPayment} (stored : row ∈ db.ledger.rows) :
    row.id ∈ idsElsewhere db ↔ recordedElsewhere row = true := by
  rw [idsElsewhere, List.mem_map]
  constructor
  case mp =>
    rintro ⟨other, listed, same⟩
    obtain ⟨otherStored, elsewhere⟩ := List.mem_filter.mp listed
    rw [← eq_of_key_eq db.ledger.distinct otherStored stored same]
    exact elsewhere
  case mpr =>
    intro elsewhere
    exact ⟨row, List.mem_filter.mpr ⟨stored, elsewhere⟩, rfl⟩

/-- A change of one row keeps the others' amounts exactly if it keeps that of the row, or
the row was recorded by hand. -/
theorem keepsOthers_update_iff {existing : RiderPayment} (stored : existing ∈ db.ledger.rows)
    (change : RiderPayment → RiderPayment) :
    KeepsOthers db { db with ledger := db.ledger.update existing.id change } ↔
      (recordedElsewhere existing = true → (change existing).amount = existing.amount) := by
  constructor
  case mp =>
    intro keeps elsewhere
    obtain ⟨later, listed, same, kept⟩ := keeps.amounts existing stored elsewhere
    rcases mem_updateKey.mp listed with ⟨old, oldStored, oldId, changed⟩ | ⟨-, apart⟩
    case inl =>
      rw [eq_of_key_eq db.ledger.distinct oldStored stored oldId] at changed
      rw [← kept, ← changed]
    case inr => exact absurd same apart
  case mpr =>
    intro spared
    constructor
    case amounts =>
      intro row rowStored elsewhere
      refine ⟨_, Ledger.mem_update rowStored existing.id change, ?_⟩
      split
      case isTrue same =>
        obtain rfl := eq_of_key_eq db.ledger.distinct rowStored stored same
        exact ⟨rfl, spared elsewhere⟩
      case isFalse => exact ⟨rfl, rfl⟩
    case total =>
      intro ids chosen
      refine (sum_updateKey (fun row => if row.id ∈ ids then row.amount else 0)
        db.ledger.distinct stored).trans (add_eq_left.mpr ?_)
      by_cases counted : existing.id ∈ ids
      case pos => simp [spared ((mem_idsElsewhere stored).mp (chosen counted))]
      case neg => simp [counted]

theorem keepsOthers_create (db : Database) (row : RiderPayment) :
    KeepsOthers db { db with ledger := db.ledger.create row } := by
  constructor
  case amounts =>
    intro earlier stored _
    exact ⟨earlier, List.mem_append_left _ stored, rfl, rfl⟩
  case total =>
    intro ids chosen
    have absent : db.ledger.nextId ∉ ids := by
      intro counted
      obtain ⟨earlier, stored, same⟩ := List.mem_map.mp (chosen counted)
      exact db.ledger.nextId_new
        (List.mem_map.mpr ⟨earlier, List.mem_of_mem_filter stored, same⟩)
    simp [totalOf, Ledger.create, absent]

/-- A request keeps what was recorded elsewhere exactly if it spares it. -/
theorem keepsOthers_iff (db : Database) (call : Call) :
    KeepsOthers db (recordByHand db call) ↔ SparesOthers db call := by
  rcases recordByHand_cases db call with ⟨refused, unchanged⟩ | ⟨amount, paidAt, accepted, written⟩
  case inl =>
    rw [unchanged]
    refine iff_of_true ⟨fun row stored _ => ⟨row, stored, rfl, rfl⟩, fun _ _ => rfl⟩ ?_
    intro amount paidAt existing accepted
    exact absurd accepted (refused amount paidAt)
  case inr =>
    have same : ∀ {amount' paidAt'}, Accepted db call.user call.dto amount' paidAt' →
        amount' = amount ∧ paidAt' = paidAt := by
      intro amount' paidAt' other
      exact ⟨Option.some.inj (other.fits.symm.trans accepted.fits),
        Option.some.inj (other.dated.symm.trans accepted.dated)⟩
    rcases written with ⟨existing, found, changed⟩ | ⟨missing, created⟩
    case inl =>
      rw [changed, keepsOthers_update_iff (existing_stored found)]
      constructor
      case mp =>
        intro kept amount' paidAt' existing' other found' elsewhere
        obtain ⟨rfl, rfl⟩ := same other
        obtain rfl := Option.some.inj (found.symm.trans found')
        exact (kept elsewhere).symm
      case mpr =>
        intro spares elsewhere
        exact (spares amount paidAt existing accepted found elsewhere).symm
    case inr =>
      rw [created]
      refine iff_of_true (keepsOthers_create db _) ?_
      intro amount' paidAt' existing' other found'
      obtain ⟨rfl, rfl⟩ := same other
      rw [missing] at found'
      cases found'

/-- A row that was recorded elsewhere is still told from one recorded by hand. -/
theorem overwrittenBy_elsewhere {earlier : Writer} (elsewhere : (earlier != .manual) = true)
    (later : Writer) : (earlier.overwrittenBy later != .manual) = true := by
  rw [Writer.overwrittenBy, if_neg (bne_iff_ne.mp elsewhere)]
  exact elsewhere

/-- No row recorded elsewhere becomes one recorded by hand. -/
theorem idsElsewhere_subset (db : Database) (call : Call) :
    idsElsewhere db ⊆ idsElsewhere (recordByHand db call) := by
  intro id listed
  obtain ⟨row, chosen, rfl⟩ := List.mem_map.mp listed
  obtain ⟨stored, elsewhere⟩ := List.mem_filter.mp chosen
  rcases recordByHand_cases db call with ⟨-, unchanged⟩ | ⟨amount, paidAt, -, written⟩
  case inl => rw [unchanged]; exact listed
  case inr =>
    rcases written with ⟨existing, -, changed⟩ | ⟨-, created⟩
    case inl =>
      rw [changed]
      refine List.mem_map.mpr
        ⟨_, List.mem_filter.mpr ⟨Ledger.mem_update stored existing.id _, ?_⟩, ?_⟩
      case refine_1 =>
        split
        case isTrue => exact overwrittenBy_elsewhere elsewhere _
        case isFalse => exact elsewhere
      case refine_2 =>
        split
        case isTrue => rfl
        case isFalse => rfl
    case inr =>
      rw [created]
      exact List.mem_map.mpr
        ⟨row, List.mem_filter.mpr ⟨List.mem_append_left _ stored, elsewhere⟩, rfl⟩

end Steps

section Sequences

/-- The tables after a sequence of recordings. -/
def recordAll (db : Database) (calls : List Call) : Database := calls.foldl recordByHand db

/-- If every request spares what was recorded elsewhere, its total stays. By induction on
the requests, for any part of it. -/
theorem total_recordAll {calls : List Call} {db : Database} {ids : List Nat}
    (keeps : Along (fun db call => some (recordByHand db call)) (fun db _ next => KeepsOthers db next)
      db calls) (chosen : ids ⊆ idsElsewhere db) :
    totalOf ids (recordAll db calls) = totalOf ids db := by
  induction calls generalizing db with
  | nil => rfl
  | cons call rest inductionHypothesis =>
    obtain ⟨kept, later⟩ := keeps _ rfl
    calc totalOf ids (recordAll db (call :: rest))
        = totalOf ids (recordByHand db call) :=
          inductionHypothesis later (List.Subset.trans chosen (idsElsewhere_subset db call))
      _ = totalOf ids db := kept.total ids chosen

/-- In a sequence of recordings by hand every row recorded elsewhere keeps its amount, so
that their total stays, exactly if every request spares them. -/
theorem payments_kept_iff (db : Database) (calls : List Call) :
    (Along (fun db call => some (recordByHand db call)) (fun db _ next => KeepsOthers db next)
          db calls ∧
        totalOf (idsElsewhere db) (recordAll db calls) = totalOf (idsElsewhere db) db) ↔
      Along (fun db call => some (recordByHand db call)) (fun db call _ => SparesOthers db call)
        db calls := by
  have steps : Along (fun db call => some (recordByHand db call))
        (fun db _ next => KeepsOthers db next) db calls ↔
      Along (fun db call => some (recordByHand db call)) (fun db call _ => SparesOthers db call)
        db calls := by
    apply along_congr
    rintro db call _ ⟨⟩
    exact keepsOthers_iff db call
  rw [← steps]
  constructor
  case mp => exact And.left
  case mpr =>
    intro keeps
    exact ⟨keeps, total_recordAll keeps (List.Subset.refl _)⟩

end Sequences

section Samples

def rider : User :=
  ⟨"rider", "fleet", .RIDER, none, some "0788000001", "ACTIVE", 0, none⟩

/-- A transfer of twenty thousand in the morning. -/
def afterTransfer : Database where
  users := [rider]
  known := List.nodup_singleton _
  bikes := []
  commands := []
  assignments := []
  fines := []
  ledger := processSuccessfulPayment ⟨[], List.nodup_nil⟩ 1_780_300_800_000
    ⟨"fleet", "rider", 20000, none, "0788000001", "reference", none⟩

/-- A thousand in cash in the afternoon. -/
def cashLater : Call where
  user := ⟨"owner", "fleet"⟩
  dto := ⟨"rider", 1000, some 1_780_329_600_000, .CASH, .PAID, none, none, none, none, by norm_num⟩
  scan := 0

/-- Cash in the afternoon replaces the transfer of the morning. -/
theorem transfer_overwritten :
    ¬ ∀ db calls,
      Along (fun db call => some (recordByHand db call)) (fun db _ next => KeepsOthers db next)
          db calls ∧
        totalOf (idsElsewhere db) (recordAll db calls) = totalOf (idsElsewhere db) db := by
  intro claim
  have keeps := ((claim afterTransfer [cashLater]).1 _ rfl).1
  have spares := (keepsOthers_iff afterTransfer cashLater).mp keeps
  have accepted : Accepted afterTransfer cashLater.user cashLater.dto 1000 1_780_329_600_000 :=
    ⟨⟨rider, by decide +kernel, by decide +kernel⟩, rfl, by decide +kernel⟩
  have transfer : (existingPayment afterTransfer cashLater.user cashLater.dto 0
      1_780_329_600_000).any (fun row => recordedElsewhere row && row.amount == 20000) = true := by
    decide +kernel
  obtain ⟨existing, found, checked⟩ := (Option.any_eq_true _ _).mp transfer
  rw [Bool.and_eq_true, beq_iff_eq] at checked
  have kept := spares _ _ existing accepted found checked.1
  rw [checked.2] at kept
  exact absurd kept (by norm_num)

end Samples

end EmotoFleet.Financials
