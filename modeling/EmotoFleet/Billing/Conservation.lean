import EmotoFleet.Billing.Calls
import EmotoFleet.Billing.PaymentRows
import EmotoFleet.Foundations.Runs
import EmotoFleet.Foundations.Tallies

/-!
# What is paid and what is booked

Manual payments, approvals by the headquarters and confirmations all read the total of
an invoice and write a new one later. The total is accounted for when it makes up, with
the stored payments whose total is still to be written, the sum of the payments of the
invoice.

It stays so exactly as long as nobody else has written the total since a call read it,
and no approval or confirmation is of more than what remains.
-/

namespace EmotoFleet.Conservation

open EmotoFleet.Runs
open EmotoFleet.Tallies
open EmotoFleet.Billing
open EmotoFleet.Calls

variable {state billing : BillingState} {world next : World} {call : Call} {row : BillingCycle}

/-- The sum of the payments of an invoice. -/
def paidInto (state : BillingState) (cycleId : Nat) : Int :=
  ((paymentsOf state cycleId).map (·.amount)).sum

/-- The payment of an invoice that is stored while its total is still to be written. -/
def held (cycleId : Nat) : Call → Int
  | .totalling paidId _ amount _ => if paidId = cycleId then amount else 0
  | .approved paidId _ _ amount => if paidId = cycleId then amount else 0
  | _ => 0

/-- What the calls under way have taken and not yet written. -/
def underway (calls : List Call) (cycleId : Nat) : Int := (calls.map (held cycleId)).sum

/-- The figures of a cycle at a moment. -/
def tallyOf (world : World) (cycleId : Nat) (row : BillingCycle) : Tally where
  due := row.totalDue
  total := row.totalPaid
  underway := underway world.calls cycleId
  received := paidInto world.billing cycleId

/-- Every total is within the amount due, and makes up the sum of the payments together
with those under way. -/
def Conserved (world : World) : Prop :=
  ∀ cycleId row, world.billing.cycles[cycleId]? = some row → (tallyOf world cycleId row).Balanced

/-- No total has been lowered. -/
def NeverLower (world next : World) : Prop :=
  ∀ (cycleId : Nat) (row : BillingCycle), world.billing.cycles[cycleId]? = some row →
    ∃ later : BillingCycle, next.billing.cycles[cycleId]? = some later ∧
      row.totalPaid ≤ later.totalPaid

/-- The invoice as the call has read it. -/
def reads : Call → Option (Nat × BillingCycle)
  | .recording cycleId cycle _ => some (cycleId, cycle)
  | .totalling cycleId cycle _ _ => some (cycleId, cycle)
  | .approving cycleId cycle _ _ _ _ => some (cycleId, cycle)
  | .approved cycleId cycle _ _ => some (cycleId, cycle)
  | .crediting _ transaction cycle _ =>
    transaction.billingCycleId.bind fun cycleId => cycle.map fun copy => (cycleId, copy)
  | _ => none

/-- The invoice and the amount, where the next access writes the total as it was read and
the amount added to it. -/
def writes : Call → Option (Nat × BillingCycle × Int)
  | .totalling cycleId cycle amount _ => some (cycleId, cycle, amount)
  | .approved cycleId cycle _ amount => some (cycleId, cycle, amount)
  | .crediting _ transaction cycle _ =>
    match transaction.billingCycleId, cycle with
    | some cycleId, some copy =>
      if copy.status = .PAID then none else some (cycleId, copy, transaction.amount)
    | _, _ => none
  | _ => none

/-- Where the next access of a call writes a total, the total is still the one that the
call has read, and the amount is between zero and what remains. -/
def Careful (world : World) (action : Action) (_next : World) : Prop :=
  ∀ position call cycleId cycle amount row, action = .proceed position →
    world.calls[position]? = some call → writes call = some (cycleId, cycle, amount) →
    world.billing.cycles[cycleId]? = some row →
    cycle.totalPaid = row.totalPaid ∧ 0 ≤ amount ∧ row.totalPaid + amount ≤ row.totalDue

/-! What one access does -/

/-- What an access does to the invoices and their payments. -/
inductive Effect (state : BillingState) (call : Call) : BillingState → List Call → Prop where
  | none {next rest} (cycles : next.cycles = state.cycles) (payments : next.payments = state.payments)
      (keeps : ∀ cycleId, held cycleId call = 0) (left : ∀ cycleId, underway rest cycleId = 0)
      (unread : ∀ later ∈ rest, reads later = Option.none)
      (unwritten : writes call = Option.none) : Effect state call next rest
  | received {next rest} (payment : BillingPayment) (cycle : BillingCycle)
      (cycles : next.cycles = state.cycles) (payments : next.payments = state.payments ++ [payment])
      (keeps : ∀ cycleId, held cycleId call = 0)
      (left : ∀ cycleId, underway rest cycleId =
        if payment.billingCycleId = cycleId then payment.amount else 0)
      (read : reads call = some (payment.billingCycleId, cycle))
      (reread : ∀ later ∈ rest, reads later = reads call)
      (unwritten : writes call = Option.none) : Effect state call next rest
  | written {next rest} (cycleId : Nat) (cycle : BillingCycle) (amount : Int)
      (change : BillingCycle → BillingCycle) (cycles : next.cycles = state.cycles.modify cycleId change)
      (changed : ∀ row, (change row).totalDue = row.totalDue ∧
        (change row).totalPaid = cycle.totalPaid + amount)
      (payments : next.payments = state.payments)
      (keeps : ∀ other, held other call = if cycleId = other then amount else 0)
      (left : ∀ other, underway rest other = 0) (unread : ∀ later ∈ rest, reads later = Option.none)
      (read : reads call = some (cycleId, cycle)) (writing : writes call = some (cycleId, cycle, amount)) :
      Effect state call next rest
  | credited {next rest} (cycle : BillingCycle) (payment : BillingPayment)
      (change : BillingCycle → BillingCycle)
      (cycles : next.cycles = state.cycles.modify payment.billingCycleId change)
      (changed : ∀ row, (change row).totalDue = row.totalDue ∧
        (change row).totalPaid = min cycle.totalDue (cycle.totalPaid + payment.amount))
      (payments : next.payments = state.payments ++ [payment])
      (keeps : ∀ other, held other call = 0) (left : ∀ other, underway rest other = 0)
      (unread : ∀ later ∈ rest, reads later = Option.none)
      (read : reads call = some (payment.billingCycleId, cycle))
      (writing : writes call = some (payment.billingCycleId, cycle, payment.amount)) :
      Effect state call next rest
  | inserted {next rest} (row : BillingCycle) (cycles : next.cycles = state.cycles ++ [row])
      (unpaid : row.totalPaid = 0 ∧ 0 ≤ row.totalDue) (payments : next.payments = state.payments)
      (keeps : ∀ cycleId, held cycleId call = 0) (left : ∀ cycleId, underway rest cycleId = 0)
      (unread : ∀ later ∈ rest, reads later = Option.none) (unwritten : writes call = Option.none) :
      Effect state call next rest

/-- Nothing is under way in calls that hold nothing, where one may be missing. -/
theorem underway_optional {condition : Prop} [Decidable condition] {cycleId : Nat}
    (nothing : held cycleId call = 0) : underway (if condition then [call] else []) cycleId = 0 := by
  split
  · rw [underway, List.map_singleton, List.sum_singleton, nothing]
  · rfl

/-- What a step of the generation does to the tally. -/
theorem effect_generation (state : BillingState) (generation : Generation) :
    Effect state (.generating generation) (advanceGeneration state generation).1
      (advanceGeneration state generation).2 := by
  cases generation with
  | inserting draft amounts discountAmount =>
    rw [advanceGeneration]
    split
    · exact .none rfl rfl (fun _ => rfl) (fun _ => rfl) (by simp) rfl
    · exact .inserted _ rfl ⟨rfl, le_max_left _ _⟩ rfl (fun _ => rfl)
        (fun cycleId => underway_optional rfl) (forall_optional rfl) rfl
  | locating isManual fleet usage cycleDays =>
    rw [advanceGeneration]
    split
    · exact .none rfl rfl (fun _ => rfl) (fun _ => rfl) (by simp) rfl
    · exact .none rfl rfl (fun _ => rfl) (fun _ => rfl) (by simp [reads]) rfl
  | requested isManual =>
    exact .none rfl rfl (fun _ => rfl) (fun _ => rfl) (by simp [advanceGeneration, reads]) rfl
  | configuring isManual fleet usage =>
    exact .none rfl rfl (fun _ => rfl) (fun _ => rfl) (by simp [advanceGeneration, reads]) rfl
  | auditing draft usage now =>
    exact .none rfl rfl (fun _ => rfl) (fun _ => rfl) (by simp [advanceGeneration, reads]) rfl
  | discounting draft amounts =>
    exact .none rfl rfl (fun _ => rfl) (fun _ => rfl) (by simp [advanceGeneration, reads]) rfl
  | starting periodStart =>
    exact .none rfl rfl (fun _ => rfl) (fun _ => rfl) (by simp [advanceGeneration]) rfl

/-- A rider's payment writes no invoice. -/
theorem commitRider_rows (state : BillingState) (transactionId : Nat) (transaction : MomoTransaction)
    (financialTransactionId : String) :
    (commitRider state transactionId transaction financialTransactionId).cycles = state.cycles ∧
      (commitRider state transactionId transaction financialTransactionId).payments =
        state.payments := by
  unfold commitRider
  split
  · exact ⟨rfl, rfl⟩
  · exact ⟨rfl, rfl⟩

/-- A reactivated fleet keeps its invoices and payments. -/
theorem restoreFleet_rows (state : BillingState) :
    (restoreFleet state).cycles = state.cycles ∧ (restoreFleet state).payments = state.payments :=
  ⟨restoreFleet_cycles state, restoreFleet_payments state⟩

/-- A confirmation that writes no total leaves the invoices alone. -/
theorem commitInvoice_unwritten (state : BillingState) {transactionId : Nat} {transaction : MomoTransaction}
    {cycle : Option BillingCycle} {financialTransactionId : String}
    (unwritten : writes (.crediting transactionId transaction cycle financialTransactionId) = none) :
    (commitInvoice state transactionId transaction cycle financialTransactionId).1 = state := by
  unfold writes at unwritten
  unfold commitInvoice
  cases pays : transaction.billingCycleId with
  | none => rfl
  | some cycleId =>
    cases cycle with
    | none => rfl
    | some copy =>
      by_cases paid : copy.status = .PAID
      · simp [paid]
      · simp [pays, paid] at unwritten

/-- A confirmation that writes one credits the invoice from its copy. -/
theorem commitInvoice_written (state : BillingState) {transactionId cycleId : Nat}
    {transaction : MomoTransaction}
    {cycle : Option BillingCycle} {financialTransactionId : String} {copy : BillingCycle}
    {amount : Int}
    (writing : writes (.crediting transactionId transaction cycle financialTransactionId) =
      some (cycleId, copy, amount)) :
    reads (.crediting transactionId transaction cycle financialTransactionId) = some (cycleId, copy) ∧
      (commitInvoice state transactionId transaction cycle financialTransactionId).1.cycles =
        (credited state transactionId amount cycleId copy financialTransactionId).cycles ∧
      (commitInvoice state transactionId transaction cycle financialTransactionId).1.payments =
        (credited state transactionId amount cycleId copy financialTransactionId).payments := by
  unfold writes at writing
  unfold reads commitInvoice
  cases pays : transaction.billingCycleId with
  | none => simp [pays] at writing
  | some paidId =>
    cases cycle with
    | none => simp [pays] at writing
    | some row =>
      by_cases paid : row.status = .PAID
      · simp [pays, paid] at writing
      · simp only [pays, paid, if_false, Option.some.injEq, Prod.mk.injEq] at writing
        obtain ⟨rfl, rfl, rfl⟩ := writing
        refine ⟨by simp [pays], ?_⟩
        simp only [paid, if_false]
        split
        · exact restoreFleet_rows _
        · exact ⟨rfl, rfl⟩

/-- What a confirmed payment does to the tally. -/
theorem effect_crediting (state : BillingState) (transactionId : Nat)
    (transaction : MomoTransaction) (cycle : Option BillingCycle) (financialTransactionId : String) :
    Effect state (.crediting transactionId transaction cycle financialTransactionId)
      (advance state (.crediting transactionId transaction cycle financialTransactionId)).1
      (advance state (.crediting transactionId transaction cycle financialTransactionId)).2 := by
  rw [advance]
  generalize committed : commitInvoice (marked state transactionId financialTransactionId)
    transactionId transaction cycle financialTransactionId = commit
  obtain ⟨cycles, payments⟩ := commitRider_rows commit.1 transactionId transaction
    financialTransactionId
  have left : ∀ other : Nat,
      underway (if commit.2 = true then [.generating (.requested true)] else []) other = 0 :=
    fun other => underway_optional rfl
  have unread : ∀ later ∈ (if commit.2 = true then [Call.generating (.requested true)] else []),
      reads later = Option.none := forall_optional rfl
  cases writing : writes (.crediting transactionId transaction cycle financialTransactionId) with
  | none =>
    have unchanged := commitInvoice_unwritten (marked state transactionId financialTransactionId)
      writing
    rw [committed] at unchanged
    rw [unchanged] at cycles payments ⊢
    exact .none cycles payments (fun _ => rfl) left unread writing
  | some target =>
    obtain ⟨cycleId, copy, amount⟩ := target
    obtain ⟨read, rows, created⟩ := commitInvoice_written
      (marked state transactionId financialTransactionId) writing
    rw [committed] at rows created
    exact .credited copy ⟨cycleId, amount, .MOBILE_MONEY, some financialTransactionId, state.now,
      some transactionId⟩ _ (cycles.trans rows) (fun row => ⟨rfl, rfl⟩) (payments.trans created)
      (fun _ => rfl) left unread read writing

/-- What every step of a call does to the tally. -/
theorem effect (state : BillingState) (call : Call) :
    Effect state call (advance state call).1 (advance state call).2 := by
  cases call with
  | generating generation => exact effect_generation state generation
  | recording cycleId cycle dto =>
    exact .received (manualPayment state.now cycleId dto) cycle rfl rfl (fun _ => rfl)
      (fun other => Int.add_zero _)
      rfl (by simp [advance, reads]) rfl
  | totalling cycleId cycle amount paidAt =>
    exact .written cycleId cycle amount _ rfl (fun row => ⟨rfl, rfl⟩) rfl (fun _ => rfl)
      (fun other => underway_optional rfl) (forall_optional rfl) rfl rfl
  | cancelling cycleId =>
    exact .none rfl rfl (fun _ => rfl) (fun _ => rfl) (by simp [advance, reads]) rfl
  | counting =>
    rw [advance]
    split
    · exact .none rfl rfl (fun _ => rfl) (fun _ => rfl) (by simp [reads]) rfl
    · exact .none rfl rfl (fun _ => rfl) (fun _ => rfl) (by simp [reads]) rfl
  | activating =>
    exact .none rfl rfl (fun _ => rfl) (fun _ => rfl) (by simp [advance, reads]) rfl
  | approving cycleId cycle isPastDue amount method reference =>
    exact .received ⟨cycleId, amount, method, reference, state.now, none⟩ cycle rfl rfl (fun _ => rfl)
      (fun other => Int.add_zero _) rfl (by simp [advance, reads]) rfl
  | approved cycleId cycle isPastDue amount =>
    exact .written cycleId cycle amount _ rfl (fun row => ⟨rfl, rfl⟩) rfl (fun _ => rfl)
      (fun other => underway_optional rfl) (forall_optional rfl) rfl rfl
  | restoring =>
    exact .none rfl rfl (fun _ => rfl) (fun _ => rfl) (by simp [advance]) rfl
  | crediting transactionId transaction cycle financialTransactionId =>
    exact effect_crediting state transactionId transaction cycle financialTransactionId

/-! Sums -/

/-- Without calls nothing is under way. -/
@[simp] theorem underway_nil (cycleId : Nat) : underway [] cycleId = 0 := rfl

/-- What is under way in two lists of calls is the sum. -/
theorem underway_append (calls rest : List Call) (cycleId : Nat) :
    underway (calls ++ rest) cycleId = underway calls cycleId + underway rest cycleId := by
  rw [underway, List.map_append, List.sum_append]
  rfl

/-- A call that goes on takes its share out of what is under way. -/
theorem underway_eraseIdx {calls : List Call} {position : Nat} (cycleId : Nat)
    (found : calls[position]? = some call) :
    underway calls cycleId = held cycleId call + underway (calls.eraseIdx position) cycleId := by
  obtain ⟨bound, rfl⟩ := List.getElem?_eq_some_iff.mp found
  have moved := ((List.getElem_cons_eraseIdx_perm bound).map (held cycleId)).sum_eq
  rw [List.map_cons, List.sum_cons] at moved
  exact moved.symm

/-- Kept payments pay what they paid. -/
theorem paidInto_kept (payments : billing.payments = state.payments) (cycleId : Nat) :
    paidInto billing cycleId = paidInto state cycleId := by
  rw [paidInto, paidInto, paymentsOf, paymentsOf, payments]

/-- One more payment adds its amount to its cycle. -/
theorem paidInto_append {payment : BillingPayment}
    (payments : billing.payments = state.payments ++ [payment]) (cycleId : Nat) :
    paidInto billing cycleId = paidInto state cycleId +
      if payment.billingCycleId = cycleId then payment.amount else 0 := by
  rw [paidInto, paidInto, paymentsOf, paymentsOf, payments, List.filter_append, List.map_append,
    List.sum_append]
  by_cases paid : payment.billingCycleId = cycleId
  · simp [paid]
  · simp [paid]

/-! The tally of an invoice after one access -/

/-- The access writes the total of the invoice from this copy. -/
def WritesTo (call : Call) (cycleId : Nat) (cycle : BillingCycle) (amount : Int) : Prop :=
  writes call = some (cycleId, cycle, amount)

/-- What an access does to the tally of one invoice. -/
inductive Turn (call : Call) (cycleId : Nat) (tally : Tally) : Tally → Prop where
  | kept (unwritten : ∀ cycle amount, ¬ WritesTo call cycleId cycle amount) :
      Turn call cycleId tally tally
  | received (amount : Int) (unwritten : ∀ cycle amount, ¬ WritesTo call cycleId cycle amount) :
      Turn call cycleId tally (tally.receive amount)
  | written (cycle : BillingCycle) (amount : Int) (writing : WritesTo call cycleId cycle amount) :
      Turn call cycleId tally (tally.write cycle.totalPaid amount)
  | credited (cycle : BillingCycle) (amount : Int) (writing : WritesTo call cycleId cycle amount) :
      Turn call cycleId tally (tally.credit cycle.totalPaid amount)

/-- The invoice was read once; its amount due is the same since, and its total has not
been lowered. -/
def ReadFrom (cycles : List BillingCycle) (cycleId : Nat) (cycle : BillingCycle) : Prop :=
  ∃ row, cycles[cycleId]? = some row ∧ cycle.totalDue = row.totalDue ∧
    cycle.totalPaid ≤ row.totalPaid

/-- The world once a call has gone on. -/
def proceeded (world : World) (position : Nat) (call : Call) : World :=
  ⟨(advance world.billing call).1,
    world.calls.eraseIdx position ++ (advance world.billing call).2⟩

/-- What is under way once a call has gone on. -/
theorem underway_proceeded {position : Nat} (cycleId : Nat)
    (found : world.calls[position]? = some call) :
    underway (proceeded world position call).calls cycleId =
      underway world.calls cycleId - held cycleId call +
        underway (advance world.billing call).2 cycleId := by
  rw [proceeded, underway_append, underway_eraseIdx cycleId found]
  omega

/-- A call that writes no cycle writes to none. -/
theorem unwritten_of_none (unwritten : writes call = none) (cycleId : Nat) :
    ∀ cycle amount, ¬ WritesTo call cycleId cycle amount := by
  intro cycle amount writing
  rw [WritesTo, unwritten] at writing
  cases writing

/-- A call that writes one cycle writes to no other. -/
theorem unwritten_elsewhere {paidId cycleId : Nat} {cycle : BillingCycle} {amount : Int}
    (writing : writes call = some (paidId, cycle, amount)) (elsewhere : paidId ≠ cycleId) :
    ∀ cycle amount, ¬ WritesTo call cycleId cycle amount := by
  intro other added again
  have same := Option.some.inj (writing.symm.trans again)
  exact elsewhere (congrArg Prod.fst same)

/-- A changed list has the changed row in its place. -/
theorem modify_found {cycles : List BillingCycle} {cycleId : Nat} (changedId : Nat)
    (change : BillingCycle → BillingCycle) (found : cycles[cycleId]? = some row) :
    (cycles.modify changedId change)[cycleId]? =
      some (if changedId = cycleId then change row else row) := by
  rw [List.getElem?_modify, found]
  rfl

/-- A stored invoice keeps its amount due, and its tally takes a turn. -/
theorem turn {position cycleId : Nat} (found : world.calls[position]? = some call)
    (read : ∀ cycleId cycle, reads call = some (cycleId, cycle) →
      ReadFrom world.billing.cycles cycleId cycle)
    (stored : world.billing.cycles[cycleId]? = some row) :
    ∃ later : BillingCycle, (proceeded world position call).billing.cycles[cycleId]? = some later ∧
      later.totalDue = row.totalDue ∧
      Turn call cycleId (tallyOf world cycleId row)
        (tallyOf (proceeded world position call) cycleId later) := by
  have calls := underway_proceeded cycleId found
  have same : ∀ {later : BillingCycle}, later.totalDue = row.totalDue →
      later.totalPaid = row.totalPaid →
      (∀ other, held other call = 0) →
      (∀ other, underway (advance world.billing call).2 other = 0) →
      paidInto (advance world.billing call).1 cycleId = paidInto world.billing cycleId →
      tallyOf (proceeded world position call) cycleId later = tallyOf world cycleId row := by
    intro later due total keeps left paid
    rw [keeps, left, sub_zero, add_zero] at calls
    rw [tallyOf, tallyOf, calls, due, total]
    exact congrArg (Tally.mk _ _ _) paid
  cases effect world.billing call with
  | none cycles payments keeps left unread unwritten =>
    refine ⟨row, ?_, rfl, ?_⟩
    · rw [proceeded, cycles, stored]
    · rw [same rfl rfl keeps left (paidInto_kept payments cycleId)]
      exact .kept (unwritten_of_none unwritten cycleId)
  | received payment cycle cycles payments keeps left readFirst reread unwritten =>
    refine ⟨row, by rw [proceeded, cycles, stored], rfl, ?_⟩
    have paid := paidInto_append payments cycleId
    rw [keeps, left, sub_zero] at calls
    have tally : tallyOf (proceeded world position call) cycleId row =
        (tallyOf world cycleId row).receive
          (if payment.billingCycleId = cycleId then payment.amount else 0) := by
      rw [tallyOf, calls]
      exact congrArg (Tally.mk _ _ _) paid
    rw [tally]
    exact .received _ (unwritten_of_none unwritten cycleId)
  | written paidId cycle amount change cycles changed payments keeps left unread readFirst writing =>
    have later := modify_found paidId change stored
    rw [← cycles] at later
    by_cases here : paidId = cycleId
    · subst here
      rw [if_pos rfl] at later
      refine ⟨change row, later, (changed row).1, ?_⟩
      have paid := paidInto_kept payments paidId
      rw [keeps, left, if_pos rfl, add_zero] at calls
      have tally : tallyOf (proceeded world position call) paidId (change row) =
          (tallyOf world paidId row).write cycle.totalPaid amount := by
        rw [tallyOf, calls, (changed row).1, (changed row).2]
        exact congrArg (Tally.mk _ _ _) paid
      rw [tally]
      exact .written cycle amount writing
    · rw [if_neg here] at later
      refine ⟨row, later, rfl, ?_⟩
      have paid := paidInto_kept payments cycleId
      rw [keeps, left, if_neg here, sub_zero, add_zero] at calls
      have tally : tallyOf (proceeded world position call) cycleId row = tallyOf world cycleId row := by
        rw [tallyOf, tallyOf, calls]
        exact congrArg (Tally.mk _ _ _) paid
      rw [tally]
      exact .kept (unwritten_elsewhere writing here)
  | credited cycle payment change cycles changed payments keeps left unread readFirst writing =>
    have paid := paidInto_append payments cycleId
    rw [keeps, left, sub_zero, add_zero] at calls
    have later := modify_found payment.billingCycleId change stored
    rw [← cycles] at later
    by_cases here : payment.billingCycleId = cycleId
    · rw [if_pos here] at later paid
      refine ⟨change row, later, (changed row).1, ?_⟩
      obtain ⟨origin, present, due, _⟩ := read _ _ readFirst
      rw [here] at present
      obtain rfl := Option.some.inj (stored.symm.trans present)
      have tally : tallyOf (proceeded world position call) cycleId (change row) =
          (tallyOf world cycleId row).credit cycle.totalPaid payment.amount := by
        rw [tallyOf, calls, (changed row).1, (changed row).2, due]
        exact congrArg (Tally.mk _ _ _) paid
      rw [tally]
      exact .credited cycle payment.amount (here ▸ writing)
    · rw [if_neg here] at later paid
      rw [add_zero] at paid
      refine ⟨row, later, rfl, ?_⟩
      have tally : tallyOf (proceeded world position call) cycleId row = tallyOf world cycleId row := by
        rw [tallyOf, tallyOf, calls]
        exact congrArg (Tally.mk _ _ _) paid
      rw [tally]
      exact .kept (unwritten_elsewhere writing here)
  | inserted added cycles unpaid payments keeps left unread unwritten =>
    have bound := (List.getElem?_eq_some_iff.mp stored).1
    refine ⟨row, ?_, rfl, ?_⟩
    · rw [proceeded, cycles, List.getElem?_append_left bound, stored]
    · rw [same rfl rfl keeps left (paidInto_kept payments cycleId)]
      exact .kept (unwritten_of_none unwritten cycleId)

/-! Runs -/

/-- What the theorem below relies on: totals that are accounted for, payments of stored
invoices, and copies that are not ahead of the rows they were read from. -/
structure Accounted (world : World) : Prop where
  conserved : Conserved world
  stored : ∀ payment ∈ world.billing.payments,
    payment.billingCycleId < world.billing.cycles.length
  read : ∀ call ∈ world.calls, ∀ cycleId cycle, reads call = some (cycleId, cycle) →
    ReadFrom world.billing.cycles cycleId cycle

/-- A call that has read nothing of a cycle holds nothing for it. -/
theorem held_read {cycleId : Nat} (unread : ∀ cycle, reads call ≠ some (cycleId, cycle)) :
    held cycleId call = 0 := by
  cases call with
  | totalling paidId cycle amount paidAt =>
    have elsewhere : paidId ≠ cycleId := by
      rintro rfl
      exact unread cycle rfl
    exact if_neg elsewhere
  | approved paidId cycle isPastDue amount =>
    have elsewhere : paidId ≠ cycleId := by
      rintro rfl
      exact unread cycle rfl
    exact if_neg elsewhere
  | _ => rfl

/-- A cycle that was read is there. -/
theorem ReadFrom.bound {cycles : List BillingCycle} {cycleId : Nat} {cycle : BillingCycle}
    (read : ReadFrom cycles cycleId cycle) : cycleId < cycles.length := by
  obtain ⟨row, present, _⟩ := read
  exact (List.getElem?_eq_some_iff.mp present).1

/-- Nothing is under way to an invoice that does not exist yet. -/
theorem Accounted.underway_new (accounted : Accounted world) {cycleId : Nat}
    (new : world.billing.cycles.length ≤ cycleId) : underway world.calls cycleId = 0 := by
  apply List.sum_eq_zero
  intro amount member
  obtain ⟨call, present, rfl⟩ := List.mem_map.mp member
  apply held_read
  intro cycle reading
  have bound := (accounted.read call present cycleId cycle reading).bound
  omega

/-- Nothing is paid into a cycle that is not there yet. -/
theorem Accounted.paidInto_new (accounted : Accounted world) {cycleId : Nat}
    (new : world.billing.cycles.length ≤ cycleId) : paidInto world.billing cycleId = 0 := by
  have none : paymentsOf world.billing cycleId = [] := by
    apply List.filter_eq_nil_iff.mpr
    intro payment member paid
    have bound := accounted.stored payment member
    have same : payment.billingCycleId = cycleId := of_decide_eq_true paid
    omega
  rw [paidInto, none]
  rfl

/-- An invoice that the access adds has nothing paid and nothing under way. -/
theorem Accounted.balanced_new (accounted : Accounted world) {position cycleId : Nat}
    (found : world.calls[position]? = some call)
    (new : world.billing.cycles[cycleId]? = none)
    (added : (proceeded world position call).billing.cycles[cycleId]? = some row) :
    (tallyOf (proceeded world position call) cycleId row).Balanced := by
  have calls := underway_proceeded cycleId found
  have old := List.getElem?_eq_none_iff.mp new
  have gone : ∀ {cycles : List BillingCycle}, cycles.length = world.billing.cycles.length →
      (proceeded world position call).billing.cycles = cycles → False := by
    intro cycles length same
    rw [same, List.getElem?_eq_none (by omega)] at added
    cases added
  cases effect world.billing call with
  | none cycles payments keeps left unread unwritten => exact (gone rfl cycles).elim
  | received payment cycle cycles payments keeps left readFirst reread unwritten =>
    exact (gone rfl cycles).elim
  | written paidId cycle amount change cycles changed payments keeps left unread readFirst writing =>
    exact (gone (List.length_modify _ _ _) cycles).elim
  | credited cycle payment change cycles changed payments keeps left unread readFirst writing =>
    exact (gone (List.length_modify _ _ _) cycles).elim
  | inserted fresh cycles unpaid payments keeps left unread unwritten =>
    rw [proceeded, cycles, List.getElem?_append_right old] at added
    obtain rfl := List.mem_singleton.mp (List.mem_of_getElem? added)
    have paid := (paidInto_kept payments cycleId).trans (accounted.paidInto_new old)
    rw [keeps, left, accounted.underway_new old] at calls
    constructor
    · change row.totalPaid + underway (proceeded world position call).calls cycleId =
        paidInto (advance world.billing call).1 cycleId
      rw [calls, paid, unpaid.1]
      rfl
    · change row.totalPaid ≤ row.totalDue
      rw [unpaid.1]
      exact unpaid.2

/-- What a turn of the tally leaves, against the condition on what is written. -/
theorem turn_iff {cycleId : Nat} {tally later : Tally} (balanced : tally.Balanced)
    (behind : ∀ cycle amount, WritesTo call cycleId cycle amount → cycle.totalPaid ≤ tally.total)
    (turn : Turn call cycleId tally later) :
    later.Balanced ∧ tally.total ≤ later.total ↔
      ∀ cycle amount, WritesTo call cycleId cycle amount → tally.Sound cycle.totalPaid amount := by
  have written : ∀ {cycle : BillingCycle} {amount : Int}, WritesTo call cycleId cycle amount →
      (tally.Sound cycle.totalPaid amount ↔
        ∀ cycle amount, WritesTo call cycleId cycle amount → tally.Sound cycle.totalPaid amount) := by
    intro cycle amount writing
    constructor
    · intro sound other added again
      obtain ⟨_, rfl, rfl⟩ := Option.some.inj (writing.symm.trans again)
      exact sound
    · exact fun sound => sound cycle amount writing
  cases turn with
  | kept unwritten =>
    exact iff_of_true ⟨balanced, le_refl _⟩ fun cycle amount writing =>
      absurd writing (unwritten cycle amount)
  | received amount unwritten =>
    exact iff_of_true ⟨balanced.receive amount, le_refl _⟩ fun cycle amount writing =>
      absurd writing (unwritten cycle amount)
  | written cycle amount writing =>
    rw [← written writing]
    exact Tally.write_iff balanced
  | credited cycle amount writing =>
    rw [← written writing]
    exact Tally.credit_iff balanced (behind cycle amount writing)

/-- The accounts are kept by the step. -/
def Keeps (world : World) (_action : Action) (next : World) : Prop :=
  Conserved next ∧ NeverLower world next

/-- A call writes to the cycle that it has read. -/
theorem writes_read {cycleId : Nat} {cycle : BillingCycle} {amount : Int}
    (writing : WritesTo call cycleId cycle amount) : reads call = some (cycleId, cycle) := by
  cases call with
  | totalling paidId copy paid paidAt =>
    obtain ⟨rfl, rfl, rfl⟩ := Option.some.inj writing
    rfl
  | approved paidId copy isPastDue paid =>
    obtain ⟨rfl, rfl, rfl⟩ := Option.some.inj writing
    rfl
  | crediting transactionId transaction copy financialTransactionId =>
    exact (commitInvoice_written unbilledState writing).1
  | _ => cases writing

/-- A step keeps the tally exactly when the call is careful. -/
theorem proceed_iff (accounted : Accounted world) {position : Nat}
    (found : world.calls[position]? = some call) :
    Keeps world (.proceed position) (proceeded world position call) ↔
      Careful world (.proceed position) (proceeded world position call) := by
  have read := accounted.read call (List.mem_of_getElem? found)
  have rows : ∀ cycleId row, world.billing.cycles[cycleId]? = some row →
      ∃ later : BillingCycle, (proceeded world position call).billing.cycles[cycleId]? = some later ∧
        ((tallyOf (proceeded world position call) cycleId later).Balanced ∧
            row.totalPaid ≤ later.totalPaid ↔
          ∀ cycle amount, WritesTo call cycleId cycle amount →
            (tallyOf world cycleId row).Sound cycle.totalPaid amount) := by
    intro cycleId row stored
    obtain ⟨later, present, _, turned⟩ := turn found read stored
    refine ⟨later, present, turn_iff (accounted.conserved cycleId row stored) ?_ turned⟩
    intro cycle amount writing
    obtain ⟨origin, same, _, behind⟩ := read _ _ (writes_read writing)
    obtain rfl := Option.some.inj (stored.symm.trans same)
    exact behind
  constructor
  · rintro ⟨conserved, neverLower⟩ moved other cycleId cycle amount row same present writing stored
    obtain rfl := Action.proceed.inj same
    obtain rfl := Option.some.inj (found.symm.trans present)
    obtain ⟨later, kept, agree⟩ := rows cycleId row stored
    obtain ⟨again, lower, grows⟩ := neverLower cycleId row stored
    obtain rfl := Option.some.inj (kept.symm.trans lower)
    exact agree.mp ⟨conserved cycleId later kept, grows⟩ cycle amount writing
  · intro careful
    have sound : ∀ cycleId row, world.billing.cycles[cycleId]? = some row →
        ∃ later : BillingCycle,
          (proceeded world position call).billing.cycles[cycleId]? = some later ∧
          (tallyOf (proceeded world position call) cycleId later).Balanced ∧
          row.totalPaid ≤ later.totalPaid := by
      intro cycleId row stored
      obtain ⟨later, kept, agree⟩ := rows cycleId row stored
      refine ⟨later, kept, agree.mpr ?_⟩
      intro cycle amount writing
      exact careful position call cycleId cycle amount row rfl found writing stored
    constructor
    · intro cycleId row present
      cases stored : world.billing.cycles[cycleId]? with
      | none => exact accounted.balanced_new found stored present
      | some before =>
        obtain ⟨later, kept, balanced, _⟩ := sound cycleId before stored
        obtain rfl := Option.some.inj (present.symm.trans kept)
        exact balanced
    · intro cycleId row stored
      obtain ⟨later, kept, _, grows⟩ := sound cycleId row stored
      exact ⟨later, kept, grows⟩

/-- A step that is no access of a call: calls may begin, and nothing else happens. -/
structure OnlyBegins (world next : World) : Prop where
  cycles : next.billing.cycles = world.billing.cycles
  payments : next.billing.payments = world.billing.payments
  calls : ∃ begun, next.calls = world.calls ++ begun ∧ (∀ cycleId, underway begun cycleId = 0) ∧
    ∀ call ∈ begun, ∀ cycleId cycle, reads call = some (cycleId, cycle) →
      world.billing.cycles[cycleId]? = some cycle

/-- A call that begins holds nothing. -/
theorem begins_of_begun {begun : List Call} (none : ∀ cycleId, underway begun cycleId = 0)
    (read : ∀ call ∈ begun, ∀ cycleId cycle, reads call = some (cycleId, cycle) →
      world.billing.cycles[cycleId]? = some cycle) :
    OnlyBegins world { world with calls := world.calls ++ begun } :=
  ⟨rfl, rfl, begun, rfl, none, read⟩

/-- The steps: a call begins, goes on or is lost. -/
theorem step_cases {action : Action} (moved : step world action = some next) :
    (∃ position call, action = .proceed position ∧ world.calls[position]? = some call ∧
      next = proceeded world position call) ∨
    (∀ position, action ≠ .proceed position) ∧ OnlyBegins world next := by
  cases action with
  | proceed position =>
    obtain ⟨call, found, rfl⟩ := Option.map_eq_some_iff.mp moved
    exact Or.inl ⟨position, call, rfl, found, rfl⟩
  | tick elapsed =>
    obtain rfl := Option.some.inj moved
    refine Or.inr ⟨by simp, rfl, rfl, [], by simp, fun _ => rfl, ?_⟩
    intro call member
    cases member
  | recordPayment cycleId dto =>
    obtain rfl := Option.some.inj moved
    refine Or.inr ⟨by simp, ?_⟩
    obtain none | ⟨cycle, stored, begun⟩ := beginRecord_cases world.billing cycleId dto
    · rw [none]
      exact begins_of_begun (fun _ => rfl) (by simp)
    · rw [begun]
      exact begins_of_begun (fun _ => rfl) (by simpa [reads] using stored)
  | approveBillingPayment cycleId amount method reference =>
    obtain rfl := Option.some.inj moved
    refine Or.inr ⟨by simp, ?_⟩
    obtain none | ⟨cycle, isPastDue, stored, begun⟩ :=
      beginApproval_cases world.billing cycleId amount method reference
    · rw [none]
      exact begins_of_begun (fun _ => rfl) (by simp)
    · rw [begun]
      exact begins_of_begun (fun _ => rfl) (by simpa [reads] using stored)
  | confirmPayment transactionId financialTransactionId =>
    rw [step] at moved
    split at moved
    · cases moved
    · obtain rfl := Option.some.inj moved
      refine Or.inr ⟨by simp, ?_⟩
      obtain none | ⟨transaction, _, begun⟩ :=
        beginConfirmation_cases world.billing transactionId financialTransactionId
      · rw [none]
        exact begins_of_begun (fun _ => rfl) (by simp)
      · rw [begun]
        refine begins_of_begun (fun _ => rfl) ?_
        intro call member cycleId cycle reading
        rw [List.mem_singleton.mp member] at reading
        obtain ⟨paidId, pays, copied⟩ := Option.bind_eq_some_iff.mp reading
        obtain ⟨copy, stored, same⟩ := Option.map_eq_some_iff.mp copied
        obtain ⟨rfl, rfl⟩ := Prod.mk.inj same
        rw [pays] at stored
        exact stored
  | generateCycleForFleet isManual =>
    obtain rfl := Option.some.inj moved
    exact Or.inr ⟨by simp, begins_of_begun (fun _ => rfl) (by simp [reads])⟩

/-- A step that only begins calls keeps the accounts. -/
theorem OnlyBegins.tally {world next : World} (begins : OnlyBegins world next) (cycleId : Nat)
    (row : BillingCycle) : tallyOf next cycleId row = tallyOf world cycleId row := by
  obtain ⟨begun, calls, none, _⟩ := begins.calls
  rw [tallyOf, tallyOf, calls, underway_append, none, add_zero,
    paidInto_kept begins.payments cycleId]

/-- Every step keeps the tally exactly when it is careful. -/
theorem agree {action : Action} (accounted : Accounted world)
    (moved : step world action = some next) :
    Keeps world action next ↔ Careful world action next := by
  obtain ⟨position, call, rfl, found, rfl⟩ | ⟨other, begins⟩ := step_cases moved
  · exact proceed_iff accounted found
  · refine iff_of_true ⟨?_, ?_⟩ ?_
    · intro cycleId row present
      rw [begins.tally]
      rw [begins.cycles] at present
      exact accounted.conserved cycleId row present
    · intro cycleId row stored
      exact ⟨row, by rw [begins.cycles, stored], le_refl _⟩
    · intro position call cycleId cycle amount row same
      exact absurd same (other position)

/-- What was read from a cycle may be read from it later. -/
theorem ReadFrom.later {cycles later : List BillingCycle} {cycleId : Nat} {cycle : BillingCycle}
    (read : ReadFrom cycles cycleId cycle)
    (grown : ∀ row, cycles[cycleId]? = some row → ∃ after : BillingCycle,
      later[cycleId]? = some after ∧ after.totalDue = row.totalDue ∧ row.totalPaid ≤ after.totalPaid) :
    ReadFrom later cycleId cycle := by
  obtain ⟨row, present, due, behind⟩ := read
  obtain ⟨after, kept, same, grows⟩ := grown row present
  exact ⟨after, kept, due.trans same.symm, le_trans behind grows⟩

/-- The remaining access of a call reads nothing anew, and a payment is of an invoice that
was read. -/
theorem effect_reads (state : BillingState) (call : Call) :
    (∀ later ∈ (advance state call).2, ∀ target, reads later = some target →
      reads call = some target) ∧
    ∀ payment ∈ (advance state call).1.payments, payment ∈ state.payments ∨
      ∃ cycle, reads call = some (payment.billingCycleId, cycle) := by
  cases effect state call with
  | none cycles payments keeps left unread unwritten =>
    refine ⟨?_, fun payment member => Or.inl (payments ▸ member)⟩
    intro later member target reading
    rw [unread later member] at reading
    cases reading
  | received payment cycle cycles payments keeps left read reread unwritten =>
    refine ⟨fun later member target reading => (reread later member).symm.trans reading, ?_⟩
    intro other member
    rw [payments] at member
    cases List.mem_append.mp member with
    | inl old => exact Or.inl old
    | inr new =>
      rw [List.mem_singleton.mp new]
      exact Or.inr ⟨cycle, read⟩
  | written paidId cycle amount change cycles changed payments keeps left unread read writing =>
    refine ⟨?_, fun payment member => Or.inl (payments ▸ member)⟩
    intro later member target reading
    rw [unread later member] at reading
    cases reading
  | credited cycle payment change cycles changed payments keeps left unread read writing =>
    constructor
    · intro later member target reading
      rw [unread later member] at reading
      cases reading
    · intro other member
      rw [payments] at member
      cases List.mem_append.mp member with
      | inl old => exact Or.inl old
      | inr new =>
        rw [List.mem_singleton.mp new]
        exact Or.inr ⟨cycle, read⟩
  | inserted added cycles unpaid payments keeps left unread unwritten =>
    refine ⟨?_, fun payment member => Or.inl (payments ▸ member)⟩
    intro later member target reading
    rw [unread later member] at reading
    cases reading

/-- A cycle that was there is there. -/
theorem NeverLower.bound (neverLower : NeverLower world next) {cycleId : Nat}
    (bound : cycleId < world.billing.cycles.length) : cycleId < next.billing.cycles.length := by
  obtain ⟨later, kept, _⟩ := neverLower cycleId _ (List.getElem?_eq_getElem bound)
  exact (List.getElem?_eq_some_iff.mp kept).1

/-- A step that keeps the tally keeps the accounts. -/
theorem preserved {action : Action} (accounted : Accounted world) (kept : Keeps world action next)
    (moved : step world action = some next) : Accounted next := by
  obtain ⟨conserved, neverLower⟩ := kept
  obtain ⟨position, call, rfl, found, rfl⟩ | ⟨_, begins⟩ := step_cases moved
  · have read := accounted.read call (List.mem_of_getElem? found)
    obtain ⟨reread, created⟩ := effect_reads world.billing call
    have grown : ∀ (cycleId : Nat) (row : BillingCycle),
        world.billing.cycles[cycleId]? = some row → ∃ after : BillingCycle,
          (proceeded world position call).billing.cycles[cycleId]? = some after ∧
            after.totalDue = row.totalDue ∧ row.totalPaid ≤ after.totalPaid := by
      intro cycleId row stored
      obtain ⟨later, present, due, _⟩ := turn found read stored
      obtain ⟨again, same, grows⟩ := neverLower cycleId row stored
      obtain rfl := Option.some.inj (present.symm.trans same)
      exact ⟨later, present, due, grows⟩
    refine ⟨conserved, ?_, ?_⟩
    · intro payment member
      apply neverLower.bound
      cases created payment member with
      | inl old => exact accounted.stored payment old
      | inr new =>
        obtain ⟨cycle, reading⟩ := new
        exact (read _ _ reading).bound
    · intro other member cycleId cycle reading
      have earlier : ReadFrom world.billing.cycles cycleId cycle := by
        cases List.mem_append.mp member with
        | inl old => exact accounted.read other (List.mem_of_mem_eraseIdx old) _ _ reading
        | inr rest => exact read _ _ (reread other rest _ reading)
      exact earlier.later fun row stored => grown cycleId row stored
  · obtain ⟨begun, calls, _, fresh⟩ := begins.calls
    refine ⟨conserved, ?_, ?_⟩
    · rw [begins.payments, begins.cycles]
      exact accounted.stored
    · intro call member cycleId cycle reading
      rw [begins.cycles]
      rw [calls] at member
      cases List.mem_append.mp member with
      | inl old => exact accounted.read call old cycleId cycle reading
      | inr new => exact ⟨cycle, fresh call new cycleId cycle reading, rfl, le_refl _⟩

/-- Where no call is open, the total is the sum of the payments. -/
theorem Conserved.paid (conserved : Conserved world) (quiet : world.calls = []) {cycleId : Nat}
    (found : world.billing.cycles[cycleId]? = some row) :
    row.totalPaid = paidInto world.billing cycleId ∧ row.totalPaid ≤ row.totalDue := by
  obtain ⟨balance, within⟩ := conserved cycleId row found
  have none : underway world.calls cycleId = 0 := by rw [quiet, underway_nil]
  change row.totalPaid + underway world.calls cycleId = paidInto world.billing cycleId at balance
  rw [none, add_zero] at balance
  exact ⟨balance, within⟩

/-- The totals of the invoices are accounted for throughout a run, and none is ever
lowered, exactly when every write of a total is careful. -/
theorem money_conserved_iff {start : World} (quiet : start.calls = [])
    (conserved : Conserved start)
    (stored : ∀ payment ∈ start.billing.payments,
      payment.billingCycleId < start.billing.cycles.length) (actions : List Action) :
    Along step Keeps start actions ↔ Along step Careful start actions := by
  have accounted : Accounted start := by
    refine ⟨conserved, stored, ?_⟩
    rw [quiet]
    intro call member
    cases member
  apply along_iff_of_invariant Accounted ?_ ?_ actions accounted
  · intro world action next held moved
    exact agree held moved
  · intro world action next held kept moved
    exact preserved held kept moved

/-- A fleet with an invoice of 700 francs. -/
def chargedWorld : World where
  billing := { unbilledState with cycles := [{ defaultCycle with subtotal := 700, totalDue := 700 }] }
  calls := []

/-- The world of the example is in balance. -/
theorem chargedWorld_conserved : Conserved chargedWorld := by
  intro cycleId row found
  cases cycleId with
  | zero =>
    obtain rfl := Option.some.inj found
    exact ⟨rfl, by decide⟩
  | succ cycleId => cases found

/-- A payment of a part. -/
def payPart : RecordBillingPaymentDto := ⟨300, by decide, .CASH, none, none⟩

/-- The executable form of `Careful`. -/
def carefulCheck (world : World) : Action → Bool
  | .proceed position =>
    match (world.calls[position]?).bind writes with
    | some (cycleId, cycle, amount) =>
      (world.billing.cycles[cycleId]?).all fun row =>
        decide (cycle.totalPaid = row.totalPaid ∧ 0 ≤ amount ∧ row.totalPaid + amount ≤ row.totalDue)
    | none => true
  | _ => true

/-- The check is enough for a careful step. -/
theorem careful_of_check (world : World) (action : Action) (next : World)
    (checked : carefulCheck world action = true) : Careful world action next := by
  rintro position call cycleId cycle amount row rfl found writing stored
  have write : (world.calls[position]?).bind writes = some (cycleId, cycle, amount) := by
    rw [found, Option.bind_some, writing]
  rw [carefulCheck, write] at checked
  simp only [stored, Option.all_some] at checked
  exact of_decide_eq_true checked

/-- Two payments of the invoice, one after the other. -/
theorem money_conserved_iff_orderly :
    Along step Keeps chargedWorld [.recordPayment 0 payPart, .proceed 0, .proceed 0,
      .recordPayment 0 payPart, .proceed 0, .proceed 0] := by
  refine (money_conserved_iff rfl chargedWorld_conserved (by simp [chargedWorld, unbilledState])
    _).mpr ?_
  apply along_of_check (fun world action next => careful_of_check world action next)
  rfl

/-- The same two payments side by side: the second total is written from the copy that was
read before the first, and 300 of the 600 francs paid are lost. -/
theorem payment_lost :
    ¬ ∀ (start reached : World) (actions : List Action), start.calls = [] → Conserved start →
      run step start actions = some reached → reached.calls = [] →
      ∀ (cycleId : Nat) (row : BillingCycle), reached.billing.cycles[cycleId]? = some row →
        row.totalPaid = paidInto reached.billing cycleId := by
  intro claim
  obtain ⟨reached, completed, finished, row, found, booked, paid⟩ : ∃ reached : World,
      run step chargedWorld [.recordPayment 0 payPart, .recordPayment 0 payPart, .proceed 0,
        .proceed 0, .proceed 0, .proceed 0] = some reached ∧ reached.calls = [] ∧
      ∃ row : BillingCycle, reached.billing.cycles[0]? = some row ∧ row.totalPaid = 300 ∧
        paidInto reached.billing 0 = 600 := ⟨_, rfl, rfl, _, rfl, rfl, rfl⟩
  have same := claim chargedWorld reached _ rfl chargedWorld_conserved completed finished 0 row found
  rw [booked, paid] at same
  exact absurd same (by decide)

end EmotoFleet.Conservation
