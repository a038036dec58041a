import EmotoFleet.Billing.Calls
import EmotoFleet.Billing.Registration
import EmotoFleet.Foundations.Runs
import EmotoFleet.Foundations.Tiling

/-!
# The periods of a fleet tile time

Any number of generations run at once, with the other operations of the service, with
changes of the settings and of the fleet, and with calls that are given up. A generation
chooses the next number and period from the last invoice it read and inserts them
later. The unique number makes it fail when another one was faster.
-/

namespace EmotoFleet.PeriodTiling

open EmotoFleet.Runs
open EmotoFleet.Tiling
open EmotoFleet.Billing
open EmotoFleet.Calls

/-- What happens to a fleet's tables. The operations of the service take place at once;
calls take their accesses one by one. -/
inductive Event where
  | call (action : Action)
  | operate (operation : CycleOperation)
  | updateFleet (fleet : Fleet)
  | updateConfig (config : Option BillingConfig)
  | giveUp (position : Nat)

/-- One step of a call or one operation. -/
def occur (world : World) : Event → Option World
  | .call action => step world action
  | .operate operation => some { world with billing := operateCycle world.billing operation }
  | .updateFleet fleet => some { world with billing := { world.billing with fleet := fleet } }
  | .updateConfig config => some { world with billing := { world.billing with config := config } }
  | .giveUp position => some { world with calls := world.calls.eraseIdx position }

variable {state : BillingState} {tiles later : List (Tile Int)} {tile : Tile Int}

/-- The tile of an invoice. -/
def tileOf (cycle : BillingCycle) : Tile Int :=
  ⟨cycle.cycleNumber, cycle.periodStart, cycle.periodEnd⟩

/-- The tiles of the invoices. -/
def tilesOf (state : BillingState) : List (Tile Int) := state.cycles.map tileOf

/-- The tile of an invoice under way. -/
def draftTile (draft : Draft) : Tile Int :=
  ⟨draft.cycleNumber, draft.periodStart, addDays draft.periodStart draft.cycleDays⟩

/-! Choosing a period -/

/-- A period that a generation may have chosen: it is not empty and follows some invoice,
or it is the first one. -/
structure Chosen (tiles : List (Tile Int)) (tile : Tile Int) : Prop where
  nonempty : tile.start < tile.finish
  source : (∃ base ∈ tiles, Follows base tile) ∨ tile.number = 1

/-- A tile that was chosen stays chosen. -/
theorem Chosen.mono (chosen : Chosen tiles tile) (kept : tiles <+: later) : Chosen later tile := by
  refine ⟨chosen.nonempty, ?_⟩
  cases chosen.source with
  | inl after =>
    obtain ⟨base, member, follows⟩ := after
    exact Or.inl ⟨base, kept.subset member, follows⟩
  | inr first => exact Or.inr first

/-- A day later is later. -/
theorem lt_addDays (date : Int) {days : Nat} (atLeastOneDay : 1 ≤ days) : date < addDays date days := by
  rw [addDays, DAY_MS]
  omega

/-- An invoice is for a day at least. -/
theorem one_le_cycleDays (state : BillingState) : 1 ≤ cycleDays state := by
  rw [cycleDays]
  cases state.config with
  | none => decide
  | some config => exact config.atLeastOneDay

/-- The next period is chosen from the last invoice. -/
theorem nextPeriod_chosen {days : Nat} (atLeastOneDay : 1 ≤ days) (state : BillingState) :
    Chosen (tilesOf state)
      ⟨(nextPeriod state).2, (nextPeriod state).1, addDays (nextPeriod state).1 days⟩ := by
  refine ⟨lt_addDays _ atLeastOneDay, ?_⟩
  rw [nextPeriod]
  cases found : lastCycle state.cycles with
  | none => exact Or.inr rfl
  | some last => exact Or.inl ⟨tileOf last, List.mem_map_of_mem (lastCycle_mem found), rfl, rfl⟩

/-! Inserting it -/

/-- The invoices are numbered from one on, and their periods lie edge to edge. -/
structure Numbered (tiles : List (Tile Int)) : Prop where
  tiled : Tiled tiles
  first : ∀ tile, tiles.head? = some tile → tile.number = 1

/-- Without tiles none is numbered wrongly. -/
theorem numbered_nil : Numbered [] := by
  refine ⟨tiled_nil, ?_⟩
  intro tile begins
  cases begins

/-- A chosen period can be inserted when its number is free. -/
theorem Numbered.insert (numbered : Numbered tiles) (chosen : Chosen tiles tile)
    (free : ∀ other ∈ tiles, other.number ≠ tile.number) : Numbered (tiles ++ [tile]) := by
  cases begins : tiles with
  | nil =>
    subst begins
    have one : tile.number = 1 := by
      cases chosen.source with
      | inl after =>
        obtain ⟨base, member, _⟩ := after
        exact absurd member List.not_mem_nil
      | inr first => exact first
    refine ⟨tiled_singleton chosen.nonempty, ?_⟩
    intro other only
    obtain rfl := Option.some.inj only
    exact one
  | cons first rest =>
    subst begins
    have one : first.number = 1 := numbered.first first rfl
    refine ⟨?_, fun other begins => numbered.first other begins⟩
    cases chosen.source with
    | inl after =>
      obtain ⟨base, member, follows⟩ := after
      exact numbered.tiled.append_of_free member follows chosen.nonempty free
    | inr again => exact absurd (one.trans again.symm) (free first List.mem_cons_self)

/-- A number that is not used is free. -/
theorem free_of_unused {cycles : List BillingCycle} {cycleNumber : Nat}
    (unused : ¬ cycles.any (·.cycleNumber == cycleNumber) = true) :
    ∀ other ∈ cycles.map tileOf, other.number ≠ cycleNumber := by
  intro other member same
  obtain ⟨cycle, present, rfl⟩ := List.mem_map.mp member
  exact unused (List.any_eq_true.mpr ⟨cycle, present, beq_iff_eq.mpr same⟩)

/-! The operations of the service -/

/-- A payment leaves the tile. -/
theorem paidRow_tile (row : BillingCycle) (newTotalPaid paidAt : Int) :
    tileOf (paidRow row newTotalPaid paidAt) = tileOf row := rfl

/-- A reminder leaves the tile. -/
theorem overdueRow_tile (state : BillingState) (row : BillingCycle) :
    tileOf (overdueRow state row) = tileOf row := by
  have due : tileOf (healDueDate row) = tileOf row := by
    unfold healDueDate
    split
    · rfl
    · rfl
  have healed : ∀ cycle, tileOf (healStatus state.now (getConfig state).gracePeriodDays cycle) =
      tileOf cycle := by
    intro cycle
    unfold healStatus
    split
    · rfl
    · rfl
  have overdue : ∀ cycle, tileOf (markOverdue state.now (getConfig state).gracePeriodDays cycle) =
      tileOf cycle := by
    intro cycle
    unfold markOverdue
    split
    · rfl
    · rfl
  unfold overdueRow
  rw [overdue]
  split
  · exact (healed _).trans due
  · exact due

/-- No operation moves a period. -/
theorem revise_tile (operation : CycleOperation) (cycleId : Nat) (row : BillingCycle) :
    tileOf (revise state operation cycleId row) = tileOf row := by
  have kinds := revision state operation cycleId row
  generalize revise state operation cycleId row = revised at kinds ⊢
  cases kinds with
  | kept => rfl
  | paid newTotalPaid paidAt within => exact paidRow_tile _ _ _
  | approved amount method reference asked => rfl
  | voided => rfl
  | reconciled visits => rfl
  | marked => exact overdueRow_tile state row

/-- A generated invoice is placed by the last one, and its number is free. -/
theorem Numbered.next {middle : BillingState} (numbered : Numbered (tilesOf state))
    (chosen : Chosen (tilesOf state) (tileOf (nextCycle middle)))
    (above : ∀ cycle ∈ state.cycles, cycle.cycleNumber < (nextPeriod middle).2) :
    Numbered (tilesOf state ++ [tileOf (nextCycle middle)]) := by
  apply numbered.insert chosen
  intro other member
  obtain ⟨cycle, present, rfl⟩ := List.mem_map.mp member
  exact Nat.ne_of_lt (above cycle present)

/-- What an operation leaves is numbered, with the earlier invoices first. -/
theorem operateCycle_numbered (operation : CycleOperation) (numbered : Numbered (tilesOf state)) :
    Numbered (tilesOf (operateCycle state operation)) ∧
      tilesOf state <+: tilesOf (operateCycle state operation) := by
  obtain ⟨added, cycles, source⟩ := changes state operation
  have rows : (state.cycles.mapIdx (revise state operation)).map tileOf = tilesOf state := by
    apply List.ext_getElem?
    intro cycleId
    rw [tilesOf, List.getElem?_map, List.getElem?_mapIdx, List.getElem?_map]
    cases state.cycles[cycleId]? with
    | none => rfl
    | some row => rw [Option.map_some, Option.map_some, Option.map_some, revise_tile]
  have tiles : tilesOf (operateCycle state operation) = tilesOf state ++ added.map tileOf := by
    rw [tilesOf, cycles, List.map_append, rows]
  rw [tiles]
  refine ⟨?_, List.prefix_append _ _⟩
  cases source with
  | none unsettled unasked => simpa using numbered
  | begun middle automatic same period =>
    have chosen := nextPeriod_chosen (one_le_cycleDays middle) middle
    rw [tilesOf, same] at chosen
    exact numbered.next chosen (fun cycle member => lt_nextNumber (same ▸ member))
  | asked same =>
    exact numbered.next (nextPeriod_chosen (one_le_cycleDays state) state)
      (fun cycle member => lt_nextNumber member)
  | settled middle settles period =>
    have chosen := nextPeriod_chosen (one_le_cycleDays middle) state
    rw [← period] at chosen
    refine numbered.next chosen ?_
    intro cycle member
    rw [period]
    exact lt_nextNumber member

/-! The accesses of a call -/

/-- What a call has chosen but not yet inserted. -/
def Placed (tiles : List (Tile Int)) : Call → Prop
  | .generating (.locating _ _ _ cycleDays) => 1 ≤ cycleDays
  | .generating (.auditing draft _ _) => Chosen tiles (draftTile draft)
  | .generating (.discounting draft _) => Chosen tiles (draftTile draft)
  | .generating (.inserting draft _ _) => Chosen tiles (draftTile draft)
  | _ => True

/-- A call that was placed stays placed. -/
theorem Placed.mono {call : Call} (placed : Placed tiles call) (kept : tiles <+: later) :
    Placed later call := by
  cases call with
  | generating generation =>
    cases generation with
    | auditing draft usage now => exact Chosen.mono placed kept
    | discounting draft amounts => exact Chosen.mono placed kept
    | inserting draft amounts discountAmount => exact Chosen.mono placed kept
    | locating isManual fleet usage cycleDays => exact placed
    | _ => trivial
  | _ => trivial

/-- A change of one invoice that leaves its tile leaves all tiles. -/
theorem mapIdx_tile {cycles : List BillingCycle} {changedId : Nat}
    {change : BillingCycle → BillingCycle} (same : ∀ row, tileOf (change row) = tileOf row) :
    (cycles.modify changedId change).map tileOf = cycles.map tileOf := by
  apply List.ext_getElem?
  intro cycleId
  rw [List.getElem?_map, List.getElem?_modify, List.getElem?_map]
  cases cycles[cycleId]? with
  | none => rfl
  | some row =>
    by_cases changed : changedId = cycleId
    · simp [changed, same]
    · simp [changed]

/-- A payment by hand leaves the tiles. -/
theorem writePayment_tiles (cycleId : Nat) (cycle : BillingCycle) (newTotalPaid paidAt : Int) :
    tilesOf (writePayment state cycleId cycle newTotalPaid paidAt) = tilesOf state :=
  mapIdx_tile fun _ => rfl

/-- A confirmed payment leaves the tiles. -/
theorem commitInvoice_tiles (transactionId : Nat) (transaction : MomoTransaction)
    (cycle : Option BillingCycle) (financialTransactionId : String) :
    tilesOf (commitInvoice state transactionId transaction cycle financialTransactionId).1 =
      tilesOf state := by
  unfold commitInvoice
  split
  · split
    · rfl
    · split
      · rw [tilesOf, restoreFleet_cycles]
        exact writePayment_tiles _ _ _ _
      · exact writePayment_tiles _ _ _ _
  · rfl

/-- A rider's payment leaves the tiles. -/
theorem commitRider_tiles (transactionId : Nat) (transaction : MomoTransaction)
    (financialTransactionId : String) :
    tilesOf (commitRider state transactionId transaction financialTransactionId) = tilesOf state := by
  unfold commitRider
  split
  · rfl
  · rfl

/-- One access of a generation. -/
theorem advanceGeneration_numbered {generation : Generation} (numbered : Numbered (tilesOf state))
    (placed : Placed (tilesOf state) (.generating generation)) :
    Numbered (tilesOf (advanceGeneration state generation).1) ∧
      tilesOf state <+: tilesOf (advanceGeneration state generation).1 ∧
      ∀ call ∈ (advanceGeneration state generation).2, Placed (tilesOf state) call := by
  cases generation with
  | requested isManual => exact ⟨numbered, List.prefix_rfl, by simp [advanceGeneration, Placed]⟩
  | configuring isManual fleet usage =>
    refine ⟨numbered, List.prefix_rfl, ?_⟩
    simpa [advanceGeneration, Placed] using one_le_cycleDays state
  | locating isManual fleet usage cycleDays =>
    rw [advanceGeneration]
    split
    · exact ⟨numbered, List.prefix_rfl, by simp⟩
    · refine ⟨numbered, List.prefix_rfl, ?_⟩
      intro call member
      rw [List.mem_singleton.mp member]
      exact nextPeriod_chosen placed { state with fleet := fleet }
  | auditing draft usage now =>
    refine ⟨numbered, List.prefix_rfl, ?_⟩
    simpa [advanceGeneration, Placed] using placed
  | discounting draft amounts =>
    refine ⟨numbered, List.prefix_rfl, ?_⟩
    simpa [advanceGeneration, Placed] using placed
  | inserting draft amounts discountAmount =>
    rw [advanceGeneration]
    by_cases taken : state.cycles.any (·.cycleNumber == draft.cycleNumber) = true
    · rw [if_pos taken]
      exact ⟨numbered, List.prefix_rfl, by simp⟩
    · rw [if_neg taken]
      have tiles : tilesOf { state with cycles := state.cycles ++
          [draftCycle state.now draft amounts discountAmount] } =
            tilesOf state ++ [draftTile draft] := by
        rw [tilesOf, List.map_append]
        rfl
      rw [tiles]
      exact ⟨numbered.insert placed (free_of_unused taken), List.prefix_append _ _,
        forall_optional trivial⟩
  | starting periodStart => exact ⟨numbered, List.prefix_rfl, by simp [advanceGeneration]⟩

/-- One access of a call. -/
theorem advance_numbered {call : Call} (numbered : Numbered (tilesOf state))
    (placed : Placed (tilesOf state) call) :
    Numbered (tilesOf (advance state call).1) ∧
      tilesOf state <+: tilesOf (advance state call).1 ∧
      ∀ next ∈ (advance state call).2, Placed (tilesOf state) next := by
  have kept : ∀ {next : BillingState} {rest : List Call}, tilesOf next = tilesOf state →
      (∀ later ∈ rest, Placed (tilesOf state) later) →
      Numbered (tilesOf next) ∧ tilesOf state <+: tilesOf next ∧
        ∀ later ∈ rest, Placed (tilesOf state) later := by
    intro next rest same unplaced
    rw [same]
    exact ⟨numbered, List.prefix_rfl, unplaced⟩
  cases call with
  | generating generation => exact advanceGeneration_numbered numbered placed
  | recording cycleId cycle dto => exact kept rfl (by simp [advance, Placed])
  | totalling cycleId cycle amount paidAt =>
    exact kept (writePayment_tiles _ _ _ _) (forall_optional trivial)
  | cancelling cycleId => exact kept rfl (by simp [advance, Placed])
  | counting =>
    rw [advance]
    split
    · exact kept rfl (by simp [Placed])
    · exact kept rfl (by simp [Placed])
  | activating => exact kept rfl (by simp [advance, Placed])
  | approving cycleId cycle isPastDue amount method reference => exact kept rfl (by simp [advance, Placed])
  | approved cycleId cycle isPastDue amount =>
    exact kept (mapIdx_tile fun _ => rfl) (forall_optional trivial)
  | restoring => exact kept rfl (by simp [advance])
  | crediting transactionId transaction cycle financialTransactionId =>
    exact kept ((commitRider_tiles _ _ _).trans (commitInvoice_tiles _ _ _ _))
      (forall_optional trivial)

/-! Runs -/

/-- What holds of the invoices and of the calls that have not finished. -/
structure Orderly (world : World) : Prop where
  numbered : Numbered (tilesOf world.billing)
  placed : ∀ call ∈ world.calls, Placed (tilesOf world.billing) call

/-- More tiles that are numbered keep the world orderly. -/
theorem Orderly.rows {world : World} (orderly : Orderly world) {billing : BillingState}
    (numbered : Numbered (tilesOf billing)) (kept : tilesOf world.billing <+: tilesOf billing) :
    Orderly { world with billing := billing } :=
  ⟨numbered, fun call member => (orderly.placed call member).mono kept⟩

/-- A call that begins has chosen nothing yet. -/
theorem Orderly.begin {world : World} (orderly : Orderly world) {calls : List Call}
    (unplaced : ∀ call ∈ calls, Placed (tilesOf world.billing) call) :
    Orderly { world with calls := world.calls ++ calls } := by
  refine ⟨orderly.numbered, ?_⟩
  intro call member
  cases List.mem_append.mp member with
  | inl old => exact orderly.placed call old
  | inr new => exact unplaced call new

/-- Every step keeps the world orderly. -/
theorem orderly_step {world next : World} {action : Action} (orderly : Orderly world)
    (moved : step world action = some next) : Orderly next := by
  cases action with
  | tick elapsed =>
    obtain rfl := Option.some.inj moved
    exact orderly.rows orderly.numbered List.prefix_rfl
  | recordPayment cycleId dto =>
    obtain rfl := Option.some.inj moved
    apply orderly.begin
    obtain none | ⟨cycle, _, begun⟩ := beginRecord_cases world.billing cycleId dto
    · simp [none]
    · simp [begun, Placed]
  | approveBillingPayment cycleId amount method reference =>
    obtain rfl := Option.some.inj moved
    apply orderly.begin
    obtain none | ⟨cycle, isPastDue, _, begun⟩ :=
      beginApproval_cases world.billing cycleId amount method reference
    · simp [none]
    · simp [begun, Placed]
  | confirmPayment transactionId financialTransactionId =>
    rw [step] at moved
    split at moved
    · cases moved
    · obtain rfl := Option.some.inj moved
      apply orderly.begin
      obtain none | ⟨transaction, _, begun⟩ :=
        beginConfirmation_cases world.billing transactionId financialTransactionId
      · simp [none]
      · simp [begun, Placed]
  | generateCycleForFleet isManual =>
    obtain rfl := Option.some.inj moved
    apply orderly.begin
    intro call member
    rw [List.mem_singleton.mp member]
    trivial
  | proceed position =>
    obtain ⟨call, found, rfl⟩ := Option.map_eq_some_iff.mp moved
    obtain ⟨numbered, kept, rest⟩ := advance_numbered orderly.numbered
      (orderly.placed call (List.mem_of_getElem? found))
    refine ⟨numbered, ?_⟩
    intro other member
    cases List.mem_append.mp member with
    | inl old => exact (orderly.placed other (List.mem_of_mem_eraseIdx old)).mono kept
    | inr new => exact (rest other new).mono kept

/-- Every occurrence keeps the world orderly. -/
theorem orderly_occur {world next : World} {event : Event} (orderly : Orderly world)
    (occurred : occur world event = some next) : Orderly next := by
  cases event with
  | call action => exact orderly_step orderly occurred
  | operate operation =>
    obtain rfl := Option.some.inj occurred
    have operated := operateCycle_numbered operation orderly.numbered
    exact orderly.rows operated.1 operated.2
  | updateFleet fleet =>
    obtain rfl := Option.some.inj occurred
    exact orderly.rows orderly.numbered List.prefix_rfl
  | updateConfig config =>
    obtain rfl := Option.some.inj occurred
    exact orderly.rows orderly.numbered List.prefix_rfl
  | giveUp position =>
    obtain rfl := Option.some.inj occurred
    exact ⟨orderly.numbered,
      fun call member => orderly.placed call (List.mem_of_mem_eraseIdx member)⟩

/-- A fleet begins with its first invoice, or with none. -/
theorem begins_numbered {start : BillingState} (begins : Begins start) : Numbered (tilesOf start) := by
  have single : ∀ (now : Int) (config : Option BillingConfig) (rate : Int),
      Numbered [tileOf (firstCycle now config rate)] := by
    intro now config rate
    have atLeastOneDay : 1 ≤ (config.map (·.billingCycleDays)).getD 7 := by
      cases config with
      | none => decide
      | some settings => exact settings.atLeastOneDay
    refine ⟨tiled_singleton (lt_addDays now atLeastOneDay), ?_⟩
    intro tile only
    obtain rfl := Option.some.inj only
    rfl
  cases begins with
  | unbilled _ empty =>
    rw [tilesOf, empty]
    exact numbered_nil
  | registerFleet now config usage discounts id dto => exact single now config _
  | registerSelfDriver now config usage discounts id dto => exact single now config _

/-- Every run keeps the world orderly. -/
theorem orderly_reached {start reached : World} {events : List Event} (orderly : Orderly start)
    (completed : run occur start events = some reached) : Orderly reached :=
  invariant_reached Orderly (fun _ _ _ held _ occurred => orderly_occur held occurred) orderly
    (along_true occur start events) completed

/-- Whatever generations interleave, the invoices of a fleet are numbered from one on, no
period is empty, and each begins where the one before it ends. -/
theorem periods_tile {start reached : World} {events : List Event} (begins : Begins start.billing)
    (quiet : start.calls = []) (completed : run occur start events = some reached)
    {position : Nat} {row : BillingCycle}
    (found : reached.billing.cycles[position]? = some row) :
    row.cycleNumber = position + 1 ∧ row.periodStart < row.periodEnd ∧
      ∀ next, reached.billing.cycles[position + 1]? = some next → next.periodStart = row.periodEnd := by
  have initially : Orderly start := by
    refine ⟨begins_numbered begins, ?_⟩
    rw [quiet]
    intro call member
    cases member
  obtain ⟨⟨tiled, first⟩, _⟩ := orderly_reached initially completed
  have tile : ∀ {other : Nat} {cycle : BillingCycle},
      reached.billing.cycles[other]? = some cycle →
        (tilesOf reached.billing)[other]? = some (tileOf cycle) := by
    intro other cycle present
    rw [tilesOf, List.getElem?_map, present, Option.map_some]
  refine ⟨?_, tiled.nonempty _ (List.mem_of_getElem? (tile found)), ?_⟩
  · cases begun : (tilesOf reached.billing).head? with
    | none =>
      rw [List.head?_eq_none_iff] at begun
      have absent := tile found
      rw [begun] at absent
      cases absent
    | some one =>
      have number := tiled.number_eq begun position (tile found)
      rw [first one begun, Nat.add_comm] at number
      exact number
  · intro next later
    exact (tiled.follows (tile found) (tile later)).2

/-- Two generations choose the same number, and the second one to insert it fails. -/
def racingEvents : List Event :=
  .call (.generateCycleForFleet true) :: .call (.generateCycleForFleet true) ::
    (List.replicate 6 [.call (.proceed 0), .call (.proceed 0)]).flatten

/-- Two generations that race write one invoice. -/
theorem periods_tile_racing :
    ∃ (reached : World) (row : BillingCycle),
      run occur ⟨unbilledState, []⟩ racingEvents = some reached ∧
      reached.billing.cycles = [row] ∧ row.cycleNumber = 1 ∧ row.periodStart < row.periodEnd := by
  obtain ⟨reached, completed, row, only⟩ : ∃ reached : World,
      run occur ⟨unbilledState, []⟩ racingEvents = some reached ∧
        ∃ row, reached.billing.cycles = [row] := ⟨_, rfl, _, rfl⟩
  have found : reached.billing.cycles[0]? = some row := by rw [only, List.getElem?_cons_zero]
  have placed := periods_tile (.unbilled unbilledState rfl) rfl completed found
  exact ⟨reached, row, completed, only, placed.1, placed.2.1⟩

end EmotoFleet.PeriodTiling
