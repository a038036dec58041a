import EmotoFleet.Billing.BillingCron

/-!
# What generation adds

A generated invoice takes the number after the greatest one and begins where that
invoice ends. The number is therefore never taken, and a manual generation always
succeeds; an automatic one is refused only when its period has not begun.
-/

namespace EmotoFleet.Billing

variable {state next : BillingState} {cycles : List BillingCycle}

/-! The newest invoice -/

/-- One round of the search for the greatest number. -/
def laterCycle (last : Option BillingCycle) (cycle : BillingCycle) : Option BillingCycle :=
  if last.any (cycle.cycleNumber ≤ ·.cycleNumber) then last else some cycle

/-- A round comes to a row whose number is at least those seen so far, and which is
one of the rows seen. -/
theorem laterCycle_spec (last : Option BillingCycle) (cycle : BillingCycle) :
    ∃ found, laterCycle last cycle = some found ∧ cycle.cycleNumber ≤ found.cycleNumber ∧
      (∀ earlier, last = some earlier → earlier.cycleNumber ≤ found.cycleNumber) ∧
      (found = cycle ∨ last = some found) := by
  cases last with
  | none => exact ⟨cycle, rfl, le_refl _, by simp, Or.inl rfl⟩
  | some earlier =>
    by_cases greater : cycle.cycleNumber ≤ earlier.cycleNumber
    · refine ⟨earlier, by simp [laterCycle, greater], greater, ?_, Or.inr rfl⟩
      intro other same
      obtain rfl := Option.some.inj same
      exact le_refl _
    · refine ⟨cycle, by simp [laterCycle, greater], le_refl _, ?_, Or.inl rfl⟩
      intro other same
      obtain rfl := Option.some.inj same
      omega

/-- By induction on the rows, with the row found so far. -/
theorem foldl_laterCycle (start : BillingCycle) (cycles : List BillingCycle) :
    ∃ last, cycles.foldl laterCycle (some start) = some last ∧
      start.cycleNumber ≤ last.cycleNumber ∧
      (∀ cycle ∈ cycles, cycle.cycleNumber ≤ last.cycleNumber) ∧
      (last = start ∨ last ∈ cycles) := by
  induction cycles generalizing start with
  | nil => exact ⟨start, rfl, le_refl _, by simp, Or.inl rfl⟩
  | cons cycle cycles inductionHypothesis =>
    obtain ⟨found, step, most, kept, source⟩ := laterCycle_spec (some start) cycle
    obtain ⟨last, reached, above, all, origin⟩ := inductionHypothesis found
    refine ⟨last, by rw [List.foldl_cons, step, reached], le_trans (kept start rfl) above, ?_, ?_⟩
    · intro other member
      cases List.mem_cons.mp member with
      | inl same => exact same ▸ le_trans most above
      | inr later => exact all other later
    · cases origin with
      | inr later => exact Or.inr (List.mem_cons_of_mem _ later)
      | inl same =>
        cases source with
        | inl first => exact Or.inr (by simp [same, first])
        | inr before => exact Or.inl (by rw [same, Option.some.inj before])

/-- The last of more invoices is the later one. -/
theorem lastCycle_cons (cycle : BillingCycle) (cycles : List BillingCycle) :
    lastCycle (cycle :: cycles) = cycles.foldl laterCycle (some cycle) := rfl

/-- Without invoices none is the last. -/
theorem lastCycle_nil : lastCycle [] = none := rfl

/-- None is the last exactly when there are none. -/
theorem lastCycle_eq_none : lastCycle cycles = none ↔ cycles = [] := by
  cases cycles with
  | nil => simp [lastCycle_nil]
  | cons cycle cycles =>
    obtain ⟨last, reached, _⟩ := foldl_laterCycle cycle cycles
    rw [lastCycle_cons, reached]
    simp

/-- The last invoice is one of them. -/
theorem lastCycle_mem {last : BillingCycle} (found : lastCycle cycles = some last) :
    last ∈ cycles := by
  cases cycles with
  | nil => cases found
  | cons cycle cycles =>
    obtain ⟨other, reached, _, _, origin⟩ := foldl_laterCycle cycle cycles
    rw [lastCycle_cons, reached] at found
    obtain rfl := Option.some.inj found
    cases origin with
    | inl same => exact same ▸ List.mem_cons_self
    | inr later => exact List.mem_cons_of_mem _ later

/-- No invoice has a higher number than the last. -/
theorem le_lastCycle {last cycle : BillingCycle} (found : lastCycle cycles = some last)
    (member : cycle ∈ cycles) : cycle.cycleNumber ≤ last.cycleNumber := by
  cases cycles with
  | nil => cases found
  | cons first cycles =>
    obtain ⟨other, reached, above, all, _⟩ := foldl_laterCycle first cycles
    rw [lastCycle_cons, reached] at found
    obtain rfl := Option.some.inj found
    cases List.mem_cons.mp member with
    | inl same => exact same ▸ above
    | inr later => exact all cycle later

/-- The columns of an invoice that the next one is numbered and placed by. -/
def placeOf (cycle : BillingCycle) : Nat × Int := (cycle.cycleNumber, cycle.periodEnd)

/-- The place of the last invoice depends on places only. -/
theorem laterCycle_place {last other : Option BillingCycle} {cycle revised : BillingCycle}
    (found : other.map placeOf = last.map placeOf) (same : placeOf revised = placeOf cycle) :
    (laterCycle other revised).map placeOf = (laterCycle last cycle).map placeOf := by
  have number : revised.cycleNumber = cycle.cycleNumber := congrArg Prod.fst same
  cases last with
  | none =>
    cases other with
    | none => simpa [laterCycle] using same
    | some kept => simp at found
  | some earlier =>
    cases other with
    | none => simp at found
    | some kept =>
      have place : placeOf kept = placeOf earlier := Option.some.inj found
      have keptNumber : kept.cycleNumber = earlier.cycleNumber := congrArg Prod.fst place
      by_cases greater : cycle.cycleNumber ≤ earlier.cycleNumber
      · simpa [laterCycle, number, keptNumber, greater] using place
      · simpa [laterCycle, number, keptNumber, greater] using same

/-- The newest invoice keeps its place when the rows change in other columns. -/
theorem lastCycle_place {before after : List BillingCycle}
    (same : after.map placeOf = before.map placeOf) :
    (lastCycle after).map placeOf = (lastCycle before).map placeOf := by
  have folded : ∀ last other : Option BillingCycle, other.map placeOf = last.map placeOf →
      (after.foldl laterCycle other).map placeOf = (before.foldl laterCycle last).map placeOf := by
    induction before generalizing after with
    | nil =>
      obtain rfl := List.map_eq_nil_iff.mp same
      exact fun last other found => found
    | cons cycle before inductionHypothesis =>
      cases after with
      | nil => cases same
      | cons revised after =>
        obtain ⟨first, rest⟩ := List.cons.inj same
        intro last other found
        exact inductionHypothesis rest _ _ (laterCycle_place found first)
  exact folded none none rfl

/-! Generation -/

/-- The next period depends on the places of the invoices and the start of the billing. -/
theorem nextPeriod_eq {before after : BillingState}
    (cycles : after.cycles.map placeOf = before.cycles.map placeOf)
    (started : after.fleet.billingStartedAt = before.fleet.billingStartedAt)
    (trial : after.fleet.trialEndsAt = before.fleet.trialEndsAt)
    (created : after.fleet.createdAt = before.fleet.createdAt) :
    nextPeriod after = nextPeriod before := by
  have place := lastCycle_place cycles
  unfold nextPeriod
  rw [started, trial, created]
  cases found : lastCycle before.cycles with
  | none =>
    rw [found] at place
    rw [Option.map_eq_none_iff.mp place]
  | some last =>
    rw [found] at place
    obtain ⟨other, present, same⟩ := Option.map_eq_some_iff.mp place
    obtain ⟨number, finish⟩ := Prod.mk.inj same
    simp only [present, number, finish]

/-- The next invoice starts where the next period does. -/
theorem nextCycle_start : (nextCycle state).periodStart = (nextPeriod state).1 := rfl

/-- The fleet is on trial. -/
def onTrial (fleet : Fleet) (now : Int) : Prop :=
  ∃ trialEndsAt, fleet.trialEndsAt = some trialEndsAt ∧ now < trialEndsAt

/-- An invoice that is generated during a trial is paid at once. -/
theorem nextCycle_status (state : BillingState) :
    (nextCycle state).status = .PAID ∧ (nextCycle state).isTrial = true ∧
        onTrial state.fleet state.now ∨
      (nextCycle state).status = .PENDING ∧ (nextCycle state).isTrial = false ∧
        ¬ onTrial state.fleet state.now := by
  have status : (nextCycle state).status = if (nextCycle state).isTrial then .PAID else .PENDING :=
    rfl
  have trial : (nextCycle state).isTrial = true ↔ onTrial state.fleet state.now := by
    have column : (nextCycle state).isTrial =
        state.fleet.trialEndsAt.any fun trialEndsAt => decide (state.now < trialEndsAt) := rfl
    rw [column, onTrial]
    cases state.fleet.trialEndsAt with
    | none => simp
    | some trialEndsAt => simp
  rw [status, ← trial]
  by_cases ended : (nextCycle state).isTrial = true
  · exact Or.inl ⟨if_pos ended, ended, ended⟩
  · exact Or.inr ⟨if_neg ended, by simpa using ended, ended⟩

/-- Nothing is paid on the next invoice, and it asks for nothing negative. -/
theorem nextCycle_unpaid (state : BillingState) :
    (nextCycle state).totalPaid = 0 ∧ 0 ≤ (nextCycle state).totalDue :=
  ⟨rfl, le_max_left _ _⟩

/-- The number of the next invoice is greater than every number in use. -/
theorem lt_nextNumber {cycle : BillingCycle} (member : cycle ∈ state.cycles) :
    cycle.cycleNumber < (nextPeriod state).2 := by
  unfold nextPeriod
  cases found : lastCycle state.cycles with
  | none =>
    rw [lastCycle_eq_none.mp found] at member
    cases member
  | some last => exact Nat.lt_succ_of_le (le_lastCycle found member)

/-- The state with the next invoice. -/
def withNextCycle (state : BillingState) : BillingState :=
  { state with
    cycles := state.cycles ++ [nextCycle state]
    fleet :=
      { state.fleet with
        billingStartedAt := some (state.fleet.billingStartedAt.getD (nextCycle state).periodStart) } }

/-- The next invoice may be inserted. -/
theorem insertCycle_next (state : BillingState) :
    insertCycle state (nextCycle state) = .ok (withNextCycle state) := by
  have unused : state.cycles.any (·.cycleNumber == (nextCycle state).cycleNumber) = false := by
    rw [List.any_eq_false]
    intro cycle member taken
    exact absurd (beq_iff_eq.mp taken) (Nat.ne_of_lt (lt_nextNumber member))
  rw [insertCycle, unused]
  rfl

/-- A generation by hand writes the next invoice. -/
theorem generateCycleForFleet_manual (state : BillingState) :
    generateCycleForFleet state true = .ok (withNextCycle state) :=
  insertCycle_next state

/-- An automatic generation is refused exactly when its period has not begun. -/
theorem generateCycleForFleet_automatic (state : BillingState) :
    generateCycleForFleet state false =
      if state.now < (nextPeriod state).1 then
        .error (.cannotGenerate (nextPeriod state).2 (nextPeriod state).1)
      else .ok (withNextCycle state) := by
  by_cases early : state.now < (nextPeriod state).1
  · simp [generateCycleForFleet, early]
  · simp [generateCycleForFleet, early, insertCycle_next]

/-- A generation that succeeds writes the next invoice. -/
theorem generated_eq {isManual : Bool} (generated : generateCycleForFleet state isManual = .ok next) :
    next = withNextCycle state := by
  cases isManual with
  | true =>
    rw [generateCycleForFleet_manual] at generated
    exact (Except.ok.inj generated).symm
  | false =>
    rw [generateCycleForFleet_automatic] at generated
    split at generated
    · cases generated
    · exact (Except.ok.inj generated).symm

/-- A generation by hand writes the next invoice, quietly too. -/
theorem generateQuietly_manual (state : BillingState) :
    generateQuietly state true = withNextCycle state := by
  rw [generateQuietly, generateCycleForFleet_manual]

/-- What an automatic generation comes to: nothing, or an invoice whose period has
begun. -/
theorem generateQuietly_automatic (state : BillingState) :
    generateQuietly state false = state ∧ state.now < (nextPeriod state).1 ∨
      generateQuietly state false = withNextCycle state ∧ (nextPeriod state).1 ≤ state.now := by
  rw [generateQuietly, generateCycleForFleet_automatic]
  by_cases early : state.now < (nextPeriod state).1
  · exact Or.inl (by simp [early])
  · exact Or.inr (by simp [early, not_lt.mp early])

end EmotoFleet.Billing
