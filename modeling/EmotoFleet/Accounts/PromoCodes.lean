import EmotoFleet.Accounts.UserIdentities

/-!
# Promo codes of fleet registrations

A registration that quotes a promo code counts one use of the discount and links it to the
new fleet. The link is a column of the discount: a discount has one fleet, and one that has
a fleet is not usable any more.
-/

namespace EmotoFleet.Accounts

open EmotoFleet.Interleavings

/-- What a registration reads and writes of a discount. -/
structure Discount where
  id : Nat
  code : Option String
  maxUses : Option Nat
  usedCount : Nat
  validFrom : Option Int
  validUntil : Option Int
  fleetId : Option FleetId
  isActive : Bool
  deriving DecidableEq

structure PromoTables where
  tables : Tables
  discounts : List Discount

structure Registration where
  dto : RegisterFleetDto
  promoCode : Option String
  now : Int

section Registrations

variable (settings : Settings) (toUpperCase : String → String)

def isValidDates (discount : Discount) (now : Int) : Bool :=
  discount.validFrom.all (fun validFrom => decide (validFrom ≤ now)) &&
    discount.validUntil.all fun validUntil => decide (now ≤ validUntil)

/-- The tests that a quoted discount has to pass. -/
def isUsable (discount : Discount) (now : Int) : Bool :=
  discount.isActive && discount.fleetId.isNone && isValidDates discount now &&
    discount.maxUses.all fun maxUses => decide (discount.usedCount < maxUses)

def findDiscount (discounts : List Discount) (code : String) : Option Discount :=
  discounts.find? fun discount => decide (discount.code = some code)

/-- The use of one discount, counted and linked to a new fleet. -/
def useDiscount (id : Nat) (fleetId : FleetId) (stored : Discount) : Discount :=
  if stored.id = id then
    { stored with usedCount := stored.usedCount + 1, fleetId := some fleetId }
  else stored

/-- The part of the transaction that is about the promo code. -/
def applyPromoCode (discounts : List Discount) (registration : Registration) (fleetId : FleetId) :
    List Discount :=
  match given registration.promoCode with
  | none => discounts
  | some promoCode =>
    match findDiscount discounts (toUpperCase promoCode) with
    | none => discounts
    | some discount =>
      if isUsable discount registration.now then discounts.map (useDiscount discount.id fleetId)
      else discounts

/-- One registration with nothing in between: the tables after it and the new fleet. -/
def registerFleetWithCode (store : PromoTables) (registration : Registration) :
    Except Failure (PromoTables × FleetId) :=
  match (registerFleet settings registration.dto).alone commit store.tables with
  | (_, .error failure) => .error failure
  | (tables, .ok _) =>
    let fleetId := store.tables.nextId + 1
    .ok ({ tables, discounts := applyPromoCode toUpperCase store.discounts registration fleetId },
      fleetId)

/-- Registrations one after the other, none of which fails. -/
def registerFleets (store : PromoTables) :
    List Registration → Except Failure (PromoTables × List FleetId)
  | [] => .ok (store, [])
  | registration :: rest => do
    let (next, fleetId) ← registerFleetWithCode settings toUpperCase store registration
    let (final, fleetIds) ← registerFleets next rest
    return (final, fleetId :: fleetIds)

end Registrations

/-- How many of some registrations a discount is good for. -/
def usesOf (maxUses : Option Nat) (registrations : Nat) : Nat :=
  maxUses.elim registrations (min · registrations)

/-- As many of the fleets as the code is good for have the discount, and so many uses are
counted. -/
def KeepsCount (code : String) (uses : Nat) (store : PromoTables) (fleetIds : List FleetId) : Prop :=
  ∃ discount, findDiscount store.discounts code = some discount ∧
    (fleetIds.countP fun fleetId => discount.fleetId == some fleetId) = uses ∧
    discount.usedCount = uses

/-- A discount that is active, bound to no fleet and not used yet. -/
structure Offered (discount : Discount) : Prop where
  active : discount.isActive = true
  unbound : discount.fleetId = none
  unused : discount.usedCount = 0

/-- The registration quotes the code while the discount is in date. -/
structure Quotes (toUpperCase : String → String) (code : String) (discount : Discount)
    (registration : Registration) : Prop where
  quoted : (given registration.promoCode).map toUpperCase = some code
  inDate : isValidDates discount registration.now = true

section Numbers

/-- A registration that succeeds takes two new numbers, the second one for its fleet. -/
theorem registerFleet_writes (settings : Settings) (dto : RegisterFleetDto) :
    (registerFleet settings dto).Yields (fun _ writes => ∃ role email phone later,
      writes = .createFleet role email phone :: later ∧
        ∀ write ∈ later, ∃ change, write = .changeRecords change) [] := by
  refine Program.yields_ite (Program.yields_ite ?_ trivial) trivial
  simp only [Program.yields_bind, Program.yields_write]
  apply Program.yields_of_makes_nothing (assertIdentifierProvided_makes _ _) fun _ => ?_
  apply Program.yields_of_makes_nothing (assertIdentifierUnique_makes _ _) fun _ => ?_
  apply Program.yields_of_makes_nothing (assertEmailVerified_makes _) fun _ => ?_
  rw [clearVerified]
  cases given (dto.email.map settings.toLowerCase) with
  | none => exact ⟨_, _, _, [], rfl, fun write listed => (nomatch listed)⟩
  | some email =>
    refine ⟨_, _, _, [_], rfl, ?_⟩
    intro write listed
    exact ⟨_, List.mem_singleton.mp listed⟩

variable {settings : Settings} {toUpperCase : String → String}

theorem nextId_changeRecords {tables written : Tables} {writes : List Write}
    (records : ∀ write ∈ writes, ∃ change, write = .changeRecords change)
    (applied : writes.foldlM commit tables = .ok written) : written.nextId = tables.nextId := by
  induction writes generalizing tables with
  | nil =>
    cases applied
    rfl
  | cons write rest inductionHypothesis =>
    obtain ⟨change, same⟩ := records write List.mem_cons_self
    subst same
    have later := @inductionHypothesis { tables with records := change tables.records }
      fun other listed => records other (List.mem_cons_of_mem _ listed)
    exact later applied

theorem registerFleetWithCode_ok {store next : PromoTables} {registration : Registration}
    {fleetId : FleetId} (registered : registerFleetWithCode settings toUpperCase store registration =
      .ok (next, fleetId)) :
    fleetId = store.tables.nextId + 1 ∧ next.tables.nextId = store.tables.nextId + 2 ∧
      next.discounts = applyPromoCode toUpperCase store.discounts registration fleetId := by
  rw [registerFleetWithCode] at registered
  split at registered
  case h_1 => cases registered
  case h_2 tables _ returned =>
    cases registered
    refine ⟨rfl, ?_, rfl⟩
    obtain ⟨writes, shape, applied⟩ :=
      Program.alone_returned (registerFleet_writes settings registration.dto) returned
    obtain ⟨role, email, phone, later, same, records⟩ := shape
    rw [List.nil_append] at same
    subst same
    rw [List.foldlM_cons] at applied
    cases created : commit store.tables (.createFleet role email phone) with
    | error error =>
      rw [created] at applied
      cases applied
    | ok middle =>
      rw [created] at applied
      rw [nextId_changeRecords records applied]
      exact (put_users created).2

theorem registerFleets_cons {store final : PromoTables} {registration : Registration}
    {rest : List Registration} {fleetIds : List FleetId}
    (registered : registerFleets settings toUpperCase store (registration :: rest) =
      .ok (final, fleetIds)) :
    ∃ next fleetId later,
      registerFleetWithCode settings toUpperCase store registration = .ok (next, fleetId) ∧
        registerFleets settings toUpperCase next rest = .ok (final, later) ∧
        fleetIds = fleetId :: later := by
  rw [registerFleets] at registered
  cases first : registerFleetWithCode settings toUpperCase store registration with
  | error failure =>
    rw [first] at registered
    cases registered
  | ok result =>
    obtain ⟨next, fleetId⟩ := result
    rw [first] at registered
    cases second : registerFleets settings toUpperCase next rest with
    | error failure =>
      simp only [bind, Except.bind, second] at registered
      cases registered
    | ok results =>
      obtain ⟨last, later⟩ := results
      simp only [bind, Except.bind, second] at registered
      cases registered
      exact ⟨next, fleetId, later, rfl, second, rfl⟩

/-- The fleets of a sequence have numbers that were free before it. -/
theorem registerFleets_fresh {registrations : List Registration} {store final : PromoTables}
    {fleetIds : List FleetId} (registered : registerFleets settings toUpperCase store registrations =
      .ok (final, fleetIds)) :
    fleetIds.length = registrations.length ∧ ∀ fleetId ∈ fleetIds, store.tables.nextId < fleetId := by
  induction registrations generalizing store fleetIds with
  | nil =>
    cases registered
    exact ⟨rfl, fun fleetId listed => (nomatch listed)⟩
  | cons registration rest inductionHypothesis =>
    obtain ⟨next, fleetId, later, first, second, same⟩ := registerFleets_cons registered
    subst same
    obtain ⟨number, nextId, -⟩ := registerFleetWithCode_ok first
    obtain ⟨length, fresh⟩ := inductionHypothesis second
    refine ⟨by rw [List.length_cons, length, List.length_cons], ?_⟩
    intro other listed
    cases List.mem_cons.mp listed with
    | inl here =>
      rw [here, number]
      exact Nat.lt_succ_self _
    | inr afterwards =>
      have above := fresh other afterwards
      omega

end Numbers

section Uses

variable {settings : Settings} {toUpperCase : String → String} {code : String}

theorem useDiscount_code (id : Nat) (fleetId : FleetId) (stored : Discount) :
    (useDiscount id fleetId stored).code = stored.code := by
  rw [useDiscount]
  split
  case isTrue => rfl
  case isFalse => rfl

/-- What becomes of a discount whose code is quoted. -/
theorem findDiscount_applied {discounts : List Discount} {discount : Discount}
    {registration : Registration} (found : findDiscount discounts code = some discount)
    (quoted : (given registration.promoCode).map toUpperCase = some code) (fleetId : FleetId) :
    findDiscount (applyPromoCode toUpperCase discounts registration fleetId) code =
      some (if isUsable discount registration.now then
        { discount with usedCount := discount.usedCount + 1, fleetId := some fleetId }
      else discount) := by
  obtain ⟨promoCode, isGiven, same⟩ := Option.map_eq_some_iff.mp quoted
  rw [applyPromoCode, isGiven]
  dsimp only
  rw [same, found]
  dsimp only
  by_cases usable : isUsable discount registration.now = true
  case neg => rw [if_neg usable, if_neg usable, found]
  case pos =>
    rw [if_pos usable, if_pos usable, findDiscount, List.find?_map]
    have unchanged : ((fun discount : Discount => decide (discount.code = some code)) ∘
        useDiscount discount.id fleetId) = fun discount => decide (discount.code = some code) := by
      funext stored
      rw [Function.comp_apply, useDiscount_code]
    rw [unchanged, ← findDiscount, found, Option.map_some, useDiscount, if_pos rfl]

/-- A discount that is not usable any more stays as it is. -/
theorem findDiscount_unusable {registrations : List Registration} {store final : PromoTables}
    {fleetIds : List FleetId} {discount : Discount}
    (found : findDiscount store.discounts code = some discount)
    (quoted : ∀ registration ∈ registrations,
      (given registration.promoCode).map toUpperCase = some code)
    (unusable : ∀ now, isUsable discount now = false)
    (registered : registerFleets settings toUpperCase store registrations = .ok (final, fleetIds)) :
    findDiscount final.discounts code = some discount := by
  induction registrations generalizing store fleetIds with
  | nil =>
    cases registered
    exact found
  | cons registration rest inductionHypothesis =>
    obtain ⟨next, fleetId, later, first, second, -⟩ := registerFleets_cons registered
    obtain ⟨-, -, discounts⟩ := registerFleetWithCode_ok first
    have still := findDiscount_applied found (quoted registration List.mem_cons_self) fleetId
    rw [← discounts, if_neg (by simp [unusable])] at still
    exact inductionHypothesis still
      (fun other listed => quoted other (List.mem_cons_of_mem registration listed)) second

/-- Of the registrations that quote a discount exactly as many are linked to it and counted
as it is good for, if and only if that is one at most. -/
theorem promo_code_kept_iff {registrations : List Registration} {store final : PromoTables}
    {fleetIds : List FleetId} {discount : Discount}
    (found : findDiscount store.discounts code = some discount) (offered : Offered discount)
    (quotes : ∀ registration ∈ registrations, Quotes toUpperCase code discount registration)
    (registered : registerFleets settings toUpperCase store registrations = .ok (final, fleetIds)) :
    KeepsCount code (usesOf discount.maxUses registrations.length) final fleetIds ↔
      usesOf discount.maxUses registrations.length ≤ 1 := by
  cases registrations with
  | nil =>
    cases registered
    have none : usesOf discount.maxUses 0 = 0 := by
      cases discount.maxUses with
      | none => rfl
      | some maxUses => exact Nat.min_zero maxUses
    rw [List.length_nil, none]
    exact iff_of_true ⟨discount, found, rfl, offered.unused⟩ (Nat.zero_le 1)
  | cons registration rest =>
    obtain ⟨next, fleetId, later, first, second, same⟩ := registerFleets_cons registered
    subst same
    obtain ⟨number, nextId, discounts⟩ := registerFleetWithCode_ok first
    have here := quotes registration List.mem_cons_self
    have quotedLater : ∀ other ∈ rest, (given other.promoCode).map toUpperCase = some code :=
      fun other listed => (quotes other (List.mem_cons_of_mem registration listed)).quoted
    have applied := findDiscount_applied found here.quoted fleetId
    rw [← discounts] at applied
    by_cases usable : isUsable discount registration.now = true
    case neg =>
      -- the discount is good for nobody
      have exhausted : ∃ maxUses, discount.maxUses = some maxUses ∧ maxUses = 0 := by
        rw [isUsable, offered.active, offered.unbound, here.inDate, offered.unused] at usable
        cases limit : discount.maxUses with
        | none => simp [limit] at usable
        | some maxUses =>
          simp only [limit, Option.isNone_none, Bool.and_self, Option.all_some, Bool.true_and,
            decide_eq_true_eq] at usable
          exact ⟨maxUses, rfl, by omega⟩
      obtain ⟨maxUses, limit, zero⟩ := exhausted
      subst zero
      have none : usesOf discount.maxUses (rest.length + 1) = 0 := by
        rw [limit]
        exact Nat.zero_min _
      rw [if_neg usable] at applied
      have still := findDiscount_unusable applied quotedLater
        (fun now => by simp [isUsable, limit, offered.unused]) second
      rw [List.length_cons, none]
      refine iff_of_true ⟨discount, still, ?_, offered.unused⟩ (Nat.zero_le 1)
      rw [offered.unbound]
      exact List.countP_eq_zero.mpr fun fleetId _ => by simp
    case pos =>
      rw [if_pos usable, offered.unused] at applied
      have bound := findDiscount_unusable applied quotedLater (fun now => by simp [isUsable]) second
      have some_ : 1 ≤ usesOf discount.maxUses (rest.length + 1) := by
        rw [isUsable, Bool.and_eq_true, offered.unused] at usable
        cases limit : discount.maxUses with
        | none => exact Nat.succ_le_succ (Nat.zero_le _)
        | some maxUses =>
          have positive : 0 < maxUses := by simpa [limit] using usable.2
          exact Nat.le_min.mpr ⟨positive, Nat.succ_le_succ (Nat.zero_le _)⟩
      -- the later fleets have other numbers than the one that is linked
      have apart : later.countP (fun other => some fleetId == some other) = 0 := by
        apply List.countP_eq_zero.mpr
        intro other listed linked
        have above := (registerFleets_fresh second).2 other listed
        have same : fleetId = other := Option.some.inj (eq_of_beq linked)
        rw [nextId, ← same, number] at above
        exact absurd above (by simp)
      rw [List.length_cons]
      constructor
      · rintro ⟨final, foundFinal, -, counted⟩
        rw [bound] at foundFinal
        cases foundFinal
        exact counted.ge
      · intro single
        have one : usesOf discount.maxUses (rest.length + 1) = 1 := Nat.le_antisymm single some_
        rw [one]
        refine ⟨_, bound, ?_, rfl⟩
        dsimp only
        rw [List.countP_cons, apart]
        simp

end Uses

/-- A promo code that nobody has used yet. -/
def samplePromo (maxUses : Option Nat) : Discount where
  id := 7
  code := some "WELCOME50"
  maxUses := maxUses
  usedCount := 0
  validFrom := none
  validUntil := some 1000
  fleetId := none
  isActive := true

def promoTables (discount : Discount) (users : List User) (nextId : Nat) (fleets : List FleetId) :
    PromoTables where
  tables := { users, nextId, records := ⟨fleets, [], []⟩ }
  discounts := [discount]

/-- Two fleets are registered with the code. -/
def promoRegistrations : List Registration :=
  [⟨⟨none, some "0788000001", false⟩, some "WELCOME50", 10⟩,
    ⟨⟨none, some "0788000002", false⟩, some "WELCOME50", 20⟩]

/-- The tables after them: the first fleet has the discount. -/
def promoRegistered (maxUses : Option Nat) : PromoTables :=
  promoTables { samplePromo maxUses with usedCount := 1, fleetId := some 2 }
    [⟨1, 2, .ADMIN, none, some "0788000001"⟩, ⟨3, 4, .ADMIN, none, some "0788000002"⟩] 5 [2, 4]

theorem samplePromo_offered (maxUses : Option Nat) : Offered (samplePromo maxUses) :=
  ⟨rfl, rfl, rfl⟩

theorem promoRegistrations_quote (maxUses : Option Nat) : ∀ registration ∈ promoRegistrations,
    Quotes (fun text => text) "WELCOME50" (samplePromo maxUses) registration := by
  intro registration listed
  simp only [promoRegistrations, List.mem_cons, List.not_mem_nil, or_false] at listed
  rcases listed with same | same
  · subst same
    exact ⟨rfl, rfl⟩
  · subst same
    exact ⟨rfl, rfl⟩

/-- A code for one fleet is kept. -/
theorem promo_code_kept_iff_one :
    KeepsCount "WELCOME50" 1 (promoRegistered (some 1)) [2, 4] := by
  have found : findDiscount (promoTables (samplePromo (some 1)) [] 1 []).discounts "WELCOME50" =
      some (samplePromo (some 1)) := rfl
  have registered : registerFleets sampleSettings (fun text => text)
      (promoTables (samplePromo (some 1)) [] 1 []) promoRegistrations =
        .ok (promoRegistered (some 1), [2, 4]) := rfl
  exact (promo_code_kept_iff found (samplePromo_offered (some 1)) (promoRegistrations_quote (some 1))
    registered).mpr (Nat.le_refl 1)

/-- Of two fleets with a code that is good for both, one has the discount. -/
theorem promo_code_kept_once :
    ¬ ∀ settings toUpperCase code store registrations final fleetIds discount,
      findDiscount store.discounts code = some discount → Offered discount →
      (∀ registration ∈ registrations, Quotes toUpperCase code discount registration) →
      registerFleets settings toUpperCase store registrations = .ok (final, fleetIds) →
      KeepsCount code (usesOf discount.maxUses registrations.length) final fleetIds := by
  intro always
  have both := always sampleSettings (fun text => text) "WELCOME50"
    (promoTables (samplePromo (some 2)) [] 1 []) promoRegistrations (promoRegistered (some 2)) [2, 4]
    (samplePromo (some 2)) rfl (samplePromo_offered (some 2)) (promoRegistrations_quote (some 2)) rfl
  obtain ⟨discount, found, -, counted⟩ := both
  cases found
  exact absurd counted (by decide)

end EmotoFleet.Accounts
