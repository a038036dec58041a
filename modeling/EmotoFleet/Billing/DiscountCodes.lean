import EmotoFleet.Access.FleetTables
import EmotoFleet.Billing.BillingCycles
import EmotoFleet.Foundations.Runs

/-!
# What a discount takes off an amount

The headquarters create and change discounts; a registration counts a use. The discount of an
amount is computed twice: for somebody who quotes the code, and for an invoice by active days
that is reconciled. Both take a percentage without a bound, and only the second rounds a
fixed amount.
-/

namespace EmotoFleet.DiscountCodes

open EmotoFleet.Billing
open EmotoFleet.Access (toFixed)
open Doubles Runs

/-- What a discount may be taken off. -/
inductive DiscountTarget where
  | SETUP_FEE | SUBSCRIPTION | BOTH
deriving DecidableEq

/-- A discount as the table has it. -/
structure DiscountRow extends Discount where
  name : String
  code : Option String
  appliesTo : DiscountTarget
  maxUses : Option Int
  usedCount : Int
  validFrom : Option Int
  validUntil : Option Int
  fleetId : Option String
  isActive : Bool
deriving DecidableEq

/-- A request that passed its validation. -/
structure CreateDiscountDto where
  name : String
  code : Option String
  type : DiscountType
  value : ℚ
  appliesTo : DiscountTarget
  maxUses : Option Int
  validFrom : Option Int
  validUntil : Option Int
  fleetId : Option String
  isActive : Option Bool
  value_min : 0 ≤ value
  maxUses_min : ∀ uses ∈ maxUses, 1 ≤ uses

/-- Fields that are not given stay as they are; a column without a value may be emptied. -/
structure UpdateDiscountDto where
  name : Option String
  code : Option (Option String)
  type : Option DiscountType
  value : Option ℚ
  appliesTo : Option DiscountTarget
  maxUses : Option (Option Int)
  validFrom : Option Int
  validUntil : Option Int
  fleetId : Option (Option String)
  isActive : Option Bool
  value_min : ∀ given ∈ value, 0 ≤ given
  maxUses_min : ∀ given ∈ maxUses, ∀ uses ∈ given, 1 ≤ uses

/-- Why a request about discounts is refused. -/
inductive DiscountError where
  /-- "Discount with ID … not found" -/
  | notFound (id : String)
  /-- "Discount code … already exists" -/
  | alreadyExists (code : String)
  /-- What the database refuses is an internal error. -/
  | refused
  /-- "Invalid or inactive discount code" -/
  | invalidOrInactive
  /-- "This discount code is not valid for your fleet" -/
  | otherFleet
  /-- "This discount code is not valid yet" -/
  | notValidYet
  /-- "This discount code has expired" -/
  | expired
  /-- "This discount code usage limit has been reached" -/
  | usageLimit
  /-- "This discount is only applicable to …" -/
  | notApplicable (appliesTo : DiscountTarget)
deriving DecidableEq

/-- The table of discounts. -/
abbrev DiscountTable := List DiscountRow

section Service

variable (toUpperCase : String → String)

/-- The discount with a code. -/
def findByCode (table : DiscountTable) (code : String) : Option DiscountRow :=
  table.find? fun row => decide (row.code = some code)

/-- The column keeps two decimals and eight digits before the point. -/
def column (value : ℚ) : Except DiscountError ℚ :=
  if toFixed 2 value < 10 ^ 8 then .ok (toFixed 2 value) else .error .refused

/-- A code belongs to one row. -/
def codeFree (table : DiscountTable) (code : Option String) : Bool :=
  code.all fun code => (findByCode table code).isNone

/-- A code that is looked up is stored in upper case. -/
def storedCode (lookedUp otherwise : Option String) : Option String :=
  if lookedUp.isSome then lookedUp.map toUpperCase else otherwise

/-- A new discount. -/
def createDiscount (table : DiscountTable) (id : String) (dto : CreateDiscountDto) :
    Except DiscountError DiscountTable :=
  let given := dto.code.filter (· != "")
  let code := storedCode toUpperCase given dto.code
  if given.any fun code => (findByCode table (toUpperCase code)).isSome then
    .error (.alreadyExists (given.getD ""))
  else if table.any (·.id == id) || !codeFree table code then .error .refused
  else (column dto.value).map fun value => table ++ [{
    id, code, value
    name := dto.name
    type := dto.type
    appliesTo := dto.appliesTo
    maxUses := dto.maxUses
    usedCount := 0
    validFrom := dto.validFrom
    validUntil := dto.validUntil
    fleetId := dto.fleetId
    isActive := dto.isActive.getD true }]

/-- The row after an update; a code that only differs in case is stored as it was given. -/
def updated (current : DiscountRow) (dto : UpdateDiscountDto) (code : Option String) (value : ℚ) :
    DiscountRow where
  id := current.id
  name := dto.name.getD current.name
  code := code
  type := dto.type.getD current.type
  value := value
  appliesTo := dto.appliesTo.getD current.appliesTo
  maxUses := dto.maxUses.getD current.maxUses
  usedCount := current.usedCount
  validFrom := dto.validFrom.orElse fun _ => current.validFrom
  validUntil := dto.validUntil.orElse fun _ => current.validUntil
  fleetId := dto.fleetId.getD current.fleetId
  isActive := dto.isActive.getD current.isActive

/-- A changed discount. -/
def updateDiscount (table : DiscountTable) (id : String) (dto : UpdateDiscountDto) :
    Except DiscountError DiscountTable :=
  match table.find? (·.id == id) with
  | none => .error (.notFound id)
  | some current =>
    let changed := (dto.code.join.filter (· != "")).filter fun code =>
      decide (some (toUpperCase code) ≠ current.code)
    let code := storedCode toUpperCase changed (dto.code.getD current.code)
    if changed.any fun code => (findByCode table (toUpperCase code)).isSome then
      .error (.alreadyExists (changed.getD ""))
    else if !codeFree (table.filter (·.id != id)) code then .error .refused
    else (dto.value.elim (.ok current.value) column).map fun value =>
      table.map fun row => if row.id = id then updated current dto code value else row

/-- A deleted discount. -/
def deleteDiscount (table : DiscountTable) (id : String) : Except DiscountError DiscountTable :=
  if table.any (·.id == id) then .ok (table.filter (·.id != id)) else .error (.notFound id)

/-- A registration counts a use and links the discount to the new fleet. -/
def countUse (table : DiscountTable) (id fleetId : String) : DiscountTable :=
  table.map fun row =>
    if row.id = id then { row with usedCount := row.usedCount + 1, fleetId := some fleetId }
    else row

/-- The requests that change the table. -/
inductive DiscountStep where
  | create (id : String) (dto : CreateDiscountDto)
  | update (id : String) (dto : UpdateDiscountDto)
  | delete (id : String)
  | use (id fleetId : String)

/-- A request that fails leaves the table as it was. -/
def step (table : DiscountTable) : DiscountStep → Option DiscountTable
  | .create id dto => some ((createDiscount toUpperCase table id dto).toOption.getD table)
  | .update id dto => some ((updateDiscount toUpperCase table id dto).toOption.getD table)
  | .delete id => some ((deleteDiscount table id).toOption.getD table)
  | .use id fleetId => some (countUse table id fleetId)

/-- A row that the requests made of an empty table, in any number and order. -/
structure AdmittedDiscount where
  row : DiscountRow
  steps : List DiscountStep
  table : DiscountTable
  reached : run (step toUpperCase) [] steps = some table
  listed : row ∈ table

/-- What a request may be about: setup fees or subscriptions. -/
inductive Target where
  | setup | subscription
deriving DecidableEq

/-- Whether a discount is taken off what is asked for. -/
def applies (appliesTo : DiscountTarget) (target : Target) : Bool :=
  decide (appliesTo = .BOTH ∨ (target = .setup ∧ appliesTo = .SETUP_FEE) ∨
    (target = .subscription ∧ appliesTo = .SUBSCRIPTION))

/-- What a code takes off an amount. -/
def validatedAmount (discount : Discount) (originalAmount : Int) : ℚ :=
  match discount.type with
  | .PERCENTAGE => percentageOf originalAmount discount.value
  | .FIXED_AMOUNT => min (toDouble discount.value) originalAmount

/-- What a code takes off an amount. -/
def validateDiscountCode (table : DiscountTable) (code fleetId : String) (originalAmount : Int)
    (target : Target) (now : Int) : Except DiscountError (DiscountRow × ℚ) :=
  match findByCode table (toUpperCase code) with
  | none => .error .invalidOrInactive
  | some discount =>
    if discount.isActive = false then .error .invalidOrInactive
    else if (discount.fleetId.filter (· != "")).any (· != fleetId) then .error .otherFleet
    else if discount.validFrom.any fun validFrom => decide (now < validFrom) then
      .error .notValidYet
    else if discount.validUntil.any fun validUntil => decide (validUntil < now) then
      .error .expired
    else if discount.maxUses.any fun maxUses => decide (maxUses ≤ discount.usedCount) then
      .error .usageLimit
    else if applies discount.appliesTo target = false then
      .error (.notApplicable discount.appliesTo)
    else .ok (discount, validatedAmount discount.toDiscount originalAmount)

end Service

/-- What a reconciled invoice takes off its subtotal. -/
def reconciledAmount (discount : Discount) (subtotal : Int) : Int :=
  match discount.type with
  | .PERCENTAGE => percentageOf subtotal discount.value
  | .FIXED_AMOUNT => min subtotal (roundHalfUp (toDouble discount.value))

/-- Both computations yield the same whole number, between zero and the amount. -/
structure WithinAmount (discount : Discount) (amount : Int) : Prop where
  agree : validatedAmount discount amount = reconciledAmount discount amount
  nonneg : 0 ≤ reconciledAmount discount amount
  atMost : reconciledAmount discount amount ≤ amount

/-- A percentage of the amount, in double precision, does not exceed it by half or more, and
a fixed amount below it is whole. -/
def Fits (discount : Discount) (amount : Int) : Prop :=
  match discount.type with
  | .PERCENTAGE => shareOf amount discount.value < amount + 1 / 2
  | .FIXED_AMOUNT =>
    (∃ whole : Int, toDouble discount.value = whole) ∨ amount ≤ toDouble discount.value

/-! ## The table -/

section Table

variable {toUpperCase : String → String} {table next : DiscountTable} {id : String}

/-- The column keeps a value from going below zero. -/
theorem column_nonneg {value stored : ℚ} (nonneg : 0 ≤ value) (fits : column value = .ok stored) :
    0 ≤ stored := by
  unfold column at fits
  split at fits
  case isFalse => cases fits
  case isTrue =>
    cases fits
    have whole : (0 : ℤ) ≤ Access.mathRound (value * 10 ^ 2) := by
      rw [Access.mathRound, Int.le_floor]
      push_cast
      positivity
    rw [toFixed, if_neg (not_lt.mpr nonneg)]
    have cast : (0 : ℚ) ≤ (Access.mathRound (value * 10 ^ 2) : ℤ) := by exact_mod_cast whole
    positivity

/-- A result that was mapped comes from a result. -/
theorem map_ok {α β : Type} {f : α → β} {result : Except DiscountError α} {image : β}
    (mapped : result.map f = .ok image) : ∃ value, result = .ok value ∧ f value = image := by
  cases result with
  | error refusal => cases mapped
  | ok value => exact ⟨value, rfl, Except.ok.inj mapped⟩

/-- A created discount is appended, with its value in the column. -/
theorem createDiscount_ok {dto : CreateDiscountDto}
    (created : createDiscount toUpperCase table id dto = .ok next) :
    ∃ row, next = table ++ [row] ∧ column dto.value = .ok row.value := by
  simp only [createDiscount] at created
  split at created
  case isTrue => cases created
  case isFalse =>
    split at created
    case isTrue => cases created
    case isFalse =>
      obtain ⟨value, fits, rfl⟩ := map_ok created
      exact ⟨_, rfl, fits⟩

/-- An update gives one row another value, one that is checked, or leaves its value. -/
theorem updateDiscount_ok {dto : UpdateDiscountDto}
    (done : updateDiscount toUpperCase table id dto = .ok next) :
    ∃ current ∈ table, ∃ code value,
      next = (table.map fun row => if row.id = id then updated current dto code value else row) ∧
        ((∃ given ∈ dto.value, column given = .ok value) ∨ value = current.value) := by
  simp only [updateDiscount] at done
  split at done
  case h_1 => cases done
  case h_2 current found =>
    refine ⟨current, List.mem_of_find?_eq_some found, ?_⟩
    split at done
    case isTrue => cases done
    case isFalse =>
      split at done
      case isTrue => cases done
      case isFalse =>
        obtain ⟨value, source, rfl⟩ := map_ok done
        refine ⟨_, value, rfl, ?_⟩
        cases given : dto.value with
        | none =>
          rw [given] at source
          exact Or.inr (Except.ok.inj source).symm
        | some asked =>
          rw [given] at source
          exact Or.inl ⟨asked, rfl, source⟩

/-- No stored value is negative. -/
def NonnegValues (table : DiscountTable) : Prop := ∀ row ∈ table, 0 ≤ row.value

/-- Every request keeps the values from going below zero. -/
theorem step_nonneg {request : DiscountStep} (nonneg : NonnegValues table)
    (stepped : step toUpperCase table request = some next) : NonnegValues next := by
  cases request with
  | create id dto =>
    cases stepped
    cases created : createDiscount toUpperCase table id dto with
    | error refusal => exact nonneg
    | ok after =>
      obtain ⟨fresh, rfl, fits⟩ := createDiscount_ok created
      intro row listed
      rcases List.mem_append.mp listed with old | new
      · exact nonneg row old
      · cases List.mem_singleton.mp new
        exact column_nonneg dto.value_min fits
  | update id dto =>
    cases stepped
    cases done : updateDiscount toUpperCase table id dto with
    | error refusal => exact nonneg
    | ok after =>
      obtain ⟨current, listed, code, value, rfl, source⟩ := updateDiscount_ok done
      have valid : 0 ≤ value := by
        rcases source with ⟨given, asked, fits⟩ | rfl
        · exact column_nonneg (dto.value_min given asked) fits
        · exact nonneg current listed
      intro row member
      obtain ⟨old, stored, rfl⟩ := List.mem_map.mp member
      split
      · exact valid
      · exact nonneg old stored
  | delete id =>
    cases stepped
    unfold deleteDiscount
    split
    · exact fun row listed => nonneg row (List.mem_of_mem_filter listed)
    · exact nonneg
  | use id fleetId =>
    cases stepped
    intro row member
    obtain ⟨old, stored, rfl⟩ := List.mem_map.mp member
    split
    · exact nonneg old stored
    · exact nonneg old stored

/-- Any number of requests keeps the values from going below zero. -/
theorem run_nonneg {steps : List DiscountStep} (nonneg : NonnegValues table)
    (reached : run (step toUpperCase) table steps = some next) : NonnegValues next := by
  induction steps generalizing table with
  | nil =>
    cases reached
    exact nonneg
  | cons request rest ih =>
    rw [run_cons] at reached
    cases stepped : step toUpperCase table request with
    | none =>
      rw [stepped] at reached
      cases reached
    | some middle =>
      rw [stepped] at reached
      exact ih (step_nonneg nonneg stepped) reached

/-- An admitted discount is not negative. -/
theorem AdmittedDiscount.value_nonneg (discount : AdmittedDiscount toUpperCase) :
    0 ≤ discount.row.value :=
  run_nonneg (fun _ listed => (List.not_mem_nil listed).elim) discount.reached discount.row
    discount.listed

/-- A code that is accepted takes off what the formula says. -/
theorem validateDiscountCode_ok {code fleetId : String} {originalAmount now : Int}
    {target : Target} {discount : DiscountRow} {discountAmount : ℚ}
    (accepted : validateDiscountCode toUpperCase table code fleetId originalAmount target now =
      .ok (discount, discountAmount)) :
    discount ∈ table ∧ discountAmount = validatedAmount discount.toDiscount originalAmount := by
  unfold validateDiscountCode at accepted
  split at accepted
  case h_1 => cases accepted
  case h_2 found listed =>
    repeat' split at accepted
    all_goals cases accepted
    exact ⟨List.mem_of_find?_eq_some listed, rfl⟩

/-- The discount of an invoice is the one that it names. -/
theorem storedDiscount_eq {state : BillingState} {cycle : BillingCycle} {discount : Discount}
    (named : (cycle.discountId.bind fun id => state.discounts.find? (·.id == id)) = some discount)
    (subtotal : Int) : storedDiscount state cycle subtotal = reconciledAmount discount subtotal := by
  rw [storedDiscount, named]
  rfl

end Table

/-! ## The amounts -/

section Amounts

variable {discount : Discount} {amount : Int}

/-- A rounded value is at most a number exactly when it is less than a half above. -/
theorem roundHalfUp_le {value : ℚ} : roundHalfUp value ≤ amount ↔ value < amount + 1 / 2 := by
  rw [roundHalfUp, ← Int.lt_add_one_iff, Int.floor_lt]
  push_cast
  constructor
  · intro below
    linarith
  · intro below
    linarith

/-- Rounding keeps a value from going below zero. -/
theorem roundHalfUp_nonneg {value : ℚ} (nonneg : 0 ≤ value) : 0 ≤ roundHalfUp value := by
  rw [roundHalfUp, Int.le_floor]
  push_cast
  linarith

/-- A whole number is rounded to itself. -/
theorem roundHalfUp_intCast (whole : Int) : roundHalfUp whole = whole := by
  rw [roundHalfUp, Int.floor_intCast_add, Int.floor_eq_zero_iff.mpr, add_zero]
  constructor <;> norm_num

/-- Rounding does not fall below a whole number. -/
theorem le_roundHalfUp {value : ℚ} (le : amount ≤ value) : amount ≤ roundHalfUp value := by
  rw [roundHalfUp, Int.le_floor]
  linarith

/-- The share of an amount is not negative. -/
theorem shareOf_nonneg {percent : ℚ} (owed : 0 ≤ amount) (nonneg : 0 ≤ percent) :
    0 ≤ shareOf amount percent := by
  have rate : 0 ≤ toDouble (toDouble percent / 100) :=
    toDouble_nonneg (div_nonneg (toDouble_nonneg nonneg) (by norm_num))
  exact toDouble_nonneg (mul_nonneg (Int.cast_nonneg owed) rate)

/-- A percentage up to a hundred is within the amount, however it is rounded. -/
theorem fits_of_atMost_hundred (percentage : discount.type = .PERCENTAGE)
    (atMost : discount.value ≤ 100) (owed : 0 ≤ amount) (small : amount < 2 ^ 53) :
    Fits discount amount := by
  have whole : IsDouble (amount : ℚ) := ⟨amount, 0, by rwa [abs_of_nonneg owed], by norm_num, by simp⟩
  have hundred : toDouble discount.value ≤ 100 :=
    toDouble_le ⟨100, 0, by norm_num, by norm_num, by norm_num⟩ atMost
  have rate : toDouble (toDouble discount.value / 100) ≤ 1 :=
    toDouble_le ⟨1, 0, by norm_num, by norm_num, by norm_num⟩ (by linarith)
  have share : shareOf amount discount.value ≤ amount :=
    toDouble_le whole (mul_le_of_le_one_right (Int.cast_nonneg owed) rate)
  rw [Fits, percentage]
  linarith

/-- A percentage stays within the amount exactly when it fits it. -/
theorem within_percentage (percentage : discount.type = .PERCENTAGE) (nonneg : 0 ≤ discount.value) :
    WithinAmount discount amount ↔ 0 ≤ amount ∧ Fits discount amount := by
  have reconciled : reconciledAmount discount amount = roundHalfUp (shareOf amount discount.value) := by
    rw [reconciledAmount, percentage]
    rfl
  have validated : validatedAmount discount amount = reconciledAmount discount amount := by
    rw [reconciled, validatedAmount, percentage]
    rfl
  have fits : Fits discount amount ↔ reconciledAmount discount amount ≤ amount := by
    rw [Fits, percentage, reconciled, roundHalfUp_le]
  constructor
  · intro within
    exact ⟨within.nonneg.trans within.atMost, fits.mpr within.atMost⟩
  · rintro ⟨owed, condition⟩
    have share := shareOf_nonneg owed nonneg
    exact ⟨validated, reconciled ▸ roundHalfUp_nonneg share, fits.mp condition⟩

/-- A fixed discount stays within the amount exactly when it fits it. -/
theorem within_fixed (fixed : discount.type = .FIXED_AMOUNT) (nonneg : 0 ≤ discount.value) :
    WithinAmount discount amount ↔ 0 ≤ amount ∧ Fits discount amount := by
  have reconciled : reconciledAmount discount amount =
      min amount (roundHalfUp (toDouble discount.value)) := by
    rw [reconciledAmount, fixed]
  have validated : validatedAmount discount amount = min (toDouble discount.value) amount := by
    rw [validatedAmount, fixed]
  rw [Fits, fixed]
  constructor
  · intro within
    refine ⟨within.nonneg.trans within.atMost, ?_⟩
    rcases le_total (amount : ℚ) (toDouble discount.value) with covered | short
    · exact Or.inr covered
    · -- A fixed amount that is not cut off is handed on as it is, so it has to be whole.
      have agree := within.agree
      rw [validated, min_eq_left short] at agree
      exact Or.inl ⟨_, agree⟩
  · rintro ⟨owed, condition⟩
    have rounded := roundHalfUp_nonneg (toDouble_nonneg nonneg)
    constructor
    case agree =>
      rw [validated, reconciled]
      rcases condition with ⟨whole, same⟩ | covered
      · rw [same, roundHalfUp_intCast, min_comm]
        exact (Int.cast_min).symm
      · rw [min_eq_right covered, min_eq_left (le_roundHalfUp covered)]
    case nonneg =>
      rw [reconciled]
      exact le_min owed rounded
    case atMost =>
      rw [reconciled]
      exact min_le_left _ _

/-- What a discount takes off is the same whole number in both computations and within the
amount, exactly where the amount is not negative and the discount fits it. -/
theorem discounts_within_iff {toUpperCase : String → String}
    (discount : AdmittedDiscount toUpperCase) (amount : Int) :
    (∀ table code fleetId target now found taken,
        validateDiscountCode toUpperCase table code fleetId amount target now = .ok (found, taken) →
        taken = validatedAmount found.toDiscount amount) ∧
      (∀ (state : BillingState) (cycle : BillingCycle),
        (cycle.discountId.bind fun id => state.discounts.find? (·.id == id)) =
          some discount.row.toDiscount →
        storedDiscount state cycle amount = reconciledAmount discount.row.toDiscount amount) ∧
      (WithinAmount discount.row.toDiscount amount ↔
        0 ≤ amount ∧ Fits discount.row.toDiscount amount) := by
  refine ⟨?_, ?_, ?_⟩
  · intro table code fleetId target now found taken accepted
    exact (validateDiscountCode_ok accepted).2
  · intro state cycle named
    exact storedDiscount_eq named amount
  · cases type : discount.row.type with
    | PERCENTAGE => exact within_percentage type discount.value_nonneg
    | FIXED_AMOUNT => exact within_fixed type discount.value_nonneg

end Amounts

/-- A request for a discount of more than the whole amount. -/
def oneAndAHalf : CreateDiscountDto where
  name := "Launch"
  code := some "LAUNCH"
  type := .PERCENTAGE
  value := 150
  appliesTo := .SUBSCRIPTION
  maxUses := none
  validFrom := none
  validUntil := none
  fleetId := none
  isActive := none
  value_min := by norm_num
  maxUses_min := by intro uses given; cases given

/-- A discount of one and a half times the price. -/
def launchRow : DiscountRow where
  id := "d1"
  type := .PERCENTAGE
  value := 150
  name := "Launch"
  code := some "LAUNCH"
  appliesTo := .SUBSCRIPTION
  maxUses := none
  usedCount := 0
  validFrom := none
  validUntil := none
  fleetId := none
  isActive := true

/-- The discount is accepted. -/
theorem launch_created : createDiscount id [] "d1" oneAndAHalf = .ok [launchRow] := by
  have fits : column 150 = .ok 150 := by decide +kernel
  show (column 150).map _ = _
  rw [fits]
  rfl

/-- The discount as the table came to have it. -/
def launchDiscount : AdmittedDiscount id where
  row := launchRow
  steps := [.create "d1" oneAndAHalf]
  table := [launchRow]
  reached := by
    rw [run_cons, step, launch_created]
    rfl
  listed := List.mem_singleton_self _

/-- The discount of an invoice of a thousand is fifteen hundred. -/
theorem launch_beyond_amount :
    validateDiscountCode id launchDiscount.table "LAUNCH" "f1" 1000 .subscription 0 =
        .ok (launchDiscount.row, 1500) ∧
      reconciledAmount launchDiscount.row.toDiscount 1000 = 1500 ∧
      ¬ WithinAmount launchDiscount.row.toDiscount 1000 := by
  have taken : reconciledAmount launchRow.toDiscount 1000 = 1500 := by decide +kernel
  refine ⟨by decide +kernel, taken, fun within => ?_⟩
  have atMost : reconciledAmount launchRow.toDiscount 1000 ≤ 1000 := within.atMost
  rw [taken] at atMost
  omega

end EmotoFleet.DiscountCodes
