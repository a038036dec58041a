import EmotoFleet.Foundations.Interleavings
import EmotoFleet.Foundations.Tables
import EmotoFleet.Foundations.WhiteSpace
import Mathlib.Data.List.Pairwise

/-!
# E-mails and phones of user accounts

A sign-in looks for one account with the e-mail or the phone that was entered, in all
fleets. The database keeps e-mails and phones apart inside a fleet only, and compares
them as they were typed. The operations that write accounts look for a holder before they
write, each in its own way: the public ones and those on riders in all fleets, those of the
headquarters in one fleet, and the one that creates an insurer not at all. Between such a
read and the write other calls make theirs.

What the accounts hold besides is left out, as are the reasons to fail that have nothing
to do with an identity; a call that fails for one of those is one that goes no further.
-/

namespace EmotoFleet.Accounts

open EmotoFleet.Runs EmotoFleet.Interleavings
open WhiteSpace (trim)

/-- The keys of accounts. -/
abbrev UserId := Nat

/-- The keys of fleets. -/
abbrev FleetId := Nat

/-- The roles of accounts. -/
inductive UserRole where
  | OWNER
  | ADMIN
  | DISPATCHER
  | TECH
  | INSURER
  | RIDER
  deriving DecidableEq, Repr

/-- An account with what it can be found by. -/
structure User where
  id : UserId
  fleetId : FleetId
  role : UserRole
  email : Option String
  phone : Option String
  deriving DecidableEq, Repr

/-- The statuses of an invite. -/
inductive InviteStatus where
  | ACTIVE
  | USED
  | EXPIRED
  | REVOKED
  deriving DecidableEq, Repr

/-- An invite, with the address that it was sent to. -/
structure RegistrationInvite where
  id : Nat
  tokenHash : String
  fleetId : FleetId
  role : UserRole
  email : Option String
  phone : Option String
  maxUses : Int
  usedCount : Int
  status : InviteStatus
  expiresAt : Int
  deriving DecidableEq, Repr

/-- What the operations read and write besides the accounts: the fleets, the invites and
the e-mails that were confirmed by a code. -/
structure Records where
  fleets : List FleetId
  invites : List RegistrationInvite
  emailVerified : List String

/-- The tables. New rows are numbered by `nextId`. -/
structure Tables where
  users : List User
  nextId : Nat
  records : Records

/-- The codes of the database for a value that is not unique, a reference to a missing
row, and a row to update that is missing. -/
inductive DatabaseError where
  | P2002
  | P2003
  | P2025
  deriving DecidableEq, Repr

/-- The failures of a call. Those of the database pass through where nothing catches them. -/
inductive Failure where
  | badRequest (message : String)
  | conflict (message : String)
  | forbidden (message : String)
  | notFound (message : String)
  | database (error : DatabaseError)
  deriving DecidableEq, Repr

/-- The two unique indices, over the fleet with the e-mail and with the phone. Rows
without a value do not collide. -/
def collides (left right : User) : Bool :=
  decide (left.fleetId = right.fleetId) &&
    (left.email.isSome && decide (left.email = right.email) ||
      left.phone.isSome && decide (left.phone = right.phone))

/-- Store a row in place of the one with its identity, if there is one. -/
def put (tables : Tables) (row : User) : Except DatabaseError Tables :=
  if tables.users.any fun other => decide (other.id ≠ row.id) && collides other row then
    .error .P2002
  else
    .ok { tables with users := tables.users.filter (fun other => other.id ≠ row.id) ++ [row] }

/-- One transaction. In an update `none` leaves a column as it is. -/
inductive Write where
  | createFleet (role : UserRole) (email phone : Option String)
  | createUser (fleetId : FleetId) (role : UserRole) (email phone : Option String)
    (change : Records → Except DatabaseError Records)
  | updateUser (id : UserId) (role : Option UserRole) (email phone : Option (Option String))
  | changeRecords (change : Records → Records)

/-- An account after an update of some columns. -/
def updated (user : User) (role : Option UserRole) (email phone : Option (Option String)) : User :=
  { user with
    role := role.getD user.role
    email := email.getD user.email
    phone := phone.getD user.phone }

/-- An account by its key. -/
def findUser (tables : Tables) (id : UserId) : Option User :=
  tables.users.find? fun user => decide (user.id = id)

/-- The account that a transaction stores. -/
def row (tables : Tables) : Write → Option User
  | .createFleet role email phone => some ⟨tables.nextId, tables.nextId + 1, role, email, phone⟩
  | .createUser fleetId role email phone _ => some ⟨tables.nextId, fleetId, role, email, phone⟩
  | .updateUser id role email phone =>
    (findUser tables id).map fun user => updated user role email phone
  | .changeRecords _ => none

/-- What the database does with a write. -/
def commit (tables : Tables) : Write → Except DatabaseError Tables
  | .createFleet role email phone =>
    put { tables with
        nextId := tables.nextId + 2
        records := { tables.records with fleets := tables.records.fleets ++ [tables.nextId + 1] } }
      ⟨tables.nextId, tables.nextId + 1, role, email, phone⟩
  | .createUser fleetId role email phone change =>
    match change tables.records with
    | .error error => .error error
    | .ok records =>
      if fleetId ∈ records.fleets then
        put { tables with nextId := tables.nextId + 1, records := records }
          ⟨tables.nextId, fleetId, role, email, phone⟩
      else .error .P2003
  | .updateUser id role email phone =>
    match findUser tables id with
    | none => .error .P2025
    | some user => put tables (updated user role email phone)
  | .changeRecords change => .ok { tables with records := change tables.records }

/-! ## The operations -/

/-- The configuration, the case mapping of the language and the hash of invite tokens. -/
structure Settings where
  authRegisterEnabled : Bool
  authPublicRegisterEnabled : Bool
  toLowerCase : String → String
  hashInviteToken : String → String

/-- A text that counts as given: neither missing nor empty. -/
def given (text : Option String) : Option String :=
  text.filter (· ≠ "")

/-- A call of the services. -/
abbrev Operation := Program Tables Write DatabaseError Failure

/-- The end of a call that is refused. -/
def fail (failure : Failure) : Operation Unit :=
  .failed failure

/-- The `OR` of a search for accounts. -/
inductive Clause where
  | email (text : String)
  | phone (text : String)

/-- The text that a clause looks for. -/
def Clause.text : Clause → String
  | .email text | .phone text => text

/-- Whether an account meets a clause. -/
def Clause.matches (user : User) : Clause → Bool
  | .email text => decide (user.email = some text)
  | .phone text => decide (user.phone = some text)

/-- The first account that meets one of the clauses. -/
def findFirst (tables : Tables) (clauses : List Clause) : Option User :=
  tables.users.find? fun user => clauses.any (·.matches user)

/-- The clauses of the identifiers that are given. -/
def orClauses (email phone : Option String) : List Clause :=
  (email.map .email).toList ++ (phone.map .phone).toList

section Operations

variable (settings : Settings)

/-- The check that an address or a number is given. -/
def assertIdentifierProvided (email phone : Option String) : Operation Unit :=
  if given email = none ∧ given phone = none then
    fail (.badRequest "Provide either email or phone")
  else pure ()

/-- Which of two identifiers an account was found by. -/
def inUse (existingUser : User) (email phone : Option String) : Option Failure :=
  if email ≠ none ∧ existingUser.email.map settings.toLowerCase = email then
    some (.conflict "Email is already in use by another account")
  else if phone ≠ none ∧ existingUser.phone = phone then
    some (.conflict "Phone number is already in use by another account")
  else none

/-- The check that no account has the address or the number. -/
def assertIdentifierUnique (email phone : Option String) : Operation Unit :=
  let email := (given email).map fun text => settings.toLowerCase (trim text)
  let phone := (given phone).map trim
  if orClauses email phone = [] then pure ()
  else .reading fun tables =>
    match findFirst tables (orClauses email phone) with
    | none => pure ()
    | some existingUser =>
      fail ((inUse settings existingUser email phone).getD
        (.conflict "Email or phone number already in use"))

/-- The check that an address was verified. -/
def assertEmailVerified (normalizedEmail : Option String) : Operation Unit :=
  match given normalizedEmail with
  | none => pure ()
  | some email => .reading fun tables =>
    if email ∈ tables.records.emailVerified then pure ()
    else fail (.badRequest "Please verify your email address using OTP first")

/-- The code of an e-mail is used up after the account is there. -/
def clearVerified (normalizedEmail : Option String) : Operation Unit :=
  match given normalizedEmail with
  | none => pure ()
  | some email =>
    .write (.changeRecords fun records =>
      { records with emailVerified := records.emailVerified.filter (· ≠ email) }) .database

/-- A value that is not unique, reported with a message of the operation. -/
def rejectedBy (message : String) : DatabaseError → Failure
  | .P2002 => .conflict message
  | error => .database error

/-- The body of a registration. -/
structure RegisterFleetDto where
  email : Option String
  phone : Option String
  isInsurance : Bool

/-- Somebody registers a fleet and its first account. -/
def registerFleet (dto : RegisterFleetDto) : Operation Unit := do
  let normalizedEmail := dto.email.map settings.toLowerCase
  unless settings.authRegisterEnabled do
    fail (.forbidden "Registration is disabled")
  unless settings.authPublicRegisterEnabled do
    fail (.forbidden "Public registration is disabled")
  assertIdentifierProvided normalizedEmail dto.phone
  assertIdentifierUnique settings normalizedEmail dto.phone
  assertEmailVerified normalizedEmail
  .write (.createFleet (if dto.isInsurance then .INSURER else .ADMIN) normalizedEmail dto.phone)
    (rejectedBy "Email or phone already exists")
  clearVerified normalizedEmail

/-- The body of a redemption. -/
structure RedeemInviteDto where
  token : String
  email : Option String
  phone : Option String

/-- The invite after one more use. The number of uses and the status go by what was read. -/
def useInvite (invite : RegistrationInvite) (records : Records) : Except DatabaseError Records :=
  if records.invites.any (fun stored => decide (stored.id = invite.id)) then
    let isFullyUsed := decide (0 < invite.maxUses ∧ invite.maxUses ≤ invite.usedCount + 1)
    .ok { records with invites := records.invites.map fun stored =>
      if stored.id = invite.id then
        { stored with
          usedCount := stored.usedCount + 1
          status := if isFullyUsed then .USED else .ACTIVE }
      else stored }
  else .error .P2025

/-- An invite is marked as expired. -/
def expireInvite (invite : RegistrationInvite) (records : Records) : Records :=
  { records with invites := records.invites.map fun stored =>
    if stored.id = invite.id then { stored with status := .EXPIRED } else stored }

/-- The e-mail and the phone that an invite asks for. -/
def matchInvite (invite : RegistrationInvite) (normalizedEmail phone : Option String) :
    Operation Unit := do
  if given invite.email ≠ none ∧ given normalizedEmail = none then
    fail (.forbidden "Email required for this invite")
  if given invite.email ≠ none ∧ invite.email ≠ normalizedEmail then
    fail (.forbidden "Email does not match invite")
  if given invite.phone ≠ none ∧ given phone = none then
    fail (.forbidden "Phone required for this invite")
  if given invite.phone ≠ none ∧ invite.phone ≠ phone then
    fail (.forbidden "Phone does not match invite")

/-- An invite becomes an account. -/
def redeemInvite (dto : RedeemInviteDto) (now : Int) : Operation Unit := do
  let normalizedEmail := dto.email.map settings.toLowerCase
  unless settings.authRegisterEnabled do
    fail (.forbidden "Registration is disabled")
  let found ← Program.read fun tables => tables.records.invites.find? fun invite =>
    decide (invite.tokenHash = settings.hashInviteToken dto.token)
  match found with
  | none => fail (.forbidden "Invite is invalid or already used")
  | some invite =>
    if invite.status ≠ .ACTIVE then
      fail (.forbidden "Invite is invalid or already used")
    if 0 < invite.maxUses ∧ invite.maxUses ≤ invite.usedCount then
      fail (.forbidden "Invite code usage limit reached")
    if invite.expiresAt ≤ now then
      .write (.changeRecords (expireInvite invite)) .database
      fail (.forbidden "Invite has expired")
    assertIdentifierProvided normalizedEmail dto.phone
    assertIdentifierUnique settings normalizedEmail dto.phone
    assertEmailVerified normalizedEmail
    matchInvite invite normalizedEmail dto.phone
    .write (.createUser invite.fleetId invite.role (normalizedEmail <|> invite.email)
      (dto.phone <|> invite.phone) (useInvite invite))
      (rejectedBy "Email or phone already exists in this fleet")
    clearVerified normalizedEmail

/-- The body of a new rider. -/
structure CreateRiderDto where
  email : Option String
  phone : Option String

/-- The transaction is returned without being awaited, so the handler for a value that is
not unique never sees its failure. -/
def createRider (actorFleetId : FleetId) (dto : CreateRiderDto) : Operation Unit := do
  let normalizedEmail := dto.email.map settings.toLowerCase
  let email := (given normalizedEmail).map trim
  let phone := (given dto.phone).map trim
  if orClauses email phone ≠ [] then
    let found ← Program.read fun tables => findFirst tables (orClauses email phone)
    match found with
    | none => pure ()
    | some existingUser =>
      fail ((inUse settings existingUser email phone).getD
        (.conflict "Email or phone already exists"))
  .write (.createUser actorFleetId .RIDER normalizedEmail dto.phone .ok) .database

/-- An update leaves the e-mail as it is without one in the request; for the phone a
request without one, `none`, differs from one that removes it, `some none`. -/
structure UpdateRiderDto where
  email : Option String
  phone : Option (Option String)

/-- Staff change a rider. -/
def updateRiderForUser (actorFleetId : FleetId) (riderId : UserId) (dto : UpdateRiderDto) :
    Operation Unit := do
  let found ← Program.read fun tables =>
    tables.users.find? fun user =>
      decide (user.id = riderId ∧ user.fleetId = actorFleetId ∧ user.role = .RIDER)
  match found with
  | none => fail (.notFound "Rider not found")
  | some rider =>
    let normalizedEmail := dto.email.map settings.toLowerCase
    let email := (given normalizedEmail).map trim
    let phone := (given dto.phone.join).map trim
    let clauses := orClauses (if normalizedEmail = rider.email then none else email)
      (if dto.phone.join = rider.phone then none else phone)
    if clauses ≠ [] then
      let existing ← Program.read fun tables => findFirst tables clauses
      match existing.bind fun existingUser => inUse settings existingUser email phone with
      | none => pure ()
      | some failure => fail failure
    .write (.updateUser riderId none (normalizedEmail.map some) dto.phone) .database

/-- The search of the headquarters for a holder, in one fleet. -/
def assertFreeInFleet (fleetId : FleetId) (clause : Option Clause) (message : String) :
    Operation Unit :=
  match clause with
  | none => pure ()
  | some clause => .reading fun tables =>
    if tables.users.any fun user => decide (user.fleetId = fleetId) && clause.matches user then
      fail (.badRequest message)
    else pure ()

/-- The body of a new account by the headquarters. -/
structure CreateUserHqDto where
  email : Option String
  phone : Option String
  role : UserRole

/-- The headquarters create an account. -/
def createUserForFleet (fleetId : FleetId) (body : CreateUserHqDto) : Operation Unit := do
  let known ← Program.read fun tables => decide (fleetId ∈ tables.records.fleets)
  unless known do
    fail (.notFound "Fleet not found")
  let normalizedEmail := body.email.map settings.toLowerCase
  assertFreeInFleet fleetId ((given normalizedEmail).map .email)
    "Email already exists in this fleet"
  assertFreeInFleet fleetId ((given body.phone).map .phone)
    "Phone number already exists in this fleet"
  .write (.createUser fleetId body.role (given normalizedEmail) (given body.phone) .ok) .database

/-- The body of a change by the headquarters. -/
structure UpdateUserHqDto where
  email : Option String
  phone : Option (Option String)
  role : Option UserRole

/-- The headquarters change an account. -/
def updateUserHq (id : UserId) (body : UpdateUserHqDto) : Operation Unit := do
  let found ← Program.read fun tables => findUser tables id
  match found with
  | none => fail (.notFound "User not found")
  | some user =>
    let normalizedEmail := body.email.map settings.toLowerCase
    assertFreeInFleet user.fleetId
      (if normalizedEmail = user.email then none else (given normalizedEmail).map .email)
      "Email already exists in this fleet"
    assertFreeInFleet user.fleetId
      (if body.phone.join = user.phone then none else (given body.phone.join).map .phone)
      "Phone number already exists in this fleet"
    .write (.updateUser id body.role (normalizedEmail.map fun email => given (some email))
      (body.phone.map given)) .database

/-- The body of a new insurer. -/
structure CreateInsurerBody where
  email : Option String
  phone : Option String
  fleetId : FleetId

/-- The headquarters create an insurer. -/
def createInsurer (body : CreateInsurerBody) : Operation Unit := do
  let known ← Program.read fun tables => decide (body.fleetId ∈ tables.records.fleets)
  unless known do
    fail (.notFound "Fleet not found")
  .write (.createUser body.fleetId .INSURER body.email body.phone fun records =>
    if body.fleetId ∈ records.fleets then .ok records else .error .P2025) .database

/-- A request to one of the operations, with the caller's fleet where it matters. The last
one stands for whatever else changes fleets, invites and confirmed e-mails. -/
inductive Request where
  | registerFleet (dto : RegisterFleetDto)
  | redeemInvite (dto : RedeemInviteDto) (now : Int)
  | createRider (actorFleetId : FleetId) (dto : CreateRiderDto)
  | updateRider (actorFleetId : FleetId) (riderId : UserId) (dto : UpdateRiderDto)
  | createUserForFleet (fleetId : FleetId) (body : CreateUserHqDto)
  | updateUserHq (id : UserId) (body : UpdateUserHqDto)
  | createInsurer (body : CreateInsurerBody)
  | changeRecords (change : Records → Records)

/-- The call that answers a request. -/
def handle : Request → Operation Unit
  | .registerFleet dto => registerFleet settings dto
  | .redeemInvite dto now => redeemInvite settings dto now
  | .createRider actorFleetId dto => createRider settings actorFleetId dto
  | .updateRider actorFleetId riderId dto => updateRiderForUser settings actorFleetId riderId dto
  | .createUserForFleet fleetId body => createUserForFleet settings fleetId body
  | .updateUserHq id body => updateUserHq settings id body
  | .createInsurer body => createInsurer body
  | .changeRecords change => .write (.changeRecords change) .database

end Operations

/-! ## The checks write nothing -/

section Checks

variable {settings : Settings} {allowed : Write → Prop}

/-- A refusal writes nothing. -/
theorem makes_fail (failure : Failure) : (fail failure).Makes allowed :=
  trivial

/-- The check of what is given writes nothing. -/
theorem assertIdentifierProvided_makes (email phone : Option String) :
    (assertIdentifierProvided email phone).Makes allowed :=
  Program.makes_ite (makes_fail _) trivial

/-- The search for other accounts writes nothing. -/
theorem assertIdentifierUnique_makes (email phone : Option String) :
    (assertIdentifierUnique settings email phone).Makes allowed := by
  apply Program.makes_ite
  case left => trivial
  case right =>
    intro tables
    dsimp only
    split
    case h_1 => trivial
    case h_2 => exact makes_fail _

/-- The check of an address writes nothing. -/
theorem assertEmailVerified_makes (email : Option String) :
    (assertEmailVerified email).Makes allowed := by
  rw [assertEmailVerified]
  split
  case h_1 => trivial
  case h_2 => exact fun tables => Program.makes_ite trivial (makes_fail _)

end Checks

/-! ## Accounts that share an identifier -/

section Identities

variable (settings : Settings)

/-- An e-mail as it is compared: without white space around it, in lower case. -/
def emailKey (user : User) : Option String :=
  (given user.email).map fun text => settings.toLowerCase (trim text)

/-- A number as the searches compare it. -/
def phoneKey (user : User) : Option String :=
  (given user.phone).map trim

/-- Two accounts share an address or a number, up to spelling. -/
def Shares (left right : User) : Prop :=
  (emailKey settings left ≠ none ∧ emailKey settings left = emailKey settings right) ∨
    (phoneKey left ≠ none ∧ phoneKey left = phoneKey right)

instance (left right : User) : Decidable (Shares settings left right) :=
  inferInstanceAs (Decidable (_ ∨ _))

/-- No two accounts share an e-mail or a phone. -/
def GloballyUnique (tables : Tables) : Prop :=
  tables.users.Pairwise fun left right => ¬ Shares settings left right

instance (tables : Tables) : Decidable (GloballyUnique settings tables) :=
  inferInstanceAs (Decidable (List.Pairwise _ _))

/-- No other account, of whatever fleet and in whatever spelling, holds an identifier of
the account that a transaction stores. -/
def Unheld (tables : Tables) (operation : Write) : Prop :=
  ∀ stored, row tables operation = some stored →
    ∀ other ∈ tables.users, other.id ≠ stored.id → ¬ Shares settings other stored

end Identities

/-- The primary key, and the numbers that are still free. -/
structure Sound (tables : Tables) : Prop where
  unique : (tables.users.map User.id).Nodup
  numbered : ∀ user ∈ tables.users, user.id < tables.nextId

section Commits

variable {settings : Settings} {tables written : Tables} {stored : User}

/-- Sharing goes both ways. -/
theorem shares_comm {left right : User} (shared : Shares settings left right) :
    Shares settings right left := by
  cases shared with
  | inl email => exact .inl ⟨email.2 ▸ email.1, email.2.symm⟩
  | inr phone => exact .inr ⟨phone.2 ▸ phone.1, phone.2.symm⟩

/-- Storing an account replaces the one with its key. -/
theorem put_users (accepted : put tables stored = .ok written) :
    written.users = tables.users.filter (fun other => other.id ≠ stored.id) ++ [stored] ∧
      written.nextId = tables.nextId := by
  rw [put] at accepted
  split at accepted
  · cases accepted
  · cases accepted
    exact ⟨rfl, rfl⟩

/-- What an accepted transaction does to the accounts: nothing, or it stores its row,
under a fresh number or under one that is taken by the row it replaces. -/
theorem commit_users {operation : Write} (accepted : commit tables operation = .ok written) :
    (row tables operation = none ∧ written.users = tables.users ∧ written.nextId = tables.nextId) ∨
    ∃ stored, row tables operation = some stored ∧
      written.users = tables.users.filter (fun other => other.id ≠ stored.id) ++ [stored] ∧
      tables.nextId ≤ written.nextId ∧
      ((stored.id = tables.nextId ∧ tables.nextId < written.nextId) ∨
        ∃ user ∈ tables.users, user.id = stored.id) := by
  cases operation with
  | createFleet role email phone =>
    obtain ⟨users, nextId⟩ := put_users accepted
    right
    exact ⟨_, rfl, users, by rw [nextId]; simp, .inl ⟨rfl, by rw [nextId]; simp⟩⟩
  | createUser fleetId role email phone change =>
    rw [commit] at accepted
    split at accepted
    · cases accepted
    · split at accepted
      · obtain ⟨users, nextId⟩ := put_users accepted
        right
        exact ⟨_, rfl, users, by rw [nextId]; simp, .inl ⟨rfl, by rw [nextId]; simp⟩⟩
      · cases accepted
  | updateUser id role email phone =>
    rw [commit] at accepted
    cases found : findUser tables id with
    | none => rw [found] at accepted; cases accepted
    | some user =>
      rw [found] at accepted
      obtain ⟨users, nextId⟩ := put_users accepted
      right
      refine ⟨updated user role email phone, ?_, users, Nat.le_of_eq nextId.symm,
        .inr ⟨user, ?_, rfl⟩⟩
      · rw [row, found, Option.map_some]
      · exact List.mem_of_find?_eq_some found
  | changeRecords change =>
    cases accepted
    exact .inl ⟨rfl, rfl, rfl⟩

/-- The primary key stays one. -/
theorem sound_commit {operation : Write} (sound : Sound tables)
    (accepted : commit tables operation = .ok written) : Sound written := by
  cases commit_users accepted with
  | inl unchanged =>
    obtain ⟨-, users, nextId⟩ := unchanged
    constructor
    · rw [users]
      exact sound.unique
    · rw [users, nextId]
      exact sound.numbered
  | inr changed =>
    obtain ⟨stored, -, users, later, place⟩ := changed
    have below : stored.id < written.nextId := by
      rcases place with ⟨fresh, advanced⟩ | ⟨user, listed, same⟩
      · exact fresh ▸ advanced
      · exact same ▸ Nat.lt_of_lt_of_le (sound.numbered user listed) later
    constructor
    · rw [users, Tables.unique_append_iff]
      constructor
      · exact sound.unique.sublist (List.filter_sublist.map _)
      · intro listed
        obtain ⟨other, kept, same⟩ := List.mem_map.mp listed
        exact of_decide_eq_true (List.mem_filter.mp kept).2 same
    · intro user listed
      rw [users] at listed
      cases List.mem_append.mp listed with
      | inl kept => exact Nat.lt_of_lt_of_le (sound.numbered user (List.mem_filter.mp kept).1) later
      | inr last =>
        rw [List.mem_singleton.mp last]
        exact below

/-- An accepted transaction keeps the identifiers apart exactly if nobody else holds those
that it stores. -/
theorem unique_commit_iff {operation : Write} (distinct : GloballyUnique settings tables)
    (accepted : commit tables operation = .ok written) :
    GloballyUnique settings written ↔ Unheld settings tables operation := by
  cases commit_users accepted with
  | inl unchanged =>
    obtain ⟨none_, users, -⟩ := unchanged
    rw [GloballyUnique, users]
    refine iff_of_true distinct ?_
    intro stored storing
    rw [none_] at storing
    cases storing
  | inr changed =>
    obtain ⟨stored, storing, users, -⟩ := changed
    rw [GloballyUnique, users, List.pairwise_append]
    constructor
    · rintro ⟨-, -, apart⟩ other storingOther user listed different
      rw [storing] at storingOther
      cases storingOther
      exact apart user (List.mem_filter.mpr ⟨listed, decide_eq_true different⟩) stored
        (List.mem_singleton_self _)
    · intro unheld
      refine ⟨distinct.sublist List.filter_sublist, List.pairwise_singleton _ _, ?_⟩
      intro user kept last single
      rw [List.mem_singleton.mp single]
      obtain ⟨listed, different⟩ := List.mem_filter.mp kept
      exact unheld stored storing user listed (of_decide_eq_true different)

end Commits

/-- Settings under which everybody may register. -/
def sampleSettings : Settings where
  authRegisterEnabled := true
  authPublicRegisterEnabled := true
  toLowerCase text := String.ofList (text.toList.map Char.toLower)
  hashInviteToken token := token

/-! ## What the uniqueness is worth -/

section SignIn

variable {settings : Settings} {tables : Tables}

/-- Where identifiers are unique, accounts that share one are the same. -/
theorem eq_of_shares {left right : User} (distinct : GloballyUnique settings tables)
    (leftListed : left ∈ tables.users) (rightListed : right ∈ tables.users)
    (shared : Shares settings left right) : left = right := by
  by_contra different
  have symmetric : Std.Symm fun left right => ¬ Shares settings left right :=
    ⟨fun _ _ apart shared => apart (shares_comm shared)⟩
  exact distinct.forall leftListed rightListed different shared

/-- What a sign-in looks for. A phone is also tried with the prefix of the country in place
of the zero, and the other way round. -/
def loginClauses (settings : Settings) (email phone : Option String) : List Clause :=
  ((given (email.map settings.toLowerCase)).map .email).toList ++
    match given phone with
    | none => []
    | some phone =>
      .phone phone ::
        if "+250".toList.isPrefixOf phone.toList then
          [.phone (String.ofList ('0' :: phone.toList.drop 4))]
        else if "07".toList.isPrefixOf phone.toList then
          [.phone (String.ofList ("+250".toList ++ phone.toList.drop 1))]
        else []

/-- What counts as given is not empty. -/
theorem given_eq_some {given? : Option String} {text : String} (found : given given? = some text) :
    given? = some text ∧ text ≠ "" := by
  obtain ⟨same, filled⟩ := Option.filter_eq_some_iff.mp found
  exact ⟨same, of_decide_eq_true filled⟩

/-- A text that is not empty counts as given. -/
theorem given_some {text : String} (filled : text ≠ "") : given (some text) = some text :=
  Option.filter_some_pos (decide_eq_true filled)

/-- A sign-in searches for no empty text. -/
theorem loginClauses_filled {email phone : Option String} {clause : Clause}
    (sought : clause ∈ loginClauses settings email phone) : clause.text ≠ "" := by
  rcases List.mem_append.mp sought with byEmail | byPhone
  · obtain ⟨text, filled, same⟩ := Option.map_eq_some_iff.mp (Option.mem_toList.mp byEmail)
    subst same
    exact (given_eq_some filled).2
  · cases entered : given phone with
    | none => simp [entered] at byPhone
    | some text =>
      have filled := (given_eq_some entered).2
      simp only [entered, List.mem_cons] at byPhone
      rcases byPhone with plain | variant
      · subst plain
        exact filled
      · split at variant
        · rw [List.mem_singleton.mp variant]
          simp [Clause.text]
        · split at variant
          · rw [List.mem_singleton.mp variant]
            simp [Clause.text]
          · cases variant

/-- Two accounts found by one clause share the identifier in it. -/
theorem shares_of_matches {clause : Clause} {left right : User} (filled : clause.text ≠ "")
    (leftFound : clause.matches left = true) (rightFound : clause.matches right = true) :
    Shares settings left right := by
  cases clause with
  | email text =>
    left
    have found : ∀ user : User, decide (user.email = some text) = true →
        emailKey settings user = some (settings.toLowerCase (trim text)) := by
      intro user matched
      rw [emailKey, of_decide_eq_true matched, @given_some text filled, Option.map_some]
    rw [found left leftFound, found right rightFound]
    exact ⟨Option.some_ne_none _, rfl⟩
  | phone text =>
    right
    have found : ∀ user : User, decide (user.phone = some text) = true →
        phoneKey user = some (trim text) := by
      intro user matched
      rw [phoneKey, of_decide_eq_true matched, @given_some text filled, Option.map_some]
    rw [found left leftFound, found right rightFound]
    exact ⟨Option.some_ne_none _, rfl⟩

/-- When no two accounts share an identifier, each identifier that a sign-in looks for is
that of one account at most. -/
theorem login_resolves (distinct : GloballyUnique settings tables) {email phone : Option String}
    {clause : Clause} (sought : clause ∈ loginClauses settings email phone) {left right : User}
    (leftListed : left ∈ tables.users) (rightListed : right ∈ tables.users)
    (leftFound : clause.matches left = true) (rightFound : clause.matches right = true) :
    left = right :=
  eq_of_shares distinct leftListed rightListed
    (shares_of_matches (loginClauses_filled sought) leftFound rightFound)

end SignIn

end EmotoFleet.Accounts
