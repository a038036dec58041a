import EmotoFleet.Accounts.UserIdentities

/-!
# The accounts of a fleet and those who change them

Every request loads the account that its token names and goes on with that copy. The owners
and the admins of a fleet change the roles of its other accounts and remove them, its staff
looks after the riders, and the owners and the admins of the fleet with the name of the
headquarters reach the accounts of all fleets. Between the load and the write of one request
others make theirs, so that whoever writes may have lost the rank by then.

Left out is what does not bear on roles: identities, passwords, profiles and the use of an
invite, and the failures of these. A call that fails for one of them is one that goes no
further. The database decides whether an account can be deleted or is still referred to.
-/

namespace EmotoFleet.Team

open Accounts (UserId FleetId UserRole)
open Interleavings Runs
open Program (loadOrThrow ensure)

/-! ## The tables -/

/-- The statuses of an account. -/
inductive UserStatus where
  | INVITED
  | PENDING_SETUP
  | ACTIVE
  | SUSPENDED
  | DISABLED
  deriving DecidableEq

/-- An account, with what decides about its rights. -/
structure User where
  id : UserId
  fleetId : FleetId
  role : UserRole
  status : UserStatus
  deriving DecidableEq

/-- An update leaves a column without a value as it is. -/
def User.updated (user : User) (role : Option UserRole) (status : Option UserStatus) : User :=
  { user with role := role.getD user.role, status := status.getD user.status }

/-- An invite into a fleet, under some role. -/
structure RegistrationInvite where
  token : Nat
  fleetId : FleetId
  role : UserRole
  deriving DecidableEq

/-- The tables, with the keys of the accounts and their references to fleets. Nothing has been
numbered from `nextId` on. -/
structure TeamTables where
  users : List User
  fleetName : FleetId → Option String
  invites : List RegistrationInvite
  nextId : Nat
  userKeys : (users.map User.id).Nodup
  numbered : ∀ user ∈ users, user.id < nextId
  fleetsNumbered : ∀ fleetId, (fleetName fleetId).isSome → fleetId < nextId
  fleets : ∀ user ∈ users, (fleetName user.fleetId).isSome

/-- The name of the fleet of the headquarters. -/
def hqName : String := "E-Moto HQ"

/-- A caller with the account and the name of its fleet. -/
structure AuthenticatedUser where
  id : UserId
  fleetId : FleetId
  fleetName : String
  role : UserRole
  status : UserStatus
  deriving DecidableEq

/-- What the database objects to: a missing fleet or a missing row. -/
inductive DatabaseError where
  | P2003
  | P2025
  deriving DecidableEq

/-- What a call may fail with. -/
inductive Failure where
  | unauthorized (message : String)
  | forbidden (message : String)
  | badRequest (message : String)
  | notFound (message : String)
  | database (error : DatabaseError)
  deriving DecidableEq

/-- The three services that change accounts which exist. -/
inductive Origin where
  | auth
  | riders
  | hq
  deriving DecidableEq

/-- One transaction. Those on accounts that exist are written with the caller. -/
inductive Write where
  | createUser (author : Option AuthenticatedUser) (fleetId : FleetId) (role : UserRole)
    (status : UserStatus)
  | createFleet (name : String) (role : UserRole) (status : UserStatus)
  | createInvite (fleetId : FleetId) (role : UserRole)
  | updateUser (origin : Origin) (author : AuthenticatedUser) (id : UserId)
    (role : Option UserRole) (status : Option UserStatus)
  | deleteUser (origin : Origin) (author : AuthenticatedUser) (id : UserId)
  | disableFleet (author : AuthenticatedUser) (fleetId : FleetId)
  | deleteFleet (author : AuthenticatedUser) (fleetId : FleetId)

namespace TeamTables

variable (tables : TeamTables)

/-- An account by its key. -/
def findUser (id : UserId) : Option User :=
  tables.users.find? fun user => decide (user.id = id)

/-- An account is found exactly if it is stored. -/
theorem findUser_iff {id : UserId} {user : User} :
    tables.findUser id = some user ↔ user ∈ tables.users ∧ user.id = id :=
  Tables.find?_key_iff tables.userKeys

/-- The tables with a new account of a fleet that is there. -/
def addUser (fleetId : FleetId) (known : (tables.fleetName fleetId).isSome) (role : UserRole)
    (status : UserStatus) : TeamTables where
  users := tables.users ++ [⟨tables.nextId, fleetId, role, status⟩]
  fleetName := tables.fleetName
  invites := tables.invites
  nextId := tables.nextId + 1
  userKeys := by
    refine (Tables.unique_append_iff _).mpr ⟨tables.userKeys, fun taken => ?_⟩
    obtain ⟨user, listed, same⟩ := List.mem_map.mp taken
    exact absurd same (tables.numbered user listed).ne
  numbered := by
    intro user listed
    cases List.mem_append.mp listed with
    | inl old => exact (tables.numbered user old).trans (Nat.lt_succ_self _)
    | inr new =>
      rw [List.mem_singleton.mp new]
      exact Nat.lt_succ_self _
  fleetsNumbered := fun fleetId known =>
    (tables.fleetsNumbered fleetId known).trans (Nat.lt_succ_self _)
  fleets := by
    intro user listed
    cases List.mem_append.mp listed with
    | inl old => exact tables.fleets user old
    | inr new =>
      rw [List.mem_singleton.mp new]
      exact known

/-- The next key is not that of a fleet. -/
theorem fleetName_fresh : tables.fleetName tables.nextId = none := by
  cases known : tables.fleetName tables.nextId with
  | none => rfl
  | some name =>
    have numbered := tables.fleetsNumbered tables.nextId (known ▸ rfl)
    exact absurd numbered (Nat.lt_irrefl _)

/-- The tables with a new fleet. -/
def addFleet (name : String) : TeamTables where
  users := tables.users
  fleetName := Function.update tables.fleetName tables.nextId (some name)
  invites := tables.invites
  nextId := tables.nextId + 1
  userKeys := tables.userKeys
  numbered := fun user listed => (tables.numbered user listed).trans (Nat.lt_succ_self _)
  fleetsNumbered := by
    intro fleetId known
    by_cases new : fleetId = tables.nextId
    · rw [new]
      exact Nat.lt_succ_self _
    · rw [Function.update_of_ne new] at known
      exact (tables.fleetsNumbered fleetId known).trans (Nat.lt_succ_self _)
  fleets := by
    intro user listed
    have known := tables.fleets user listed
    have other : user.fleetId ≠ tables.nextId := (tables.fleetsNumbered _ known).ne
    rwa [Function.update_of_ne other]

/-- The new fleet is there. -/
theorem addFleet_known (name : String) :
    ((tables.addFleet name).fleetName tables.nextId).isSome := by
  have named : (tables.addFleet name).fleetName tables.nextId = some name :=
    Function.update_self ..
  rw [named]
  rfl

/-- The tables with a new invite. -/
def addInvite (fleetId : FleetId) (role : UserRole) : TeamTables where
  users := tables.users
  fleetName := tables.fleetName
  invites := tables.invites ++ [⟨tables.nextId, fleetId, role⟩]
  nextId := tables.nextId + 1
  userKeys := tables.userKeys
  numbered := fun user listed => (tables.numbered user listed).trans (Nat.lt_succ_self _)
  fleetsNumbered := fun fleetId known =>
    (tables.fleetsNumbered fleetId known).trans (Nat.lt_succ_self _)
  fleets := tables.fleets

/-- The tables after an account has got another role or status. -/
def updateUser (id : UserId) (role : Option UserRole) (status : Option UserStatus) : TeamTables :=
  { tables with
    users := Tables.updateKey User.id id (·.updated role status) tables.users
    userKeys := by
      rw [@Tables.map_updateKey User UserId User.id tables.users _ id (·.updated role status) UserId
        User.id fun _ => rfl]
      exact tables.userKeys
    numbered := by
      intro user listed
      obtain ⟨old, stored, same⟩ := List.mem_map.mp listed
      rw [← same]
      split
      · exact tables.numbered old stored
      · exact tables.numbered old stored
    fleets := by
      intro user listed
      obtain ⟨old, stored, same⟩ := List.mem_map.mp listed
      rw [← same]
      split
      · exact tables.fleets old stored
      · exact tables.fleets old stored }

/-- The tables without an account. -/
def removeUser (id : UserId) : TeamTables :=
  { tables with
    users := tables.users.filter fun user => decide (user.id ≠ id)
    userKeys := tables.userKeys.sublist (List.filter_sublist.map _)
    numbered := fun user listed => tables.numbered user (List.mem_filter.mp listed).1
    fleets := fun user listed => tables.fleets user (List.mem_filter.mp listed).1 }

/-- Every account of the fleet is disabled. -/
def disableUsers (fleetId : FleetId) : TeamTables :=
  { tables with
    users := Tables.updateKey User.fleetId fleetId (·.updated none (some .DISABLED)) tables.users
    userKeys := by
      rw [@Tables.map_updateKey User FleetId User.fleetId tables.users _ fleetId
        (·.updated none (some .DISABLED)) UserId User.id fun _ => rfl]
      exact tables.userKeys
    numbered := by
      intro user listed
      obtain ⟨old, stored, same⟩ := List.mem_map.mp listed
      rw [← same]
      split
      · exact tables.numbered old stored
      · exact tables.numbered old stored
    fleets := by
      intro user listed
      obtain ⟨old, stored, same⟩ := List.mem_map.mp listed
      rw [← same]
      split
      · exact tables.fleets old stored
      · exact tables.fleets old stored }

/-- The fleet takes its accounts and its invites along. -/
def removeFleet (fleetId : FleetId) : TeamTables where
  users := tables.users.filter fun user => decide (user.fleetId ≠ fleetId)
  fleetName := Function.update tables.fleetName fleetId none
  invites := tables.invites.filter fun invite => decide (invite.fleetId ≠ fleetId)
  nextId := tables.nextId
  userKeys := tables.userKeys.sublist (List.filter_sublist.map _)
  numbered := fun user listed => tables.numbered user (List.mem_filter.mp listed).1
  fleetsNumbered := by
    intro other known
    by_cases gone : other = fleetId
    · rw [gone, Function.update_self] at known
      cases known
    · rw [Function.update_of_ne gone] at known
      exact tables.fleetsNumbered other known
  fleets := by
    intro user listed
    obtain ⟨stored, other⟩ := List.mem_filter.mp listed
    rw [Function.update_of_ne (of_decide_eq_true other)]
    exact tables.fleets user stored

end TeamTables

/-- What the database does with a write. -/
def commit (tables : TeamTables) : Write → Except DatabaseError TeamTables
  | .createUser _ fleetId role status =>
    if known : (tables.fleetName fleetId).isSome then
      .ok (tables.addUser fleetId known role status)
    else .error .P2003
  | .createFleet name role status =>
    .ok ((tables.addFleet name).addUser tables.nextId (tables.addFleet_known name) role status)
  | .createInvite fleetId role =>
    if (tables.fleetName fleetId).isSome then .ok (tables.addInvite fleetId role)
    else .error .P2003
  | .updateUser _ _ id role status =>
    if (tables.findUser id).isSome then .ok (tables.updateUser id role status) else .error .P2025
  | .deleteUser _ _ id =>
    if (tables.findUser id).isSome then .ok (tables.removeUser id) else .error .P2025
  | .disableFleet _ fleetId =>
    if (tables.fleetName fleetId).isSome then .ok (tables.disableUsers fleetId) else .error .P2025
  | .deleteFleet _ fleetId =>
    if (tables.fleetName fleetId).isSome then .ok (tables.removeFleet fleetId) else .error .P2025

/-! ## The guards -/

/-- Which registrations are open. -/
structure Settings where
  registerEnabled : Bool
  publicRegisterEnabled : Bool

/-- A call of the service. -/
abbrev Call := Program TeamTables Write DatabaseError Failure

/-- A caller as the guard builds one from the account. -/
def toAuthenticatedUser (tables : TeamTables) (user : User) : AuthenticatedUser where
  id := user.id
  fleetId := user.fleetId
  fleetName := (tables.fleetName user.fleetId).getD "E-Moto Fleet"
  role := user.role
  status := user.status

/-- One write, whose rejection ends the call. -/
def save (operation : Write) : Call Unit :=
  Program.write operation .database

/-- The account of the caller. -/
def loadUserOrThrow (userId : UserId) : Call AuthenticatedUser :=
  loadOrThrow (fun tables => (tables.findUser userId).map (toAuthenticatedUser tables))
    (.unauthorized "User session not found")

/-- The statuses that the guard lets in. -/
def mayEnter (status : UserStatus) : Bool :=
  status == .ACTIVE || status == .PENDING_SETUP

/-- The guard of all requests that are not public. The token is a valid one of the account. -/
def authenticateAccessToken (userId : UserId) : Call AuthenticatedUser := do
  let user ← loadUserOrThrow userId
  ensure (mayEnter user.status) (.unauthorized "User is not active")
  pure user

/-- The check of the guard for roles. -/
def requireRoles (roles : List UserRole) (user : AuthenticatedUser) : Call Unit :=
  ensure (roles.contains user.role) (.forbidden "Insufficient role")

/-- The roles that manage a fleet. -/
def managers : List UserRole := [.OWNER, .ADMIN]

/-- The roles that manage riders. -/
def riderStaff : List UserRole := [.OWNER, .ADMIN, .TECH]

/-- The check of the guard for the headquarters. -/
def requireHq (user : AuthenticatedUser) : Call Unit := do
  ensure (user.fleetName == hqName) (.forbidden "Access restricted to E-Moto HQ staff only.")
  ensure (managers.contains user.role) (.forbidden "Admin role required for HQ access.")

/-! ## Signing up -/

section Accounts

variable (settings : Settings)

/-- The check that registration is open. -/
def requireRegistration : Call Unit :=
  ensure settings.registerEnabled (.forbidden "Registration is disabled")

/-- The check that registration is open to everybody. -/
def requirePublicRegistration : Call Unit := do
  requireRegistration settings
  ensure settings.publicRegisterEnabled (.forbidden "Public registration is disabled")

/-- A member of a fleet registers an account in it. -/
def register (actor : AuthenticatedUser) (dtoRole : Option UserRole) : Call Unit := do
  requireRegistration settings
  let role := dtoRole.getD .DISPATCHER
  ensure (actor.fleetName == hqName || !(role == .OWNER || role == .INSURER))
    (.forbidden "Only E-Moto HQ superAdmin can register owner or insurer roles")
  let canAssignAnyRole := actor.role == .OWNER || actor.role == .ADMIN
  ensure (canAssignAnyRole || dtoRole.isNone || dtoRole == some .RIDER)
    (.forbidden "Only rider accounts can be created by non-admin roles")
  save (.createUser (some actor) actor.fleetId (if canAssignAnyRole then role else .RIDER) .ACTIVE)

/-- Somebody registers as a viewer of a fleet. -/
def registerPublic (fleetId : FleetId) : Call Unit := do
  requirePublicRegistration settings
  let _name ← loadOrThrow (fun tables => tables.fleetName fleetId) (.badRequest "Fleet not found")
  save (.createUser none fleetId .RIDER .ACTIVE)

/-- Somebody registers with a fleet of their own. -/
def registerSelfDriver (fullName : String) : Call Unit := do
  requireRegistration settings
  save (.createFleet (fullName ++ "'s Bike") .RIDER .PENDING_SETUP)

/-- Somebody registers a fleet. -/
def registerFleet (fleetName : String) (isInsurance : Bool) : Call Unit := do
  requirePublicRegistration settings
  save (.createFleet fleetName (if isInsurance then .INSURER else .ADMIN) .PENDING_SETUP)

/-- A member of a fleet invites somebody into it. -/
def createInvite (actor : AuthenticatedUser) (dtoRole : Option UserRole) : Call Unit := do
  requireRegistration settings
  let role := dtoRole.getD .RIDER
  ensure (!(role == .OWNER || role == .INSURER)) (.forbidden "Invite role is not allowed")
  ensure (!(role == .ADMIN) || actor.role == .OWNER)
    (.forbidden "Only owners can invite admins")
  save (.createInvite actor.fleetId role)

/-- An invite becomes an account. -/
def redeemInvite (token : Nat) : Call Unit := do
  requireRegistration settings
  let invite ← loadOrThrow
    (fun tables => tables.invites.find? fun invite => decide (invite.token = token))
    (.forbidden "Invite is invalid or already used")
  save (.createUser none invite.fleetId invite.role
    (if invite.role == .RIDER then .PENDING_SETUP else .ACTIVE))

/-! ## The accounts of one's fleet -/

/-- A manager gives an account another role. -/
def changeFleetUserRole (actor : AuthenticatedUser) (userId : UserId) (newRole : UserRole) :
    Call Unit := do
  let targetUser ← loadOrThrow
    (fun tables => (tables.findUser userId).filter fun user => decide (user.fleetId = actor.fleetId))
    (.badRequest "User not found in your fleet")
  ensure (targetUser.id != actor.id) (.badRequest "Cannot change your own role")
  let isHqStaff := actor.fleetName == hqName
  ensure (!(newRole == .INSURER || targetUser.role == .INSURER) || isHqStaff)
    (.forbidden "Only E-Moto HQ superAdmin can assign or remove insurer roles")
  ensure (actor.role == .OWNER || actor.role == .ADMIN || isHqStaff)
    (.forbidden "Only fleet owners and admins can assign user roles")
  save (.updateUser .auth actor userId (some newRole) none)

/-- `deletes` says that the database lets go of the account; where it does not, the account is
disabled. -/
def deleteFleetUser (actor : AuthenticatedUser) (userId : UserId) (deletes : Bool) :
    Call Unit := do
  let targetUser ← loadOrThrow (fun tables => tables.findUser userId) (.notFound "User not found")
  ensure (targetUser.fleetId == actor.fleetId)
    (.forbidden "Cannot modify users outside your fleet")
  ensure (targetUser.id != actor.id) (.forbidden "Cannot delete yourself")
  ensure (actor.role == .OWNER || actor.role == .ADMIN || actor.fleetName == hqName)
    (.forbidden "Only fleet owners and admins can remove fleet users")
  save (if deletes then .deleteUser .auth actor userId
    else .updateUser .auth actor userId none (some .DISABLED))

/-- Staff create a rider. -/
def createRiderForUser (actor : AuthenticatedUser) : Call Unit :=
  save (.createUser (some actor) actor.fleetId .RIDER .ACTIVE)

/-- The rider that a call of the staff is about. -/
def loadRiderIdentityOrThrow (userId : UserId) (fleetId : FleetId) : Call User :=
  loadOrThrow
    (fun tables => (tables.findUser userId).filter fun user =>
      decide (user.fleetId = fleetId) && user.role == .RIDER)
    (.notFound "Rider not found")

/-- Staff give a rider another status. -/
def updateRiderStatusForUser (actor : AuthenticatedUser) (riderId : UserId)
    (status : UserStatus) : Call Unit := do
  let _rider ← loadRiderIdentityOrThrow riderId actor.fleetId
  save (.updateUser .riders actor riderId none (some status))

/-- Staff delete a rider. -/
def deleteRiderForUser (actor : AuthenticatedUser) (riderId : UserId) : Call Unit := do
  let _rider ← loadRiderIdentityOrThrow riderId actor.fleetId
  save (.deleteUser .riders actor riderId)

/-! ## The headquarters -/

/-- The requests of the headquarters. -/
inductive HqRequest where
  | createUserForFleet (fleetId : FleetId) (role : UserRole) (status : Option UserStatus)
  | createInsurer (fleetId : FleetId)
  | activateUser (id : UserId)
  | updateUserRole (id : UserId) (role : UserRole)
  | updateUserStatus (id : UserId) (status : UserStatus)
  | updateUserHq (id : UserId) (role : Option UserRole) (status : Option UserStatus)
  | deleteUser (id : UserId)
  | softDeleteFleet (fleetId : FleetId)
  | permanentDeleteFleet (fleetId : FleetId)
  | permanentDeleteInsurer (id : UserId)

/-- The fleet that a call of the headquarters is about. -/
def findFleetOrThrow (fleetId : FleetId) : Call String :=
  loadOrThrow (fun tables => tables.fleetName fleetId) (.notFound "Fleet not found")

/-- The account that a call of the headquarters is about. -/
def findUserOrThrow (id : UserId) : Call User :=
  loadOrThrow (fun tables => tables.findUser id) (.notFound "User not found")

/-- The statuses that the headquarters may give. -/
def validStatuses : List UserStatus := [.ACTIVE, .SUSPENDED, .DISABLED]

/-- The call that answers the headquarters. -/
def handleHq (actor : AuthenticatedUser) : HqRequest → Call Unit
  | .createUserForFleet fleetId role status => do
    let _name ← findFleetOrThrow fleetId
    save (.createUser (some actor) fleetId role (status.getD .ACTIVE))
  | .createInsurer fleetId => do
    let _name ← findFleetOrThrow fleetId
    save (.createUser (some actor) fleetId .INSURER .ACTIVE)
  | .activateUser id => do
    let _user ← findUserOrThrow id
    save (.updateUser .hq actor id none (some .ACTIVE))
  | .updateUserRole id role => do
    let _user ← findUserOrThrow id
    save (.updateUser .hq actor id (some role) none)
  | .updateUserStatus id status => do
    let _user ← findUserOrThrow id
    ensure (validStatuses.contains status)
      (.badRequest "Invalid status. Must be one of: ACTIVE, SUSPENDED, DISABLED")
    save (.updateUser .hq actor id none (some status))
  | .updateUserHq id role status => do
    let _user ← findUserOrThrow id
    save (.updateUser .hq actor id role status)
  | .deleteUser id => do
    let _user ← findUserOrThrow id
    save (.deleteUser .hq actor id)
  | .softDeleteFleet fleetId => do
    let _name ← findFleetOrThrow fleetId
    save (.disableFleet actor fleetId)
  | .permanentDeleteFleet fleetId => do
    let _name ← findFleetOrThrow fleetId
    save (.deleteFleet actor fleetId)
  | .permanentDeleteInsurer id => do
    let user ← loadOrThrow (fun tables => tables.findUser id) (.notFound "Insurer not found")
    ensure (user.role == .INSURER) (.badRequest "User is not an insurer")
    save (.deleteFleet actor user.fleetId)

/-! ## The requests -/

/-- The requests of those who are signed in. -/
inductive TeamRequest where
  | register (role : Option UserRole)
  | createInvite (role : Option UserRole)
  | changeFleetUserRole (userId : UserId) (role : UserRole)
  | deleteFleetUser (userId : UserId) (deletes : Bool)
  | createRider
  | updateRiderStatus (riderId : UserId) (status : UserStatus)
  | deleteRider (riderId : UserId)

/-- The requests about accounts. -/
inductive Request where
  | registerPublic (fleetId : FleetId)
  | registerSelfDriver (fullName : String)
  | registerFleet (fleetName : String) (isInsurance : Bool)
  | redeemInvite (token : Nat)
  | team (userId : UserId) (request : TeamRequest)
  | hq (userId : UserId) (request : HqRequest)

/-- The roles that the guard asks for. -/
def TeamRequest.roles : TeamRequest → List UserRole
  | .register _ => [.OWNER, .ADMIN, .DISPATCHER, .TECH]
  | .createInvite _ | .changeFleetUserRole _ _ | .deleteFleetUser _ _ => managers
  | .createRider | .updateRiderStatus _ _ | .deleteRider _ => riderStaff

/-- The call that answers a member of a fleet. -/
def handleTeam (actor : AuthenticatedUser) : TeamRequest → Call Unit
  | .register role => register settings actor role
  | .createInvite role => createInvite settings actor role
  | .changeFleetUserRole userId role => changeFleetUserRole actor userId role
  | .deleteFleetUser userId deletes => deleteFleetUser actor userId deletes
  | .createRider => createRiderForUser actor
  | .updateRiderStatus riderId status => updateRiderStatusForUser actor riderId status
  | .deleteRider riderId => deleteRiderForUser actor riderId

/-- The call that answers a request, with the guards before it. -/
def handle : Request → Call Unit
  | .registerPublic fleetId => registerPublic settings fleetId
  | .registerSelfDriver fullName => registerSelfDriver settings fullName
  | .registerFleet fleetName isInsurance => registerFleet settings fleetName isInsurance
  | .redeemInvite token => redeemInvite settings token
  | .team userId request => do
    let actor ← authenticateAccessToken userId
    requireRoles request.roles actor
    handleTeam settings actor request
  | .hq userId request => do
    let actor ← authenticateAccessToken userId
    requireHq actor
    handleHq actor request

end Accounts

end EmotoFleet.Team
