import EmotoFleet.Accounts.TeamRoles

/-!
# What the requests of others do to the accounts of a fleet

A call goes on with a copy of its caller's account. What it has read there about fleets does
not age, since no account ever moves to another fleet and no fleet is renamed; what it has
read about roles and statuses does.
-/

namespace EmotoFleet.Team

open Accounts (UserId FleetId UserRole)
open Interleavings Runs
open Program (learns_load learns_ensure learns_ensured learns_write)

/-! ## What lasts -/

/-- The account was numbered by now, and is one of the fleet unless it is gone. -/
structure Belongs (tables : TeamTables) (id : UserId) (fleetId : FleetId) : Prop where
  numbered : id < tables.nextId
  fleet : ∀ user ∈ tables.users, user.id = id → user.fleetId = fleetId

/-- No account moves to another fleet, and no name becomes that of an older fleet. -/
structure Later (seen tables : TeamTables) : Prop where
  onward : seen.nextId ≤ tables.nextId
  names : ∀ fleetId < seen.nextId, ∀ name, tables.fleetName fleetId = some name →
    seen.fleetName fleetId = some name
  users : ∀ user ∈ tables.users, user.id < seen.nextId →
    ∃ old ∈ seen.users, old.id = user.id ∧ old.fleetId = user.fleetId

/-- The tables are no earlier than themselves. -/
theorem later_refl (tables : TeamTables) : Later tables tables where
  onward := Nat.le_refl _
  names := fun _ _ _ named => named
  users := fun user listed _ => ⟨user, listed, rfl, rfl⟩

/-- Later than later is later. -/
theorem later_trans (first second third : TeamTables) (before : Later first second)
    (after : Later second third) : Later first third where
  onward := before.onward.trans after.onward
  names := fun fleetId old name named =>
    before.names fleetId old name (after.names fleetId (old.trans_le before.onward) name named)
  users := by
    intro user listed old
    obtain ⟨middle, stored, sameId, sameFleet⟩ :=
      after.users user listed (old.trans_le before.onward)
    obtain ⟨origin, originStored, originId, originFleet⟩ :=
      before.users middle stored (sameId ▸ old)
    exact ⟨origin, originStored, originId.trans sameId, originFleet.trans sameFleet⟩

/-- An account belongs to its fleet ever after. -/
theorem Belongs.later {seen tables : TeamTables} {id : UserId} {fleetId : FleetId}
    (belongs : Belongs seen id fleetId) (later : Later seen tables) : Belongs tables id fleetId where
  numbered := belongs.numbered.trans_le later.onward
  fleet := by
    intro user listed same
    obtain ⟨old, stored, oldId, oldFleet⟩ := later.users user listed (same ▸ belongs.numbered)
    rw [← oldFleet]
    exact belongs.fleet old stored (oldId.trans same)

/-- An account that is found belongs to its fleet. -/
theorem belongs_of_find {tables : TeamTables} {id : UserId} {user : User}
    (found : tables.findUser id = some user) : Belongs tables id user.fleetId := by
  obtain ⟨listed, same⟩ := tables.findUser_iff.mp found
  constructor
  · exact same ▸ tables.numbered user listed
  · intro other stored sameId
    rw [Tables.eq_of_key_eq tables.userKeys stored listed (sameId.trans same.symm)]

/-- A copy of an account that the guard has let in. It names the fleet as the fleet is named. -/
structure Entered (tables : TeamTables) (author : AuthenticatedUser) : Prop where
  admitted : mayEnter author.status = true
  belongs : Belongs tables author.id author.fleetId
  fleetNumbered : author.fleetId < tables.nextId
  fleetNamed : ∀ name, tables.fleetName author.fleetId = some name → author.fleetName = name

/-- Who was admitted was admitted. -/
theorem Entered.later {seen tables : TeamTables} {author : AuthenticatedUser}
    (entered : Entered seen author) (later : Later seen tables) : Entered tables author where
  admitted := entered.admitted
  belongs := entered.belongs.later later
  fleetNumbered := entered.fleetNumbered.trans_le later.onward
  fleetNamed := fun name named =>
    entered.fleetNamed name (later.names _ entered.fleetNumbered name named)

/-- A manager of the fleet with the name of headquarters. -/
def Headquarters (author : AuthenticatedUser) : Prop :=
  author.fleetName = hqName ∧ author.role ∈ managers

/-! ## What the calls know of their writes -/

/-- What each service has made sure of before it changes an account. -/
def Permitted (tables : TeamTables) (author : AuthenticatedUser) (id : UserId)
    (role : Option UserRole) : Origin → Prop
  | .auth =>
    author.role ∈ managers ∧ id ≠ author.id ∧ Belongs tables id author.fleetId ∧
      (role = some .INSURER → author.fleetName = hqName)
  | .riders => author.role ∈ riderStaff ∧ Belongs tables id author.fleetId ∧ role = none
  | .hq => Headquarters author

/-- What the checks of the call promise of a write. -/
def Vouched (tables : TeamTables) : Write → Prop
  | .createUser author _ role _ =>
    role = .INSURER → ∃ actor, author = some actor ∧ Entered tables actor ∧ Headquarters actor
  | .createFleet _ _ _ => True
  | .createInvite _ role => role ≠ .OWNER ∧ role ≠ .INSURER
  | .updateUser origin author id role _ =>
    Entered tables author ∧ Permitted tables author id role origin
  | .deleteUser origin author id => Entered tables author ∧ Permitted tables author id none origin
  | .disableFleet author _ | .deleteFleet author _ => Entered tables author ∧ Headquarters author

/-- Nobody is invited as an owner or as an insurer. -/
def Sound (tables : TeamTables) : Prop :=
  ∀ invite ∈ tables.invites, invite.role ≠ .OWNER ∧ invite.role ≠ .INSURER

/-- What the tables become, operation by operation. -/
inductive Commits (tables : TeamTables) : Write → TeamTables → Prop where
  | createUser {author : Option AuthenticatedUser} {fleetId : FleetId} {role : UserRole}
      {status : UserStatus} (known : (tables.fleetName fleetId).isSome) :
      Commits tables (.createUser author fleetId role status)
        (tables.addUser fleetId known role status)
  | createFleet {name : String} {role : UserRole} {status : UserStatus} :
      Commits tables (.createFleet name role status)
        ((tables.addFleet name).addUser tables.nextId (tables.addFleet_known name) role status)
  | createInvite {fleetId : FleetId} {role : UserRole} :
      Commits tables (.createInvite fleetId role) (tables.addInvite fleetId role)
  | updateUser {origin : Origin} {author : AuthenticatedUser} {id : UserId}
      {role : Option UserRole} {status : Option UserStatus} :
      Commits tables (.updateUser origin author id role status) (tables.updateUser id role status)
  | deleteUser {origin : Origin} {author : AuthenticatedUser} {id : UserId} :
      Commits tables (.deleteUser origin author id) (tables.removeUser id)
  | disableFleet {author : AuthenticatedUser} {fleetId : FleetId} :
      Commits tables (.disableFleet author fleetId) (tables.disableUsers fleetId)
  | deleteFleet {author : AuthenticatedUser} {fleetId : FleetId} :
      Commits tables (.deleteFleet author fleetId) (tables.removeFleet fleetId)

/-- What is stored of an accepted write is what it wrote. -/
theorem eq_of_accepted {condition : Prop} [Decidable condition] {written stored : TeamTables}
    {reason : DatabaseError}
    (accepted : (if condition then .ok written else .error reason) = Except.ok stored) :
    written = stored := by
  split at accepted
  case isTrue => exact Except.ok.inj accepted
  case isFalse => cases accepted

/-- An accepted write is one of the commits. -/
theorem commits_of_ok {tables written : TeamTables} {operation : Write}
    (accepted : commit tables operation = .ok written) : Commits tables operation written := by
  cases operation with
  | createUser author fleetId role status =>
    rw [commit] at accepted
    split at accepted
    case isTrue known =>
      cases accepted
      exact .createUser known
    case isFalse => cases accepted
  | createFleet name role status =>
    cases accepted
    exact .createFleet
  | createInvite fleetId role =>
    exact eq_of_accepted accepted ▸ .createInvite
  | updateUser origin author id role status =>
    exact eq_of_accepted accepted ▸ .updateUser
  | deleteUser origin author id =>
    exact eq_of_accepted accepted ▸ .deleteUser
  | disableFleet author fleetId =>
    exact eq_of_accepted accepted ▸ .disableFleet
  | deleteFleet author fleetId =>
    exact eq_of_accepted accepted ▸ .deleteFleet

/-- Where an account that a write leaves comes from: it was there in the same fleet, or it is
the one that has been numbered last. -/
theorem Commits.origin {tables written : TeamTables} {operation : Write}
    (commits : Commits tables operation written) {user : User} (listed : user ∈ written.users) :
    (∃ old ∈ tables.users, old.id = user.id ∧ old.fleetId = user.fleetId) ∨
      tables.nextId ≤ user.id := by
  cases commits with
  | createUser known =>
    cases List.mem_append.mp listed with
    | inl old => exact Or.inl ⟨user, old, rfl, rfl⟩
    | inr new =>
      right
      rw [List.mem_singleton.mp new]
  | createFleet =>
    cases List.mem_append.mp listed with
    | inl old => exact Or.inl ⟨user, old, rfl, rfl⟩
    | inr new =>
      right
      rw [List.mem_singleton.mp new]
      exact Nat.le_succ _
  | createInvite => exact Or.inl ⟨user, listed, rfl, rfl⟩
  | updateUser =>
    left
    cases Tables.mem_updateKey.mp listed with
    | inl changed =>
      obtain ⟨old, stored, _, same⟩ := changed
      exact ⟨old, stored, same ▸ rfl, same ▸ rfl⟩
    | inr kept => exact ⟨user, kept.1, rfl, rfl⟩
  | deleteUser => exact Or.inl ⟨user, (List.mem_filter.mp listed).1, rfl, rfl⟩
  | disableFleet =>
    left
    cases Tables.mem_updateKey.mp listed with
    | inl changed =>
      obtain ⟨old, stored, _, same⟩ := changed
      exact ⟨old, stored, same ▸ rfl, same ▸ rfl⟩
    | inr kept => exact ⟨user, kept.1, rfl, rfl⟩
  | deleteFleet => exact Or.inl ⟨user, (List.mem_filter.mp listed).1, rfl, rfl⟩

/-- Numbers are given out upwards. -/
theorem Commits.onward {tables written : TeamTables} {operation : Write}
    (commits : Commits tables operation written) : tables.nextId ≤ written.nextId := by
  cases commits with
  | createUser => exact Nat.le_succ _
  | createFleet => exact (Nat.le_succ _).trans (Nat.le_succ _)
  | createInvite => exact Nat.le_succ _
  | updateUser | deleteUser | disableFleet | deleteFleet => exact Nat.le_refl _

/-- A fleet keeps its name. -/
theorem Commits.names {tables written : TeamTables} {operation : Write}
    (commits : Commits tables operation written) {fleetId : FleetId} (old : fleetId < tables.nextId)
    {name : String} (named : written.fleetName fleetId = some name) :
    tables.fleetName fleetId = some name := by
  cases commits with
  | createFleet =>
    have other : Function.update tables.fleetName tables.nextId _ fleetId = some name := named
    rwa [Function.update_of_ne old.ne] at other
  | @deleteFleet _ gone =>
    have rest : Function.update tables.fleetName gone none fleetId = some name := named
    by_cases same : fleetId = gone
    · rw [same, Function.update_self] at rest
      cases rest
    · rwa [Function.update_of_ne same] at rest
  | createUser | createInvite | updateUser | deleteUser | disableFleet => exact named

/-- Every write leads to later tables. -/
theorem Commits.later {tables written : TeamTables} {operation : Write}
    (commits : Commits tables operation written) : Later tables written where
  onward := commits.onward
  names := fun _ old _ named => commits.names old named
  users := fun _ listed old => (commits.origin listed).resolve_right old.not_ge

/-- Every vouched write keeps the tables sound. -/
theorem Commits.sound {tables written : TeamTables} {operation : Write}
    (commits : Commits tables operation written) (sound : Sound tables)
    (vouched : Vouched tables operation) : Sound written := by
  cases commits with
  | createInvite =>
    intro invite listed
    cases List.mem_append.mp listed with
    | inl old => exact sound invite old
    | inr new => exact List.mem_singleton.mp new ▸ vouched
  | deleteFleet => exact fun invite listed => sound invite (List.mem_filter.mp listed).1
  | createUser | createFleet | updateUser | deleteUser | disableFleet => exact sound

/-- A vouched write that is accepted keeps the tables sound and leads on. -/
theorem commit_later (tables : TeamTables) (operation : Write) (written : TeamTables)
    (sound : Sound tables) (vouched : Vouched tables operation)
    (accepted : commit tables operation = .ok written) : Sound written ∧ Later tables written :=
  have commits := commits_of_ok accepted
  ⟨commits.sound sound vouched, commits.later⟩

/-! ## What a call has learned when it writes -/

/-- What a call knows once it has been run. -/
abbrev Call.Learns {α : Type} (call : Call α) (learned : TeamTables → α → Prop)
    (seen : TeamTables) : Prop :=
  Program.Learns Sound Later Vouched learned seen call

section Learning

variable {seen : TeamTables}

/-- Whoever is let in has a copy of an account of this moment. -/
theorem authenticate_learns (userId : UserId) :
    (authenticateAccessToken userId).Learns Entered seen := by
  apply learns_load
  intro tables author _ _ loaded
  apply learns_ensure
  intro admitted
  obtain ⟨user, found, rfl⟩ := Option.map_eq_some_iff.mp loaded
  obtain ⟨listed, rfl⟩ := tables.findUser_iff.mp found
  refine ⟨admitted, belongs_of_find found, ?_, ?_⟩
  · exact tables.fleetsNumbered _ (tables.fleets user listed)
  · exact fun name named => congrArg (Option.getD · "E-Moto Fleet") named

/-- The check of the registration writes nothing. -/
theorem requirePublicRegistration_learns (settings : Settings) :
    (requirePublicRegistration settings).Learns (fun _ _ => True) seen := by
  apply learns_ensure
  intro _
  apply learns_ensured
  intro _
  trivial

/-- Who passes the guard belongs to headquarters. -/
theorem requireHq_learns {author : AuthenticatedUser} (entered : Entered seen author) :
    (requireHq author).Learns (fun tables _ => Entered tables author ∧ Headquarters author)
      seen := by
  apply learns_ensure
  intro named
  apply learns_ensured
  intro ranked
  exact ⟨entered, eq_of_beq named, List.contains_iff_mem.mp ranked⟩

end Learning

/-! ## Every service makes sure of what it vouches for -/

section Services

variable {settings : Settings} {actor : AuthenticatedUser} {seen : TeamTables}

/-- A registration writes what its checks allow. -/
theorem register_learns {dtoRole : Option UserRole} (entered : Entered seen actor) :
    (register settings actor dtoRole).Learns (fun _ _ => True) seen := by
  apply learns_ensure
  intro _
  apply learns_ensure
  intro reserved
  apply learns_ensure
  intro _
  apply learns_write
  intro tables later insurer
  split at insurer
  case isTrue manager =>
    refine ⟨actor, rfl, entered.later later, ?_, ?_⟩
    · simpa [insurer] using reserved
    · simpa [managers] using manager
  case isFalse => cases insurer

/-- An invite is what its checks allow. -/
theorem createInvite_learns {dtoRole : Option UserRole} :
    (createInvite settings actor dtoRole).Learns (fun _ _ => True) seen := by
  apply learns_ensure
  intro _
  apply learns_ensure
  intro allowed
  apply learns_ensure
  intro _
  apply learns_write
  intro _ _
  simpa [Vouched] using allowed

/-- A change of role is what its checks allow. -/
theorem changeFleetUserRole_learns {userId : UserId} {newRole : UserRole}
    (entered : Entered seen actor) (manager : actor.role ∈ managers) :
    (changeFleetUserRole actor userId newRole).Learns (fun _ _ => True) seen := by
  apply learns_load
  intro read target _ later found
  apply learns_ensure
  intro another
  apply learns_ensure
  intro insurer
  apply learns_ensure
  intro _
  apply learns_write
  intro tables further
  obtain ⟨stored, own⟩ := Option.filter_eq_some_iff.mp found
  have same : target.fleetId = actor.fleetId := of_decide_eq_true own
  refine ⟨(entered.later later).later further, manager, ?_, ?_, ?_⟩
  · rw [← (read.findUser_iff.mp stored).2]
    simpa using another
  · exact same ▸ (belongs_of_find stored).later further
  · intro newInsurer
    simpa [Option.some.inj newInsurer] using insurer

/-- A deletion is what its checks allow. -/
theorem deleteFleetUser_learns {userId : UserId} {deletes : Bool} (entered : Entered seen actor)
    (manager : actor.role ∈ managers) :
    (deleteFleetUser actor userId deletes).Learns (fun _ _ => True) seen := by
  apply learns_load
  intro read target _ later found
  apply learns_ensure
  intro own
  apply learns_ensure
  intro another
  apply learns_ensure
  intro _
  apply learns_write
  intro tables further
  have same : target.fleetId = actor.fleetId := eq_of_beq own
  have permitted : Permitted tables actor userId none .auth := by
    refine ⟨manager, ?_, ?_, ?_⟩
    · rw [← (read.findUser_iff.mp found).2]
      simpa using another
    · exact same ▸ (belongs_of_find found).later further
    · intro newInsurer
      cases newInsurer
  cases deletes with
  | false => exact ⟨(entered.later later).later further, permitted⟩
  | true => exact ⟨(entered.later later).later further, permitted⟩

/-- The riders' requests write for an account that was a rider of the fleet. -/
theorem rider_learns {riderId : UserId} {operation : Write} (entered : Entered seen actor)
    (vouched : ∀ tables, Entered tables actor → Belongs tables riderId actor.fleetId →
      Vouched tables operation) :
    ((loadRiderIdentityOrThrow riderId actor.fleetId) >>= fun _ => save operation).Learns
      (fun _ _ => True) seen := by
  apply learns_load
  intro read rider _ later found
  apply learns_write
  intro tables further
  obtain ⟨stored, own⟩ := Option.filter_eq_some_iff.mp found
  have same : rider.fleetId = actor.fleetId := by
    simp only [Bool.and_eq_true, decide_eq_true_eq] at own
    exact own.1
  exact vouched tables ((entered.later later).later further)
    (same ▸ (belongs_of_find stored).later further)

/-- Every request of a team writes what its checks allow. -/
theorem handleTeam_learns {request : TeamRequest} (entered : Entered seen actor)
    (entitled : actor.role ∈ request.roles) :
    (handleTeam settings actor request).Learns (fun _ _ => True) seen := by
  cases request with
  | register role => exact register_learns entered
  | createInvite role => exact createInvite_learns
  | changeFleetUserRole userId role => exact changeFleetUserRole_learns entered entitled
  | deleteFleetUser userId deletes => exact deleteFleetUser_learns entered entitled
  | createRider =>
    apply learns_write
    intro _ _ insurer
    cases insurer
  | updateRiderStatus riderId status =>
    exact rider_learns entered fun _ still member => ⟨still, entitled, member, rfl⟩
  | deleteRider riderId =>
    exact rider_learns entered fun _ still member => ⟨still, entitled, member, rfl⟩

/-- Every request of headquarters writes what its checks allow. -/
theorem handleHq_learns {request : HqRequest} (entered : Entered seen actor)
    (headquarters : Headquarters actor) :
    (handleHq actor request).Learns (fun _ _ => True) seen := by
  cases request with
  | createUserForFleet fleetId role status =>
    apply learns_load
    intro _ _ _ later _
    exact learns_write fun _ further _ =>
      ⟨actor, rfl, (entered.later later).later further, headquarters⟩
  | createInsurer fleetId =>
    apply learns_load
    intro _ _ _ later _
    exact learns_write fun _ further _ =>
      ⟨actor, rfl, (entered.later later).later further, headquarters⟩
  | updateUserStatus id status =>
    apply learns_load
    intro _ _ _ later _
    apply learns_ensure
    intro _
    exact learns_write fun _ further => ⟨(entered.later later).later further, headquarters⟩
  | permanentDeleteInsurer id =>
    apply learns_load
    intro _ _ _ later _
    apply learns_ensure
    intro _
    exact learns_write fun _ further => ⟨(entered.later later).later further, headquarters⟩
  | activateUser id | updateUserRole id role | updateUserHq id role status | deleteUser id
  | softDeleteFleet fleetId | permanentDeleteFleet fleetId =>
    apply learns_load
    intro _ _ _ later _
    exact learns_write fun _ further => ⟨(entered.later later).later further, headquarters⟩

end Services

/-- Every request writes what its checks allow. -/
theorem handle_learns (settings : Settings) (request : Request) (seen : TeamTables) :
    (handle settings request).Learns (fun _ _ => True) seen := by
  cases request with
  | registerPublic fleetId =>
    refine Program.learns_bind (requirePublicRegistration_learns settings) ?_
    intro _ _ _
    apply learns_load
    intro _ _ _ _ _
    apply learns_write
    intro _ _ insurer
    cases insurer
  | registerSelfDriver fullName =>
    apply learns_ensure
    intro _
    exact learns_write fun _ _ => trivial
  | registerFleet fleetName isInsurance =>
    refine Program.learns_bind (requirePublicRegistration_learns settings) ?_
    intro _ _ _
    exact learns_write fun _ _ => trivial
  | redeemInvite token =>
    apply learns_ensure
    intro _
    apply learns_load
    intro tables invite sound _ found
    apply learns_write
    intro _ _ insurer
    exact absurd insurer (sound invite (List.mem_of_find?_eq_some found)).2
  | team userId request =>
    refine Program.learns_bind (authenticate_learns userId) ?_
    intro tables actor entered
    apply learns_ensure
    intro entitled
    exact handleTeam_learns entered (List.contains_iff_mem.mp entitled)
  | hq userId request =>
    refine Program.learns_bind (authenticate_learns userId) ?_
    intro tables actor entered
    refine Program.learns_bind (requireHq_learns entered) ?_
    intro _ _ both
    exact handleHq_learns both.1 both.2

/-- Every call answers for what it writes. -/
theorem handle_knows (settings : Settings) (request : Request) (seen : TeamTables) :
    (handle settings request).Knows Sound Later Vouched seen :=
  Program.knows_of_learns (handle_learns settings request seen)

/-! ## Whose writes reach an account -/

/-- Who makes a write, where it is somebody. -/
def Write.author : Write → Option AuthenticatedUser
  | .createUser author _ _ _ => author
  | .createFleet _ _ _ | .createInvite _ _ => none
  | .updateUser _ author _ _ _ | .deleteUser _ author _ | .disableFleet author _
  | .deleteFleet author _ => some author

/-- The write was made by one who was let in and whose copy has the property. -/
def MadeBy (entitled : AuthenticatedUser → Prop) (tables : TeamTables) (operation : Write) : Prop :=
  ∃ author, operation.author = some author ∧ Entered tables author ∧ entitled author

/-- The system as it starts, with tables and no calls. -/
def opened (tables : TeamTables) : System TeamTables Write DatabaseError Failure := ⟨tables, []⟩

/-- A step does nothing to the tables, or it is a write that its call vouches for. -/
theorem along_commits (settings : Settings) {tables : TeamTables} (sound : Sound tables)
    (actions : List (Action Request)) :
    Along (step commit (handle settings)) (fun before action next => next.store = before.store ∨
      ∃ operation, attempted before action = some operation ∧
        Vouched before.store operation ∧ Commits before.store operation next.store)
      (opened tables) actions := by
  apply along_of_known later_refl later_trans commit_later (handle_knows settings)
    fun store operation written => Vouched store operation ∧ Commits store operation written
  · exact fun _ _ _ _ vouched accepted => ⟨vouched, commits_of_ok accepted⟩
  · exact sound
  · intro program listed
    cases listed

/-- Staff of the fleet, or the headquarters. -/
def InCharge (fleetId : FleetId) (author : AuthenticatedUser) : Prop :=
  Headquarters author ∨ author.fleetId = fleetId ∧ author.role ∈ riderStaff

/-- Managers are staff. -/
theorem managers_sub {role : UserRole} (manager : role ∈ managers) : role ∈ riderStaff :=
  List.mem_append_left [UserRole.TECH] manager

/-- Who may change an account is in charge of it. -/
theorem Permitted.inCharge {tables : TeamTables} {author : AuthenticatedUser} {user : User}
    {role : Option UserRole} {origin : Origin} (listed : user ∈ tables.users)
    (permitted : Permitted tables author user.id role origin) : InCharge user.fleetId author := by
  cases origin with
  | auth =>
    obtain ⟨manager, _, member, _⟩ := permitted
    exact Or.inr ⟨(member.fleet user listed rfl).symm, managers_sub manager⟩
  | riders =>
    obtain ⟨staff, member, _⟩ := permitted
    exact Or.inr ⟨(member.fleet user listed rfl).symm, staff⟩
  | hq => exact Or.inl permitted

/-- A write leaves an account as it is, or was permitted on it. -/
theorem Commits.stays_or {tables written : TeamTables} {operation : Write}
    (commits : Commits tables operation written) (vouched : Vouched tables operation) {user : User}
    (listed : user ∈ tables.users) :
    user ∈ written.users ∨ MadeBy (InCharge user.fleetId) tables operation := by
  cases commits with
  | createUser | createFleet => exact Or.inl (List.mem_append_left _ listed)
  | createInvite => exact Or.inl listed
  | @updateUser origin author id role status =>
    by_cases same : user.id = id
    · obtain ⟨entered, permitted⟩ := vouched
      exact Or.inr ⟨author, rfl, entered, (same ▸ permitted).inCharge listed⟩
    · exact Or.inl (Tables.mem_updateKey.mpr (Or.inr ⟨listed, same⟩))
  | @deleteUser origin author id =>
    by_cases same : user.id = id
    · obtain ⟨entered, permitted⟩ := vouched
      exact Or.inr ⟨author, rfl, entered, (same ▸ permitted).inCharge listed⟩
    · exact Or.inl (List.mem_filter.mpr ⟨listed, decide_eq_true same⟩)
  | disableFleet => exact Or.inr ⟨_, rfl, vouched.1, Or.inl vouched.2⟩
  | deleteFleet => exact Or.inr ⟨_, rfl, vouched.1, Or.inl vouched.2⟩

/-- One who may give the account another role: the headquarters, or a manager of the fleet
with another account. -/
def MayAssign (user : User) (role : UserRole) (author : AuthenticatedUser) : Prop :=
  Headquarters author ∨
    author.fleetId = user.fleetId ∧ author.id ≠ user.id ∧ author.role ∈ managers ∧
      role ≠ .INSURER

/-- Who may change a role may assign the new one. -/
theorem Permitted.mayAssign {tables : TeamTables} {author : AuthenticatedUser} {user : User}
    {role : UserRole} {origin : Origin} (listed : user ∈ tables.users)
    (permitted : Permitted tables author user.id (some role) origin) :
    MayAssign user role author := by
  cases origin with
  | auth =>
    obtain ⟨manager, another, member, insurer⟩ := permitted
    by_cases reserved : role = .INSURER
    · exact Or.inl ⟨insurer (congrArg some reserved), manager⟩
    · exact Or.inr ⟨(member.fleet user listed rfl).symm, another.symm, manager, reserved⟩
  | riders => cases permitted.2.2
  | hq => exact Or.inl permitted

/-- An account that a write leaves has the role it had, or one from who may give it. -/
theorem Commits.role_or {tables written : TeamTables} {operation : Write}
    (commits : Commits tables operation written) (vouched : Vouched tables operation)
    {user now : User} (listed : user ∈ tables.users) (left : now ∈ written.users)
    (same : now.id = user.id) :
    now.role = user.role ∨ MadeBy (MayAssign user now.role) tables operation := by
  have unchanged : ∀ {rows : List User}, now ∈ rows → rows ⊆ tables.users → now.role = user.role :=
    fun stored within => by rw [Tables.eq_of_key_eq tables.userKeys (within stored) listed same]
  have older : now.id < tables.nextId := same ▸ tables.numbered user listed
  cases commits with
  | createUser =>
    cases List.mem_append.mp left with
    | inl old => exact Or.inl (unchanged old (List.Subset.refl _))
    | inr new =>
      rw [List.mem_singleton.mp new] at older
      exact absurd older (Nat.lt_irrefl _)
  | createFleet =>
    cases List.mem_append.mp left with
    | inl old => exact Or.inl (unchanged old (List.Subset.refl _))
    | inr new =>
      rw [List.mem_singleton.mp new] at older
      exact absurd older (Nat.lt_succ_self _).not_gt
  | createInvite => exact Or.inl (unchanged left (List.Subset.refl _))
  | @updateUser origin author id role status =>
    cases Tables.mem_updateKey.mp left with
    | inl changed =>
      obtain ⟨old, stored, sameId, rfl⟩ := changed
      obtain rfl : old = user := Tables.eq_of_key_eq tables.userKeys stored listed same
      cases role with
      | none => exact Or.inl rfl
      | some role =>
        subst sameId
        exact Or.inr ⟨author, rfl, vouched.1, vouched.2.mayAssign listed⟩
    | inr kept => exact Or.inl (unchanged kept.1 (List.Subset.refl _))
  | deleteUser => exact Or.inl (unchanged left List.filter_sublist.subset)
  | disableFleet =>
    cases Tables.mem_updateKey.mp left with
    | inl changed =>
      obtain ⟨old, stored, _, rfl⟩ := changed
      obtain rfl : old = user := Tables.eq_of_key_eq tables.userKeys stored listed same
      exact Or.inl rfl
    | inr kept => exact Or.inl (unchanged kept.1 (List.Subset.refl _))
  | deleteFleet => exact Or.inl (unchanged left List.filter_sublist.subset)

/-- In every interleaving an account changes or vanishes only by a write of the headquarters
or of staff of its fleet, and it changes its role only by one of the headquarters or of an
owner or admin of its fleet who has another account. -/
theorem accounts_change_by_entitled (settings : Settings) {tables : TeamTables}
    (sound : Sound tables) (actions : List (Action Request)) :
    Along (step commit (handle settings)) (fun before action next => ∀ user ∈ before.store.users,
      (user ∈ next.store.users ∨ ∃ operation, attempted before action = some operation ∧
        MadeBy (InCharge user.fleetId) before.store operation) ∧
      ∀ now ∈ next.store.users, now.id = user.id → now.role = user.role ∨
        ∃ operation, attempted before action = some operation ∧
          MadeBy (MayAssign user now.role) before.store operation)
      (opened tables) actions := by
  refine along_of_invariant (fun _ => True) (fun _ _ _ _ _ _ => trivial) ?_ trivial
    (along_commits settings sound actions)
  intro before action next _ moved _ user listed
  cases moved with
  | inl still =>
    rw [still]
    refine ⟨Or.inl listed, fun now left same => Or.inl ?_⟩
    rw [Tables.eq_of_key_eq before.store.userKeys left listed same]
  | inr written =>
    obtain ⟨operation, attempt, vouched, commits⟩ := written
    constructor
    · exact (commits.stays_or vouched listed).imp_right fun made => ⟨operation, attempt, made⟩
    · exact fun now left same =>
        (commits.role_or vouched listed left same).imp_right fun made => ⟨operation, attempt, made⟩

/-- A fleet of an owner and an admin. -/
def ownerAndAdmin : TeamTables where
  users := [⟨1, 0, .OWNER, .ACTIVE⟩, ⟨2, 0, .ADMIN, .ACTIVE⟩]
  fleetName := Function.update (fun _ => none) 0 (some "Kigali Express Fleet")
  invites := []
  nextId := 3
  userKeys := by decide
  numbered := by decide
  fleetsNumbered := by
    intro fleetId known
    by_cases first : fleetId = 0
    · rw [first]
      exact Nat.succ_pos 2
    · rw [Function.update_of_ne first] at known
      cases known
  fleets := by decide

/-- Everybody may register. -/
def openSettings : Settings := ⟨true, true⟩

/-- A fleet with an owner and an admin is sound. -/
theorem ownerAndAdmin_sound : Sound ownerAndAdmin := by
  intro invite listed
  cases listed

/-- The owner makes the admin a technician. -/
def demotion : List (Action Request) :=
  [.submit (.team 1 (.changeFleetUserRole 2 .TECH)), .advance 0, .advance 0, .advance 0]

/-- The demotion is made by somebody who is entitled to it. -/
theorem demotion_entitled :
    Along (step commit (handle openSettings)) (fun before action next =>
      ∀ user ∈ before.store.users,
      (user ∈ next.store.users ∨ ∃ operation, attempted before action = some operation ∧
        MadeBy (InCharge user.fleetId) before.store operation) ∧
      ∀ now ∈ next.store.users, now.id = user.id → now.role = user.role ∨
        ∃ operation, attempted before action = some operation ∧
          MadeBy (MayAssign user now.role) before.store operation)
      (opened ownerAndAdmin) demotion :=
  accounts_change_by_entitled openSettings ownerAndAdmin_sound demotion

/-! ## Insurers -/

/-- Where an insurer comes from: the account was one, its fleet is registered by this write,
or the headquarters made the write. -/
theorem Commits.insurer {tables written : TeamTables} {operation : Write}
    (commits : Commits tables operation written) (vouched : Vouched tables operation)
    {now : User} (left : now ∈ written.users) (insurer : now.role = .INSURER) :
    (∃ user ∈ tables.users, user.id = now.id ∧ user.role = .INSURER) ∨
      tables.fleetName now.fleetId = none ∨ MadeBy Headquarters tables operation := by
  cases commits.origin left with
  | inl known =>
    obtain ⟨user, listed, same, _⟩ := known
    cases commits.role_or vouched listed left same.symm with
    | inl role => exact Or.inl ⟨user, listed, same, role ▸ insurer⟩
    | inr made =>
      obtain ⟨author, wrote, entered, entitled⟩ := made
      cases entitled with
      | inl headquarters => exact Or.inr (Or.inr ⟨author, wrote, entered, headquarters⟩)
      | inr manager => exact absurd insurer manager.2.2.2
  | inr fresh =>
    right
    cases commits with
    | createUser =>
      cases List.mem_append.mp left with
      | inl old => exact absurd fresh (tables.numbered now old).not_ge
      | inr new =>
        rw [List.mem_singleton.mp new] at insurer
        obtain ⟨actor, rfl, entered, headquarters⟩ := vouched insurer
        exact Or.inr ⟨actor, rfl, entered, headquarters⟩
    | createFleet =>
      cases List.mem_append.mp left with
      | inl old => exact absurd fresh (tables.numbered now old).not_ge
      | inr new =>
        rw [List.mem_singleton.mp new]
        exact Or.inl tables.fleetName_fresh
    | createInvite => exact absurd fresh (tables.numbered now left).not_ge
    | @updateUser _ _ id role status =>
      exact absurd fresh ((tables.updateUser id role status).numbered now left).not_ge
    | @disableFleet _ fleetId =>
      exact absurd fresh ((tables.disableUsers fleetId).numbered now left).not_ge
    | deleteUser | deleteFleet =>
      exact absurd fresh (tables.numbered now (List.mem_filter.mp left).1).not_ge

/-- In every interleaving nobody becomes the insurer of a fleet that exists but by a write of
the headquarters. -/
theorem insurers_by_headquarters (settings : Settings) {tables : TeamTables}
    (sound : Sound tables) (actions : List (Action Request)) :
    Along (step commit (handle settings)) (fun before action next => ∀ now ∈ next.store.users,
      now.role = .INSURER →
        (∃ user ∈ before.store.users, user.id = now.id ∧ user.role = .INSURER) ∨
        before.store.fleetName now.fleetId = none ∨
        ∃ operation, attempted before action = some operation ∧
          MadeBy Headquarters before.store operation)
      (opened tables) actions := by
  refine along_of_invariant (fun _ => True) (fun _ _ _ _ _ _ => trivial) ?_ trivial
    (along_commits settings sound actions)
  intro before action next _ moved _ now left insurer
  cases moved with
  | inl still => exact Or.inl ⟨now, still ▸ left, rfl, insurer⟩
  | inr written =>
    obtain ⟨operation, attempt, vouched, commits⟩ := written
    exact (commits.insurer vouched left insurer).imp_right fun rest =>
      rest.imp_right fun made => ⟨operation, attempt, made⟩

/-- The demotion makes nobody an insurer. -/
theorem demotion_no_insurer :
    Along (step commit (handle openSettings)) (fun before action next =>
      ∀ now ∈ next.store.users, now.role = .INSURER →
        (∃ user ∈ before.store.users, user.id = now.id ∧ user.role = .INSURER) ∨
        before.store.fleetName now.fleetId = none ∨
        ∃ operation, attempted before action = some operation ∧
          MadeBy Headquarters before.store operation)
      (opened ownerAndAdmin) demotion :=
  insurers_by_headquarters openSettings ownerAndAdmin_sound demotion

end EmotoFleet.Team
