import EmotoFleet.Accounts.TeamAuthority

/-!
# A fleet keeps somebody who manages it

No manager of a fleet may demote or remove himself, so that requests which are served one
after the other leave a fleet its managers. Two managers who remove each other at the same
time do not: each of them writes when he is none any more. What is asked of the writes is no
more than that.
-/

namespace EmotoFleet.Team

open Accounts (UserId FleetId UserRole)
open Interleavings Runs
open Program (meetsAlone_load meetsAlone_ensure meetsAlone_write alone_load alone_ensure)

/-- The account is let in and has the rank to change others. -/
def User.Manages (user : User) : Prop :=
  mayEnter user.status = true ∧ user.role ∈ managers

/-- Somebody manages the fleet. -/
def Managed (fleetId : FleetId) (tables : TeamTables) : Prop :=
  ∃ user ∈ tables.users, user.fleetId = fleetId ∧ user.Manages

/-- What a write to an account of the fleet finds: its author manages the fleet still, or the
rider is a rider still. The headquarters make no such write. -/
def Unovertaken (fleetId : FleetId) (tables : TeamTables) (author : AuthenticatedUser)
    (id : UserId) : Origin → Prop
  | .auth => ∃ user ∈ tables.users, user.id = author.id ∧ user.fleetId = fleetId ∧ user.Manages
  | .riders => ∀ user ∈ tables.users, user.id = id → user.role = .RIDER
  | .hq => False

/-- The author of a write still manages the fleet when it is made. -/
def OnTime (fleetId : FleetId) (tables : TeamTables) : Write → Prop
  | .createUser _ _ _ _ | .createFleet _ _ _ | .createInvite _ _ => True
  | .updateUser origin author id _ _ | .deleteUser origin author id =>
    (∃ user ∈ tables.users, user.id = id ∧ user.fleetId = fleetId) →
      Unovertaken fleetId tables author id origin
  | .disableFleet _ other | .deleteFleet _ other => other ≠ fleetId

instance (user : User) : Decidable user.Manages :=
  inferInstanceAs (Decidable (_ ∧ _))

instance (fleetId : FleetId) (tables : TeamTables) : Decidable (Managed fleetId tables) :=
  inferInstanceAs (Decidable (∃ user ∈ tables.users, user.fleetId = fleetId ∧ user.Manages))

instance (fleetId : FleetId) (tables : TeamTables) (author : AuthenticatedUser) (id : UserId)
    (origin : Origin) : Decidable (Unovertaken fleetId tables author id origin) :=
  match origin with
  | .auth => inferInstanceAs (Decidable (∃ user ∈ tables.users, _ ∧ _ ∧ user.Manages))
  | .riders => inferInstanceAs (Decidable (∀ user ∈ tables.users, user.id = id → user.role = .RIDER))
  | .hq => inferInstanceAs (Decidable False)

instance (fleetId : FleetId) (tables : TeamTables) (operation : Write) :
    Decidable (OnTime fleetId tables operation) :=
  match operation with
  | .createUser _ _ _ _ | .createFleet _ _ _ | .createInvite _ _ => inferInstanceAs (Decidable True)
  | .updateUser _ _ _ _ _ | .deleteUser _ _ _ => inferInstanceAs (Decidable (_ → _))
  | .disableFleet _ other | .deleteFleet _ other => inferInstanceAs (Decidable (other ≠ fleetId))

variable {fleetId : FleetId} {tables written : TeamTables}

/-- A manager who is another account than the one that is written. -/
theorem Unovertaken.other_manager {author : AuthenticatedUser} {id : UserId}
    {role : Option UserRole} {origin : Origin} (managed : Managed fleetId tables)
    (permitted : Permitted tables author id role origin)
    (onTime : (∃ user ∈ tables.users, user.id = id ∧ user.fleetId = fleetId) →
      Unovertaken fleetId tables author id origin) :
    ∃ user ∈ tables.users, user.id ≠ id ∧ user.fleetId = fleetId ∧ user.Manages := by
  obtain ⟨manager, listed, own, manages⟩ := managed
  by_cases same : manager.id = id
  case neg => exact ⟨manager, listed, same, own, manages⟩
  case pos =>
    have unovertaken := onTime ⟨manager, listed, same, own⟩
    cases origin with
    | auth =>
      obtain ⟨author, stored, sameId, member, rank⟩ := unovertaken
      exact ⟨author, stored, sameId ▸ permitted.2.1.symm, member, rank⟩
    | riders =>
      have rank := manages.2
      rw [unovertaken manager listed same] at rank
      simp [managers] at rank
    | hq => exact unovertaken.elim

/-- One write keeps a manager. -/
theorem commit_managed (operation : Write) (managed : Managed fleetId tables)
    (vouched : Vouched tables operation) (onTime : OnTime fleetId tables operation)
    (commits : Commits tables operation written) : Managed fleetId written := by
  cases commits with
  | createUser | createFleet =>
    obtain ⟨manager, listed, own, manages⟩ := managed
    exact ⟨manager, List.mem_append_left _ listed, own, manages⟩
  | createInvite => exact managed
  | updateUser =>
    obtain ⟨manager, listed, other, rest⟩ := Unovertaken.other_manager managed vouched.2 onTime
    exact ⟨manager, Tables.mem_updateKey.mpr (Or.inr ⟨listed, other⟩), rest⟩
  | deleteUser =>
    obtain ⟨manager, listed, other, rest⟩ := Unovertaken.other_manager managed vouched.2 onTime
    exact ⟨manager, List.mem_filter.mpr ⟨listed, decide_eq_true other⟩, rest⟩
  | disableFleet =>
    obtain ⟨manager, listed, own, manages⟩ := managed
    have spared : manager.fleetId ≠ _ := own ▸ onTime.symm
    exact ⟨manager, Tables.mem_updateKey.mpr (Or.inr ⟨listed, spared⟩), own, manages⟩
  | deleteFleet =>
    obtain ⟨manager, listed, own, manages⟩ := managed
    have spared : manager.fleetId ≠ _ := own ▸ onTime.symm
    exact ⟨manager, List.mem_filter.mpr ⟨listed, decide_eq_true spared⟩, own, manages⟩

/-- In every interleaving whose writes come on time the fleet keeps a manager. -/
theorem manager_remains (settings : Settings) (sound : Sound tables)
    (managed : Managed fleetId tables) {actions : List (Action Request)}
    (onTime : Along (step commit (handle settings))
      (fun before action _ => Meets commit (OnTime fleetId) before action)
      (opened tables) actions) :
    Along (step commit (handle settings)) (fun _ _ next => Managed fleetId next.store)
      (opened tables) actions := by
  refine along_keeps_known later_refl later_trans commit_later (handle_knows settings) ?_ sound ?_
    managed onTime
  · exact fun _ operation _ still vouched punctual accepted =>
      commit_managed operation still vouched punctual (commits_of_ok accepted)
  · intro program listed
    cases listed

/-- The demotion leaves the fleet somebody who manages it. -/
theorem demotion_managed :
    Along (step commit (handle openSettings)) (fun _ _ next => Managed 0 next.store)
      (opened ownerAndAdmin) demotion :=
  manager_remains openSettings ownerAndAdmin_sound (by decide) (along_of_decide (by decide))

/-- An owner and an admin who remove each other at the same time. -/
example : (run (step commit (handle openSettings)) (opened ownerAndAdmin)
    [.submit (.team 1 (.deleteFleetUser 2 true)), .submit (.team 2 (.deleteFleetUser 1 true)),
      .advance 0, .advance 0, .advance 1, .advance 1, .advance 0, .advance 1]).map
    (fun system => decide (Managed 0 system.store)) = some false := by decide

/-! ## One request after the other -/

section Alone

/-- Served alone, the author of a call still manages the fleet at its writes. -/
abbrev Call.OnTimeAlone (call : Call Unit) (fleetId : FleetId) (tables : TeamTables) : Prop :=
  Program.MeetsAlone commit (OnTime fleetId) tables call

/-- A call that nothing interrupts goes on with an account as it is. -/
theorem authenticate_onTime {userId : UserId} {rest : AuthenticatedUser → Call Unit}
    (next : ∀ user ∈ tables.users, mayEnter user.status = true →
      (rest (toAuthenticatedUser tables user)).OnTimeAlone fleetId tables) :
    (authenticateAccessToken userId >>= rest).OnTimeAlone fleetId tables := by
  rw [authenticateAccessToken, Program.bind_bind]
  apply meetsAlone_load
  intro actor loaded
  obtain ⟨user, found, rfl⟩ := Option.map_eq_some_iff.mp loaded
  rw [Program.bind_bind]
  apply meetsAlone_ensure
  exact fun admitted => next user (tables.findUser_iff.mp found).1 admitted

/-- The check of the registration loses no time. -/
theorem requirePublicRegistration_onTime {settings : Settings} {rest : Unit → Call Unit}
    (next : (rest ()).OnTimeAlone fleetId tables) :
    (requirePublicRegistration settings >>= rest).OnTimeAlone fleetId tables := by
  rw [requirePublicRegistration, requireRegistration, Program.bind_bind]
  apply meetsAlone_ensure
  intro _
  apply meetsAlone_ensure
  exact fun _ => next

variable {user : User}

/-- A manager who writes for another account of his fleet is one of that fleet still. -/
theorem auth_onTime {userId : UserId} {target : User} (listed : user ∈ tables.users)
    (manages : user.Manages) (found : tables.findUser userId = some target)
    (own : target.fleetId = user.fleetId)
    (reached : ∃ row ∈ tables.users, row.id = userId ∧ row.fleetId = fleetId) :
    Unovertaken fleetId tables (toAuthenticatedUser tables user) userId .auth := by
  obtain ⟨row, stored, same, member⟩ := reached
  obtain ⟨targetListed, targetId⟩ := tables.findUser_iff.mp found
  obtain rfl : row = target :=
    Tables.eq_of_key_eq tables.userKeys stored targetListed (same.trans targetId.symm)
  exact ⟨user, listed, rfl, own.symm.trans member, manages⟩

/-- Requests about riders are on time. -/
theorem rider_onTime {actor : AuthenticatedUser} {riderId : UserId} {operation : Write}
    (onTime : Unovertaken fleetId tables actor riderId .riders → OnTime fleetId tables operation) :
    (loadRiderIdentityOrThrow riderId actor.fleetId >>= fun _ => save operation).OnTimeAlone
      fleetId tables := by
  apply meetsAlone_load
  intro rider found
  apply meetsAlone_write
  apply onTime
  intro row stored same
  obtain ⟨foundRow, own⟩ := Option.filter_eq_some_iff.mp found
  obtain ⟨listed, riderKey⟩ := tables.findUser_iff.mp foundRow
  obtain rfl : row = rider :=
    Tables.eq_of_key_eq tables.userKeys stored listed (same.trans riderKey.symm)
  simp only [Bool.and_eq_true, decide_eq_true_eq, beq_iff_eq] at own
  exact own.2

/-- Requests of the team that are served alone are on time. -/
theorem handleTeam_onTime {settings : Settings} {request : TeamRequest}
    (listed : user ∈ tables.users) (admitted : mayEnter user.status = true)
    (entitled : user.role ∈ request.roles) :
    (handleTeam settings (toAuthenticatedUser tables user) request).OnTimeAlone fleetId tables := by
  cases request with
  | register role =>
    apply meetsAlone_ensure
    intro _
    apply meetsAlone_ensure
    intro _
    apply meetsAlone_ensure
    intro _
    exact meetsAlone_write trivial
  | createInvite role =>
    apply meetsAlone_ensure
    intro _
    apply meetsAlone_ensure
    intro _
    apply meetsAlone_ensure
    intro _
    exact meetsAlone_write trivial
  | changeFleetUserRole userId role =>
    apply meetsAlone_load
    intro target found
    apply meetsAlone_ensure
    intro _
    apply meetsAlone_ensure
    intro _
    apply meetsAlone_ensure
    intro _
    obtain ⟨stored, own⟩ := Option.filter_eq_some_iff.mp found
    exact meetsAlone_write (auth_onTime listed ⟨admitted, entitled⟩ stored (of_decide_eq_true own))
  | deleteFleetUser userId deletes =>
    apply meetsAlone_load
    intro target found
    apply meetsAlone_ensure
    intro own
    apply meetsAlone_ensure
    intro _
    apply meetsAlone_ensure
    intro _
    have still := @auth_onTime fleetId tables user userId target listed ⟨admitted, entitled⟩ found
      (eq_of_beq own)
    cases deletes with
    | false => exact meetsAlone_write still
    | true => exact meetsAlone_write still
  | createRider => exact meetsAlone_write trivial
  | updateRiderStatus riderId status => exact rider_onTime fun still _ => still
  | deleteRider riderId => exact rider_onTime fun still _ => still

end Alone

/-- The requests of everybody but the headquarters. -/
def Request.ofFleets : Request → Bool
  | .registerPublic _ | .registerSelfDriver _ | .registerFleet _ _ | .redeemInvite _
  | .team _ _ => true
  | .hq _ _ => false

/-- Requests of fleets that are served alone are on time. -/
theorem handle_onTime {settings : Settings} {request : Request} (ofFleets : request.ofFleets) :
    (handle settings request).OnTimeAlone fleetId tables := by
  cases request with
  | registerPublic other =>
    apply requirePublicRegistration_onTime
    apply meetsAlone_load
    intro _ _
    exact meetsAlone_write trivial
  | registerSelfDriver fullName =>
    apply meetsAlone_ensure
    intro _
    exact meetsAlone_write trivial
  | registerFleet fleetName isInsurance =>
    apply requirePublicRegistration_onTime
    exact meetsAlone_write trivial
  | redeemInvite token =>
    apply meetsAlone_ensure
    intro _
    apply meetsAlone_load
    intro _ _
    exact meetsAlone_write trivial
  | team userId request =>
    apply authenticate_onTime
    intro user listed admitted
    apply meetsAlone_ensure
    intro entitled
    exact handleTeam_onTime listed admitted (List.contains_iff_mem.mp entitled)
  | hq userId request => cases ofFleets

/-- What the requests leave when each of them is served before the next one comes in. -/
def serve (settings : Settings) (tables : TeamTables) (requests : List Request) : TeamTables :=
  requests.foldl (fun tables request => ((handle settings request).alone commit tables).1) tables

/-- Requests of fleets that are served one after the other leave every fleet a manager that
has one. By induction on the requests. -/
theorem manager_served (settings : Settings) (sound : Sound tables)
    (managed : Managed fleetId tables) {requests : List Request}
    (ofFleets : ∀ request ∈ requests, request.ofFleets) :
    Managed fleetId (serve settings tables requests) := by
  induction requests generalizing tables with
  | nil => exact managed
  | cons request rest inductionHypothesis =>
    have known := Program.knows_alone later_refl later_trans commit_later sound
      (handle_knows settings request tables)
    have both := known.and (@handle_onTime fleetId tables settings request
      (ofFleets request List.mem_cons_self))
    have kept : ∀ store operation written, Sound store ∧ Managed fleetId store →
        (Sound store ∧ Vouched store operation) ∧ OnTime fleetId store operation →
        commit store operation = .ok written → Sound written ∧ Managed fleetId written := by
      intro store operation written whole met accepted
      constructor
      · exact (commit_later store operation written met.1.1 met.1.2 accepted).1
      · exact commit_managed operation whole.2 met.1.2 met.2 (commits_of_ok accepted)
    have whole := Program.alone_keeps kept both ⟨sound, managed⟩
    exact inductionHypothesis whole.1 whole.2 fun other listed =>
      ofFleets other (List.mem_cons_of_mem _ listed)

/-- A fleet whose admin is demoted keeps its owner. -/
theorem demotion_served : Managed 0
    (serve openSettings ownerAndAdmin [.team 1 (.changeFleetUserRole 2 .TECH)]) :=
  manager_served openSettings ownerAndAdmin_sound (by decide) (by decide)

/-! ## The name of the headquarters -/

/-- Whoever has the rank in a fleet with the name of the headquarters is served as one of them. -/
theorem hq_alone (settings : Settings) {user : User} {request : HqRequest}
    (listed : user ∈ tables.users) (manages : user.Manages)
    (named : tables.fleetName user.fleetId = some hqName) :
    (handle settings (.hq user.id request)).alone commit tables =
      (handleHq (toAuthenticatedUser tables user) request).alone commit tables := by
  have found : tables.findUser user.id = some user := tables.findUser_iff.mpr ⟨listed, rfl⟩
  have headquarters : (toAuthenticatedUser tables user).fleetName = hqName :=
    congrArg (Option.getD · "E-Moto Fleet") named
  have admitted : mayEnter (toAuthenticatedUser tables user).status = true := manages.1
  have ranked : managers.contains (toAuthenticatedUser tables user).role = true :=
    List.contains_iff_mem.mpr manages.2
  rw [handle, authenticateAccessToken, loadUserOrThrow, Program.bind_bind,
    alone_load (fun tables : TeamTables => (tables.findUser user.id).map (toAuthenticatedUser tables))
      (congrArg (Option.map (toAuthenticatedUser tables)) found), Program.bind_bind,
    alone_ensure admitted]
  change (requireHq _ >>= fun _ => handleHq _ request).alone commit tables = _
  rw [requireHq, Program.bind_bind, alone_ensure (beq_iff_eq.mpr headquarters),
    alone_ensure ranked]

/-- Registration takes any name. Whoever registers a fleet under the name of the headquarters
gives any account of any fleet whatever role with the next request. -/
theorem name_makes_headquarters {target : User} (listed : target ∈ tables.users) (role : UserRole) :
    target.updated (some role) none ∈ (serve ⟨true, true⟩ tables
      [.registerFleet hqName false,
        .hq (tables.nextId + 1) (.updateUserRole target.id role)]).users := by
  let founder : User := ⟨tables.nextId + 1, tables.nextId, .ADMIN, .PENDING_SETUP⟩
  let registered : TeamTables := (tables.addFleet hqName).addUser tables.nextId
    (tables.addFleet_known hqName) .ADMIN .PENDING_SETUP
  have founded : founder ∈ registered.users := List.mem_append_right _ List.mem_cons_self
  have stored : target ∈ registered.users := List.mem_append_left _ listed
  have found : registered.findUser target.id = some target :=
    registered.findUser_iff.mpr ⟨stored, rfl⟩
  have rank : founder.Manages := ⟨rfl, List.mem_cons_of_mem _ List.mem_cons_self⟩
  have named : registered.fleetName founder.fleetId = some hqName := Function.update_self ..
  have served : (handle ⟨true, true⟩ (.hq founder.id (.updateUserRole target.id role))).alone commit
      registered = (registered.updateUser target.id (some role) none, .ok ()) := by
    rw [hq_alone ⟨true, true⟩ founded rank named, handleHq, findUserOrThrow,
      alone_load (fun tables : TeamTables => tables.findUser target.id) found]
    simp only [save, Program.write, Program.alone, commit, found, Option.isSome_some, if_true]
  change target.updated (some role) none ∈ ((handle ⟨true, true⟩
    (.hq founder.id (.updateUserRole target.id role))).alone commit registered).1.users
  rw [served]
  exact Tables.mem_updateKey.mpr (Or.inl ⟨target, stored, rfl, rfl⟩)

/-- Who registers a fleet under the name of headquarters makes the owner of another a rider. -/
theorem owner_made_rider :
    (⟨1, 0, .OWNER, .ACTIVE⟩ : User).updated (some .RIDER) none ∈ (serve ⟨true, true⟩ ownerAndAdmin
      [.registerFleet hqName false,
        .hq (ownerAndAdmin.nextId + 1) (.updateUserRole 1 .RIDER)]).users :=
  @name_makes_headquarters ownerAndAdmin ⟨1, 0, .OWNER, .ACTIVE⟩ (by decide) .RIDER

end EmotoFleet.Team
