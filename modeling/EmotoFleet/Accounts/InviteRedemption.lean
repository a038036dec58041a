import EmotoFleet.Accounts.UserIdentities
import EmotoFleet.Foundations.Overlaps

/-!
# How often an invite is redeemed

A redemption reads the invite, checks it and some time later creates the account and counts
the use in one transaction. The count goes up from what is stored then, but whether the
invite is used up is decided by the count that was read, and the status is written over
whatever another redemption, the expiry or a revocation has put there.

The store also keeps what the tables do not: the redemptions that were made, and the
invites that were ever used up or revoked.
-/

namespace EmotoFleet.Accounts

open EmotoFleet.Runs EmotoFleet.Interleavings

/-! ## Redemptions with their history -/

/-- The tables, with the redemptions and the retirements so far. -/
structure InviteStore where
  tables : Tables
  redemptions : List Nat
  retired : List Nat

/-- A write of a call, with the invite as the call has read it. -/
structure InviteWrite where
  invite : Option RegistrationInvite
  write : Write

/-- The redemption that a write makes: a redemption creates an account. -/
def InviteWrite.redeemed (operation : InviteWrite) : List Nat :=
  match operation.invite, operation.write with
  | some invite, .createUser _ _ _ _ _ => [invite.id]
  | _, _ => []

/-- Whether an invite is used or revoked. -/
def isRetired (invite : RegistrationInvite) : Bool :=
  invite.status == .USED || invite.status == .REVOKED

/-- The invites that are retired. -/
def retiredIn (tables : Tables) : List Nat :=
  (tables.records.invites.filter isRetired).map RegistrationInvite.id

/-- The effect of a write, noted in the store. -/
def commitInvite (store : InviteStore) (operation : InviteWrite) :
    Except DatabaseError InviteStore :=
  (commit store.tables operation.write).map fun tables =>
    { tables := tables
      redemptions := store.redemptions ++ operation.redeemed
      retired := store.retired ++ retiredIn tables }

/-- What can happen to invites: a redemption with the time it takes place, a revocation, and
the confirmation of an e-mail that a later redemption asks for. -/
inductive InviteRequest where
  | redeem (dto : RedeemInviteDto) (now : Int)
  | revoke (id : Nat)
  | confirmEmail (email : String)

/-- The chosen invites with a status. -/
def setInviteStatus (chosen : Nat → Bool) (status : InviteStatus) (records : Records) : Records :=
  { records with
    invites := records.invites.map fun stored =>
      if chosen stored.id then { stored with status } else stored }

/-- A call on invites, access by access. -/
abbrev InviteProgram := Program InviteStore InviteWrite DatabaseError Failure

/-- A redemption, its writes marked with the invite that its first read finds. -/
def redeem (settings : Settings) (dto : RedeemInviteDto) (now : Int) : InviteProgram Unit :=
  match redeemInvite settings dto now with
  | .reading next => .reading fun store =>
    (next store.tables).embed InviteStore.tables <| InviteWrite.mk <|
      store.tables.records.invites.find? fun invite =>
        decide (invite.tokenHash = settings.hashInviteToken dto.token)
  | program => program.embed InviteStore.tables (InviteWrite.mk none)

/-- The calls that serve the requests. -/
def handleInvite (settings : Settings) : InviteRequest → InviteProgram Unit
  | .redeem dto now => redeem settings dto now
  | .revoke id =>
    .write ⟨none, .changeRecords (setInviteStatus (fun stored => stored == id) .REVOKED)⟩ .database
  | .confirmEmail email =>
    .write ⟨none, .changeRecords fun records =>
      { records with emailVerified := email :: records.emailVerified }⟩ .database

/-- No invite with a limit is redeemed more often than that, and one that was ever used up
or revoked is not active. -/
def Honoured (store : InviteStore) : Prop :=
  ∀ invite ∈ store.tables.records.invites, 0 < invite.maxUses →
    (store.redemptions.count invite.id : Int) ≤ invite.maxUses ∧
      (invite.id ∈ store.retired → invite.status ≠ .ACTIVE)

instance (store : InviteStore) : Decidable (Honoured store) :=
  inferInstanceAs (Decidable (∀ invite ∈ store.tables.records.invites, _ → _ ∧ _))

/-- By the count that was read, the use is the last one. -/
def IsFullyUsed (invite : RegistrationInvite) : Prop :=
  0 < invite.maxUses ∧ invite.maxUses ≤ invite.usedCount + 1

instance (invite : RegistrationInvite) : Decidable (IsFullyUsed invite) :=
  inferInstanceAs (Decidable (_ ∧ _))

/-- What a redemption asks of its invite besides the date: that it is active and, if it has
a limit, has uses left. -/
def Usable (invite : RegistrationInvite) : Prop :=
  invite.status = .ACTIVE ∧ (0 < invite.maxUses → invite.usedCount < invite.maxUses)

instance (invite : RegistrationInvite) : Decidable (Usable invite) :=
  inferInstanceAs (Decidable (_ ∧ (_ → _)))

/-- The invite as a redemption has read it, which it does first. -/
def readInvite (settings : Settings) : InviteRequest → List InviteStore → Option RegistrationInvite
  | .redeem dto _, seen => seen.head?.bind fun first =>
    first.tables.records.invites.find? fun invite =>
      decide (invite.tokenHash = settings.hashInviteToken dto.token)
  | .revoke _, _ | .confirmEmail _, _ => none

/-- An invite that was usable when a redemption read it is so when the redemption commits:
in between no other call has used it up or ended it. -/
def StillUsable (settings : Settings) (request : InviteRequest) (seen : List InviteStore)
    (store : InviteStore) (operation : InviteWrite) : Prop :=
  operation.redeemed ≠ [] → ∀ invite ∈ readInvite settings request seen, Usable invite →
    ∀ stored ∈ store.tables.records.invites, stored.id = invite.id → Usable stored

instance (settings : Settings) (request : InviteRequest) (seen : List InviteStore)
    (store : InviteStore) (operation : InviteWrite) :
    Decidable (StillUsable settings request seen store operation) :=
  inferInstanceAs (Decidable (_ → ∀ _ ∈ _, _ → ∀ _ ∈ _, _ → _))

/-! ## What the calls write -/

/-- The writes of these calls: a redemption by the invite that was read and that was usable
then, or one that keeps the invites or ends some of them. -/
inductive InviteOperation (read : Option RegistrationInvite) : InviteWrite → Prop where
  | redemption (invite : RegistrationInvite) (found : read = some invite) (usable : Usable invite)
    (fleetId : FleetId) (role : UserRole) (email phone : Option String) :
    InviteOperation read ⟨some invite, .createUser fleetId role email phone (useInvite invite)⟩
  | ending (invite : Option RegistrationInvite) (change : Records → Records) (chosen : Nat → Bool)
    (status : InviteStatus) (ended : status ≠ .ACTIVE)
    (changed : ∀ records, (change records).invites = (setInviteStatus chosen status records).invites) :
    InviteOperation read ⟨invite, .changeRecords change⟩

/-- Choosing no invite changes none. -/
theorem setInviteStatus_none (status : InviteStatus) (records : Records) :
    (setInviteStatus (fun _ => false) status records).invites = records.invites := by
  simp [setInviteStatus]

/-- An expiry is a change of status. -/
theorem expireInvite_eq (invite : RegistrationInvite) (records : Records) :
    (expireInvite invite records).invites =
      (setInviteStatus (fun id => decide (id = invite.id)) .EXPIRED records).invites := by
  simp [expireInvite, setInviteStatus]

/-- Clearing a verification changes no invite. -/
theorem clearVerified_makes (read : Option RegistrationInvite) (email : Option String)
    (invite : Option RegistrationInvite) :
    (clearVerified email).Makes fun write => InviteOperation read ⟨invite, write⟩ := by
  rw [clearVerified]
  split
  case h_1 => trivial
  case h_2 =>
    refine ⟨.ending _ _ (fun _ => false) .EXPIRED (by decide) ?_, trivial⟩
    exact fun records => (setInviteStatus_none .EXPIRED _).symm

/-- Matching an invite writes nothing. -/
theorem matchInvite_makes {allowed : Write → Prop} (invite : RegistrationInvite)
    (email phone : Option String) :
    (matchInvite invite email phone).Makes allowed := by
  have phones : (if given invite.phone ≠ none ∧ invite.phone ≠ phone then
      fail (.forbidden "Phone does not match invite") else pure ()).Makes allowed :=
    Program.makes_ite (makes_fail _) trivial
  exact Program.makes_ite (makes_fail _)
    (Program.makes_ite (makes_fail _) (Program.makes_ite (makes_fail _) phones))

/-- The checks of a redemption leave it with an invite that is usable as it was read. -/
theorem redeem_vouches (settings : Settings) (dto : RedeemInviteDto) (now : Int)
    (sound : InviteStore → Prop) :
    Overlaps.Vouches commitInvite sound
      (fun seen => InviteOperation (readInvite settings (.redeem dto now) seen))
      (fun _ _ => True) [] (redeem settings dto now) := by
  obtain ⟨registerEnabled, publicRegisterEnabled, toLowerCase, hashInviteToken⟩ := settings
  cases registerEnabled with
  | false => trivial
  | true =>
    intro store _
    apply Overlaps.vouches_of_makes
    apply Program.makes_embed
    simp only [readInvite, List.nil_append, List.cons_append, List.head?_cons, Option.bind_some,
      forall_const]
    dsimp -zeta only [Program.andThen]
    generalize List.find? _ store.tables.records.invites = found
    cases found with
    | none => exact makes_fail _
    | some invite =>
      refine Program.makes_if (fun _ => makes_fail _) fun active => ?_
      refine Program.makes_if (fun _ => makes_fail _) fun unused => ?_
      have usable : Usable invite :=
        ⟨not_not.mp active, fun limited => Int.not_le.mp fun reached => unused ⟨limited, reached⟩⟩
      refine Program.makes_ite ?_ ?_
      case refine_1 =>
        refine ⟨?_, makes_fail _⟩
        exact .ending _ _ (fun id => decide (id = invite.id)) .EXPIRED (by decide)
          (expireInvite_eq invite)
      case refine_2 =>
        refine Program.makes_bind (assertIdentifierProvided_makes _ _) fun _ => ?_
        refine Program.makes_bind (assertIdentifierUnique_makes _ _) fun _ => ?_
        refine Program.makes_bind (assertEmailVerified_makes _) fun _ => ?_
        refine Program.makes_bind (matchInvite_makes invite _ _) fun _ => ?_
        refine Program.makes_bind ⟨.redemption invite rfl usable _ _ _ _, trivial⟩ fun _ => ?_
        exact clearVerified_makes _ _ _

/-- The checks of every request answer for the invite that it counts. -/
theorem handleInvite_vouches (settings : Settings) (sound : InviteStore → Prop)
    (request : InviteRequest) :
    Overlaps.Vouches commitInvite sound
      (fun seen => InviteOperation (readInvite settings request seen)) (fun _ _ => True) []
      (handleInvite settings request) := by
  cases request with
  | redeem dto now => exact redeem_vouches settings dto now sound
  | revoke id =>
    exact ⟨.ending _ _ (fun stored => stored == id) .REVOKED (by decide) fun _ => rfl,
      fun _ _ _ _ => trivial⟩
  | confirmEmail email =>
    refine ⟨.ending _ _ (fun _ => false) .REVOKED (by decide) ?_, fun _ _ _ _ => trivial⟩
    exact fun records => (setInviteStatus_none .REVOKED _).symm

/-! ## Uses and ends -/

/-- The count of an invite is that of its redemptions, and the history has every invite
that is used up or revoked. -/
structure Chronicled (store : InviteStore) : Prop where
  counted : ∀ invite ∈ store.tables.records.invites,
    invite.usedCount = store.redemptions.count invite.id
  noted : ∀ invite ∈ store.tables.records.invites, isRetired invite = true →
    invite.id ∈ store.retired

/-- A stored invite after a redemption of the invite that was read. -/
def countUse (invite stored : RegistrationInvite) : RegistrationInvite :=
  if stored.id = invite.id then
    { stored with
      usedCount := stored.usedCount + 1
      status := if IsFullyUsed invite then .USED else .ACTIVE }
  else stored

/-- A counted invite stays the same invite. -/
@[simp] theorem countUse_id (invite stored : RegistrationInvite) :
    (countUse invite stored).id = stored.id := by
  rw [countUse]
  split
  case isTrue => rfl
  case isFalse => rfl

/-- A counted invite keeps its limit. -/
@[simp] theorem countUse_maxUses (invite stored : RegistrationInvite) :
    (countUse invite stored).maxUses = stored.maxUses := by
  rw [countUse]
  split
  case isTrue => rfl
  case isFalse => rfl

/-- The count of one invite leaves the others. -/
theorem countUse_other {invite stored : RegistrationInvite} (different : stored.id ≠ invite.id) :
    countUse invite stored = stored :=
  if_neg different

/-- A counted invite is used up or active. -/
theorem countUse_status {invite stored : RegistrationInvite} (same : stored.id = invite.id) :
    (countUse invite stored).status = if IsFullyUsed invite then .USED else .ACTIVE := by
  rw [countUse, if_pos same]

section Commits

variable {store written : InviteStore} {operation : InviteWrite}

/-- Writing an account leaves the invites. -/
theorem put_records {tables stored : Tables} {user : User} (accepted : put tables user = .ok stored) :
    stored.records = tables.records := by
  rw [put] at accepted
  split at accepted
  case isTrue => cases accepted
  case isFalse =>
    cases accepted
    rfl

/-- A redemption that is accepted counts one use of its invite in the tables, and one
redemption in the history. -/
theorem commitInvite_redemption {invite : RegistrationInvite} {fleetId : FleetId} {role : UserRole}
    {email phone : Option String}
    (accepted : commitInvite store
      ⟨some invite, .createUser fleetId role email phone (useInvite invite)⟩ = .ok written) :
    written.tables.records.invites = store.tables.records.invites.map (countUse invite) ∧
      written.redemptions = store.redemptions ++ [invite.id] ∧
      written.retired = store.retired ++ retiredIn written.tables := by
  rw [commitInvite] at accepted
  cases committed : commit store.tables (.createUser fleetId role email phone (useInvite invite)) with
  | error error =>
    rw [committed] at accepted
    cases accepted
  | ok tables =>
    rw [committed] at accepted
    cases accepted
    refine ⟨?_, rfl, rfl⟩
    rw [commit] at committed
    cases used : useInvite invite store.tables.records with
    | error error =>
      rw [used] at committed
      cases committed
    | ok records =>
      rw [used] at committed
      dsimp only at committed
      split at committed
      case isFalse => cases committed
      case isTrue =>
        have kept : tables.records = records := put_records committed
        rw [useInvite] at used
        split at used
        case isFalse => cases used
        case isTrue =>
          cases used
          rw [kept]
          apply List.map_congr_left
          intro stored _
          have fullyUsed : decide (0 < invite.maxUses ∧ invite.maxUses ≤ invite.usedCount + 1) =
              decide (IsFullyUsed invite) := rfl
          simp only [countUse, fullyUsed, decide_eq_true_eq]

/-- A change of status ends the chosen invites. -/
theorem commitInvite_ending {invite : Option RegistrationInvite} {change : Records → Records}
    {chosen : Nat → Bool} {status : InviteStatus}
    (changed : ∀ records, (change records).invites = (setInviteStatus chosen status records).invites)
    (accepted : commitInvite store ⟨invite, .changeRecords change⟩ = .ok written) :
    written.tables.records.invites = store.tables.records.invites.map (fun stored =>
        if chosen stored.id then { stored with status } else stored) ∧
      written.redemptions = store.redemptions ∧
      written.retired = store.retired ++ retiredIn written.tables := by
  cases accepted
  refine ⟨changed store.tables.records, ?_, rfl⟩
  cases invite with
  | none => exact List.append_nil _
  | some invite => exact List.append_nil _

/-- Only an invite that the write itself ends is newly noted as ended. -/
theorem mem_retired {change : RegistrationInvite → RegistrationInvite}
    (chronicled : Chronicled store)
    (invites : written.tables.records.invites = store.tables.records.invites.map change)
    (retired : written.retired = store.retired ++ retiredIn written.tables)
    (identified : ∀ invite, (change invite).id = invite.id) {id : Nat}
    (later : id ∈ written.retired) : id ∈ store.retired ∨
      ∃ invite ∈ store.tables.records.invites, invite.id = id ∧ change invite ≠ invite ∧
        isRetired (change invite) = true := by
  rw [retired] at later
  cases List.mem_append.mp later with
  | inl before => exact .inl before
  | inr now =>
    obtain ⟨row, kept, same⟩ := List.mem_map.mp now
    obtain ⟨listed, usedUp⟩ := List.mem_filter.mp kept
    rw [invites] at listed
    obtain ⟨invite, stored, changed⟩ := List.mem_map.mp listed
    subst changed
    rw [identified] at same
    by_cases unchanged : change invite = invite
    case pos =>
      rw [unchanged] at usedUp
      exact .inl (same ▸ chronicled.noted invite stored usedUp)
    case neg => exact .inr ⟨invite, stored, same, unchanged, usedUp⟩

/-- A redemption adds one to the count of its invite. -/
theorem count_redemptions {invite : RegistrationInvite}
    (redemptions : written.redemptions = store.redemptions ++ [invite.id]) (id : Nat) :
    written.redemptions.count id =
      store.redemptions.count id + if id = invite.id then 1 else 0 := by
  rw [redemptions, List.count_append, List.count_singleton]
  by_cases same : id = invite.id
  case pos => simp [same]
  case neg => simp [same, Ne.symm same]

/-- Every write keeps the chronicle. -/
theorem chronicled_commit {read : Option RegistrationInvite} (chronicled : Chronicled store)
    (allowed : InviteOperation read operation)
    (accepted : commitInvite store operation = .ok written) : Chronicled written := by
  cases allowed with
  | redemption invite _ _ fleetId role email phone =>
    obtain ⟨invites, redemptions, retired⟩ := commitInvite_redemption accepted
    constructor
    · intro row listed
      rw [invites] at listed
      obtain ⟨stored, before, same⟩ := List.mem_map.mp listed
      subst same
      rw [countUse_id, count_redemptions redemptions]
      have counted := chronicled.counted stored before
      by_cases chosen : stored.id = invite.id
      case pos =>
        rw [countUse, if_pos chosen, if_pos chosen]
        dsimp only
        rw [counted]
        push_cast
        rfl
      case neg =>
        rw [countUse_other chosen, if_neg chosen]
        exact counted
    · intro row listed usedUp
      rw [retired]
      exact List.mem_append_right _ (List.mem_map.mpr ⟨row, List.mem_filter.mpr ⟨listed, usedUp⟩, rfl⟩)
  | ending invite change chosen status ended changed =>
    obtain ⟨invites, redemptions, retired⟩ := commitInvite_ending changed accepted
    constructor
    · intro row listed
      rw [invites] at listed
      obtain ⟨stored, before, same⟩ := List.mem_map.mp listed
      subst same
      rw [redemptions]
      have counted := chronicled.counted stored before
      split
      case isTrue => exact counted
      case isFalse => exact counted
    · intro row listed usedUp
      rw [retired]
      exact List.mem_append_right _ (List.mem_map.mpr ⟨row, List.mem_filter.mpr ⟨listed, usedUp⟩, rfl⟩)

/-- One more use of an invite that still is usable does not honour it less. -/
theorem honoured_redemption {invite : RegistrationInvite} {fleetId : FleetId} {role : UserRole}
    {email phone : Option String} (chronicled : Chronicled store) (honoured : Honoured store)
    (usable : ∀ stored ∈ store.tables.records.invites, stored.id = invite.id → Usable stored)
    (accepted : commitInvite store
      ⟨some invite, .createUser fleetId role email phone (useInvite invite)⟩ = .ok written) :
    Honoured written := by
  obtain ⟨invites, redemptions, retired⟩ := commitInvite_redemption accepted
  have newly := fun id => @mem_retired store written _ chronicled invites retired
    (countUse_id invite) id
  intro row listed positive
  rw [invites] at listed
  obtain ⟨stored, before, same⟩ := List.mem_map.mp listed
  subst same
  rw [countUse_maxUses] at positive
  rw [countUse_id, countUse_maxUses, count_redemptions redemptions]
  obtain ⟨within, ended⟩ := honoured stored before positive
  by_cases chosen : stored.id = invite.id
  case pos =>
    obtain ⟨active, room⟩ := usable stored before chosen
    have counted := chronicled.counted stored before
    have spare := room positive
    rw [if_pos chosen, countUse_status chosen]
    refine ⟨by omega, ?_⟩
    intro usedUp
    cases newly stored.id usedUp with
    | inl earlier => exact absurd active (ended earlier)
    | inr now =>
      obtain ⟨other, -, sameId, -, isOver⟩ := now
      -- only a use that is the last one by the count that was read retires the invite
      by_cases fully : IsFullyUsed invite
      case pos => simp [fully]
      case neg => simp [isRetired, countUse_status (sameId.trans chosen), fully] at isOver
  case neg =>
    rw [if_neg chosen, Nat.add_zero, countUse_other chosen]
    refine ⟨within, ?_⟩
    intro usedUp
    cases newly stored.id usedUp with
    | inl earlier => exact ended earlier
    | inr now =>
      obtain ⟨other, -, sameId, changed, -⟩ := now
      exact absurd (countUse_other fun same => chosen (sameId.symm.trans same)) changed

/-- What ends invites neither redeems nor revives one. -/
theorem honoured_ending {invite : Option RegistrationInvite} {change : Records → Records}
    {chosen : Nat → Bool} {status : InviteStatus} (ended : status ≠ .ACTIVE)
    (changed : ∀ records, (change records).invites = (setInviteStatus chosen status records).invites)
    (chronicled : Chronicled store) (honoured : Honoured store)
    (accepted : commitInvite store ⟨invite, .changeRecords change⟩ = .ok written) :
    Honoured written := by
  obtain ⟨invites, redemptions, retired⟩ := commitInvite_ending changed accepted
  have identified : ∀ stored : RegistrationInvite,
      (if chosen stored.id then { stored with status } else stored).id = stored.id := by
    intro stored
    split
    case isTrue => rfl
    case isFalse => rfl
  intro row listed positive
  rw [invites] at listed
  obtain ⟨stored, before, same⟩ := List.mem_map.mp listed
  subst same
  rw [identified, redemptions]
  by_cases ending : chosen stored.id = true
  case pos =>
    rw [if_pos ending] at positive ⊢
    exact ⟨(honoured stored before positive).1, fun _ => ended⟩
  case neg =>
    rw [if_neg ending] at positive ⊢
    obtain ⟨within, stays⟩ := honoured stored before positive
    refine ⟨within, ?_⟩
    intro usedUp
    cases mem_retired chronicled invites retired identified usedUp with
    | inl earlier => exact stays earlier
    | inr now =>
      obtain ⟨other, -, sameId, differs, -⟩ := now
      rw [sameId, if_neg ending] at differs
      exact absurd rfl differs

end Commits

/-- Over every interleaving of redemptions, expiry and revocations in which no other call
uses up or ends an invite between the read of a redemption and its commit, no invite is
redeemed more often than it may be, and none that was used up or revoked becomes active
again. -/
theorem invites_honoured (settings : Settings) {store : InviteStore}
    (chronicled : Chronicled store) (honoured : Honoured store)
    {actions : List (Action InviteRequest)}
    (timely : Along (Overlaps.watch commitInvite (handleInvite settings))
      (fun before action _ => Overlaps.Meets commitInvite (StillUsable settings) before action)
      (Overlaps.Watched.begun store) actions) :
    Along (step commitInvite (handleInvite settings)) (fun _ _ next => Honoured next.store)
      ⟨store, []⟩ actions := by
  refine @Overlaps.along_holds _ _ _ _ _ _ _ (fun store => Chronicled store ∧ Honoured store)
    (fun request seen => InviteOperation (readInvite settings request seen)) _ _
    (handleInvite_vouches settings _) (fun _ both => both.2) ?_ _ _ ⟨chronicled, honoured⟩ timely
  intro request seen store operation written ⟨chronicled, honoured⟩ allowed usable accepted
  refine ⟨chronicled_commit chronicled allowed accepted, ?_⟩
  cases allowed with
  | redemption invite found wasUsable fleetId role email phone =>
    exact honoured_redemption chronicled honoured
      (usable (List.cons_ne_nil _ _) invite found wasUsable) accepted
  | ending invite change chosen status ended changed =>
    exact honoured_ending ended changed chronicled honoured accepted

/-- An invite for one rider of a fleet. -/
def sampleInvite : RegistrationInvite where
  id := 1
  tokenHash := "code"
  fleetId := 1
  role := .RIDER
  email := none
  phone := none
  maxUses := 1
  usedCount := 0
  status := .ACTIVE
  expiresAt := 1000

/-- A fleet with one invite. -/
def invitingFleet : InviteStore where
  tables := { users := [], nextId := 2, records := ⟨[1], [sampleInvite], []⟩ }
  redemptions := []
  retired := []

/-- Its chronicle is in order. -/
theorem invitingFleet_chronicled : Chronicled invitingFleet where
  counted := by decide
  noted := by decide

/-- Its limit is honoured. -/
theorem invitingFleet_honoured : Honoured invitingFleet := by decide

/-- Two riders hold the code of the invite. -/
def twoRedemptions : List (Action InviteRequest) :=
  [.submit (.redeem ⟨"code", none, some "0788000001"⟩ 10),
    .submit (.redeem ⟨"code", none, some "0788000002"⟩ 20)]

/-- One after the other, and the invite is revoked at last. -/
theorem invites_honoured_invitingFleet :
    Along (step commitInvite (handleInvite sampleSettings)) (fun _ _ next => Honoured next.store)
      ⟨invitingFleet, []⟩
      (twoRedemptions ++ [.advance 0, .advance 0, .advance 0, .advance 1] ++
        [.submit (.revoke 1), .advance 2]) :=
  invites_honoured sampleSettings invitingFleet_chronicled invitingFleet_honoured
    (along_of_decide (by decide +kernel))

/-- Both read the invite before either counts its use, and both become riders. -/
theorem invite_redeemed_twice :
    ¬ ∀ settings store, Chronicled store → Honoured store → ∀ actions,
      Along (step commitInvite (handleInvite settings)) (fun _ _ next => Honoured next.store)
        ⟨store, []⟩ actions := by
  intro always
  refine not_along_of_check (⟨invitingFleet, []⟩ : System _ _ _ _)
    (twoRedemptions ++ [.advance 0, .advance 1, .advance 0, .advance 0, .advance 1]) (.advance 1)
    (fun _ next (broken : decide (¬ Honoured next.store) = true) => of_decide_eq_true broken) ?_
    (always sampleSettings invitingFleet invitingFleet_chronicled invitingFleet_honoured _)
  decide +kernel

end EmotoFleet.Accounts
