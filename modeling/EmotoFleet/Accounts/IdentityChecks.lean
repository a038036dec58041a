import EmotoFleet.Accounts.UserIdentities
import EmotoFleet.Foundations.Overlaps

/-!
# What the searches for other holders are worth

Each operation that writes an account looks for a holder of the e-mail and of the phone
before it does so. Its search covers some of the accounts and misses others: those that
other calls write after the search, those of other fleets, and those that hold the
identifier in another spelling. No two accounts ever share an identifier exactly if nobody
holds one that is stored whom the search of the operation does not cover.
-/

namespace EmotoFleet.Accounts

open EmotoFleet.Runs EmotoFleet.Interleavings
open WhiteSpace (trim)

/-- What an account is known by. -/
inductive Identifier where
  | email
  | phone
  deriving DecidableEq

namespace Identifier

/-- The identifier of an account. -/
def of : Identifier → User → Option String
  | .email, user => user.email
  | .phone, user => user.phone

/-- The form in which two identifiers are compared. -/
def compared (settings : Settings) : Identifier → Option String → Option String
  | .email, text => (given text).map fun text => settings.toLowerCase (trim text)
  | .phone, text => (given text).map trim

/-- The clause that looks an identifier up. -/
def clause : Identifier → String → Clause
  | .email => .email
  | .phone => .phone

/-- What a write sets the identifier to, if it sets it. -/
def setBy : Identifier → Write → Option (Option String)
  | .email, .createFleet _ text _ | .email, .createUser _ _ text _ _ => some text
  | .phone, .createFleet _ _ text | .phone, .createUser _ _ _ text _ => some text
  | .email, .updateUser _ _ change _ => change
  | .phone, .updateUser _ _ _ change => change
  | .email, .changeRecords _ | .phone, .changeRecords _ => none

end Identifier

section Coverage

variable (settings : Settings)

/-- An account that stood, as it is now, in every table that a call has read. -/
def Present (seen : List Tables) (other : User) : Prop := ∀ table ∈ seen, other ∈ table.users

/-- An identifier that is stored or requested in the form in which it is compared. -/
def Spelt (identifier : Identifier) (text : Option String) : Prop :=
  identifier.compared settings text = given text

/-- The rider as an update has read it, which it does first. -/
def readRider (seen : List Tables) (actorFleetId : FleetId) (riderId : UserId) : Option User :=
  seen.head?.bind fun first => first.users.find? fun user =>
    decide (user.id = riderId ∧ user.fleetId = actorFleetId ∧ user.role = .RIDER)

/-- The account as an update of the headquarters has read it. -/
def readUser (seen : List Tables) (id : UserId) : Option User :=
  seen.head?.bind fun first => findUser first id

/-- The identifier that a request asks for. -/
def requested : Identifier → Request → Option String
  | .email, .registerFleet dto => dto.email.map settings.toLowerCase
  | .phone, .registerFleet dto => dto.phone
  | .email, .redeemInvite dto _ => dto.email.map settings.toLowerCase
  | .phone, .redeemInvite dto _ => dto.phone
  | .email, .createRider _ dto => dto.email.map settings.toLowerCase
  | .phone, .createRider _ dto => dto.phone
  | .email, .updateRider _ _ dto => dto.email.map settings.toLowerCase
  | .phone, .updateRider _ _ dto => dto.phone.join
  | .email, .createUserForFleet _ body => given (body.email.map settings.toLowerCase)
  | .phone, .createUserForFleet _ body => given body.phone
  | .email, .updateUserHq _ body => body.email.map settings.toLowerCase
  | .phone, .updateUserHq _ body => body.phone.join
  | .email, .createInsurer body => body.email
  | .phone, .createInsurer body => body.phone
  | .email, .changeRecords _ | .phone, .changeRecords _ => none

/-- The accounts that the search of a request covers, for one identifier. -/
def Covers (request : Request) (seen : List Tables) (identifier : Identifier) (other : User) : Prop :=
  Present seen other ∧ Spelt settings identifier (identifier.of other) ∧
    match request with
    | .registerFleet _ | .redeemInvite _ _ | .createRider _ _ => True
    | .updateRider actorFleetId riderId _ =>
      -- an identifier that is the rider's already is not searched for
      ∃ rider ∈ readRider seen actorFleetId riderId,
        requested settings identifier request ≠ identifier.of rider
    | .createUserForFleet fleetId _ =>
      other.fleetId = fleetId ∧
        Spelt settings identifier (requested settings identifier request)
    | .updateUserHq id _ =>
      ∃ user ∈ readUser seen id, requested settings identifier request ≠ identifier.of user ∧
        other.fleetId = user.fleetId ∧
        Spelt settings identifier (requested settings identifier request)
    | .createInsurer _ | .changeRecords _ => False

/-- Where a write changes an identifier of an account, no account that the search of the
call does not cover holds the new one. -/
def FreeOutside (request : Request) (seen : List Tables) (tables : Tables) (operation : Write) :
    Prop :=
  ∀ stored ∈ row tables operation, ∀ identifier : Identifier,
    identifier.compared settings (identifier.of stored) ≠ none →
    (∀ old ∈ findUser tables stored.id, identifier.compared settings (identifier.of old) ≠
      identifier.compared settings (identifier.of stored)) →
    ∀ other ∈ tables.users, other.id ≠ stored.id → ¬ Covers settings request seen identifier other →
      identifier.compared settings (identifier.of other) ≠
        identifier.compared settings (identifier.of stored)

/-- What the search of a call has shown: none of the accounts that it covers holds what the
call writes. -/
def Searched (request : Request) (seen : List Tables) (operation : Write) : Prop :=
  ∀ identifier : Identifier, ∀ text ∈ identifier.setBy operation,
    identifier.compared settings text ≠ none → ∀ other, Covers settings request seen identifier other →
      identifier.compared settings (identifier.of other) ≠ identifier.compared settings text

end Coverage

section Identifiers

variable {settings : Settings} {tables : Tables}

/-- An account that is found is listed under its number. -/
theorem findUser_found {id : UserId} {user : User} (found : findUser tables id = some user) :
    user ∈ tables.users ∧ user.id = id := by
  rw [findUser] at found
  exact ⟨List.mem_of_find?_eq_some found, by simpa using List.find?_some found⟩

/-- Two accounts share what one of the identifiers has in common. -/
theorem shares_iff {left right : User} :
    Shares settings left right ↔ ∃ identifier : Identifier,
      identifier.compared settings (identifier.of left) ≠ none ∧
        identifier.compared settings (identifier.of left) =
          identifier.compared settings (identifier.of right) := by
  constructor
  · rintro (email | phone)
    · exact ⟨.email, email⟩
    · exact ⟨.phone, phone⟩
  · rintro ⟨identifier, same⟩
    cases identifier with
    | email => exact Or.inl same
    | phone => exact Or.inr same

/-- The account that a write stores has what the write sets, and otherwise what the account
in its place has. -/
theorem of_row {operation : Write} {stored : User} (storing : row tables operation = some stored)
    (identifier : Identifier) :
    identifier.setBy operation = some (identifier.of stored) ∨
      ∃ old, findUser tables stored.id = some old ∧ identifier.of stored = identifier.of old := by
  cases operation with
  | createFleet role email phone =>
    cases storing
    cases identifier
    all_goals exact Or.inl rfl
  | createUser fleetId role email phone change =>
    cases storing
    cases identifier
    all_goals exact Or.inl rfl
  | updateUser id role email phone =>
    obtain ⟨old, found, rfl⟩ := Option.map_eq_some_iff.mp storing
    have same := (findUser_found found).2
    have kept : findUser tables (updated old role email phone).id = some old := by
      change findUser tables old.id = some old
      rw [same, found]
    cases identifier with
    | email =>
      cases email with
      | none => exact Or.inr ⟨old, kept, rfl⟩
      | some text => exact Or.inl rfl
    | phone =>
      cases phone with
      | none => exact Or.inr ⟨old, kept, rfl⟩
      | some text => exact Or.inl rfl
  | changeRecords change => cases storing

/-- After the search of a call nobody else holds the identifiers that it stores exactly if
nobody does whom the search does not cover. -/
theorem unheld_iff (distinct : GloballyUnique settings tables) {request : Request}
    {seen : List Tables} {operation : Write} (searched : Searched settings request seen operation) :
    Unheld settings tables operation ↔ FreeOutside settings request seen tables operation := by
  constructor
  · intro unheld stored storing identifier given_ _ other listed different _ same
    exact unheld stored storing other listed different
      (shares_iff.mpr ⟨identifier, by rw [same]; exact given_, same⟩)
  · intro free stored storing other listed different shared
    obtain ⟨identifier, given_, same⟩ := shares_iff.mp shared
    rw [same] at given_
    -- what an account has already is shared with nobody
    have changed : ∀ old ∈ findUser tables stored.id,
        identifier.compared settings (identifier.of old) ≠
          identifier.compared settings (identifier.of stored) := by
      intro old found equal
      obtain ⟨oldListed, oldId⟩ := findUser_found found
      have one := eq_of_shares distinct listed oldListed
        (shares_iff.mpr ⟨identifier, by rw [same]; exact given_, same.trans equal.symm⟩)
      exact different (one ▸ oldId)
    by_cases covered : Covers settings request seen identifier other
    case neg => exact free stored storing identifier given_ changed other listed different covered same
    case pos =>
      rcases of_row storing identifier with set | ⟨old, found, kept⟩
      case inl => exact searched identifier _ set given_ other covered same
      case inr => exact changed old found (congrArg _ kept.symm)

end Identifiers

/-! ## What each search shows -/

/-- For each clause of a search there is a table in which no account inside some bounds
matches it. -/
def Missing (inside : User → Prop) (seen : List Tables) (clauses : List Clause) : Prop :=
  ∀ clause ∈ clauses, ∃ table ∈ seen, ∀ user ∈ table.users, inside user → clause.matches user = false

section Checks

variable {sound : Tables → Prop} {vouched : List Tables → Write → Prop}
  {concluded : List Tables → Unit → Prop} {seen : List Tables} {inside : User → Prop}
  {clauses : List Clause}

/-- What was missing in one of the tables was missing. -/
theorem missing_append (missing : Missing inside seen clauses) (more : List Tables) :
    Missing inside (seen ++ more) clauses := by
  intro clause sought
  obtain ⟨table, listed, missed⟩ := missing clause sought
  exact ⟨table, List.mem_append_left _ listed, missed⟩

/-- What a lookup does not find is missing in its tables. -/
theorem missing_of_findFirst {table : Tables} (listed : table ∈ seen)
    (unfound : findFirst table clauses = none) : Missing inside seen clauses := by
  intro clause sought
  refine ⟨table, listed, fun user stored _ => ?_⟩
  have missed := List.find?_eq_none.mp unfound user stored
  rw [Bool.not_eq_true, List.any_eq_false] at missed
  exact Bool.not_eq_true _ ▸ missed clause sought

/-- The check of the identifiers writes nothing. -/
theorem assertIdentifierProvided_vouches (email phone : Option String) (next : concluded seen ()) :
    Overlaps.Vouches commit sound vouched concluded seen (assertIdentifierProvided email phone) :=
  Overlaps.vouches_ite (fun _ => trivial) fun _ => next

/-- Behind the check nobody was known by the identifiers. -/
theorem assertIdentifierUnique_vouches (settings : Settings) (email phone : Option String)
    (next : ∀ more, Missing (fun _ => True) (seen ++ more) (orClauses
        ((given email).map fun text => settings.toLowerCase (trim text)) ((given phone).map trim)) →
      concluded (seen ++ more) ()) :
    Overlaps.Vouches commit sound vouched concluded seen
      (assertIdentifierUnique settings email phone) := by
  apply Overlaps.vouches_ite
  case left =>
    intro nothing
    have now := next [] fun clause sought => by
      rw [nothing] at sought
      cases sought
    rwa [List.append_nil] at now
  case right =>
    intro _ table _
    dsimp only
    split
    case h_1 unfound =>
      exact next [table] (missing_of_findFirst (List.mem_append_right _ (List.mem_singleton_self _)) unfound)
    case h_2 => trivial

/-- The check of the verification writes nothing. -/
theorem assertEmailVerified_vouches (email : Option String)
    (next : ∀ more, concluded (seen ++ more) ()) :
    Overlaps.Vouches commit sound vouched concluded seen (assertEmailVerified email) := by
  rw [assertEmailVerified]
  split
  case h_1 =>
    have now := next []
    rwa [List.append_nil] at now
  case h_2 =>
    exact fun table _ => Overlaps.vouches_ite (fun _ => next [table]) fun _ => trivial

/-- An invite that matches names no identifier that the request does not. -/
theorem matchInvite_vouches (invite : RegistrationInvite) (email phone : Option String)
    (next : (given email = none → given invite.email = none) →
      (given phone = none → given invite.phone = none) → concluded seen ()) :
    Overlaps.Vouches commit sound vouched concluded seen (matchInvite invite email phone) := by
  refine Overlaps.vouches_ite (fun _ => trivial) fun emailAsked => ?_
  refine Overlaps.vouches_ite (fun _ => trivial) fun _ => ?_
  refine Overlaps.vouches_ite (fun _ => trivial) fun phoneAsked => ?_
  refine Overlaps.vouches_ite (fun _ => trivial) fun _ => ?_
  exact next (fun missing => not_not.mp fun asked => emailAsked ⟨asked, missing⟩)
    fun missing => not_not.mp fun asked => phoneAsked ⟨asked, missing⟩

/-- Behind the check nobody of the fleet was known by the identifier. -/
theorem assertFreeInFleet_vouches (fleetId : FleetId) (clause : Option Clause) (message : String)
    (next : ∀ more, Missing (fun user => user.fleetId = fleetId) (seen ++ more) clause.toList →
      concluded (seen ++ more) ()) :
    Overlaps.Vouches commit sound vouched concluded seen
      (assertFreeInFleet fleetId clause message) := by
  cases clause with
  | none =>
    have now := next [] fun clause sought => absurd sought List.not_mem_nil
    rwa [List.append_nil] at now
  | some clause =>
    intro table _
    refine Overlaps.vouches_ite (fun _ => trivial) fun unheld => next [table] fun other sought => ?_
    obtain rfl := List.mem_singleton.mp sought
    refine ⟨table, List.mem_append_right _ (List.mem_singleton_self _), fun user listed ours => ?_⟩
    rw [Bool.not_eq_true, List.any_eq_false] at unheld
    simpa [ours] using unheld user listed

/-- Clearing a verification changes records only. -/
theorem clearVerified_vouches (email : Option String)
    (unrelated : ∀ more change, vouched (seen ++ more) (.changeRecords change)) :
    Overlaps.Vouches commit sound vouched (fun _ _ => True) seen (clearVerified email) := by
  rw [clearVerified]
  split
  case h_1 => trivial
  case h_2 =>
    have now := unrelated []
    rw [List.append_nil] at now
    exact ⟨now _, fun _ _ _ _ => trivial⟩

end Checks

/-! ## What the calls know when they write -/

section Writers

variable {settings : Settings} {sound : Tables → Prop} {seen : List Tables} {inside : User → Prop}
  {clauses : List Clause} {request : Request} {operation : Write}

/-- The one of two texts that belongs to an identifier. -/
def Identifier.pick : Identifier → Option String → Option String → Option String
  | .email, text, _ => text
  | .phone, _, text => text

/-- The clause of a given identifier is among those that are looked up. -/
theorem clause_sought {identifier : Identifier} {email phone : Option String} {key : String}
    (same : identifier.pick email phone = some key) :
    identifier.clause key ∈ orClauses email phone := by
  cases identifier with
  | email =>
    obtain rfl : email = some key := same
    exact List.mem_append_left _ (List.mem_singleton_self _)
  | phone =>
    obtain rfl : phone = some key := same
    exact List.mem_append_right _ (List.mem_singleton_self _)

/-- A search shows what it covers, if the accounts that it covers lie inside its bounds and
the identifiers that are written are among its clauses. -/
theorem searched_of_missing (missing : Missing inside seen clauses)
    (bounded : ∀ identifier other, Covers settings request seen identifier other → inside other)
    (sought : ∀ identifier : Identifier, ∀ text ∈ identifier.setBy operation, ∀ key,
      identifier.compared settings text = some key →
      ∀ other, Covers settings request seen identifier other → identifier.clause key ∈ clauses) :
    Searched settings request seen operation := by
  intro identifier text set nonempty other covered same
  obtain ⟨key, compared⟩ := Option.ne_none_iff_exists'.mp nonempty
  obtain ⟨table, listed, missed⟩ := missing _ (sought identifier text set key compared other covered)
  have unmatched := missed other (covered.1 table listed) (bounded identifier other covered)
  have held : identifier.of other = some key :=
    (given_eq_some (covered.2.1.symm.trans (same.trans compared))).1
  cases identifier with
  | email => exact absurd (decide_eq_true held) (Bool.eq_false_iff.mp unmatched)
  | phone => exact absurd (decide_eq_true held) (Bool.eq_false_iff.mp unmatched)

/-- A change of records needs no search. -/
theorem searched_changeRecords (change : Records → Records) :
    Searched settings request seen (.changeRecords change) := by
  intro identifier text set
  cases identifier
  all_goals cases set

/-- Identifiers that are given alike are compared alike. -/
theorem compared_congr (identifier : Identifier) {left right : Option String}
    (same : given left = given right) :
    identifier.compared settings left = identifier.compared settings right := by
  cases identifier
  all_goals simp only [Identifier.compared, same]

/-- An identifier with an empty fallback is compared as itself. -/
theorem compared_orElse (identifier : Identifier) {text other : Option String}
    (named : given text = none → given other = none) :
    identifier.compared settings (text <|> other) = identifier.compared settings text := by
  cases text with
  | none => exact compared_congr identifier (named rfl)
  | some text => rfl

/-- A registration searches for the identifiers of its account. -/
theorem registerFleet_vouches (dto : RegisterFleetDto) :
    Overlaps.Vouches commit sound (Searched settings (.registerFleet dto)) (fun _ _ => True) []
      (registerFleet settings dto) := by
  refine Overlaps.vouches_ite (fun _ => ?_) fun _ => trivial
  refine Overlaps.vouches_ite (fun _ => ?_) fun _ => trivial
  rw [Overlaps.vouches_bind]
  apply assertIdentifierProvided_vouches
  rw [Overlaps.vouches_bind]
  refine assertIdentifierUnique_vouches settings _ _ fun shown missing => ?_
  rw [Overlaps.vouches_bind]
  refine assertEmailVerified_vouches _ fun more => ?_
  rw [Overlaps.vouches_bind, Overlaps.vouches_write]
  refine ⟨?_, fun _ _ _ _ => clearVerified_vouches _ fun _ _ => searched_changeRecords _⟩
  refine searched_of_missing (missing_append missing more) (fun _ _ _ => trivial) ?_
  intro identifier text set key compared _ _
  apply clause_sought
  cases identifier
  all_goals
    cases set
    exact compared

/-- A redemption searches for the identifiers of its account. -/
theorem redeemInvite_vouches (dto : RedeemInviteDto) (now : Int) :
    Overlaps.Vouches commit sound (Searched settings (.redeemInvite dto now)) (fun _ _ => True) []
      (redeemInvite settings dto now) := by
  refine Overlaps.vouches_ite (fun _ => ?_) fun _ => trivial
  rw [Overlaps.vouches_bind, Overlaps.vouches_read]
  intro first _
  cases first.records.invites.find? fun invite =>
      decide (invite.tokenHash = settings.hashInviteToken dto.token) with
  | none => trivial
  | some invite =>
    refine Overlaps.vouches_ite (fun _ => trivial) fun _ => ?_
    refine Overlaps.vouches_ite (fun _ => trivial) fun _ => ?_
    apply Overlaps.vouches_ite
    case left => exact fun _ => ⟨searched_changeRecords _, fun _ _ _ _ => trivial⟩
    case right =>
      intro _
      rw [Overlaps.vouches_bind]
      apply assertIdentifierProvided_vouches
      rw [Overlaps.vouches_bind]
      refine assertIdentifierUnique_vouches settings _ _ fun shown missing => ?_
      rw [Overlaps.vouches_bind]
      refine assertEmailVerified_vouches _ fun more => ?_
      rw [Overlaps.vouches_bind]
      refine matchInvite_vouches invite _ _ fun emailNamed phoneNamed => ?_
      rw [Overlaps.vouches_bind, Overlaps.vouches_write]
      refine ⟨?_, fun _ _ _ _ => clearVerified_vouches _ fun _ _ => searched_changeRecords _⟩
      refine searched_of_missing (missing_append missing more) (fun _ _ _ => trivial) ?_
      intro identifier text set key compared _ _
      apply clause_sought
      -- what the invite adds to the request counts as missing
      cases identifier with
      | email =>
        cases set
        exact (compared_orElse .email emailNamed).symm.trans compared
      | phone =>
        cases set
        exact (compared_orElse .phone phoneNamed).symm.trans compared

/-- Lower case stays as it is, also without the white space around it. -/
def LowersOnce (settings : Settings) : Prop :=
  ∀ text, settings.toLowerCase (trim (settings.toLowerCase text)) = trim (settings.toLowerCase text)

/-- A lowered address is compared as itself. -/
theorem compared_lowered (lowers : LowersOnce settings) (email : Option String) :
    Identifier.email.compared settings (email.map settings.toLowerCase) =
      (given (email.map settings.toLowerCase)).map trim := by
  cases email with
  | none => rfl
  | some text =>
    rw [Identifier.compared]
    cases filled : given (Option.map settings.toLowerCase (some text)) with
    | none => rfl
    | some lowered =>
      obtain ⟨same, -⟩ := given_eq_some filled
      cases same
      exact congrArg some (lowers text)

/-- A new rider's identifiers are searched for. -/
theorem createRider_vouches (lowers : LowersOnce settings) (actorFleetId : FleetId)
    (dto : CreateRiderDto) :
    Overlaps.Vouches commit sound (Searched settings (.createRider actorFleetId dto))
      (fun _ _ => True) [] (createRider settings actorFleetId dto) := by
  have write : ∀ shown, Missing (fun _ => True) shown (orClauses
      ((given (dto.email.map settings.toLowerCase)).map trim) ((given dto.phone).map trim)) →
      Searched settings (.createRider actorFleetId dto) shown
        (.createUser actorFleetId .RIDER (dto.email.map settings.toLowerCase) dto.phone .ok) := by
    intro shown missing
    refine searched_of_missing missing (fun _ _ _ => trivial) ?_
    intro identifier text set key compared _ _
    apply clause_sought
    cases identifier with
    | email =>
      cases set
      exact (compared_lowered lowers dto.email).symm.trans compared
    | phone =>
      cases set
      exact compared
  apply Overlaps.vouches_ite
  case left =>
    intro _ table _
    dsimp only [Program.andThen]
    split
    case h_1 unfound =>
      exact ⟨write [table] (missing_of_findFirst (List.mem_singleton_self _) unfound),
        fun _ _ _ _ => trivial⟩
    case h_2 => trivial
  case right =>
    intro none_
    refine ⟨write [] fun clause sought => ?_, fun _ _ _ _ => trivial⟩
    rw [not_not.mp none_] at sought
    cases sought

/-- Whom a search finds by an identifier of the request, the operation names as its holder. -/
theorem findFirst_of_inUse (lowers : LowersOnce settings) {table : Tables} {email : Option String}
    {phone : Option String} {emailSought phoneSought : Option String}
    (emailGiven : emailSought = none ∨ emailSought = (given (email.map settings.toLowerCase)).map trim)
    (phoneGiven : phoneSought = none ∨ phoneSought = phone)
    (unused : (findFirst table (orClauses emailSought phoneSought)).bind (fun existingUser =>
      inUse settings existingUser ((given (email.map settings.toLowerCase)).map trim) phone) = none) :
    findFirst table (orClauses emailSought phoneSought) = none := by
  cases found : findFirst table (orClauses emailSought phoneSought) with
  | none => rfl
  | some existing =>
    exfalso
    rw [found, Option.bind_some] at unused
    rw [findFirst] at found
    have matched := List.find?_some found
    obtain ⟨clause, sought, held⟩ := List.any_eq_true.mp matched
    rw [inUse] at unused
    split at unused
    case isTrue => cases unused
    case isFalse otherEmail =>
      split at unused
      case isTrue => cases unused
      case isFalse otherPhone =>
        rcases List.mem_append.mp sought with byEmail | byPhone
        case inl =>
          obtain ⟨text, filled, rfl⟩ := Option.map_eq_some_iff.mp (Option.mem_toList.mp byEmail)
          rw [filled] at emailGiven
          have same := emailGiven.resolve_left (Option.some_ne_none text)
          have typed : existing.email = some text := of_decide_eq_true held
          refine otherEmail ⟨same ▸ Option.some_ne_none text, ?_⟩
          rw [← same, typed]
          obtain ⟨lowered, entered, rfl⟩ := Option.map_eq_some_iff.mp same.symm
          obtain ⟨asked, -, rfl⟩ := Option.map_eq_some_iff.mp (given_eq_some entered).1
          exact congrArg some (lowers asked)
        case inr =>
          obtain ⟨text, filled, rfl⟩ := Option.map_eq_some_iff.mp (Option.mem_toList.mp byPhone)
          rw [filled] at phoneGiven
          have same := phoneGiven.resolve_left (Option.some_ne_none text)
          have typed : existing.phone = some text := of_decide_eq_true held
          exact otherPhone ⟨same ▸ Option.some_ne_none text, typed.trans same⟩

/-- A rider's new identifiers are searched for. -/
theorem updateRiderForUser_vouches (lowers : LowersOnce settings) (actorFleetId : FleetId)
    (riderId : UserId) (dto : UpdateRiderDto) :
    Overlaps.Vouches commit sound (Searched settings (.updateRider actorFleetId riderId dto))
      (fun _ _ => True) [] (updateRiderForUser settings actorFleetId riderId dto) := by
  rw [updateRiderForUser, Overlaps.vouches_bind, Overlaps.vouches_read]
  intro first _
  cases found : first.users.find? fun user =>
      decide (user.id = riderId ∧ user.fleetId = actorFleetId ∧ user.role = .RIDER) with
  | none => trivial
  | some rider =>
    have write : ∀ shown, Missing (fun _ => True) ([first] ++ shown) (orClauses
        (if dto.email.map settings.toLowerCase = rider.email then none
          else (given (dto.email.map settings.toLowerCase)).map trim)
        (if dto.phone.join = rider.phone then none else (given dto.phone.join).map trim)) →
        Searched settings (.updateRider actorFleetId riderId dto) ([first] ++ shown)
          (.updateUser riderId none ((dto.email.map settings.toLowerCase).map some) dto.phone) := by
      intro shown missing
      refine searched_of_missing missing (fun _ _ _ => trivial) ?_
      rintro identifier text set key compared other ⟨-, -, read, sameRead, differs⟩
      obtain rfl : rider = read := Option.some.inj (found.symm.trans sameRead)
      apply clause_sought
      cases identifier with
      | email =>
        obtain ⟨text, asked, rfl⟩ := Option.map_eq_some_iff.mp set
        refine (if_neg differs).trans ?_
        rw [← compared_lowered lowers, asked]
        exact compared
      | phone =>
        refine (if_neg differs).trans ?_
        have asked : dto.phone = some text := set
        rw [asked]
        exact compared
    apply Overlaps.vouches_ite
    case left =>
      intro _ table _
      dsimp only [Program.andThen]
      split
      case h_1 unused =>
        refine ⟨write [table] (missing_of_findFirst
          (List.mem_append_right _ (List.mem_singleton_self _)) ?_), fun _ _ _ _ => trivial⟩
        exact findFirst_of_inUse lowers (ite_eq_or_eq _ _ _) (ite_eq_or_eq _ _ _) unused
      case h_2 => trivial
    case right =>
      intro none_
      refine ⟨write [] fun clause sought => ?_, fun _ _ _ _ => trivial⟩
      rw [not_not.mp none_] at sought
      cases sought

/-- Clauses that are missing one by one are missing together. -/
theorem missing_clauses {left right : List Clause} (first : Missing inside seen left)
    (second : Missing inside seen right) : Missing inside seen (left ++ right) :=
  fun clause sought => (List.mem_append.mp sought).elim (first clause) (second clause)

/-- A text that is given is given. -/
theorem given_given (text : Option String) : given (given text) = given text := by
  rw [given, given, Option.filter_filter]
  simp

/-- The identifiers of a new account are searched for. -/
theorem createUserForFleet_vouches (fleetId : FleetId) (body : CreateUserHqDto) :
    Overlaps.Vouches commit sound (Searched settings (.createUserForFleet fleetId body))
      (fun _ _ => True) [] (createUserForFleet settings fleetId body) := by
  rw [createUserForFleet, Overlaps.vouches_bind, Overlaps.vouches_read]
  intro first _
  refine Overlaps.vouches_ite (fun _ => ?_) fun _ => trivial
  rw [Overlaps.vouches_bind]
  refine assertFreeInFleet_vouches fleetId _ _ fun shown emailMissing => ?_
  rw [Overlaps.vouches_bind]
  refine assertFreeInFleet_vouches fleetId _ _ fun more phoneMissing => ?_
  refine ⟨?_, fun _ _ _ _ => trivial⟩
  refine searched_of_missing (missing_clauses (missing_append emailMissing more) phoneMissing)
    (fun _ _ covered => covered.2.2.1) ?_
  rintro identifier text set key compared other ⟨-, -, -, spelt⟩
  cases identifier with
  | email =>
    cases set
    have filled := spelt.symm.trans compared
    rw [requested, given_given] at filled
    exact List.mem_append_left _ (by rw [filled]; exact List.mem_singleton_self _)
  | phone =>
    cases set
    have filled := spelt.symm.trans compared
    rw [requested, given_given] at filled
    exact List.mem_append_right _ (by rw [filled]; exact List.mem_singleton_self _)

/-- The new identifiers of an account are searched for. -/
theorem updateUserHq_vouches (id : UserId) (body : UpdateUserHqDto) :
    Overlaps.Vouches commit sound (Searched settings (.updateUserHq id body)) (fun _ _ => True) []
      (updateUserHq settings id body) := by
  rw [updateUserHq, Overlaps.vouches_bind, Overlaps.vouches_read]
  intro first _
  cases found : findUser first id with
  | none => trivial
  | some user =>
    dsimp only
    rw [Overlaps.vouches_bind]
    refine assertFreeInFleet_vouches user.fleetId _ _ fun shown emailMissing => ?_
    rw [Overlaps.vouches_bind]
    refine assertFreeInFleet_vouches user.fleetId _ _ fun more phoneMissing => ?_
    refine ⟨?_, fun _ _ _ _ => trivial⟩
    have read : ∀ other ∈ readUser ([] ++ [first] ++ shown ++ more) id, other = user := by
      intro other same
      exact Option.some.inj (same.symm.trans found)
    refine searched_of_missing (missing_clauses (missing_append emailMissing more) phoneMissing) ?_ ?_
    · rintro identifier other ⟨-, -, holder, same, -, ours, -⟩
      exact read holder same ▸ ours
    · rintro identifier text set key compared other ⟨-, -, holder, same, differs, -, spelt⟩
      rw [read holder same] at differs
      cases identifier with
      | email =>
        obtain ⟨lowered, asked, rfl⟩ := Option.map_eq_some_iff.mp set
        rw [requested, asked] at spelt
        rw [compared_congr .email (given_given _)] at compared
        have changes : body.email.map settings.toLowerCase ≠ user.email := differs
        refine List.mem_append_left _ ?_
        rw [if_neg changes, asked, spelt.symm.trans compared]
        exact List.mem_singleton_self _
      | phone =>
        obtain ⟨removed, asked, rfl⟩ := Option.map_eq_some_iff.mp set
        rw [requested, asked] at spelt
        rw [compared_congr .phone (given_given _)] at compared
        have changes : body.phone.join ≠ user.phone := differs
        refine List.mem_append_right _ ?_
        rw [if_neg changes, asked, spelt.symm.trans compared]
        exact List.mem_singleton_self _

/-- Every request searches for what it writes. -/
theorem handle_searches (lowers : LowersOnce settings) (request : Request) :
    Overlaps.Vouches commit sound (Searched settings request) (fun _ _ => True) []
      (handle settings request) := by
  cases request with
  | registerFleet dto => exact registerFleet_vouches dto
  | redeemInvite dto now => exact redeemInvite_vouches dto now
  | createRider actorFleetId dto => exact createRider_vouches lowers actorFleetId dto
  | updateRider actorFleetId riderId dto => exact updateRiderForUser_vouches lowers actorFleetId riderId dto
  | createUserForFleet fleetId body => exact createUserForFleet_vouches fleetId body
  | updateUserHq id body => exact updateUserHq_vouches id body
  | createInsurer body =>
    rw [handle, createInsurer, Overlaps.vouches_bind, Overlaps.vouches_read]
    intro first _
    refine Overlaps.vouches_ite (fun _ => ⟨?_, fun _ _ _ _ => trivial⟩) fun _ => trivial
    -- nothing is searched for, so nothing is covered
    exact fun identifier text _ _ other covered => covered.2.2.elim
  | changeRecords change => exact ⟨searched_changeRecords _, fun _ _ _ _ => trivial⟩

end Writers

/-! ## Sign-ins -/

/-- The accounts are apart, and so each identifier that a sign-in looks for is that of one
account at most. -/
structure Resolves (settings : Settings) (tables : Tables) : Prop where
  apart : GloballyUnique settings tables
  single : ∀ email phone, ∀ clause ∈ loginClauses settings email phone,
    ∀ left ∈ tables.users, ∀ right ∈ tables.users, clause.matches left = true →
      clause.matches right = true → left = right

/-- Identifiers resolve to one account exactly when they are unique. -/
theorem resolves_iff (settings : Settings) (tables : Tables) :
    Resolves settings tables ↔ GloballyUnique settings tables :=
  ⟨fun resolves => resolves.apart, fun distinct => ⟨distinct,
    fun _ _ _ sought _ leftListed _ rightListed => login_resolves distinct sought leftListed rightListed⟩⟩

/-- Over every interleaving of the operations, no two accounts ever share an e-mail or a
phone, and sign-ins resolve, exactly if at every write that changes an identifier nobody
holds the new one whom the search of the call does not cover. -/
theorem identities_unique_iff (settings : Settings) (lowers : LowersOnce settings) (tables : Tables)
    (actions : List (Action Request)) (sound : Sound tables)
    (distinct : GloballyUnique settings tables) :
    Along (step commit (handle settings)) (fun _ _ next => Resolves settings next.store) ⟨tables, []⟩
        actions ↔
      Along (Overlaps.watch commit (handle settings))
        (fun before action _ => Overlaps.Meets commit (FreeOutside settings) before action)
        (Overlaps.Watched.begun tables) actions :=
  @Overlaps.along_changes_iff _ _ _ _ _ commit (handle settings)
    (fun tables => Sound tables ∧ Resolves settings tables) (Searched settings)
    (fun _ _ _ _ => True) (FreeOutside settings) (fun _ next => Resolves settings next)
    (handle_searches lowers) (fun _ both => both.2)
    (fun _ _ _ _ _ both searched _ accepted => (resolves_iff settings _).trans
      ((unique_commit_iff both.2.apart accepted).trans (unheld_iff both.2.apart searched)))
    (fun _ _ _ both resolves accepted => ⟨sound_commit both.1 accepted, resolves⟩) tables actions
    ⟨sound, (resolves_iff settings tables).mpr distinct⟩
    (along_of_forall_mem _ (fun _ _ _ _ _ _ _ _ => trivial) _)

section Samples

/-- Two fleets without accounts, and two e-mails that were confirmed. -/
def sampleTables : Tables where
  users := []
  nextId := 3
  records := ⟨[1, 2], [], ["amina@example.rw", "jean@example.rw"]⟩

/-- The settings where all texts are in lower case. -/
def lowerCaseSettings : Settings := { sampleSettings with toLowerCase := id }

/-- A registration with an address. -/
def sampleRegistration (email : String) : RegisterFleetDto := ⟨some email, none, false⟩

/-- Two fleets are registered at the same time, with different e-mails. -/
def twoRegistrations : List (Action Request) :=
  [.submit (.registerFleet (sampleRegistration "amina@example.rw")),
    .submit (.registerFleet (sampleRegistration "jean@example.rw")),
    .advance 0, .advance 1, .advance 0, .advance 1, .advance 0, .advance 1]

/-- Two registrations, one after the other, keep addresses apart. -/
theorem identities_unique_twoRegistrations :
    Along (step commit (handle lowerCaseSettings))
        (fun _ _ next => Resolves lowerCaseSettings next.store) ⟨sampleTables, []⟩ twoRegistrations ↔
      Along (Overlaps.watch commit (handle lowerCaseSettings))
        (fun before action _ => Overlaps.Meets commit (FreeOutside lowerCaseSettings) before action)
        (Overlaps.Watched.begun sampleTables) twoRegistrations :=
  identities_unique_iff lowerCaseSettings (fun _ => rfl) sampleTables twoRegistrations
    ⟨List.nodup_nil, fun _ listed => absurd listed List.not_mem_nil⟩ List.Pairwise.nil

/-- The headquarters create an account with one e-mail in each of two fleets, one after
the other. -/
theorem email_in_two_fleets :
    ¬ ∀ settings (system : System Tables Write DatabaseError Failure) actions,
      Sound system.store → GloballyUnique settings system.store →
      Along (step commit (handle settings)) (fun _ _ next => GloballyUnique settings next.store)
        system actions := by
  intro claim
  refine not_along_of_check (⟨sampleTables, []⟩ : System Tables Write DatabaseError Failure)
    [.submit (.createUserForFleet 1 ⟨some "amina@example.rw", none, .ADMIN⟩),
      .submit (.createUserForFleet 2 ⟨some "amina@example.rw", none, .ADMIN⟩),
      .advance 0, .advance 0, .advance 0, .advance 1, .advance 1] (.advance 1)
    (fun _ next (broken : decide (¬ GloballyUnique sampleSettings next.store) = true) =>
      of_decide_eq_true broken) ?_
    (claim sampleSettings ⟨sampleTables, []⟩ _
      ⟨List.nodup_nil, fun _ listed => absurd listed List.not_mem_nil⟩ List.Pairwise.nil)
  decide +kernel

end Samples

end EmotoFleet.Accounts
