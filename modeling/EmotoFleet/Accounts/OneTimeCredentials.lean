import EmotoFleet.Accounts.UserIdentities
import EmotoFleet.Foundations.Overlaps

/-!
# Credentials for one use

The second step of a sign-in redeems a temporary token with a code, and a password reset
redeems a token. Each request reads what is stored under its token, does the rest of its
checks and deletes the token before it answers. Between the read and the deletion other
requests read the same token.
-/

namespace EmotoFleet.Accounts

open EmotoFleet.Runs EmotoFleet.Interleavings

/-- What a request presents: the temporary token of a sign-in or the token of a reset. -/
inductive Credential where
  | login (tempToken : String)
  | reset (token : String)
  deriving DecidableEq

/-- A sign-in between its two steps. -/
structure TempLogin where
  userId : String
  rememberMe : Bool

/-- An account as the sign-in reads it. -/
structure AuthUser where
  id : String
  email : Option String
  phone : Option String
  passwordHash : String

/-- The accounts and the keys of both flows, and a history: which credentials requests have
deleted, and which requests were answered with success. -/
structure CredentialStore where
  users : List AuthUser
  tempLogins : List (String × TempLogin)
  otps : List (String × String)
  resets : List (String × String)
  spent : List Credential
  answered : List Credential

/-- The writes of the requests. -/
inductive CredentialWrite where
  | spend (credential : Credential)
  | deleteOtp (userIdentifier : String)
  | setPassword (userId passwordHash : String)
  | answer (credential : Credential)
  | expire (credential : Credential)
  deriving DecidableEq

/-- The keys without the one of a token. -/
def CredentialStore.delete (store : CredentialStore) : Credential → CredentialStore
  | .login tempToken =>
    { store with tempLogins := store.tempLogins.filter fun entry => entry.1 != tempToken }
  | .reset token => { store with resets := store.resets.filter fun entry => entry.1 != token }

/-- The effect of each write. -/
def applyCredential (store : CredentialStore) :
    CredentialWrite → Except DatabaseError CredentialStore
  | .spend credential =>
    .ok { store.delete credential with spent := store.spent ++ [credential] }
  | .deleteOtp userIdentifier =>
    .ok { store with otps := store.otps.filter fun entry => entry.1 != userIdentifier }
  | .setPassword userId passwordHash =>
    if store.users.any fun user => user.id == userId then
      .ok { store with
        users := store.users.map fun user =>
          if user.id == userId then { user with passwordHash } else user }
    else .error .P2025
  | .answer credential => .ok { store with answered := store.answered ++ [credential] }
  | .expire credential => .ok (store.delete credential)

/-- How a request may end without an answer. -/
inductive CredentialFailure where
  | unauthorized (message : String)
  | badRequest (message : String)
  | database (error : DatabaseError)

/-- A request, access by access. -/
abbrev Redemption := Program CredentialStore CredentialWrite DatabaseError CredentialFailure

/-- What is sent for the second step. -/
structure LoginOtpDto where
  tempToken : String
  otp : String

/-- What is sent to set a new password. -/
structure ResetPasswordDto where
  token : String
  password : String

/-- What is answered to a new password. -/
structure ResetAnswer where
  success : Bool
  message : String

/-- The user who signs in, and whether the session is kept. -/
def loginWithOtp (dto : LoginOtpDto) : Redemption (AuthUser × Bool) := do
  let rawData ← Program.read fun store => store.tempLogins.lookup dto.tempToken
  match rawData with
  | none => .failed (.unauthorized "Session expired. Please log in again.")
  | some data =>
    let found ← Program.read fun store => store.users.find? fun user => user.id == data.userId
    match found with
    | none => .failed (.unauthorized "User not found")
    | some user =>
      let userIdentifier := (user.email <|> user.phone).getD user.id
      let cachedOtp ← Program.read fun store => given (store.otps.lookup userIdentifier)
      if cachedOtp ≠ some dto.otp then
        .failed (.unauthorized "Invalid or expired OTP")
      else
        Program.write (.spend (.login dto.tempToken)) .database
        Program.write (.deleteOtp userIdentifier) .database
        pure (user, data.rememberMe)

/-- The token of a reset is looked up, deleted and followed by the new password. -/
def resetPassword (hashPassword : String → String) (dto : ResetPasswordDto) :
    Redemption ResetAnswer := do
  let userId ← Program.read fun store => given (store.resets.lookup dto.token)
  match userId with
  | none => .failed (.badRequest "Reset token is invalid or has expired")
  | some userId =>
    let found ← Program.read fun store => store.users.find? fun user => user.id == userId
    match found with
    | none => .failed (.badRequest "User not found")
    | some _ =>
      Program.write (.setPassword userId (hashPassword dto.password)) .database
      Program.write (.spend (.reset dto.token)) .database
      pure ⟨true, "Password updated successfully."⟩

/-- The two requests, and the end of a token's time. -/
inductive CredentialRequest where
  | loginWithOtp (dto : LoginOtpDto)
  | resetPassword (dto : ResetPasswordDto)
  | expire (credential : Credential)

/-- A request that returns is answered with success. -/
def handleCredential (hashPassword : String → String) : CredentialRequest → Redemption Unit
  | .loginWithOtp dto => do
    let _ ← loginWithOtp dto
    Program.write (.answer (.login dto.tempToken)) .database
  | .resetPassword dto => do
    let _ ← resetPassword hashPassword dto
    Program.write (.answer (.reset dto.token)) .database
  | .expire credential => Program.write (.expire credential) .database

/-- No credential has helped two requests to succeed. -/
def UsedOnce (store : CredentialStore) : Prop :=
  ∀ credential, store.answered.count credential ≤ 1

/-- A request that deletes its token is the first one to do so. -/
def FirstDeletion (store : CredentialStore) (operation : CredentialWrite) : Prop :=
  ∀ credential, operation = .spend credential → credential ∉ store.spent

/-- Since a request has looked for its token, no other request has deleted it. -/
def NotDeletedSince (_ : CredentialRequest) (seen : List CredentialStore) (store : CredentialStore) :
    CredentialWrite → Prop
  | .spend credential =>
    ∀ first ∈ seen.head?, credential ∈ store.spent → credential ∈ first.spent
  | .deleteOtp _ | .setPassword _ _ | .answer _ | .expire _ => True

instance (request : CredentialRequest) (seen : List CredentialStore) (store : CredentialStore) :
    (operation : CredentialWrite) → Decidable (NotDeletedSince request seen store operation)
  | .spend _ => inferInstanceAs (Decidable (∀ _ ∈ _, _ → _))
  | .deleteOtp _ | .setPassword _ _ | .answer _ | .expire _ => inferInstanceAs (Decidable True)

/-- At the start nothing has been redeemed yet. -/
structure Unused (store : CredentialStore) : Prop where
  unspent : store.spent = []
  unanswered : store.answered = []

section Redemptions

variable (hashPassword : String → String)

/-- Each success of a request comes after a deletion of its credential. -/
theorem handleCredential_pays (credential : Credential) (request : CredentialRequest) :
    (handleCredential hashPassword request).owes (· == .spend credential)
        (· == .answer credential) = 0 ∧
      (handleCredential hashPassword request).PaysFirst (· == .spend credential)
        (· == .answer credential) := by
  cases request with
  | loginWithOtp dto =>
    refine ⟨rfl, fun first => ?_⟩
    simp only [Program.andThen]
    cases first.tempLogins.lookup dto.tempToken with
    | none => exact ⟨rfl, trivial⟩
    | some data =>
      refine ⟨rfl, fun second => ?_⟩
      simp only [Program.andThen]
      cases second.users.find? fun user => user.id == data.userId with
      | none => exact ⟨rfl, trivial⟩
      | some user =>
        refine ⟨rfl, fun third => ?_⟩
        simp only [Program.andThen]
        split
        case isTrue => exact ⟨rfl, trivial⟩
        case isFalse =>
          refine ⟨?_, trivial⟩
          by_cases mine : credential = .login dto.tempToken
          case pos => simp [bind, Program.andThen, Program.write, Program.owes, pure, mine]
          case neg => simp [bind, Program.andThen, Program.write, Program.owes, pure, Ne.symm mine]
  | resetPassword dto =>
    refine ⟨rfl, fun first => ?_⟩
    simp only [Program.andThen]
    cases given (first.resets.lookup dto.token) with
    | none => exact ⟨rfl, trivial⟩
    | some userId =>
      refine ⟨rfl, fun second => ?_⟩
      simp only [Program.andThen]
      cases second.users.find? fun user => user.id == userId with
      | none => exact ⟨rfl, trivial⟩
      | some user =>
        refine ⟨?_, trivial⟩
        by_cases mine : credential = .reset dto.token
        case pos => simp [bind, Program.andThen, Program.write, Program.owes, pure, mine]
        case neg => simp [bind, Program.andThen, Program.write, Program.owes, pure, Ne.symm mine]
  | expire other =>
    exact ⟨rfl, trivial⟩

/-- A write spends the credential that it deletes. -/
theorem applyCredential_counts (credential : Credential) {store written : CredentialStore}
    {operation : CredentialWrite} (accepted : applyCredential store operation = .ok written) :
    written.spent.count credential =
        store.spent.count credential + (if operation == .spend credential then 1 else 0) ∧
      written.answered.count credential =
        store.answered.count credential + if operation == .answer credential then 1 else 0 := by
  cases operation with
  | spend other =>
    cases accepted
    cases other with
    | login tempToken => simp [List.count_singleton, CredentialStore.delete]
    | reset token => simp [List.count_singleton, CredentialStore.delete]
  | deleteOtp userIdentifier =>
    cases accepted
    simp
  | setPassword userId passwordHash =>
    rw [applyCredential] at accepted
    split at accepted
    case isTrue =>
      cases accepted
      simp
    case isFalse => cases accepted
  | answer other =>
    cases accepted
    simp [List.count_singleton]
  | expire other =>
    cases accepted
    cases other with
    | login tempToken => simp [CredentialStore.delete]
    | reset token => simp [CredentialStore.delete]

/-- Every success is paid for with a deletion, and no credential is deleted twice. -/
structure Redeemed (system : System CredentialStore CredentialWrite DatabaseError CredentialFailure) :
    Prop where
  paid : ∀ credential, PaidFor (· == .spend credential) (· == .answer credential)
    (fun store : CredentialStore => store.spent.count credential)
    (fun store => store.answered.count credential) system
  once : ∀ credential, system.store.spent.count credential ≤ 1

/-- A credential that no two requests delete is used once. -/
theorem Redeemed.usedOnce
    {system : System CredentialStore CredentialWrite DatabaseError CredentialFailure}
    (redeemed : Redeemed system) : UsedOnce system.store := by
  intro credential
  have balance := (redeemed.paid credential).balance
  have once := redeemed.once credential
  omega

/-- Every step keeps the account of what was redeemed. -/
theorem redeemed_step
    {system next : System CredentialStore CredentialWrite DatabaseError CredentialFailure}
    {action : Action CredentialRequest} (before : Redeemed system)
    (first : Meets applyCredential FirstDeletion system action)
    (moved : step applyCredential (handleCredential hashPassword) system action = some next) :
    Redeemed next := by
  constructor
  · intro credential
    apply @paidFor_step _ _ _ _ _ applyCredential (handleCredential hashPassword) _ _ _ _
      _ (handleCredential_pays hashPassword credential) _ _ _ (before.paid credential) moved
    exact fun _ _ _ => applyCredential_counts credential
  · intro credential
    cases step_store moved with
    | inl left =>
      rw [left.2]
      exact before.once credential
    | inr changed =>
      obtain ⟨operation, attempt, accepted⟩ := changed
      rw [(applyCredential_counts credential accepted).1]
      split
      case isFalse => exact before.once credential
      case isTrue same =>
        have unspent := first operation attempt next.store accepted credential (eq_of_beq same)
        rw [List.count_eq_zero_of_not_mem unspent]

/-- In every interleaving of requests no credential helps two of them to succeed, as long as
no request deletes its credential after another one has. -/
theorem usedOnce_of_firstDeletions {store : CredentialStore} (unused : Unused store)
    {actions : List (Action CredentialRequest)}
    (first : Along (step applyCredential (handleCredential hashPassword))
      (fun before action _ => Meets applyCredential FirstDeletion before action) ⟨store, []⟩
      actions) :
    Along (step applyCredential (handleCredential hashPassword))
      (fun _ _ next => UsedOnce next.store) ⟨store, []⟩ actions := by
  apply along_of_invariant Redeemed _ _ _ first
  · exact fun _ _ _ => redeemed_step hashPassword
  · exact fun _ _ _ redeemed first moved =>
      (redeemed_step hashPassword redeemed first moved).usedOnce
  · constructor
    · intro credential
      constructor
      · simp [unused.unanswered]
      · exact fun program listed => (nomatch listed)
    · intro credential
      simp [unused.unspent]

/-- A credential that was deleted is not stored any more. -/
structure Gone (store : CredentialStore) : Prop where
  tempLogins : ∀ entry ∈ store.tempLogins, .login entry.1 ∉ store.spent
  resets : ∀ entry ∈ store.resets, .reset entry.1 ∉ store.spent

/-- After a deletion spent tokens are still gone. -/
theorem gone_delete {store : CredentialStore} (gone : Gone store) (credential : Credential) :
    Gone (store.delete credential) := by
  cases credential with
  | login tempToken =>
    exact ⟨fun entry listed => gone.tempLogins entry (List.mem_filter.mp listed).1, gone.resets⟩
  | reset token =>
    exact ⟨gone.tempLogins, fun entry listed => gone.resets entry (List.mem_filter.mp listed).1⟩

/-- No write brings a spent token back. -/
theorem gone_apply {store written : CredentialStore} {operation : CredentialWrite}
    (gone : Gone store) (accepted : applyCredential store operation = .ok written) : Gone written := by
  cases operation with
  | spend credential =>
    cases accepted
    have kept := gone_delete gone credential
    constructor
    case tempLogins =>
      intro entry listed spent
      cases List.mem_append.mp spent with
      | inl before =>
        cases credential with
        | login tempToken => exact kept.tempLogins entry listed before
        | reset token => exact kept.tempLogins entry listed before
      | inr now =>
        obtain rfl := List.mem_singleton.mp now
        simp [CredentialStore.delete] at listed
    case resets =>
      intro entry listed spent
      cases List.mem_append.mp spent with
      | inl before =>
        cases credential with
        | login tempToken => exact kept.resets entry listed before
        | reset token => exact kept.resets entry listed before
      | inr now =>
        obtain rfl := List.mem_singleton.mp now
        simp [CredentialStore.delete] at listed
  | deleteOtp userIdentifier =>
    cases accepted
    exact ⟨gone.tempLogins, gone.resets⟩
  | setPassword userId passwordHash =>
    rw [applyCredential] at accepted
    split at accepted
    case isTrue =>
      cases accepted
      exact ⟨gone.tempLogins, gone.resets⟩
    case isFalse => cases accepted
  | answer credential =>
    cases accepted
    exact ⟨gone.tempLogins, gone.resets⟩
  | expire credential =>
    cases accepted
    exact gone_delete gone credential

/-- The credential that a request deletes had not been deleted when the request looked. -/
def FoundUnspent (seen : List CredentialStore) (operation : CredentialWrite) : Prop :=
  ∀ credential, operation = .spend credential → ∃ first ∈ seen.head?, credential ∉ first.spent

/-- A credential that was found unspent is the one that is spent. -/
theorem foundUnspent_spend {first : CredentialStore} {credential : Credential}
    (unspent : credential ∉ first.spent) (shown : List CredentialStore) :
    FoundUnspent ([] ++ [first] ++ shown) (.spend credential) := by
  intro other same
  cases same
  exact ⟨first, rfl, unspent⟩

/-- Each request has found its token before it deletes it. -/
theorem handleCredential_vouches (request : CredentialRequest) :
    Overlaps.Vouches applyCredential Gone FoundUnspent (fun _ _ => True) []
      (handleCredential hashPassword request) := by
  cases request with
  | loginWithOtp dto =>
    intro first gone
    apply Overlaps.vouches_of_makes
    simp only [Program.andThen]
    cases found : first.tempLogins.lookup dto.tempToken with
    | none => trivial
    | some data =>
      have unspent := gone.tempLogins _ (Tables.mem_of_lookup found)
      intro second
      simp only [Program.andThen]
      cases second.users.find? fun user => user.id == data.userId with
      | none => trivial
      | some user =>
        intro third
        simp only [Program.andThen]
        split
        case isTrue => trivial
        case isFalse =>
          refine ⟨foundUnspent_spend unspent, fun _ _ same => ?_, fun _ _ same => ?_, trivial⟩
          all_goals cases same
  | resetPassword dto =>
    intro first gone
    apply Overlaps.vouches_of_makes
    simp only [Program.andThen]
    cases found : given (first.resets.lookup dto.token) with
    | none => trivial
    | some userId =>
      have unspent := gone.resets _ (Tables.mem_of_lookup (Option.filter_eq_some_iff.mp found).1)
      intro second
      simp only [Program.andThen]
      cases second.users.find? fun user => user.id == userId with
      | none => trivial
      | some user =>
        refine ⟨fun _ _ same => ?_, foundUnspent_spend unspent, fun _ _ same => ?_, trivial⟩
        all_goals cases same
  | expire other =>
    refine ⟨fun _ same => ?_, fun _ _ _ _ => trivial⟩
    cases same

/-- In every interleaving of requests no credential helps two of them to succeed, as long as
no request deletes a token that another one has deleted since it looked for it. -/
theorem credentials_used_once {store : CredentialStore} (unused : Unused store)
    {actions : List (Action CredentialRequest)}
    (timely : Along (Overlaps.watch applyCredential (handleCredential hashPassword))
      (fun before action _ => Overlaps.Meets applyCredential NotDeletedSince before action)
      (Overlaps.Watched.begun store) actions) :
    Along (step applyCredential (handleCredential hashPassword))
      (fun _ _ next => UsedOnce next.store) ⟨store, []⟩ actions := by
  apply usedOnce_of_firstDeletions hashPassword unused
  have gone : Gone store :=
    ⟨fun entry _ => unused.unspent ▸ List.not_mem_nil, fun entry _ => unused.unspent ▸ List.not_mem_nil⟩
  refine @Overlaps.along_meets _ _ _ _ _ _ _ Gone (fun _ => FoundUnspent) _ _
    (handleCredential_vouches hashPassword) ?_ (fun _ _ _ gone _ => gone_apply gone) _ _ gone timely
  intro request seen store operation written _ found since _ credential same
  subst same
  obtain ⟨first, read, unspent⟩ := found credential rfl
  exact fun spent => unspent (since first read spent)

end Redemptions

/-- A user in the second step of a sign-in, who has also asked for a password reset. -/
def signingIn : CredentialStore where
  users := [⟨"amina", some "amina@example.rw", none, "hash"⟩]
  tempLogins := [("session", ⟨"amina", false⟩)]
  otps := [("amina@example.rw", "123456")]
  resets := [("ABC123", "amina")]
  spent := []
  answered := []

/-- The code is sent twice, one time after the other. -/
theorem credentials_used_once_signingIn :
    Along (step applyCredential (handleCredential fun password => password))
      (fun _ _ next => UsedOnce next.store) ⟨signingIn, []⟩
      ([.submit (.loginWithOtp ⟨"session", "123456"⟩), .submit (.loginWithOtp ⟨"session", "123456"⟩)] ++
        List.replicate 6 (.advance 0) ++ List.replicate 6 (.advance 1)) :=
  credentials_used_once (fun password => password) ⟨rfl, rfl⟩ (along_of_decide (by decide +kernel))

/-- Two requests check the same code before either deletes the token, and both sign in. -/
theorem code_used_twice :
    ¬ ∀ hashPassword store, Unused store → ∀ actions,
      Along (step applyCredential (handleCredential hashPassword))
        (fun _ _ next => UsedOnce next.store) ⟨store, []⟩ actions := by
  intro always
  have twice : ∀ middle next : System CredentialStore CredentialWrite DatabaseError
      CredentialFailure, decide (1 < next.store.answered.count (.login "session")) = true →
        ¬ UsedOnce next.store :=
    fun _ _ more once => Nat.not_lt.mpr (once _) (of_decide_eq_true more)
  refine not_along_of_check (⟨signingIn, []⟩ : System _ _ _ _)
    (([.submit (.loginWithOtp ⟨"session", "123456"⟩),
        .submit (.loginWithOtp ⟨"session", "123456"⟩)] : List (Action CredentialRequest)) ++
      List.replicate 3 (Action.advance 0) ++ List.replicate 3 (Action.advance 1) ++
      List.replicate 3 (Action.advance 0) ++ List.replicate 2 (Action.advance 1)) (.advance 1)
    twice ?_
    (always (fun password => password) signingIn ⟨rfl, rfl⟩ _)
  decide +kernel

end EmotoFleet.Accounts
