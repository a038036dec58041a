import EmotoFleet.Accounts.UserIdentities
import EmotoFleet.Foundations.Expiring

/-!
# The lockout of sign-ins

Failed sign-ins are counted under what the caller typed, while the account is found by the
e-mail or by any of the spellings of the phone. A sign-in first reads the count, then looks
for the account and compares the password; a failure reads the count again and stores the
next number for another fifteen minutes, a success deletes it. Between these accesses
others make theirs, and other requests change the accounts.

A history keeps the comparisons that were made: for which account, by what the caller typed,
and when.
-/

namespace EmotoFleet.Accounts

open EmotoFleet.Runs EmotoFleet.Expiring

/-- How many wrong passwords lock an identifier. -/
def LOGIN_MAX_ATTEMPTS : Nat := 5

/-- Fifteen minutes, in milliseconds. -/
def lockoutMs : Int := 900000

/-! ## Sign-ins step by step -/

/-- What a sign-in reads of an account. -/
structure LoginAccount where
  user : User
  passwordHash : Option String
  status : String

/-- The body of a sign-in. -/
structure LoginDto where
  email : Option String
  phone : Option String
  password : String

/-- What a sign-in comes to. -/
inductive LoginOutcome where
  /-- "Provide either email or phone" -/
  | notProvided
  /-- "Account temporarily locked due to too many failed login attempts. Try again in 15 minutes." -/
  | locked
  /-- "Invalid credentials" -/
  | invalid
  /-- The caller gets the tokens of a session. -/
  | loggedIn
  deriving DecidableEq, Repr

/-- The next access of a sign-in. -/
inductive LoginStage where
  | assertingNotLockedOut
  | lookingUp
  | comparing (account : LoginAccount)
  | readingAttempts
  | storingAttempts (currentAttempts : Nat)
  | clearingAttempts
  | finished (outcome : LoginOutcome)

/-- A sign-in with what it has come to. -/
structure Login where
  dto : LoginDto
  stage : LoginStage

/-- A comparison of the password of an account. -/
structure PasswordCheck where
  account : UserId
  identifier : String
  time : Int
  matched : Bool
  deriving DecidableEq

/-- The accounts, the counters, the sign-ins and what was checked so far. -/
structure LoginWorld where
  now : Int
  accounts : List LoginAccount
  attempts : String → Cell Nat
  logins : List Login
  checks : List PasswordCheck

/-- What happens to the world. -/
inductive LoginAction where
  | wait (duration : Nat)
  | writeAccounts (accounts : List LoginAccount)
  | submit (dto : LoginDto)
  | advance (login : Nat)

section Steps

variable (settings : Settings) (compare : String → String → Bool)

/-- The name under which the failures of a sign-in are counted. -/
def identifierOf (dto : LoginDto) : String :=
  (dto.email.map settings.toLowerCase <|> dto.phone).getD "unknown"

/-- The first account that one of the identifiers is of. -/
def findAccount (accounts : List LoginAccount) (dto : LoginDto) : Option LoginAccount :=
  accounts.find? fun account =>
    (loginClauses settings dto.email dto.phone).any (·.matches account.user)

/-- The accounts with a password that may sign in. -/
def mayLogIn (account : LoginAccount) : Bool :=
  (given account.passwordHash).isSome &&
    (account.status == "ACTIVE" || account.status == "PENDING_SETUP")

/-- A sign-in before its first access. -/
def startLogin (dto : LoginDto) : Login :=
  if given (dto.email.map settings.toLowerCase) = none ∧ given dto.phone = none then
    ⟨dto, .finished .notProvided⟩
  else ⟨dto, .assertingNotLockedOut⟩

/-- The world after a sign-in has gone on. -/
def setStage (world : LoginWorld) (index : Nat) (login : Login) (stage : LoginStage) : LoginWorld :=
  { world with logins := world.logins.set index { login with stage } }

/-- The next access of one sign-in. -/
def proceedLogin (world : LoginWorld) (index : Nat) (login : Login) : Option LoginWorld :=
  let identifier := identifierOf settings login.dto
  match login.stage with
  | .assertingNotLockedOut =>
    if (read (world.attempts identifier) world.now).any (LOGIN_MAX_ATTEMPTS ≤ ·) then
      some (setStage world index login (.finished .locked))
    else some (setStage world index login .lookingUp)
  | .lookingUp =>
    match (findAccount settings world.accounts login.dto).filter mayLogIn with
    | none => some (setStage world index login .readingAttempts)
    | some account => some (setStage world index login (.comparing account))
  | .comparing account =>
    let matched := compare login.dto.password (account.passwordHash.getD "")
    let checked :=
      { world with checks := world.checks ++ [⟨account.user.id, identifier, world.now, matched⟩] }
    some (setStage checked index login (if matched then .clearingAttempts else .readingAttempts))
  | .readingAttempts =>
    let currentAttempts := (read (world.attempts identifier) world.now).getD 0
    some (setStage world index login (.storingAttempts currentAttempts))
  | .storingAttempts currentAttempts =>
    let stored := write (currentAttempts + 1) world.now lockoutMs
    some (setStage { world with attempts := Function.update world.attempts identifier stored } index
      login (.finished .invalid))
  | .clearingAttempts =>
    some (setStage { world with attempts := Function.update world.attempts identifier none } index
      login (.finished .loggedIn))
  | .finished _ => none

/-- One step, if it is possible. -/
def stepLogin (world : LoginWorld) : LoginAction → Option LoginWorld
  | .wait duration => some { world with now := world.now + duration }
  | .writeAccounts accounts => some { world with accounts := accounts }
  | .submit dto => some { world with logins := world.logins ++ [startLogin settings dto] }
  | .advance index => (world.logins[index]?).bind (proceedLogin settings compare world index)

end Steps

/-! ## Windows -/

/-- How many wrong passwords of an account were checked in the window from an instant on. -/
def failedIn (checks : List PasswordCheck) (account : UserId) (start : Int) : Nat :=
  checks.countP fun check => check.account == account && !check.matched &&
    decide (start ≤ check.time ∧ check.time < start + lockoutMs)

/-- Whether the password of an account was right in the window from an instant on. -/
def succeededIn (checks : List PasswordCheck) (account : UserId) (start : Int) : Bool :=
  checks.any fun check => check.account == account && check.matched &&
    decide (start ≤ check.time ∧ check.time < start + lockoutMs)

/-- In no fifteen minutes without a successful sign-in more than five comparisons of an
account's password fail. -/
def LockedOut (checks : List PasswordCheck) : Prop :=
  ∀ account start, succeededIn checks account start = false →
    failedIn checks account start ≤ LOGIN_MAX_ATTEMPTS

/-- Past the lockout test, before the count is brought up to date. -/
def Login.underway (login : Login) : Bool :=
  match login.stage with
  | .assertingNotLockedOut | .finished _ => false
  | .lookingUp | .comparing _ | .readingAttempts | .storingAttempts _ | .clearingAttempts => true

section Conditions

variable (settings : Settings) (compare : String → String → Bool)

/-- A sign-in passes the lockout test while no other one under the same name is underway.
The password of an account is compared under one name only within fifteen minutes, and a
name under which it failed does not sign in to another account in that time. -/
def Login.InTurn (world : LoginWorld) (login : Login) : Prop :=
  match login.stage with
  | .assertingNotLockedOut => ∀ other ∈ world.logins, other.underway = true →
      identifierOf settings other.dto ≠ identifierOf settings login.dto
  | .comparing account => ∀ check ∈ world.checks, world.now < check.time + lockoutMs →
      (check.account = account.user.id → check.identifier = identifierOf settings login.dto) ∧
      (compare login.dto.password (account.passwordHash.getD "") = true →
        check.identifier = identifierOf settings login.dto → check.matched = false →
          check.account = account.user.id)
  | .lookingUp | .readingAttempts | .storingAttempts _ | .clearingAttempts | .finished _ => True

/-- A sign-in that goes on does so in its turn. -/
def InTurn (world : LoginWorld) : LoginAction → Prop
  | .wait _ | .writeAccounts _ | .submit _ => True
  | .advance index => ∀ login ∈ world.logins[index]?, login.InTurn settings compare world

instance (world : LoginWorld) : (login : Login) → Decidable (login.InTurn settings compare world)
  | ⟨_, .assertingNotLockedOut⟩ => inferInstanceAs (Decidable (∀ _ ∈ world.logins, _ → _))
  | ⟨_, .comparing _⟩ => inferInstanceAs (Decidable (∀ _ ∈ world.checks, _ → _))
  | ⟨_, .lookingUp⟩ => inferInstanceAs (Decidable True)
  | ⟨_, .readingAttempts⟩ => inferInstanceAs (Decidable True)
  | ⟨_, .storingAttempts _⟩ => inferInstanceAs (Decidable True)
  | ⟨_, .clearingAttempts⟩ => inferInstanceAs (Decidable True)
  | ⟨_, .finished _⟩ => inferInstanceAs (Decidable True)

instance (world : LoginWorld) :
    (action : LoginAction) → Decidable (InTurn settings compare world action)
  | .wait _ => inferInstanceAs (Decidable True)
  | .writeAccounts _ => inferInstanceAs (Decidable True)
  | .submit _ => inferInstanceAs (Decidable True)
  | .advance _ => inferInstanceAs (Decidable (∀ _ ∈ _, _))

end Conditions

/-! ## Counts against comparisons -/

/-- How many wrong passwords of an account came under an identifier. -/
def failuresBy (checks : List PasswordCheck) (account : UserId) (identifier : String)
    (start : Int) : Nat :=
  checks.countP fun check => check.account == account && check.identifier == identifier &&
    !check.matched && decide (start ≤ check.time)

/-- Whether an account was signed in to since an instant. -/
def succeededSince (checks : List PasswordCheck) (account : UserId) (start : Int) : Bool :=
  checks.any fun check => check.account == account && check.matched && decide (start ≤ check.time)

/-- In every window that reaches now, an account without a success has at most so many
failures under a name. -/
def Within (world : LoginWorld) (identifier : String) (bound : Nat) : Prop :=
  ∀ account start, world.now < start + lockoutMs →
    succeededSince world.checks account start = false →
    failuresBy world.checks account identifier start ≤ bound

/-- The stored count of a name covers its failures but for a few, as long as it is stored
and when it lapses. -/
def CountedBut (world : LoginWorld) (identifier : String) (extra : Nat) : Prop :=
  match world.attempts identifier with
  | none => Within world identifier extra
  | some entry => Within world identifier (entry.value + extra) ∧
      ∀ account start, entry.expiresAt < start + lockoutMs →
        failuresBy world.checks account identifier start ≤ extra

/-- What the counter of an identifier says now. -/
def attemptsNow (world : LoginWorld) (identifier : String) : Nat :=
  (read (world.attempts identifier) world.now).getD 0

/-- What holds of the count of a name while a sign-in under it is underway. -/
def StageCounted (world : LoginWorld) (identifier : String) : LoginStage → Prop
  | .lookingUp | .comparing _ =>
    CountedBut world identifier 0 ∧ attemptsNow world identifier < LOGIN_MAX_ATTEMPTS
  | .readingAttempts => CountedBut world identifier 1
  | .storingAttempts currentAttempts => Within world identifier (currentAttempts + 1)
  | .clearingAttempts => Within world identifier 0
  | .assertingNotLockedOut | .finished _ => True

section Counts

variable {world next : LoginWorld} {identifier : String} {bound extra : Nat}

/-- A counter within a bound is within a larger one. -/
theorem Within.mono (within : Within world identifier bound) {larger : Nat} (le : bound ≤ larger) :
    Within world identifier larger :=
  fun account start reaches fails => Nat.le_trans (within account start reaches fails) le

/-- Failures that are counted but for a few are so but for more. -/
theorem CountedBut.mono (counted : CountedBut world identifier extra) {larger : Nat}
    (le : extra ≤ larger) : CountedBut world identifier larger := by
  rw [CountedBut] at counted ⊢
  split at counted
  case h_1 => exact counted.mono le
  case h_2 =>
    refine ⟨counted.1.mono (Nat.add_le_add_left le _), ?_⟩
    exact fun account start later => Nat.le_trans (counted.2 account start later) le

/-- Read at once, the stored count covers the failures but for those. -/
theorem CountedBut.within (counted : CountedBut world identifier extra) :
    Within world identifier (attemptsNow world identifier + extra) := by
  rw [CountedBut] at counted
  rw [attemptsNow]
  cases stored : world.attempts identifier with
  | none =>
    simp only [stored] at counted
    rw [read_none, Option.getD_none, Nat.zero_add]
    exact counted
  | some entry =>
    simp only [stored] at counted
    by_cases alive : world.now < entry.expiresAt
    case pos =>
      rw [Expiring.read, if_pos alive, Option.getD_some]
      exact counted.1
    case neg =>
      rw [Expiring.read, if_neg alive, Option.getD_none, Nat.zero_add]
      intro account start reaches fails
      exact counted.2 account start (by omega)

/-- What changes under one name leaves the others alone: a sign-in under it can only add
successes for them. -/
structure Elsewhere (world next : LoginWorld) (identifier : String) : Prop where
  clock : next.now = world.now
  attempts : ∀ other, other ≠ identifier → next.attempts other = world.attempts other
  failures : ∀ other account start, other ≠ identifier →
    failuresBy next.checks account other start = failuresBy world.checks account other start
  successes : ∀ account start, succeededSince next.checks account start = false →
    succeededSince world.checks account start = false

/-- A step elsewhere leaves the counters of other identifiers. -/
theorem Elsewhere.within (elsewhere : Elsewhere world next identifier) {other : String}
    (different : other ≠ identifier) (within : Within world other bound) :
    Within next other bound := by
  intro account start reaches fails
  rw [elsewhere.failures other account start different]
  exact within account start (elsewhere.clock ▸ reaches) (elsewhere.successes account start fails)

/-- A step elsewhere leaves what is counted of other identifiers. -/
theorem Elsewhere.countedBut (elsewhere : Elsewhere world next identifier) {other : String}
    (different : other ≠ identifier) (counted : CountedBut world other extra) :
    CountedBut next other extra := by
  rw [CountedBut] at counted ⊢
  rw [elsewhere.attempts other different]
  split at counted
  case h_1 => exact elsewhere.within different counted
  case h_2 =>
    refine ⟨elsewhere.within different counted.1, ?_⟩
    intro account start later
    rw [elsewhere.failures other account start different]
    exact counted.2 account start later

/-- A step elsewhere leaves what the stages of others have counted. -/
theorem Elsewhere.stageCounted (elsewhere : Elsewhere world next identifier) {other : String}
    (different : other ≠ identifier) {stage : LoginStage} (counted : StageCounted world other stage) :
    StageCounted next other stage := by
  have same : attemptsNow next other = attemptsNow world other := by
    rw [attemptsNow, elsewhere.attempts other different, elsewhere.clock, attemptsNow]
  cases stage with
  | assertingNotLockedOut => trivial
  | finished outcome => trivial
  | lookingUp => exact ⟨elsewhere.countedBut different counted.1, same ▸ counted.2⟩
  | comparing account => exact ⟨elsewhere.countedBut different counted.1, same ▸ counted.2⟩
  | readingAttempts => exact elsewhere.countedBut different counted
  | storingAttempts currentAttempts => exact elsewhere.within different counted
  | clearingAttempts => exact elsewhere.within different counted

/-- As time passes, fewer windows reach now. -/
theorem Within.later (within : Within world identifier bound) (duration : Nat) :
    Within { world with now := world.now + duration } identifier bound :=
  fun account start reaches fails => within account start (by dsimp only at reaches; omega) fails

/-- Waiting loses counters and failures alike. -/
theorem CountedBut.later (counted : CountedBut world identifier extra) (duration : Nat) :
    CountedBut { world with now := world.now + duration } identifier extra := by
  rw [CountedBut] at counted ⊢
  dsimp only
  split at counted
  case h_1 => exact counted.later duration
  case h_2 => exact ⟨counted.1.later duration, counted.2⟩

/-- Waiting raises no counter. -/
theorem attemptsNow_later (duration : Nat) :
    attemptsNow { world with now := world.now + duration } identifier ≤
      attemptsNow world identifier := by
  rw [attemptsNow, attemptsNow]
  dsimp only
  cases later : read (world.attempts identifier) (world.now + duration) with
  | none => exact Nat.zero_le _
  | some value => rw [read_alive_earlier (by omega) later]

/-- Waiting leaves what a stage has counted. -/
theorem StageCounted.later {stage : LoginStage} (counted : StageCounted world identifier stage)
    (duration : Nat) :
    StageCounted { world with now := world.now + duration } identifier stage := by
  cases stage with
  | assertingNotLockedOut => trivial
  | finished outcome => trivial
  | lookingUp =>
    exact ⟨counted.1.later duration, Nat.lt_of_le_of_lt (attemptsNow_later duration) counted.2⟩
  | comparing account =>
    exact ⟨counted.1.later duration, Nat.lt_of_le_of_lt (attemptsNow_later duration) counted.2⟩
  | readingAttempts => exact CountedBut.later counted duration
  | storingAttempts currentAttempts => exact Within.later counted duration
  | clearingAttempts => exact Within.later counted duration

end Counts

/-! ## One step -/

section Tracking

variable {settings : Settings} {compare : String → String → Bool} {world next changed : LoginWorld}

/-- The counts are kept for the sign-ins underway, which are alone under their names, and
for the names without any. -/
structure Tracked (settings : Settings) (world : LoginWorld) : Prop where
  past : ∀ check ∈ world.checks, check.time ≤ world.now
  alone : ∀ (left right : Nat) (one other : Login), world.logins[left]? = some one →
    world.logins[right]? = some other → one.underway = true → other.underway = true →
      identifierOf settings one.dto = identifierOf settings other.dto → left = right
  stage : ∀ login ∈ world.logins, StageCounted world (identifierOf settings login.dto) login.stage
  idle : ∀ identifier, (∀ login ∈ world.logins, login.underway = true →
    identifierOf settings login.dto ≠ identifier) → CountedBut world identifier 0
  limited : LockedOut world.checks

/-- A sign-in that is over has nothing left to count. -/
theorem stageCounted_of_idle (identifier : String) {login : Login} (idle : login.underway = false) :
    StageCounted world identifier login.stage := by
  rw [Login.underway] at idle
  cases entered : login.stage with
  | assertingNotLockedOut => trivial
  | finished outcome => trivial
  | lookingUp => simp [entered] at idle
  | comparing account => simp [entered] at idle
  | readingAttempts => simp [entered] at idle
  | storingAttempts currentAttempts => simp [entered] at idle
  | clearingAttempts => simp [entered] at idle

/-- A stage that changes for one sign-in keeps the account of the others, provided the rest
of the step stays under its name. -/
theorem tracked_setStage (tracked : Tracked settings world) {index : Nat} {login : Login}
    (found : world.logins[index]? = some login) (same : changed.logins = world.logins)
    (elsewhere : Elsewhere world changed (identifierOf settings login.dto))
    (apart : ∀ position other, world.logins[position]? = some other → position ≠ index →
      other.underway = true → identifierOf settings other.dto ≠ identifierOf settings login.dto)
    {stage : LoginStage} (counted : StageCounted changed (identifierOf settings login.dto) stage)
    (released : Login.underway { login with stage } = false →
      CountedBut changed (identifierOf settings login.dto) 0)
    (past : ∀ check ∈ changed.checks, check.time ≤ changed.now)
    (limited : LockedOut changed.checks) :
    Tracked settings (setStage changed index login stage) := by
  have replaced : ∀ position other, (changed.logins.set index { login with stage })[position]? =
      some other → position = index ∧ other = { login with stage } ∨
        position ≠ index ∧ world.logins[position]? = some other := by
    intro position other held
    rw [List.getElem?_set, same] at held
    split at held
    case isTrue here =>
      split at held
      case isTrue => exact .inl ⟨here.symm, (Option.some.inj held).symm⟩
      case isFalse => cases held
    case isFalse away => exact .inr ⟨fun here => away here.symm, held⟩
  have position_lt : index < world.logins.length := (List.getElem?_eq_some_iff.mp found).1
  constructor
  · exact past
  · intro left right one other heldLeft heldRight underwayLeft underwayRight agree
    obtain ⟨here, rfl⟩ | ⟨away, before⟩ := replaced left one heldLeft
    · obtain ⟨there, rfl⟩ | ⟨apartRight, beforeRight⟩ := replaced right other heldRight
      · rw [here, there]
      · exact absurd agree.symm (apart right other beforeRight apartRight underwayRight)
    · obtain ⟨there, rfl⟩ | ⟨apartRight, beforeRight⟩ := replaced right other heldRight
      · exact absurd agree (apart left one before away underwayLeft)
      · exact tracked.alone left right one other before beforeRight underwayLeft underwayRight agree
  · intro other listed
    obtain ⟨position, held⟩ := List.mem_iff_getElem?.mp listed
    obtain ⟨-, rfl⟩ | ⟨away, before⟩ := replaced position other held
    · exact counted
    · have stayed := tracked.stage other (List.mem_of_getElem? before)
      cases underway : other.underway with
      | false => exact stageCounted_of_idle _ underway
      | true => exact elsewhere.stageCounted (apart position other before away underway) stayed
  · intro identifier free
    by_cases own : identifier = identifierOf settings login.dto
    case pos =>
      rw [own]
      apply released
      rw [Bool.eq_false_iff]
      intro underway
      refine free { login with stage } ?_ underway own.symm
      exact List.mem_iff_getElem?.mpr ⟨index, by
        rw [setStage, List.getElem?_set_self (same ▸ position_lt)]⟩
    case neg =>
      refine elsewhere.countedBut own (tracked.idle identifier ?_)
      intro other listed underway agree
      obtain ⟨position, held⟩ := List.mem_iff_getElem?.mp listed
      by_cases here : position = index
      case pos =>
        rw [here, found] at held
        exact own ((Option.some.inj held ▸ agree).symm)
      case neg =>
        refine free other ?_ underway agree
        refine List.mem_iff_getElem?.mpr ⟨position, ?_⟩
        rw [setStage, List.getElem?_set_ne (Ne.symm here), same, held]
  · exact limited

/-- Nothing happens elsewhere when nothing happens. -/
theorem Elsewhere.refl (world : LoginWorld) (identifier : String) :
    Elsewhere world world identifier :=
  ⟨rfl, fun _ _ => rfl, fun _ _ _ _ => rfl, fun _ _ => id⟩

/-- A sign-in underway is the only one under its name. -/
theorem Tracked.apart (tracked : Tracked settings world) {index : Nat} {login : Login}
    (found : world.logins[index]? = some login) (underway : login.underway = true) :
    ∀ position other, world.logins[position]? = some other → position ≠ index →
      other.underway = true → identifierOf settings other.dto ≠ identifierOf settings login.dto :=
  fun position other held away others agree =>
    away (tracked.alone position index other login held found others underway agree)

/-- No window that opens later holds a failure yet. -/
theorem failuresBy_later {account : UserId} {identifier : String} {start : Int}
    (past : ∀ check ∈ world.checks, check.time ≤ world.now) (later : world.now < start) :
    failuresBy world.checks account identifier start = 0 := by
  rw [failuresBy, List.countP_eq_zero]
  intro check listed counted
  simp only [Bool.and_eq_true, decide_eq_true_eq] at counted
  have passed := past check listed
  omega

/-- One more check counts for its account and identifier. -/
theorem failuresBy_append (checks : List PasswordCheck) (check : PasswordCheck)
    (account : UserId) (identifier : String) (start : Int) :
    failuresBy (checks ++ [check]) account identifier start =
      failuresBy checks account identifier start +
        if check.account = account ∧ check.identifier = identifier ∧ check.matched = false ∧
          start ≤ check.time then 1 else 0 := by
  rw [failuresBy, List.countP_append, List.countP_singleton, failuresBy]
  simp [and_assoc]

/-- An account that is not signed in to with one more check was not before. -/
theorem succeededSince_append {checks : List PasswordCheck} {check : PasswordCheck}
    {account : UserId} {start : Int} (none : succeededSince (checks ++ [check]) account start = false) :
    succeededSince checks account start = false ∧
      (check.account = account → check.matched = true → ¬ start ≤ check.time) := by
  rw [succeededSince, List.any_append, Bool.or_eq_false_iff] at none
  refine ⟨none.1, fun same matched reaches => ?_⟩
  simp [same, matched, reaches] at none

/-- A comparison leaves what is counted under other names as it is. -/
theorem elsewhere_checked (world : LoginWorld) (account : UserId) (identifier : String)
    (matched : Bool) :
    Elsewhere world
      { world with checks := world.checks ++ [⟨account, identifier, world.now, matched⟩] }
      identifier := by
  constructor
  · rfl
  · exact fun _ _ => rfl
  · intro other holder start different
    rw [failuresBy_append, if_neg fun same => different same.2.1.symm, Nat.add_zero]
  · exact fun _ _ none => (succeededSince_append none).1

/-- A write to one counter happens elsewhere for the others. -/
theorem elsewhere_attempts (world : LoginWorld) (identifier : String) (cell : Cell Nat) :
    Elsewhere world { world with attempts := Function.update world.attempts identifier cell }
      identifier :=
  ⟨rfl, fun _ different => Function.update_of_ne different _ _, fun _ _ _ _ => rfl, fun _ _ => id⟩

section Comparison

variable {identifier : String}

/-- A failure adds one to what the count does not cover yet. -/
theorem CountedBut.failed (counted : CountedBut world identifier 0) (holder : UserId) :
    CountedBut { world with checks := world.checks ++ [⟨holder, identifier, world.now, false⟩] }
      identifier 1 := by
  have grows : ∀ other start, failuresBy (world.checks ++ [⟨holder, identifier, world.now, false⟩])
      other identifier start ≤ failuresBy world.checks other identifier start + 1 := by
    intro other start
    rw [failuresBy_append]
    split
    case isTrue => exact Nat.le_refl _
    case isFalse => exact Nat.le_succ _
  rw [CountedBut] at counted ⊢
  dsimp only
  split at counted
  case h_1 =>
    intro other start reaches none
    exact Nat.le_trans (grows other start)
      (Nat.succ_le_succ (counted other start reaches (succeededSince_append none).1))
  case h_2 =>
    constructor
    · intro other start reaches none
      exact Nat.le_trans (grows other start)
        (Nat.succ_le_succ (counted.1 other start reaches (succeededSince_append none).1))
    · intro other start later
      exact Nat.le_trans (grows other start) (Nat.succ_le_succ (counted.2 other start later))

/-- A success ends every window of its account, and the others have no failure under its
name. -/
theorem within_succeeded {holder : UserId} (past : ∀ check ∈ world.checks, check.time ≤ world.now)
    (owned : ∀ check ∈ world.checks, world.now < check.time + lockoutMs →
      check.identifier = identifier → check.matched = false → check.account = holder) :
    Within { world with checks := world.checks ++ [⟨holder, identifier, world.now, true⟩] }
      identifier 0 := by
  intro other start reaches none
  obtain ⟨-, ended⟩ := succeededSince_append none
  rw [failuresBy_append, if_neg (fun failed => Bool.noConfusion failed.2.2.1), Nat.add_zero]
  rw [Nat.le_zero, failuresBy, List.countP_eq_zero]
  intro check listed failed
  simp only [Bool.and_eq_true, Bool.not_eq_true', beq_iff_eq, decide_eq_true_eq] at failed
  obtain ⟨⟨⟨accounted, named⟩, missed⟩, since⟩ := failed
  have passed := past check listed
  have same := owned check listed (by dsimp only at reaches; omega) named missed
  exact ended (same.symm.trans accounted) rfl (Int.le_trans since passed)

/-- The recent failures of an account are those under the name of its last comparison. -/
theorem limited_checked (limited : LockedOut world.checks)
    (past : ∀ check ∈ world.checks, check.time ≤ world.now) {holder : UserId}
    (named : ∀ check ∈ world.checks, world.now < check.time + lockoutMs →
      check.account = holder → check.identifier = identifier)
    (counted : CountedBut world identifier 0)
    (below : attemptsNow world identifier < LOGIN_MAX_ATTEMPTS) (matched : Bool) :
    LockedOut (world.checks ++ [⟨holder, identifier, world.now, matched⟩]) := by
  intro other start none
  rw [succeededIn, List.any_append, Bool.or_eq_false_iff] at none
  have before := limited other start none.1
  rw [failedIn, List.countP_append, List.countP_singleton]
  split
  case isFalse => exact before
  case isTrue new =>
    simp only [Bool.and_eq_true, Bool.not_eq_true', beq_iff_eq, decide_eq_true_eq] at new
    obtain ⟨⟨rfl, -⟩, opened, reaches⟩ := new
    -- every comparison since the window opened lies in it
    have unmatched : succeededSince world.checks holder start = false := by
      rw [succeededSince, List.any_eq_false]
      intro check listed succeeded
      refine List.any_eq_false.mp none.1 check listed ?_
      have passed := past check listed
      simp only [Bool.and_eq_true, beq_iff_eq, decide_eq_true_eq] at succeeded ⊢
      exact ⟨succeeded.1, succeeded.2, Int.lt_of_le_of_lt passed reaches⟩
    have fewer : failedIn world.checks holder start ≤
        failuresBy world.checks holder identifier start := by
      apply List.countP_mono_left
      intro check listed failed
      simp only [Bool.and_eq_true, Bool.not_eq_true', beq_iff_eq, decide_eq_true_eq] at failed ⊢
      obtain ⟨⟨accounted, missed⟩, since, -⟩ := failed
      exact ⟨⟨⟨accounted, named check listed (by omega) accounted⟩, missed⟩, since⟩
    have covered := counted.within holder start reaches unmatched
    rw [failedIn] at fewer
    omega

end Comparison

/-! The accesses of one sign-in. -/

section Accesses

variable {index : Nat} {login : Login}

/-- A sign-in that has looked up its account is tracked. -/
theorem tracked_looked (tracked : Tracked settings world)
    (found : world.logins[index]? = some login)
    (free : ∀ other ∈ world.logins, other.underway = true →
      identifierOf settings other.dto ≠ identifierOf settings login.dto)
    {stage : LoginStage}
    (entered : stage = .finished .locked ∨ stage = .lookingUp ∧
      attemptsNow world (identifierOf settings login.dto) < LOGIN_MAX_ATTEMPTS) :
    Tracked settings (setStage world index login stage) := by
  have idle := tracked.idle _ free
  refine tracked_setStage tracked found rfl (.refl world _) ?_ ?_ (fun _ => idle) tracked.past
    tracked.limited
  · exact fun position other held _ => free other (List.mem_of_getElem? held)
  · obtain rfl | ⟨rfl, below⟩ := entered
    · trivial
    · exact ⟨idle, below⟩

/-- A sign-in that has compared the password is tracked. -/
theorem tracked_compared (tracked : Tracked settings world)
    (found : world.logins[index]? = some login) {account : LoginAccount}
    (entered : login.stage = .comparing account) (matched : Bool)
    (owned : ∀ check ∈ world.checks, world.now < check.time + lockoutMs →
      (check.account = account.user.id → check.identifier = identifierOf settings login.dto) ∧
      (matched = true → check.identifier = identifierOf settings login.dto →
        check.matched = false → check.account = account.user.id)) :
    Tracked settings (setStage
      { world with checks := world.checks ++
          [⟨account.user.id, identifierOf settings login.dto, world.now, matched⟩] }
      index login (if matched then .clearingAttempts else .readingAttempts)) := by
  have underway : login.underway = true := by rw [Login.underway, entered]
  have counted := tracked.stage login (List.mem_of_getElem? found)
  rw [entered] at counted
  refine tracked_setStage tracked found ?_ (elsewhere_checked world _ _ matched)
    (tracked.apart found underway) ?_ ?_ ?_ ?_
  · rfl
  · cases matched with
    | true =>
      exact within_succeeded tracked.past fun check listed recent => (owned check listed recent).2 rfl
    | false => exact counted.1.failed account.user.id
  · intro idle
    cases matched with
    | true => cases idle
    | false => cases idle
  · intro check listed
    rw [List.mem_append, List.mem_singleton] at listed
    obtain old | rfl := listed
    · exact tracked.past check old
    · exact Int.le_refl _
  · exact limited_checked tracked.limited tracked.past
      (fun check listed recent => (owned check listed recent).1) counted.1 counted.2 matched

/-- A sign-in that has stored its counter is tracked. -/
theorem tracked_stored (tracked : Tracked settings world)
    (found : world.logins[index]? = some login) {currentAttempts : Nat}
    (entered : login.stage = .storingAttempts currentAttempts) :
    Tracked settings (setStage
      { world with
        attempts := Function.update world.attempts (identifierOf settings login.dto)
          (Expiring.write (currentAttempts + 1) world.now lockoutMs) }
      index login (.finished .invalid)) := by
  have underway : login.underway = true := by rw [Login.underway, entered]
  have counted := tracked.stage login (List.mem_of_getElem? found)
  rw [entered] at counted
  refine tracked_setStage tracked found ?_ (elsewhere_attempts world _ _)
    (tracked.apart found underway) trivial (fun _ => ?_) tracked.past tracked.limited
  · rfl
  rw [CountedBut]
  dsimp only
  rw [Function.update_self]
  refine ⟨counted, fun account start later => ?_⟩
  have opensLater : world.now < start := by dsimp only at later; omega
  exact Nat.le_of_eq (failuresBy_later tracked.past opensLater)

/-- A sign-in that has cleared its counter is tracked. -/
theorem tracked_cleared (tracked : Tracked settings world)
    (found : world.logins[index]? = some login) (entered : login.stage = .clearingAttempts) :
    Tracked settings (setStage
      { world with
        attempts := Function.update world.attempts (identifierOf settings login.dto) none }
      index login (.finished .loggedIn)) := by
  have underway : login.underway = true := by rw [Login.underway, entered]
  have counted := tracked.stage login (List.mem_of_getElem? found)
  rw [entered] at counted
  refine tracked_setStage tracked found ?_ (elsewhere_attempts world _ _)
    (tracked.apart found underway) trivial (fun _ => ?_) tracked.past tracked.limited
  · rfl
  rw [CountedBut]
  dsimp only
  rw [Function.update_self]
  exact counted

/-- An access that changes nothing but its sign-in. -/
theorem tracked_moved (tracked : Tracked settings world)
    (found : world.logins[index]? = some login) (underway : login.underway = true)
    {stage : LoginStage} (onward : Login.underway { login with stage } = true)
    (counted : StageCounted world (identifierOf settings login.dto) stage) :
    Tracked settings (setStage world index login stage) :=
  tracked_setStage tracked found rfl (.refl world _) (tracked.apart found underway) counted
    (fun idle => Bool.noConfusion (onward.symm.trans idle)) tracked.past tracked.limited

/-- A sign-in that goes on in its turn is tracked. -/
theorem tracked_proceed (tracked : Tracked settings world)
    (inTurn : InTurn settings compare world (.advance index))
    (found : world.logins[index]? = some login)
    (moved : proceedLogin settings compare world index login = some next) :
    Tracked settings next := by
  have counted := tracked.stage login (List.mem_of_getElem? found)
  have turn : login.InTurn settings compare world := inTurn login (Option.mem_def.mpr found)
  rw [Login.InTurn] at turn
  rw [proceedLogin] at moved
  cases entered : login.stage with
  | assertingNotLockedOut =>
    simp only [entered] at moved turn
    split at moved
    case isTrue =>
      cases moved
      exact tracked_looked tracked found turn (.inl rfl)
    case isFalse below =>
      cases moved
      refine tracked_looked tracked found turn (.inr ⟨rfl, ?_⟩)
      rw [attemptsNow]
      cases stored : Expiring.read (world.attempts (identifierOf settings login.dto)) world.now with
      | none => decide
      | some attempts =>
        simp only [stored, Option.any_some, decide_eq_true_eq] at below
        exact Nat.lt_of_not_le below
  | lookingUp =>
    have underway : login.underway = true := by rw [Login.underway, entered]
    rw [entered] at counted
    simp only [entered] at moved
    split at moved
    case h_1 =>
      cases moved
      exact tracked_moved tracked found underway rfl (counted.1.mono (Nat.zero_le 1))
    case h_2 =>
      cases moved
      exact tracked_moved tracked found underway rfl counted
  | comparing account =>
    simp only [entered] at moved turn
    cases moved
    exact tracked_compared tracked found entered _ turn
  | readingAttempts =>
    have underway : login.underway = true := by rw [Login.underway, entered]
    rw [entered] at counted
    simp only [entered] at moved
    cases moved
    exact tracked_moved tracked found underway rfl (CountedBut.within counted)
  | storingAttempts currentAttempts =>
    simp only [entered] at moved
    cases moved
    exact tracked_stored tracked found entered
  | clearingAttempts =>
    simp only [entered] at moved
    cases moved
    exact tracked_cleared tracked found entered
  | finished outcome =>
    simp only [entered] at moved
    cases moved

end Accesses

/-- A new sign-in is tracked. -/
theorem tracked_submitted (tracked : Tracked settings world) (dto : LoginDto) :
    Tracked settings { world with logins := world.logins ++ [startLogin settings dto] } := by
  have idle : (startLogin settings dto).underway = false := by
    rw [startLogin]
    split
    case isTrue => rfl
    case isFalse => rfl
  have held : ∀ (position : Nat) (login : Login),
      (world.logins ++ [startLogin settings dto])[position]? = some login →
        login.underway = true → world.logins[position]? = some login := by
    intro position login listed underway
    rw [List.getElem?_append] at listed
    split at listed
    case isTrue => exact listed
    case isFalse =>
      obtain rfl := List.mem_singleton.mp (List.mem_of_getElem? listed)
      exact Bool.noConfusion (idle.symm.trans underway)
  constructor
  · exact tracked.past
  · intro left right one other heldLeft heldRight underwayLeft underwayRight
    exact tracked.alone left right one other (held left one heldLeft underwayLeft)
      (held right other heldRight underwayRight) underwayLeft underwayRight
  · intro login listed
    obtain old | new := List.mem_append.mp listed
    · exact tracked.stage login old
    · obtain rfl := List.mem_singleton.mp new
      exact stageCounted_of_idle _ idle
  · intro identifier free
    exact tracked.idle identifier fun login old => free login (List.mem_append_left _ old)
  · exact tracked.limited

/-- Waiting keeps the sign-ins tracked. -/
theorem tracked_waited (tracked : Tracked settings world) (duration : Nat) :
    Tracked settings { world with now := world.now + duration } := by
  constructor
  · intro check listed
    have passed := tracked.past check listed
    dsimp only
    omega
  · exact tracked.alone
  · exact fun login listed => (tracked.stage login listed).later duration
  · exact fun identifier free => (tracked.idle identifier free).later duration
  · exact tracked.limited

/-- Every step in turn keeps the sign-ins tracked. -/
theorem tracked_step (tracked : Tracked settings world) {action : LoginAction}
    (inTurn : InTurn settings compare world action)
    (moved : stepLogin settings compare world action = some next) : Tracked settings next := by
  cases action with
  | wait duration =>
    cases moved
    exact tracked_waited tracked duration
  | writeAccounts accounts =>
    cases moved
    exact ⟨tracked.past, tracked.alone, tracked.stage, tracked.idle, tracked.limited⟩
  | submit dto =>
    cases moved
    exact tracked_submitted tracked dto
  | advance index =>
    obtain ⟨login, found, proceeded⟩ := Option.bind_eq_some_iff.mp moved
    exact tracked_proceed tracked inTurn found proceeded

end Tracking

/-- Before the first sign-in: nothing is counted. -/
structure Unattempted (world : LoginWorld) : Prop where
  attempts : world.attempts = fun _ => none
  logins : world.logins = []
  checks : world.checks = []

/-- A world without sign-ins is tracked. -/
theorem Unattempted.tracked {world : LoginWorld} (unattempted : Unattempted world)
    (settings : Settings) : Tracked settings world := by
  obtain ⟨attempts, logins, checks⟩ := unattempted
  constructor
  · rw [checks]
    exact fun check listed => (nomatch listed)
  · rw [logins]
    intro left right one other held
    cases held
  · rw [logins]
    exact fun login listed => (nomatch listed)
  · intro identifier free
    rw [CountedBut, attempts]
    intro account start reaches none
    rw [checks]
    exact Nat.le_refl _
  · intro account start none
    rw [checks]
    exact Nat.zero_le _

/-- As long as sign-ins under one name take turns, the password of an account is compared
under one name at a time and a name stays with its account, no fifteen minutes without a
success hold more than five failures. -/
theorem accounts_locked_out (settings : Settings) (compare : String → String → Bool)
    {world : LoginWorld} (unattempted : Unattempted world) {actions : List LoginAction}
    (inTurn : Along (stepLogin settings compare)
      (fun before action _ => InTurn settings compare before action) world actions) :
    Along (stepLogin settings compare) (fun _ _ next => LockedOut next.checks) world actions := by
  apply along_of_invariant (Tracked settings) _ _ (unattempted.tracked settings) inTurn
  · exact fun _ _ _ tracked turn moved => tracked_step tracked turn moved
  · exact fun _ _ _ tracked turn moved => (tracked_step tracked turn moved).limited

/-- An account that is found by its e-mail and by two spellings of its phone. -/
def oneAccount : LoginWorld where
  now := 0
  accounts := [⟨⟨1, 7, .RIDER, some "amina@example.rw", some "0781234567"⟩, some "hash", "ACTIVE"⟩]
  attempts := fun _ => none
  logins := []
  checks := []

/-- A whole sign-in, one access after the other. -/
def signIn (index : Nat) (dto : LoginDto) : List LoginAction :=
  .submit dto :: List.replicate 5 (.advance index)

/-- Settings that map no letter. -/
def plainSettings : Settings := ⟨true, true, fun text => text, fun token => token⟩

/-- Five failures by e-mail, and a sixth attempt that is turned away. -/
theorem accounts_locked_out_oneAccount :
    Along (stepLogin plainSettings fun _ _ => false) (fun _ _ next => LockedOut next.checks)
      oneAccount ((List.range 5).flatMap (fun index => signIn index
        ⟨some "amina@example.rw", none, "guess"⟩) ++
          [.submit ⟨some "amina@example.rw", none, "guess"⟩, .advance 5]) :=
  accounts_locked_out plainSettings (fun _ _ => false) ⟨rfl, rfl, rfl⟩
    (along_of_decide (by decide +kernel))

/-- Three failures by e-mail, two by phone and one by phone with the prefix: each name has its
own count. -/
theorem account_guessed_six_times :
    ¬ ∀ settings compare world, Unattempted world → ∀ actions,
      Along (stepLogin settings compare) (fun _ _ next => LockedOut next.checks) world actions := by
  intro always
  have sixth : ∀ middle next : LoginWorld, decide (succeededIn next.checks 1 0 = false ∧
      LOGIN_MAX_ATTEMPTS < failedIn next.checks 1 0) = true → ¬ LockedOut next.checks := by
    intro _ next found locked
    obtain ⟨none, more⟩ := of_decide_eq_true found
    exact Nat.not_lt.mpr (locked 1 0 none) more
  refine not_along_of_check oneAccount
    (signIn 0 ⟨some "amina@example.rw", none, "guess"⟩ ++
      signIn 1 ⟨some "amina@example.rw", none, "guess"⟩ ++
      signIn 2 ⟨some "amina@example.rw", none, "guess"⟩ ++
      signIn 3 ⟨none, some "0781234567", "guess"⟩ ++
      signIn 4 ⟨none, some "0781234567", "guess"⟩ ++
      [.submit ⟨none, some "+250781234567", "guess"⟩, .advance 5, .advance 5]) (.advance 5) sixth ?_
    (always plainSettings (fun _ _ => false) oneAccount ⟨rfl, rfl, rfl⟩ _)
  decide +kernel

end EmotoFleet.Accounts
