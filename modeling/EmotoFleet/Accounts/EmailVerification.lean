import EmotoFleet.Foundations.Expiring
import EmotoFleet.Foundations.Interleavings

/-!
# E-mail addresses that were proven

A registration with an e-mail needs a flag, the flag needs a code that was presented, and the
code is one that was sent to the address. Codes and flags lapse, and a flag is taken away by
the registration that it was good for. Between the reads and the writes of a call others make
theirs, so that a flag may be set when its code has lapsed and an account may be created when
its flag has.

The cache is the one of the Redis server. What a registration checks and writes besides the
e-mail is left out, as is the code of a sign-in, which has another reason.
-/

namespace EmotoFleet.Verification

open Expiring (Cell)
open Interleavings Runs
open Program (loadOrThrow ensure learns_load learns_ensure learns_write)

/-- What a code is sent for. -/
inductive OtpReason where
  | register
  | login
  deriving DecidableEq

/-- A code that was generated for an address and mailed to it. -/
structure SentCode where
  reason : OtpReason
  email : String
  otp : String
  sentAt : Int
  deriving DecidableEq

/-- A code that was presented, with the moments of its check and of the flag. -/
structure Proof where
  email : String
  otp : String
  presentedAt : Int
  confirmedAt : Int
  deriving DecidableEq

/-- An account with an e-mail, and when its flag was found. -/
structure Registered where
  email : String
  checkedAt : Int
  deriving DecidableEq

/-- The keys of the cache and the addresses of accounts, with a history of all codes that
were sent and all flags that were set. -/
structure VerificationStore where
  now : Int
  otps : OtpReason × String → Cell String
  verified : String → Cell Unit
  users : List Registered
  sent : List SentCode
  proofs : List Proof

/-- The writes of the service. -/
inductive Write where
  | setOtp (reason : OtpReason) (email otp : String)
  | setVerified (email otp : String) (presentedAt : Int)
  | deleteOtp (reason : OtpReason) (email : String)
  | createUser (user : Registered)
  | deleteVerified (email : String)
  | pass (elapsed : Nat)

/-- The refusals of the service. -/
inductive Failure where
  | badRequest (message : String)
  | conflict (message : String)
  deriving DecidableEq

/-- A code lasts five minutes. -/
def otpTtl : Int := 300 * 1000

/-- A verification lasts fifteen minutes. -/
def verifiedTtl : Int := 900 * 1000

/-- The effect of each write. -/
def apply (store : VerificationStore) : Write → Except Empty VerificationStore
  | .setOtp reason email otp =>
    .ok { store with
      otps := Function.update store.otps (reason, email) (Expiring.write otp store.now otpTtl)
      sent := store.sent ++ [⟨reason, email, otp, store.now⟩] }
  | .setVerified email otp presentedAt =>
    .ok { store with
      verified := Function.update store.verified email (Expiring.write () store.now verifiedTtl)
      proofs := store.proofs ++ [⟨email, otp, presentedAt, store.now⟩] }
  | .deleteOtp reason email =>
    .ok { store with otps := Function.update store.otps (reason, email) none }
  | .createUser user => .ok { store with users := store.users ++ [user] }
  | .deleteVerified email => .ok { store with verified := Function.update store.verified email none }
  | .pass elapsed => .ok { store with now := store.now + elapsed }

/-! ## The requests -/

/-- A call of the service, access by access. -/
abbrev Call := Program VerificationStore Write Empty Failure

/-- A write that is never rejected. -/
def save (operation : Write) : Call Unit :=
  Program.write operation Empty.elim

section Requests

variable (trim toLowerCase : String → String)

/-- `otp` is the code that is drawn. -/
def sendOtp (email : String) (reason : OtpReason) (otp : String) : Call Unit := do
  let normalizedEmail := toLowerCase (trim email)
  let taken ← Program.read fun store => store.users.any fun user => user.email == normalizedEmail
  ensure (!(reason == .register && taken)) (.conflict "Email is already registered")
  save (.setOtp reason normalizedEmail otp)

/-- A code is compared, and the address is verified. -/
def verifyOtp (email : String) (reason : OtpReason) (otp : String) : Call Unit := do
  let normalizedEmail := toLowerCase (trim email)
  let presentedAt ← loadOrThrow
    (fun store => if Expiring.read (store.otps (reason, normalizedEmail)) store.now = some otp
      then some store.now else none)
    (.badRequest "Invalid or expired OTP")
  if reason = .register then
    save (.setVerified normalizedEmail otp presentedAt)
    save (.deleteOtp reason normalizedEmail)
  else save (.deleteOtp reason normalizedEmail)

/-- What every registration with an e-mail does with its flag. -/
def register (email : String) : Call Unit := do
  let normalizedEmail := toLowerCase email
  let checkedAt ← loadOrThrow
    (fun store => if Expiring.read (store.verified normalizedEmail) store.now = some ()
      then some store.now else none)
    (.badRequest "Please verify your email address using OTP first")
  save (.createUser ⟨normalizedEmail, checkedAt⟩)
  save (.deleteVerified normalizedEmail)

/-- The requests of the service. -/
inductive Request where
  | sendOtp (email : String) (reason : OtpReason) (otp : String)
  | verifyOtp (email : String) (reason : OtpReason) (otp : String)
  | register (email : String)
  | pass (elapsed : Nat)

/-- The calls that serve the requests. -/
def handle : Request → Call Unit
  | .sendOtp email reason otp => sendOtp trim toLowerCase email reason otp
  | .verifyOtp email reason otp => verifyOtp trim toLowerCase email reason otp
  | .register email => register toLowerCase email
  | .pass elapsed => save (.pass elapsed)

end Requests

/-! ## Where flags and accounts come from -/

/-- The code was sent to the address for a registration, and had not lapsed when it was
presented. -/
def Backed (sent : List SentCode) (email otp : String) (presentedAt : Int) : Prop :=
  ∃ code ∈ sent, code.reason = .register ∧ code.email = email ∧ code.otp = otp ∧
    code.sentAt ≤ presentedAt ∧ presentedAt < code.sentAt + otpTtl

/-- A flag for the address was set and had not lapsed when it was found. -/
def Proven (proofs : List Proof) (email : String) (checkedAt : Int) : Prop :=
  ∃ proof ∈ proofs, proof.email = email ∧ proof.confirmedAt ≤ checkedAt ∧
    checkedAt < proof.confirmedAt + verifiedTtl

/-- What is stored was sent or proven. -/
structure Sound (store : VerificationStore) : Prop where
  otps : ∀ reason email entry, store.otps (reason, email) = some entry →
    ∃ code ∈ store.sent, code.reason = reason ∧ code.email = email ∧ code.otp = entry.value ∧
      code.sentAt ≤ store.now ∧ entry.expiresAt = code.sentAt + otpTtl
  flags : ∀ email entry, store.verified email = some entry →
    ∃ proof ∈ store.proofs, proof.email = email ∧ proof.confirmedAt ≤ store.now ∧
      entry.expiresAt = proof.confirmedAt + verifiedTtl
  proofs : ∀ proof ∈ store.proofs, Backed store.sent proof.email proof.otp proof.presentedAt ∧
    proof.presentedAt ≤ proof.confirmedAt
  users : ∀ user ∈ store.users, Proven store.proofs user.email user.checkedAt

/-- Time goes on and nothing leaves the history. -/
structure Later (seen store : VerificationStore) : Prop where
  now : seen.now ≤ store.now
  sent : seen.sent ⊆ store.sent
  proofs : seen.proofs ⊆ store.proofs

/-- No time passes in no step. -/
theorem later_refl (store : VerificationStore) : Later store store :=
  ⟨Int.le_refl _, List.Subset.refl _, List.Subset.refl _⟩

/-- Later than later is later. -/
theorem later_trans (first second third : VerificationStore) (before : Later first second)
    (after : Later second third) : Later first third :=
  ⟨Int.le_trans before.now after.now, List.Subset.trans before.sent after.sent,
    List.Subset.trans before.proofs after.proofs⟩

/-- A code that was sent was sent. -/
theorem Backed.more {sent more : List SentCode} {email otp : String} {presentedAt : Int}
    (backed : Backed sent email otp presentedAt) (within : sent ⊆ more) :
    Backed more email otp presentedAt := by
  obtain ⟨code, listed, rest⟩ := backed
  exact ⟨code, within listed, rest⟩

/-- An address that was proven was proven. -/
theorem Proven.more {proofs more : List Proof} {email : String} {checkedAt : Int}
    (proven : Proven proofs email checkedAt) (within : proofs ⊆ more) :
    Proven more email checkedAt := by
  obtain ⟨proof, listed, rest⟩ := proven
  exact ⟨proof, within listed, rest⟩

/-- What the checks promise of a write. -/
def Vouched (store : VerificationStore) : Write → Prop
  | .setVerified email otp presentedAt =>
    Backed store.sent email otp presentedAt ∧ presentedAt ≤ store.now
  | .createUser user => Proven store.proofs user.email user.checkedAt
  | .setOtp _ _ _ | .deleteOtp _ _ | .deleteVerified _ | .pass _ => True

/-- What a key holds after a write is what was written to it, or what it held before. -/
theorem held_update {κ α : Type} [DecidableEq κ] {cells : κ → Option α} {key other : κ}
    {written : Option α} {entry : α} (held : Function.update cells key written other = some entry) :
    (other = key ∧ written = some entry) ∨ cells other = some entry := by
  by_cases same : other = key
  · subst same
    rw [Function.update_self] at held
    exact Or.inl ⟨rfl, held⟩
  · rw [Function.update_of_ne same] at held
    exact Or.inr held

section Steps

variable {store : VerificationStore}

/-- A code that is still stored was sent. -/
theorem backed_of_read {email otp : String} (sound : Sound store)
    (found : Expiring.read (store.otps (.register, email)) store.now = some otp) :
    Backed store.sent email otp store.now := by
  obtain ⟨entry, held, alive, value⟩ := (Expiring.read_eq_some_iff _ _ _).mp found
  obtain ⟨code, listed, reason, address, same, earlier, lapses⟩ := sound.otps .register email entry held
  exact ⟨code, listed, reason, address, same.trans value, earlier, lapses ▸ alive⟩

/-- A verification that is still stored was proven. -/
theorem proven_of_read {email : String} (sound : Sound store)
    (found : Expiring.read (store.verified email) store.now = some ()) :
    Proven store.proofs email store.now := by
  obtain ⟨entry, held, alive, _⟩ := (Expiring.read_eq_some_iff _ _ _).mp found
  obtain ⟨proof, listed, address, earlier, lapses⟩ := sound.flags email entry held
  exact ⟨proof, listed, address, earlier, lapses ▸ alive⟩

/-- A vouched write keeps the store sound and leads on. -/
theorem apply_later (store : VerificationStore) (operation : Write) (written : VerificationStore)
    (sound : Sound store) (vouched : Vouched store operation)
    (accepted : apply store operation = .ok written) : Sound written ∧ Later store written := by
  cases operation with
  | setOtp reason email otp =>
    cases accepted
    have more : store.sent ⊆ store.sent ++ [⟨reason, email, otp, store.now⟩] :=
      List.subset_append_left _ _
    refine ⟨⟨?_, sound.flags, ?_, sound.users⟩, Int.le_refl _, more, List.Subset.refl _⟩
    · intro other address entry held
      cases held_update held with
      | inl new =>
        obtain ⟨same, stored⟩ := new
        cases same
        cases stored
        exact ⟨_, List.mem_append_right _ List.mem_cons_self, rfl, rfl, rfl, Int.le_refl _, rfl⟩
      | inr old =>
        obtain ⟨code, listed, rest⟩ := sound.otps other address entry old
        exact ⟨code, more listed, rest⟩
    · exact fun proof listed => (sound.proofs proof listed).imp_left (Backed.more · more)
  | setVerified email otp presentedAt =>
    cases accepted
    have more : store.proofs ⊆ store.proofs ++ [⟨email, otp, presentedAt, store.now⟩] :=
      List.subset_append_left _ _
    refine ⟨⟨sound.otps, ?_, ?_, ?_⟩, Int.le_refl _, List.Subset.refl _, more⟩
    · intro address entry held
      cases held_update held with
      | inl new =>
        obtain ⟨same, stored⟩ := new
        cases same
        cases stored
        exact ⟨_, List.mem_append_right _ List.mem_cons_self, rfl, Int.le_refl _, rfl⟩
      | inr old =>
        obtain ⟨proof, listed, rest⟩ := sound.flags address entry old
        exact ⟨proof, more listed, rest⟩
    · intro proof listed
      cases List.mem_append.mp listed with
      | inl old => exact sound.proofs proof old
      | inr new =>
        obtain rfl := List.mem_singleton.mp new
        exact vouched
    · exact fun user listed => (sound.users user listed).more more
  | deleteOtp reason email =>
    cases accepted
    refine ⟨⟨?_, sound.flags, sound.proofs, sound.users⟩, Int.le_refl _, List.Subset.refl _, List.Subset.refl _⟩
    intro other address entry held
    cases held_update held with
    | inl new => cases new.2
    | inr old => exact sound.otps other address entry old
  | createUser user =>
    cases accepted
    refine ⟨⟨sound.otps, sound.flags, sound.proofs, ?_⟩, Int.le_refl _, List.Subset.refl _, List.Subset.refl _⟩
    intro other listed
    cases List.mem_append.mp listed with
    | inl old => exact sound.users other old
    | inr new =>
      obtain rfl := List.mem_singleton.mp new
      exact vouched
  | deleteVerified email =>
    cases accepted
    refine ⟨⟨sound.otps, ?_, sound.proofs, sound.users⟩, Int.le_refl _, List.Subset.refl _, List.Subset.refl _⟩
    intro address entry held
    cases held_update held with
    | inl new => cases new.2
    | inr old => exact sound.flags address entry old
  | pass elapsed =>
    cases accepted
    have onward : store.now ≤ store.now + elapsed := Int.le_add_of_nonneg_right (Int.natCast_nonneg _)
    refine ⟨⟨?_, ?_, sound.proofs, sound.users⟩, onward, List.Subset.refl _, List.Subset.refl _⟩
    · intro reason email entry held
      obtain ⟨code, listed, own, address, same, earlier, lapses⟩ := sound.otps reason email entry held
      exact ⟨code, listed, own, address, same, Int.le_trans earlier onward, lapses⟩
    · intro email entry held
      obtain ⟨proof, listed, address, earlier, lapses⟩ := sound.flags email entry held
      exact ⟨proof, listed, address, Int.le_trans earlier onward, lapses⟩

/-- Every call answers for what it writes. -/
theorem handle_knows (trim toLowerCase : String → String) (request : Request)
    (seen : VerificationStore) :
    (handle trim toLowerCase request).Knows Sound Later Vouched seen := by
  refine Program.knows_of_learns (?_ : Program.Learns Sound Later Vouched (fun _ _ => True) seen
    (handle trim toLowerCase request))
  cases request with
  | pass elapsed => exact learns_write fun _ _ => trivial
  | sendOtp email reason otp =>
    intro store _ _
    apply learns_ensure
    intro _
    exact learns_write fun _ _ => trivial
  | verifyOtp email reason otp =>
    apply learns_load
    intro store presentedAt sound _ found
    obtain ⟨held, moment⟩ := (Option.ite_some_none_eq_some).mp found
    subst moment
    by_cases registers : reason = .register
    · rw [if_pos registers]
      subst registers
      refine ⟨fun later onward => ⟨?_, onward.now⟩, fun _ _ => trivial, trivial⟩
      exact (backed_of_read sound held).more onward.sent
    · rw [if_neg registers]
      exact learns_write fun _ _ => trivial
  | register email =>
    apply learns_load
    intro store checkedAt sound _ found
    obtain ⟨held, moment⟩ := (Option.ite_some_none_eq_some).mp found
    subst moment
    refine ⟨fun later onward => ?_, fun _ _ => trivial, trivial⟩
    exact (proven_of_read sound held).more onward.proofs

end Steps

/-- The service before the first request. -/
def started : System VerificationStore Write Empty Failure :=
  ⟨⟨0, fun _ => none, fun _ => none, [], [], []⟩, []⟩

/-- It is sound. -/
theorem started_sound : Sound started.store := by
  constructor
  · intro _ _ _ held
    cases held
  · intro _ _ held
    cases held
  · intro _ listed
    cases listed
  · intro _ listed
    cases listed

/-- In every interleaving every account with an e-mail was let in by a flag that was set at
most fifteen minutes before, and the flag was set for a code that had been sent to this
e-mail for a registration at most five minutes before it was presented. -/
theorem registered_emails_proven (trim toLowerCase : String → String)
    (actions : List (Action Request)) :
    Along (step apply (handle trim toLowerCase)) (fun _ _ next => ∀ user ∈ next.store.users,
      ∃ proof ∈ next.store.proofs, proof.email = user.email ∧ proof.presentedAt ≤ proof.confirmedAt ∧
        proof.confirmedAt ≤ user.checkedAt ∧ user.checkedAt < proof.confirmedAt + verifiedTtl ∧
        ∃ code ∈ next.store.sent, code.reason = .register ∧ code.email = user.email ∧
          code.otp = proof.otp ∧ code.sentAt ≤ proof.presentedAt ∧
          proof.presentedAt < code.sentAt + otpTtl)
      started actions := by
  have nobody : started.Knows Sound Later Vouched := by
    intro program listed
    cases listed
  have stays : ∀ before action next,
      Sound before.store ∧ before.Knows Sound Later Vouched →
      step apply (handle trim toLowerCase) before action = some next →
      Sound next.store ∧ next.Knows Sound Later Vouched :=
    fun before action next both moved => step_knows later_refl later_trans apply_later
      (handle_knows trim toLowerCase) both.1 both.2 moved
  refine along_of_invariant (fun system : System VerificationStore Write Empty Failure =>
    Sound system.store ∧ system.Knows Sound Later Vouched) ?_ ?_ ⟨started_sound, nobody⟩
    (along_true _ _ actions)
  · exact fun before action next both _ moved => stays before action next both moved
  · intro before action next both _ moved user listed
    have sound := (stays before action next both moved).1
    obtain ⟨proof, recorded, address, earlier, alive⟩ := sound.users user listed
    obtain ⟨backed, ordered⟩ := sound.proofs proof recorded
    obtain ⟨code, mailed, reason, sentTo, same, rest⟩ := backed
    exact ⟨proof, recorded, address, ordered, earlier, alive, code, mailed, reason,
      sentTo.trans address, same, rest⟩

/-- A code is sent, presented and good for one account. -/
example : (run (step apply (handle id id)) started
    [.submit (.sendOtp "rider@fleet.example" .register "123456"), .advance 0, .advance 0,
      .submit (.verifyOtp "rider@fleet.example" .register "123456"), .advance 1, .advance 1,
      .advance 1, .submit (.register "rider@fleet.example"), .advance 2, .advance 2, .advance 2]).map
    (fun system => (system.store.users.length,
      (system.store.verified "rider@fleet.example").isSome)) = some (1, false) := by decide

end EmotoFleet.Verification
