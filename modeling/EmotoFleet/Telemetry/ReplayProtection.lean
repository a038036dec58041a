import EmotoFleet.Foundations.Runs
import EmotoFleet.Telemetry.Ingestion

/-!
# Replay protection of the MQTT messages

A message is first tested for timestamp drift and later, after the signature has
been checked, claims its nonce: a key of the device and the nonce that is set if
it is absent and lapses after ten minutes. The two steps read the clock at
different moments. The keys live in Redis or, in the in-memory mode and whenever
Redis cannot be reached, in the memory of the process that handles the message.

Signatures are taken to be right, since a replayed message carries a valid one. A
Redis call that fails is taken not to have reached the server. Whether Redis still
has a key at the very instant at which it lapses is left open.
-/

namespace EmotoFleet.ReplayProtection

open LiveState Ingestion Runs

/-- A nonce is remembered for ten minutes. -/
def MQTT_NONCE_TTL_SECONDS : Int := 10 * 60

/-- One run of the server; a restart begins another one with an empty memory. -/
structure Process where
  id : Nat
  useInMemoryStore : Bool
deriving DecidableEq

/-- A message on its way through a process, with the clock readings of the drift
check and of the nonce claim. -/
structure Attempt where
  deviceUid : String
  ts : Timestamp
  nonce : String
  process : Process
  checkedAt : Int
  redisFails : Bool
  claimedAt : Int
deriving DecidableEq

/-- Where nonces are remembered. -/
inductive Store where
  | redis
  | memory (process : Nat)
deriving DecidableEq

/-- The store that answers the claim. -/
def Attempt.store (attempt : Attempt) : Store :=
  if attempt.process.useInMemoryStore || attempt.redisFails then .memory attempt.process.id
  else .redis

/-- The key of a device's nonce. -/
def buildNonceKey (deviceUid nonce : String) : String :=
  "mqtt:nonce:" ++ deviceUid ++ ":" ++ nonce

/-- The key of an attempt's nonce. -/
def Attempt.nonceKey (attempt : Attempt) : String := buildNonceKey attempt.deviceUid attempt.nonce

/-- The instant at which a claim made by this attempt lapses. -/
def Attempt.lapsesAt (attempt : Attempt) : Int := attempt.claimedAt + MQTT_NONCE_TTL_SECONDS * 1000

/-- The keys of every store, each with the instant at which it lapses. -/
abbrev Keys := Store → String → Option Int

/-- What is remembered and what was accepted. -/
structure World where
  keys : Keys
  accepted : List Attempt

/-- Nothing is remembered. -/
def fresh : World := ⟨fun _ _ => none, []⟩

/-- A key that was set with a time to live is there before it lapses and gone
afterwards. -/
structure RedisExpiry (redisKeeps : Int → Int → Bool) : Prop where
  before : ∀ expiresAt now, now < expiresAt → redisKeeps expiresAt now = true
  after : ∀ expiresAt now, expiresAt < now → redisKeeps expiresAt now = false

variable (redisKeeps : Int → Int → Bool)

/-- Whether a store still has a key that lapses at the given instant. The memory
purges it at that very instant. -/
def keeps : Store → Int → Int → Bool
  | .redis, expiresAt, now => redisKeeps expiresAt now
  | .memory _, expiresAt, now => !decide (expiresAt ≤ now)

/-- A key is set unless it is still kept. -/
def setIfNotExists (keys : Keys) (store : Store) (key : String) (now ttlSeconds : Int) :
    Keys × Bool :=
  if (keys store key).any fun expiresAt => keeps redisKeeps store expiresAt now then (keys, false)
  else
    (fun otherStore otherKey =>
      if otherStore = store ∧ otherKey = key then some (now + ttlSeconds * 1000)
      else keys otherStore otherKey, true)

/-- An attempt is refused where its nonce is remembered. -/
def assertNonceNotReplayed (keys : Keys) (attempt : Attempt) : Except String Keys :=
  match setIfNotExists redisKeeps keys attempt.store attempt.nonceKey attempt.claimedAt
    MQTT_NONCE_TTL_SECONDS with
  | (claimed, true) => pure claimed
  | (_, false) => throw "Replay nonce detected"

/-- The authenticity checks of a message, in the order of the handlers. -/
def receive (world : World) (attempt : Attempt) : Except String World := do
  assertTimestampDrift attempt.ts attempt.checkedAt
  let keys ← assertNonceNotReplayed redisKeeps world.keys attempt
  pure { keys, accepted := world.accepted ++ [attempt] }

/-- An attempt that is refused changes nothing. -/
def arrive (world : World) (attempt : Attempt) : World :=
  match receive redisKeeps world attempt with
  | .ok next => next
  | .error _ => world

/-- The same device, the same instant and the same nonce. -/
def SameMessage (left right : Attempt) : Prop :=
  left.deviceUid = right.deviceUid ∧ left.ts.epochMs = right.ts.epochMs ∧ left.nonce = right.nonce

instance (left right : Attempt) : Decidable (SameMessage left right) :=
  inferInstanceAs (Decidable (_ ∧ _ ∧ _))

/-- No two accepted messages are the same. -/
def Unreplayed (world : World) : Prop :=
  world.accepted.Pairwise fun earlier later => ¬ SameMessage earlier later

instance (world : World) : Decidable (Unreplayed world) :=
  inferInstanceAs (Decidable (List.Pairwise _ _))

/-- The time of an attempt is near the clock. -/
def WithinDrift (attempt : Attempt) : Prop :=
  |attempt.checkedAt - attempt.ts.epochMs| ≤ MQTT_MAX_TIMESTAMP_DRIFT_MS

/-- An accepted claim of the same key was made in the store that now answers, and it
has not lapsed there. -/
def Remembered (world : World) (attempt : Attempt) : Prop :=
  ∃ earlier ∈ world.accepted, earlier.nonceKey = attempt.nonceKey ∧
    earlier.store = attempt.store ∧
    keeps redisKeeps attempt.store earlier.lapsesAt attempt.claimedAt = true

/-- A message that was accepted before and still passes the drift check meets a
remembered claim. -/
def ReplaysRemembered (world : World) (attempt : Attempt) : Prop :=
  WithinDrift attempt → (∃ earlier ∈ world.accepted, SameMessage earlier attempt) →
    Remembered redisKeeps world attempt

/-- The claim follows the check and is made before the drift window of the
timestamp closes. -/
structure Prompt (attempt : Attempt) : Prop where
  inTurn : attempt.checkedAt ≤ attempt.claimedAt
  inWindow : attempt.claimedAt < attempt.ts.epochMs + MQTT_MAX_TIMESTAMP_DRIFT_MS

/-- The keys are those that accepted messages have claimed. -/
structure Recorded (world : World) : Prop where
  claimed : ∀ attempt ∈ world.accepted, ∃ expiresAt,
    world.keys attempt.store attempt.nonceKey = some expiresAt ∧ attempt.lapsesAt ≤ expiresAt
  claimant : ∀ store key expiresAt, world.keys store key = some expiresAt →
    ∃ attempt ∈ world.accepted,
      attempt.store = store ∧ attempt.nonceKey = key ∧ attempt.lapsesAt = expiresAt

/-- Whether the key of an attempt is present when it is claimed. -/
def heldKey (world : World) (attempt : Attempt) : Bool :=
  (world.keys attempt.store attempt.nonceKey).any fun expiresAt =>
    keeps redisKeeps attempt.store expiresAt attempt.claimedAt

/-- The world after an accepted message. -/
def claim (world : World) (attempt : Attempt) : World where
  keys := fun store key =>
    if store = attempt.store ∧ key = attempt.nonceKey then some attempt.lapsesAt
    else world.keys store key
  accepted := world.accepted ++ [attempt]

/-- A message is refused or accepted with its claim. -/
theorem arrive_cases (world : World) (attempt : Attempt) :
    (¬ WithinDrift attempt ∧ arrive redisKeeps world attempt = world) ∨
      (WithinDrift attempt ∧ heldKey redisKeeps world attempt = true ∧
        arrive redisKeeps world attempt = world) ∨
      (WithinDrift attempt ∧ heldKey redisKeeps world attempt = false ∧
        arrive redisKeeps world attempt = claim world attempt) := by
  by_cases inside : WithinDrift attempt
  · have passed : ¬ |attempt.checkedAt - attempt.ts.epochMs| > MQTT_MAX_TIMESTAMP_DRIFT_MS :=
      not_lt.mpr inside
    cases held : heldKey redisKeeps world attempt with
    | true =>
      refine Or.inr (Or.inl ⟨inside, rfl, ?_⟩)
      rw [heldKey] at held
      simp [arrive, receive, assertTimestampDrift, passed, assertNonceNotReplayed, setIfNotExists,
        held, bind, Except.bind, pure, Except.pure, throw, throwThe, MonadExceptOf.throw]
    | false =>
      refine Or.inr (Or.inr ⟨inside, rfl, ?_⟩)
      rw [heldKey] at held
      simp [arrive, receive, assertTimestampDrift, passed, assertNonceNotReplayed, setIfNotExists,
        held, bind, Except.bind, pure, Except.pure, claim, Attempt.lapsesAt]
  · have refused : |attempt.checkedAt - attempt.ts.epochMs| > MQTT_MAX_TIMESTAMP_DRIFT_MS :=
      not_le.mp inside
    refine Or.inl ⟨inside, ?_⟩
    simp [arrive, receive, assertTimestampDrift, refused, bind, Except.bind, throw, throwThe,
      MonadExceptOf.throw]

variable {redisKeeps}

section Expiry

variable (expiry : RedisExpiry redisKeeps)

include expiry

/-- A key is kept until it expires. -/
theorem keeps_before (store : Store) {expiresAt now : Int} (early : now < expiresAt) :
    keeps redisKeeps store expiresAt now = true := by
  cases store with
  | redis => exact expiry.before expiresAt now early
  | memory process => simp [keeps, early]

/-- A key that is not kept has expired. -/
theorem le_of_not_keeps {store : Store} {expiresAt now : Int}
    (lapsed : keeps redisKeeps store expiresAt now = false) : expiresAt ≤ now := by
  by_contra early
  rw [keeps_before expiry store (Int.not_le.mp early)] at lapsed
  cases lapsed

/-- A key that lapses later is kept at least as long. -/
theorem keeps_mono {store : Store} {earlier later now : Int} (ordered : earlier ≤ later)
    (kept : keeps redisKeeps store earlier now = true) :
    keeps redisKeeps store later now = true := by
  by_contra lapsed
  have laterPast := le_of_not_keeps expiry (Bool.eq_false_of_not_eq_true lapsed)
  rcases Int.lt_or_eq_of_le ordered with shorter | same
  · have gone : keeps redisKeeps store earlier now = false := by
      cases store with
      | redis => exact expiry.after earlier now (Int.lt_of_lt_of_le shorter laterPast)
      | memory process =>
        have past : earlier ≤ now := Int.le_trans ordered laterPast
        simp [keeps, past]
    rw [gone] at kept
    cases kept
  · exact lapsed (same ▸ kept)

/-- The key of an attempt is present exactly when a claim of it is remembered. -/
theorem heldKey_iff {world : World} (recorded : Recorded world) (attempt : Attempt) :
    heldKey redisKeeps world attempt = true ↔ Remembered redisKeeps world attempt := by
  rw [heldKey, Option.any_eq_true]
  constructor
  · rintro ⟨expiresAt, present, kept⟩
    obtain ⟨earlier, accepted, sameStore, sameKey, lapse⟩ :=
      recorded.claimant attempt.store attempt.nonceKey expiresAt present
    exact ⟨earlier, accepted, sameKey, sameStore, by rwa [lapse]⟩
  · rintro ⟨earlier, accepted, sameKey, sameStore, kept⟩
    obtain ⟨expiresAt, present, notBefore⟩ := recorded.claimed earlier accepted
    rw [sameKey, sameStore] at present
    exact ⟨expiresAt, present, keeps_mono expiry notBefore kept⟩

/-- An accepted claim replaces only a key that has lapsed. -/
theorem recorded_claim {world : World} {attempt : Attempt} (recorded : Recorded world)
    (absent : heldKey redisKeeps world attempt = false) : Recorded (claim world attempt) := by
  constructor
  · intro earlier accepted
    by_cases same : earlier.store = attempt.store ∧ earlier.nonceKey = attempt.nonceKey
    · refine ⟨attempt.lapsesAt, by simp [claim, same], ?_⟩
      rcases List.mem_append.mp accepted with before | new
      · obtain ⟨expiresAt, present, notBefore⟩ := recorded.claimed earlier before
        rw [same.1, same.2] at present
        have lapsed : keeps redisKeeps attempt.store expiresAt attempt.claimedAt = false := by
          simpa [heldKey, present] using absent
        have past := le_of_not_keeps expiry lapsed
        unfold Attempt.lapsesAt MQTT_NONCE_TTL_SECONDS at notBefore ⊢
        omega
      · rw [List.mem_singleton.mp new]
    · rcases List.mem_append.mp accepted with before | new
      · obtain ⟨expiresAt, present, notBefore⟩ := recorded.claimed earlier before
        exact ⟨expiresAt, by simp [claim, same, present], notBefore⟩
      · rw [List.mem_singleton.mp new] at same
        exact absurd ⟨rfl, rfl⟩ same
  · intro store key expiresAt present
    by_cases same : store = attempt.store ∧ key = attempt.nonceKey
    · refine ⟨attempt, by simp [claim], same.1.symm, same.2.symm, ?_⟩
      simpa [claim, same] using present
    · have before : world.keys store key = some expiresAt := by simpa [claim, same] using present
      obtain ⟨earlier, accepted, matching⟩ := recorded.claimant store key expiresAt before
      exact ⟨earlier, List.mem_append_left _ accepted, matching⟩

/-- What is accepted is remembered. -/
theorem recorded_arrive {world : World} (recorded : Recorded world) (attempt : Attempt) :
    Recorded (arrive redisKeeps world attempt) := by
  rcases arrive_cases redisKeeps world attempt with
    ⟨_, same⟩ | ⟨_, _, same⟩ | ⟨_, absent, claimed⟩
  · rwa [same]
  · rwa [same]
  · rw [claimed]
    exact recorded_claim expiry recorded absent

/-- One message keeps the accepted messages distinct exactly when a replay meets a
remembered claim. -/
theorem unreplayed_arrive_iff {world : World} (recorded : Recorded world)
    (unreplayed : Unreplayed world) (attempt : Attempt) :
    Unreplayed (arrive redisKeeps world attempt) ↔ ReplaysRemembered redisKeeps world attempt := by
  rcases arrive_cases redisKeeps world attempt with
    ⟨outside, same⟩ | ⟨_, held, same⟩ | ⟨inside, absent, claimed⟩
  · rw [same]
    exact iff_of_true unreplayed fun inside => absurd inside outside
  · rw [same]
    exact iff_of_true unreplayed fun _ _ => (heldKey_iff expiry recorded attempt).mp held
  · have forgotten : ¬ Remembered redisKeeps world attempt := by
      rw [← heldKey_iff expiry recorded attempt, absent]
      exact Bool.false_ne_true
    rw [claimed, Unreplayed, claim, List.pairwise_append]
    constructor
    · rintro ⟨_, _, distinct⟩ _ ⟨earlier, accepted, same⟩
      exact absurd same (distinct earlier accepted attempt (List.mem_singleton_self _))
    · intro remembered
      refine ⟨unreplayed, List.pairwise_singleton _ _, ?_⟩
      intro earlier accepted later new same
      rw [List.mem_singleton.mp new] at same
      exact forgotten (remembered inside ⟨earlier, accepted, same⟩)

/-- Prompt claims of one store are remembered for as long as a replay can pass the
drift check. -/
theorem remembered_of_prompt {world : World} {attempt earlier : Attempt}
    (accepted : earlier ∈ world.accepted) (same : SameMessage earlier attempt)
    (timely : WithinDrift earlier) (earlierPrompt : Prompt earlier) (prompt : Prompt attempt)
    (oneStore : earlier.store = attempt.store) : Remembered redisKeeps world attempt := by
  obtain ⟨sameDevice, sameInstant, sameNonce⟩ := same
  refine ⟨earlier, accepted, ?_, oneStore, ?_⟩
  · rw [Attempt.nonceKey, Attempt.nonceKey, sameDevice, sameNonce]
  · apply keeps_before expiry
    have notEarly : earlier.ts.epochMs - MQTT_MAX_TIMESTAMP_DRIFT_MS ≤ earlier.checkedAt := by
      have window := (abs_le.mp timely).1
      omega
    have claimedAfter := earlierPrompt.inTurn
    have claimedBefore := prompt.inWindow
    unfold Attempt.lapsesAt MQTT_NONCE_TTL_SECONDS
    unfold MQTT_MAX_TIMESTAMP_DRIFT_MS at notEarly claimedBefore
    omega

end Expiry

/-- Accepted messages come from the run and have passed the drift check. -/
theorem accepted_arrive {world : World} {attempts : List Attempt}
    (known : ∀ earlier ∈ world.accepted, earlier ∈ attempts ∧ WithinDrift earlier)
    {attempt : Attempt} (inRun : attempt ∈ attempts) :
    ∀ earlier ∈ (arrive redisKeeps world attempt).accepted,
      earlier ∈ attempts ∧ WithinDrift earlier := by
  rcases arrive_cases redisKeeps world attempt with
    ⟨_, same⟩ | ⟨_, _, same⟩ | ⟨inside, _, claimed⟩
  · rwa [same]
  · rwa [same]
  · rw [claimed]
    intro earlier accepted
    rcases List.mem_append.mp accepted with before | new
    · exact known earlier before
    · rw [List.mem_singleton.mp new]
      exact ⟨inRun, inside⟩

variable (redisKeeps) in
/-- Every message of a run that is a replay meets a remembered claim. -/
def AllRemembered (attempts : List Attempt) : Prop :=
  Along (total (arrive redisKeeps)) (fun world attempt _ => ReplaysRemembered redisKeeps world attempt)
    fresh attempts

variable (redisKeeps) in
/-- After every message of a run, the accepted messages are distinct. -/
def NeverReplayed (attempts : List Attempt) : Prop :=
  Along (total (arrive redisKeeps)) (fun _ _ next => Unreplayed next) fresh attempts

/-- Nothing accepted is remembered. -/
theorem recorded_fresh : Recorded fresh := by
  constructor <;> simp [fresh]

/-- Prompt attempts at one store are all remembered. -/
theorem allRemembered_of_prompt (expiry : RedisExpiry redisKeeps) {attempts : List Attempt}
    (prompt : ∀ attempt ∈ attempts, Prompt attempt)
    (oneStore : ∀ earlier ∈ attempts, ∀ later ∈ attempts,
      earlier.nonceKey = later.nonceKey → earlier.store = later.store) :
    AllRemembered redisKeeps attempts := by
  have inRun : Along (total (arrive redisKeeps)) (fun _ attempt _ => attempt ∈ attempts) fresh
      attempts := along_of_forall_mem _ (fun _ member _ _ => member) fresh
  refine along_of_invariant
    (fun world => ∀ earlier ∈ world.accepted, earlier ∈ attempts ∧ WithinDrift earlier)
    ?_ ?_ (by simp [fresh]) inRun
  · intro world attempt next known member moved
    rw [← Option.some.inj moved]
    exact accepted_arrive known member
  · rintro world attempt next known member _ _ ⟨earlier, accepted, same⟩
    obtain ⟨earlierMember, timely⟩ := known earlier accepted
    have sameKey : earlier.nonceKey = attempt.nonceKey := by
      rw [Attempt.nonceKey, Attempt.nonceKey, same.1, same.2.2]
    exact remembered_of_prompt expiry accepted same timely (prompt earlier earlierMember)
      (prompt attempt member) (oneStore earlier earlierMember attempt member sameKey)

/-- The accepted messages of a run stay distinct exactly when every replay that passes
the drift check meets a claim that its store still remembers. They do when all
claims are prompt and the claims of one nonce go to one store. -/
theorem replay_protection (expiry : RedisExpiry redisKeeps) (attempts : List Attempt) :
    (NeverReplayed redisKeeps attempts ↔ AllRemembered redisKeeps attempts) ∧
      ((∀ attempt ∈ attempts, Prompt attempt) →
        (∀ earlier ∈ attempts, ∀ later ∈ attempts,
          earlier.nonceKey = later.nonceKey → earlier.store = later.store) →
        NeverReplayed redisKeeps attempts) := by
  have exact : NeverReplayed redisKeeps attempts ↔ AllRemembered redisKeeps attempts := by
    refine along_iff_of_invariant (fun world => Recorded world ∧ Unreplayed world) ?_ ?_ attempts
      ⟨recorded_fresh, List.Pairwise.nil⟩
    · intro world attempt next invariant moved
      rw [← Option.some.inj moved]
      exact unreplayed_arrive_iff expiry invariant.1 invariant.2 attempt
    · intro world attempt next invariant unreplayed moved
      rw [← Option.some.inj moved] at unreplayed ⊢
      exact ⟨recorded_arrive expiry invariant.1 attempt, unreplayed⟩
  exact ⟨exact, fun prompt oneStore => exact.mpr (allRemembered_of_prompt expiry prompt oneStore)⟩

/-- Redis drops a key after the instant at which it lapses. -/
def redisKeepsUntil (expiresAt now : Int) : Bool := decide (now ≤ expiresAt)

/-- A store that keeps keys until they expire behaves as documented. -/
theorem redisKeepsUntil_expiry : RedisExpiry redisKeepsUntil where
  before := fun _ _ early => decide_eq_true (Int.le_of_lt early)
  after := fun _ _ late => decide_eq_false (Int.not_le.mpr late)

/-- A timestamp. -/
def stamp : Timestamp := ⟨"2026-03-06T10:00:00.000Z", 1772791200000⟩

/-- A message of one device that is checked and claimed at the given offsets from its
own timestamp. -/
def sampleAttempt (process : Process) (redisFails : Bool) (checked claimed : Int) : Attempt where
  deviceUid := "uid"
  ts := stamp
  nonce := "0a3b289f"
  process := process
  checkedAt := stamp.epochMs + checked
  redisFails := redisFails
  claimedAt := stamp.epochMs + claimed

/-- A process with Redis. -/
def connected : Process := ⟨0, false⟩
/-- A process without Redis. -/
def inMemory : Process := ⟨0, true⟩

/-- A message and its replay a minute later. -/
def promptReplay : List Attempt :=
  [sampleAttempt connected false 0 5, sampleAttempt connected false 60000 60005]

/-- The attempts of the example are prompt. -/
theorem promptReplay_prompt : ∀ attempt ∈ promptReplay, Prompt attempt := by
  have each : ∀ attempt ∈ promptReplay, attempt.checkedAt ≤ attempt.claimedAt ∧
      attempt.claimedAt < attempt.ts.epochMs + MQTT_MAX_TIMESTAMP_DRIFT_MS := by decide
  exact fun attempt member => ⟨(each attempt member).1, (each attempt member).2⟩

/-- No replay of the example is accepted. -/
theorem replay_protection_promptReplay :
    (NeverReplayed redisKeepsUntil promptReplay ↔ AllRemembered redisKeepsUntil promptReplay) ∧
      NeverReplayed redisKeepsUntil promptReplay :=
  have protection := replay_protection redisKeepsUntil_expiry promptReplay
  ⟨protection.1, protection.2 promptReplay_prompt (by decide)⟩

/-- Three replays that are accepted. In the in-memory mode no delay is needed: the
message comes from a clock five minutes ahead and its replay at the other end of the
window. With Redis a delay of two milliseconds between check and claim suffices.
And a message that was claimed in Redis is accepted again, a minute later, when
Redis cannot be reached. -/
theorem replay_accepted :
    ¬ NeverReplayed redisKeepsUntil
        [sampleAttempt inMemory false (-300000) (-300000),
         sampleAttempt inMemory false 300000 300000] ∧
      ¬ NeverReplayed redisKeepsUntil
        [sampleAttempt connected false (-300000) (-299999),
         sampleAttempt connected false 300000 300002] ∧
      ¬ NeverReplayed redisKeepsUntil
        [sampleAttempt connected false 0 5, sampleAttempt connected true 60000 60005] := by
  have replayed : ∀ first second,
      ¬ Unreplayed (arrive redisKeepsUntil (arrive redisKeepsUntil fresh first) second) →
      ¬ NeverReplayed redisKeepsUntil [first, second] := by
    intro first second accepted never
    rw [NeverReplayed, along_total_cons, along_total_cons] at never
    exact accepted never.2.1
  exact ⟨replayed _ _ (by decide +kernel), replayed _ _ (by decide +kernel),
    replayed _ _ (by decide +kernel)⟩

end EmotoFleet.ReplayProtection
