import EmotoFleet.Foundations.Runs
import Mathlib.Algebra.Order.Ring.Rat
import Mathlib.Logic.Function.Basic
import Mathlib.Tactic.Linarith

/-!
# Keys in Redis and in memory

Every operation on a key goes to Redis, and to a map in memory when Redis does not
answer. A command whose answer is lost may have been executed. Nothing brings the two
stores together again, so a key can be granted or read from a store that did not take
the last change of it. As long as the stores that took the last change are the ones
that answer, a key is granted once within its time to live and a deleted key is gone.
-/

namespace EmotoFleet.RedisFallback

/-- A stored value and the instant, in milliseconds, at which it expires. -/
structure Entry where
  value : String
  expiresAt : Option ℚ

/-- The entries under their keys. -/
abbrev Store := String → Option Entry

/-- The expiry that a time to live in seconds gives, if it is positive. -/
def expiry (now : ℚ) (ttlSeconds : Option ℚ) : Option ℚ :=
  (ttlSeconds.filter fun ttl => 0 < ttl).map fun ttl => now + ttl * 1000

section Redis

variable (redis : Store) (key value : String) (now : ℚ)

/-- Redis serves an entry up to its expiry. -/
def Entry.Served (entry : Entry) (now : ℚ) : Prop := ∀ expires ∈ entry.expiresAt, now ≤ expires

instance (entry : Entry) (now : ℚ) : Decidable (entry.Served now) := by
  unfold Entry.Served
  infer_instance

/-- What Redis answers for a key. -/
def redisGet : Option String := (redis key).bind fun entry =>
  if entry.Served now then some entry.value else none

/-- Redis takes times to live of whole seconds, at least one. -/
def acceptsExpiry (ttlSeconds : ℚ) : Bool := 0 < ttlSeconds && ttlSeconds.den == 1

/-- Redis after a value was stored. -/
def redisSet (ttlSeconds : Option ℚ) : Store :=
  Function.update redis key (some ⟨value, expiry now ttlSeconds⟩)

/-- Redis after a value was stored where there was none, and whether it was. -/
def redisSetIfNotExists (ttlSeconds : ℚ) : Store × Bool :=
  if (redisGet redis key now).isSome then (redis, false)
  else (Function.update redis key (some ⟨value, some (now + ttlSeconds * 1000)⟩), true)

end Redis

section Memory

variable (memoryStore : Store) (key value : String) (now : ℚ)

/-- The map serves an entry before its expiry; an expiry of zero counts as none. -/
def Entry.Remembered (entry : Entry) (now : ℚ) : Prop :=
  ∀ expires ∈ entry.expiresAt, expires ≠ 0 → now < expires

instance (entry : Entry) (now : ℚ) : Decidable (entry.Remembered now) := by
  unfold Entry.Remembered
  infer_instance

/-- The memory without an entry that has expired. -/
def purgeExpiredKey : Store :=
  match memoryStore key with
  | none => memoryStore
  | some entry => if entry.Remembered now then memoryStore else Function.update memoryStore key none

/-- The memory after a value was stored. -/
def writeInMemoryValue (ttlSeconds : Option ℚ) : Store :=
  Function.update memoryStore key (some ⟨value, expiry now ttlSeconds⟩)

/-- The memory after a value was stored where there was none, and whether it was. -/
def memorySetIfNotExists (ttlSeconds : ℚ) : Store × Bool :=
  let purged := purgeExpiredKey memoryStore key now
  if (purged key).isSome then (purged, false)
  else (writeInMemoryValue purged key value now (some ttlSeconds), true)

/-- What the memory answers for a key, after it has purged it. -/
def memoryGet : Store × Option String :=
  let purged := purgeExpiredKey memoryStore key now
  (purged, (purged key).map Entry.value)

/-- What the memory answers for several keys. -/
def memoryMget (memoryStore : Store) : List String → Store × List (Option String)
  | [] => (memoryStore, [])
  | key :: rest =>
    let found := memoryGet memoryStore key now
    let others := memoryMget found.1 rest
    (others.1, found.2 :: others.2)

end Memory

/-- What becomes of a command that is sent to Redis: an answer, or an error of the
connection before or after Redis has executed it. -/
inductive Attempt
  | answered
  | lost (executed : Bool)
deriving DecidableEq

/-- The mode of the service and its two stores. -/
structure Service where
  useInMemoryStore : Bool
  redis : Store
  memoryStore : Store

/-- A command to Redis, which refuses it unless its arguments are valid, with the same
operation in memory to fall back to. -/
def withFallback {α : Type} (service : Service) (attempt : Attempt) (valid : Bool)
    (command inMemory : Store → Store × α) : Service × α :=
  if service.useInMemoryStore then
    ({ service with memoryStore := (inMemory service.memoryStore).1 }, (inMemory service.memoryStore).2)
  else
    match attempt, valid with
    | .answered, true => ({ service with redis := (command service.redis).1 }, (command service.redis).2)
    | .lost true, true =>
      ({ service with
          redis := (command service.redis).1
          memoryStore := (inMemory service.memoryStore).1 },
        (inMemory service.memoryStore).2)
    | _, _ =>
      ({ service with memoryStore := (inMemory service.memoryStore).1 }, (inMemory service.memoryStore).2)

section Operations

variable (service : Service) (attempt : Attempt) (now : ℚ)

/-- A claim of a key in either store. -/
def setIfNotExists (key value : String) (ttlSeconds : ℚ) : Service × Bool :=
  withFallback service attempt (acceptsExpiry ttlSeconds)
    (fun redis => redisSetIfNotExists redis key value now ttlSeconds)
    fun memoryStore => memorySetIfNotExists memoryStore key value now ttlSeconds

/-- A value is stored in either store. -/
def set (key value : String) (ttlSeconds : Option ℚ) : Service × Unit :=
  withFallback service attempt ((ttlSeconds.filter fun ttl => 0 < ttl).all acceptsExpiry)
    (fun redis => (redisSet redis key value now ttlSeconds, ()))
    fun memoryStore => (writeInMemoryValue memoryStore key value now ttlSeconds, ())

/-- A key is read from either store. -/
def get (key : String) : Service × Option String :=
  withFallback service attempt true (fun redis => (redis, redisGet redis key now))
    fun memoryStore => memoryGet memoryStore key now

/-- Several keys are read from one of the stores. -/
def mget (keys : List String) : Service × List (Option String) :=
  withFallback service attempt true (fun redis => (redis, keys.map fun key => redisGet redis key now))
    fun memoryStore => memoryMget now memoryStore keys

/-- A key is deleted in both stores, as far as they are reached. -/
def del (key : String) : Service × Unit :=
  withFallback service attempt true (fun redis => (Function.update redis key none, ()))
    fun memoryStore => (Function.update memoryStore key none, ())

end Operations

section Contract

/-- What the answers of the service have promised about a key: that it is granted until
its time to live ends, or that it is deleted. -/
inductive Standing
  | free
  | granted (expires : Option ℚ)
  | deleted
deriving DecidableEq

/-- An expiry that has not come. -/
def InForce (expires : Option ℚ) (now : ℚ) : Prop := ∀ instant ∈ expires, now < instant

instance (expires : Option ℚ) (now : ℚ) : Decidable (InForce expires now) := by
  unfold InForce
  infer_instance

/-- The stores that took the last change of a key that the service has reported. -/
structure Current where
  redis : Bool
  memory : Bool
deriving DecidableEq

/-- The service at an instant, and what callers may expect of each key. -/
structure State where
  service : Service
  now : ℚ
  standing : String → Standing
  current : String → Current

/-- The operations of the service. -/
inductive Operation
  | setIfNotExists (key value : String) (ttlSeconds : ℚ)
  | set (key value : String) (ttlSeconds : Option ℚ)
  | get (key : String)
  | mget (keys : List String)
  | del (key : String)
deriving DecidableEq

/-- An operation, the milliseconds since the one before it, and what the connection does. -/
structure Call where
  wait : Nat
  operation : Operation
  attempt : Attempt
deriving DecidableEq

/-- Whether Redis takes the arguments of an operation. -/
def Operation.valid : Operation → Bool
  | .setIfNotExists _ _ ttlSeconds => acceptsExpiry ttlSeconds
  | .set _ _ ttlSeconds => (ttlSeconds.filter fun ttl => 0 < ttl).all acceptsExpiry
  | .get _ | .mget _ | .del _ => true

/-- Whether Redis executes the operation. -/
def executes (service : Service) (call : Call) : Bool :=
  !service.useInMemoryStore && call.operation.valid && call.attempt != .lost false

/-- Whether the operation is answered from memory. -/
def fallsBack (service : Service) (call : Call) : Bool :=
  service.useInMemoryStore || !call.operation.valid || call.attempt != .answered

/-- The standing of a key that is written: a running grant goes on with the new time
to live. -/
def Standing.written (standing : Standing) (now : ℚ) (ttlSeconds : Option ℚ) : Standing :=
  match standing with
  | .granted expires => if InForce expires now then .granted (expiry now ttlSeconds) else .free
  | .free | .deleted => .free

variable (state : State) (call : Call)

/-- The instant of a call. -/
def State.instant : ℚ := state.now + call.wait

/-- A conditional write that Redis executes without the service reporting it leaves
Redis with something else than was reported. -/
def currentAfterGrant (key : String) (granted : Bool) : Current :=
  let written := executes state.service call &&
    (redisGet state.service.redis key (state.instant call)).isNone
  if granted then ⟨written, fallsBack state.service call⟩
  else ⟨(state.current key).redis && !written, (state.current key).memory⟩

/-- The state after a call. -/
def State.next : State :=
  let now := state.instant call
  match call.operation with
  | .setIfNotExists key value ttlSeconds =>
    let outcome := setIfNotExists state.service call.attempt now key value ttlSeconds
    { service := outcome.1
      now := now
      standing := if outcome.2 then
        Function.update state.standing key (.granted (some (now + ttlSeconds * 1000)))
        else state.standing
      current := Function.update state.current key (currentAfterGrant state call key outcome.2) }
  | .set key value ttlSeconds =>
    { service := (set state.service call.attempt now key value ttlSeconds).1
      now := now
      standing := Function.update state.standing key ((state.standing key).written now ttlSeconds)
      current := Function.update state.current key
        ⟨executes state.service call, fallsBack state.service call⟩ }
  | .get key => { state with service := (get state.service call.attempt now key).1, now := now }
  | .mget keys => { state with service := (mget state.service call.attempt now keys).1, now := now }
  | .del key =>
    { service := (del state.service call.attempt key).1
      now := now
      standing := Function.update state.standing key .deleted
      current := Function.update state.current key
        ⟨executes state.service call, fallsBack state.service call⟩ }

/-- The contract of a call: a key is not granted while an earlier grant of it is in
force, and a deleted key has no value. -/
def KeepsContract : Prop :=
  let now := state.instant call
  match call.operation with
  | .setIfNotExists key value ttlSeconds =>
    (setIfNotExists state.service call.attempt now key value ttlSeconds).2 = true →
      ∀ expires, state.standing key = .granted expires → ¬ InForce expires now
  | .get key =>
    state.standing key = .deleted → (get state.service call.attempt now key).2 = none
  | .mget keys =>
    ∀ answer ∈ keys.zip (mget state.service call.attempt now keys).2,
      state.standing answer.1 = .deleted → answer.2 = none
  | .set _ _ _ | .del _ => True

/-- The store that answers has taken the last reported change of the key. -/
def AnswersCurrent (key : String) : Prop :=
  if fallsBack state.service call then (state.current key).memory = true
  else (state.current key).redis = true

instance (key : String) : Decidable (AnswersCurrent state call key) := by
  unfold AnswersCurrent
  infer_instance

/-- Wherever the service has promised something, the store that answers knows of it. -/
def AnswersFromCurrent : Prop :=
  match call.operation with
  | .setIfNotExists key _ _ =>
    ∀ expires, state.standing key = .granted expires → InForce expires (state.instant call) →
      AnswersCurrent state call key
  | .get key => state.standing key = .deleted → AnswersCurrent state call key
  | .mget keys => ∀ key ∈ keys, state.standing key = .deleted → AnswersCurrent state call key
  | .set _ _ _ | .del _ => True

end Contract

section Stores

/-- What a store that took the last change of a key has for its standing. -/
def StoreKeeps (serves : Entry → ℚ → Prop) (entry : Option Entry) (now : ℚ) : Standing → Prop
  | .free => True
  | .granted expires => ∀ later, now ≤ later → InForce expires later →
      ∃ held ∈ entry, serves held later
  | .deleted => entry = none

/-- What a store keeps it keeps later on, until it expires. -/
theorem storeKeeps_later {serves : Entry → ℚ → Prop} {entry : Option Entry} {now later : ℚ}
    {standing : Standing} (elapsed : now ≤ later) (keeps : StoreKeeps serves entry now standing) :
    StoreKeeps serves entry later standing := by
  cases standing with
  | free => trivial
  | granted expires => exact fun instant after => keeps instant (elapsed.trans after)
  | deleted => exact keeps

/-- What is in force was so before. -/
theorem inForce_earlier {expires : Option ℚ} {now later : ℚ} (elapsed : now ≤ later)
    (force : InForce expires later) : InForce expires now :=
  fun instant isExpiry => elapsed.trans_lt (force instant isExpiry)

/-- A written entry is served, by Redis and in memory, for all of its time to live. -/
theorem served_expiry (value : String) {now later : ℚ} (ttlSeconds : Option ℚ)
    (force : InForce (expiry now ttlSeconds) later) :
    Entry.Served ⟨value, expiry now ttlSeconds⟩ later :=
  fun instant isExpiry => (force instant isExpiry).le

/-- The memory remembers an entry as long as it is in force. -/
theorem remembered_expiry (value : String) {now later : ℚ} (ttlSeconds : Option ℚ)
    (force : InForce (expiry now ttlSeconds) later) :
    Entry.Remembered ⟨value, expiry now ttlSeconds⟩ later :=
  fun instant isExpiry _ => force instant isExpiry

/-- A store that took a write has what the write promises. -/
theorem storeKeeps_written {serves : Entry → ℚ → Prop} {value : String} {now : ℚ}
    {ttlSeconds : Option ℚ} (standing : Standing)
    (served : ∀ later, InForce (expiry now ttlSeconds) later →
      serves ⟨value, expiry now ttlSeconds⟩ later) :
    StoreKeeps serves (some ⟨value, expiry now ttlSeconds⟩) now (standing.written now ttlSeconds) := by
  cases standing with
  | free => trivial
  | deleted => trivial
  | granted expires =>
    rw [Standing.written]
    split
    · exact fun later _ force => ⟨_, rfl, served later force⟩
    · trivial

/-- A grant ends no later than what was written with its time to live. -/
theorem inForce_expiry {now later ttlSeconds : ℚ}
    (force : InForce (some (now + ttlSeconds * 1000)) later) :
    InForce (expiry now (some ttlSeconds)) later := by
  intro instant isExpiry
  obtain ⟨ttl, isTtl, rfl⟩ := Option.mem_map.mp isExpiry
  obtain rfl := Option.some.inj (Option.mem_filter_iff.mp isTtl).1
  exact force _ rfl

/-- Purging takes away only entries that are not remembered. -/
theorem purgeExpiredKey_of_remembered {memoryStore : Store} {key : String} {now : ℚ} {entry : Entry}
    (held : entry ∈ memoryStore key) (remembered : entry.Remembered now) :
    purgeExpiredKey memoryStore key now = memoryStore := by
  rw [purgeExpiredKey, show memoryStore key = some entry from held]
  exact if_pos remembered

/-- Purging a key leaves the other keys. -/
theorem purgeExpiredKey_other (memoryStore : Store) {key other : String} (now : ℚ)
    (different : other ≠ key) : purgeExpiredKey memoryStore key now other = memoryStore other := by
  rw [purgeExpiredKey]
  cases memoryStore key with
  | none => rfl
  | some entry =>
    dsimp only
    by_cases remembered : entry.Remembered now
    · rw [if_pos remembered]
    · rw [if_neg remembered, Function.update_of_ne different]

/-- Purging keeps what the memory has for a standing. -/
theorem storeKeeps_purge {memoryStore : Store} {key : String} (purged : String) {now : ℚ}
    {standing : Standing}
    (keeps : StoreKeeps Entry.Remembered (memoryStore key) now standing) :
    StoreKeeps Entry.Remembered (purgeExpiredKey memoryStore purged now key) now standing := by
  by_cases different : key = purged
  · subst different
    cases standing with
    | free => trivial
    | granted expires =>
      intro later after force
      obtain ⟨entry, held, remembered⟩ := keeps now le_rfl (inForce_earlier after force)
      rw [purgeExpiredKey_of_remembered held remembered]
      exact keeps later after force
    | deleted =>
      rw [StoreKeeps] at keeps ⊢
      rw [purgeExpiredKey, keeps]
      exact keeps
  · rw [purgeExpiredKey_other memoryStore now different]
    exact keeps

/-- Reading several keys loses nothing that is in force. -/
theorem storeKeeps_mget {memoryStore : Store} {key : String} (keys : List String) {now : ℚ}
    {standing : Standing}
    (keeps : StoreKeeps Entry.Remembered (memoryStore key) now standing) :
    StoreKeeps Entry.Remembered ((memoryMget now memoryStore keys).1 key) now standing := by
  induction keys generalizing memoryStore with
  | nil => exact keeps
  | cons first rest inductionHypothesis => exact inductionHypothesis (storeKeeps_purge first keeps)

end Stores

section Steps

/-- Each store that took the last reported change of a key has what the service promised. -/
structure KeyKept (service : Service) (now : ℚ) (key : String) (standing : Standing)
    (current : Current) : Prop where
  redis : current.redis = true → StoreKeeps Entry.Served (service.redis key) now standing
  memory : current.memory = true →
    StoreKeeps Entry.Remembered (service.memoryStore key) now standing

/-- Both stores keep what callers may expect of every key. -/
def Kept (state : State) : Prop :=
  ∀ key, KeyKept state.service state.now key (state.standing key) (state.current key)

variable {state : State} {call : Call}

/-- Time goes on from call to call. -/
theorem instant_later (state : State) (call : Call) : state.now ≤ state.instant call := by
  have elapsed : (0 : ℚ) ≤ call.wait := Nat.cast_nonneg call.wait
  rw [State.instant]
  linarith

/-- What an operation with a fallback does to the two stores, and who answers it. -/
theorem withFallback_eq {α : Type} (service : Service) (call : Call)
    (command inMemory : Store → Store × α) :
    withFallback service call.attempt call.operation.valid command inMemory =
      ({ service with
          redis := if executes service call then (command service.redis).1 else service.redis
          memoryStore := if fallsBack service call then (inMemory service.memoryStore).1
            else service.memoryStore },
        if fallsBack service call then (inMemory service.memoryStore).2
        else (command service.redis).2) := by
  obtain ⟨useInMemoryStore, redis, memoryStore⟩ := service
  obtain ⟨wait, operation, attempt⟩ := call
  simp only [withFallback, executes, fallsBack]
  cases useInMemoryStore with
  | true => simp
  | false =>
    by_cases valid : operation.valid = true
    all_goals
      cases attempt with
      | answered => simp [valid]
      | lost executed => cases executed <;> simp [valid]

/-- What the stores have for all keys is kept by an operation that only purges memory. -/
theorem keyKept_of_purged {service after : Service} {now later : ℚ} {key : String}
    {standing : Standing} {current : Current} (elapsed : now ≤ later)
    (kept : KeyKept service now key standing current)
    (sameRedis : after.redis key = service.redis key)
    (purged : StoreKeeps Entry.Remembered (service.memoryStore key) later standing →
      StoreKeeps Entry.Remembered (after.memoryStore key) later standing) :
    KeyKept after later key standing current where
  redis := fun isCurrent => sameRedis ▸ storeKeeps_later elapsed (kept.redis isCurrent)
  memory := fun isCurrent => purged (storeKeeps_later elapsed (kept.memory isCurrent))

/-- An operation that leaves a key alone in both stores keeps what they have for it. -/
theorem keyKept_of_unchanged {service after : Service} {now later : ℚ} {key : String}
    {standing : Standing} {current : Current} (elapsed : now ≤ later)
    (kept : KeyKept service now key standing current)
    (sameRedis : after.redis key = service.redis key)
    (sameMemory : after.memoryStore key = service.memoryStore key) :
    KeyKept after later key standing current :=
  keyKept_of_purged elapsed kept sameRedis fun keeps => sameMemory ▸ keeps

section Specifications

variable (service : Service) {call : Call} (now : ℚ)

/-- What a read does, by which store is reached. -/
theorem get_eq {key : String} (isGet : call.operation = .get key) :
    get service call.attempt now key =
      ({ service with
          memoryStore := if fallsBack service call then (memoryGet service.memoryStore key now).1
            else service.memoryStore },
        if fallsBack service call then (memoryGet service.memoryStore key now).2
        else redisGet service.redis key now) := by
  have spec := withFallback_eq service call (fun redis => (redis, redisGet redis key now))
    fun memoryStore => memoryGet memoryStore key now
  rw [isGet, ite_self] at spec
  exact spec

/-- What a read of several keys does, by which store is reached. -/
theorem mget_eq {keys : List String} (isMget : call.operation = .mget keys) :
    mget service call.attempt now keys =
      ({ service with
          memoryStore := if fallsBack service call then (memoryMget now service.memoryStore keys).1
            else service.memoryStore },
        if fallsBack service call then (memoryMget now service.memoryStore keys).2
        else keys.map fun key => redisGet service.redis key now) := by
  have spec := withFallback_eq service call
    (fun redis => (redis, keys.map fun key => redisGet redis key now))
    fun memoryStore => memoryMget now memoryStore keys
  rw [isMget, ite_self] at spec
  exact spec

/-- What a deletion does, by which store is reached. -/
theorem del_eq {key : String} (isDel : call.operation = .del key) :
    (del service call.attempt key).1 =
      { service with
        redis := if executes service call then Function.update service.redis key none
          else service.redis
        memoryStore := if fallsBack service call then Function.update service.memoryStore key none
          else service.memoryStore } := by
  have spec := withFallback_eq service call (fun redis => (Function.update redis key none, ()))
    fun memoryStore => (Function.update memoryStore key none, ())
  rw [isDel] at spec
  exact congrArg Prod.fst spec

/-- What storing a value does, by which store is reached. -/
theorem set_eq {key value : String} {ttlSeconds : Option ℚ}
    (isSet : call.operation = .set key value ttlSeconds) :
    (set service call.attempt now key value ttlSeconds).1 =
      { service with
        redis := if executes service call then redisSet service.redis key value now ttlSeconds
          else service.redis
        memoryStore := if fallsBack service call then
            writeInMemoryValue service.memoryStore key value now ttlSeconds
          else service.memoryStore } := by
  have spec := withFallback_eq service call
    (fun redis => (redisSet redis key value now ttlSeconds, ()))
    fun memoryStore => (writeInMemoryValue memoryStore key value now ttlSeconds, ())
  rw [isSet] at spec
  exact congrArg Prod.fst spec

/-- What a claim does, by which store is reached. -/
theorem setIfNotExists_eq {key value : String} {ttlSeconds : ℚ}
    (isGrant : call.operation = .setIfNotExists key value ttlSeconds) :
    setIfNotExists service call.attempt now key value ttlSeconds =
      ({ service with
          redis := if executes service call then
              (redisSetIfNotExists service.redis key value now ttlSeconds).1
            else service.redis
          memoryStore := if fallsBack service call then
              (memorySetIfNotExists service.memoryStore key value now ttlSeconds).1
            else service.memoryStore },
        if fallsBack service call then
          (memorySetIfNotExists service.memoryStore key value now ttlSeconds).2
        else (redisSetIfNotExists service.redis key value now ttlSeconds).2) := by
  have spec := withFallback_eq service call
    (fun redis => redisSetIfNotExists redis key value now ttlSeconds)
    fun memoryStore => memorySetIfNotExists memoryStore key value now ttlSeconds
  rw [isGrant] at spec
  exact spec

end Specifications

/-- A write to one key leaves the others, whether or not it happens. -/
theorem ite_update_of_ne {key other : String} (different : other ≠ key) (condition : Prop)
    [Decidable condition] (store : Store) (entry : Option Entry) :
    (if condition then Function.update store key entry else store) other = store other := by
  split
  · exact Function.update_of_ne different _ _
  · rfl

/-- A read keeps what callers may expect. -/
theorem kept_get {key : String} (isGet : call.operation = .get key) (kept : Kept state) :
    Kept (state.next call) := by
  intro other
  simp only [State.next, isGet, get_eq state.service _ isGet]
  refine keyKept_of_purged (instant_later state call) (kept other) rfl fun keeps => ?_
  split
  · exact storeKeeps_purge key keeps
  · exact keeps

/-- A read of several keys keeps what callers may expect. -/
theorem kept_mget {keys : List String} (isMget : call.operation = .mget keys) (kept : Kept state) :
    Kept (state.next call) := by
  intro other
  simp only [State.next, isMget, mget_eq state.service _ isMget]
  refine keyKept_of_purged (instant_later state call) (kept other) rfl fun keeps => ?_
  split
  · exact storeKeeps_mget keys keeps
  · exact keeps

/-- A deletion keeps what callers may expect. -/
theorem kept_del {key : String} (isDel : call.operation = .del key) (kept : Kept state) :
    Kept (state.next call) := by
  intro other
  simp only [State.next, isDel, del_eq state.service isDel]
  by_cases same : other = key
  · subst same
    simp only [Function.update_self]
    constructor
    · intro executed
      simp only at executed
      simp [executed, StoreKeeps]
    · intro fell
      simp only at fell
      simp [fell, StoreKeeps]
  · simp only [Function.update_of_ne same]
    exact keyKept_of_unchanged (instant_later state call) (kept other)
      (ite_update_of_ne same _ _ _) (ite_update_of_ne same _ _ _)

/-- Storing a value keeps what callers may expect. -/
theorem kept_set {key value : String} {ttlSeconds : Option ℚ}
    (isSet : call.operation = .set key value ttlSeconds) (kept : Kept state) :
    Kept (state.next call) := by
  intro other
  simp only [State.next, isSet, set_eq state.service _ isSet]
  by_cases same : other = key
  · subst same
    simp only [Function.update_self]
    constructor
    · intro executed
      simp only at executed
      simp only [executed, if_true, redisSet, Function.update_self]
      exact storeKeeps_written _ fun later force => served_expiry value ttlSeconds force
    · intro fell
      simp only at fell
      simp only [fell, if_true, writeInMemoryValue, Function.update_self]
      exact storeKeeps_written _ fun later force => remembered_expiry value ttlSeconds force
  · simp only [Function.update_of_ne same]
    exact keyKept_of_unchanged (instant_later state call) (kept other)
      (ite_update_of_ne same _ _ _) (ite_update_of_ne same _ _ _)

/-- A conditional write in memory succeeds only where nothing is left after purging. -/
theorem memorySetIfNotExists_cases (memoryStore : Store) (key value : String) (now ttlSeconds : ℚ) :
    (purgeExpiredKey memoryStore key now key = none ∧
      memorySetIfNotExists memoryStore key value now ttlSeconds =
        (writeInMemoryValue (purgeExpiredKey memoryStore key now) key value now (some ttlSeconds),
          true)) ∨
    ((purgeExpiredKey memoryStore key now key).isSome = true ∧
      memorySetIfNotExists memoryStore key value now ttlSeconds =
        (purgeExpiredKey memoryStore key now, false)) := by
  by_cases present : (purgeExpiredKey memoryStore key now key).isSome = true
  · exact .inr ⟨present, if_pos present⟩
  · refine .inl ⟨?_, if_neg present⟩
    rwa [Bool.not_eq_true, Option.isSome_eq_false_iff, Option.isNone_iff_eq_none] at present

/-- A free key is granted. -/
theorem redisSetIfNotExists_of_absent {redis : Store} {key value : String} {now : ℚ} (ttlSeconds : ℚ)
    (absent : (redisGet redis key now).isNone = true) :
    redisSetIfNotExists redis key value now ttlSeconds =
      (Function.update redis key (some ⟨value, some (now + ttlSeconds * 1000)⟩), true) := by
  rw [redisSetIfNotExists, if_neg]
  simpa using absent

/-- A taken key is refused and stays as it is. -/
theorem redisSetIfNotExists_of_present {redis : Store} {key value : String} {now : ℚ}
    (ttlSeconds : ℚ) (present : (redisGet redis key now).isNone = false) :
    redisSetIfNotExists redis key value now ttlSeconds = (redis, false) := by
  rw [redisSetIfNotExists, if_pos]
  simpa using present

/-- A claim leaves the other keys. -/
theorem redisSetIfNotExists_other (redis : Store) {key other : String} (value : String)
    (now ttlSeconds : ℚ) (different : other ≠ key) :
    (redisSetIfNotExists redis key value now ttlSeconds).1 other = redis other := by
  rw [redisSetIfNotExists]
  split
  · rfl
  · exact Function.update_of_ne different _ _

/-- What a conditional write leaves in Redis under its key. -/
theorem redis_kept_grant {redis : Store} {key value : String} {now ttlSeconds : ℚ}
    {standing : Standing} {current executed granted : Bool}
    (kept : current = true → StoreKeeps Entry.Served (redis key) now standing)
    (isCurrent : (if granted then executed && (redisGet redis key now).isNone
      else current && !(executed && (redisGet redis key now).isNone)) = true) :
    StoreKeeps Entry.Served
      ((if executed = true then (redisSetIfNotExists redis key value now ttlSeconds).1 else redis) key)
      now (if granted = true then .granted (some (now + ttlSeconds * 1000)) else standing) := by
  cases granted with
  | true =>
    rw [if_pos rfl, Bool.and_eq_true] at isCurrent
    rw [if_pos isCurrent.1, if_pos rfl, redisSetIfNotExists_of_absent _ isCurrent.2]
    dsimp only
    rw [Function.update_self]
    exact fun later _ force => ⟨_, rfl, fun instant isExpiry => (force instant isExpiry).le⟩
  | false =>
    rw [if_neg Bool.false_ne_true, Bool.and_eq_true, Bool.not_eq_true'] at isCurrent
    rw [if_neg Bool.false_ne_true]
    have held := kept isCurrent.1
    cases executed with
    | false => exact held
    | true =>
      rw [Bool.true_and] at isCurrent
      rw [if_pos rfl, redisSetIfNotExists_of_present _ isCurrent.2]
      exact held

/-- What a conditional write leaves in memory under its key. -/
theorem memory_kept_grant {memoryStore : Store} {key value : String} {now ttlSeconds : ℚ}
    {standing : Standing} {current fell granted : Bool}
    (kept : current = true → StoreKeeps Entry.Remembered (memoryStore key) now standing)
    (answered : fell = true →
      granted = (memorySetIfNotExists memoryStore key value now ttlSeconds).2)
    (isCurrent : (if granted then fell else current) = true) :
    StoreKeeps Entry.Remembered
      ((if fell = true then (memorySetIfNotExists memoryStore key value now ttlSeconds).1
        else memoryStore) key)
      now (if granted = true then .granted (some (now + ttlSeconds * 1000)) else standing) := by
  rcases memorySetIfNotExists_cases memoryStore key value now ttlSeconds with
    ⟨_, written⟩ | ⟨_, refused⟩
  · rw [written] at answered ⊢
    cases granted with
    | true =>
      rw [if_pos rfl] at isCurrent
      rw [if_pos isCurrent, if_pos rfl]
      dsimp only
      rw [writeInMemoryValue, Function.update_self]
      exact fun later _ force =>
        ⟨_, rfl, remembered_expiry value (some ttlSeconds) (inForce_expiry force)⟩
    | false =>
      rw [if_neg Bool.false_ne_true] at isCurrent ⊢
      have unanswered : fell = false := by
        cases fell with
        | false => rfl
        | true => exact (answered rfl).symm
      rw [unanswered]
      exact kept isCurrent
  · rw [refused] at answered ⊢
    cases granted with
    | true =>
      rw [if_pos rfl] at isCurrent
      exact Bool.noConfusion (answered isCurrent)
    | false =>
      rw [if_neg Bool.false_ne_true] at isCurrent ⊢
      have held := kept isCurrent
      cases fell with
      | false => exact held
      | true => exact storeKeeps_purge key held

/-- Whether Redis has the current value after a claim. -/
theorem currentAfterGrant_redis (state : State) (call : Call) (key : String) (granted : Bool) :
    (currentAfterGrant state call key granted).redis =
      if granted then executes state.service call &&
        (redisGet state.service.redis key (state.instant call)).isNone
      else (state.current key).redis && !(executes state.service call &&
        (redisGet state.service.redis key (state.instant call)).isNone) := by
  cases granted <;> rfl

/-- Whether the memory has the current value after a claim. -/
theorem currentAfterGrant_memory (state : State) (call : Call) (key : String) (granted : Bool) :
    (currentAfterGrant state call key granted).memory =
      if granted then fallsBack state.service call else (state.current key).memory := by
  cases granted <;> rfl

/-- A claim in the memory keeps what is expected of other keys. -/
theorem memory_kept_other {memoryStore : Store} {key other value : String} {now ttlSeconds : ℚ}
    {standing : Standing} (different : other ≠ key)
    (kept : StoreKeeps Entry.Remembered (memoryStore other) now standing) :
    StoreKeeps Entry.Remembered
      ((memorySetIfNotExists memoryStore key value now ttlSeconds).1 other) now standing := by
  have purged := storeKeeps_purge key kept
  rcases memorySetIfNotExists_cases memoryStore key value now ttlSeconds with
    ⟨_, written⟩ | ⟨_, refused⟩
  · rw [written]
    dsimp only
    rw [writeInMemoryValue, Function.update_of_ne different]
    exact purged
  · rw [refused]
    exact purged

/-- A claim keeps what callers may expect. -/
theorem kept_setIfNotExists {key value : String} {ttlSeconds : ℚ}
    (isGrant : call.operation = .setIfNotExists key value ttlSeconds) (kept : Kept state) :
    Kept (state.next call) := by
  intro other
  have elapsed := instant_later state call
  simp only [State.next, isGrant, setIfNotExists_eq state.service _ isGrant]
  by_cases same : other = key
  · subst same
    have standingOf : ∀ granted : Bool, (if granted = true then Function.update state.standing other
        (.granted (some (state.instant call + ttlSeconds * 1000))) else state.standing) other =
        if granted = true then .granted (some (state.instant call + ttlSeconds * 1000))
        else state.standing other := by
      intro granted
      split
      · exact Function.update_self ..
      · rfl
    rw [standingOf, Function.update_self]
    constructor
    · intro isCurrent
      rw [currentAfterGrant_redis] at isCurrent
      exact redis_kept_grant
        (fun isCurrent => storeKeeps_later elapsed ((kept other).redis isCurrent)) isCurrent
    · intro isCurrent
      rw [currentAfterGrant_memory] at isCurrent
      exact memory_kept_grant
        (fun isCurrent => storeKeeps_later elapsed ((kept other).memory isCurrent))
        (fun fell => if_pos fell) isCurrent
  · have standingOf : ∀ granted : Bool, (if granted = true then Function.update state.standing key
        (.granted (some (state.instant call + ttlSeconds * 1000))) else state.standing) other =
        state.standing other := by
      intro granted
      split
      · exact Function.update_of_ne same ..
      · rfl
    rw [standingOf, Function.update_of_ne same]
    refine keyKept_of_purged elapsed (kept other) ?_ fun keeps => ?_
    · dsimp only
      split
      · exact redisSetIfNotExists_other _ _ _ _ same
      · rfl
    · dsimp only
      split
      · exact memory_kept_other same keeps
      · exact keeps

/-- No operation makes a store that took the last reported change forget it. -/
theorem kept_next (kept : Kept state) : Kept (state.next call) := by
  cases isCall : call.operation with
  | setIfNotExists key value ttlSeconds => exact kept_setIfNotExists isCall kept
  | set key value ttlSeconds => exact kept_set isCall kept
  | get key => exact kept_get isCall kept
  | mget keys => exact kept_mget isCall kept
  | del key => exact kept_del isCall kept

end Steps

section Answers

variable {state : State} {call : Call}

/-- An entry that Redis serves is answered. -/
theorem redisGet_of_served {redis : Store} {key : String} {now : ℚ} {entry : Entry}
    (held : entry ∈ redis key) (served : entry.Served now) :
    (redisGet redis key now).isNone = false := by
  rw [redisGet, show redis key = some entry from held, Option.bind_some, if_pos served]
  rfl

/-- A deleted key is not answered by Redis. -/
theorem redisGet_deleted {redis : Store} {key : String} (now : ℚ) (deleted : redis key = none) :
    redisGet redis key now = none := by
  rw [redisGet, deleted, Option.bind_none]

/-- A deleted key is not answered by the memory. -/
theorem memoryGet_deleted {memoryStore : Store} {key : String} (now : ℚ)
    (deleted : StoreKeeps Entry.Remembered (memoryStore key) now .deleted) :
    (memoryGet memoryStore key now).2 = none := by
  have purged : purgeExpiredKey memoryStore key now key = none := storeKeeps_purge key deleted
  rw [memoryGet, purged, Option.map_none]

/-- Memory grants no key that it holds a grant of. -/
theorem memory_refuses {memoryStore : Store} {key : String} (value : String) {now : ℚ}
    (ttlSeconds : ℚ) {expires : Option ℚ} (force : InForce expires now)
    (keeps : StoreKeeps Entry.Remembered (memoryStore key) now (.granted expires)) :
    (memorySetIfNotExists memoryStore key value now ttlSeconds).2 = false := by
  obtain ⟨entry, held, remembered⟩ := keeps now le_rfl force
  rcases memorySetIfNotExists_cases memoryStore key value now ttlSeconds with
    ⟨absent, _⟩ | ⟨_, refused⟩
  · rw [purgeExpiredKey_of_remembered held remembered, show memoryStore key = some entry from held]
      at absent
    cases absent
  · rw [refused]

/-- Deleted keys are not answered among several ones either. -/
theorem memoryMget_deleted {memoryStore : Store} {standing : String → Standing} {now : ℚ}
    (keys : List String)
    (keeps : ∀ key ∈ keys, standing key = .deleted →
      StoreKeeps Entry.Remembered (memoryStore key) now .deleted) :
    ∀ answer ∈ keys.zip (memoryMget now memoryStore keys).2,
      standing answer.1 = .deleted → answer.2 = none := by
  induction keys generalizing memoryStore with
  | nil => exact fun answer member => absurd member List.not_mem_nil
  | cons first rest inductionHypothesis =>
    intro answer member deleted
    rw [memoryMget, List.zip_cons_cons, List.mem_cons] at member
    rcases member with rfl | later
    · exact memoryGet_deleted now (keeps first (List.mem_cons_self ..) deleted)
    · refine inductionHypothesis (fun key inRest isDeleted => ?_) answer later deleted
      exact storeKeeps_purge first (keeps key (List.mem_cons_of_mem _ inRest) isDeleted)

/-- A call that is answered by a store with the last reported change keeps the contract. -/
theorem contract_of_current (kept : Kept state) (current : AnswersFromCurrent state call) :
    KeepsContract state call := by
  have elapsed := instant_later state call
  cases isCall : call.operation with
  | setIfNotExists key value ttlSeconds =>
    simp only [KeepsContract, AnswersFromCurrent, isCall] at current ⊢
    rw [setIfNotExists_eq state.service _ isCall]
    intro granted expires isGranted force
    have answers := current expires isGranted force
    rw [AnswersCurrent] at answers
    dsimp only at granted
    by_cases fell : fallsBack state.service call = true
    · rw [if_pos fell] at granted answers
      have keeps := storeKeeps_later elapsed ((kept key).memory answers)
      rw [isGranted] at keeps
      rw [memory_refuses value ttlSeconds force keeps] at granted
      cases granted
    · rw [if_neg fell] at granted answers
      have keeps := storeKeeps_later elapsed ((kept key).redis answers)
      rw [isGranted] at keeps
      obtain ⟨entry, held, served⟩ := keeps _ le_rfl force
      rw [redisSetIfNotExists_of_present _ (redisGet_of_served held served)] at granted
      cases granted
  | set key value ttlSeconds => simp only [KeepsContract, isCall]
  | get key =>
    simp only [KeepsContract, AnswersFromCurrent, isCall] at current ⊢
    rw [get_eq state.service _ isCall]
    intro deleted
    have answers := current deleted
    rw [AnswersCurrent] at answers
    dsimp only
    by_cases fell : fallsBack state.service call = true
    · rw [if_pos fell] at answers ⊢
      have keeps := storeKeeps_later elapsed ((kept key).memory answers)
      exact memoryGet_deleted _ (deleted ▸ keeps)
    · rw [if_neg fell] at answers ⊢
      have keeps := (kept key).redis answers
      rw [deleted] at keeps
      exact redisGet_deleted _ keeps
  | mget keys =>
    simp only [KeepsContract, AnswersFromCurrent, isCall] at current ⊢
    rw [mget_eq state.service _ isCall]
    dsimp only
    by_cases fell : fallsBack state.service call = true
    · rw [if_pos fell]
      refine memoryMget_deleted keys fun key member deleted => ?_
      have answers := current key member deleted
      rw [AnswersCurrent, if_pos fell] at answers
      exact deleted ▸ storeKeeps_later elapsed ((kept key).memory answers)
    · rw [if_neg fell, List.zip_map_right, List.zip_eq_zipWith, List.zipWith_self]
      intro answer member deleted
      simp only [List.map_map, List.mem_map] at member
      obtain ⟨key, inKeys, rfl⟩ := member
      have answers := current key inKeys deleted
      rw [AnswersCurrent, if_neg fell] at answers
      have keeps := (kept key).redis answers
      rw [show state.standing key = .deleted from deleted] at keeps
      exact redisGet_deleted _ keeps
  | del key => simp only [KeepsContract, isCall]

end Answers

section Runs

open EmotoFleet.Runs

/-- A service that has promised nothing yet, with whatever Redis and memory hold. -/
def start (service : Service) (now : ℚ) : State :=
  ⟨service, now, fun _ => .free, fun _ => ⟨false, false⟩⟩

/-- At the start nothing is expected yet. -/
theorem kept_start (service : Service) (now : ℚ) : Kept (start service now) :=
  fun _ => ⟨fun none => Bool.noConfusion none, fun none => Bool.noConfusion none⟩

/-- As long as every promise is answered from a store that took the last reported change,
a key is granted once within its time to live and a deleted key has no value, over every
sequence of operations and every pattern of losses. -/
theorem contract_along (service : Service) (now : ℚ) (calls : List Call)
    (current : Along (total State.next) (fun state call _ => AnswersFromCurrent state call)
      (start service now) calls) :
    Along (total State.next) (fun state call _ => KeepsContract state call)
      (start service now) calls := by
  refine along_of_invariant Kept ?_ ?_ (kept_start service now) current
  · intro state call next kept _ moved
    obtain rfl := Option.some.inj moved
    exact kept_next kept
  · exact fun state call next kept answers _ => contract_of_current kept answers

/-- A service with two empty stores. -/
def emptyService : Service := ⟨false, fun _ => none, fun _ => none⟩

/-- A nonce is taken and refused in Redis; a lock is taken in memory while Redis is away
and released there. -/
def agreeingCalls : List Call :=
  [⟨0, .setIfNotExists "mqtt:nonce:d:n" "1" 600, .answered⟩,
   ⟨1000, .setIfNotExists "mqtt:nonce:d:n" "1" 600, .answered⟩,
   ⟨1000, .setIfNotExists "lock" "1" 30, .lost false⟩,
   ⟨1000, .del "lock", .lost false⟩,
   ⟨1000, .get "lock", .lost false⟩]

/-- A run in which no call finds the stores apart. -/
theorem contract_along_agreeingCalls :
    Along (total State.next) (fun state call _ => KeepsContract state call)
      (start emptyService 0) agreeingCalls := by
  refine contract_along emptyService 0 agreeingCalls ?_
  simp only [agreeingCalls, along_total_cons, along_nil, and_true]
  refine ⟨?_, ?_, ?_, ?_, ?_⟩
  · intro expires isGranted
    cases isGranted
  · intro _ _ _
    decide +kernel
  · intro expires isGranted
    have free : (((start emptyService 0).next agreeingCalls[0]).next agreeingCalls[1]).standing
        "lock" = .free := by decide +kernel
    exact Standing.noConfusion (free.symm.trans isGranted)
  · trivial
  · intro _
    decide +kernel

/-- A nonce that Redis has taken is granted again, from memory, when the connection is lost. -/
theorem nonce_granted_twice :
    ¬ (∀ service now calls, Along (total State.next) (fun state call _ => KeepsContract state call)
      (start service now) calls) := by
  intro everywhere
  have keeps := everywhere emptyService 0
    [⟨0, .setIfNotExists "mqtt:nonce:d:n" "1" 600, .answered⟩,
     ⟨1000, .setIfNotExists "mqtt:nonce:d:n" "1" 600, .lost false⟩]
  rw [along_total_cons, along_total_cons] at keeps
  have again := keeps.2.1
  refine again (by decide +kernel) (some 600000) (by decide +kernel) (by decide +kernel)

end Runs

end EmotoFleet.RedisFallback
