import EmotoFleet.Foundations.Runs
import EmotoFleet.Foundations.Tables

/-!
# The rate limit of the gateway

The gateway counts the requests to its sign-in, registration and partner endpoints. What is
protected and how often it may be asked for goes by a prefix of the path; what is counted
goes by the whole path. Counts are kept for as long as the window of their path lasts, and
a sweep drops the ones that are over and, if too many are left, the oldest.

Beside the counts stands what they are for: for each client and each prefix the window that
is open, and how many of its requests were let through.
-/

namespace EmotoFleet.Gateway

open EmotoFleet.Runs EmotoFleet.Tables

/-! ## The limiter -/

/-- The limits that the environment sets. -/
structure Config where
  rateWindowMs : Nat
  rateLimitLogin : Int
  rateLimitRegister : Int
  rateLimitPartner : Int
  rateLimitMaxEntries : Nat

/-- The address of a client as the gateway derives it: an IP address, or a word for none. -/
structure Address where
  text : String
  plain : '/' ∉ text.toList
  deriving DecidableEq

/-- The endpoints that are protected. -/
inductive Endpoint where
  | login
  | register
  | partner
  deriving DecidableEq, Repr

/-- Whether a path starts with another. -/
def startsWith (pathname start : String) : Bool :=
  start.toList.isPrefixOf pathname.toList

/-- The endpoint that a path belongs to, by how it starts. -/
def sensitiveEndpoint (pathname : String) : Option Endpoint :=
  if startsWith pathname "/auth/login" then some .login
  else if startsWith pathname "/auth/register" then some .register
  else if startsWith pathname "/partner/oauth/token" then some .partner
  else none

/-- How many requests each endpoint may get. -/
def Config.max (config : Config) : Endpoint → Int
  | .login => config.rateLimitLogin
  | .register => config.rateLimitRegister
  | .partner => config.rateLimitPartner

/-- The requests counted in a window. -/
structure Bucket where
  count : Int
  resetAt : Int
  deriving DecidableEq

/-- The counts in the order in which their keys were first set. -/
abbrev RateLimits := List (String × Bucket)

/-- The key of an address and a path. -/
def key (address : Address) (pathname : String) : String :=
  address.text ++ ":" ++ pathname

/-- The bucket of a key. -/
def getBucket (rateLimits : RateLimits) (bucketKey : String) : Option Bucket :=
  (rateLimits.find? fun entry => decide (entry.1 = bucketKey)).map Prod.snd

/-- Setting a key that is there leaves it in its place. -/
def setBucket (rateLimits : RateLimits) (bucketKey : String) (bucket : Bucket) : RateLimits :=
  if rateLimits.any fun entry => entry.1 == bucketKey then
    updateKey Prod.fst bucketKey (fun entry => (entry.1, bucket)) rateLimits
  else rateLimits ++ [(bucketKey, bucket)]

/-- Whether a request is let through, and the counts after it. -/
def enforceRateLimit (config : Config) (now : Int) (rateLimits : RateLimits) (address : Address)
    (pathname : String) : Bool × RateLimits :=
  match (sensitiveEndpoint pathname).map config.max with
  | none => (true, rateLimits)
  | some max =>
    if max ≤ 0 then (true, rateLimits)
    else
      let bucketKey := key address pathname
      match (getBucket rateLimits bucketKey).filter fun bucket => decide (now < bucket.resetAt) with
      | none =>
        (true, setBucket rateLimits bucketKey ⟨1, now + config.rateWindowMs⟩)
      | some windowState =>
        let count := windowState.count + 1
        (decide (count ≤ max), setBucket rateLimits bucketKey ⟨count, windowState.resetAt⟩)

/-- The counts after a sweep: what is over goes, and beyond the cap the oldest. -/
def sweep (config : Config) (now : Int) (rateLimits : RateLimits) : RateLimits :=
  let live := rateLimits.filter fun entry => decide (now < entry.2.resetAt)
  live.drop (live.length - config.rateLimitMaxEntries)

/-! ## Clients and their windows -/

/-- An address at an endpoint. -/
structure Client where
  address : Address
  endpoint : Endpoint
  deriving DecidableEq

/-- A window of a client, and how many of its requests were let through. -/
structure Window where
  start : Int
  passed : Nat

/-- The buckets, and the requests as they came. -/
structure World where
  now : Int
  rateLimits : RateLimits
  windows : Client → Option Window

/-- What may happen next. -/
inductive Event where
  | wait (duration : Nat)
  | sweep
  | request (address : Address) (pathname : String)

/-- A request falls into the window that is open, or opens one. -/
def recorded (config : Config) (now : Int) (letThrough : Bool) (window : Option Window) : Window :=
  let passing := if letThrough then 1 else 0
  match window.filter fun window => decide (now < window.start + config.rateWindowMs) with
  | none => ⟨now, passing⟩
  | some window => { window with passed := window.passed + passing }

/-- One step of the limiter. -/
def step (config : Config) (world : World) : Event → Option World
  | .wait duration => some { world with now := world.now + duration }
  | .sweep => some { world with rateLimits := sweep config world.now world.rateLimits }
  | .request address pathname =>
    let (letThrough, rateLimits) :=
      enforceRateLimit config world.now world.rateLimits address pathname
    some
      { world with
        rateLimits := rateLimits
        windows :=
          match sensitiveEndpoint pathname with
          | none => world.windows
          | some endpoint =>
            let client : Client := ⟨address, endpoint⟩
            Function.update world.windows client
              (some (recorded config world.now letThrough (world.windows client))) }

/-- No window lets more requests through than the maximum. -/
def Limited (config : Config) (world : World) : Prop :=
  ∀ client window, world.windows client = some window → window.passed ≤ config.max client.endpoint

/-- The path of a key of an address. -/
def pathOf (address : Address) (bucketKey : String) : Option String :=
  if (address.text ++ ":").toList.isPrefixOf bucketKey.toList then
    some (String.ofList (bucketKey.toList.drop (address.text ++ ":").toList.length))
  else none

/-- No count of another path under the same prefix is running for the client. -/
def SolePath (world : World) (address : Address) (pathname : String) (endpoint : Endpoint) : Prop :=
  ∀ entry ∈ world.rateLimits, world.now < entry.2.resetAt →
    ∀ other ∈ pathOf address entry.1, sensitiveEndpoint other = some endpoint → other = pathname

/-- A request is under a prefix with a maximum, and its client is not using another path
under the prefix; a sweep finds no more running counts than it keeps. -/
def Counted (config : Config) (world : World) : Event → Prop
  | .wait _ => True
  | .sweep =>
    (world.rateLimits.filter fun entry => decide (world.now < entry.2.resetAt)).length ≤
      config.rateLimitMaxEntries
  | .request address pathname =>
    ∀ endpoint ∈ sensitiveEndpoint pathname, 0 < config.max endpoint ∧
      SolePath world address pathname endpoint

instance (world : World) (address : Address) (pathname : String) (endpoint : Endpoint) :
    Decidable (SolePath world address pathname endpoint) :=
  inferInstanceAs (Decidable (∀ entry ∈ world.rateLimits, _ → ∀ other ∈ pathOf address entry.1, _ → _))

instance (config : Config) (world : World) (event : Event) :
    Decidable (Counted config world event) :=
  match event with
  | .wait _ => isTrue trivial
  | .sweep => inferInstanceAs (Decidable (_ ≤ _))
  | .request _ pathname =>
    inferInstanceAs (Decidable (∀ endpoint ∈ sensitiveEndpoint pathname, _ ∧ _))

/-! ## Keys -/

/-- A sensitive path starts with a slash. -/
theorem sensitive_slash {pathname : String} {endpoint : Endpoint}
    (sensitive : sensitiveEndpoint pathname = some endpoint) :
    ∃ rest, pathname.toList = '/' :: rest := by
  have started : ∀ start : String, ∀ tail, start.toList = '/' :: tail →
      startsWith pathname start = true → ∃ rest, pathname.toList = '/' :: rest := by
    intro start tail slash starts
    obtain ⟨rest, same⟩ := List.isPrefixOf_iff_prefix.mp starts
    exact ⟨tail ++ rest, by rw [← same, slash, List.cons_append]⟩
  rw [sensitiveEndpoint] at sensitive
  split at sensitive
  case isTrue login => exact started _ _ rfl login
  case isFalse =>
    split at sensitive
    case isTrue register => exact started _ _ rfl register
    case isFalse =>
      split at sensitive
      case isTrue partner => exact started _ _ rfl partner
      case isFalse => cases sensitive

/-- The letters of a key. -/
theorem toList_key (address : Address) (pathname : String) :
    (key address pathname).toList = address.text.toList ++ ':' :: pathname.toList := by
  rw [key, String.toList_append, String.toList_append, List.append_assoc]
  rfl

/-- A key tells the address from the path: the first slash is that of the path. -/
theorem key_injective {left right : Address} {leftPath rightPath : String} {leftRest rightRest}
    (leftSlash : leftPath.toList = '/' :: leftRest) (rightSlash : rightPath.toList = '/' :: rightRest)
    (same : key left leftPath = key right rightPath) : left = right ∧ leftPath = rightPath := by
  have texts := congrArg String.toList same
  rw [toList_key, toList_key] at texts
  have before : ∀ (address : Address) (pathname : String) rest, pathname.toList = '/' :: rest →
      (address.text.toList ++ ':' :: pathname.toList).takeWhile (· ≠ '/') =
        address.text.toList ++ [':'] := by
    intro address pathname rest slash
    have plain : ∀ letter ∈ address.text.toList, (decide (letter ≠ '/')) = true := by
      intro letter listed
      exact decide_eq_true fun isSlash => address.plain (isSlash ▸ listed)
    rw [List.takeWhile_append_of_pos plain, slash]
    rfl
  have addresses := congrArg (List.takeWhile (· ≠ '/')) texts
  rw [before left leftPath leftRest leftSlash, before right rightPath rightRest rightSlash] at addresses
  have sameText : left.text.toList = right.text.toList := List.append_cancel_right addresses
  constructor
  · cases left
    cases right
    congr
    exact String.toList_injective sameText
  · rw [sameText] at texts
    have paths := List.append_cancel_left texts
    exact String.toList_injective (List.cons.inj paths).2

/-- The path is read back from a key. -/
theorem pathOf_key (address : Address) (pathname : String) :
    pathOf address (key address pathname) = some pathname := by
  have split : (key address pathname).toList = (address.text ++ ":").toList ++ pathname.toList := by
    rw [key, String.toList_append]
  rw [pathOf, split, if_pos (List.isPrefixOf_iff_prefix.mpr (List.prefix_append _ _)),
    List.drop_left, String.ofList_toList]

/-- The buckets after one was set are the new one and the others. -/
theorem mem_setBucket {rateLimits : RateLimits} {bucketKey : String} {bucket : Bucket}
    {entry : String × Bucket} :
    entry ∈ setBucket rateLimits bucketKey bucket ↔
      entry = (bucketKey, bucket) ∨ entry ∈ rateLimits ∧ entry.1 ≠ bucketKey := by
  rw [setBucket]
  split
  case isTrue present =>
    obtain ⟨old, listed, same⟩ := List.any_eq_true.mp present
    rw [beq_iff_eq] at same
    rw [mem_updateKey]
    constructor
    · rintro (⟨other, -, equal, changed⟩ | kept)
      · exact .inl (changed ▸ equal ▸ rfl)
      · exact .inr kept
    · rintro (new | kept)
      · exact .inl ⟨old, listed, same, by rw [new, same]⟩
      · exact .inr kept
  case isFalse absent =>
    rw [Bool.not_eq_true, List.any_eq_false] at absent
    rw [List.mem_append, List.mem_singleton, or_comm]
    refine or_congr_right ⟨fun listed => ⟨listed, ?_⟩, fun kept => kept.1⟩
    simpa using absent entry listed

/-- Setting a bucket keeps one for each key. -/
theorem unique_setBucket {rateLimits : RateLimits} {bucketKey : String} {bucket : Bucket}
    (unique : (rateLimits.map Prod.fst).Nodup) :
    ((setBucket rateLimits bucketKey bucket).map Prod.fst).Nodup := by
  rw [setBucket]
  split
  case isTrue present =>
    have names : (updateKey Prod.fst bucketKey (fun entry => (entry.1, bucket)) rateLimits).map
        Prod.fst = rateLimits.map Prod.fst :=
      map_updateKey fun entry => rfl
    rwa [names]
  case isFalse absent =>
    rw [Bool.not_eq_true, List.any_eq_false] at absent
    rw [unique_append_iff]
    refine ⟨unique, fun listed => ?_⟩
    obtain ⟨entry, present, same⟩ := List.mem_map.mp listed
    simpa [same] using absent entry present

/-- A bucket is found exactly when it is listed. -/
theorem getBucket_iff {rateLimits : RateLimits} (unique : (rateLimits.map Prod.fst).Nodup)
    {bucketKey : String} {bucket : Bucket} :
    getBucket rateLimits bucketKey = some bucket ↔ (bucketKey, bucket) ∈ rateLimits := by
  rw [getBucket, Option.map_eq_some_iff]
  constructor
  · rintro ⟨⟨name, value⟩, found, same⟩
    obtain ⟨listed, equal⟩ := (find?_key_iff unique).mp found
    dsimp only at same equal
    rwa [← same, ← equal]
  · intro listed
    exact ⟨(bucketKey, bucket), (find?_key_iff unique).mpr ⟨listed, rfl⟩, rfl⟩

/-! ## Counts and windows -/

/-- What has been let through in an open window is counted under one path of its client, in
a count that runs as long as the window, and every running count is such a one. -/
structure Tracked (config : Config) (world : World) : Prop where
  unique : (world.rateLimits.map Prod.fst).Nodup
  opened : ∀ client window, world.windows client = some window →
    world.now < window.start + config.rateWindowMs → ∃ pathname bucket,
      sensitiveEndpoint pathname = some client.endpoint ∧
        (key client.address pathname, bucket) ∈ world.rateLimits ∧
        bucket.resetAt = window.start + config.rateWindowMs ∧ window.passed ≤ bucket.count
  running : ∀ address pathname endpoint bucket,
    (key address pathname, bucket) ∈ world.rateLimits →
    sensitiveEndpoint pathname = some endpoint → world.now < bucket.resetAt →
    ∃ window, world.windows ⟨address, endpoint⟩ = some window ∧
      window.start + config.rateWindowMs = bucket.resetAt
  limited : Limited config world

section Steps

variable {config : Config} {world next : World}

/-- Waiting keeps the buckets true to the requests. -/
theorem tracked_wait (tracked : Tracked config world) (duration : Nat) :
    Tracked config { world with now := world.now + duration } where
  unique := tracked.unique
  opened client window found opening :=
    tracked.opened client window found (by dsimp only at opening; omega)
  running address pathname endpoint bucket listed sensitive live :=
    tracked.running address pathname endpoint bucket listed sensitive (by dsimp only at live; omega)
  limited := tracked.limited

/-- A sweep that keeps every running count. -/
theorem tracked_sweep (tracked : Tracked config world) (counted : Counted config world .sweep) :
    Tracked config { world with rateLimits := sweep config world.now world.rateLimits } := by
  have swept : sweep config world.now world.rateLimits =
      world.rateLimits.filter fun entry => decide (world.now < entry.2.resetAt) := by
    rw [sweep, Nat.sub_eq_zero_of_le counted, List.drop_zero]
  constructor
  case unique =>
    rw [swept]
    exact tracked.unique.sublist (List.filter_sublist.map _)
  case opened =>
    intro client window found opening
    obtain ⟨pathname, bucket, sensitive, listed, resets, within⟩ :=
      tracked.opened client window found opening
    refine ⟨pathname, bucket, sensitive, ?_, resets, within⟩
    rw [swept, List.mem_filter]
    exact ⟨listed, decide_eq_true (resets ▸ opening)⟩
  case running =>
    intro address pathname endpoint bucket listed sensitive live
    rw [swept, List.mem_filter] at listed
    exact tracked.running address pathname endpoint bucket listed.1 sensitive live
  case limited => exact tracked.limited

/-- The count of one client changes, and its window with it; everything else stays. -/
theorem tracked_request {address : Address} {pathname : String} {endpoint : Endpoint}
    {bucket : Bucket} {window : Window} (tracked : Tracked config world)
    (sensitive : sensitiveEndpoint pathname = some endpoint)
    (sole : SolePath world address pathname endpoint)
    (resets : bucket.resetAt = window.start + config.rateWindowMs)
    (within : (window.passed : Int) ≤ bucket.count) (limited : window.passed ≤ config.max endpoint) :
    Tracked config
      { world with
        rateLimits := setBucket world.rateLimits (key address pathname) bucket
        windows := Function.update world.windows ⟨address, endpoint⟩ (some window) } := by
  obtain ⟨rest, slash⟩ := sensitive_slash sensitive
  constructor
  case unique => exact unique_setBucket tracked.unique
  case opened =>
    intro client other found opening
    dsimp only at found opening
    by_cases same : client = ⟨address, endpoint⟩
    case pos =>
      subst same
      rw [Function.update_self] at found
      cases found
      exact ⟨pathname, bucket, sensitive, mem_setBucket.mpr (.inl rfl), resets, within⟩
    case neg =>
      rw [Function.update_of_ne same] at found
      obtain ⟨otherPath, otherBucket, otherSensitive, listed, otherResets, otherWithin⟩ :=
        tracked.opened client other found opening
      refine ⟨otherPath, otherBucket, otherSensitive, mem_setBucket.mpr (.inr ⟨listed, ?_⟩),
        otherResets, otherWithin⟩
      intro equal
      obtain ⟨otherRest, otherSlash⟩ := sensitive_slash otherSensitive
      obtain ⟨sameAddress, samePath⟩ := key_injective otherSlash slash equal
      rw [samePath, sensitive] at otherSensitive
      apply same
      cases client
      cases otherSensitive
      cases sameAddress
      rfl
  case running =>
    intro otherAddress otherPath otherEndpoint otherBucket listed otherSensitive live
    dsimp only at live ⊢
    obtain ⟨otherRest, otherSlash⟩ := sensitive_slash otherSensitive
    cases mem_setBucket.mp listed with
    | inl new =>
      obtain ⟨sameAddress, samePath⟩ := key_injective otherSlash slash (congrArg Prod.fst new)
      have sameBucket : otherBucket = bucket := congrArg Prod.snd new
      subst sameAddress samePath sameBucket
      rw [sensitive] at otherSensitive
      cases otherSensitive
      exact ⟨window, Function.update_self _ _ _, resets.symm⟩
    | inr kept =>
      obtain ⟨there, different⟩ := kept
      obtain ⟨other, found, ends⟩ :=
        tracked.running otherAddress otherPath otherEndpoint otherBucket there otherSensitive live
      have otherClient : (⟨otherAddress, otherEndpoint⟩ : Client) ≠ ⟨address, endpoint⟩ := by
        intro sameClient
        cases sameClient
        have samePath := sole _ there live otherPath (pathOf_key _ _) otherSensitive
        exact different (by rw [samePath])
      refine ⟨other, ?_, ends⟩
      rw [Function.update_of_ne otherClient]
      exact found
  case limited =>
    intro client other found
    dsimp only at found
    by_cases same : client = ⟨address, endpoint⟩
    case pos =>
      subst same
      rw [Function.update_self] at found
      cases found
      exact limited
    case neg =>
      rw [Function.update_of_ne same] at found
      exact tracked.limited client other found

/-- Every step keeps the buckets true to the requests. -/
theorem tracked_step {event : Event} (tracked : Tracked config world)
    (counted : Counted config world event) (moved : step config world event = some next) :
    Tracked config next := by
  cases event with
  | wait duration =>
    cases moved
    exact tracked_wait tracked duration
  | sweep =>
    cases moved
    exact tracked_sweep tracked counted
  | request address pathname =>
    cases sensitive : sensitiveEndpoint pathname with
    | none =>
      simp only [step, enforceRateLimit, sensitive, Option.map_none, Option.some.injEq] at moved
      exact moved ▸ tracked
    | some endpoint =>
      obtain ⟨positive, sole⟩ := counted endpoint sensitive
      have enforced : ¬ config.max endpoint ≤ 0 := Int.not_le.mpr positive
      simp only [step, enforceRateLimit, sensitive, Option.map_some, enforced, if_false,
        Option.some.injEq] at moved
      subst moved
      cases found : (getBucket world.rateLimits (key address pathname)).filter
          fun bucket => decide (world.now < bucket.resetAt) with
      | none =>
        -- no count of the path is running, so no window of the client is open
        have closed : (world.windows ⟨address, endpoint⟩).filter
            (fun window => decide (world.now < window.start + config.rateWindowMs)) = none := by
          rw [Option.filter_eq_none_iff]
          intro window there opening
          obtain ⟨otherPath, bucket, otherSensitive, listed, resets, -⟩ :=
            tracked.opened _ window there (of_decide_eq_true opening)
          have live : world.now < bucket.resetAt := resets ▸ of_decide_eq_true opening
          have samePath := sole _ listed live otherPath (pathOf_key _ _) otherSensitive
          rw [samePath] at listed
          rw [(getBucket_iff tracked.unique).mpr listed] at found
          exact absurd live (by simpa using found)
        have window : recorded config world.now true (world.windows ⟨address, endpoint⟩) =
            ⟨world.now, 1⟩ := by
          rw [recorded, closed]
          rfl
        dsimp only
        rw [window]
        exact tracked_request tracked sensitive sole rfl (Int.le_refl 1) positive
      | some bucket =>
        obtain ⟨there, live⟩ := Option.filter_eq_some_iff.mp found
        have listed := (getBucket_iff tracked.unique).mp there
        obtain ⟨window, isWindow, ends⟩ := tracked.running address pathname endpoint bucket listed
          sensitive (of_decide_eq_true live)
        have opening : world.now < window.start + config.rateWindowMs :=
          ends ▸ of_decide_eq_true live
        obtain ⟨otherPath, other, otherSensitive, otherListed, resets, within⟩ :=
          tracked.opened _ window isWindow opening
        have samePath := sole _ otherListed (resets ▸ opening) otherPath (pathOf_key _ _) otherSensitive
        rw [samePath] at otherListed
        have sameBucket : other = bucket :=
          Option.some.inj (((getBucket_iff tracked.unique).mpr otherListed).symm.trans there)
        subst sameBucket
        have limited := tracked.limited _ window isWindow
        have continued : ∀ letThrough, recorded config world.now letThrough
            (world.windows ⟨address, endpoint⟩) =
              { window with passed := window.passed + if letThrough then 1 else 0 } := by
          intro letThrough
          have stays : (some window).filter (fun window : Window =>
              decide (world.now < window.start + config.rateWindowMs)) = some window :=
            Option.filter_some_pos (decide_eq_true opening)
          rw [recorded, isWindow, stays]
        dsimp only
        rw [continued]
        refine @tracked_request config world address pathname endpoint ⟨other.count + 1, other.resetAt⟩
          { window with passed := _ } tracked sensitive sole resets ?_ ?_
        · dsimp only
          split
          case isTrue => omega
          case isFalse => omega
        · dsimp only at limited ⊢
          split
          case isTrue allowed =>
            rw [decide_eq_true_eq] at allowed
            push_cast
            omega
          case isFalse => exact limited

end Steps

/-- The gateway as it starts. -/
def start (now : Int) : World where
  now := now
  rateLimits := []
  windows _ := none

/-- No buckets are true to no requests. -/
theorem tracked_start (config : Config) (now : Int) : Tracked config (start now) where
  unique := List.nodup_nil
  opened _ _ found := nomatch found
  running _ _ _ _ listed := nomatch listed
  limited _ _ found := nomatch found

/-- In no window of a client more requests to an endpoint are let through than its maximum,
as long as the client uses one path of the endpoint while a count of it is running, and no
sweep finds more running counts than it keeps. -/
theorem windows_limited {config : Config} {now : Int} {events : List Event}
    (counted : Along (step config) (fun world event _ => Counted config world event) (start now)
      events) :
    Along (step config) (fun _ _ next => Limited config next) (start now) events := by
  apply along_of_invariant (Tracked config) _ _ (tracked_start config now) counted
  · exact fun _ _ _ tracked counted moved => tracked_step tracked counted moved
  · exact fun _ _ _ tracked counted moved => (tracked_step tracked counted moved).limited

/-- The limits that hold where nothing is configured. -/
def defaultConfig : Config where
  rateWindowMs := 60000
  rateLimitLogin := 5
  rateLimitRegister := 5
  rateLimitPartner := 5
  rateLimitMaxEntries := 50000

/-- An address. -/
def sampleAddress : Address := ⟨"196.12.0.7", by decide⟩

/-- Six sign-ins from one address within a window, of which the sixth is refused, and one
after the window. -/
theorem windows_limited_sixLogins :
    Along (step defaultConfig) (fun _ _ next => Limited defaultConfig next) (start 0)
      (List.replicate 6 (.request sampleAddress "/auth/login") ++
        [.wait 60000, .sweep, .request sampleAddress "/auth/login"]) :=
  windows_limited (along_of_decide (by decide +kernel))

/-- The same endpoint by another path has a count of its own. -/
theorem sixth_login_let_through :
    ¬ ∀ config now events,
      Along (step config) (fun _ _ next => Limited config next) (start now) events := by
  intro always
  have six : ∀ middle next : World, ((next.windows ⟨sampleAddress, .login⟩).any fun window =>
      decide (5 < window.passed)) = true → ¬ Limited defaultConfig next := by
    intro _ next more limited
    obtain ⟨window, found, above⟩ := (Option.any_eq_true _ _).mp more
    have within := limited _ window found
    have above := of_decide_eq_true above
    simp only [defaultConfig, Config.max] at within
    omega
  refine not_along_of_check (start 0) (List.replicate 5 (.request sampleAddress "/auth/login"))
    (.request sampleAddress "/auth/login/") six ?_ (always defaultConfig 0 _)
  decide +kernel

end EmotoFleet.Gateway
