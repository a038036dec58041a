import EmotoFleet.Foundations.Runs
import EmotoFleet.Telemetry.IsoTimestamps

/-!
# The order of the fixes in the live cache

The cached state of a bike is replaced by the packets of its devices, which bring
a new fix, and refreshed by heartbeats, which keep the fix and restamp it with the
server's clock. A packet is discarded when the cached timestamp is greater than
its own as a text.

The main result says exactly when a run of such calls moves only forward in time,
with the instants of the fixes themselves as the measure. The spellings that the
schema admits break the order, and so does a heartbeat that arrives before a
delayed packet. Runs in the server's own spelling, without such a packet, keep it.
-/

namespace EmotoFleet.LiveOrder

open Expiring LiveState Runs

/-- A state as a caller passes it on, with its timestamp taken apart. -/
structure Fix where
  state : LiveBikeState
  ts : IsoDateTime
  spelled : state.ts = ts.timestamp
deriving DecidableEq

/-- A reading of the server's clock, as `toISOString` writes it. -/
structure ServerClock where
  iso : IsoDateTime
  canonical : iso.Canonical

inductive Call where
  | setLatestBikeState (now : Int) (fix : Fix)
  | heartbeat (clock : ServerClock)

def Call.now : Call → Int
  | .setLatestBikeState now _ => now
  | .heartbeat clock => clock.iso.epochMs

/-- The cache entry of a bike. The source stores the cell only; the other field
notes which fix it is whose position the cell holds. -/
structure LiveCache where
  cell : Cell LiveBikeState
  held : Option Fix
deriving DecidableEq

def cold : LiveCache := ⟨none, none⟩

/-- The part of `processHeartbeatPacket` that restamps the cached state. -/
def restamp (cell : Cell LiveBikeState) (clock : ServerClock) : Cell LiveBikeState :=
  match read cell clock.iso.epochMs with
  | some cached =>
    setLatestBikeState cell clock.iso.epochMs { cached with ts := clock.iso.timestamp }
  | none => cell

/-- The test by which `setLatestBikeState` discards a state. -/
def discards (cell : Cell LiveBikeState) (now : Int) (state : LiveBikeState) : Bool :=
  (read cell now).any fun existing => localeCompare existing.ts.text state.ts.text == .gt

def answer (cache : LiveCache) : Call → LiveCache
  | .setLatestBikeState now fix =>
    { cell := setLatestBikeState cache.cell now fix.state
      held := if discards cache.cell now fix.state then cache.held else some fix }
  | .heartbeat clock => { cache with cell := restamp cache.cell clock }

/-- The fix whose position a reader of the cache gets. -/
def visible (cache : LiveCache) (now : Int) : Option Fix :=
  (read cache.cell now).bind fun _ => cache.held

/-- A call does not step back in time, and it does not lose a later fix. -/
structure Monotone (cache : LiveCache) (call : Call) (next : LiveCache) : Prop where
  neverEarlier : ∀ held ∈ visible cache call.now, ∀ shown ∈ visible next call.now,
    held.ts.epochMs ≤ shown.ts.epochMs
  neverRejected : ∀ now fix, call = .setLatestBikeState now fix → ∀ held ∈ visible cache now,
    held.ts.epochMs < fix.ts.epochMs → visible next now = some fix

/-- The texts that a write compares stand in the order of the two fixes. -/
def TextsInOrder (cache : LiveCache) (call : Call) : Prop :=
  match call with
  | .setLatestBikeState now fix => ∀ existing ∈ read cache.cell now, ∀ held ∈ cache.held,
      (fix.ts.epochMs < held.ts.epochMs →
        localeCompare existing.ts.text fix.state.ts.text = .gt) ∧
      (held.ts.epochMs < fix.ts.epochMs →
        localeCompare existing.ts.text fix.state.ts.text ≠ .gt)
  | .heartbeat _ => True

instance (cache : LiveCache) (call : Call) : Decidable (TextsInOrder cache call) :=
  match call with
  | .setLatestBikeState now _ => inferInstanceAs (Decidable (∀ existing ∈ read cache.cell now,
      ∀ held ∈ cache.held, (_ → _) ∧ (_ → _)))
  | .heartbeat _ => inferInstanceAs (Decidable True)

/-- A write in the server's spelling of a fix that is no older than the cached stamp,
unless it is no later than the cached fix itself. -/
def InServerSpelling (cache : LiveCache) (call : Call) : Prop :=
  match call with
  | .setLatestBikeState now fix => fix.ts.Canonical ∧
      ∀ existing ∈ read cache.cell now, ∀ held ∈ cache.held,
        held.ts.epochMs < fix.ts.epochMs → existing.ts.epochMs ≤ fix.ts.epochMs
  | .heartbeat _ => True

/-- The cached stamp is in the server's spelling and not before the fix. -/
def Stamped (cache : LiveCache) : Prop :=
  ∀ entry ∈ cache.cell, ∃ iso : IsoDateTime, iso.Canonical ∧ entry.value.ts = iso.timestamp ∧
    ∀ held ∈ cache.held, held.ts.epochMs ≤ iso.epochMs

theorem setLatestBikeState_discarded {cell : Cell LiveBikeState} {now : Int}
    {state : LiveBikeState} (discarded : discards cell now state = true) :
    setLatestBikeState cell now state = cell := by
  cases found : read cell now with
  | none => simp [discards, found] at discarded
  | some existing =>
    have greater : localeCompare existing.ts.text state.ts.text = .gt := by
      simpa [discards, found] using discarded
    simp [setLatestBikeState, found, greater]

theorem setLatestBikeState_written {cell : Cell LiveBikeState} {now : Int}
    {state : LiveBikeState} (kept : discards cell now state = false) :
    setLatestBikeState cell now state = write state now (LIVE_STATE_TTL_SECONDS * 1000) := by
  cases found : read cell now with
  | none => simp [setLatestBikeState, found]
  | some existing =>
    have notGreater : localeCompare existing.ts.text state.ts.text ≠ .gt := by
      simpa [discards, found] using kept
    simp [setLatestBikeState, found, notGreater]

theorem read_written (state : LiveBikeState) (now : Int) :
    read (write state now (LIVE_STATE_TTL_SECONDS * 1000)) now = some state :=
  read_write_alive state (by unfold LIVE_STATE_TTL_SECONDS; omega)

/-- A heartbeat leaves the cell as it is or restamps the state that it holds. -/
theorem restamp_cases (cell : Cell LiveBikeState) (clock : ServerClock) :
    restamp cell clock = cell ∨
      ∃ cached, read cell clock.iso.epochMs = some cached ∧
        discards cell clock.iso.epochMs { cached with ts := clock.iso.timestamp } = false ∧
        restamp cell clock = write { cached with ts := clock.iso.timestamp } clock.iso.epochMs
          (LIVE_STATE_TTL_SECONDS * 1000) := by
  cases found : read cell clock.iso.epochMs with
  | none => exact Or.inl (by simp [restamp, found])
  | some cached =>
    cases verdict : discards cell clock.iso.epochMs { cached with ts := clock.iso.timestamp } with
    | true => exact Or.inl (by simp [restamp, found, setLatestBikeState_discarded verdict])
    | false =>
      exact Or.inr ⟨cached, rfl, verdict, by simp [restamp, found, setLatestBikeState_written verdict]⟩

/-- A heartbeat changes no reader's view of the position. -/
theorem visible_restamp (cache : LiveCache) (clock : ServerClock) :
    visible (answer cache (.heartbeat clock)) clock.iso.epochMs =
      visible cache clock.iso.epochMs := by
  rcases restamp_cases cache.cell clock with same | ⟨cached, found, _, written⟩
  · simp [visible, answer, same]
  · simp [visible, answer, written, read_written, found]

section Write

variable {cache : LiveCache} {now : Int} {fix : Fix} {existing : LiveBikeState}
  (found : read cache.cell now = some existing)

include found

/-- A discarded fix leaves the view alone, which is right unless the fix is later. -/
theorem monotone_iff_of_discarded (discarded : discards cache.cell now fix.state = true) :
    Monotone cache (.setLatestBikeState now fix) (answer cache (.setLatestBikeState now fix)) ↔
      TextsInOrder cache (.setLatestBikeState now fix) := by
  have greater : localeCompare existing.ts.text fix.state.ts.text = .gt := by
    simpa [discards, found] using discarded
  have unchanged : answer cache (.setLatestBikeState now fix) = cache := by
    simp [answer, discarded, setLatestBikeState_discarded discarded]
  have seen : visible cache now = cache.held := by simp [visible, found]
  rw [unchanged]
  constructor
  · intro monotone readable present held noted
    have same : readable = existing := Option.some.inj (present.symm.trans found)
    subst same
    refine ⟨fun _ => greater, fun later => ?_⟩
    have shown := monotone.neverRejected now fix rfl held (by rwa [seen]) later
    rw [seen] at shown
    have same : held = fix := Option.some.inj (noted.symm.trans shown)
    exact absurd later (same ▸ Int.lt_irrefl _)
  · intro inOrder
    refine ⟨?_, ?_⟩
    · intro held before shown after
      rw [Option.mem_unique before after]
    · intro _ _ same held before later
      cases same
      rw [seen] at before
      exact absurd greater ((inOrder existing found held before).2 later)

/-- A written fix is what readers get, which is right unless it is earlier. -/
theorem monotone_iff_of_written (kept : discards cache.cell now fix.state = false) :
    Monotone cache (.setLatestBikeState now fix) (answer cache (.setLatestBikeState now fix)) ↔
      TextsInOrder cache (.setLatestBikeState now fix) := by
  have notGreater : localeCompare existing.ts.text fix.state.ts.text ≠ .gt := by
    simpa [discards, found] using kept
  have seen : visible cache now = cache.held := by simp [visible, found]
  have shows : visible (answer cache (.setLatestBikeState now fix)) now = some fix := by
    simp [visible, answer, kept, setLatestBikeState_written kept, read_written]
  constructor
  · intro monotone readable present held noted
    have same : readable = existing := Option.some.inj (present.symm.trans found)
    subst same
    have forward := monotone.neverEarlier held (by rwa [Call.now, seen]) fix (by rwa [Call.now])
    exact ⟨fun earlier => absurd forward (Int.not_le.mpr earlier), fun _ => notGreater⟩
  · intro inOrder
    refine ⟨?_, ?_⟩
    · intro held before shown after
      rw [Call.now, seen] at before
      rw [Call.now, shows] at after
      have same : fix = shown := Option.some.inj after
      subst same
      by_contra earlier
      exact notGreater ((inOrder existing found held before).1 (Int.not_le.mp earlier))
    · intro _ _ same _ _ _
      cases same
      exact shows

end Write

/-- One call moves forward in time exactly when the texts that it compares stand in
the order of the fixes. -/
theorem monotone_iff (cache : LiveCache) (call : Call) :
    Monotone cache call (answer cache call) ↔ TextsInOrder cache call := by
  cases call with
  | heartbeat clock =>
    refine iff_of_true ⟨?_, fun _ _ other => by cases other⟩ trivial
    intro held before shown after
    rw [Call.now, visible_restamp] at after
    rw [Option.mem_unique before after]
  | setLatestBikeState now fix =>
    cases found : read cache.cell now with
    | none =>
      refine iff_of_true ⟨?_, ?_⟩ ?_
      · simp [visible, Call.now, found]
      · intro _ _ same held before
        cases same
        simp [visible, found] at before
      · simp [TextsInOrder, found]
    | some existing =>
      cases verdict : discards cache.cell now fix.state with
      | true => exact monotone_iff_of_discarded found verdict
      | false => exact monotone_iff_of_written found verdict

/-- Along every run of calls. -/
theorem monotone_along_iff (cache : LiveCache) (calls : List Call) :
    Along (total answer) (fun cache call next => Monotone cache call next) cache calls ↔
      Along (total answer) (fun cache call _ => TextsInOrder cache call) cache calls := by
  apply along_congr
  intro state call next moved
  rw [← Option.some.inj moved]
  exact monotone_iff state call

theorem answer_cell (cache : LiveCache) (call : Call) :
    answer cache call = cache ∨
      (∃ now fix, call = .setLatestBikeState now fix ∧
        answer cache call =
          ⟨write fix.state now (LIVE_STATE_TTL_SECONDS * 1000), some fix⟩) ∨
      ∃ (clock : ServerClock) (cached : LiveBikeState),
        read cache.cell clock.iso.epochMs = some cached ∧
        discards cache.cell clock.iso.epochMs { cached with ts := clock.iso.timestamp } = false ∧
        answer cache call =
          ⟨write { cached with ts := clock.iso.timestamp } clock.iso.epochMs
            (LIVE_STATE_TTL_SECONDS * 1000), cache.held⟩ := by
  cases call with
  | setLatestBikeState now fix =>
    cases verdict : discards cache.cell now fix.state with
    | true => exact Or.inl (by simp [answer, verdict, setLatestBikeState_discarded verdict])
    | false =>
      exact Or.inr (Or.inl ⟨now, fix, rfl, by simp [answer, verdict, setLatestBikeState_written verdict]⟩)
  | heartbeat clock =>
    rcases restamp_cases cache.cell clock with same | ⟨cached, found, kept, written⟩
    · exact Or.inl (by simp [answer, same])
    · exact Or.inr (Or.inr ⟨clock, cached, found, kept, by simp [answer, written]⟩)

/-- The entry behind a successful read. -/
theorem entry_of_read {cell : Cell LiveBikeState} {now : Int} {state : LiveBikeState}
    (found : read cell now = some state) : ∃ entry ∈ cell, entry.value = state := by
  obtain ⟨entry, held, _, stored⟩ := (read_eq_some_iff cell now state).mp found
  exact ⟨entry, held, stored⟩

theorem stamped_answer {cache : LiveCache} {call : Call} (stamped : Stamped cache)
    (spelling : InServerSpelling cache call) : Stamped (answer cache call) := by
  rcases answer_cell cache call with same | ⟨now, fix, rfl, written⟩ |
    ⟨clock, cached, found, kept, written⟩
  · rwa [same]
  · rw [written]
    intro entry stored
    obtain rfl := Option.some.inj stored
    refine ⟨fix.ts, spelling.1, fix.spelled, ?_⟩
    intro held noted
    rw [Option.some.inj noted]
  · rw [written]
    intro entry stored
    obtain rfl := Option.some.inj stored
    refine ⟨clock.iso, clock.canonical, rfl, ?_⟩
    intro held noted
    obtain ⟨before, present, value⟩ := entry_of_read found
    obtain ⟨iso, canonical, stamp, notBefore⟩ := stamped before present
    have notGreater : localeCompare iso.timestamp.text clock.iso.timestamp.text ≠ .gt := by
      rw [value] at stamp
      simpa [discards, found, stamp] using kept
    rw [Ne, IsoDateTime.localeCompare_canonical canonical clock.canonical, Int.not_lt] at notGreater
    exact Int.le_trans (notBefore held noted) notGreater

theorem inOrder_of_spelling {cache : LiveCache} {call : Call} (stamped : Stamped cache)
    (spelling : InServerSpelling cache call) : TextsInOrder cache call := by
  cases call with
  | heartbeat clock => trivial
  | setLatestBikeState now fix =>
    intro existing found held noted
    obtain ⟨entry, present, value⟩ := entry_of_read found
    obtain ⟨iso, canonical, stamp, notBefore⟩ := stamped entry present
    rw [value] at stamp
    have fixNotBefore := notBefore held noted
    rw [stamp, fix.spelled, Ne, IsoDateTime.localeCompare_canonical canonical spelling.1]
    refine ⟨fun earlier => Int.lt_of_lt_of_le earlier fixNotBefore, fun later => ?_⟩
    have reached := spelling.2 existing found held noted later
    rw [stamp] at reached
    exact Int.not_lt.mpr reached

/-- The live position is monotone in a run exactly when the texts compared at each
write stand in the order of the fixes. Timestamps in the server's spelling do, as
long as no fix is stamped between the cached one and the last heartbeat. -/
theorem livePosition_monotone (calls : List Call) :
    (Along (total answer) (fun cache call next => Monotone cache call next) cold calls ↔
      Along (total answer) (fun cache call _ => TextsInOrder cache call) cold calls) ∧
      (Along (total answer) (fun cache call _ => InServerSpelling cache call) cold calls →
        Along (total answer) (fun cache call next => Monotone cache call next) cold calls) := by
  refine ⟨monotone_along_iff cold calls, ?_⟩
  intro spelled
  rw [monotone_along_iff]
  refine along_of_invariant Stamped ?_ ?_ (by simp [Stamped, cold]) spelled
  · intro cache call next stamped spelling moved
    rw [← Option.some.inj moved]
    exact stamped_answer stamped spelling
  · intro cache call next stamped spelling _
    exact inOrder_of_spelling stamped spelling

section Spellings

/-- A state of one bike at a given time. -/
def sampleFix (ts : IsoDateTime) : Fix where
  state := { fleetId := "fleet", bikeId := "bike", deviceId := "device", deviceUid := "uid",
             ts := ts.timestamp, lat := 1, lng := 1, speedKph := 0, heading := none,
             batteryV := none, batteryPct := none, ignition := none }
  ts := ts
  spelled := rfl

def newYear : CivilDates.CivilDate := ⟨2026, 1, 1, by decide, by decide⟩

/-- `2026-01-01T10:00:00+02:00`, which is eight o'clock. -/
def tenAhead : IsoDateTime :=
  ⟨newYear, by decide, ⟨10, by decide⟩, ⟨0, by decide⟩, some (⟨0, by decide⟩, []),
    .offset true ⟨2, by decide⟩ ⟨0, by decide⟩⟩

/-- `2026-01-01T09:00:00Z`. -/
def nineUtc : IsoDateTime :=
  ⟨newYear, by decide, ⟨9, by decide⟩, ⟨0, by decide⟩, some (⟨0, by decide⟩, []), .utc⟩

def arrivalAhead : Call := .setLatestBikeState 1767258000000 (sampleFix tenAhead)
def arrivalUtc : Call := .setLatestBikeState 1767258000000 (sampleFix nineUtc)

/-- The fix of nine o'clock is rejected in favour of the one of eight o'clock, whose
text is greater. -/
theorem later_fix_rejected :
    ¬ Along (total answer) (fun cache call next => Monotone cache call next) cold
      [arrivalAhead, arrivalUtc] := by
  rw [monotone_along_iff, along_total_cons, along_total_cons]
  rintro ⟨_, inOrder, _⟩
  have outOfOrder : ¬ TextsInOrder (answer cold arrivalAhead) arrivalUtc := by decide +kernel
  exact outOfOrder inOrder

end Spellings

end EmotoFleet.LiveOrder
