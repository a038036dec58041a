import EmotoFleet.Foundations.Paging
import EmotoFleet.Foundations.Runs

/-!
# Reading the audit log page by page

Whoever looks through the log asks for one page after the other until there are no more,
while others keep writing to it. A page is read by two queries at a time, one for the rows
and one for their number, and either may be answered first. Rows that were written at the
same time come in any order, and in another one with the next page.

The account that an entry shows and what it says of its target are left out. Sizes of pages
that are no positive number are turned away by the database.
-/

namespace EmotoFleet.Audit

open Runs

/-- An entry of the log. -/
structure AuditLog where
  id : Nat
  fleetId : Nat
  actionType : String
  createdAt : Int
  deriving DecidableEq

/-- What a reader asks for. -/
structure ListOptions where
  fleetId : Nat
  pageSize : Nat
  actionType : Option String

/-- The entries that the reader asks for. -/
def ListOptions.selects (options : ListOptions) (log : AuditLog) : Bool :=
  log.fleetId == options.fleetId && options.actionType.all (log.actionType == ·)

/-- The log, and what a reader has got: the page that is asked for, what the two queries
have answered, and the rows of the pages before. -/
structure Reading where
  logs : List AuditLog
  page : Nat
  rows : Option (List AuditLog)
  total : Option Nat
  seen : List AuditLog
  done : Bool

/-- An answer of the database comes with the order that it has put the rows in. -/
inductive Action where
  | createAuditLog (fleetId : Nat) (actionType : String) (createdAt : Int)
  | findMany (ordered : List AuditLog)
  | count
  | respond

/-- How many pages there are, one at least. -/
def totalPages (total pageSize : Nat) : Nat :=
  max 1 ((total + pageSize - 1) / pageSize)

/-- One more entry. -/
def createAuditLog (state : Reading) (fleetId : Nat) (actionType : String) (createdAt : Int) :
    Reading :=
  { state with logs := state.logs ++ [⟨state.logs.length, fleetId, actionType, createdAt⟩] }

/-- The reader goes on to the next page as long as there is one. -/
def respond (options : ListOptions) (state : Reading) (rows : List AuditLog) (total : Nat) :
    Reading :=
  if state.page < totalPages total options.pageSize then
    { state with page := state.page + 1, rows := none, total := none, seen := state.seen ++ rows }
  else { state with seen := state.seen ++ rows, done := true }

/-- An entry is written, or one of the two queries of a page is answered. -/
def step (options : ListOptions) (state : Reading) : Action → Option Reading
  | .createAuditLog fleetId actionType createdAt =>
    some (createAuditLog state fleetId actionType createdAt)
  | .findMany ordered =>
    if !state.done ∧ state.rows = none ∧
        ordered.Perm (state.logs.filter options.selects) ∧
        Paging.Descending AuditLog.createdAt ordered then
      some { state with rows := some (Paging.page options.pageSize state.page ordered) }
    else none
  | .count =>
    if !state.done ∧ state.total = none then
      some { state with total := some (state.logs.countP options.selects) }
    else none
  | .respond =>
    if state.done then none
    else
      state.rows.bind fun rows => state.total.map fun total => respond options state rows total

/-- The reader before the first page. -/
def opened (logs : List AuditLog) : Reading := ⟨logs, 1, none, none, [], false⟩

/-! ## Nothing is missed -/

/-- The steps that the trail of an entry asks for: the rows of a page are found before they
are counted, and no other entry gets the time of this one. -/
def Orderly (log : AuditLog) (state : Reading) : Action → Prop
  | .createAuditLog _ _ createdAt => createdAt ≠ log.createdAt
  | .count => state.rows.isSome
  | .findMany _ | .respond => True

/-- Where an entry is that has not been seen: on the page that was found, or behind it, or
behind the pages that were seen. -/
structure Ahead (options : ListOptions) (log : AuditLog) (state : Reading) : Prop where
  behind : state.rows = none →
    (state.page - 1) * options.pageSize ≤
      Paging.rank AuditLog.createdAt (state.logs.filter options.selects) log
  found : ∀ rows, state.rows = some rows → log ∈ rows ∨
    state.page * options.pageSize ≤
      Paging.rank AuditLog.createdAt (state.logs.filter options.selects) log
  counted : ∀ rows total, state.rows = some rows → state.total = some total →
    log ∈ rows ∨ state.page * options.pageSize < total

/-- What a reader who misses nothing has seen and has before them. -/
structure Trail (options : ListOptions) (log : AuditLog) (state : Reading) : Prop where
  stored : log ∈ state.logs.filter options.selects
  own : ∀ other ∈ state.logs, other.createdAt = log.createdAt → other = log
  numbered : 1 ≤ state.page
  inTurn : state.total.isSome → state.rows.isSome
  shown : log ∈ state.seen ∨ (state.done = false ∧ Ahead options log state)

variable {options : ListOptions} {log : AuditLog}

/-- An entry of another time keeps the trail. -/
theorem trail_created {state : Reading} (trail : Trail options log state) {fleetId : Nat}
    {actionType : String} {createdAt : Int} (another : createdAt ≠ log.createdAt) :
    Trail options log (createAuditLog state fleetId actionType createdAt) := by
  have grown : Paging.rank AuditLog.createdAt (state.logs.filter options.selects) log ≤
      Paging.rank AuditLog.createdAt
        ((createAuditLog state fleetId actionType createdAt).logs.filter options.selects) log := by
    rw [createAuditLog, List.filter_append]
    exact Paging.rank_le_append
  constructor
  · rw [createAuditLog, List.filter_append]
    exact List.mem_append_left _ trail.stored
  · intro other listed same
    cases List.mem_append.mp listed with
    | inl old => exact trail.own other old same
    | inr new =>
      rw [List.mem_singleton.mp new] at same
      exact absurd same another
  · exact trail.numbered
  · exact trail.inTurn
  · refine trail.shown.imp_right fun waiting => ⟨waiting.1, ?_, ?_, waiting.2.counted⟩
    · exact fun fresh => Nat.le_trans (waiting.2.behind fresh) grown
    · exact fun rows found => (waiting.2.found rows found).imp_right (Nat.le_trans · grown)

/-- The page shows the entry if its rank is on it. -/
theorem trail_found {state : Reading} (trail : Trail options log state) {ordered : List AuditLog}
    (fresh : state.rows = none) (same : ordered.Perm (state.logs.filter options.selects))
    (descending : Paging.Descending AuditLog.createdAt ordered) :
    Trail options log
      { state with rows := some (Paging.page options.pageSize state.page ordered) } := by
  have uncounted : state.total = none :=
    Option.not_isSome_iff_eq_none.mp fun counted => by simpa [fresh] using trail.inTurn counted
  have standing : ordered[Paging.rank AuditLog.createdAt ordered log]? = some log := by
    refine Paging.getElem?_rank descending (same.mem_iff.mpr trail.stored) ?_
    exact fun other listed equal =>
      trail.own other (List.mem_filter.mp (same.mem_iff.mp listed)).1 equal
  refine ⟨trail.stored, trail.own, trail.numbered, fun _ => rfl, ?_⟩
  refine trail.shown.imp_right fun waiting => ⟨waiting.1, ?_, ?_, ?_⟩
  · intro none
    cases none
  · intro rows shown
    obtain rfl := Option.some.inj shown
    have after := waiting.2.behind fresh
    rw [← Paging.rank_perm same] at after ⊢
    by_cases before : Paging.rank AuditLog.createdAt ordered log <
        (state.page - 1) * options.pageSize + options.pageSize
    · exact Or.inl (Paging.mem_page_of_getElem? standing after before)
    · right
      have next : (state.page - 1) * options.pageSize + options.pageSize =
          state.page * options.pageSize := by
        rw [← Nat.succ_mul, Nat.succ_eq_add_one, Nat.sub_add_cancel trail.numbered]
      exact next ▸ Nat.le_of_not_lt before
  · intro rows total _ counted
    rw [uncounted] at counted
    cases counted

/-- Counting after the rows keeps the trail. -/
theorem trail_counted {state : Reading} (trail : Trail options log state)
    (rowsFirst : state.rows.isSome) :
    Trail options log { state with total := some (state.logs.countP options.selects) } := by
  refine ⟨trail.stored, trail.own, trail.numbered, fun _ => rowsFirst, ?_⟩
  refine trail.shown.imp_right fun waiting => ⟨waiting.1, waiting.2.behind, waiting.2.found, ?_⟩
  intro rows total found counted
  obtain rfl := Option.some.inj counted
  refine (waiting.2.found rows found).imp_right fun further => Nat.lt_of_le_of_lt further ?_
  rw [List.countP_eq_length_filter]
  exact Paging.rank_lt_length trail.stored

/-- The reader stops only where no rows are left behind the page. -/
theorem trail_responded {state : Reading} (positive : 0 < options.pageSize)
    (trail : Trail options log state) {rows : List AuditLog} {total : Nat}
    (found : state.rows = some rows) (counted : state.total = some total) :
    Trail options log (respond options state rows total) := by
  rw [respond]
  split
  case isTrue more =>
    refine ⟨trail.stored, trail.own, Nat.le_succ_of_le trail.numbered, ?_, ?_⟩
    · intro none
      cases none
    · cases trail.shown with
      | inl seen => exact Or.inl (List.mem_append_left _ seen)
      | inr waiting =>
        cases waiting.2.found rows found with
        | inl here => exact Or.inl (List.mem_append_right _ here)
        | inr further =>
          refine Or.inr ⟨waiting.1, fun _ => further, ?_, ?_⟩
          · intro _ none
            cases none
          · intro _ _ none
            cases none
  case isFalse last =>
    refine ⟨trail.stored, trail.own, trail.numbered, trail.inTurn, Or.inl ?_⟩
    cases trail.shown with
    | inl seen => exact List.mem_append_left _ seen
    | inr waiting =>
      cases waiting.2.counted rows total found counted with
      | inl here => exact List.mem_append_right _ here
      | inr further =>
        have within : totalPages total options.pageSize ≤ state.page := Nat.le_of_not_lt last
        have fits : total ≤ state.page * options.pageSize := by
          have pages := Nat.le_trans (Nat.le_max_right 1 _) within
          rw [Nat.div_le_iff_le_mul_add_pred positive] at pages
          rw [Nat.mul_comm]
          omega
        exact absurd further (Nat.not_lt.mpr fits)

/-- Every orderly step keeps the trail. -/
theorem step_trail {state next : Reading} (positive : 0 < options.pageSize) (action : Action)
    (trail : Trail options log state) (orderly : Orderly log state action)
    (moved : step options state action = some next) : Trail options log next := by
  cases action with
  | createAuditLog fleetId actionType createdAt =>
    cases moved
    exact trail_created trail orderly
  | findMany ordered =>
    rw [step] at moved
    split at moved
    case isTrue enabled =>
      cases moved
      exact trail_found trail enabled.2.1 enabled.2.2.1 enabled.2.2.2
    case isFalse => cases moved
  | count =>
    rw [step] at moved
    split at moved
    case isTrue =>
      cases moved
      exact trail_counted trail orderly
    case isFalse => cases moved
  | respond =>
    rw [step] at moved
    split at moved
    case isTrue => cases moved
    case isFalse =>
      obtain ⟨rows, found, rest⟩ := Option.bind_eq_some_iff.mp moved
      obtain ⟨total, counted, same⟩ := Option.map_eq_some_iff.mp rest
      exact same ▸ trail_responded positive trail found counted

/-- A reader who goes on to the last page, and of whose pages the rows are found before they
are counted, has seen every entry that the log had when the first page was asked for, whatever
is written meanwhile and however the database orders entries of one time. -/
theorem reader_misses_nothing (positive : 0 < options.pageSize) {logs : List AuditLog}
    (stored : log ∈ logs) (selected : options.selects log = true)
    (own : ∀ other ∈ logs, other.createdAt = log.createdAt → other = log)
    {actions : List Action} {last : Reading}
    (orderly : Along (step options) (fun before action _ => Orderly log before action)
      (opened logs) actions)
    (completed : run (step options) (opened logs) actions = some last) (done : last.done = true) :
    log ∈ last.seen := by
  have initially : Trail options log (opened logs) := by
    refine ⟨List.mem_filter.mpr ⟨stored, selected⟩, own, Nat.le_refl 1, ?_, Or.inr ⟨rfl, ?_⟩⟩
    · intro none
      cases none
    · constructor
      · intro _
        rw [opened, Nat.sub_self, Nat.zero_mul]
        exact Nat.zero_le _
      · intro _ none
        cases none
      · intro _ _ none
        cases none
  have trail := invariant_reached (Trail options log)
    (fun before action next held met moved => step_trail positive action held met moved)
    initially orderly completed
  cases trail.shown with
  | inl seen => exact seen
  | inr waiting =>
    rw [done] at waiting
    cases waiting.1

/-! ## A log of two entries that is read one by one -/

instance (log : AuditLog) (state : Reading) (action : Action) :
    Decidable (Orderly log state action) :=
  match action with
  | .createAuditLog _ _ createdAt => inferInstanceAs (Decidable (createdAt ≠ log.createdAt))
  | .count => inferInstanceAs (Decidable (state.rows.isSome = true))
  | .findMany _ | .respond => inferInstanceAs (Decidable True)

/-- The first entry. -/
def earlier : AuditLog := ⟨0, 7, "LOGIN_SUCCESS", 1000⟩

/-- The second entry. -/
def later : AuditLog := ⟨1, 7, "USER_ROLE_CHANGED", 2000⟩

/-- An entry that is written between two pages. -/
def meanwhile : AuditLog := ⟨2, 7, "LOGIN_SUCCESS", 3000⟩

/-- The third entry is written before the first page is counted. -/
def threePages : List Action :=
  [.findMany [later, earlier], .createAuditLog 7 "LOGIN_SUCCESS" 3000, .count, .respond,
    .findMany [meanwhile, later, earlier], .count, .respond,
    .findMany [meanwhile, later, earlier], .count, .respond]

/-- The reader sees the first entry although another is written meanwhile. -/
theorem earlier_seen : ∃ last, run (step ⟨7, 1, none⟩) (opened [earlier, later]) threePages = some last ∧
    earlier ∈ last.seen := by
  refine ⟨_, rfl, ?_⟩
  exact @reader_misses_nothing ⟨7, 1, none⟩ earlier (by decide) [earlier, later] (by decide) (by decide)
    (by decide) threePages _ (along_of_decide (by decide)) rfl rfl

/-- Where the last page is counted before its rows are found, the first entry is missed. -/
example : (run (step ⟨7, 1, none⟩) (opened [earlier, later])
    [.findMany [later, earlier], .count, .respond, .count, .createAuditLog 7 "LOGIN_SUCCESS" 3000,
      .findMany [meanwhile, later, earlier], .respond]).map
    (fun last => (last.done, last.seen)) = some (true, [later, later]) := by decide

end EmotoFleet.Audit
