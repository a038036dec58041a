import EmotoFleet.Financials.Arrears
import EmotoFleet.Foundations.Transactions

/-!
# Which rider has which bike

A call ends what the bike and the rider have and begins the new assignment, in one
transaction. The rows that its update ends are those it finds when the update begins; by
the time the update gets their locks others may have committed. A partial unique index
keeps a bike to one active assignment, and nothing keeps a rider to one but the update.
-/

namespace EmotoFleet.Riders

open Access (Id User Bike BikeAssignment latestFirst)
open Accounts (UserRole)
open Billing (BikeStatus)
open Financials (deactivate AssignmentError)
open Interleavings (Program)
open Runs Transactions

/-! ## The call -/

/-- The rows that an assignment reads and writes. -/
structure AssignmentTables where
  bikes : List Bike
  users : List User
  assignments : List BikeAssignment

/-- The arguments of a call, with the time that it takes and the identity of a new row. -/
structure AssignmentCall where
  fleetId : Id
  bikeId : Id
  riderUserId : Id
  now : Int
  newId : Id

/-- The statements that change rows. The update names the rows that it has found. -/
inductive AssignmentChange where
  | deactivate (found : List Id) (now : Int)
  | create (row : BikeAssignment)

/-- Why an assignment fails. -/
inductive AssignmentFailure where
  /-- A check of the bike or the rider has failed. -/
  | refused (error : AssignmentError)
  /-- "Unable to resolve existing assignment" -/
  | unresolved
  /-- A unique index of the database refuses the new row. -/
  | duplicate
  /-- The connection was lost. -/
  | lost
  deriving DecidableEq

/-- What a caller is told of an assignment. -/
structure AssignmentSummary where
  id : Id
  fleetId : Id
  bikeId : Id
  bikeLabel : String
  bikeStatus : BikeStatus
  riderUserId : Id
  riderFullName : Option String
  assignedAt : Int
  unassignedAt : Option Int
  active : Bool

/-- The summary of an assignment, its bike and its rider. -/
def toAssignmentSummary (assignment : BikeAssignment) (bike : Bike) (rider : User) :
    AssignmentSummary where
  id := assignment.id
  fleetId := assignment.fleetId
  bikeId := assignment.bikeId
  bikeLabel := bike.label
  bikeStatus := bike.status
  riderUserId := assignment.riderUserId
  riderFullName := rider.riderProfile.map (·.fullName)
  assignedAt := assignment.assignedAt
  unassignedAt := assignment.unassignedAt
  active := assignment.active

/-- The unique constraints of the table: the primary key, and the bike of an active row. -/
def clashes (row other : BikeAssignment) : Bool :=
  row.id == other.id || row.active && other.active && row.bikeId == other.bikeId

/-- A statement waits for rows that others have changed and for index entries that others
have made or removed, as long as these are not committed. -/
def waits (tables : AssignmentTables) : AssignmentChange → AssignmentChange → Bool
  | .deactivate found _, .deactivate held _ => found.any held.contains
  | .deactivate _ _, .create _ => false
  | .create row, .deactivate held _ =>
    tables.assignments.any fun other => clashes row other && held.contains other.id
  | .create row, .create other => clashes row other

/-- A row breaks a unique index. -/
inductive UniqueViolation where
  | uniqueViolation

/-- The table of assignments under its unique constraints. An update changes what is still
active of the rows that it has found. -/
def engine : Engine AssignmentTables AssignmentChange UniqueViolation where
  waits := waits
  check tables
    | .deactivate _ _ => .ok ()
    | .create row =>
      if tables.assignments.any (clashes row) then .error .uniqueViolation else .ok ()
  effect tables
    | .deactivate found now =>
      { tables with
        assignments := deactivate now (fun row => found.contains row.id) tables.assignments }
    | .create row => { tables with assignments := tables.assignments ++ [row] }

/-- A call that assigns, access by access. -/
abbrev Assigning := Program AssignmentTables AssignmentChange UniqueViolation AssignmentFailure

/-- The identities of the active rows of some kind. -/
def activeIds (chosen : BikeAssignment → Bool) (rows : List BikeAssignment) : List Id :=
  (rows.filter fun row => row.active && chosen row).map (·.id)

/-- The assignment of a rider to a bike, inside its transaction. -/
def assignRiderToBikeTx (call : AssignmentCall) : Assigning AssignmentSummary := do
  let bike ← Program.read fun tables => tables.bikes.find? fun row => row.id == call.bikeId
  let riderUser ← Program.read fun tables =>
    tables.users.find? fun row => row.id == call.riderUserId
  match bike with
  | none => .failed (.refused .bikeNotFound)
  | some bike =>
    if bike.fleetId ≠ call.fleetId then .failed (.refused .fleetAccess)
    else
      match riderUser.filter fun row => row.role == .RIDER with
      | none => .failed (.refused .riderNotFound)
      | some riderUser =>
        if riderUser.fleetId ≠ call.fleetId then .failed (.refused .fleetAccess)
        else
          let previousAssignment ← Program.read fun tables =>
            (latestFirst (·.assignedAt)
              (tables.assignments.filter fun row => row.bikeId == call.bikeId && row.active)).head?
          if previousAssignment.any fun row => row.riderUserId == call.riderUserId then
            let existingAssignment ← Program.read fun tables =>
              tables.assignments.find? fun row =>
                row.bikeId == call.bikeId && row.riderUserId == call.riderUserId && row.active
            match existingAssignment with
            | none => .failed .unresolved
            | some existingAssignment =>
              pure (toAssignmentSummary existingAssignment bike riderUser)
          else
            let found ← Program.read fun tables =>
              activeIds (fun row => row.bikeId == call.bikeId || row.riderUserId == call.riderUserId)
                tables.assignments
            Program.write (.deactivate found call.now) fun _ => .lost
            let assignment : BikeAssignment :=
              { id := call.newId, fleetId := call.fleetId, bikeId := call.bikeId,
                riderUserId := call.riderUserId, assignedAt := call.now, unassignedAt := none,
                active := true }
            Program.write (.create assignment) fun _ => .duplicate
            pure (toAssignmentSummary assignment bike riderUser)

/-- The transaction that makes one call. -/
def handle (call : AssignmentCall) : Assigning Unit := do
  let _ ← assignRiderToBikeTx call
  pure ()

/-! ## Active rows -/

/-- No value of a column has two active rows. -/
def OnePer (column : BikeAssignment → Id) (rows : List BikeAssignment) : Prop :=
  ∀ value, (activeIds (fun row => column row == value) rows).length ≤ 1

/-- Every bike has one rider and every rider one bike. -/
structure OneToOne (tables : AssignmentTables) : Prop where
  bikes : OnePer (·.bikeId) tables.assignments
  riders : OnePer (·.riderUserId) tables.assignments

section ActiveRows

variable {chosen : BikeAssignment → Bool}

/-- A deactivation takes the rows that it has found from the active ones. -/
theorem activeIds_deactivate (found : List Id) (now : Int) (rows : List BikeAssignment) :
    activeIds chosen (deactivate now (fun row => found.contains row.id) rows) =
      (activeIds chosen rows).filter fun id => !found.contains id := by
  induction rows with
  | nil => rfl
  | cons row rest inductionHypothesis =>
    simp only [activeIds, deactivate, List.contains_eq_mem, Bool.and_eq_true,
      decide_eq_true_eq] at inductionHypothesis
    simp only [activeIds, deactivate, List.contains_eq_mem, Bool.and_eq_true, decide_eq_true_eq,
      List.map_cons, List.filter_cons]
    cases active : row.active
    case false => simp [active, inductionHypothesis]
    case true =>
      cases wanted : chosen row
      case false =>
        by_cases ended : row.id ∈ found
        case pos => simp [ended, inductionHypothesis]
        case neg => simp [active, ended, wanted, inductionHypothesis]
      case true =>
        by_cases ended : row.id ∈ found
        case pos => simp [ended, inductionHypothesis]
        case neg => simp [active, ended, wanted, inductionHypothesis]

/-- One more row adds itself to the active ones when it is chosen. -/
theorem activeIds_append (row : BikeAssignment) (rows : List BikeAssignment) :
    activeIds chosen (rows ++ [row]) =
      activeIds chosen rows ++ if row.active && chosen row then [row.id] else [] := by
  rw [activeIds, List.filter_append, List.map_append, activeIds, List.filter_singleton]
  cases row.active && chosen row with
  | false => rfl
  | true => rfl

/-- Nothing active is chosen exactly when no active row is. -/
theorem activeIds_eq_nil_iff (rows : List BikeAssignment) :
    activeIds chosen rows = [] ↔ ∀ row ∈ rows, row.active = true → chosen row = false := by
  rw [activeIds, List.map_eq_nil_iff, List.filter_eq_nil_iff]
  constructor
  · intro none row listed active
    have missed := none row listed
    simpa [active] using missed
  · intro none row listed
    simp only [Bool.and_eq_true, not_and, Bool.not_eq_true]
    exact none row listed

/-- More changes on top of fewer active rows leave fewer active rows. -/
theorem activeIds_view_sublist
    (pending : List AssignmentChange) {fewer more : AssignmentTables}
    (sublist : (activeIds chosen fewer.assignments).Sublist (activeIds chosen more.assignments)) :
    (activeIds chosen (engine.view fewer pending).assignments).Sublist
      (activeIds chosen (engine.view more pending).assignments) := by
  induction pending generalizing fewer more with
  | nil => exact sublist
  | cons change rest inductionHypothesis =>
    apply inductionHypothesis
    cases change with
    | deactivate found now =>
      dsimp only [engine]
      rw [activeIds_deactivate, activeIds_deactivate]
      exact sublist.filter _
    | create row =>
      dsimp only [engine]
      rw [activeIds_append, activeIds_append]
      exact sublist.append_right _

/-- Changes that begin no row of a kind leave at most the active rows that there were. -/
theorem activeIds_view_of_not_created
    (tables : AssignmentTables) {pending : List AssignmentChange}
    (absent : ∀ row, .create row ∈ pending → row.active = true → chosen row = false) :
    (activeIds chosen (engine.view tables pending).assignments).Sublist
      (activeIds chosen tables.assignments) := by
  induction pending generalizing tables with
  | nil => exact List.Sublist.refl _
  | cons change rest inductionHypothesis =>
    have later := fun row listed => absent row (List.mem_cons_of_mem change listed)
    apply (inductionHypothesis (engine.effect tables change) later).trans
    cases change with
    | deactivate found now =>
      dsimp only [engine]
      rw [activeIds_deactivate]
      exact List.filter_sublist
    | create row =>
      dsimp only [engine]
      rw [activeIds_append]
      have unwanted := absent row List.mem_cons_self
      cases active : row.active
      case false => simp
      case true => simp [unwanted active]

end ActiveRows

/-! ## Bikes -/

/-- No two transactions begin an active row of the same bike. -/
def Apart (held : List (List AssignmentChange)) : Prop :=
  ∀ left right : Nat, ∀ pending others row other, held[left]? = some pending →
    held[right]? = some others → left ≠ right → .create row ∈ pending → .create other ∈ others →
    row.active = true → other.active = true → row.bikeId ≠ other.bikeId

/-- The store and every transaction on top of it have at most one active row of a bike,
and no two transactions begin one of the same bike. -/
structure Consistent (tables : AssignmentTables) (held : List (List AssignmentChange)) : Prop where
  store : OnePer (·.bikeId) tables.assignments
  views : ∀ index : Nat, ∀ pending, held[index]? = some pending →
    OnePer (·.bikeId) (engine.view tables pending).assignments
  apart : Apart held

/-- What is held at a place was changed there or held before. -/
theorem getElem?_set_cases {ω : Type} {held : List (List ω)} {index place : Nat}
    {changed pending : List ω} (listed : (held.set index changed)[place]? = some pending) :
    place = index ∧ pending = changed ∨ place ≠ index ∧ held[place]? = some pending := by
  rw [List.getElem?_set] at listed
  split at listed
  case isTrue same =>
    split at listed
    case isTrue => exact .inl ⟨same.symm, (Option.some.inj listed).symm⟩
    case isFalse => cases listed
  case isFalse different => exact .inr ⟨fun same => different same.symm, listed⟩

/-- What is held at a place was added there or held before. -/
theorem getElem?_concat_cases {ω : Type} {held : List (List ω)} {place : Nat}
    {added pending : List ω} (listed : (held ++ [added])[place]? = some pending) :
    pending = added ∨ held[place]? = some pending := by
  rw [List.getElem?_append] at listed
  split at listed
  case isTrue => exact .inr listed
  case isFalse =>
    rw [List.getElem?_singleton] at listed
    split at listed
    case isTrue => exact .inl (Option.some.inj listed).symm
    case isFalse => cases listed

/-- What one transaction may do to its view: it ends rows, or it begins one on a bike that
has no active row there. -/
theorem one_per_bike_of_accepted {tables : AssignmentTables} {pending : List AssignmentChange}
    {change : AssignmentChange} (before : OnePer (·.bikeId) (engine.view tables pending).assignments)
    (accepted : engine.check (engine.view tables pending) change = .ok ()) :
    OnePer (·.bikeId) (engine.view tables (pending ++ [change])).assignments := by
  intro bikeId
  have extended : engine.view tables (pending ++ [change]) =
      engine.effect (engine.view tables pending) change := by
    simp only [Engine.view, List.foldl_append, List.foldl_cons, List.foldl_nil]
  rw [extended]
  have single := before bikeId
  generalize engine.view tables pending = view at accepted single
  cases change with
  | deactivate found now =>
    dsimp only [engine]
    rw [activeIds_deactivate]
    exact Nat.le_trans (List.length_filter_le _ _) single
  | create row =>
    dsimp only [engine] at accepted ⊢
    rw [activeIds_append]
    split at accepted
    case isTrue => cases accepted
    case isFalse free =>
      split
      case isFalse => simpa using single
      case isTrue wanted =>
        rw [Bool.and_eq_true, beq_iff_eq] at wanted
        have none : activeIds (fun row => row.bikeId == bikeId) view.assignments = [] := by
          apply (activeIds_eq_nil_iff view.assignments).mpr
          intro other listed active
          rw [Bool.not_eq_true, List.any_eq_false] at free
          have apart := free other listed
          simp only [clashes, wanted.1, active, Bool.and_self, Bool.true_and, Bool.or_eq_true,
            beq_iff_eq, not_or] at apart
          simp only [beq_eq_false_iff_ne, ne_eq]
          exact fun same => apart.2 (wanted.2.trans same.symm)
        rw [none]
        exact Nat.le_refl 1

/-- A commit leaves the view of every other transaction with one active row of a bike: on
the bike of a row that it begins, the commit can only have ended rows. -/
theorem one_per_bike_of_committed {tables : AssignmentTables}
    {pending others : List AssignmentChange}
    (committed : OnePer (·.bikeId) (engine.view tables pending).assignments)
    (view : OnePer (·.bikeId) (engine.view tables others).assignments)
    (apart : ∀ row other, .create row ∈ pending → .create other ∈ others → row.active = true →
      other.active = true → row.bikeId ≠ other.bikeId) :
    OnePer (·.bikeId) (engine.view (engine.view tables pending) others).assignments := by
  intro bikeId
  by_cases creates : ∃ other, .create other ∈ others ∧ other.active = true ∧ other.bikeId = bikeId
  case pos =>
    obtain ⟨other, listed, active, same⟩ := creates
    have onlyEnded := @activeIds_view_of_not_created (fun row => row.bikeId == bikeId) tables pending
      fun row created begun => by
        rw [beq_eq_false_iff_ne, ← same]
        exact apart row other created listed begun active
    exact Nat.le_trans (activeIds_view_sublist others onlyEnded).length_le (view bikeId)
  case neg =>
    have onlyEnded := @activeIds_view_of_not_created (fun row => row.bikeId == bikeId)
      (engine.view tables pending) others fun row created begun => by
        rw [beq_eq_false_iff_ne]
        exact fun same => creates ⟨row, created, begun, same⟩
    exact Nat.le_trans onlyEnded.length_le (committed bikeId)

/-- Between two transactions the changes stay apart when one of them makes another one. -/
theorem apart_of_free {held : List (List AssignmentChange)} {tables : AssignmentTables}
    {index : Nat} {pending : List AssignmentChange} {change : AssignmentChange}
    (consistent : Consistent tables held) (listed : held[index]? = some pending)
    (free : ∀ place others, held[place]? = some others → place ≠ index →
      ∀ other ∈ others, engine.waits tables change other = false)
    {place : Nat} {others : List AssignmentChange} (present : held[place]? = some others)
    (different : place ≠ index) {row other : BikeAssignment}
    (made : .create row ∈ pending ++ [change]) (created : .create other ∈ others)
    (begun : row.active = true) (active : other.active = true) : row.bikeId ≠ other.bikeId := by
  cases List.mem_append.mp made with
  | inl before =>
    exact consistent.apart index place pending others row other listed present
      (fun same => different same.symm) before created begun active
  | inr new =>
    have clear := free place others present different (.create other) created
    rw [← List.mem_singleton.mp new] at clear
    simp only [engine, waits, clashes, begun, active, Bool.and_self, Bool.true_and,
      Bool.or_eq_false_iff, beq_eq_false_iff_ne] at clear
    exact clear.2

/-- Forgetting what a call holds keeps the calls apart. -/
theorem Apart.of_forgotten {held remaining : List (List AssignmentChange)} (apart : Apart held)
    (forgotten : ∀ place : Nat, ∀ pending, remaining[place]? = some pending →
      pending = [] ∨ held[place]? = some pending) : Apart remaining := by
  intro left right pending others row other listed present different made created
  cases forgotten left pending listed with
  | inl none => exact absurd (none ▸ made) List.not_mem_nil
  | inr before =>
    cases forgotten right others present with
    | inl none => exact absurd (none ▸ created) List.not_mem_nil
    | inr beforeToo =>
      exact apart left right pending others row other before beforeToo different made created

/-- A call that ends forgets what it held. -/
theorem forgotten_of_set {held : List (List AssignmentChange)} {index place : Nat}
    {pending : List AssignmentChange} (listed : (held.set index [])[place]? = some pending) :
    pending = [] ∨ held[place]? = some pending := by
  cases getElem?_set_cases listed with
  | inl here => exact .inl here.2
  | inr elsewhere => exact .inr elsewhere.2

/-- Every step keeps the tables consistent. -/
theorem consistent_preserved : Preserved engine Consistent where
  opened tables held consistent := by
    refine ⟨consistent.store, ?_, ?_⟩
    · intro index pending listed
      cases getElem?_concat_cases listed with
      | inl new => exact new ▸ consistent.store
      | inr before => exact consistent.views index pending before
    · exact consistent.apart.of_forgotten fun _ _ listed => getElem?_concat_cases listed
  dropped tables held index consistent := by
    refine ⟨consistent.store, ?_, ?_⟩
    · intro place pending listed
      cases forgotten_of_set listed with
      | inl none => exact none ▸ consistent.store
      | inr before => exact consistent.views place pending before
    · exact consistent.apart.of_forgotten fun _ _ listed => forgotten_of_set listed
  changed tables held index pending change consistent listed free accepted := by
    refine ⟨consistent.store, ?_, ?_⟩
    · intro place others present
      cases getElem?_set_cases present with
      | inl here =>
        exact here.2 ▸ one_per_bike_of_accepted (consistent.views index pending listed) accepted
      | inr elsewhere => exact consistent.views place others elsewhere.2
    · intro left right leftChanges rightChanges row other atLeft atRight different made created
        begun active
      cases getElem?_set_cases atLeft with
      | inl here =>
        cases getElem?_set_cases atRight with
        | inl hereToo => exact absurd (here.1.trans hereToo.1.symm) different
        | inr elsewhere =>
          exact apart_of_free consistent listed free elsewhere.2 elsewhere.1 (here.2 ▸ made) created
            begun active
      | inr elsewhere =>
        cases getElem?_set_cases atRight with
        | inl here =>
          exact (apart_of_free consistent listed free elsewhere.2 elsewhere.1 (here.2 ▸ created) made
            active begun).symm
        | inr elsewhereToo =>
          exact consistent.apart left right leftChanges rightChanges row other elsewhere.2
            elsewhereToo.2 different made created begun active
  committed tables held index pending consistent listed := by
    have committed := consistent.views index pending listed
    refine ⟨committed, ?_, ?_⟩
    · intro place others present
      cases getElem?_set_cases present with
      | inl here => exact here.2 ▸ committed
      | inr elsewhere =>
        exact one_per_bike_of_committed committed (consistent.views place others elsewhere.2)
          fun row other made created => consistent.apart index place pending others row other
            listed elsewhere.2 (fun same => elsewhere.1 same.symm) made created
    · exact consistent.apart.of_forgotten fun _ _ found => forgotten_of_set found

/-! ## Riders -/

/-- A call changes nothing, or it ends what its last read has found of the bike and of the
rider, and begins one row of them. -/
def EndsAndBegins (seen : List AssignmentTables) (pending : List AssignmentChange) : Prop :=
  pending = [] ∨ ∃ view found now row, seen.getLast? = some view ∧
    pending = [.deactivate found now, .create row] ∧ row.active = true ∧
    found = activeIds (fun other => other.bikeId == row.bikeId || other.riderUserId == row.riderUserId)
      view.assignments

/-- The rows that the changes begin. -/
def begun (pending : List AssignmentChange) : List BikeAssignment :=
  pending.filterMap fun
    | .create row => some row
    | .deactivate _ _ => none

/-- Since the last read of a call, the one that its update looks for rows with, no other call
has committed an assignment of the rider that is active by now. -/
def NoneSince (seen : List AssignmentTables) (tables : AssignmentTables)
    (pending : List AssignmentChange) : Prop :=
  ∀ view ∈ seen.getLast?, ∀ row ∈ begun pending, ∀ other ∈ tables.assignments,
    other.active = true → other.riderUserId = row.riderUserId → other ∈ view.assignments

instance (seen : List AssignmentTables) (tables : AssignmentTables)
    (pending : List AssignmentChange) : Decidable (NoneSince seen tables pending) :=
  inferInstanceAs (Decidable (∀ view ∈ seen.getLast?, ∀ row ∈ begun pending,
    ∀ other ∈ tables.assignments, _ → _ → _))

/-- A call ends the assignments that it has found and begins one. -/
theorem handle_aims (call : AssignmentCall) :
    Aims (fun _ => EndsAndBegins) [] [] (handle call) := by
  rw [handle, assignRiderToBikeTx]
  simp only [aims_bind, aims_read, aims_pure]
  intro bikes users
  generalize users.users.find? (fun row => row.id == call.riderUserId) = riderUser
  cases bikes.bikes.find? fun row => row.id == call.bikeId with
  | none => exact aims_failed _
  | some bike =>
    dsimp only
    split
    case isTrue => exact aims_failed _
    case isFalse =>
      cases riderUser.filter fun row => row.role == .RIDER with
      | none => exact aims_failed _
      | some riderUser =>
        dsimp only
        split
        case isTrue => exact aims_failed _
        case isFalse =>
          simp only [aims_bind, aims_read]
          intro tables
          split
          case isTrue =>
            -- the rider has the bike, and nothing changes
            simp only [aims_bind, aims_read]
            intro later
            split
            case h_1 => exact aims_failed _
            case h_2 => exact .inl rfl
          case isFalse =>
            simp only [aims_bind, aims_read, aims_write, aims_pure]
            intro later
            refine .inr ⟨later, _, _, _, ?_, rfl, rfl, rfl⟩
            rw [List.getLast?_append, List.getLast?_singleton, Option.some_or]

/-- Ending what is found and beginning one leaves one active. -/
theorem view_endsAndBegins (tables : AssignmentTables) (chosen : BikeAssignment → Bool)
    (found : List Id) (now : Int) (row : BikeAssignment) :
    activeIds chosen (engine.view tables [.deactivate found now, .create row]).assignments =
      ((activeIds chosen tables.assignments).filter fun id => !found.contains id) ++
        if row.active && chosen row then [row.id] else [] := by
  rw [Engine.view, List.foldl_cons, List.foldl_cons, List.foldl_nil]
  dsimp only [engine]
  rw [activeIds_append, activeIds_deactivate]

/-- What a call that has not been overtaken begins is the only active assignment of its
rider: its update has found and ends the others. -/
theorem one_per_rider_committed {seen : List AssignmentTables} {tables : AssignmentTables}
    {pending : List AssignmentChange} (single : OnePer (·.riderUserId) tables.assignments)
    (allowed : EndsAndBegins seen pending) (noneSince : NoneSince seen tables pending) :
    OnePer (·.riderUserId) (engine.view tables pending).assignments := by
  cases allowed with
  | inl none => exact none ▸ single
  | inr both =>
    obtain ⟨view, found, now, row, last, same, active, finds⟩ := both
    subst same
    -- what the rider has apart from the new row
    have remaining : ((activeIds (fun other => other.riderUserId == row.riderUserId)
        tables.assignments).filter fun id => !found.contains id) = [] := by
      rw [List.filter_eq_nil_iff]
      intro id listed
      obtain ⟨other, present, rfl⟩ := List.mem_map.mp listed
      obtain ⟨stored, chosen⟩ := List.mem_filter.mp present
      rw [Bool.and_eq_true, beq_iff_eq] at chosen
      have read := noneSince view last row (by simp [begun]) other stored chosen.1 chosen.2
      have ended : other.id ∈ found := by
        rw [finds, activeIds, List.mem_map]
        refine ⟨other, List.mem_filter.mpr ⟨read, ?_⟩, rfl⟩
        simp [chosen.1, chosen.2]
      simpa using ended
    intro riderId
    rw [view_endsAndBegins, List.length_append]
    by_cases assignee : row.riderUserId = riderId
    case neg =>
      simp only [active, assignee, beq_eq_false_iff_ne.mpr, ne_eq, not_false_eq_true,
        Bool.and_false, Bool.false_eq_true, if_false, List.length_nil, Nat.add_zero]
      exact Nat.le_trans (List.length_filter_le _ _) (single riderId)
    case pos =>
      subst assignee
      rw [remaining]
      split
      case isTrue => exact Nat.le_refl 1
      case isFalse => exact Nat.zero_le 1

/-- In every interleaving of calls in which no call that begins an assignment has been
overtaken by another one for its rider, between the update and the commit, a bike and a
rider have at most one active assignment at every time. -/
theorem assignments_one_to_one {tables : AssignmentTables} (oneToOne : OneToOne tables)
    (actions : List (Action AssignmentCall AssignmentFailure))
    (notOvertaken : Along (watch engine handle)
      (fun before action _ => Concludes NoneSince before action) ⟨tables, []⟩ actions) :
    Along (step engine handle) (fun _ _ next => OneToOne next.store) ⟨tables, []⟩ actions := by
  apply along_commits consistent_preserved (fun _ => .inl rfl) handle_aims ?_ ?_ oneToOne
    notOvertaken
  · intro store held index seen pending consistent established listed allowed noneSince
    exact ⟨consistent.views index pending listed,
      one_per_rider_committed established.riders allowed noneSince⟩
  · exact ⟨oneToOne.bikes, fun index pending listed => absurd listed (by simp),
      fun left right pending others row other listed => absurd listed (by simp)⟩

section Examples

/-- A bike of the fleet. -/
def sampleBike (id : Id) : Bike where
  id := id
  fleetId := "kigali"
  label := "Moto"
  plate := none
  serial := none
  model := none
  insurerName := none
  status := .ACTIVE
  imageUrl := none
  type := none
  leaseToOwn := false
  createdAt := 0
  updatedAt := 0

/-- A rider of the fleet. -/
def sampleRider : User where
  id := "rider"
  fleetId := "kigali"
  role := .RIDER
  email := none
  phone := none
  status := "ACTIVE"
  createdAt := 0
  riderProfile := none

/-- A fleet of two bikes and a rider who has none of them yet. -/
def newFleet : AssignmentTables where
  bikes := [sampleBike "first", sampleBike "second"]
  users := [sampleRider]
  assignments := []

/-- A new fleet has no assignments. -/
theorem newFleet_oneToOne : OneToOne newFleet where
  bikes _ := Nat.zero_le 1
  riders _ := Nat.zero_le 1

/-- A dispatcher assigns the rider to one of the bikes. -/
def sampleCall (bikeId newId : Id) : AssignmentCall where
  fleetId := "kigali"
  bikeId := bikeId
  riderUserId := "rider"
  now := 1000
  newId := newId

/-- Two calls for the same rider. -/
def bothCalls : List (Action AssignmentCall AssignmentFailure) :=
  [.submit (sampleCall "first" "one"), .submit (sampleCall "second" "two")]

/-- One call after the other: the second one ends what the first one began. -/
theorem assignments_one_to_one_newFleet :
    Along (step engine handle) (fun _ _ next => OneToOne next.store) ⟨newFleet, []⟩
      (bothCalls ++ List.replicate 7 (.advance 0) ++ List.replicate 7 (.advance 1)) :=
  assignments_one_to_one newFleet_oneToOne _ (along_of_decide (by decide +kernel))

/-- Two calls that look for the rider's assignments before either commits: each update finds
none, and the rider has two bikes. -/
theorem rider_with_two_bikes :
    ¬ ∀ tables, OneToOne tables → ∀ actions,
      Along (step engine handle) (fun _ _ next => OneToOne next.store) ⟨tables, []⟩ actions := by
  intro always
  have twoBikes : ∀ middle next : System AssignmentTables AssignmentChange UniqueViolation
      AssignmentFailure, decide (1 < (activeIds (fun row => row.riderUserId == "rider")
        next.store.assignments).length) = true → ¬ OneToOne next.store :=
    fun _ _ two kept => Nat.not_lt.mpr (kept.riders "rider") (of_decide_eq_true two)
  refine not_along_of_check (⟨newFleet, []⟩ : System _ _ _ _) (bothCalls ++
    List.replicate 4 (Action.advance 0) ++ List.replicate 4 (Action.advance 1) ++
    List.replicate 3 (Action.advance 0) ++ List.replicate 2 (Action.advance 1))
    (.advance 1) twoBikes ?_ (always newFleet newFleet_oneToOne _)
  decide +kernel

end Examples

end EmotoFleet.Riders
