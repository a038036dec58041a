import Mathlib.Data.List.Nodup
import Mathlib.Data.List.Range

/-!
# Consumer groups over a log

Entries are appended to a log and are known by their places in it. A group reads new
entries in the order of the log, each of them once, and an entry that was read stays
pending until it is acknowledged. A consumer works through the batch that it read. An entry
that is pending but in no batch is lost: nothing that happens to the log, the group or the
batch brings it back.

Nothing here mentions a particular program.
-/

namespace EmotoFleet.ConsumerGroups

universe u
variable {α : Type u}

/-- A log, how far it was read, and what was acknowledged. -/
structure ConsumerGroup (α : Type u) where
  log : List α
  cursor : Nat
  acked : List Nat
  deriving DecidableEq

namespace ConsumerGroup

/-- A log without entries. -/
def empty : ConsumerGroup α := ⟨[], 0, []⟩

/-- One more entry. -/
def append (group : ConsumerGroup α) (entry : α) : ConsumerGroup α :=
  { group with log := group.log ++ [entry] }

/-- The new entries that a read returns, with their places. -/
def fresh (group : ConsumerGroup α) (limit : Nat) : List (α × Nat) :=
  ((group.log.drop group.cursor).take limit).zipIdx group.cursor

/-- The group takes the entries after its cursor, at most so many. -/
def read (group : ConsumerGroup α) (limit : Nat) : ConsumerGroup α :=
  { group with cursor := group.cursor + (group.fresh limit).length }

/-- An entry is done with. -/
def acknowledge (group : ConsumerGroup α) (place : Nat) : ConsumerGroup α :=
  { group with acked := group.acked ++ [place] }

/-- All that was read. -/
def delivered (group : ConsumerGroup α) : List (α × Nat) := (group.log.take group.cursor).zipIdx

/-- What was read and not acknowledged. -/
def pending (group : ConsumerGroup α) : List (α × Nat) :=
  group.delivered.filter fun entry => decide (entry.2 ∉ group.acked)

end ConsumerGroup

variable {group : ConsumerGroup α} {batch : List (α × Nat)} {entry : α × Nat} {limit : Nat}

/-- The places of a list of entries. -/
def places (entries : List (α × Nat)) : List Nat := entries.map (·.2)

/-- What was acknowledged and what is in the batch was read, and no entry is in it twice. -/
structure Valid (group : ConsumerGroup α) (batch : List (α × Nat)) : Prop where
  bounded : group.cursor ≤ group.log.length
  known : ∀ place ∈ group.acked ++ places batch, place < group.cursor
  distinct : (group.acked ++ places batch).Nodup

/-- All that was read was acknowledged, in the order of the log, or is in the batch. -/
def Complete (group : ConsumerGroup α) (batch : List (α × Nat)) : Prop :=
  group.acked ++ places batch = places group.delivered

/-- Something that was read is neither acknowledged nor in the batch. -/
def Lost (group : ConsumerGroup α) (batch : List (α × Nat)) : Prop :=
  ∃ place < group.cursor, place ∉ group.acked ∧ place ∉ places batch

/-- All that was read is acknowledged or in the batch. -/
def Kept (group : ConsumerGroup α) (batch : List (α × Nat)) : Prop :=
  ∀ place < group.cursor, place ∈ group.acked ∨ place ∈ places batch

section Places

/-- As many entries are fresh as the limit and the log allow. -/
theorem length_fresh : (group.fresh limit).length = min limit (group.log.length - group.cursor) := by
  rw [ConsumerGroup.fresh, List.length_zipIdx, List.length_take, List.length_drop]

/-- The fresh entries follow the cursor. -/
theorem places_fresh :
    places (group.fresh limit) = List.range' group.cursor (group.fresh limit).length := by
  rw [places, ConsumerGroup.fresh, List.zipIdx_map_snd, List.length_zipIdx]

/-- The delivered entries are those before the cursor. -/
theorem places_delivered (bounded : group.cursor ≤ group.log.length) :
    places group.delivered = List.range group.cursor := by
  rw [places, ConsumerGroup.delivered, List.zipIdx_map_snd, List.length_take,
    Nat.min_eq_left bounded, List.range_eq_range']

/-- A read hands out what comes next. -/
theorem delivered_read (bounded : group.cursor ≤ group.log.length) :
    (group.read limit).delivered = group.delivered ++ group.fresh limit := by
  have next : (group.log.drop group.cursor).take (group.fresh limit).length =
      (group.log.drop group.cursor).take limit := by
    rw [length_fresh, ← List.length_drop, ← List.take_eq_take_min]
  rw [ConsumerGroup.read, ConsumerGroup.delivered, List.take_add, next, List.zipIdx_append,
    List.length_take, Nat.min_eq_left bounded, Nat.zero_add]
  rfl

/-- A new entry is not delivered yet. -/
theorem delivered_append (bounded : group.cursor ≤ group.log.length) (entry : α) :
    (group.append entry).delivered = group.delivered := by
  rw [ConsumerGroup.delivered, ConsumerGroup.append, List.take_append_of_le_length bounded]
  rfl

end Places

section Validity

/-- An empty log is valid. -/
theorem valid_empty : Valid (ConsumerGroup.empty : ConsumerGroup α) [] :=
  ⟨Nat.le_refl 0, fun _ listed => (nomatch listed), List.nodup_nil⟩

/-- A new entry keeps the group valid. -/
theorem valid_append (valid : Valid group batch) (entry : α) : Valid (group.append entry) batch where
  bounded := by
    rw [ConsumerGroup.append, List.length_append]
    exact Nat.le_trans valid.bounded (Nat.le_add_right _ _)
  known := valid.known
  distinct := valid.distinct

/-- The places that a read hands out are new. -/
theorem valid_read (valid : Valid group []) (limit : Nat) :
    Valid (group.read limit) (group.fresh limit) := by
  have known : ∀ place ∈ group.acked, place < group.cursor :=
    fun place listed => valid.known place (List.mem_append_left _ listed)
  constructor
  case bounded =>
    have counted : (group.fresh limit).length = min limit (group.log.length - group.cursor) :=
      length_fresh
    have bounded := valid.bounded
    rw [ConsumerGroup.read]
    dsimp only
    omega
  case known =>
    intro place listed
    cases List.mem_append.mp listed with
    | inl earlier => exact Nat.lt_of_lt_of_le (known place earlier) (Nat.le_add_right _ _)
    | inr new =>
      rw [places_fresh, List.mem_range'_1] at new
      exact new.2
  case distinct =>
    rw [places_fresh]
    refine List.nodup_append.mpr ⟨?_, List.nodup_range', ?_⟩
    · exact (List.nodup_append.mp valid.distinct).1
    · intro earlier earlierListed new newListed same
      have before := known earlier earlierListed
      have after := (List.mem_range'_1.mp newListed).1
      omega

/-- An acknowledgement moves a place from the batch to the acknowledged. -/
theorem acked_acknowledge :
    (group.acknowledge entry.2).acked ++ places batch = group.acked ++ places (entry :: batch) := by
  rw [ConsumerGroup.acknowledge, places, places, List.map_cons, List.append_assoc]
  rfl

/-- An acknowledgement keeps the group valid. -/
theorem valid_acknowledge (valid : Valid group (entry :: batch)) :
    Valid (group.acknowledge entry.2) batch where
  bounded := valid.bounded
  known := by
    rw [acked_acknowledge]
    exact valid.known
  distinct := by
    rw [acked_acknowledge]
    exact valid.distinct

/-- A consumer may forget some of its batch. -/
theorem valid_forget {rest : List (α × Nat)} (valid : Valid group batch) (kept : rest.Sublist batch) :
    Valid group rest := by
  have shorter : (group.acked ++ places rest).Sublist (group.acked ++ places batch) :=
    (kept.map _).append_left _
  exact ⟨valid.bounded, fun place listed => valid.known place (shorter.subset listed),
    valid.distinct.sublist shorter⟩

end Validity

section Completeness

/-- Nothing is missing from an empty log. -/
theorem complete_empty : Complete (ConsumerGroup.empty : ConsumerGroup α) [] := rfl

/-- A new entry leaves nothing missing. -/
theorem complete_append (bounded : group.cursor ≤ group.log.length) (complete : Complete group batch)
    (entry : α) : Complete (group.append entry) batch := by
  rw [Complete, delivered_append bounded]
  exact complete

/-- A read leaves nothing missing. -/
theorem complete_read (bounded : group.cursor ≤ group.log.length) (complete : Complete group [])
    (limit : Nat) : Complete (group.read limit) (group.fresh limit) := by
  rw [Complete, places, List.map_nil, List.append_nil] at complete
  rw [Complete, delivered_read bounded, places, places, List.map_append, ← places, ← places,
    ← complete]
  rfl

/-- An acknowledgement leaves nothing missing. -/
theorem complete_acknowledge (complete : Complete group (entry :: batch)) :
    Complete (group.acknowledge entry.2) batch :=
  acked_acknowledge.trans complete

end Completeness

/-! ## What is kept -/

section Keeping

/-- Entries are kept exactly when none is lost. -/
theorem kept_iff_not_lost : Kept group batch ↔ ¬ Lost group batch := by
  constructor
  · rintro kept ⟨place, below, unacked, absent⟩
    cases kept place below with
    | inl acked => exact unacked acked
    | inr present => exact absent present
  · intro noLoss place below
    by_contra neither
    rw [not_or] at neither
    exact noLoss ⟨place, below, neither.1, neither.2⟩

/-- A read keeps entries exactly when they were kept. -/
theorem kept_read_iff (limit : Nat) :
    Kept (group.read limit) (group.fresh limit) ↔ Kept group [] := by
  constructor
  · intro kept place below
    left
    cases kept place (Nat.lt_of_lt_of_le below (Nat.le_add_right _ _)) with
    | inl acked => exact acked
    | inr present =>
      rw [places_fresh, List.mem_range'_1] at present
      exact absurd present.1 (Nat.not_le.mpr below)
  · intro kept place below
    by_cases earlier : place < group.cursor
    case pos =>
      cases kept place earlier with
      | inl acked => exact .inl acked
      | inr absent => cases absent
    case neg =>
      right
      rw [places_fresh, List.mem_range'_1]
      exact ⟨Nat.not_lt.mp earlier, below⟩

/-- An acknowledgement keeps entries exactly when they were kept. -/
theorem kept_acknowledge_iff :
    Kept (group.acknowledge entry.2) batch ↔ Kept group (entry :: batch) := by
  have same := @acked_acknowledge _ group batch entry
  apply forall₂_congr
  intro place _
  rw [← List.mem_append, ← List.mem_append, same]

end Keeping

/-! ## What is pending -/

section Pending

/-- What is pending was delivered and not acknowledged. -/
theorem mem_places_pending (bounded : group.cursor ≤ group.log.length) {place : Nat} :
    place ∈ places group.pending ↔ place < group.cursor ∧ place ∉ group.acked := by
  rw [← List.mem_range, ← places_delivered bounded]
  constructor
  · intro listed
    obtain ⟨entry, found, rfl⟩ := List.mem_map.mp listed
    obtain ⟨delivered, unacked⟩ := List.mem_filter.mp found
    exact ⟨List.mem_map_of_mem delivered, of_decide_eq_true unacked⟩
  · rintro ⟨listed, unacked⟩
    obtain ⟨entry, delivered, rfl⟩ := List.mem_map.mp listed
    exact List.mem_map_of_mem (List.mem_filter.mpr ⟨delivered, decide_eq_true unacked⟩)

/-- Nothing is pending twice. -/
theorem nodup_places_pending (bounded : group.cursor ≤ group.log.length) :
    (places group.pending).Nodup := by
  have sublist : (places group.pending).Sublist (places group.delivered) :=
    List.filter_sublist.map _
  rw [places_delivered bounded] at sublist
  exact List.nodup_range.sublist sublist

/-- A consumer that has nothing in its batch may take over what is pending. -/
theorem valid_claim (valid : Valid group []) {claimed : List (α × Nat)}
    (some : claimed.Sublist group.pending) : Valid group claimed := by
  have distinct := valid.distinct
  have known := valid.known
  rw [places, List.map_nil, List.append_nil] at distinct known
  have taken : ∀ place ∈ places claimed, place < group.cursor ∧ place ∉ group.acked :=
    fun place listed => (mem_places_pending valid.bounded).mp ((some.map _).subset listed)
  constructor
  case bounded => exact valid.bounded
  case known =>
    intro place listed
    cases List.mem_append.mp listed with
    | inl acked => exact known place acked
    | inr present => exact (taken place present).1
  case distinct =>
    refine List.nodup_append.mpr ⟨distinct, ?_, ?_⟩
    · exact (nodup_places_pending valid.bounded).sublist (some.map _)
    · rintro place acked other present rfl
      exact (taken place present).2 acked

/-- A new entry is not pending. -/
theorem pending_append (bounded : group.cursor ≤ group.log.length) (entry : α) :
    (group.append entry).pending = group.pending := by
  rw [ConsumerGroup.pending, delivered_append bounded]
  rfl

/-- Taking over is complete just if it is taking over all. -/
theorem kept_claim_iff (valid : Valid group []) {claimed : List (α × Nat)}
    (some : claimed.Sublist group.pending) : Kept group claimed ↔ claimed = group.pending := by
  constructor
  · intro kept
    apply some.eq_of_length_le
    have covered : places group.pending ⊆ places claimed := by
      intro place listed
      obtain ⟨below, unacked⟩ := (mem_places_pending valid.bounded).mp listed
      exact (kept place below).resolve_left unacked
    have shorter := (nodup_places_pending valid.bounded).length_le_of_subset covered
    rwa [places, places, List.length_map, List.length_map] at shorter
  · rintro rfl place below
    by_cases acked : place ∈ group.acked
    case pos => exact .inl acked
    case neg => exact .inr ((mem_places_pending valid.bounded).mpr ⟨below, acked⟩)

end Pending

/-! ## What is lost stays lost -/

section Losses

/-- A lost entry stays lost when one is added. -/
theorem lost_append (lost : Lost group batch) (entry : α) : Lost (group.append entry) batch := lost

/-- A lost entry stays lost when others are read. -/
theorem lost_read (lost : Lost group []) (limit : Nat) :
    Lost (group.read limit) (group.fresh limit) := by
  obtain ⟨place, below, unacked, -⟩ := lost
  refine ⟨place, Nat.lt_of_lt_of_le below (Nat.le_add_right _ _), unacked, ?_⟩
  rw [places_fresh, List.mem_range'_1]
  exact fun new => Nat.not_le.mpr below new.1

/-- A lost entry stays lost when another is acknowledged. -/
theorem lost_acknowledge (lost : Lost group (entry :: batch)) :
    Lost (group.acknowledge entry.2) batch := by
  obtain ⟨place, below, unacked, absent⟩ := lost
  rw [places, List.map_cons, List.mem_cons, not_or] at absent
  refine ⟨place, below, ?_, absent.2⟩
  rw [ConsumerGroup.acknowledge, List.mem_append, List.mem_singleton]
  exact not_or.mpr ⟨unacked, absent.1⟩

/-- A lost entry stays lost when the batch shrinks. -/
theorem lost_forget {rest : List (α × Nat)} (lost : Lost group batch) (kept : rest.Sublist batch) :
    Lost group rest := by
  obtain ⟨place, below, unacked, absent⟩ := lost
  exact ⟨place, below, unacked, fun present => absent ((kept.map _).subset present)⟩

/-- An entry of the batch that is forgotten without an acknowledgement is lost. -/
theorem lost_of_forgotten {rest : List (α × Nat)} (valid : Valid group (entry :: batch))
    (kept : rest.Sublist batch) : Lost group rest := by
  have distinct := List.nodup_append.mp valid.distinct
  have listed : entry.2 ∈ places (entry :: batch) := List.mem_cons_self
  refine ⟨entry.2, valid.known _ (List.mem_append_right _ listed), ?_, ?_⟩
  · exact fun acked => distinct.2.2 _ acked _ listed rfl
  · intro present
    have unique := distinct.2.1
    rw [places, List.map_cons, List.nodup_cons] at unique
    exact unique.1 ((kept.map _).subset present)

/-- So is what a read hands out to nobody. -/
theorem lost_of_unread {rest : List (α × Nat)} (valid : Valid group [])
    (handedOut : group.fresh limit = entry :: rest) : Lost (group.read limit) [] :=
  lost_of_forgotten (handedOut ▸ valid_read valid limit) (List.nil_sublist _)

end Losses

/-! ## What a consumer can do -/

section Handling

/-- One step of a consumer: an entry comes in, new ones are read of which the consumer may
miss some, the first of the batch is acknowledged, or some of the batch are forgotten. -/
inductive Handled (group : ConsumerGroup α) :
    List (α × Nat) → ConsumerGroup α → List (α × Nat) → Prop
  | append (batch : List (α × Nat)) (entry : α) : Handled group batch (group.append entry) batch
  | read (limit : Nat) (rest : List (α × Nat)) (kept : rest.Sublist (group.fresh limit)) :
      Handled group [] (group.read limit) rest
  | acknowledge (entry : α × Nat) (rest : List (α × Nat)) :
      Handled group (entry :: rest) (group.acknowledge entry.2) rest
  | forget (batch rest : List (α × Nat)) (kept : rest.Sublist batch) :
      Handled group batch group rest

variable {next : ConsumerGroup α} {rest : List (α × Nat)}

/-- Handling entries keeps the group valid. -/
theorem valid_handled (handled : Handled group batch next rest) (valid : Valid group batch) :
    Valid next rest := by
  cases handled with
  | append _ entry => exact valid_append valid entry
  | read limit _ kept => exact valid_forget (valid_read valid limit) kept
  | acknowledge _ _ => exact valid_acknowledge valid
  | forget _ _ kept => exact valid_forget valid kept

/-- Handling other entries brings no lost one back. -/
theorem lost_handled (handled : Handled group batch next rest) (lost : Lost group batch) :
    Lost next rest := by
  cases handled with
  | append _ entry => exact lost_append lost entry
  | read limit _ kept => exact lost_forget (lost_read lost limit) kept
  | acknowledge _ _ => exact lost_acknowledge lost
  | forget _ _ kept => exact lost_forget lost kept

end Handling

end EmotoFleet.ConsumerGroups
