import Mathlib.Data.List.Chain
import Mathlib.Order.Basic

/-!
# Numbered tiles

A tile is a numbered period. Tiles lie edge to edge when each follows the one before
it: its number is the next one and it starts where that one finishes. Several writers
may each choose a tile that follows some tile of the list; as long as a number in use
is refused, what they append lies edge to edge, because only the last tile has a
successor whose number is free.

Nothing here mentions a particular program.
-/

namespace EmotoFleet.Tiling

structure Tile (τ : Type*) where
  number : Nat
  start : τ
  finish : τ

variable {τ : Type*}

/-- The later tile has the next number and starts where the earlier one finishes. -/
def Follows (earlier later : Tile τ) : Prop :=
  later.number = earlier.number + 1 ∧ later.start = earlier.finish

/-- Each tile follows the one before it, and none is empty. -/
structure Tiled [LT τ] (tiles : List (Tile τ)) : Prop where
  chain : tiles.IsChain Follows
  nonempty : ∀ tile ∈ tiles, tile.start < tile.finish

variable [LT τ] {tiles : List (Tile τ)} {tile base : Tile τ}

theorem tiled_nil : Tiled ([] : List (Tile τ)) :=
  ⟨List.IsChain.nil, fun _ member => absurd member List.not_mem_nil⟩

theorem tiled_singleton (nonempty : tile.start < tile.finish) : Tiled [tile] := by
  refine ⟨List.IsChain.singleton tile, ?_⟩
  intro other member
  rw [List.mem_singleton.mp member]
  exact nonempty

/-- A tile that comes before others has its successor's number in use. -/
theorem Tiled.last_of_free (tiled : Tiled tiles) (member : base ∈ tiles)
    (free : ∀ other ∈ tiles, other.number ≠ base.number + 1) : tiles.getLast? = some base := by
  obtain ⟨before, after, rfl⟩ := List.append_of_mem member
  cases after with
  | nil => simp
  | cons next rest =>
    have onward : (base :: next :: rest).IsChain Follows := tiled.chain.right_of_append
    have follows : Follows base next := (List.isChain_cons_cons.mp onward).1
    exact absurd follows.1 (free next (by simp))

/-- The tiles stay edge to edge when a tile is appended that follows any of them and
whose number is free. -/
theorem Tiled.append_of_free (tiled : Tiled tiles) (member : base ∈ tiles)
    (follows : Follows base tile) (nonempty : tile.start < tile.finish)
    (free : ∀ other ∈ tiles, other.number ≠ tile.number) : Tiled (tiles ++ [tile]) := by
  have last : tiles.getLast? = some base := by
    apply tiled.last_of_free member
    intro other present
    rw [← follows.1]
    exact free other present
  constructor
  · apply tiled.chain.append (List.IsChain.singleton tile)
    intro earlier isLast later isFirst
    obtain rfl := Option.some.inj (last.symm.trans isLast)
    obtain rfl := Option.some.inj isFirst
    exact follows
  · intro other present
    cases List.mem_append.mp present with
    | inl old => exact tiled.nonempty other old
    | inr new =>
      rw [List.mem_singleton.mp new]
      exact nonempty

/-- Neighbours meet. -/
theorem Tiled.follows (tiled : Tiled tiles) {position : Nat} {later : Tile τ}
    (found : tiles[position]? = some tile) (next : tiles[position + 1]? = some later) :
    Follows tile later := by
  obtain ⟨bound, rfl⟩ := List.getElem?_eq_some_iff.mp found
  obtain ⟨onward, rfl⟩ := List.getElem?_eq_some_iff.mp next
  exact List.isChain_iff_getElem.mp tiled.chain position onward

/-- The numbers count on from the first one. By induction on the position. -/
theorem Tiled.number_eq (tiled : Tiled tiles) {first : Tile τ} (begins : tiles.head? = some first)
    (position : Nat) (found : tiles[position]? = some tile) :
    tile.number = first.number + position := by
  induction position generalizing tile with
  | zero =>
    rw [← List.head?_eq_getElem?, begins] at found
    rw [Option.some.inj found, Nat.add_zero]
  | succ position inductionHypothesis =>
    obtain ⟨bound, _⟩ := List.getElem?_eq_some_iff.mp found
    have earlier : tiles[position]? = some tiles[position] := List.getElem?_eq_getElem (by omega)
    rw [(tiled.follows earlier found).1, inductionHypothesis earlier, Nat.add_assoc]

end EmotoFleet.Tiling
