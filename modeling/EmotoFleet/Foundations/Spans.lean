import EmotoFleet.Foundations.Tables
import Mathlib.Data.List.Pairwise
import Mathlib.Order.Lattice

/-!
# Spans of time in the order they were lived through

A span runs from its start to its stop, the stop excluded. A chronicle is a list of
spans none of which is empty and each of which is over before the next one starts.
Spans of a chronicle are apart from one another, and a start occurs once.

Nothing here mentions a particular program.
-/

namespace EmotoFleet.Spans

structure Span (τ : Type*) where
  start : τ
  stop : τ
deriving DecidableEq

variable {τ : Type*} {spans : List (Span τ)} {span : Span τ}

/-- Where no two starts are the same, a span is the only one with its start. -/
theorem filter_start_eq [DecidableEq τ] (distinct : (spans.map (·.start)).Nodup)
    (member : span ∈ spans) : spans.filter (·.start = span.start) = [span] :=
  Tables.filter_key_eq distinct member

variable [LinearOrder τ]

/-- The first span is over when the second one starts. -/
def Span.Before (first second : Span τ) : Prop := first.stop ≤ second.start

/-- The spans have no instant in common. -/
def Span.Apart (one other : Span τ) : Prop := one.Before other ∨ other.Before one

instance : Std.Symm (@Span.Apart τ _) := ⟨fun _ _ apart => Or.symm apart⟩

structure Chronicle (spans : List (Span τ)) : Prop where
  ordered : spans.Pairwise Span.Before
  proper : ∀ span ∈ spans, span.start < span.stop

theorem chronicle_nil : Chronicle ([] : List (Span τ)) :=
  ⟨List.Pairwise.nil, fun _ member => absurd member List.not_mem_nil⟩

/-- A span that starts after all others are over is added at the end. -/
theorem Chronicle.append (chronicle : Chronicle spans) (proper : span.start < span.stop)
    (later : ∀ earlier ∈ spans, earlier.Before span) : Chronicle (spans ++ [span]) := by
  constructor
  · apply List.pairwise_append.mpr
    refine ⟨chronicle.ordered, List.pairwise_singleton _ _, ?_⟩
    intro earlier member last only
    rw [List.mem_singleton.mp only]
    exact later earlier member
  · intro other member
    cases List.mem_append.mp member with
    | inl old => exact chronicle.proper other old
    | inr new =>
      rw [List.mem_singleton.mp new]
      exact proper

theorem Chronicle.apart (chronicle : Chronicle spans) : spans.Pairwise Span.Apart :=
  chronicle.ordered.imp fun before => Or.inl before

/-- The starts of a chronicle ascend, so no two are the same. -/
theorem Chronicle.starts_nodup (chronicle : Chronicle spans) : (spans.map (·.start)).Nodup := by
  apply List.pairwise_map.mpr
  apply chronicle.ordered.imp_of_mem
  intro first second member _ before
  exact ne_of_lt (lt_of_lt_of_le (chronicle.proper first member) before)

theorem Chronicle.apart_of_ne (chronicle : Chronicle spans) {one other : Span τ}
    (present : one ∈ spans) (also : other ∈ spans) (different : one ≠ other) : one.Apart other :=
  chronicle.apart.forall present also different

/-- What starts after every span is over starts at none of their starts. -/
theorem Chronicle.start_ne (chronicle : Chronicle spans) {instant : τ}
    (later : ∀ span ∈ spans, span.stop ≤ instant) (member : span ∈ spans) : span.start ≠ instant :=
  ne_of_lt (lt_of_lt_of_le (chronicle.proper span member) (later span member))

end EmotoFleet.Spans
