import Mathlib.Data.List.Basic

/-!
# Streams cut into frames

A stream consists of frames, each of which ends with a delimiter; what follows the last
delimiter is still unfinished. Reading letter by letter, with what is pending from before,
gives the frames and what is pending afterwards. A stream may be read in pieces: what a
piece leaves pending is the beginning of the next one.

Nothing here mentions a particular program.
-/

namespace EmotoFleet.Framing

universe u
variable {α : Type u} {ends : α → Bool}

/-- The frames that a stream completes, and what it leaves pending. -/
def feed (ends : α → Bool) : List α → List α → List (List α) × List α
  | pending, [] => ([], pending)
  | pending, letter :: rest =>
    if ends letter then
      ((pending ++ [letter]) :: (feed ends [] rest).1, (feed ends [] rest).2)
    else feed ends (pending ++ [letter]) rest

/-- The frames of a stream. -/
def frames (ends : α → Bool) (stream : List α) : List (List α) := (feed ends [] stream).1

/-- What follows the last delimiter of a stream. -/
def unfinished (ends : α → Bool) (stream : List α) : List α := (feed ends [] stream).2

/-- One piece after another. -/
theorem feed_append (pending left right : List α) :
    feed ends pending (left ++ right) =
      ((feed ends pending left).1 ++ (feed ends (feed ends pending left).2 right).1,
        (feed ends (feed ends pending left).2 right).2) := by
  induction left generalizing pending with
  | nil => rfl
  | cons letter rest inductionHypothesis =>
    rw [List.cons_append, feed, feed]
    split
    case isTrue => rw [inductionHypothesis, List.cons_append]
    case isFalse => exact inductionHypothesis _

/-- Without a delimiter everything stays pending. -/
theorem feed_free {stream : List α} (free : ∀ letter ∈ stream, ends letter = false)
    (pending : List α) : feed ends pending stream = ([], pending ++ stream) := by
  induction stream generalizing pending with
  | nil => rw [feed, List.append_nil]
  | cons letter rest inductionHypothesis =>
    rw [feed, free letter List.mem_cons_self, if_neg Bool.false_ne_true,
      inductionHypothesis fun other listed => free other (List.mem_cons_of_mem _ listed),
      List.append_assoc]
    rfl

/-- The first delimiter completes a frame. -/
theorem feed_delimited {before : List α} (free : ∀ letter ∈ before, ends letter = false)
    {delimiter : α} (delimits : ends delimiter = true) (rest : List α) :
    feed ends [] (before ++ delimiter :: rest) =
      ((before ++ [delimiter]) :: frames ends rest, unfinished ends rest) := by
  rw [feed_append, feed_free free, feed, if_pos delimits]
  rfl

/-- What is pending has no delimiter. -/
theorem unfinished_free {pending : List α} (free : ∀ letter ∈ pending, ends letter = false)
    (stream : List α) : ∀ letter ∈ (feed ends pending stream).2, ends letter = false := by
  induction stream generalizing pending with
  | nil => exact free
  | cons letter rest inductionHypothesis =>
    rw [feed]
    split
    case isTrue => exact inductionHypothesis fun _ listed => nomatch listed
    case isFalse other =>
      apply inductionHypothesis
      intro each listed
      cases List.mem_append.mp listed with
      | inl earlier => exact free each earlier
      | inr last =>
        rw [List.mem_singleton.mp last]
        exact Bool.eq_false_iff.mpr other

theorem unfinished_empty (stream : List α) :
    ∀ letter ∈ (feed ends [] stream).2, ends letter = false := by
  apply unfinished_free
  intro letter listed
  cases listed

/-- What was pending may be read again as the beginning of a stream. -/
theorem feed_pending {pending : List α} (free : ∀ letter ∈ pending, ends letter = false)
    (stream : List α) : feed ends [] (pending ++ stream) = feed ends pending stream := by
  rw [feed_append, feed_free free]
  rfl

/-- The frames of a stream that is continued: those of the beginning, and those of the rest
with what the beginning left unfinished. -/
theorem frames_append (left right : List α) :
    frames ends (left ++ right) =
      frames ends left ++ frames ends (unfinished ends left ++ right) := by
  rw [frames, feed_append, frames, frames, unfinished, feed_pending (unfinished_empty left)]

theorem unfinished_append (left right : List α) :
    unfinished ends (left ++ right) = unfinished ends (unfinished ends left ++ right) := by
  rw [unfinished, feed_append, unfinished, unfinished, feed_pending (unfinished_empty left)]

end EmotoFleet.Framing
