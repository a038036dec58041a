import EmotoFleet.Foundations.Framing
import EmotoFleet.Telemetry.SinoTrack

/-!
# The packets of a socket

A tracker sends packets that end with `#`. What arrives is appended to a buffer, and the
packets that are complete are taken off its front. Before that a received chunk and what
is in the buffer are measured together: beyond 2048 bytes the socket is destroyed, however
many packets would be complete. As long as that does not happen, the packets do not depend
on where the network cuts the stream.
-/

namespace EmotoFleet.SinoTrack

open Framing

/-- What the handler of a socket's data keeps, and the packets that it passed on. -/
structure SocketState where
  buffer : Letters
  destroyed : Bool
  packets : List Letters
  deriving DecidableEq

def maximumAccumulatorSize : Nat := 2048

/-- The ASCII decoder drops the highest bit of each byte. -/
def toAscii (chunk : List UInt8) : Letters :=
  chunk.map fun byte => Char.ofNat (byte.toNat % 128)

/-- The loop over the boundaries in the buffer. -/
def extractPackets (buffer : Letters) : List Letters × Letters :=
  match boundary : buffer.findIdx? (· == '#') with
  | none => ([], buffer)
  | some boundaryIndex =>
    let rawPacket := buffer.take (boundaryIndex + 1)
    let following := extractPackets (buffer.drop (boundaryIndex + 1))
    (rawPacket :: following.1, following.2)
  termination_by buffer.length
  decreasing_by
    have inside := (List.findIdx?_eq_some_iff_findIdx_eq.mp boundary).1
    rw [List.length_drop]
    omega

/-- A chunk of data. A destroyed socket receives no more. -/
def receive (state : SocketState) (chunk : List UInt8) : SocketState :=
  if state.destroyed then state
  else if maximumAccumulatorSize < state.buffer.length + chunk.length then
    { state with destroyed := true }
  else
    let extracted := extractPackets (state.buffer ++ toAscii chunk)
    { state with buffer := extracted.2, packets := state.packets ++ extracted.1 }

def receiveAll (chunks : List (List UInt8)) : SocketState :=
  chunks.foldl receive ⟨[], false, []⟩

def endsPacket (letter : Char) : Bool := letter == '#'

/-- The packets of a whole stream, and what follows the last of them. -/
def packetsOf (stream : List UInt8) : List Letters := frames endsPacket (toAscii stream)

def carriedOver (stream : List UInt8) : Letters := unfinished endsPacket (toAscii stream)

/-- No chunk is too long together with what follows the last packet before it. -/
def WithinCap (chunks : List (List UInt8)) : Prop :=
  ∀ before chunk after, chunks = before ++ chunk :: after →
    (carriedOver before.flatten).length + chunk.length ≤ maximumAccumulatorSize

/-- The loop takes off the frames of the buffer. -/
theorem extractPackets_eq (buffer : Letters) :
    extractPackets buffer = (frames endsPacket buffer, unfinished endsPacket buffer) := by
  fun_induction extractPackets buffer with
  | case1 buffer missing =>
    have free : ∀ letter ∈ buffer, endsPacket letter = false := by
      simpa [endsPacket] using missing
    rw [frames, unfinished, feed_free free]
    rfl
  | case2 buffer boundaryIndex boundary rawPacket following inductionHypothesis =>
    obtain ⟨inside, delimits, earlier⟩ :=
      List.findIdx?_eq_some_iff_getElem.mp boundary
    have free : ∀ letter ∈ buffer.take boundaryIndex, endsPacket letter = false := by
      intro letter listed
      obtain ⟨position, valid, rfl⟩ := List.mem_take_iff_getElem.mp listed
      exact Bool.eq_false_iff.mpr (earlier position (by omega))
    have parted : buffer =
        buffer.take boundaryIndex ++ buffer[boundaryIndex] ::
          buffer.drop (boundaryIndex + 1) := by
      rw [← List.drop_eq_getElem_cons inside, List.take_append_drop]
    have packet : rawPacket = buffer.take boundaryIndex ++ [buffer[boundaryIndex]] :=
      List.take_succ_eq_append_getElem inside
    have split := feed_delimited free delimits (buffer.drop (boundaryIndex + 1))
    rw [← parted] at split
    rw [frames, unfinished, split, packet]
    rw [show following = _ from inductionHypothesis]

/-- What one chunk does: either the socket is destroyed, or the packets that the chunk
completes are passed on. -/
theorem receive_eq {state : SocketState} (alive : state.destroyed = false)
    (chunk : List UInt8) :
    receive state chunk =
      if maximumAccumulatorSize < state.buffer.length + chunk.length then
        { state with destroyed := true }
      else
        { state with
          buffer := unfinished endsPacket (state.buffer ++ toAscii chunk)
          packets := state.packets ++ frames endsPacket (state.buffer ++ toAscii chunk) } := by
  rw [receive, if_neg (Bool.eq_false_iff.mp alive), extractPackets_eq]

/-- A destroyed socket stays as it is. -/
theorem receive_destroyed {state : SocketState} (destroyed : state.destroyed = true)
    (chunk : List UInt8) : receive state chunk = state := by
  rw [receive, if_pos destroyed]

theorem receiveAll_snoc (chunks : List (List UInt8)) (chunk : List UInt8) :
    receiveAll (chunks ++ [chunk]) = receive (receiveAll chunks) chunk := by
  rw [receiveAll, List.foldl_append]
  rfl

theorem toAscii_append (left right : List UInt8) :
    toAscii (left ++ right) = toAscii left ++ toAscii right :=
  List.map_append

/-- Within the cap so far, and with one more chunk. -/
theorem withinCap_snoc (chunks : List (List UInt8)) (chunk : List UInt8) :
    WithinCap (chunks ++ [chunk]) ↔
      WithinCap chunks ∧
        (carriedOver chunks.flatten).length + chunk.length ≤ maximumAccumulatorSize := by
  constructor
  case mp =>
    intro within
    constructor
    case left =>
      rintro before middle after rfl
      exact within before middle (after ++ [chunk]) (by simp)
    case right => exact within chunks chunk [] rfl
  case mpr =>
    rintro ⟨within, last⟩ before middle after split
    induction after using List.reverseRecOn with
    | nil =>
      obtain ⟨rfl, equal⟩ := List.append_inj' split rfl
      obtain rfl := List.singleton_inj.mp equal
      exact last
    | append_singleton rest final _ =>
      rw [← List.cons_append, ← List.append_assoc] at split
      exact within before middle rest (List.append_inj' split rfl).1

/-- While the chunks are within the cap, the socket has passed on the packets of the stream
and keeps what follows them. -/
theorem receiveAll_within {chunks : List (List UInt8)} (within : WithinCap chunks) :
    receiveAll chunks =
      ⟨carriedOver chunks.flatten, false, packetsOf chunks.flatten⟩ := by
  induction chunks using List.reverseRecOn with
  | nil => rfl
  | append_singleton earlier chunk inductionHypothesis =>
    obtain ⟨before, fits⟩ := (withinCap_snoc earlier chunk).mp within
    have letters : toAscii (earlier ++ [chunk]).flatten =
        toAscii earlier.flatten ++ toAscii chunk := by
      rw [List.flatten_append, List.flatten_singleton, toAscii_append]
    rw [receiveAll_snoc, inductionHypothesis before, receive_eq rfl,
      if_neg (Nat.not_lt.mpr fits)]
    congr 1
    case e_buffer =>
      rw [carriedOver, carriedOver, letters]
      exact (unfinished_append _ _).symm
    case e_packets =>
      rw [packetsOf, packetsOf, letters]
      exact (frames_append _ _).symm

/-- The first chunk beyond the cap destroys the socket. -/
theorem receiveAll_beyond {chunks : List (List UInt8)} (beyond : ¬ WithinCap chunks) :
    (receiveAll chunks).destroyed = true := by
  induction chunks using List.reverseRecOn with
  | nil =>
    refine absurd (fun before chunk after split => ?_) beyond
    cases before <;> cases split
  | append_singleton earlier chunk inductionHypothesis =>
    rw [receiveAll_snoc]
    by_cases before : WithinCap earlier
    case neg =>
      rw [receive_destroyed (inductionHypothesis before)]
      exact inductionHypothesis before
    case pos =>
      have long : maximumAccumulatorSize <
          (carriedOver earlier.flatten).length + chunk.length := by
        by_contra fits
        exact beyond ((withinCap_snoc earlier chunk).mpr ⟨before, Nat.not_lt.mp fits⟩)
      rw [receiveAll_within before, receive_eq rfl, if_pos long]

/-- The packets of a stream do not depend on where it is cut, and the socket is not
destroyed, exactly if no chunk is too long together with what the chunks before it left
unfinished. -/
theorem packets_of_chunks_iff (chunks : List (List UInt8)) :
    ((receiveAll chunks).destroyed = false ∧
        (receiveAll chunks).packets = packetsOf chunks.flatten) ↔
      WithinCap chunks := by
  constructor
  case mp =>
    rintro ⟨alive, -⟩
    by_contra beyond
    rw [receiveAll_beyond beyond] at alive
    cases alive
  case mpr =>
    intro within
    rw [receiveAll_within within]
    exact ⟨rfl, rfl⟩

/-- Short packets are the packets of any stream of delimiters. -/
theorem packets_of_delimiters (count : Nat) :
    packetsOf (List.replicate count 35) = List.replicate count ['#'] := by
  induction count with
  | zero => rfl
  | succ count inductionHypothesis =>
    have free : ∀ letter ∈ ([] : List Char), endsPacket letter = false := by
      intro letter listed
      cases listed
    have delimits : endsPacket '#' = true := rfl
    have delimited := feed_delimited free delimits (toAscii (List.replicate count 35))
    rw [List.replicate_succ, List.replicate_succ, ← inductionHypothesis]
    exact congrArg Prod.fst delimited

/-- Packets of one byte that arrive together destroy the socket. -/
theorem short_packets_destroyed :
    ¬ ∀ chunks : List (List UInt8),
      (∀ packet ∈ packetsOf chunks.flatten, packet.length ≤ maximumAccumulatorSize) →
        (receiveAll chunks).destroyed = false ∧
          (receiveAll chunks).packets = packetsOf chunks.flatten := by
  intro independent
  have short : ∀ packet ∈ packetsOf [List.replicate 2049 35].flatten,
      packet.length ≤ maximumAccumulatorSize := by
    intro packet listed
    rw [List.flatten_singleton, packets_of_delimiters] at listed
    rw [List.eq_of_mem_replicate listed]
    decide
  have beyond : ¬ WithinCap [List.replicate 2049 35] := by
    intro within
    have fits := within [] (List.replicate 2049 35) [] rfl
    rw [List.length_replicate] at fits
    exact absurd fits (by decide)
  have alive := (independent [List.replicate 2049 35] short).1
  rw [receiveAll_beyond beyond] at alive
  cases alive

end EmotoFleet.SinoTrack
