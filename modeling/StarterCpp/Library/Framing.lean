import Mathlib.Algebra.BigOperators.Group.List.Basic
import Mathlib.Algebra.Ring.Nat
import Mathlib.Data.List.TakeDrop
import Mathlib.Data.List.Infix

/-!
# Greedy framing of a symbol stream

A framer recognises one packet at the start of a symbol string and says how many
symbols it takes.  Its fields carry what a stream loop relies on: a packet takes
at least one symbol, never more than there are, and is recognised by its own
symbols whatever follows them.  From these the loop that cuts off packet after
packet is compositional: what it found stays found when the stream grows, and
streams that are consumed whole may be concatenated.
-/

namespace StarterCpp

/-- A parser of one packet that is local to the symbols of the packet. -/
structure Framer (Symbol Packet : Type) where
  parse : List Symbol → Option (Packet × ℕ)
  size_pos : ∀ {data packet size},
    parse data = some (packet, size) → 0 < size
  size_le : ∀ {data packet size},
    parse data = some (packet, size) → size ≤ data.length
  parse_take_append : ∀ {data packet size} (rest : List Symbol),
    parse data = some (packet, size) →
      parse (data.take size ++ rest) = some (packet, size)

namespace Framer

variable {Symbol Packet : Type} (framer : Framer Symbol Packet)

/-- The packets cut off the start of a stream, each with its size. -/
def frames (data : List Symbol) : List (Packet × ℕ) :=
  match _parsed : framer.parse data with
  | none => []
  | some (packet, size) => (packet, size) :: frames (data.drop size)
termination_by data.length
decreasing_by
  have positive := framer.size_pos _parsed
  have within := framer.size_le _parsed
  rw [List.length_drop]
  omega

/-- How many symbols the packets of a stream take. -/
def consumed (data : List Symbol) : ℕ :=
  ((framer.frames data).map Prod.snd).sum

variable {framer}
variable {data : List Symbol} {packet : Packet} {size : ℕ}

theorem frames_of_none (stuck : framer.parse data = none) :
    framer.frames data = [] := by
  rw [frames]
  split
  · rfl
  · simp_all

theorem frames_of_some (parsed : framer.parse data = some (packet, size)) :
    framer.frames data = (packet, size) :: framer.frames (data.drop size) := by
  rw [frames]
  split
  · simp_all
  · simp_all

theorem consumed_of_none (stuck : framer.parse data = none) :
    framer.consumed data = 0 := by
  rw [consumed, frames_of_none stuck, List.map_nil, List.sum_nil]

theorem consumed_of_some (parsed : framer.parse data = some (packet, size)) :
    framer.consumed data = size + framer.consumed (data.drop size) := by
  rw [consumed, frames_of_some parsed, List.map_cons, List.sum_cons, consumed]

/-- A packet is recognised whatever is appended to the stream. -/
theorem parse_append
    (parsed : framer.parse data = some (packet, size))
    (rest : List Symbol) :
    framer.parse (data ++ rest) = some (packet, size) := by
  have again := framer.parse_take_append (data.drop size ++ rest) parsed
  rwa [← List.append_assoc, List.take_append_drop] at again

/-- Nothing is recognised in the empty stream. -/
theorem parse_nil : framer.parse [] = none := by
  cases parsed : framer.parse [] with
  | none => rfl
  | some found =>
      have positive := framer.size_pos parsed
      have within := framer.size_le parsed
      rw [List.length_nil] at within
      omega

@[simp] theorem frames_nil : framer.frames [] = [] :=
  frames_of_none parse_nil

@[simp] theorem consumed_nil : framer.consumed [] = 0 :=
  consumed_of_none parse_nil

/-- The induction rule of the loop: stop, or cut off one packet. -/
theorem stream_induction
    (framer : Framer Symbol Packet)
    {Property : List Symbol → Prop}
    (stop : ∀ data, framer.parse data = none → Property data)
    (cut : ∀ data packet size, framer.parse data = some (packet, size) →
      Property (data.drop size) → Property data)
    (data : List Symbol) :
    Property data := by
  induction data using frames.induct framer with
  | case1 data stuck => exact stop data stuck
  | case2 data packet size parsed inductionHypothesis =>
      exact cut data packet size parsed inductionHypothesis

/-- What holds of every recognised packet holds of every packet of a stream. -/
theorem forall_mem_frames
    {Property : Packet → Prop}
    (recognised : ∀ data packet size,
      framer.parse data = some (packet, size) → Property packet)
    (data : List Symbol) :
    ∀ frame ∈ framer.frames data, Property frame.1 := by
  induction data using framer.stream_induction with
  | stop data stuck => simp [frames_of_none stuck]
  | cut data packet size parsed inductionHypothesis =>
      rw [frames_of_some parsed]
      exact List.forall_mem_cons.mpr
        ⟨recognised data packet size parsed, inductionHypothesis⟩

/-- The packets lie inside the stream. -/
theorem consumed_le (framer : Framer Symbol Packet) (data : List Symbol) :
    framer.consumed data ≤ data.length := by
  induction data using framer.stream_induction with
  | stop data stuck =>
      rw [consumed_of_none stuck]
      exact Nat.zero_le _
  | cut data packet size parsed inductionHypothesis =>
      have within := framer.size_le parsed
      rw [List.length_drop] at inductionHypothesis
      rw [consumed_of_some parsed]
      omega

/-- What was found in a stream stays found when the stream grows. -/
theorem frames_prefix
    (framer : Framer Symbol Packet)
    (data rest : List Symbol) :
    framer.frames data <+: framer.frames (data ++ rest) := by
  induction data using framer.stream_induction with
  | stop data stuck =>
      rw [frames_of_none stuck]
      exact List.nil_prefix
  | cut data packet size parsed inductionHypothesis =>
      rw [frames_of_some parsed, frames_of_some (parse_append parsed rest),
        List.drop_append_of_le_length (framer.size_le parsed)]
      exact (List.prefix_cons_inj _).mpr inductionHypothesis

/-- After a stream that is consumed whole, the loop starts afresh. -/
theorem frames_append
    (whole : framer.consumed data = data.length)
    (rest : List Symbol) :
    framer.frames (data ++ rest) = framer.frames data ++ framer.frames rest := by
  induction data using framer.stream_induction with
  | stop data stuck =>
      rw [consumed_of_none stuck] at whole
      rw [List.eq_nil_of_length_eq_zero whole.symm, frames_nil]
      rfl
  | cut data packet size parsed inductionHypothesis =>
      have within := framer.size_le parsed
      have restWhole :
          framer.consumed (data.drop size) = (data.drop size).length := by
        rw [consumed_of_some parsed] at whole
        rw [List.length_drop]
        omega
      rw [frames_of_some parsed, frames_of_some (parse_append parsed rest),
        List.drop_append_of_le_length within, inductionHypothesis restWhole]
      rfl

theorem consumed_append
    (whole : framer.consumed data = data.length)
    (rest : List Symbol) :
    framer.consumed (data ++ rest) = data.length + framer.consumed rest := by
  have split := congrArg (fun found => (found.map Prod.snd).sum)
    (frames_append whole rest)
  simp only [List.map_append, List.sum_append] at split
  rw [consumed, split, ← whole]
  rfl

/-- Concatenated pieces, each consumed whole, are framed one by one. -/
theorem frames_flatten
    {pieces : List (List Symbol)}
    (whole : ∀ piece ∈ pieces, framer.consumed piece = piece.length)
    (rest : List Symbol) :
    framer.frames (pieces.flatten ++ rest) =
        pieces.flatMap framer.frames ++ framer.frames rest ∧
      framer.consumed (pieces.flatten ++ rest) =
        pieces.flatten.length + framer.consumed rest := by
  induction pieces with
  | nil => simp
  | cons piece pieces inductionHypothesis =>
      have pieceWhole := whole piece List.mem_cons_self
      obtain ⟨restFrames, restConsumed⟩ := inductionHypothesis
        fun later laterMem => whole later (List.mem_cons_of_mem _ laterMem)
      rw [List.flatten_cons, List.append_assoc]
      constructor
      · rw [frames_append pieceWhole, restFrames, List.flatMap_cons,
          List.append_assoc]
      · rw [consumed_append pieceWhole, restConsumed, List.length_append,
          Nat.add_assoc]

/-- A symbol string that is one packet is framed as that packet. -/
theorem frames_single
    (parsed : framer.parse data = some (packet, data.length)) :
    framer.frames data = [(packet, data.length)] ∧
      framer.consumed data = data.length := by
  constructor
  · rw [frames_of_some parsed, List.drop_length, frames_nil]
  · rw [consumed_of_some parsed, List.drop_length, consumed_nil, Nat.add_zero]

/-- A concatenation of packets is framed as these packets. -/
theorem frames_flatten_single
    {Index : Type}
    {symbols : Index → List Symbol}
    {packets : Index → Packet}
    {indices : List Index}
    (parsed : ∀ index ∈ indices, framer.parse (symbols index) =
      some (packets index, (symbols index).length)) :
    framer.frames (indices.map symbols).flatten =
        indices.map (fun index => (packets index, (symbols index).length)) ∧
      framer.consumed (indices.map symbols).flatten =
        (indices.map symbols).flatten.length := by
  induction indices with
  | nil => simp
  | cons index indices inductionHypothesis =>
      obtain ⟨headFrames, headConsumed⟩ :=
        frames_single (parsed index List.mem_cons_self)
      obtain ⟨restFrames, restConsumed⟩ := inductionHypothesis
        fun later laterMem => parsed later (List.mem_cons_of_mem _ laterMem)
      rw [List.map_cons, List.flatten_cons]
      constructor
      · rw [frames_append headConsumed, headFrames, restFrames]
        rfl
      · rw [consumed_append headConsumed, restConsumed, List.length_append]

end Framer
end StarterCpp
