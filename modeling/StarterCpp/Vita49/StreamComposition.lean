import StarterCpp.Vita49.ContextRoundTrip
import StarterCpp.Vita49.SignalSplitting

/-!
# Streams compose

What the stream loop returns for a concatenation is put together from what it
returns for the parts.  The outputs of the encoders are consumed whole, so any
sequence of calls can be written one after the other.
-/

namespace StarterCpp
namespace Vita49
namespace Vita49Codec

variable {F D : Type} [FloatArithmetic F] [FloatArithmetic D]

/-- What an encoder of the codec returned: signal data under a non-zero scale
factor, or context. -/
inductive EncoderOutput
    (D : Type)
    [FloatArithmetic D]
    (codec : Vita49Codec F) : List UInt8 → Prop
  | signal
      (nonzero : FloatArithmetic.isZero codec.scaleFactor = false)
      (call : SignalCall F) : EncoderOutput D codec (call.encoded codec)
  | context (call : ContextCall D) : EncoderOutput D codec (call.encoded codec)

variable {codec : Vita49Codec F}

theorem EncoderOutput.consumed
    {output : List UInt8}
    (isOutput : EncoderOutput D codec output) :
    (codec.framer : Framer UInt8 (ParsedPacket F D)).consumed output =
      output.length := by
  cases isOutput with
  | signal nonzero call => exact (call.frames_encoded nonzero).2
  | context call => exact (call.frames_encoded codec).2

theorem parseStream_of_short
    {stray : List UInt8}
    (short : stray.length < 4) :
    (codec.parseStream stray : List (ParsedPacket F D)) = [] := by
  rw [(streamRun_eq_frames codec stray).1,
    Framer.frames_of_none (recognise_of_short short), List.map_nil]

/-- Framing is compositional.  A packet is recognised from its own bytes; what a
stream begins with is found whatever follows; a stream that is consumed whole
may be followed by another; and the encoders' outputs are consumed whole, so
they may be concatenated and followed by fewer than four stray bytes. -/
theorem stream_framing (codec : Vita49Codec F) :
    (∀ (a b : List UInt8) (packet : ParsedPacket F D) (k before after : ℕ),
        codec.parsePacket a before = (some packet, k) →
          codec.parsePacket (a.take k ++ b) after = (some packet, k)) ∧
      (∀ a b : List UInt8,
        (codec.parseStream a : List (ParsedPacket F D)) <+:
          codec.parseStream (a ++ b)) ∧
      (∀ a b : List UInt8,
        (codec.streamRun a : StreamRun F D).offset = a.length →
          (codec.parseStream (a ++ b) : List (ParsedPacket F D)) =
            codec.parseStream a ++ codec.parseStream b) ∧
      (∀ output, EncoderOutput D codec output →
        (codec.streamRun output : StreamRun F D).offset = output.length) ∧
      ∀ (outputs : List (List UInt8)) (stray : List UInt8),
        (∀ output ∈ outputs, EncoderOutput D codec output) →
          stray.length < 4 →
            (codec.parseStream (outputs.flatten ++ stray) :
                List (ParsedPacket F D)) =
              outputs.flatMap codec.parseStream := by
  have asFrames (data : List UInt8) :
      (codec.parseStream data : List (ParsedPacket F D)) =
        (codec.framer.frames data).map Prod.fst :=
    (streamRun_eq_frames codec data).1
  refine ⟨?_, ?_, ?_, ?_, ?_⟩
  · intro a b packet k before after parsed
    exact parsePacket_take_append parsed b after
  · intro a b
    rw [asFrames, asFrames]
    exact (Framer.frames_prefix codec.framer a b).map Prod.fst
  · intro a b whole
    rw [(streamRun_eq_frames codec a).2] at whole
    rw [asFrames, asFrames, asFrames, Framer.frames_append whole,
      List.map_append]
  · intro output isOutput
    rw [(streamRun_eq_frames codec output).2, isOutput.consumed]
  · intro outputs stray areOutputs short
    have composed := (Framer.frames_flatten
      (fun output outputMem => (areOutputs output outputMem).consumed) stray).1
    have nothing : (codec.parseStream stray : List (ParsedPacket F D)) = [] :=
      parseStream_of_short short
    rw [asFrames] at nothing ⊢
    rw [composed, List.map_append, nothing, List.append_nil, List.map_flatMap,
      funext asFrames]

end Vita49Codec
end Vita49
end StarterCpp
