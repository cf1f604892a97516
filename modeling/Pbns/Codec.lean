/-
The two frame codecs as one codec, and its round trip.

* `codecs_agree` — the firmware's and the gateway's encoder produce the same
  octets, and their decoders accept the same records with the same result;
* `frame_round_trip` — every admissible frame survives encoding and decoding, and
  an accepted record is what re-encoding its contents gives, up to the one
  trailing empty block the decoder tolerates.
-/
import Pbns.WireCodec

namespace Pbns

open Octets

/-- A COMPLETE frame of the trusted-time service. -/
def sampleFrame : Frame :=
  ⟨serviceTrustedTime, messageComplete, 0#8, List.Vector.replicate 16 1#8, 7#32⟩

theorem sampleFrame_admissible : Admissible defaultLimits sampleFrame [] :=
  ⟨rfl, rfl, rfl, rfl⟩

/-- **The two codecs are the same codec.**  Encoding: both reject, or both return
the same octets.  Decoding: for limits both sides allow and a record without zeros,
both accept with the same frame and payload, or both reject. -/
theorem codecs_agree :
    (∀ (frame : Frame) (payload : Octets) (rawScratchCap : ℕ) (output : Octets),
      40 + payload.length ≤ rawScratchCap →
      40 + payload.length + (40 + payload.length) / 254 + 2 ≤ output.length →
      (∃ err status, Wire.encode ⟨frame, payload⟩ = .error err ∧ status ≠ .ok ∧
        frameEncode frame payload rawScratchCap output = (status, output, 0)) ∨
      ∃ bytes, Wire.encode ⟨frame, payload⟩ = .ok bytes ∧
        frameEncode frame payload rawScratchCap output
          = (.ok, bytes ++ output.drop bytes.length, bytes.length)) ∧
    (∀ (limits : FrameLimits) (wireLimits : Wire.Limits) (decoder : Wire.Decoder)
      (record : Octets) (scratchCap : ℕ),
      limitsAreValid limits = true → Wire.newDecoder wireLimits = .ok decoder →
      wireLimits = ⟨limits.controlPayloadMax, limits.dataPayloadMax, limits.encodedRecordMax⟩ →
      0#8 ∉ record → rawMax ≤ scratchCap → ∀ (frame : Frame) (payload : Octets),
      frameDecode record limits scratchCap = .ok (frame, payload) ↔
        Wire.decode decoder (record ++ [0#8]) = .ok ⟨frame, payload⟩) := by
  refine ⟨?_, ?_⟩
  · intro frame payload rawScratchCap output hraw hout
    by_cases hadm : Admissible defaultLimits frame payload
    · refine .inr ⟨stuffed frame payload ++ [0#8], Wire.encode_eq_ok.mpr ⟨hadm, rfl⟩, ?_⟩
      rw [frameEncode_of_admissible hadm hraw hout, List.length_append, List.length_singleton]
    · obtain ⟨status, hstatus, henc⟩ := frameEncode_of_refused
        (fun h : _ ∧ 40 + payload.length ≤ rawScratchCap ∧ _ ≤ output.length => hadm h.1)
      rcases hgo : Wire.encode ⟨frame, payload⟩ with err | bytes
      · exact .inl ⟨err, status, rfl, hstatus, henc⟩
      · exact absurd (Wire.encode_eq_ok.mp hgo).1 hadm
  · intro limits wireLimits decoder record scratchCap hl hnew hlims hz hcap frame payload
    obtain ⟨-, -, -, rfl⟩ := Wire.newDecoder_eq_ok.mp hnew
    subst hlims
    rw [frameDecode_eq_ok]
    refine Iff.trans ?_ (Wire.decode_eq_ok hl hz).symm
    rw [Wire.cobsDecode_eq_ok]
    -- the raw record fits the scratch and is no longer than its stuffed form, so neither
    -- decoder is stopped by its room
    constructor
    · rintro ⟨-, hlen, hraw, hadm⟩
      exact ⟨hlen, cobsDecode_of_fits hraw (length_le_of_cobsDecode hraw), hadm⟩
    · rintro ⟨hlen, hraw, hadm⟩
      have hpay : payload.length ≤ 65536 := hadm.length_le hl
      refine ⟨hl, hlen, cobsDecode_of_fits hraw ?_, hadm⟩
      rw [rawRecord_length]
      simp only [rawMax] at hcap
      omega

/-- The sample frame goes out and comes back on both sides. -/
theorem codecs_agree_sample :
    (∃ bytes, Wire.encode ⟨sampleFrame, []⟩ = .ok bytes ∧
      frameEncode sampleFrame [] 40 (List.replicate 42 0#8)
        = (.ok, bytes ++ (List.replicate 42 0#8).drop bytes.length, bytes.length)) ∧
    (frameDecode (stuffed sampleFrame []) defaultLimits rawMax = .ok (sampleFrame, []) ↔
      Wire.decode ⟨Wire.wireDefaultLimits⟩ (stuffed sampleFrame [] ++ [0#8])
        = .ok ⟨sampleFrame, []⟩) := by
  refine ⟨?_, ?_⟩
  · rcases codecs_agree.1 sampleFrame [] 40 (List.replicate 42 0#8) (by decide) (by decide) with
      ⟨err, status, hgo, -⟩ | h
    · rw [Wire.encode_eq_ok.mpr ⟨sampleFrame_admissible, rfl⟩] at hgo
      simp at hgo
    · exact h
  · exact codecs_agree.2 defaultLimits Wire.wireDefaultLimits ⟨Wire.wireDefaultLimits⟩
      (stuffed sampleFrame []) rawMax rfl rfl rfl (zero_notMem_stuffed _ _) (Nat.le_refl _) _ _

/-- The last block of a stuffed string is a full one. -/
def EndsInFullBlock (record : Octets) : Prop :=
  ∃ front last, Cobs.wire (front ++ [last]) = record ∧ (∀ b ∈ front ++ [last], Cobs.IsBlock b) ∧
    last.length = 254

/-- Re-stuffing the contents of a block list gives the list's own stuffed string,
followed by an empty block if the last block is full. -/
theorem encode_join {bs : List Octets} (hne : bs ≠ []) (h : ∀ b ∈ bs, Cobs.IsBlock b) :
    Cobs.encode (Cobs.join bs) = Cobs.wire bs ∨
      Cobs.encode (Cobs.join bs) = Cobs.wire bs ++ [1#8] ∧ EndsInFullBlock (Cobs.wire bs) := by
  rw [Cobs.encode, Cobs.blocks_join hne h]
  split_ifs with hlast
  · refine .inr ⟨by rw [Cobs.wire_append]; rfl, bs.dropLast, bs.getLast hne, ?_, ?_, hlast⟩
    · rw [List.dropLast_append_getLast]
    · rwa [List.dropLast_append_getLast]
  · exact .inl rfl

/-- **Round trip and canonical form.**  An admissible frame encodes as soon as the
buffers hold the raw record and the computed worst case; the result has its only
zero at the end, is at most 65836 octets long and decodes to the frame and payload.
A record the decoder accepts is what its contents encode to, but for the empty block
that follows a full last block. -/
theorem frame_round_trip :
    (∀ (frame : Frame) (payload : Octets) (rawScratchCap worst : ℕ) (output : Octets),
      Admissible defaultLimits frame payload →
      headerSize + payload.length + trailerSize ≤ rawScratchCap →
      cobsMaxEncodedSize (headerSize + payload.length + trailerSize) = .ok worst →
      worst + 1 ≤ output.length →
      ∃ record, frameEncode frame payload rawScratchCap output
          = (.ok, record ++ [0#8] ++ output.drop (record.length + 1), record.length + 1) ∧
        0#8 ∉ record ∧ record.length + 1 ≤ 65836 ∧
        ∀ scratchCap, headerSize + payload.length + trailerSize ≤ scratchCap →
          frameDecode record defaultLimits scratchCap = .ok (frame, payload)) ∧
    (∀ (record payload : Octets) (limits : FrameLimits) (scratchCap : ℕ) (frame : Frame),
      frameDecode record limits scratchCap = .ok (frame, payload) →
      ∀ (rawScratchCap worst : ℕ) (output : Octets),
      headerSize + payload.length + trailerSize ≤ rawScratchCap →
      cobsMaxEncodedSize (headerSize + payload.length + trailerSize) = .ok worst →
      worst + 1 ≤ output.length →
      ∃ again, frameEncode frame payload rawScratchCap output
          = (.ok, again ++ [0#8] ++ output.drop (again.length + 1), again.length + 1) ∧
        (again = record ∨ again = record ++ [1#8] ∧ EndsInFullBlock record)) := by
  have hsize : ∀ payload : Octets, headerSize + payload.length + trailerSize
      = 40 + payload.length := by
    intro payload
    simp only [headerSize, trailerSize]
    omega
  have hworst : ∀ {n worst : ℕ}, cobsMaxEncodedSize n = .ok worst → worst = n + (n / 254 + 1) := by
    intro n worst h
    rw [cobsMaxEncodedSize] at h
    split_ifs at h
    exact (Except.ok.inj h).symm
  refine ⟨?_, ?_⟩
  · intro frame payload rawScratchCap worst output hadm hraw hw hout
    rw [hsize] at hraw hw
    have hlen : payload.length ≤ 65536 := hadm.length_le rfl
    have hst := length_stuffed_le frame payload
    have := hworst hw
    refine ⟨stuffed frame payload, frameEncode_of_admissible hadm hraw (by omega),
      zero_notMem_stuffed frame payload, by omega, ?_⟩
    intro scratchCap hcap
    rw [hsize] at hcap
    exact frameDecode_stuffed rfl hadm (by simp only [defaultLimits, wireMax]; omega) hcap
  · intro record payload limits scratchCap frame hdec rawScratchCap worst output hraw hw hout
    rw [hsize] at hraw hw
    have := hworst hw
    obtain ⟨hl, -, hcobs, hadm⟩ := frameDecode_eq_ok.mp hdec
    obtain ⟨bs, hne, hall, rfl, hjoin, -⟩ := cobsDecode_eq_ok.mp hcobs
    refine ⟨stuffed frame payload, frameEncode_of_admissible (hadm.default hl) hraw (by omega), ?_⟩
    rw [stuffed, hjoin]
    exact encode_join hne hall

/-- The sample frame and its record, both ways. -/
theorem frame_round_trip_sample :
    (∃ record, frameEncode sampleFrame [] 40 (List.replicate 42 0#8)
        = (.ok, record ++ [0#8] ++ (List.replicate 42 0#8).drop (record.length + 1),
          record.length + 1) ∧
      0#8 ∉ record ∧ record.length + 1 ≤ 65836 ∧ ∀ scratchCap, 40 ≤ scratchCap →
        frameDecode record defaultLimits scratchCap = .ok (sampleFrame, [])) ∧
    ∃ again, frameEncode sampleFrame [] 40 (List.replicate 42 0#8)
        = (.ok, again ++ [0#8] ++ (List.replicate 42 0#8).drop (again.length + 1),
          again.length + 1) ∧
      (again = stuffed sampleFrame [] ∨
        again = stuffed sampleFrame [] ++ [1#8] ∧ EndsInFullBlock (stuffed sampleFrame [])) := by
  have hdec : frameDecode (stuffed sampleFrame []) defaultLimits 40 = .ok (sampleFrame, []) :=
    frameDecode_stuffed rfl sampleFrame_admissible
      (by have := length_stuffed_le sampleFrame []; simp only [List.length_nil] at this
          simp only [defaultLimits, wireMax]; omega) (by simp)
  exact ⟨frame_round_trip.1 sampleFrame [] 40 41 (List.replicate 42 0#8) sampleFrame_admissible
      (by decide) rfl (by decide),
    frame_round_trip.2 (stuffed sampleFrame []) [] defaultLimits 40 sampleFrame hdec 40 41
      (List.replicate 42 0#8) (by decide) rfl (by decide)⟩

end Pbns
