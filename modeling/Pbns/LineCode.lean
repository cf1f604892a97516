/-
What the line code of the frames guarantees: byte stuffing loses nothing, and the check value
finds every short burst.

* `cobs_lossless` — a string comes back from its stuffed form, and a stuffed form is unique but
  for one octet behind a full block;
* `bursts_detected` — a record with a burst in it does not decode.
-/
import Pbns.FrameCodec

namespace Pbns

open Octets

/-! ### Byte stuffing -/

/-- `t` is `s` with an empty block behind it, where the last block of `s` is full. -/
def EmptyBlockBehind (s t : Octets) : Prop :=
  t = s ++ [0x01#8] ∧ ∃ front block, s = front ++ 0xff#8 :: block ∧ block.length = 254

/-- The stuffed form of a list of blocks with an empty one added. -/
theorem emptyBlockBehind_wire {bs : List Octets} (hne : bs ≠ [])
    (hlast : (bs.getLast hne).length = 254) :
    EmptyBlockBehind (Cobs.wire bs) (Cobs.wire (bs ++ [[]])) := by
  refine ⟨?_, Cobs.wire bs.dropLast, bs.getLast hne, ?_, hlast⟩
  · rw [Cobs.wire_append]
    rfl
  · conv_lhs => rw [← List.dropLast_append_getLast hne]
    rw [Cobs.wire_append, Cobs.wire_cons, hlast, Cobs.wire_nil, List.append_nil]

/-- Two stuffed forms of one string. -/
theorem cobsDecode_unique {s t r : Octets} {cap cap' : ℕ} (hs : cobsDecode s cap = .ok r)
    (ht : cobsDecode t cap' = .ok r) : s = t ∨ EmptyBlockBehind s t ∨ EmptyBlockBehind t s := by
  obtain ⟨bs, hbs, hblocks, rfl, rfl, -⟩ := cobsDecode_eq_ok.mp hs
  obtain ⟨cs, hcs, hblocks', rfl, hjoin, -⟩ := cobsDecode_eq_ok.mp ht
  -- cutting the string again shows each list, up to an empty block at its end
  have hcut := Cobs.blocks_join hbs hblocks
  have hcut' := Cobs.blocks_join hcs hblocks'
  rw [hjoin, hcut'] at hcut
  split_ifs at hcut with hfull' hfull hfull
  · exact .inl (by rw [List.append_cancel_right hcut])
  · refine .inr (.inr ?_)
    rw [← hcut]
    exact emptyBlockBehind_wire hcs hfull'
  · refine .inr (.inl ?_)
    rw [hcut]
    exact emptyBlockBehind_wire hbs hfull
  · exact .inl (by rw [hcut])

/-- What the decoder writes stays within the buffer, also when it fails. -/
theorem length_cobsDecodeWritten {cap : ℕ} : ∀ {fuel : ℕ} {s out : Octets}, out.length ≤ cap →
    (cobsDecodeWritten cap fuel s out).length ≤ cap := by
  intro fuel
  induction fuel with
  | zero =>
    intro s out hout
    cases s <;> exact hout
  | succ fuel ih =>
    intro s out hout
    cases s with
    | nil => exact hout
    | cons code s =>
      rw [cobsDecodeWritten]
      split_ifs with hstop hzero hdelimiter hfull
      · exact hout
      · rw [not_or, not_or, Nat.not_lt, Nat.not_lt] at hstop
        rw [List.length_append]
        refine Nat.le_trans (Nat.add_le_add_left (List.takeWhile_prefix _).length_le _) ?_
        rw [List.length_take]
        omega
      all_goals rw [not_or, not_or, Nat.not_lt, Nat.not_lt] at hstop
      · rw [List.length_append, List.length_take]
        omega
      · refine ih ?_
        rw [List.length_append, List.length_take] at hfull
        simp only [List.length_append, List.length_take, List.length_singleton]
        omega
      · refine ih ?_
        rw [List.length_append, List.length_take]
        omega

/-- A decoder that succeeds has written its result. -/
theorem cobsDecodeWritten_of_ok {cap : ℕ} : ∀ {fuel : ℕ} {s out r : Octets},
    cobsDecodeLoop cap fuel s out = .ok r → cobsDecodeWritten cap fuel s out = r := by
  intro fuel
  induction fuel with
  | zero =>
    intro s out r h
    cases s with
    | nil => exact Except.ok.inj h
    | cons code s => cases h
  | succ fuel ih =>
    intro s out r h
    cases s with
    | nil => exact Except.ok.inj h
    | cons code s =>
      rw [cobsDecodeLoop] at h
      rw [cobsDecodeWritten]
      split_ifs at h with hcode hlong hroom hzero hdelimiter hfull
      all_goals rw [if_neg (by simp only [not_or]; exact ⟨hcode, hlong, hroom⟩), if_neg hzero]
      · rw [if_pos hdelimiter, if_neg hfull]
        exact ih h
      · rw [if_neg hdelimiter]
        exact ih h

/-- **COBS is lossless and free of zeros, with one redundancy.**  A buffer of `n + n / 254 + 1`
octets holds the stuffed form of any `n`; it has no zero, and decoding it into `n` octets gives the
string back.  Strings that decode to the same are equal, or one is the other with an empty block
behind a full one.  A decoder writes within its buffer. -/
theorem cobs_lossless :
    (∀ input output : Octets, output.length = input.length + input.length / 254 + 1 →
      ∃ encoded, cobsEncode input output
          = (.ok, encoded ++ output.drop encoded.length, encoded.length) ∧
        0#8 ∉ encoded ∧ encoded.length ≤ input.length + input.length / 254 + 1 ∧
        cobsDecode encoded input.length = .ok input) ∧
    (∀ (s t r : Octets) (cap cap' : ℕ), cobsDecode s cap = .ok r → cobsDecode t cap' = .ok r →
      s = t ∨ EmptyBlockBehind s t ∨ EmptyBlockBehind t s) ∧
    ∀ (input : Octets) (cap : ℕ),
      (cobsDecodeWritten cap input.length input []).length ≤ cap ∧
      ∀ r, cobsDecode input cap = .ok r → cobsDecodeWritten cap input.length input [] = r := by
  refine ⟨?_, fun _ _ _ _ _ => cobsDecode_unique, ?_⟩
  · intro input output hroom
    have hlength := Cobs.length_encode_le input
    exact ⟨Cobs.encode input, cobsEncode_of_room (by omega), Cobs.zero_notMem_encode input, hlength,
      cobsDecode_encode (Nat.le_refl _)⟩
  · intro input cap
    refine ⟨length_cobsDecodeWritten (Nat.zero_le _), ?_⟩
    intro r h
    rw [cobsDecode] at h
    split_ifs at h
    exact cobsDecodeWritten_of_ok h

-- a full block and the same with an empty block behind it
example : cobsDecode (0xff#8 :: List.replicate 254 1#8) 254
    = cobsDecode (0xff#8 :: List.replicate 254 1#8 ++ [1#8]) 254 := by decide +kernel

/-! ### Bursts -/

/-- **The check value finds every short burst.**  `pbns_crc32c` is the bit-by-bit CRC-32C.  A
record in which at most four consecutive octets in front of the last four were changed is not
decoded, under any limits. -/
theorem bursts_detected :
    (∀ input, crc32c input = ReflectedCrc.checksum 0x82f63b78#32 input) ∧
    ∀ (frame : Frame) (payload before x y after : Octets),
      rawRecord crc32c frame payload = before ++ x ++ after → 4 ≤ after.length →
      x.length ≤ 4 → y.length = x.length → y ≠ x →
      ∀ (limits : FrameLimits) (scratchCap : ℕ), ∃ status,
        frameDecode (Cobs.encode (before ++ y ++ after)) limits scratchCap = .error status := by
  refine ⟨crc32c_eq_checksum, ?_⟩
  intro frame payload before x y after hraw hafter hx hlen hne limits scratchCap
  rcases hdecode : frameDecode (Cobs.encode (before ++ y ++ after)) limits scratchCap with
    status | ⟨frame', payload'⟩
  · exact ⟨status, rfl⟩
  -- what was decoded is a record too, with the same last four octets
  obtain ⟨-, -, hcobs, -⟩ := frameDecode_eq_ok.mp hdecode
  have hsame : rawRecord crc32c frame' payload' = before ++ y ++ after := by
    have hlong := cobsDecode_of_fits hcobs (Nat.le_max_left _ (before ++ y ++ after).length)
    rw [cobsDecode_encode (Nat.le_max_right _ _)] at hlong
    exact (Except.ok.inj hlong).symm
  obtain ⟨middle, last, rfl, hlast⟩ : ∃ middle last, after = middle ++ last ∧ last.length = 4 :=
    ⟨after.take (after.length - 4), after.drop (after.length - 4),
      (List.take_append_drop _ _).symm, by rw [List.length_drop]; omega⟩
  rw [rawRecord, ← List.append_assoc] at hraw hsame
  obtain ⟨hbody, hcheck⟩ := List.append_inj' hraw (by rw [writeU32Be_length, hlast])
  obtain ⟨hbody', hcheck'⟩ := List.append_inj' hsame (by rw [writeU32Be_length, hlast])
  have hequal := writeU32Be_injective (hcheck.trans hcheck'.symm)
  rw [hbody, hbody', crc32c_eq_checksum, crc32c_eq_checksum] at hequal
  exact absurd (ReflectedCrc.checksum_burst rfl hx hlen hequal).symm hne

end Pbns
