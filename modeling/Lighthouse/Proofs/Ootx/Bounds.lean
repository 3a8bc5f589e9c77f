import Lighthouse.Proofs.Ootx.Resync
import Mathlib.Logic.Relation
/-!
# A decoder's registers stay in range

Whatever its packet limit and preamble length, and whatever bits and resets it is given, a
decoder keeps its counters inside the layout of a frame (`Bounded`): at most sixteen bits of a
word are read, the length word has sixteen bits, inside the payload the position lies within the
padded payload, which is even and fits the packet limit, at most four checksum bytes are read, and
the payload byte being filled and the checksum register hold eight and thirty-two bits.

So the byte being filled always has its slot in a buffer of `maxPacket` bytes, and every bit is
shifted by a count that is not negative: a length bit is written with at most fifteen bits read,
and a checksum bit with at most three checksum bytes completed.
-/
namespace Lighthouse.Ootx
namespace Decoder

/-- Where the payload position may stand: inside a padded payload that is even, not empty and no
longer than the packet limit, with one byte completed for every position passed. -/
structure PayloadBounds (d : Decoder) : Prop where
  even : (d.length + d.pad) % 2 = 0
  pos : 0 < d.length + d.pad
  fits : d.length + d.pad ≤ d.maxPacket
  inside : d.pos < d.length + d.pad
  filled : d.bytes.length = d.pos

/-- The bounds every decoder keeps. -/
structure Bounded (d : Decoder) : Prop where
  syn : d.syn ≤ 16
  crc : d.crc < 2 ^ 32
  pending : d.pending < 2 ^ 8
  length : d.phase = .length → d.length < 2 ^ 16
  payload : d.phase = .payload → PayloadBounds d
  checksum : d.phase = .checksum → d.pos ≤ 3

variable {d : Decoder} {b : Bool} {t : Int}

lemma bit_shift_lt {k n : Nat} (hk : k < n) : (if b then 1 else 0) <<< k < 2 ^ n := by
  rw [Nat.shiftLeft_eq]
  calc (if b then 1 else 0) * 2 ^ k ≤ 1 * 2 ^ k := by cases b <;> simp
    _ < 2 ^ n := by rw [Nat.one_mul]; exact Nat.pow_lt_pow_right (by decide) hk

lemma or_bit_lt {c k n : Nat} (hc : c < 2 ^ n) (hk : k < n) :
    c ||| ((if b then 1 else 0) <<< k) < 2 ^ n :=
  Nat.or_lt_two_pow hc (bit_shift_lt hk)

lemma finish_changes_statistics : ∃ n m, (d.finish t).1 = { d with crcFailures := n, packetsDecoded := m } := by
  unfold finish
  dsimp only
  split
  · exact ⟨_, _, rfl⟩
  · split
    · exact ⟨d.crcFailures, d.packetsDecoded, rfl⟩
    · exact ⟨_, _, rfl⟩

lemma Bounded.withZeros (h : Bounded d) (z : Nat) : Bounded { d with zeros := z } :=
  ⟨h.syn, h.crc, h.pending, h.length, fun hp => let p := h.payload hp; ⟨p.1, p.2, p.3, p.4, p.5⟩,
    h.checksum⟩

lemma Bounded.onLength (h : Bounded d) (hp : d.phase = .length) : Bounded (d.onLength b) := by
  have hsyn := h.syn
  by_cases hs : d.syn = 16
  · unfold Decoder.onLength
    simp only [wordLength, hs, ↓reduceIte]
    split_ifs with hacc
    · exact ⟨by simp, h.crc, by simp, by simp, fun _ => ⟨by simp; omega, hacc.1, hacc.2, hacc.1,
        by simp⟩, by simp⟩
    · exact ⟨by simp, h.crc, h.pending, by simp, by simp, by simp⟩
  · rw [onLength_bit hs]
    have hlen := h.length hp
    exact ⟨by simp; omega, h.crc, h.pending, fun _ => or_bit_lt hlen (by omega),
      by simp [hp], by simp [hp]⟩

lemma onPayload_boundary_last (h8 : d.syn = 8) (hpos : d.pos + 1 = d.length + d.pad) :
    d.onPayload b =
      { d with pos := 0, bytes := d.bytes ++ [d.pending.toUInt8], pending := 0
               phase := .checksum, syn := 0, crc := 0 } := by
  simp [onPayload, wordLength, h8, hpos]

lemma onChecksum_boundary_last (h8 : d.syn = 8) (hpos : d.pos + 1 = 4) :
    d.onChecksum b t =
      ({ ({ d with pos := 4 }.finish t).1 with
          phase := .preamble, pos := 0, syn := 0, zeros := 0, length := 0 },
        ({ d with pos := 4 }.finish t).2) := by
  simp [onChecksum, wordLength, h8, hpos]

lemma Bounded.onPayload (h : Bounded d) (hp : d.phase = .payload) : Bounded (d.onPayload b) := by
  obtain ⟨heven, hpos, hfits, hin, hfill⟩ := h.payload hp
  have hsyn := h.syn
  -- the checksum starts with an empty register; inside the payload a byte is completed or filled
  have hstart : Bounded { d with pos := 0, bytes := d.bytes ++ [d.pending.toUInt8], pending := 0
                                 phase := .checksum, syn := 0, crc := 0 } :=
    ⟨by simp, by simp, by simp, by simp, by simp, by simp⟩
  by_cases h8 : d.syn = 8
  · by_cases hlast : d.pos + 1 = d.length + d.pad
    · rw [onPayload_boundary_last h8 hlast]
      exact hstart
    · rw [onPayload_boundary h8 hlast]
      exact ⟨by simp, h.crc, bit_shift_lt (by omega), by simp [hp],
        fun _ => ⟨heven, hpos, hfits, by simp; omega, by simp [hfill]⟩, by simp [hp]⟩
  by_cases h16 : d.syn = 16
  · by_cases hlast : d.pos + 1 = d.length + d.pad
    · rw [onPayload_last h16 hlast]
      exact hstart
    · rw [onPayload_sync h16 hlast]
      exact ⟨by simp, h.crc, by simp, by simp [hp],
        fun _ => ⟨heven, hpos, hfits, by simp; omega, by simp [hfill]⟩, by simp [hp]⟩
  · rw [onPayload_bit h8 h16]
    exact ⟨by simp; omega, h.crc, or_bit_lt h.pending (by omega), by simp [hp],
      fun _ => ⟨heven, hpos, hfits, hin, hfill⟩, by simp [hp]⟩

lemma Bounded.onChecksum (h : Bounded d) (hp : d.phase = .checksum) :
    Bounded (d.onChecksum b t).1 := by
  have hpos := h.checksum hp
  have hsyn := h.syn
  have hend : Bounded { ({ d with pos := 4 }.finish t).1 with
      phase := .preamble, pos := 0, syn := 0, zeros := 0, length := 0 } := by
    obtain ⟨n, m, hf⟩ := finish_changes_statistics (d := { d with pos := 4 }) (t := t)
    rw [hf]
    exact ⟨by simp, h.crc, h.pending, by simp, by simp, by simp⟩
  by_cases h8 : d.syn = 8
  · by_cases hlast : d.pos + 1 = 4
    · rw [onChecksum_boundary_last h8 hlast]
      exact hend
    · rw [onChecksum_boundary h8 hlast]
      exact ⟨by simp, or_bit_lt h.crc (by omega), h.pending, by simp [hp], by simp [hp],
        by simp; omega⟩
  by_cases h16 : d.syn = 16
  · by_cases hlast : d.pos + 1 = 4
    · rw [onChecksum_last h16 hlast]
      exact hend
    · rw [onChecksum_sync h16 hlast]
      exact ⟨by simp, h.crc, h.pending, by simp [hp], by simp [hp], by simp; omega⟩
  · rw [onChecksum_bit h8 h16]
    exact ⟨by simp; omega, or_bit_lt h.crc (by omega), h.pending, by simp [hp], by simp [hp],
      by simp [hp]; omega⟩

lemma Bounded.feed (h : Bounded d) : Bounded (d.feed b t).1 := by
  by_cases hs : b = true ∧ (d.zeros : Int) ≥ d.preambleLength
  · rw [Decoder.feed, if_pos hs]
    exact ⟨by simp, h.crc, h.pending, by simp, by simp, by simp⟩
  · have hz := h.withZeros (if b then 0 else d.zeros + 1)
    cases hp : d.phase with
    | preamble =>
      rw [feed_preamble hp hs]
      exact hz
    | length =>
      rw [feed_length hp hs]
      exact hz.onLength hp
    | payload =>
      rw [feed_payload hp hs]
      exact hz.onPayload hp
    | checksum =>
      rw [feed_checksum hp hs]
      exact hz.onChecksum hp

lemma Bounded.reset (h : Bounded d) : Bounded d.reset :=
  ⟨by simp [Decoder.reset], by simp [Decoder.reset], h.pending, by simp [Decoder.reset],
    by simp [Decoder.reset], by simp [Decoder.reset]⟩

lemma Bounded.step {d d' : Decoder} (h : Bounded d) (hs : Step d d') : Bounded d' := by
  cases hs with
  | feed b t => exact h.feed
  | reset => exact h.reset

lemma Bounded.reaches {d d' : Decoder} (h : Bounded d) (hr : Relation.ReflTransGen Step d d') :
    Bounded d' := by
  induction hr with
  | refl => exact h
  | tail _ hs ih => exact ih.step hs

/-- A decoder made with a packet limit that is not negative and any preamble length keeps the
bounds of a frame's layout through every sequence of bits and resets. -/
theorem registers_stay_in_range (maxPacket preambleLength : Int) (hmax : 0 ≤ maxPacket) :
    ∃ d₀, create maxPacket preambleLength = .ok d₀ ∧
      ∀ d, Relation.ReflTransGen Step d₀ d → Bounded d := by
  refine ⟨{ maxPacket := maxPacket.toNat, preambleLength }, if_neg (by omega), fun d hr => ?_⟩
  have h₀ : Bounded { maxPacket := maxPacket.toNat, preambleLength } :=
    ⟨by simp, by simp, by simp, by simp, by simp, by simp⟩
  exact h₀.reaches hr

/-- A standard decoder keeps the bounds. -/
theorem standard_registers_stay_in_range :
    (0 : Int) ≤ 64 ∧ ∃ d₀, create 64 17 = .ok d₀ ∧
      ∀ d, Relation.ReflTransGen Step d₀ d → Bounded d :=
  ⟨by decide, registers_stay_in_range 64 17 (by decide)⟩

end Decoder
end Lighthouse.Ootx
