import Lighthouse.Proofs.Ootx.Bits
/-!
# Words of a frame

A frame after its start bit is a list of sixteen-bit words, each followed by a sync bit of one.
Between two ones there are never more than sixteen zeros, so no bit inside a frame ends a
preamble. Each lemma here reads one kind of word: the length word, a payload word, a checksum
word, or any word while the decoder waits for a preamble.
-/
namespace Lighthouse.Ootx

/-! ### The wire format -/

@[simp] lemma length_byteBits (a : UInt8) : (byteBits a).length = 8 := by
  simp [byteBits]

lemma shiftIn_lowBits (c x : Nat) (n : Nat) :
    Decoder.shiftIn c ((List.range n).reverse.map fun k => (x >>> k) % 2 = 1) =
      c * 2 ^ n + x % 2 ^ n := by
  induction n generalizing c with
  | zero => simp [Nat.mod_one]
  | succ n ih =>
    have hbit : (if decide ((x >>> n) % 2 = 1) = true then 1 else 0) = x / 2 ^ n % 2 := by
      rw [Nat.shiftRight_eq_div_pow]
      split <;> rename_i h <;> simp only [decide_eq_true_eq] at h <;> omega
    rw [List.range_succ, List.reverse_append, List.map_append, List.reverse_singleton,
      List.map_singleton, List.singleton_append, Decoder.shiftIn_cons, hbit, ih,
      Nat.mod_pow_succ, Nat.pow_succ]
    ring

lemma shiftIn_byteBits (c : Nat) (a : UInt8) :
    Decoder.shiftIn c (byteBits a) = c * 256 + a.toNat := by
  rw [byteBits, shiftIn_lowBits, Nat.mod_eq_of_lt a.toNat_lt]
  rfl

lemma byteBits_cons (a : UInt8) : ∃ x xs, byteBits a = x :: xs ∧ xs.length = 7 :=
  ⟨_, _, rfl, by simp⟩

lemma wordBits_pair (a b : UInt8) (rest : List UInt8) :
    wordBits (a :: b :: rest) = byteBits a ++ byteBits b ++ [true] ++ wordBits rest := rfl

lemma wordBits_append (xs ys : List UInt8) (h : xs.length % 2 = 0) :
    wordBits (xs ++ ys) = wordBits xs ++ wordBits ys := by
  induction xs using wordBits.induct with
  | case1 a b rest ih =>
    simp only [List.length_cons] at h
    simp [wordBits_pair, ih (by omega)]
  | case2 a => simp at h
  | case3 => rfl

lemma length_wordBits (xs : List UInt8) (h : xs.length % 2 = 0) :
    (wordBits xs).length = 17 * (xs.length / 2) := by
  induction xs using wordBits.induct with
  | case1 a b rest ih =>
    simp only [List.length_cons] at h
    simp [wordBits_pair, ih (by omega)]
    omega
  | case2 a => simp at h
  | case3 => rfl

lemma swap32_natCast (v : Nat) :
    (swap32 (v : Int)).toNat =
      v % 2 ^ 32 % 256 * 2 ^ 24 + v % 2 ^ 32 / 256 % 256 * 2 ^ 16 +
        v % 2 ^ 32 / 2 ^ 16 % 256 * 256 + v % 2 ^ 32 / 2 ^ 24 := by
  have h : ((v : Int) % (Nat.pow 2 32 : Nat)).toNat = v % 2 ^ 32 := by
    rw [← Int.natCast_mod, Int.toNat_natCast]
    rfl
  simp only [swap32, h, Int.toNat_natCast]
  rfl

lemma swap32_bytes (d0 d1 d2 d3 : Nat) (h0 : d0 < 256) (h1 : d1 < 256) (h2 : d2 < 256)
    (h3 : d3 < 256) :
    (swap32 ((((d0 * 256 + d1) * 65536 + d2 * 256 + d3 : Nat) : Int))).toNat =
      d3 * 2 ^ 24 + d2 * 2 ^ 16 + d1 * 256 + d0 := by
  rw [swap32_natCast]
  omega

lemma swap32_checksumBytes (c : UInt32) :
    (swap32 ((((c.toUInt8.toNat * 256 + (c >>> 8).toUInt8.toNat) * 65536 +
      (c >>> 16).toUInt8.toNat * 256 + (c >>> 24).toUInt8.toNat : Nat) : Int))).toNat =
      c.toNat := by
  have hc := c.toNat_lt
  rw [swap32_bytes _ _ _ _ (UInt8.toNat_lt _) (UInt8.toNat_lt _) (UInt8.toNat_lt _)
    (UInt8.toNat_lt _)]
  simp only [UInt32.toNat_toUInt8, UInt32.toNat_shiftRight, Nat.shiftRight_eq_div_pow,
    UInt32.toNat_ofNat, Nat.reducePow, Nat.reduceMod]
  omega

/-! ### The state after a frame -/

/-- `d'` is `d` after a frame: waiting for a preamble with no zero counted, with the same
parameters, `k` more records decoded, `o` more frames refused and no more checksum failures. -/
structure After (d d' : Decoder) (k o : Nat) : Prop where
  phase : d'.phase = .preamble
  zeros : d'.zeros = 0
  preambleLength : d'.preambleLength = d.preambleLength
  maxPacket : d'.maxPacket = d.maxPacket
  decoded : d'.packetsDecoded = d.packetsDecoded + k
  crcFailures : d'.crcFailures = d.crcFailures
  oversized : d'.oversized = d.oversized + o

lemma After.refl {d : Decoder} (hp : d.phase = .preamble) (hz : d.zeros = 0) : After d d 0 0 :=
  ⟨hp, hz, rfl, rfl, rfl, rfl, rfl⟩

lemma After.trans {d d' d'' : Decoder} {k o k' o' : Nat} (h : After d d' k o)
    (h' : After d' d'' k' o') : After d d'' (k + k') (o + o') :=
  ⟨h'.phase, h'.zeros, h'.preambleLength.trans h.preambleLength, h'.maxPacket.trans h.maxPacket,
    by rw [h'.decoded, h.decoded, Nat.add_assoc], h'.crcFailures.trans h.crcFailures,
    by rw [h'.oversized, h.oversized, Nat.add_assoc]⟩

namespace Decoder

variable {d : Decoder} {t : Int} {x : Bool}

/-! ### Bits at the ends of bytes and words -/

lemma feed_length_sync (hp : d.phase = .length) (hP : d.preambleLength = 17) (hs : d.syn = 16)
    (hz : d.zeros ≤ 16) :
    d.feed true t =
      (if 0 < (swap16 d.length).toNat + (swap16 d.length).toNat % 2 ∧
          (swap16 d.length).toNat + (swap16 d.length).toNat % 2 ≤ d.maxPacket then
        { d with length := (swap16 d.length).toNat, pad := (swap16 d.length).toNat % 2
                 phase := .payload, syn := 0, pos := 0, bytes := [], pending := 0, zeros := 0 }
      else
        { d with length := (swap16 d.length).toNat, pad := (swap16 d.length).toNat % 2
                 phase := .preamble, oversized := d.oversized + 1, zeros := 0 }, none) := by
  rw [feed_length hp (not_start hP hz)]
  simp only [onLength, wordLength, hs, if_true]

lemma feed_payload_boundary (hp : d.phase = .payload) (hP : d.preambleLength = 17)
    (hs : d.syn = 8) (hz : d.zeros ≤ 16) (hpos : d.pos + 1 ≠ d.length + d.pad) :
    d.feed x t =
      ({ d with zeros := if x then 0 else d.zeros + 1, pos := d.pos + 1
                bytes := d.bytes ++ [d.pending.toUInt8], pending := (if x then 1 else 0) <<< 7
                syn := 9 }, none) := by
  rw [feed_payload hp (not_start hP hz), onPayload_boundary (by exact hs) (by exact hpos)]

lemma feed_payload_sync (hp : d.phase = .payload) (hP : d.preambleLength = 17)
    (hs : d.syn = 16) (hz : d.zeros ≤ 16) (hpos : d.pos + 1 ≠ d.length + d.pad) :
    d.feed true t =
      ({ d with pos := d.pos + 1, bytes := d.bytes ++ [d.pending.toUInt8], pending := 0, syn := 0
                zeros := 0 }, none) := by
  rw [feed_payload hp (not_start hP hz), onPayload_sync (by exact hs) (by exact hpos)]
  rfl

lemma feed_payload_last (hp : d.phase = .payload) (hP : d.preambleLength = 17)
    (hs : d.syn = 16) (hz : d.zeros ≤ 16) (hpos : d.pos + 1 = d.length + d.pad) :
    d.feed true t =
      ({ d with phase := .checksum, pos := 0, bytes := d.bytes ++ [d.pending.toUInt8]
                pending := 0, syn := 0, crc := 0, zeros := 0 }, none) := by
  rw [feed_payload hp (not_start hP hz), onPayload_last (by exact hs) (by exact hpos)]
  rfl

lemma feed_checksum_boundary (hp : d.phase = .checksum) (hP : d.preambleLength = 17)
    (hs : d.syn = 8) (hz : d.zeros ≤ 16) (hpos : d.pos + 1 ≠ 4) :
    d.feed x t =
      ({ d with zeros := if x then 0 else d.zeros + 1, pos := d.pos + 1
                crc := d.crc ||| ((if x then 1 else 0) <<< (31 - (d.pos + 1) * 8))
                syn := 9 }, none) := by
  rw [feed_checksum hp (not_start hP hz), onChecksum_boundary (by exact hs) (by exact hpos)]

lemma feed_checksum_sync (hp : d.phase = .checksum) (hP : d.preambleLength = 17)
    (hs : d.syn = 16) (hz : d.zeros ≤ 16) (hpos : d.pos + 1 ≠ 4) :
    d.feed true t = ({ d with pos := d.pos + 1, syn := 0, zeros := 0 }, none) := by
  rw [feed_checksum hp (not_start hP hz), onChecksum_sync (by exact hs) (by exact hpos)]
  rfl

lemma finish_eq (h : (Crc32.checksum (d.bytes.take d.length)).toNat = (swap32 d.crc).toNat) :
    d.finish t =
      ({ d with packetsDecoded := d.packetsDecoded +
          if ((Calibration.ofPayload (d.bytes.take d.length) t).toOption).isSome then 1 else 0 },
        (Calibration.ofPayload (d.bytes.take d.length) t).toOption) := by
  unfold finish
  rw [if_neg (not_not.mpr h)]
  cases Calibration.ofPayload (d.bytes.take d.length) t <;> rfl

lemma feed_checksum_done (hp : d.phase = .checksum) (hP : d.preambleLength = 17)
    (hs : d.syn = 16) (hz : d.zeros ≤ 16) (hpos : d.pos = 3)
    (h : (Crc32.checksum (d.bytes.take d.length)).toNat = (swap32 d.crc).toNat) :
    d.feed true t =
      ({ d with
          phase := .preamble
          pos := 0
          syn := 0
          zeros := 0
          length := 0
          packetsDecoded := d.packetsDecoded +
            if ((Calibration.ofPayload (d.bytes.take d.length) t).toOption).isSome then 1 else 0 },
        (Calibration.ofPayload (d.bytes.take d.length) t).toOption) := by
  rw [feed_checksum hp (not_start hP hz), onChecksum_last (by exact hs) (by simp [hpos]), finish_eq]
  exact h

/-! ### Length word -/

lemma takes_length_pair (a b : UInt8) (hp : d.phase = .length) (hP : d.preambleLength = 17)
    (hs : d.syn = 0) (hz : d.zeros = 0) (hL : d.length = 0) :
    ∃ z ≤ 16, d.Takes t (byteBits a ++ byteBits b)
      { d with length := a.toNat * 256 + b.toNat, syn := 16, zeros := z }
      (List.replicate 16 none) := by
  obtain ⟨z, hz', h⟩ := takes_length_bits (byteBits a ++ byteBits b) d 0 0 t hp hP
    (by simp [hs]) (by simp [hz]) (by simp [hL])
  refine ⟨z, by simpa [hz] using hz', h.to ?_ (by simp)⟩
  simp [shiftIn_append, shiftIn_byteBits]

/-! ### Payload words -/

lemma takes_payload_pair (a b : UInt8) (hp : d.phase = .payload) (hP : d.preambleLength = 17)
    (hs : d.syn = 0) (hz : d.zeros = 0) (hpend : d.pending = 0)
    (hpos : d.pos + 1 ≠ d.length + d.pad) :
    ∃ z ≤ 16, d.Takes t (byteBits a ++ byteBits b)
      { d with pos := d.pos + 1, bytes := d.bytes ++ [a], pending := b.toNat, syn := 16, zeros := z }
      (List.replicate 16 none) := by
  obtain ⟨z1, hz1, h1⟩ := takes_payload_bits (byteBits a) d 0 0 0 8 t hp hP (.inl hs) (by simp)
    (by simp [hs]) (by simp [hz]) (by simp [hpend])
  simp only [length_byteBits, hz, Nat.zero_add] at hz1
  obtain ⟨x, xs, hb, hxs⟩ := byteBits_cons b
  have hfeed := feed_payload_boundary (x := x) (t := t + 8)
    (d := { d with pending := shiftIn 0 (byteBits a) * 2 ^ 0, syn := 8, zeros := z1 }) hp hP rfl
    (by dsimp only; omega) hpos
  obtain ⟨z2, hz2, h2⟩ := takes_payload_bits xs
    { d with
      zeros := if x then 0 else z1 + 1
      pos := d.pos + 1
      bytes := d.bytes ++ [(shiftIn 0 (byteBits a) * 2 ^ 0).toUInt8]
      pending := (if x then 1 else 0) <<< 7
      syn := 9 }
    (if x then 1 else 0) 1 0 16 (t + 8 + 1) hp hP (.inr ⟨rfl, by omega⟩) (by omega) (by simp [hxs])
    (by dsimp only; split <;> omega) (by cases x <;> rfl)
  have hval : shiftIn (if x then 1 else 0) xs = b.toNat := by
    simpa [hb] using shiftIn_byteBits 0 b
  refine ⟨z2, by dsimp only at hz2; split at hz2 <;> omega, ?_⟩
  rw [hb]
  refine (h1.append (Takes.cons hfeed h2) (by simp)).to ?_ (by simp [hxs, List.replicate_succ])
  simp [shiftIn_byteBits, hval]

lemma takes_payload_word (a b : UInt8) (hp : d.phase = .payload) (hP : d.preambleLength = 17)
    (hs : d.syn = 0) (hz : d.zeros = 0) (hpend : d.pending = 0)
    (hpos : d.pos + 1 ≠ d.length + d.pad) (hmore : d.pos + 2 ≠ d.length + d.pad) :
    d.Takes t (byteBits a ++ byteBits b ++ [true])
      { d with pos := d.pos + 2, bytes := d.bytes ++ [a, b], pending := 0, syn := 0, zeros := 0 }
      (List.replicate 17 none) := by
  obtain ⟨z, hz', h⟩ := takes_payload_pair (t := t) a b hp hP hs hz hpend hpos
  have hfeed := feed_payload_sync (t := t + 16)
    (d := { d with pos := d.pos + 1, bytes := d.bytes ++ [a], pending := b.toNat, syn := 16
                   zeros := z }) hp hP rfl hz' (by dsimp only; omega)
  refine (h.append (Takes.single hfeed) (by simp)).to ?_ rfl
  simp

lemma takes_payload_last (a b : UInt8) (hp : d.phase = .payload) (hP : d.preambleLength = 17)
    (hs : d.syn = 0) (hz : d.zeros = 0) (hpend : d.pending = 0)
    (hlast : d.pos + 2 = d.length + d.pad) :
    d.Takes t (byteBits a ++ byteBits b ++ [true])
      { d with phase := .checksum, pos := 0, bytes := d.bytes ++ [a, b], pending := 0, syn := 0
               crc := 0, zeros := 0 }
      (List.replicate 17 none) := by
  obtain ⟨z, hz', h⟩ := takes_payload_pair (t := t) a b hp hP hs hz hpend (by omega)
  have hfeed := feed_payload_last (t := t + 16)
    (d := { d with pos := d.pos + 1, bytes := d.bytes ++ [a], pending := b.toNat, syn := 16
                   zeros := z }) hp hP rfl hz' (by dsimp only; omega)
  refine (h.append (Takes.single hfeed) (by simp)).to ?_ rfl
  simp

lemma takes_payload_words (xs : List UInt8) (hx : xs.length % 2 = 0) (hne : xs ≠ []) :
    ∀ (d : Decoder) (t : Int), d.phase = .payload → d.preambleLength = 17 → d.syn = 0 →
    d.zeros = 0 → d.pending = 0 → d.pos % 2 = 0 → d.pos + xs.length = d.length + d.pad →
    d.Takes t (wordBits xs)
      { d with phase := .checksum, pos := 0, bytes := d.bytes ++ xs, pending := 0, syn := 0
               crc := 0, zeros := 0 }
      (List.replicate (wordBits xs).length none) := by
  induction xs using wordBits.induct with
  | case1 a b rest ih =>
    intro d t hp hP hs hz hpend heven hpos
    simp only [List.length_cons] at hx hpos
    rw [wordBits_pair]
    by_cases hrest : rest = []
    · subst hrest
      exact ((takes_payload_last a b hp hP hs hz hpend (by simpa using hpos)).append
        (takes_nil _ _) rfl).to rfl (by simp [wordBits])
    · have hlen : 2 ≤ rest.length := by
        cases rest with
        | nil => exact absurd rfl hrest
        | cons c rest => simp at hx ⊢; omega
      have h := ih (by omega) hrest
        { d with pos := d.pos + 2, bytes := d.bytes ++ [a, b], pending := 0, syn := 0, zeros := 0 }
        (t + 17) hp hP rfl rfl rfl (by dsimp only; omega) (by dsimp only; omega)
      refine ((takes_payload_word a b hp hP hs hz hpend (by omega) (by omega)).append h
        (by simp)).to (by simp) ?_
      rw [List.replicate_append_replicate]
      congr 1
      simp
      omega
  | case2 a => simp at hx
  | case3 => exact absurd rfl hne

/-! ### Checksum words -/

lemma takes_checksum_pair (a b : UInt8) (C : Nat) (hp : d.phase = .checksum)
    (hP : d.preambleLength = 17) (hs : d.syn = 0) (hz : d.zeros = 0) (hpos : d.pos = 0 ∨ d.pos = 2)
    (hcrc : d.crc = C * 2 ^ (32 - d.pos * 8)) :
    ∃ z ≤ 16, d.Takes t (byteBits a ++ byteBits b)
      { d with
        pos := d.pos + 1
        crc := (C * 65536 + a.toNat * 256 + b.toNat) * 2 ^ (16 - d.pos * 8)
        syn := 16
        zeros := z }
      (List.replicate 16 none) := by
  obtain ⟨z1, hz1, h1⟩ := takes_checksum_bits (byteBits a) d C 0 (24 - d.pos * 8) 8 t hp hP
    (.inl hs) (by simp; omega) (by simp) (by simp [hs]) (by simp [hz]) (by simpa using hcrc)
  simp only [length_byteBits, hz, Nat.zero_add] at hz1
  obtain ⟨x, xs, hb, hxs⟩ := byteBits_cons b
  have hreg : shiftIn C (byteBits a) * 2 ^ (24 - d.pos * 8) |||
      ((if x then 1 else 0) <<< (31 - (d.pos + 1) * 8)) =
      (2 * shiftIn C (byteBits a) + if x then 1 else 0) * 2 ^ (32 - ((d.pos + 1) * 8 + 1)) := by
    rw [show 24 - d.pos * 8 = 31 - (d.pos + 1) * 8 + 1 by omega, or_shiftLeft_bit]
    congr 2
    omega
  have hfeed := feed_checksum_boundary (x := x) (t := t + 8)
    (d := { d with crc := shiftIn C (byteBits a) * 2 ^ (24 - d.pos * 8), syn := 8, zeros := z1 })
    hp hP rfl (by dsimp only; omega) (by dsimp only; omega)
  obtain ⟨z2, hz2, h2⟩ := takes_checksum_bits xs
    { d with
      zeros := if x then 0 else z1 + 1
      pos := d.pos + 1
      crc := shiftIn C (byteBits a) * 2 ^ (24 - d.pos * 8) |||
        ((if x then 1 else 0) <<< (31 - (d.pos + 1) * 8))
      syn := 9 }
    (2 * shiftIn C (byteBits a) + if x then 1 else 0) 1 (16 - d.pos * 8) 16 (t + 8 + 1) hp hP
    (.inr ⟨rfl, by omega⟩) (by dsimp only; omega) (by omega) (by simp [hxs])
    (by dsimp only; split <;> omega) hreg
  have hval : shiftIn (2 * shiftIn C (byteBits a) + if x then 1 else 0) xs =
      C * 65536 + a.toNat * 256 + b.toNat := by
    have := shiftIn_byteBits (shiftIn C (byteBits a)) b
    rw [hb, shiftIn_cons] at this
    rw [this, shiftIn_byteBits]
    ring
  refine ⟨z2, by dsimp only at hz2; split at hz2 <;> omega, ?_⟩
  rw [hb]
  refine (h1.append (Takes.cons hfeed h2) (by simp)).to ?_ (by simp [hxs, List.replicate_succ])
  simp [hval]

lemma takes_checksum_words (c : UInt32) (hp : d.phase = .checksum) (hP : d.preambleLength = 17)
    (hs : d.syn = 0) (hz : d.zeros = 0) (hpos : d.pos = 0) (hcrc : d.crc = 0)
    (hmatch : Crc32.checksum (d.bytes.take d.length) = c) :
    ∃ d', d.Takes t (wordBits (checksumBytes c)) d'
      (List.replicate 33 none ++
        [(Calibration.ofPayload (d.bytes.take d.length) (t + 33)).toOption]) ∧
    After d d'
      (if ((Calibration.ofPayload (d.bytes.take d.length) (t + 33)).toOption).isSome then 1 else 0)
      0 := by
  have hw : wordBits (checksumBytes c) =
      byteBits c.toUInt8 ++ byteBits (c >>> 8).toUInt8 ++
        true :: (byteBits (c >>> 16).toUInt8 ++ byteBits (c >>> 24).toUInt8 ++ [true]) := by
    simp [checksumBytes, wordBits_pair, wordBits]
  obtain ⟨z1, hz1, h1⟩ := takes_checksum_pair (t := t) c.toUInt8 (c >>> 8).toUInt8 0 hp hP
    hs hz (.inl hpos) (by simp [hcrc])
  have hsync := feed_checksum_sync (t := t + 16)
    (d := { d with
      pos := d.pos + 1
      crc := (0 * 65536 + c.toUInt8.toNat * 256 + (c >>> 8).toUInt8.toNat) * 2 ^ (16 - d.pos * 8)
      syn := 16
      zeros := z1 }) hp hP rfl hz1 (by dsimp only; omega)
  obtain ⟨z2, hz2, h2⟩ := takes_checksum_pair (t := t + 16 + 1) (c >>> 16).toUInt8
    (c >>> 24).toUInt8 (0 * 65536 + c.toUInt8.toNat * 256 + (c >>> 8).toUInt8.toNat)
    (d := { d with
      pos := d.pos + 1 + 1
      crc := (0 * 65536 + c.toUInt8.toNat * 256 + (c >>> 8).toUInt8.toNat) * 2 ^ (16 - d.pos * 8)
      syn := 0
      zeros := 0 }) hp hP rfl rfl (.inr (by dsimp only; omega)) (by simp [hpos])
  have hdone := feed_checksum_done (t := t + 33)
    (d := { d with
      pos := d.pos + 1 + 1 + 1
      crc := ((0 * 65536 + c.toUInt8.toNat * 256 + (c >>> 8).toUInt8.toNat) * 65536 +
        (c >>> 16).toUInt8.toNat * 256 + (c >>> 24).toUInt8.toNat) * 2 ^ (16 - (d.pos + 1 + 1) * 8)
      syn := 16
      zeros := z2 }) hp hP rfl hz2 (by dsimp only; omega) ?hcheck
  case hcheck =>
    dsimp only
    rw [hmatch, hpos, ← swap32_checksumBytes c]
    simp
  rw [hw]
  exact ⟨_, (h1.append (Takes.cons hsync (h2.append (Takes.single hdone) (by simp; ring)))
    (by simp)).to rfl (by simp [List.replicate_succ]), ⟨rfl, rfl, rfl, rfl, rfl, rfl, rfl⟩⟩

/-! ### Words while waiting for a preamble -/

lemma takes_idle_words (xs : List UInt8) (hx : xs.length % 2 = 0) :
    ∀ (d : Decoder) (t : Int), d.phase = .preamble → d.preambleLength = 17 → d.zeros = 0 →
    d.Takes t (wordBits xs) d (List.replicate (wordBits xs).length none) := by
  induction xs using wordBits.induct with
  | case1 a b rest ih =>
    intro d t hp hP hz
    simp only [List.length_cons] at hx
    obtain ⟨z, hz', h⟩ := takes_preamble_bits (byteBits a ++ byteBits b) d t hp hP (by simp [hz])
    have hfeed : ({ d with zeros := z } : Decoder).feed true (t + 16) = (d, none) := by
      rw [feed_preamble (d := { d with zeros := z }) hp (not_start hP (by simpa [hz] using hz'))]
      simp [← hz]
    have hword : d.Takes t (byteBits a ++ byteBits b ++ [true]) d (List.replicate 17 none) :=
      (h.append (Takes.single hfeed) (by simp)).to rfl rfl
    rw [wordBits_pair]
    refine (hword.append (ih (by omega) d (t + 17) hp hP hz) (by simp)).to rfl ?_
    rw [List.replicate_append_replicate]
    congr 1
    simp
    omega
  | case2 a => simp at hx
  | case3 => exact fun d t _ _ _ => takes_nil d t

end Decoder

end Lighthouse.Ootx
