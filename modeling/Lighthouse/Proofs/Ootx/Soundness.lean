import Lighthouse.Proofs.Ootx.Resync
/-!
# What a decoded record was read from

A decoder gives a record only at the last bit of a frame whose every data bit it has read.
Whatever bits were fed and whatever resets came between them, the bits fed since the last reset
then end with seventeen zeros, a one, and the frame of the payload read: its length word, the
payload, a pad byte when the payload is odd, and the CRC-32 of the payload, two bytes a word,
each word followed by a sync bit. The decoder never looks at the sync bits or at the pad byte,
so those may be anything (`syncedBits`, `paddedFrameBytes`); every other bit is the one the
sender puts there.

The bits since the last reset are followed by an invariant (`Sound`): the zero count is a run of
zeros that ends them, and inside a frame the decoder holds what the bits after the start bit
spell (`Reads`).
-/
namespace Lighthouse.Ootx

/-- Bytes in words of two, each word's sixteen bits followed by its own sync bit from `syncs`;
a last word with one byte is that byte's bits alone. -/
def syncedBits : List Bool → List UInt8 → List Bool
  | s :: ss, a :: b :: rest => byteBits a ++ byteBits b ++ s :: syncedBits ss rest
  | _, [a] => byteBits a
  | _, _ => []

def lengthBytes (n : Nat) : List UInt8 := [(n % 256).toUInt8, (n / 256 % 256).toUInt8]

/-- The bytes a frame of `p` carries after its start bit, with `pad` as the pad byte of an odd
payload. -/
def paddedFrameBytes (pad : UInt8) (p : List UInt8) : List UInt8 :=
  lengthBytes p.length ++ p ++ List.replicate (p.length % 2) pad ++
    checksumBytes (Crc32.checksum p)

lemma frameBytes_eq_padded (p : List UInt8) : frameBytes p = paddedFrameBytes 0 p := rfl

lemma length_paddedFrameBytes (pad : UInt8) (p : List UInt8) :
    (paddedFrameBytes pad p).length = 6 + (p.length + p.length % 2) := by
  simp [paddedFrameBytes, lengthBytes, checksumBytes]
  omega

lemma syncedBits_replicate (xs : List UInt8) (h : xs.length % 2 = 0) :
    syncedBits (List.replicate (xs.length / 2) true) xs = wordBits xs := by
  induction xs using wordBits.induct with
  | case1 a b rest ih =>
    simp only [List.length_cons] at h ⊢
    rw [show (rest.length + 1 + 1) / 2 = rest.length / 2 + 1 by omega, List.replicate_succ,
      syncedBits, ih (by omega), wordBits_pair]
    simp
  | case2 a => simp at h
  | case3 => rfl

lemma syncedBits_append_byte (a : UInt8) :
    ∀ (xs : List UInt8) (ss : List Bool), xs.length % 2 = 0 → ss.length = xs.length / 2 →
      syncedBits ss (xs ++ [a]) = syncedBits ss xs ++ byteBits a := by
  intro xs
  induction xs using wordBits.induct with
  | case1 x y rest ih =>
    intro ss h hs
    simp only [List.length_cons] at h hs
    obtain ⟨s, ss, rfl⟩ := List.exists_cons_of_length_eq_add_one
      (show ss.length = rest.length / 2 + 1 by omega)
    simp only [List.length_cons] at hs
    simp [syncedBits, ih ss (by omega) (by omega)]
  | case2 x => intro ss h; simp at h
  | case3 =>
    intro ss _ hs
    obtain rfl : ss = [] := List.length_eq_zero_iff.mp (by simpa using hs)
    simp [syncedBits]

lemma syncedBits_append_word (b : UInt8) (s : Bool) :
    ∀ (xs : List UInt8) (ss : List Bool), xs.length % 2 = 1 → ss.length = xs.length / 2 →
      syncedBits (ss ++ [s]) (xs ++ [b]) = syncedBits ss xs ++ byteBits b ++ [s] := by
  intro xs
  induction xs using wordBits.induct with
  | case1 x y rest ih =>
    intro ss h hs
    simp only [List.length_cons] at h hs
    obtain ⟨s', ss, rfl⟩ := List.exists_cons_of_length_eq_add_one
      (show ss.length = rest.length / 2 + 1 by omega)
    simp only [List.length_cons] at hs
    simp [syncedBits, ih ss (by omega) (by omega)]
  | case2 x =>
    intro ss _ hs
    obtain rfl : ss = [] := List.length_eq_zero_iff.mp (by simpa using hs)
    simp [syncedBits]
  | case3 => intro ss h; simp at h

/-! ### Registers read back as bytes -/

lemma shiftIn_eq_add (c : Nat) (u : List Bool) :
    Decoder.shiftIn c u = c * 2 ^ u.length + Decoder.shiftIn 0 u := by
  induction u generalizing c with
  | nil => simp
  | cons b u ih =>
    rw [Decoder.shiftIn_cons, Decoder.shiftIn_cons, ih, ih (0 * 2 + _), List.length_cons,
      Nat.pow_succ]
    ring

lemma shiftIn_lt (u : List Bool) : Decoder.shiftIn 0 u < 2 ^ u.length := by
  induction u with
  | nil => simp
  | cons b u ih =>
    rw [Decoder.shiftIn_cons, shiftIn_eq_add, List.length_cons, Nat.pow_succ]
    split <;> omega

lemma eq_of_shiftIn_eq : ∀ {u v : List Bool}, u.length = v.length →
    Decoder.shiftIn 0 u = Decoder.shiftIn 0 v → u = v
  | [], [], _, _ => rfl
  | x :: u, y :: v, hl, h => by
    simp only [List.length_cons, Nat.add_right_cancel_iff] at hl
    rw [Decoder.shiftIn_cons, Decoder.shiftIn_cons, shiftIn_eq_add, shiftIn_eq_add (0 * 2 + _),
      hl] at h
    -- a first bit outweighs all the bits after it together
    have hu := shiftIn_lt u
    have hv := shiftIn_lt v
    rw [hl] at hu
    have hx : x = y := by cases x <;> cases y <;> simp at h ⊢ <;> omega
    subst hx
    rw [eq_of_shiftIn_eq hl (by simpa using h)]

lemma byteBits_shiftIn (u : List Bool) (hu : u.length = 8) :
    byteBits (Decoder.shiftIn 0 u).toUInt8 = u := by
  have hlt := shiftIn_lt u
  rw [hu] at hlt
  apply eq_of_shiftIn_eq (by rw [length_byteBits, hu])
  rw [shiftIn_byteBits, Nat.zero_mul, Nat.zero_add, Nat.toUInt8_eq, UInt8.toNat_ofNat',
    Nat.mod_eq_of_lt (by simpa using hlt)]

lemma shiftIn_append_bit (c k : Nat) (u : List Bool) (x : Bool) :
    Decoder.shiftIn c u * 2 ^ (k + 1) ||| ((if x then 1 else 0) <<< k) =
      Decoder.shiftIn c (u ++ [x]) * 2 ^ k := by
  rw [Decoder.or_shiftLeft_bit, Decoder.shiftIn_append, Decoder.shiftIn_cons, Decoder.shiftIn_nil]

lemma syncedBits_close_byte {xs : List UInt8} {ss u : List Bool} (hu : u.length = 8)
    (h : xs.length % 2 = 0) (hs : ss.length = xs.length / 2) :
    syncedBits ss xs ++ u = syncedBits ss (xs ++ [(Decoder.shiftIn 0 u).toUInt8]) := by
  rw [syncedBits_append_byte _ _ _ h hs, byteBits_shiftIn u hu]

lemma syncedBits_close_word {xs : List UInt8} {ss u : List Bool} (x : Bool) (hu : u.length = 8)
    (h : xs.length % 2 = 1) (hs : ss.length = xs.length / 2) :
    syncedBits ss xs ++ u ++ [x] =
      syncedBits (ss ++ [x]) (xs ++ [(Decoder.shiftIn 0 u).toUInt8]) := by
  rw [syncedBits_append_word _ _ _ _ h hs, byteBits_shiftIn u hu]

lemma lengthBytes_swap16 (u : List Bool) (hu : u.length = 16) :
    ∃ a b, u = byteBits a ++ byteBits b ∧
      lengthBytes (swap16 (Decoder.shiftIn 0 u : Int)).toNat = [a, b] := by
  refine ⟨(Decoder.shiftIn 0 (u.take 8)).toUInt8, (Decoder.shiftIn 0 (u.drop 8)).toUInt8, ?_, ?_⟩
  · rw [byteBits_shiftIn _ (by simp [hu]), byteBits_shiftIn _ (by simp [hu]), List.take_append_drop]
  · conv_lhs => rw [← List.take_append_drop 8 u, ← byteBits_shiftIn (u.take 8) (by simp [hu]),
      ← byteBits_shiftIn (u.drop 8) (by simp [hu])]
    generalize (Decoder.shiftIn 0 (u.take 8)).toUInt8 = a
    generalize (Decoder.shiftIn 0 (u.drop 8)).toUInt8 = b
    rw [Decoder.shiftIn_append, shiftIn_byteBits, shiftIn_byteBits, Nat.zero_mul, Nat.zero_add,
      swap16_bytes _ _ a.toNat_lt b.toNat_lt, lengthBytes]
    have ha := a.toNat_lt
    have hb := b.toNat_lt
    simp only [List.cons.injEq, and_true]
    constructor <;> apply UInt8.toNat_inj.mp <;> simp only [Nat.toUInt8_eq, UInt8.toNat_ofNat'] <;>
      omega

lemma checksumBytes_of_toNat (c0 c1 c2 c3 : UInt8) (c : UInt32)
    (h : c3.toNat * 2 ^ 24 + c2.toNat * 2 ^ 16 + c1.toNat * 256 + c0.toNat = c.toNat) :
    [c0, c1, c2, c3] = checksumBytes c := by
  have h0 := c0.toNat_lt
  have h1 := c1.toNat_lt
  have h2 := c2.toNat_lt
  have h3 := c3.toNat_lt
  simp only [checksumBytes, List.cons.injEq, and_true]
  refine ⟨?_, ?_, ?_, ?_⟩ <;> apply UInt8.toNat_inj.mp <;>
    simp [UInt32.toNat_shiftRight, Nat.shiftRight_eq_div_pow] <;> generalize c.toNat = n at h ⊢ <;>
    omega

lemma checksumBytes_of_swap32 (cs : List UInt8) (hc : cs.length = 4) (c : UInt32)
    (h : (swap32 (Decoder.shiftIn 0 (cs.flatMap byteBits) : Int)).toNat = c.toNat) :
    cs = checksumBytes c := by
  rcases cs with _ | ⟨c0, _ | ⟨c1, _ | ⟨c2, _ | ⟨c3, _ | ⟨c4, cs⟩⟩⟩⟩⟩ <;> simp at hc
  have hreg : Decoder.shiftIn 0 ([c0, c1, c2, c3].flatMap byteBits) =
      (c0.toNat * 256 + c1.toNat) * 65536 + c2.toNat * 256 + c3.toNat := by
    simp only [List.flatMap_cons, List.flatMap_nil, List.append_nil, Decoder.shiftIn_append,
      shiftIn_byteBits]
    ring
  rw [hreg, swap32_bytes _ _ _ _ c0.toNat_lt c1.toNat_lt c2.toNat_lt c3.toNat_lt] at h
  exact checksumBytes_of_toNat c0 c1 c2 c3 c h

/-! ### The invariant -/

namespace Decoder

/-- A length word the decoder took: the pad is the length's parity, and the padded payload is
not empty and fits the largest packet. -/
structure Accepted (d : Decoder) : Prop where
  pad : d.pad = d.length % 2
  pos : 0 < d.length
  le : d.length + d.pad ≤ 64

/-- Where the bits of a word stand with `pos` bytes completed and `syn` bits read: in its first
byte up to its boundary bit, or in its second byte up to its sync bit. -/
def WordAt (pos syn : Nat) : Prop :=
  pos % 2 = 0 ∧ syn ≤ 8 ∨ pos % 2 = 1 ∧ 9 ≤ syn ∧ syn ≤ 16

/-- What a decoder inside a frame holds, read off the bits that followed the start bit: the
length word so far; or the length word taken, the whole payload words with their sync bits
`ss`, and the bits `u` of the word under way; or all of the payload, the checksum bytes `cs`
completed and the bits `u` of the next. Registers hold their bits most significant first. -/
inductive Reads : Decoder → List Bool → Prop
  | length {d : Decoder} {u : List Bool} (hp : d.phase = .length) (hu : u.length = d.syn)
      (hs : d.syn ≤ 16) (hreg : d.length = shiftIn 0 u * 2 ^ (16 - d.syn)) : Reads d u
  | payload {d : Decoder} {ss u : List Bool} (hp : d.phase = .payload) (ha : Accepted d)
      (hb : d.bytes.length = d.pos) (hpos : d.pos < d.length + d.pad) (hw : WordAt d.pos d.syn)
      (hu : u.length = d.syn - 8 * (d.pos % 2)) (hss : ss.length = 1 + d.pos / 2)
      (hreg : d.pending = shiftIn 0 u * 2 ^ (8 - u.length)) :
      Reads d (syncedBits ss (lengthBytes d.length ++ d.bytes) ++ u)
  | checksum {d : Decoder} {ss u : List Bool} {cs : List UInt8} (hp : d.phase = .checksum)
      (ha : Accepted d) (hb : d.bytes.length = d.length + d.pad) (hc : cs.length = d.pos)
      (hpos : d.pos ≤ 3) (hw : WordAt d.pos d.syn) (hu : u.length = d.syn - 8 * (d.pos % 2))
      (hss : ss.length = 1 + (d.length + d.pad) / 2 + d.pos / 2)
      (hreg : d.crc = shiftIn 0 (cs.flatMap byteBits ++ u) * 2 ^ (32 - 8 * d.pos - u.length)) :
      Reads d (syncedBits ss (lengthBytes d.length ++ d.bytes ++ cs) ++ u)

variable {d : Decoder} {w : List Bool} {x : Bool} {t : Int}

lemma Reads.withZeros (hr : Reads d w) (z : Nat) : Reads { d with zeros := z } w := by
  cases hr with
  | length hp hu hs hreg => exact .length hp hu hs hreg
  | payload hp ha hb hpos hw hu hss hreg =>
    exact .payload (d := { d with zeros := z }) hp ⟨ha.pad, ha.pos, ha.le⟩ hb hpos hw hu hss hreg
  | checksum hp ha hb hc hpos hw hu hss hreg =>
    exact .checksum (d := { d with zeros := z }) hp ⟨ha.pad, ha.pos, ha.le⟩ hb hc hpos hw hu hss
      hreg

lemma Reads.onLength (hr : Reads d w) (hp : d.phase = .length) (hM : d.maxPacket = 64)
    (hq : (d.onLength x).phase ≠ .preamble) : Reads (d.onLength x) (w ++ [x]) := by
  cases hr with
  | payload hp' => rw [hp] at hp'; cases hp'
  | checksum hp' => rw [hp] at hp'; cases hp'
  | length _ hu hs hreg =>
    by_cases h16 : d.syn = 16
    · rw [h16, Nat.sub_self, Nat.pow_zero, Nat.mul_one] at hreg
      obtain ⟨a, b, rfl, hab⟩ := lengthBytes_swap16 w (by rw [hu, h16])
      -- a refused length sends the decoder back to waiting, which `hq` excludes
      have hacc : 0 < (swap16 d.length).toNat + (swap16 d.length).toNat % 2 ∧
          (swap16 d.length).toNat + (swap16 d.length).toNat % 2 ≤ d.maxPacket := by
        by_contra hrej
        exact hq (by simp only [onLength, wordLength, h16, ↓reduceIte, hrej])
      simp only [onLength, wordLength, h16, ↓reduceIte, hacc, and_self]
      have hbits : byteBits a ++ byteBits b ++ [x] = syncedBits [x] (lengthBytes
          (swap16 d.length).toNat ++ []) ++ [] := by
        rw [hreg, List.append_nil, List.append_nil, hab]
        simp [syncedBits]
      rw [hbits]
      refine .payload rfl ⟨rfl, ?_, ?_⟩ rfl ?_ (.inl ⟨rfl, Nat.zero_le _⟩) rfl (by simp) (by simp) <;>
        dsimp only <;> omega
    · rw [onLength_bit h16]
      refine .length hp (by simp [hu]) (by dsimp only; omega) ?_
      dsimp only
      rw [hreg, show 16 - d.syn = 15 - d.syn + 1 by omega, shiftIn_append_bit,
        show 16 - (d.syn + 1) = 15 - d.syn by omega]

lemma Reads.onPayload (hr : Reads d w) (hp : d.phase = .payload) :
    Reads (d.onPayload x) (w ++ [x]) := by
  cases hr with
  | length hp' => rw [hp] at hp'; cases hp'
  | checksum hp' => rw [hp] at hp'; cases hp'
  | @payload ss u _ ha hb hpos hw hu hss hreg =>
    unfold WordAt at hw
    have heven : (d.length + d.pad) % 2 = 0 := by rw [ha.pad]; omega
    have hlen : (lengthBytes d.length ++ d.bytes).length = 2 + d.pos := by
      simp [lengthBytes, hb]
      omega
    by_cases h8 : d.syn = 8
    · -- the word's first byte is complete
      have hu8 : u.length = 8 := by omega
      rw [hu8, Nat.sub_self, Nat.pow_zero, Nat.mul_one] at hreg
      rw [onPayload_boundary h8 (by omega)]
      have hbits : syncedBits ss (lengthBytes d.length ++ d.bytes) ++ u ++ [x] =
          syncedBits ss (lengthBytes d.length ++ (d.bytes ++ [d.pending.toUInt8])) ++ [x] := by
        rw [← List.append_assoc (lengthBytes _), hreg,
          syncedBits_close_byte hu8 (by omega) (by omega)]
      rw [hbits]
      refine .payload hp ⟨ha.pad, ha.pos, ha.le⟩ (by simp [hb]) ?_ ?_ (by simp; omega) ?_ ?_ <;>
        dsimp only [WordAt]
      · omega
      · omega
      · omega
      · cases x <;> rfl
    by_cases h16 : d.syn = 16
    · -- the word's second byte is complete; its sync bit is read and dropped
      have hu8 : u.length = 8 := by omega
      rw [hu8, Nat.sub_self, Nat.pow_zero, Nat.mul_one] at hreg
      have hbits : syncedBits ss (lengthBytes d.length ++ d.bytes) ++ u ++ [x] =
          syncedBits (ss ++ [x]) (lengthBytes d.length ++ (d.bytes ++ [d.pending.toUInt8])) ++
            [] := by
        rw [List.append_nil, ← List.append_assoc (lengthBytes _), hreg,
          syncedBits_close_word x hu8 (by omega) (by omega)]
      rw [hbits]
      by_cases hlast : d.pos + 1 = d.length + d.pad
      · rw [onPayload_last h16 hlast, ← List.append_nil (lengthBytes _ ++ _)]
        refine .checksum rfl ⟨ha.pad, ha.pos, ha.le⟩ (by simp [hb, hlast]) rfl (Nat.zero_le 3)
          (.inl ⟨rfl, Nat.zero_le 8⟩) rfl ?_ (by simp)
        simp only [List.length_append, List.length_singleton]
        omega
      · rw [onPayload_sync h16 hlast]
        refine .payload hp ⟨ha.pad, ha.pos, ha.le⟩ (by simp [hb]) ?_ ?_ ?_ ?_ rfl <;>
          dsimp only [WordAt]
        · omega
        · omega
        · simp only [List.length_nil]
          omega
        · simp only [List.length_append, List.length_singleton]
          omega
    · -- a bit inside a byte
      rw [onPayload_bit h8 h16, List.append_assoc]
      refine .payload hp ⟨ha.pad, ha.pos, ha.le⟩ hb hpos ?_ ?_ hss ?_ <;> dsimp only [WordAt]
      · omega
      · simp only [List.length_append, List.length_singleton]
        omega
      · rw [hreg, show d.syn % 8 = u.length by omega, List.length_append, List.length_singleton,
          show 8 - u.length = 7 - u.length + 1 by omega, shiftIn_append_bit,
          show 8 - (u.length + 1) = 7 - u.length by omega]

lemma Reads.onChecksum (hr : Reads d w) (hp : d.phase = .checksum)
    (hq : (d.onChecksum x t).1.phase ≠ .preamble) : Reads (d.onChecksum x t).1 (w ++ [x]) := by
  cases hr with
  | length hp' => rw [hp] at hp'; cases hp'
  | payload hp' => rw [hp] at hp'; cases hp'
  | @checksum ss u cs _ ha hb hc hpos hw hu hss hreg =>
    unfold WordAt at hw
    have heven : (d.length + d.pad) % 2 = 0 := by rw [ha.pad]; omega
    have hlen : (lengthBytes d.length ++ d.bytes ++ cs).length = 2 + (d.length + d.pad) + d.pos := by
      simp [lengthBytes, hb, hc]
      omega
    by_cases h8 : d.syn = 8
    · -- a first checksum byte of a word is complete
      have hu8 : u.length = 8 := by omega
      rw [onChecksum_boundary h8 (by omega)]
      have hbits : syncedBits ss (lengthBytes d.length ++ d.bytes ++ cs) ++ u ++ [x] =
          syncedBits ss (lengthBytes d.length ++ d.bytes ++ (cs ++ [(shiftIn 0 u).toUInt8])) ++
            [x] := by
        rw [← List.append_assoc (lengthBytes _ ++ _),
          syncedBits_close_byte hu8 (by omega) (by omega)]
      rw [hbits]
      refine .checksum hp ⟨ha.pad, ha.pos, ha.le⟩ hb (by simp [hc]) ?_ ?_ (by simp; omega) ?_ ?_ <;>
        dsimp only [WordAt]
      · omega
      · omega
      · omega
      · rw [hreg, List.flatMap_append, List.flatMap_singleton, byteBits_shiftIn u hu8, hu8,
          show 32 - 8 * d.pos - 8 = 31 - (d.pos + 1) * 8 + 1 by omega, shiftIn_append_bit,
          List.length_singleton, show 32 - 8 * (d.pos + 1) - 1 = 31 - (d.pos + 1) * 8 by omega]
    by_cases h16 : d.syn = 16
    · -- a second checksum byte is complete; the frame's last bit ends it, `hq` excludes that
      have hu8 : u.length = 8 := by omega
      have hlast : d.pos + 1 ≠ 4 := by
        intro hlast
        exact hq (by rw [onChecksum_last h16 hlast])
      rw [onChecksum_sync h16 hlast]
      have hbits : syncedBits ss (lengthBytes d.length ++ d.bytes ++ cs) ++ u ++ [x] =
          syncedBits (ss ++ [x])
            (lengthBytes d.length ++ d.bytes ++ (cs ++ [(shiftIn 0 u).toUInt8])) ++ [] := by
        rw [List.append_nil, ← List.append_assoc (lengthBytes _ ++ _),
          syncedBits_close_word x hu8 (by omega) (by omega)]
      rw [hbits]
      refine .checksum hp ⟨ha.pad, ha.pos, ha.le⟩ hb (by simp [hc]) ?_ ?_ ?_ ?_ ?_ <;>
        dsimp only [WordAt]
      · omega
      · omega
      · simp only [List.length_nil]
        omega
      · simp only [List.length_append, List.length_singleton]
        omega
      · rw [hreg, List.flatMap_append, List.flatMap_singleton, byteBits_shiftIn u hu8, hu8,
          List.append_nil, List.length_nil, show 32 - 8 * d.pos - 8 = 32 - 8 * (d.pos + 1) - 0 by
            omega]
    · -- a bit inside a byte
      rw [onChecksum_bit h8 h16, List.append_assoc]
      refine .checksum hp ⟨ha.pad, ha.pos, ha.le⟩ hb hc hpos ?_ ?_ hss ?_ <;> dsimp only [WordAt]
      · omega
      · simp only [List.length_append, List.length_singleton]
        omega
      · rw [hreg, show d.syn % 8 = u.length by omega, List.length_append, List.length_singleton,
          show 32 - 8 * d.pos - u.length = 31 - (d.pos * 8 + u.length) + 1 by omega,
          shiftIn_append_bit, List.append_assoc,
          show 32 - 8 * d.pos - (u.length + 1) = 31 - (d.pos * 8 + u.length) by omega]

lemma finish_eq_some {R : Calibration} (h : (d.finish t).2 = some R) :
    (Crc32.checksum (d.bytes.take d.length)).toNat = (swap32 d.crc).toNat ∧
      Calibration.ofPayload (d.bytes.take d.length) t = .ok R := by
  unfold finish at h
  dsimp only at h
  split at h
  · cases h
  · rename_i hcrc
    refine ⟨not_not.mp hcrc, ?_⟩
    split at h
    · cases h
    · rename_i r hr
      cases h
      exact hr

lemma length_of_ofPayload {p : List UInt8} {R : Calibration} (h : Calibration.ofPayload p t = .ok R) :
    33 ≤ p.length := by
  unfold Calibration.ofPayload at h
  split at h
  · cases h
  · rename_i hlen
    simp only [payloadLength] at hlen
    omega

lemma eq_replicate_headD {α : Type} (l : List α) (a : α) (h : l.length ≤ 1) :
    l = List.replicate l.length (l.headD a) := by
  match l, h with
  | [], _ => rfl
  | [b], _ => rfl

lemma Reads.record (hr : Reads d w) (hp : d.phase = .checksum) {R : Calibration}
    (hR : (d.onChecksum x t).2 = some R) :
    ∃ p : List UInt8, 33 ≤ p.length ∧ p.length + p.length % 2 ≤ 64 ∧
      Calibration.ofPayload p t = .ok R ∧ (swap32 d.crc).toNat = (Crc32.checksum p).toNat ∧
      ∃ syncs pad, syncs.length = (paddedFrameBytes pad p).length / 2 ∧
        w ++ [x] = syncedBits syncs (paddedFrameBytes pad p) := by
  cases hr with
  | length hp' => rw [hp] at hp'; cases hp'
  | payload hp' => rw [hp] at hp'; cases hp'
  | @checksum ss u cs _ ha hb hc hpos hw hu hss hreg =>
    unfold WordAt at hw
    -- only the sync bit of the checksum's second word ends the frame
    have hend : d.syn = 16 ∧ d.pos = 3 := by
      by_cases h8 : d.syn = 8
      · rw [onChecksum_boundary h8 (by omega)] at hR
        cases hR
      by_cases h16 : d.syn = 16
      · by_cases hlast : d.pos + 1 = 4
        · exact ⟨h16, by omega⟩
        · rw [onChecksum_sync h16 hlast] at hR
          cases hR
      · rw [onChecksum_bit h8 h16] at hR
        cases hR
    obtain ⟨h16, h3⟩ := hend
    rw [onChecksum_last h16 (by omega)] at hR
    obtain ⟨hcrc, hpay⟩ := finish_eq_some hR
    dsimp only at hcrc hpay
    have hu8 : u.length = 8 := by omega
    have heven : (d.length + d.pad) % 2 = 0 := by rw [ha.pad]; omega
    generalize hq : (d.bytes.drop d.length).headD 0 = q
    have hlenp : (d.bytes.take d.length).length = d.length := by
      rw [List.length_take, hb]
      omega
    have hpad : d.bytes.drop d.length = List.replicate (d.length % 2) q := by
      have h := eq_replicate_headD (d.bytes.drop d.length) 0
        (by rw [List.length_drop, hb, ha.pad]; omega)
      rwa [hq, List.length_drop, hb, ha.pad, Nat.add_sub_cancel_left] at h
    have hbytes : d.bytes = d.bytes.take d.length ++ List.replicate (d.length % 2) q := by
      rw [← hpad, List.take_append_drop]
    have hcs : cs ++ [(shiftIn 0 u).toUInt8] =
        checksumBytes (Crc32.checksum (d.bytes.take d.length)) := by
      apply checksumBytes_of_swap32 _ (by simp [hc, h3])
      rw [List.flatMap_append, List.flatMap_singleton, byteBits_shiftIn u hu8, hcrc, hreg, h3,
        hu8, show 32 - 8 * 3 - 8 = 0 from rfl, Nat.pow_zero, Nat.mul_one]
    have hframe : lengthBytes d.length ++ d.bytes ++ (cs ++ [(shiftIn 0 u).toUInt8]) =
        paddedFrameBytes q (d.bytes.take d.length) := by
      rw [paddedFrameBytes, hlenp, ← hcs]
      conv_lhs => rw [hbytes]
      simp only [List.append_assoc]
    refine ⟨d.bytes.take d.length, length_of_ofPayload hpay, ?_, hpay, hcrc.symm, ss ++ [x], q,
      ?_, ?_⟩
    · rw [hlenp, ← ha.pad]
      exact ha.le
    · rw [length_paddedFrameBytes, hlenp, List.length_append, List.length_singleton, hss, ← ha.pad]
      omega
    · rw [← hframe, ← List.append_assoc (lengthBytes _ ++ _), syncedBits_close_word x hu8 ?_ ?_]
      · simp only [List.length_append, lengthBytes, List.length_cons, List.length_nil, hb, hc]
        omega
      · simp only [List.length_append, lengthBytes, List.length_cons, List.length_nil, hb, hc, hss]
        omega

/-! ### Every bit since the last reset -/

lemma onChecksum_zeros : (d.onChecksum x t).1.zeros = d.zeros ∨ (d.onChecksum x t).1.zeros = 0 := by
  unfold onChecksum
  dsimp only
  split_ifs <;> simp

lemma feed_zeros : (d.feed x t).1.zeros = 0 ∨ x = false ∧ (d.feed x t).1.zeros = d.zeros + 1 := by
  by_cases hs : x = true ∧ (d.zeros : Int) ≥ d.preambleLength
  · rw [feed, if_pos hs]
    exact .inl rfl
  have hz : (if x then 0 else d.zeros + 1) = 0 ∨ x = false ∧ (if x then 0 else d.zeros + 1) = d.zeros + 1 := by
    cases x <;> simp
  cases hp : d.phase with
  | preamble => rw [feed_preamble hp hs]; exact hz
  | length => rw [feed_length hp hs, onLength_zeros]; exact hz
  | payload => rw [feed_payload hp hs, onPayload_zeros]; exact hz
  | checksum =>
    rw [feed_checksum hp hs]
    rcases onChecksum_zeros (d := { d with zeros := if x then 0 else d.zeros + 1 }) (x := x) (t := t)
      with h | h
    · rw [h]
      exact hz
    · exact .inl h

/-- The invariant of a decoder and the bits `h` fed to it since its last reset: the standard
parameters, a zero count that the bits end with, and inside a frame the bits since seventeen zeros
and a one spelling what the decoder holds. -/
structure Sound (d : Decoder) (h : List Bool) : Prop where
  preambleLength : d.preambleLength = 17
  maxPacket : d.maxPacket = 64
  zeros : ∃ pre, h = pre ++ List.replicate d.zeros false
  frame : d.phase ≠ .preamble → ∃ pre w, h = pre ++ List.replicate 17 false ++ true :: w ∧ Reads d w

variable {h : List Bool}

lemma Sound.feed (hs : Sound d h) : Sound (d.feed x t).1 (h ++ [x]) := by
  have hk := feed_keeps (d := d) (b := x) (t := t)
  refine ⟨hk.preambleLength.trans hs.preambleLength, hk.maxPacket.trans hs.maxPacket, ?_, ?_⟩
  · obtain ⟨pre, hpre⟩ := hs.zeros
    rcases feed_zeros (d := d) (x := x) (t := t) with hz | ⟨rfl, hz⟩
    · exact ⟨h ++ [x], by rw [hz]; simp⟩
    · exact ⟨pre, by rw [hz, hpre, List.replicate_succ', List.append_assoc]⟩
  intro hq
  by_cases hst : x = true ∧ (d.zeros : Int) ≥ d.preambleLength
  · -- a one after seventeen zeros starts a frame, whatever the decoder was doing
    obtain ⟨rfl, hz17⟩ := hst
    obtain ⟨pre, hpre⟩ := hs.zeros
    rw [hs.preambleLength] at hz17
    rw [Decoder.feed, if_pos ⟨rfl, by rw [hs.preambleLength]; exact hz17⟩]
    refine ⟨pre ++ List.replicate (d.zeros - 17) false, [], ?_, .length rfl rfl (Nat.zero_le 16) rfl⟩
    obtain ⟨k, hk⟩ : ∃ k, d.zeros = k + 17 := ⟨d.zeros - 17, by omega⟩
    rw [hpre, hk, ← List.replicate_append_replicate]
    simp
  cases hp : d.phase with
  | preamble =>
    rw [feed_preamble hp hst] at hq
    exact absurd hp hq
  | length =>
    obtain ⟨pre, w, rfl, hr⟩ := hs.frame (by simp [hp])
    rw [feed_length hp hst] at hq ⊢
    exact ⟨pre, w ++ [x], by simp, (hr.withZeros _).onLength hp hs.maxPacket hq⟩
  | payload =>
    obtain ⟨pre, w, rfl, hr⟩ := hs.frame (by simp [hp])
    rw [feed_payload hp hst]
    exact ⟨pre, w ++ [x], by simp, (hr.withZeros _).onPayload hp⟩
  | checksum =>
    obtain ⟨pre, w, rfl, hr⟩ := hs.frame (by simp [hp])
    rw [feed_checksum hp hst] at hq ⊢
    exact ⟨pre, w ++ [x], by simp, (hr.withZeros _).onChecksum hp hq⟩

lemma Sound.reset (hs : Sound d h) : Sound d.reset [] :=
  ⟨hs.preambleLength, hs.maxPacket, ⟨[], rfl⟩, fun hq => absurd rfl hq⟩

/-- A fresh standard decoder reaches `d` by bits and resets, `h` being the bits fed since the
last reset (or since the start). -/
inductive Hears : Decoder → List Bool → Prop
  | init : Hears standard []
  | feed {d : Decoder} {h : List Bool} (x : Bool) (t : Int) : Hears d h → Hears (d.feed x t).1 (h ++ [x])
  | reset {d : Decoder} {h : List Bool} : Hears d h → Hears d.reset []

lemma Hears.sound (hd : Hears d h) : Sound d h := by
  induction hd with
  | init => exact ⟨rfl, rfl, ⟨[], rfl⟩, fun hq => absurd rfl hq⟩
  | feed x t _ ih => exact ih.feed
  | reset _ ih => exact ih.reset

lemma Hears.run (hd : Hears d h) (t : Int) (bs : List Bool) : Hears (d.run t bs) (h ++ bs) := by
  induction bs generalizing d h t with
  | nil => simpa using hd
  | cons b bs ih => simpa using ih (hd.feed b t) (t + 1)

lemma frameBits_synced (p : List UInt8) (hlen : p.length < 65536) :
    frameBits p = .ok (List.replicate 17 false ++ true ::
      syncedBits (List.replicate ((paddedFrameBytes 0 p).length / 2) true) (paddedFrameBytes 0 p)) := by
  rw [frameBits_ok p hlen, frameBytes_eq_padded, syncedBits_replicate _
    (by rw [length_paddedFrameBytes]; omega)]
  simp

/-- Whatever bits and resets a fresh standard decoder was given, a record it gives at a bit
stamped `t` is the reading, stamped `t`, of a payload `p` of a record's length whose padded
length fits the largest packet; the checksum received is that of `p`; and the bits fed since the
last reset, this one included, end with seventeen zeros and the frame a sender writes for `p`
after its preamble (the last of `frameBits p`), but for its sync bits and its pad byte, which the
decoder does not read. -/
theorem heard_record_sound (hd : Hears d h) {R : Calibration} (hR : (d.feed x t).2 = some R) :
    ∃ p : List UInt8, 33 ≤ p.length ∧ p.length + p.length % 2 ≤ 64 ∧
      Calibration.ofPayload p t = .ok R ∧ (swap32 d.crc).toNat = (Crc32.checksum p).toNat ∧
      frameBits p = .ok (List.replicate 17 false ++ true ::
        syncedBits (List.replicate ((paddedFrameBytes 0 p).length / 2) true)
          (paddedFrameBytes 0 p)) ∧
      ∃ pre syncs pad, syncs.length = (paddedFrameBytes pad p).length / 2 ∧
        h ++ [x] = pre ++ List.replicate 17 false ++ true :: syncedBits syncs (paddedFrameBytes pad p) := by
  have hs := hd.sound
  by_cases hst : x = true ∧ (d.zeros : Int) ≥ d.preambleLength
  · rw [Decoder.feed, if_pos hst] at hR
    cases hR
  cases hp : d.phase with
  | preamble => rw [feed_preamble hp hst] at hR; cases hR
  | length => rw [feed_length hp hst] at hR; cases hR
  | payload => rw [feed_payload hp hst] at hR; cases hR
  | checksum =>
    rw [feed_checksum hp hst] at hR
    obtain ⟨pre, w, rfl, hr⟩ := hs.frame (by simp [hp])
    obtain ⟨p, h33, h64, hpay, hcrc, syncs, pad, hlen, hbits⟩ := (hr.withZeros (if x then 0 else d.zeros + 1)).record hp hR
    refine ⟨p, h33, h64, hpay, hcrc, frameBits_synced p (by omega), pre, syncs, pad, hlen, ?_⟩
    rw [List.append_assoc, List.cons_append, hbits]

lemma wordBits_eq_concat (xs : List UInt8) (hne : xs ≠ []) : ∃ pre, wordBits xs = pre ++ [true] := by
  induction xs using wordBits.induct with
  | case1 a b rest ih =>
    cases rest with
    | nil => exact ⟨byteBits a ++ byteBits b, rfl⟩
    | cons c rest =>
      obtain ⟨pre, hpre⟩ := ih (List.cons_ne_nil _ _)
      exact ⟨byteBits a ++ byteBits b ++ [true] ++ pre, by rw [wordBits_pair, hpre]; simp⟩
  | case2 a => exact ⟨byteBits a, rfl⟩
  | case3 => exact absurd rfl hne

lemma standard_feed_frame_last (p : List UInt8) (hlen : p.length < 65536) (t : Int) :
    ((standard.run t (List.replicate 17 false ++ [true] ++ wordBits (frameBytes p)).dropLast).feed
      true (t + (frameLength p - 1 : Nat))).2 = frameAnswer p (t + (frameLength p - 1 : Nat)) := by
  obtain ⟨pre, hpre⟩ := wordBits_eq_concat (frameBytes p) (List.cons_ne_nil _ _)
  obtain ⟨d', hT, -⟩ := takes_frame (d := standard) (t := t) p hlen rfl rfl rfl rfl
  have hL := length_frame p
  rw [hpre, ← List.append_assoc] at hT hL
  rw [hpre, ← List.append_assoc, List.dropLast_concat]
  have hq : (List.replicate 17 false ++ [true] ++ pre).length = frameLength p - 1 := by
    rw [← hL]
    simp
  have h := hT.answers
  rw [answers_append, hq] at h
  simp only [answers_cons, answers_nil] at h
  exact List.singleton_inj.mp (List.append_inj' h rfl).2

/-- The record of an all-zero payload, heard at the last bit of its frame. -/
theorem zero_payload_heard_sound :
    Hears (standard.run 0
        (List.replicate 17 false ++ [true] ++ wordBits (frameBytes (List.replicate 33 0))).dropLast)
      (List.replicate 17 false ++ [true] ++ wordBits (frameBytes (List.replicate 33 0))).dropLast ∧
    ((standard.run 0 (List.replicate 17 false ++ [true] ++
        wordBits (frameBytes (List.replicate 33 0))).dropLast).feed true 357).2 =
      some { serial := "0", timestamp := 357 } ∧
    ∃ p : List UInt8, 33 ≤ p.length ∧ p.length + p.length % 2 ≤ 64 ∧
      Calibration.ofPayload p 357 = .ok { serial := "0", timestamp := 357 } ∧
      (swap32 (standard.run 0 (List.replicate 17 false ++ [true] ++
        wordBits (frameBytes (List.replicate 33 0))).dropLast).crc).toNat =
          (Crc32.checksum p).toNat ∧
      frameBits p = .ok (List.replicate 17 false ++ true ::
        syncedBits (List.replicate ((paddedFrameBytes 0 p).length / 2) true)
          (paddedFrameBytes 0 p)) ∧
      ∃ pre syncs pad, syncs.length = (paddedFrameBytes pad p).length / 2 ∧
        (List.replicate 17 false ++ [true] ++
          wordBits (frameBytes (List.replicate 33 0))).dropLast ++ [true] =
            pre ++ List.replicate 17 false ++ true :: syncedBits syncs (paddedFrameBytes pad p) := by
  have hd := Hears.init.run 0
    (List.replicate 17 false ++ [true] ++ wordBits (frameBytes (List.replicate 33 0))).dropLast
  rw [List.nil_append] at hd
  have hR := standard_feed_frame_last (List.replicate 33 0) (by simp) 0
  have ht : (0 : Int) + ((frameLength (List.replicate 33 (0 : UInt8)) - 1 : Nat) : Int) = 357 := by
    decide
  rw [ht] at hR
  have hR' : ((standard.run 0 (List.replicate 17 false ++ [true] ++
      wordBits (frameBytes (List.replicate 33 0))).dropLast).feed true 357).2 =
        some { serial := "0", timestamp := 357 } := hR.trans rfl
  exact ⟨hd, hR', heard_record_sound hd hR'⟩

end Decoder

end Lighthouse.Ootx
