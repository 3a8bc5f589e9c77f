import Lighthouse.Ootx.Decoder
import Mathlib.Tactic.Ring
/-!
# A decoder fed a stream of bits

`Decoder.run` and `Decoder.answers` feed a list of bits in order, the `i`-th with timecode
`t + i`, and give the decoder at the end and what each bit gave. Inside a frame the decoder fills
three registers bit by bit, most significant bit first: the length word, the payload byte being
read and the checksum. The lemmas below say what one bit does in each phase, and then what a run
of bits inside one register does, as long as the zeros among them cannot end a preamble.
-/
namespace Lighthouse.Ootx

namespace Decoder

/-- The decoder after taking `bits`, the `i`-th with timecode `t + i`. -/
def run (d : Decoder) (t : Int) : List Bool → Decoder
  | [] => d
  | b :: bs => (d.feed b t).1.run (t + 1) bs

/-- What each of `bits` gave, in order. -/
def answers (d : Decoder) (t : Int) : List Bool → List (Option Calibration)
  | [] => []
  | b :: bs => (d.feed b t).2 :: (d.feed b t).1.answers (t + 1) bs

@[simp] lemma run_nil (d : Decoder) (t : Int) : d.run t [] = d := rfl

@[simp] lemma run_cons (d : Decoder) (t : Int) (b : Bool) (bs : List Bool) :
    d.run t (b :: bs) = (d.feed b t).1.run (t + 1) bs := rfl

@[simp] lemma answers_nil (d : Decoder) (t : Int) : d.answers t [] = [] := rfl

@[simp] lemma answers_cons (d : Decoder) (t : Int) (b : Bool) (bs : List Bool) :
    d.answers t (b :: bs) = (d.feed b t).2 :: (d.feed b t).1.answers (t + 1) bs := rfl

lemma run_append (d : Decoder) (t : Int) (xs ys : List Bool) :
    d.run t (xs ++ ys) = (d.run t xs).run (t + xs.length) ys := by
  induction xs generalizing d t with
  | nil => simp
  | cons b bs ih =>
    simp only [List.cons_append, run_cons, ih, List.length_cons]
    congr 1
    omega

lemma answers_append (d : Decoder) (t : Int) (xs ys : List Bool) :
    d.answers t (xs ++ ys) = d.answers t xs ++ (d.run t xs).answers (t + xs.length) ys := by
  induction xs generalizing d t with
  | nil => simp
  | cons b bs ih =>
    simp only [List.cons_append, answers_cons, ih, run_cons, List.length_cons]
    congr 3
    omega

@[simp] lemma length_answers (d : Decoder) (t : Int) (bs : List Bool) :
    (d.answers t bs).length = bs.length := by
  induction bs generalizing d t with
  | nil => rfl
  | cons b bs ih => simp [ih]

/-- Taking `bits` from timecode `t` leads `d` to `d'`, the bits giving `out` in order. -/
structure Takes (d : Decoder) (t : Int) (bits : List Bool) (d' : Decoder)
    (out : List (Option Calibration)) : Prop where
  run : d.run t bits = d'
  answers : d.answers t bits = out

lemma takes_nil (d : Decoder) (t : Int) : d.Takes t [] d [] := ⟨rfl, rfl⟩

lemma Takes.cons {d d' d'' : Decoder} {t : Int} {b : Bool} {bs : List Bool}
    {r : Option Calibration} {out : List (Option Calibration)} (h : d.feed b t = (d', r))
    (h' : d'.Takes (t + 1) bs d'' out) : d.Takes t (b :: bs) d'' (r :: out) :=
  ⟨by simp [h, h'.run], by simp [h, h'.answers]⟩

lemma Takes.single {d d' : Decoder} {t : Int} {b : Bool} {r : Option Calibration}
    (h : d.feed b t = (d', r)) : d.Takes t [b] d' [r] :=
  Takes.cons h (takes_nil d' (t + 1))

lemma Takes.append {d d' d'' : Decoder} {t t' : Int} {xs ys : List Bool}
    {as bs : List (Option Calibration)} (h : d.Takes t xs d' as) (h' : d'.Takes t' ys d'' bs)
    (ht : t' = t + xs.length) : d.Takes t (xs ++ ys) d'' (as ++ bs) :=
  ⟨by rw [run_append, h.run, ← ht, h'.run], by rw [answers_append, h.answers, h.run, ← ht, h'.answers]⟩

lemma Takes.to {d d₁ d₂ : Decoder} {t : Int} {bits : List Bool}
    {out out' : List (Option Calibration)} (h : d.Takes t bits d₁ out) (hd : d₁ = d₂)
    (ho : out = out') : d.Takes t bits d₂ out' :=
  hd ▸ ho ▸ h

/-! ### Registers -/

/-- The number a register holds after `bits` are shifted in, most significant first, behind
the value `c`. -/
def shiftIn (c : Nat) (bits : List Bool) : Nat :=
  bits.foldl (fun acc b => 2 * acc + if b then 1 else 0) c

@[simp] lemma shiftIn_nil (c : Nat) : shiftIn c [] = c := rfl

@[simp] lemma shiftIn_cons (c : Nat) (b : Bool) (bs : List Bool) :
    shiftIn c (b :: bs) = shiftIn (2 * c + if b then 1 else 0) bs := rfl

lemma shiftIn_append (c : Nat) (xs ys : List Bool) :
    shiftIn c (xs ++ ys) = shiftIn (shiftIn c xs) ys := by
  simp [shiftIn, List.foldl_append]

lemma or_shiftLeft_bit (c k : Nat) (b : Bool) :
    c * 2 ^ (k + 1) ||| ((if b then 1 else 0) <<< k) = (2 * c + if b then 1 else 0) * 2 ^ k := by
  have hlt : (if b then 1 else 0) <<< k < 2 ^ (k + 1) := by
    rw [Nat.shiftLeft_eq, Nat.pow_succ]
    cases b <;> simp
  rw [Nat.mul_comm c, ← Nat.two_pow_add_eq_or_of_lt hlt, Nat.shiftLeft_eq, Nat.pow_succ]
  ring

/-! ### One bit

A one ends a preamble only after seventeen zeros; below that every bit goes to the handler of
the phase, with the zero count updated first. -/

variable {d : Decoder} {b : Bool} {t : Int}

lemma not_start (hP : d.preambleLength = 17) (hz : d.zeros ≤ 16) :
    ¬(b = true ∧ (d.zeros : Int) ≥ d.preambleLength) := by
  rw [hP]
  omega

lemma feed_preamble (hp : d.phase = .preamble)
    (h : ¬(b = true ∧ (d.zeros : Int) ≥ d.preambleLength)) :
    d.feed b t = ({ d with zeros := if b then 0 else d.zeros + 1 }, none) := by
  cases b <;> simp_all [feed]

lemma feed_length (hp : d.phase = .length)
    (h : ¬(b = true ∧ (d.zeros : Int) ≥ d.preambleLength)) :
    d.feed b t = ({ d with zeros := if b then 0 else d.zeros + 1 }.onLength b, none) := by
  cases b <;> simp_all [feed]

lemma feed_payload (hp : d.phase = .payload)
    (h : ¬(b = true ∧ (d.zeros : Int) ≥ d.preambleLength)) :
    d.feed b t = ({ d with zeros := if b then 0 else d.zeros + 1 }.onPayload b, none) := by
  cases b <;> simp_all [feed]

lemma feed_checksum (hp : d.phase = .checksum)
    (h : ¬(b = true ∧ (d.zeros : Int) ≥ d.preambleLength)) :
    d.feed b t = { d with zeros := if b then 0 else d.zeros + 1 }.onChecksum b t := by
  cases b <;> simp_all [feed]

lemma onLength_bit (hs : d.syn ≠ 16) :
    d.onLength b =
      { d with length := d.length ||| ((if b then 1 else 0) <<< (15 - d.syn))
               syn := d.syn + 1 } := by
  simp [onLength, wordLength, hs]

lemma onPayload_bit (h8 : d.syn ≠ 8) (h16 : d.syn ≠ 16) :
    d.onPayload b =
      { d with pending := d.pending ||| ((if b then 1 else 0) <<< (7 - d.syn % 8))
               syn := d.syn + 1 } := by
  simp [onPayload, wordLength, h8, h16]

lemma onPayload_boundary (h8 : d.syn = 8) (hpos : d.pos + 1 ≠ d.length + d.pad) :
    d.onPayload b =
      { d with pos := d.pos + 1, bytes := d.bytes ++ [d.pending.toUInt8]
               pending := (if b then 1 else 0) <<< 7, syn := 9 } := by
  simp [onPayload, wordLength, h8, hpos]

lemma onPayload_sync (h16 : d.syn = 16) (hpos : d.pos + 1 ≠ d.length + d.pad) :
    d.onPayload b =
      { d with pos := d.pos + 1, bytes := d.bytes ++ [d.pending.toUInt8], pending := 0
               syn := 0 } := by
  simp [onPayload, wordLength, h16, hpos]

lemma onPayload_last (h16 : d.syn = 16) (hpos : d.pos + 1 = d.length + d.pad) :
    d.onPayload b =
      { d with pos := 0, bytes := d.bytes ++ [d.pending.toUInt8], pending := 0
               phase := .checksum, syn := 0, crc := 0 } := by
  simp [onPayload, wordLength, h16, hpos]

lemma onChecksum_bit (h8 : d.syn ≠ 8) (h16 : d.syn ≠ 16) :
    d.onChecksum b t =
      ({ d with crc := d.crc ||| ((if b then 1 else 0) <<< (31 - (d.pos * 8 + d.syn % 8)))
                syn := d.syn + 1 }, none) := by
  simp [onChecksum, wordLength, h8, h16]

lemma onChecksum_boundary (h8 : d.syn = 8) (hpos : d.pos + 1 ≠ 4) :
    d.onChecksum b t =
      ({ d with pos := d.pos + 1
                crc := d.crc ||| ((if b then 1 else 0) <<< (31 - (d.pos + 1) * 8))
                syn := 9 }, none) := by
  simp [onChecksum, wordLength, h8, hpos]

lemma onChecksum_sync (h16 : d.syn = 16) (hpos : d.pos + 1 ≠ 4) :
    d.onChecksum b t = ({ d with pos := d.pos + 1, syn := 0 }, none) := by
  simp [onChecksum, wordLength, h16, hpos]

lemma onChecksum_last (h16 : d.syn = 16) (hpos : d.pos + 1 = 4) :
    d.onChecksum b t =
      ({ ({ d with pos := 4 }.finish t).1 with
          phase := .preamble, pos := 0, syn := 0, zeros := 0, length := 0 },
        ({ d with pos := 4 }.finish t).2) := by
  simp [onChecksum, wordLength, h16, hpos]

/-! ### Runs of bits inside one register

Starting at most sixteen zeros short of a preamble, a run of bits inside one register never ends
a preamble and gives nothing. Each lemma carries the register's value so far as `c` times the
weight of the next free bit. -/

lemma takes_preamble_bits (bs : List Bool) : ∀ (d : Decoder) (t : Int),
    d.phase = .preamble → d.preambleLength = 17 → d.zeros + bs.length ≤ 16 →
    ∃ z ≤ d.zeros + bs.length, d.Takes t bs { d with zeros := z } (List.replicate bs.length none) := by
  induction bs with
  | nil => intro d t _ _ _; exact ⟨d.zeros, by simp, takes_nil d t⟩
  | cons b bs ih =>
    intro d t hp hP hz
    simp only [List.length_cons] at hz ⊢
    obtain ⟨z1, hz1, hzdef⟩ : ∃ z1, z1 ≤ d.zeros + 1 ∧ (if b then 0 else d.zeros + 1) = z1 :=
      ⟨_, by split <;> omega, rfl⟩
    have hfeed : d.feed b t = ({ d with zeros := z1 }, none) := by
      rw [feed_preamble hp (not_start hP (by omega)), hzdef]
    obtain ⟨z, hz', h⟩ := ih { d with zeros := z1 } (t + 1) hp hP (by dsimp only; omega)
    exact ⟨z, by dsimp only at hz'; omega, Takes.cons hfeed h⟩

lemma takes_length_bits (bs : List Bool) : ∀ (d : Decoder) (c r : Nat) (t : Int),
    d.phase = .length → d.preambleLength = 17 → d.syn + bs.length + r = 16 →
    d.zeros + bs.length ≤ 16 → d.length = c * 2 ^ (16 - d.syn) →
    ∃ z ≤ d.zeros + bs.length, d.Takes t bs
      { d with length := shiftIn c bs * 2 ^ r, syn := 16 - r, zeros := z }
      (List.replicate bs.length none) := by
  induction bs with
  | nil =>
    intro d c r t _ _ hs _ hL
    refine ⟨d.zeros, by simp, (takes_nil d t).to ?_ rfl⟩
    simp only [List.length_nil, Nat.add_zero] at hs
    obtain rfl : r = 16 - d.syn := by omega
    rw [shiftIn_nil, ← hL, show 16 - (16 - d.syn) = d.syn by omega]
  | cons b bs ih =>
    intro d c r t hp hP hs hz hL
    simp only [List.length_cons] at hs hz ⊢
    obtain ⟨z1, hz1, hzdef⟩ : ∃ z1, z1 ≤ d.zeros + 1 ∧ (if b then 0 else d.zeros + 1) = z1 :=
      ⟨_, by split <;> omega, rfl⟩
    have hreg : d.length ||| ((if b then 1 else 0) <<< (15 - d.syn)) =
        (2 * c + if b then 1 else 0) * 2 ^ (16 - (d.syn + 1)) := by
      rw [hL, show 16 - d.syn = 15 - d.syn + 1 by omega, or_shiftLeft_bit]
      congr 2
      omega
    have hfeed : d.feed b t =
        ({ d with
            zeros := z1
            length := (2 * c + if b then 1 else 0) * 2 ^ (16 - (d.syn + 1))
            syn := d.syn + 1 }, none) := by
      rw [feed_length hp (not_start hP (by omega)), onLength_bit (by dsimp only; omega)]
      dsimp only
      rw [hreg, hzdef]
    obtain ⟨z, hz', h⟩ := ih
      { d with
        zeros := z1
        length := (2 * c + if b then 1 else 0) * 2 ^ (16 - (d.syn + 1))
        syn := d.syn + 1 } _ r (t + 1) hp hP (by dsimp only; omega) (by dsimp only; omega) rfl
    exact ⟨z, by dsimp only at hz'; omega, Takes.cons hfeed h⟩

lemma takes_payload_bits (bs : List Bool) : ∀ (d : Decoder) (c j r s : Nat) (t : Int),
    d.phase = .payload → d.preambleLength = 17 → (d.syn = j ∨ d.syn = 8 + j ∧ 0 < j) →
    j + bs.length + r = 8 → d.syn + bs.length = s → d.zeros + bs.length ≤ 16 →
    d.pending = c * 2 ^ (8 - j) →
    ∃ z ≤ d.zeros + bs.length, d.Takes t bs
      { d with pending := shiftIn c bs * 2 ^ r, syn := s, zeros := z }
      (List.replicate bs.length none) := by
  induction bs with
  | nil =>
    intro d c j r s t _ _ _ hj hs _ hR
    refine ⟨d.zeros, by simp, (takes_nil d t).to ?_ rfl⟩
    simp only [List.length_nil, Nat.add_zero] at hj hs
    rw [shiftIn_nil, ← show 8 - j = r by omega, ← hR, ← hs]
  | cons b bs ih =>
    intro d c j r s t hp hP hsj hj hs hz hR
    simp only [List.length_cons] at hj hs hz ⊢
    obtain ⟨z1, hz1, hzdef⟩ : ∃ z1, z1 ≤ d.zeros + 1 ∧ (if b then 0 else d.zeros + 1) = z1 :=
      ⟨_, by split <;> omega, rfl⟩
    have hmod : d.syn % 8 = j := by omega
    have hreg : d.pending ||| ((if b then 1 else 0) <<< (7 - d.syn % 8)) =
        (2 * c + if b then 1 else 0) * 2 ^ (8 - (j + 1)) := by
      rw [hR, hmod, show 8 - j = 7 - j + 1 by omega, or_shiftLeft_bit]
      congr 2
      omega
    have hfeed : d.feed b t =
        ({ d with
            zeros := z1
            pending := (2 * c + if b then 1 else 0) * 2 ^ (8 - (j + 1))
            syn := d.syn + 1 }, none) := by
      rw [feed_payload hp (not_start hP (by omega)),
        onPayload_bit (by dsimp only; omega) (by dsimp only; omega)]
      dsimp only
      rw [hreg, hzdef]
    obtain ⟨z, hz', h⟩ := ih
      { d with
        zeros := z1
        pending := (2 * c + if b then 1 else 0) * 2 ^ (8 - (j + 1))
        syn := d.syn + 1 } _ (j + 1) r s (t + 1) hp hP (by dsimp only; omega) (by omega)
      (by dsimp only; omega) (by dsimp only; omega) rfl
    exact ⟨z, by dsimp only at hz'; omega, Takes.cons hfeed h⟩

lemma takes_checksum_bits (bs : List Bool) : ∀ (d : Decoder) (c j r s : Nat) (t : Int),
    d.phase = .checksum → d.preambleLength = 17 → (d.syn = j ∨ d.syn = 8 + j ∧ 0 < j) →
    d.pos * 8 + j + bs.length + r = 32 → j + bs.length ≤ 8 → d.syn + bs.length = s →
    d.zeros + bs.length ≤ 16 → d.crc = c * 2 ^ (32 - (d.pos * 8 + j)) →
    ∃ z ≤ d.zeros + bs.length, d.Takes t bs
      { d with crc := shiftIn c bs * 2 ^ r, syn := s, zeros := z }
      (List.replicate bs.length none) := by
  induction bs with
  | nil =>
    intro d c j r s t _ _ _ hr _ hs _ hR
    refine ⟨d.zeros, by simp, (takes_nil d t).to ?_ rfl⟩
    simp only [List.length_nil, Nat.add_zero] at hr hs
    rw [shiftIn_nil, ← show 32 - (d.pos * 8 + j) = r by omega, ← hR, ← hs]
  | cons b bs ih =>
    intro d c j r s t hp hP hsj hr hj hs hz hR
    simp only [List.length_cons] at hr hj hs hz ⊢
    obtain ⟨z1, hz1, hzdef⟩ : ∃ z1, z1 ≤ d.zeros + 1 ∧ (if b then 0 else d.zeros + 1) = z1 :=
      ⟨_, by split <;> omega, rfl⟩
    have hmod : d.syn % 8 = j := by omega
    have hreg : d.crc ||| ((if b then 1 else 0) <<< (31 - (d.pos * 8 + d.syn % 8))) =
        (2 * c + if b then 1 else 0) * 2 ^ (32 - (d.pos * 8 + (j + 1))) := by
      rw [hR, hmod, show 32 - (d.pos * 8 + j) = 31 - (d.pos * 8 + j) + 1 by omega,
        or_shiftLeft_bit]
      congr 2
      omega
    have hfeed : d.feed b t =
        ({ d with
            zeros := z1
            crc := (2 * c + if b then 1 else 0) * 2 ^ (32 - (d.pos * 8 + (j + 1)))
            syn := d.syn + 1 }, none) := by
      rw [feed_checksum hp (not_start hP (by omega)),
        onChecksum_bit (by dsimp only; omega) (by dsimp only; omega)]
      dsimp only
      rw [hreg, hzdef]
    obtain ⟨z, hz', h⟩ := ih
      { d with
        zeros := z1
        crc := (2 * c + if b then 1 else 0) * 2 ^ (32 - (d.pos * 8 + (j + 1)))
        syn := d.syn + 1 } _ (j + 1) r s (t + 1) hp hP (by dsimp only; omega) (by dsimp only; omega)
      (by omega) (by dsimp only; omega) (by dsimp only; omega) rfl
    exact ⟨z, by dsimp only at hz'; omega, Takes.cons hfeed h⟩

/-! ### What every step keeps

The parameters never change, a record is counted exactly when one is answered, and checksum
failures are only ever added: for every bit, so for every run. -/

/-- What a step from `d` to `d'` answering `out` keeps. -/
structure Keeps (d d' : Decoder) (out : List (Option Calibration)) : Prop where
  preambleLength : d'.preambleLength = d.preambleLength
  maxPacket : d'.maxPacket = d.maxPacket
  decoded : d'.packetsDecoded = d.packetsDecoded + out.countP Option.isSome
  crcFailures : d.crcFailures ≤ d'.crcFailures

lemma Keeps.of_input {d₀ d d' : Decoder} {out : List (Option Calibration)}
    (h : Keeps d₀ d' out) (h₁ : d₀.preambleLength = d.preambleLength)
    (h₂ : d₀.maxPacket = d.maxPacket) (h₃ : d₀.packetsDecoded = d.packetsDecoded)
    (h₄ : d₀.crcFailures = d.crcFailures) : Keeps d d' out :=
  ⟨h.preambleLength.trans h₁, h.maxPacket.trans h₂, h₃ ▸ h.decoded, h₄ ▸ h.crcFailures⟩

lemma onLength_keeps : Keeps d (d.onLength b) [none] := by
  unfold onLength
  dsimp only
  split
  · split <;> exact ⟨rfl, rfl, rfl, le_rfl⟩
  · exact ⟨rfl, rfl, rfl, le_rfl⟩

lemma onPayload_keeps : Keeps d (d.onPayload b) [none] := by
  unfold onPayload
  dsimp only
  split <;> (try split) <;> (try split) <;> exact ⟨rfl, rfl, rfl, le_rfl⟩

lemma finish_keeps : Keeps d (d.finish t).1 [(d.finish t).2] := by
  unfold finish
  dsimp only
  split
  · exact ⟨rfl, rfl, rfl, Nat.le_succ _⟩
  · split <;> exact ⟨rfl, rfl, rfl, le_rfl⟩

lemma onChecksum_keeps : Keeps d (d.onChecksum b t).1 [(d.onChecksum b t).2] := by
  unfold onChecksum
  dsimp only
  by_cases h : d.syn = 8 ∨ d.syn = wordLength
  · simp only [h, ↓reduceIte, true_and]
    split
    · have hf := finish_keeps (d := { d with pos := d.pos + 1 }) (t := t)
      rcases hfin : finish { d with pos := d.pos + 1 } t with ⟨d', r⟩
      rw [hfin] at hf
      exact ⟨hf.preambleLength, hf.maxPacket, hf.decoded, hf.crcFailures⟩
    · split <;> exact ⟨rfl, rfl, rfl, le_rfl⟩
  · simp only [h, ↓reduceIte, false_and]
    split <;> exact ⟨rfl, rfl, rfl, le_rfl⟩

lemma feed_keeps : Keeps d (d.feed b t).1 [(d.feed b t).2] := by
  unfold feed
  split
  · exact ⟨rfl, rfl, rfl, le_rfl⟩
  · cases b <;> simp only [Bool.false_eq_true, ↓reduceIte] <;> split
    all_goals first
      | exact ⟨rfl, rfl, rfl, le_rfl⟩
      | exact onLength_keeps.of_input rfl rfl rfl rfl
      | exact onPayload_keeps.of_input rfl rfl rfl rfl
      | exact onChecksum_keeps.of_input rfl rfl rfl rfl

lemma run_keeps (bs : List Bool) :
    ∀ (d : Decoder) (t : Int), Keeps d (d.run t bs) (d.answers t bs) := by
  induction bs with
  | nil => exact fun d t => ⟨rfl, rfl, rfl, le_rfl⟩
  | cons b bs ih =>
    intro d t
    have h₁ := feed_keeps (d := d) (b := b) (t := t)
    have h₂ := ih (d.feed b t).1 (t + 1)
    refine ⟨h₂.preambleLength.trans h₁.preambleLength, h₂.maxPacket.trans h₁.maxPacket, ?_,
      h₁.crcFailures.trans h₂.crcFailures⟩
    rw [run_cons, answers_cons, h₂.decoded, h₁.decoded]
    simp only [List.countP_cons, List.countP_nil]
    omega

end Decoder

end Lighthouse.Ootx
