import Lighthouse.Proofs.Ootx.Stream
/-!
# Resynchronising on a whole frame

A frame's seventeen preamble zeros start it only if the decoder counts them all. The count is
cleared by a one and by the end of a frame, so a frame left unfinished in its checksum, with its
second checksum word begun, ends during the new preamble and the new frame is missed. From every
other state a decoder reaches, the new frame is read whole.

`untilEnd` bounds the bits a decoder can take before a frame ends: exactly the bits left in the
checksum, and more than a checksum outside it.
-/
namespace Lighthouse.Ootx
namespace Decoder

/-- One call on a decoder: a bit fed with its timecode, or a reset. -/
inductive Step : Decoder → Decoder → Prop
  | feed (d : Decoder) (b : Bool) (t : Int) : Step d (d.feed b t).1
  | reset (d : Decoder) : Step d d.reset

/-- The states a fresh standard decoder reaches. -/
inductive Reachable : Decoder → Prop
  | init : Reachable standard
  | step {d d' : Decoder} : Reachable d → Step d d' → Reachable d'

theorem Reachable.run {d : Decoder} (h : Reachable d) (t : Int) (bs : List Bool) :
    Reachable (d.run t bs) := by
  induction bs generalizing d t with
  | nil => exact h
  | cons b bs ih => exact ih (h.step (.feed d b t)) (t + 1)

/-- Where reachable states stand in a checksum: in the first byte of a word up to its boundary
bit, in the second byte after it. -/
def ChecksumAligned (d : Decoder) : Prop :=
  d.pos ≤ 3 ∧ (d.pos % 2 = 0 ∧ d.syn ≤ 8 ∨ d.pos % 2 = 1 ∧ 9 ≤ d.syn ∧ d.syn ≤ 16)

/-- The invariant of reachable states. -/
structure Inv (d : Decoder) : Prop where
  preambleLength : d.preambleLength = 17
  maxPacket : d.maxPacket = 64
  checksum : d.phase = .checksum → ChecksumAligned d

variable {d : Decoder} {b : Bool} {t : Int}

theorem onLength_zeros : (d.onLength b).zeros = d.zeros := by
  unfold onLength
  dsimp only
  split_ifs <;> rfl

theorem onLength_phase (h : d.phase ≠ .checksum) : (d.onLength b).phase ≠ .checksum := by
  unfold onLength
  dsimp only
  split_ifs <;> simp [h]

theorem onPayload_zeros : (d.onPayload b).zeros = d.zeros := by
  unfold onPayload
  dsimp only
  split_ifs <;> rfl

theorem onPayload_enters (h : d.phase ≠ .checksum) (hc : (d.onPayload b).phase = .checksum) :
    (d.onPayload b).pos = 0 ∧ (d.onPayload b).syn = 0 := by
  unfold onPayload at hc ⊢
  dsimp only at hc ⊢
  split_ifs at hc ⊢ <;> simp_all

theorem onChecksum_aligned (ha : ChecksumAligned d)
    (hc : (d.onChecksum b t).1.phase = .checksum) : ChecksumAligned (d.onChecksum b t).1 := by
  obtain ⟨hpos, ⟨heven, hs⟩ | ⟨hodd, hs, hs'⟩⟩ := ha
  · by_cases h8 : d.syn = 8
    · rw [onChecksum_boundary h8 (by omega)]
      dsimp only [ChecksumAligned]
      omega
    · rw [onChecksum_bit h8 (by omega)]
      dsimp only [ChecksumAligned]
      omega
  · by_cases h16 : d.syn = 16
    · by_cases hlast : d.pos + 1 = 4
      · rw [onChecksum_last h16 hlast] at hc
        simp at hc
      · rw [onChecksum_sync h16 hlast]
        dsimp only [ChecksumAligned]
        omega
    · rw [onChecksum_bit (by omega) h16]
      dsimp only [ChecksumAligned]
      omega

theorem Inv.feed (h : Inv d) : Inv (d.feed b t).1 := by
  have hk := feed_keeps (d := d) (b := b) (t := t)
  refine ⟨hk.preambleLength.trans h.preambleLength, hk.maxPacket.trans h.maxPacket, fun hc => ?_⟩
  by_cases hs : b = true ∧ (d.zeros : Int) ≥ d.preambleLength
  · rw [Decoder.feed, if_pos hs] at hc
    simp at hc
  · cases hp : d.phase with
    | preamble =>
      rw [feed_preamble hp hs] at hc
      simp [hp] at hc
    | length =>
      rw [feed_length hp hs] at hc
      exact absurd hc (onLength_phase (by simp [hp]))
    | payload =>
      rw [feed_payload hp hs] at hc ⊢
      dsimp only at hc ⊢
      obtain ⟨hpos, hsyn⟩ := onPayload_enters (by simp [hp]) hc
      exact ⟨by omega, .inl ⟨by omega, by omega⟩⟩
    | checksum =>
      rw [feed_checksum hp hs] at hc ⊢
      exact onChecksum_aligned (h.checksum hp) hc

theorem Inv.reset (h : Inv d) : Inv d.reset :=
  ⟨h.preambleLength, h.maxPacket, fun hc => by simp [Decoder.reset] at hc⟩

theorem Inv.step {d d' : Decoder} (h : Inv d) (hs : Step d d') : Inv d' := by
  cases hs with
  | feed b t => exact h.feed
  | reset => exact h.reset

theorem reachable_inv {d : Decoder} (h : Reachable d) : Inv d := by
  induction h with
  | init => exact ⟨rfl, rfl, fun hc => by simp [standard] at hc⟩
  | step _ hs ih => exact ih.step hs

theorem Inv.run (h : Inv d) (t : Int) (bs : List Bool) : Inv (d.run t bs) := by
  induction bs generalizing d t with
  | nil => exact h
  | cons b bs ih => exact ih h.feed (t + 1)

/-! ### Zeros before a frame ends -/

/-- Bits a decoder takes before a frame can end: exactly those left in a checksum, and 35, more
than a whole checksum, outside one. -/
def untilEnd (d : Decoder) : Nat :=
  if d.phase = .checksum then 17 * (2 - d.pos / 2) - d.syn else 35

theorem untilEnd_onLength (h : d.phase ≠ .checksum) : untilEnd (d.onLength b) = 35 := by
  rw [untilEnd, if_neg (onLength_phase h)]

theorem untilEnd_onPayload (h : d.phase ≠ .checksum) : 34 ≤ untilEnd (d.onPayload b) := by
  rw [untilEnd]
  split
  · rename_i hc
    obtain ⟨hpos, hsyn⟩ := onPayload_enters h hc
    rw [hpos, hsyn]
  · decide

theorem feed_zero_outside (hp : d.phase ≠ .checksum) :
    (d.feed false t).2 = none ∧ (d.feed false t).1.zeros = d.zeros + 1 ∧
      34 ≤ untilEnd (d.feed false t).1 := by
  have hs : ¬(false = true ∧ (d.zeros : Int) ≥ d.preambleLength) := by simp
  cases hph : d.phase with
  | preamble =>
    rw [feed_preamble hph hs]
    simp [untilEnd, hph]
  | length =>
    rw [feed_length hph hs, untilEnd_onLength]
    · exact ⟨rfl, onLength_zeros, by decide⟩
    · simp [hph]
  | payload =>
    rw [feed_payload hph hs]
    refine ⟨rfl, onPayload_zeros, untilEnd_onPayload ?_⟩
    simp [hph]
  | checksum => exact absurd hph hp

theorem feed_zero_checksum (hp : d.phase = .checksum) (ha : ChecksumAligned d)
    (hq : 2 ≤ untilEnd d) :
    (d.feed false t).2 = none ∧ (d.feed false t).1.phase = .checksum ∧
      ChecksumAligned (d.feed false t).1 ∧ (d.feed false t).1.zeros = d.zeros + 1 ∧
      untilEnd (d.feed false t).1 + 1 = untilEnd d := by
  rw [untilEnd, if_pos hp] at hq
  rw [feed_checksum hp (by simp)]
  -- the zero lands on the decoder with its zero count raised, so each handler lemma leaves the
  -- decoder's syn and pos as side goals
  obtain ⟨hpos, ⟨heven, hs⟩ | ⟨hodd, hs, hs'⟩⟩ := ha
  · by_cases h8 : d.syn = 8
    · rw [onChecksum_boundary]
      · simp only [untilEnd, ChecksumAligned, hp, Bool.false_eq_true, ↓reduceIte, true_and]
        omega
      · exact h8
      · dsimp only
        omega
    · rw [onChecksum_bit]
      · simp only [untilEnd, ChecksumAligned, hp, Bool.false_eq_true, ↓reduceIte, true_and]
        omega
      · exact h8
      · dsimp only
        omega
  · by_cases h16 : d.syn = 16
    · rw [onChecksum_sync]
      · simp only [untilEnd, ChecksumAligned, hp, Bool.false_eq_true, ↓reduceIte, true_and]
        omega
      · exact h16
      · dsimp only
        omega
    · rw [onChecksum_bit]
      · simp only [untilEnd, ChecksumAligned, hp, Bool.false_eq_true, ↓reduceIte, true_and]
        omega
      · dsimp only
        omega
      · exact h16

theorem feed_zero_end (hp : d.phase = .checksum) (ha : ChecksumAligned d) (hq : untilEnd d = 1) :
    (d.feed false t).1.phase = .preamble ∧ (d.feed false t).1.zeros = 0 := by
  simp only [untilEnd, hp, ↓reduceIte] at hq
  obtain ⟨hpos, hsyn⟩ : d.pos = 3 ∧ d.syn = 16 := by
    obtain ⟨_, ⟨_, _⟩ | ⟨_, _, _⟩⟩ := ha <;> omega
  rw [feed_checksum hp (by simp), onChecksum_last]
  · exact ⟨rfl, rfl⟩
  · exact hsyn
  · dsimp only
    omega

theorem zeros_run (n : Nat) : ∀ (d : Decoder) (t : Int), Inv d → n < untilEnd d →
    (d.run t (List.replicate n false)).zeros = d.zeros + n := by
  induction n with
  | zero => exact fun d t _ _ => rfl
  | succ n ih =>
    intro d t hi hn
    rw [List.replicate_succ, run_cons]
    by_cases hp : d.phase = .checksum
    · obtain ⟨-, -, -, hz, hq⟩ := feed_zero_checksum (t := t) hp (hi.checksum hp) (by omega)
      rw [ih _ (t + 1) hi.feed (by omega), hz]
      omega
    · obtain ⟨-, hz, hq⟩ := feed_zero_outside (t := t) hp
      have h35 : untilEnd d = 35 := by simp [untilEnd, hp]
      rw [ih _ (t + 1) hi.feed (by omega), hz]
      omega

theorem checksum_run (m : Nat) : ∀ (d : Decoder) (t : Int), d.phase = .checksum →
    ChecksumAligned d → m < untilEnd d →
    (d.run t (List.replicate m false)).phase = .checksum ∧
      ChecksumAligned (d.run t (List.replicate m false)) ∧
      untilEnd (d.run t (List.replicate m false)) + m = untilEnd d := by
  induction m with
  | zero => exact fun d t hp ha _ => ⟨hp, ha, rfl⟩
  | succ m ih =>
    intro d t hp ha hm
    rw [List.replicate_succ, run_cons]
    obtain ⟨-, hp', ha', -, hq⟩ := feed_zero_checksum (t := t) hp ha (by omega)
    obtain ⟨h₁, h₂, h₃⟩ := ih _ (t + 1) hp' ha' (by omega)
    exact ⟨h₁, h₂, by omega⟩

theorem run_zeros_past_end (hi : Inv d) (hp : d.phase = .checksum) (hq : untilEnd d ≤ 17) :
    (d.run t (List.replicate 17 false)).phase = .preamble ∧
      (d.run t (List.replicate 17 false)).zeros < 17 := by
  have ha := hi.checksum hp
  have hk : 1 ≤ untilEnd d := by
    simp only [untilEnd, hp, ↓reduceIte]
    obtain ⟨_, ⟨_, _⟩ | ⟨_, _, _⟩⟩ := ha <;> omega
  obtain ⟨hp₁, ha₁, hq₁⟩ := checksum_run (untilEnd d - 1) d t hp ha (by omega)
  obtain ⟨hp₂, hz₂⟩ := feed_zero_end (t := t + (untilEnd d - 1 : Nat)) hp₁ ha₁ (by omega)
  have hsplit : List.replicate 17 false =
      List.replicate (untilEnd d - 1) false ++ false :: List.replicate (17 - untilEnd d) false := by
    rw [← List.replicate_succ, List.replicate_append_replicate]
    congr 1
    omega
  have h₃ := (takes_zeros (17 - untilEnd d) _ (t + (untilEnd d - 1 : Nat) + 1) hp₂).run
  rw [hsplit, run_append, run_cons, List.length_replicate, h₃]
  exact ⟨hp₂, by dsimp only; omega⟩

theorem answers_missed_frame (hp : d.phase = .preamble) (hP : d.preambleLength = 17)
    (hz : d.zeros < 17) (p : List UInt8) :
    d.answers t (true :: wordBits (frameBytes p)) =
      List.replicate ((wordBits (frameBytes p)).length + 1) none := by
  have hfeed := feed_preamble (b := true) (t := t) hp (not_start hP (by omega))
  have heven : (frameBytes p).length % 2 = 0 := by
    simp [frameBytes, checksumBytes]
    omega
  have hidle := takes_idle_words (frameBytes p) heven
    { d with zeros := if true then 0 else d.zeros + 1 } (t + 1) hp hP rfl
  rw [(Takes.cons hfeed hidle).answers, List.replicate_succ]

theorem answers_resynced (hi : Inv d) (hq : 17 < untilEnd d) (p : List UInt8)
    (hlen : p.length < 65536) :
    (d.answers t (List.replicate 17 false ++ [true] ++ wordBits (frameBytes p))).drop 17 =
      List.replicate (frameLength p - 18) none ++ [frameAnswer p (t + (frameLength p - 1 : Nat))] := by
  have hz := zeros_run 17 d t hi hq
  have he := hi.run t (List.replicate 17 false)
  have hstart := feed_start (t := t + 17) (d := d.run t (List.replicate 17 false))
    he.preambleLength (by omega)
  obtain ⟨d', hbody, -⟩ := takes_body (t := t + 17 + 1) p hlen
    (d := { d.run t (List.replicate 17 false) with
      phase := .length, length := 0, pos := 0, syn := 0, zeros := 0 })
    rfl he.preambleLength he.maxPacket rfl rfl rfl
  have hL : 19 ≤ frameLength p := by unfold frameLength; omega
  have ht : t + 17 + 1 + ((frameLength p - 19 : Nat) : Int) = t + (frameLength p - 1 : Nat) := by
    omega
  rw [List.append_assoc, answers_append, List.length_replicate, Nat.cast_ofNat,
    List.singleton_append, (Takes.cons hstart hbody).answers,
    List.drop_left' (by rw [length_answers, List.length_replicate]), ht, ← List.cons_append,
    ← List.replicate_succ]
  congr 2

theorem answers_missed (hi : Inv d) (hp : d.phase = .checksum) (hq : untilEnd d ≤ 17)
    (p : List UInt8) :
    (d.answers t (List.replicate 17 false ++ [true] ++ wordBits (frameBytes p))).drop 17 =
      List.replicate ((wordBits (frameBytes p)).length + 1) none := by
  obtain ⟨hp', hz'⟩ := run_zeros_past_end (t := t) hi hp hq
  rw [List.append_assoc, answers_append, List.length_replicate, List.singleton_append,
    List.drop_left' (by rw [length_answers, List.length_replicate]),
    answers_missed_frame hp' (hi.run t _).preambleLength hz']

theorem run_cut_frame (p : List UInt8) (hlen : p.length < 65536) (hacc : refused p = false)
    (hph : d.phase = .preamble) (hP : d.preambleLength = 17) (hM : d.maxPacket = 64)
    (hz : d.zeros = 0) :
    (d.run t ((List.replicate 17 false ++ [true] ++ wordBits (frameBytes p)).take
        (frameLength p - 17))).phase = .checksum ∧
      (d.run t ((List.replicate 17 false ++ [true] ++ wordBits (frameBytes p)).take
        (frameLength p - 17))).pos = 2 := by
  have heven : (p ++ List.replicate (p.length % 2) 0).length % 2 = 0 := by
    rw [length_payload_padded]
    omega
  have hhead := takes_to_checksum (t := t + 18) p hlen hacc
    (d := { d with phase := .length, length := 0, pos := 0, syn := 0, zeros := 0 }) rfl hP hM rfl
    rfl rfl
  obtain ⟨z, hz', hpair⟩ := takes_checksum_pair
    (t := t + 18 + ((17 + 17 * ((p.length + p.length % 2) / 2) : Nat) : Int))
    (Crc32.checksum p).toUInt8 (Crc32.checksum p >>> 8).toUInt8 0
    (d := { d with
      phase := .checksum
      length := p.length
      pad := p.length % 2
      pos := 0
      syn := 0
      bytes := [] ++ (p ++ List.replicate (p.length % 2) 0)
      pending := 0
      crc := 0
      zeros := 0 }) rfl hP rfl rfl (.inl rfl) (by simp)
  have hsync := feed_checksum_sync
    (t := t + 18 + ((17 + 17 * ((p.length + p.length % 2) / 2) : Nat) : Int) + 16)
    (d := { d with
      phase := .checksum
      length := p.length
      pad := p.length % 2
      pos := 0 + 1
      syn := 16
      bytes := [] ++ (p ++ List.replicate (p.length % 2) 0)
      pending := 0
      crc := (0 * 65536 + (Crc32.checksum p).toUInt8.toNat * 256 +
        (Crc32.checksum p >>> 8).toUInt8.toNat) * 2 ^ (16 - 0 * 8)
      zeros := z }) rfl hP rfl hz' (by dsimp only; omega)
  have ht : t + 18 + ((17 + 17 * ((p.length + p.length % 2) / 2) : Nat) : Int) =
      t + 18 + ((byteBits (p.length % 256).toUInt8 ++ byteBits (p.length / 256 % 256).toUInt8 ++
        [true] ++ wordBits (p ++ List.replicate (p.length % 2) 0)).length : Int) := by
    simp [length_wordBits _ heven]
    omega
  have H := (takes_start (t := t) hph hP hz).append
    (hhead.append (hpair.append (Takes.single hsync) (by simp)) ht) (by simp)
  have hsplit : List.replicate 17 false ++ [true] ++ wordBits (frameBytes p) =
      List.replicate 17 false ++ [true] ++
        (byteBits (p.length % 256).toUInt8 ++ byteBits (p.length / 256 % 256).toUInt8 ++ [true] ++
          wordBits (p ++ List.replicate (p.length % 2) 0) ++
        (byteBits (Crc32.checksum p).toUInt8 ++ byteBits (Crc32.checksum p >>> 8).toUInt8 ++
          [true])) ++
      (byteBits (Crc32.checksum p >>> 16).toUInt8 ++ byteBits (Crc32.checksum p >>> 24).toUInt8 ++
        [true]) := by
    rw [wordBits_frameBytes]
    simp only [checksumBytes, wordBits_pair, wordBits, List.append_nil, List.append_assoc]
  rw [hsplit, List.take_left' (by simp [length_wordBits _ heven, frameLength]; omega), H.run]
  exact ⟨rfl, rfl⟩

/-- A decoder reached from a fresh one by any bits and resets, fed the frame of a payload of a
record's length that it accepts, answers nothing from the start bit to the second-to-last bit and
the record at the last bit exactly when it is not in a checksum with two checksum bytes read:
from those states the unfinished frame ends within the new preamble and the new frame is
missed. -/
theorem resync_iff {d : Decoder} (hd : Reachable d) (p : List UInt8) (h33 : 33 ≤ p.length)
    (h64 : p.length ≤ 64) (t : Int) (bits : List Bool) (hbits : frameBits p = .ok bits) :
    (d.answers t bits).drop 17 =
        List.replicate (frameLength p - 18) none ++
          [(Calibration.ofPayload p (t + (frameLength p - 1 : Nat))).toOption] ↔
      ¬(d.phase = .checksum ∧ 2 ≤ d.pos) := by
  have hi := reachable_inv hd
  rw [frameBits_ok p (by omega), Except.ok.injEq] at hbits
  subst hbits
  have hacc : refused p = false := by
    simp only [refused, decide_eq_false_iff_not]
    omega
  rw [← frameAnswer_of_accepted p _ hacc]
  constructor
  · rintro h ⟨hp, hpos⟩
    have hq : untilEnd d ≤ 17 := by
      simp only [untilEnd, hp, ↓reduceIte]
      omega
    rw [answers_missed hi hp hq] at h
    have hsome := (frameAnswer_isSome p (t + (frameLength p - 1 : Nat))).mpr ⟨h33, by omega⟩
    have hmem : frameAnswer p (t + (frameLength p - 1 : Nat)) ∈
        List.replicate ((wordBits (frameBytes p)).length + 1) (none : Option Calibration) := by
      rw [h]
      simp
    rw [(List.mem_replicate.mp hmem).2] at hsome
    exact Bool.false_ne_true hsome
  · intro h
    have hq : 17 < untilEnd d := by
      by_cases hp : d.phase = .checksum
      · have hpos : d.pos < 2 := Nat.lt_of_not_le fun hpos => h ⟨hp, hpos⟩
        simp only [untilEnd, hp, ↓reduceIte]
        obtain ⟨_, ⟨_, _⟩ | ⟨_, _, _⟩⟩ := hi.checksum hp <;> omega
      · simp [untilEnd, hp]
    exact answers_resynced hi hq p (by omega)

theorem standard_resyncs :
    Reachable standard ∧ 33 ≤ (List.replicate 33 (7 : UInt8)).length ∧
      (List.replicate 33 (7 : UInt8)).length ≤ 64 ∧
      frameBits (List.replicate 33 7) =
        .ok (List.replicate 17 false ++ [true] ++ wordBits (frameBytes (List.replicate 33 7))) ∧
      ((standard.answers 0
          (List.replicate 17 false ++ [true] ++ wordBits (frameBytes (List.replicate 33 7)))).drop 17 =
        List.replicate (frameLength (List.replicate 33 7) - 18) none ++
          [(Calibration.ofPayload (List.replicate 33 7)
            (0 + (frameLength (List.replicate 33 7) - 1 : Nat))).toOption] ↔
        ¬(standard.phase = .checksum ∧ 2 ≤ standard.pos)) :=
  ⟨.init, by simp, by simp, frameBits_ok _ (by simp),
    resync_iff .init (List.replicate 33 7) (by simp) (by simp) 0 _ (frameBits_ok _ (by simp))⟩

/-- The frame of a record's payload, cut after its first checksum word and followed by the whole
frame again, bit `j` stamped `j`: the second frame's record never comes out. -/
theorem resync_lost_after_cut_frame :
    let p : List UInt8 := [102, 2, 73, 159, 164, 184, 155, 34, 17, 163, 109, 35, 156, 28, 1, 9, 150,
      4, 53, 7, 0, 0, 127, 233, 166, 169, 193, 58, 146, 12, 143, 0, 0]
    let frame := List.replicate 17 false ++ [true] ++ wordBits (frameBytes p)
    frameBits p = .ok frame ∧ Reachable (standard.run 0 (frame.take 341)) ∧
      ¬(((standard.run 0 (frame.take 341)).answers 341 frame).drop 17 =
        List.replicate 340 none ++ [(Calibration.ofPayload p 698).toOption]) := by
  intro p frame
  have hlen : p.length = 33 := rfl
  have hL : frameLength p = 358 := by rw [frameLength, hlen]
  have hframe : frameBits p = .ok frame := frameBits_ok p (by omega)
  have hreach : Reachable (standard.run 0 (frame.take 341)) := Reachable.init.run 0 _
  obtain ⟨hphase, hpos⟩ := run_cut_frame (d := standard) (t := 0) p (by omega)
    (by simp [refused, hlen]) rfl rfl rfl rfl
  rw [hL, show 358 - 17 = 341 from rfl] at hphase hpos
  refine ⟨hframe, hreach, fun h => ?_⟩
  have hiff := resync_iff hreach p (by omega) (by omega) 341 frame hframe
  rw [hL] at hiff
  exact hiff.mp h ⟨hphase, le_of_eq hpos.symm⟩

end Decoder

end Lighthouse.Ootx
