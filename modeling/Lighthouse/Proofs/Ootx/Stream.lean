import Lighthouse.Proofs.Ootx.Words
/-!
# Streams of whole frames

A decoder waiting for a preamble, with no zero counted, reads a whole frame: it answers nothing
before the frame's last bit, and there the record of the payload when the length word is
accepted and the payload is a record's length. It is then waiting again with no zero counted, so
the frames of a list of payloads sent one after another are read one by one (`streamAnswers`).
-/
namespace Lighthouse.Ootx

lemma swap16_bytes (lo hi : Nat) (hlo : lo < 256) (hhi : hi < 256) :
    (swap16 ((lo * 256 + hi : Nat) : Int)).toNat = hi * 256 + lo := by
  have h1 : ((lo * 256 + hi : Nat) : Int) * 256 % 65536 = hi * 256 := by omega
  have h2 : ((lo * 256 + hi : Nat) : Int) / 256 % 256 = lo := by omega
  simp only [swap16, h1, h2]
  omega

lemma swap16_lengthBytes (n : Nat) (h : n < 65536) :
    (swap16 (((n % 256).toUInt8.toNat * 256 + (n / 256 % 256).toUInt8.toNat : Nat) : Int)).toNat =
      n := by
  rw [swap16_bytes _ _ (UInt8.toNat_lt _) (UInt8.toNat_lt _)]
  simp only [UInt8.toNat_ofNat', Nat.toUInt8_eq]
  omega

lemma frameBits_ok (p : List UInt8) (h : p.length < 65536) :
    frameBits p = .ok (List.replicate 17 false ++ [true] ++ wordBits (frameBytes p)) := by
  rw [frameBits, if_neg (by exact Nat.not_le.mpr h)]
  rfl

lemma wordBits_frameBytes (p : List UInt8) :
    wordBits (frameBytes p) =
      byteBits (p.length % 256).toUInt8 ++ byteBits (p.length / 256 % 256).toUInt8 ++ [true] ++
        (wordBits (p ++ List.replicate (p.length % 2) 0) ++
          wordBits (checksumBytes (Crc32.checksum p))) := by
  rw [← wordBits_append _ _ (by simp; omega)]
  rfl

/-- Bits of the frame of a payload: preamble and start bit, then the length word, the padded
payload and the checksum, seventeen bits a word. -/
def frameLength (p : List UInt8) : Nat :=
  18 + 17 * ((p.length + p.length % 2) / 2 + 3)

lemma length_frame (p : List UInt8) :
    (List.replicate 17 false ++ [true] ++ wordBits (frameBytes p)).length = frameLength p := by
  have hc : (checksumBytes (Crc32.checksum p)).length = 4 := rfl
  have hp : (p ++ List.replicate (p.length % 2) 0).length = p.length + p.length % 2 := by simp
  rw [wordBits_frameBytes, frameLength]
  simp only [List.length_append, List.length_replicate, List.length_singleton, length_byteBits,
    length_wordBits _ (by rw [hc] : (checksumBytes (Crc32.checksum p)).length % 2 = 0),
    length_wordBits _ (by rw [hp]; omega : (p ++ List.replicate (p.length % 2) 0).length % 2 = 0),
    hc, hp]
  omega

/-- The answer at the last bit of the frame of `p`, stamped `t`: the record read from `p` when
`p` is a record's length and its padded length is accepted. -/
def frameAnswer (p : List UInt8) (t : Int) : Option Calibration :=
  if 33 ≤ p.length ∧ p.length + p.length % 2 ≤ 64 then (Calibration.ofPayload p t).toOption
  else none

/-- Whether the length word refuses the frame: an empty payload, or one too long once padded. -/
def refused (p : List UInt8) : Bool :=
  p.length = 0 ∨ 64 < p.length + p.length % 2

lemma frameAnswer_isSome (p : List UInt8) (t : Int) :
    (frameAnswer p t).isSome ↔ 33 ≤ p.length ∧ p.length + p.length % 2 ≤ 64 := by
  unfold frameAnswer
  split
  · rename_i h
    rw [Calibration.ofPayload, if_neg (by simp only [payloadLength]; omega)]
    exact iff_of_true rfl h
  · rename_i h
    exact iff_of_false Bool.false_ne_true h

lemma frameAnswer_of_accepted (p : List UInt8) (t : Int) (h : refused p = false) :
    frameAnswer p t = (Calibration.ofPayload p t).toOption := by
  simp only [refused, decide_eq_false_iff_not] at h
  unfold frameAnswer
  split
  · rfl
  · rw [Calibration.ofPayload, if_pos (by simp only [payloadLength]; omega)]
    rfl

lemma frameAnswer_of_refused (p : List UInt8) (t : Int) (h : refused p = true) :
    frameAnswer p t = none := by
  simp only [refused, decide_eq_true_eq] at h
  rw [frameAnswer, if_neg (by omega)]

/-- What a decoder answers over the frames of `ps` sent from timecode `t`: nothing before the last
bit of a frame, there the frame's answer. -/
def streamAnswers : List (List UInt8) → Int → List (Option Calibration)
  | [], _ => []
  | p :: ps, t =>
    List.replicate (frameLength p - 1) none ++ [frameAnswer p (t + (frameLength p - 1 : Nat))] ++
      streamAnswers ps (t + frameLength p)

namespace Decoder

variable {d : Decoder} {t : Int}

lemma takes_zeros (n : Nat) : ∀ (d : Decoder) (t : Int), d.phase = .preamble →
    d.Takes t (List.replicate n false) { d with zeros := d.zeros + n } (List.replicate n none) := by
  induction n with
  | zero => exact fun d t _ => takes_nil d t
  | succ n ih =>
    intro d t hp
    have hfeed := feed_preamble (b := false) (t := t) hp (by simp)
    refine (Takes.cons hfeed (ih _ (t + 1) hp)).to ?_ rfl
    simp only [Bool.false_eq_true, if_false]
    congr 1
    omega

lemma feed_start (hP : d.preambleLength = 17) (hz : 17 ≤ d.zeros) :
    d.feed true t = ({ d with phase := .length, length := 0, pos := 0, syn := 0, zeros := 0 }, none) := by
  rw [feed, if_pos ⟨rfl, by rw [hP]; omega⟩]

lemma takes_start (hph : d.phase = .preamble) (hP : d.preambleLength = 17) (hz : d.zeros = 0) :
    d.Takes t (List.replicate 17 false ++ [true])
      { d with phase := .length, length := 0, pos := 0, syn := 0, zeros := 0 }
      (List.replicate 18 none) :=
  ((takes_zeros 17 d t hph).append
    (Takes.single (feed_start (t := t + 17) (d := { d with zeros := d.zeros + 17 }) hP
      (by simp [hz]))) (by simp)).to rfl rfl

lemma takes_length_word (n : Nat) (hn : n < 65536) (hp : d.phase = .length)
    (hP : d.preambleLength = 17) (hs : d.syn = 0) (hz : d.zeros = 0) (hL : d.length = 0) :
    d.Takes t (byteBits (n % 256).toUInt8 ++ byteBits (n / 256 % 256).toUInt8 ++ [true])
      (if 0 < n + n % 2 ∧ n + n % 2 ≤ d.maxPacket then
        { d with
          length := n
          pad := n % 2
          phase := .payload
          syn := 0
          pos := 0
          bytes := []
          pending := 0
          zeros := 0 }
      else
        { d with
          length := n
          pad := n % 2
          phase := .preamble
          syn := 16
          oversized := d.oversized + 1
          zeros := 0 })
      (List.replicate 17 none) := by
  obtain ⟨z, hz', hw⟩ := takes_length_pair (t := t) (n % 256).toUInt8 (n / 256 % 256).toUInt8
    hp hP hs hz hL
  have hsync := feed_length_sync (t := t + 16)
    (d := { d with
      length := (n % 256).toUInt8.toNat * 256 + (n / 256 % 256).toUInt8.toNat
      syn := 16
      zeros := z }) hp hP rfl hz'
  dsimp only at hsync
  rw [swap16_lengthBytes n hn] at hsync
  exact (hw.append (Takes.single hsync) (by simp)).to rfl rfl

lemma length_payload_padded (p : List UInt8) :
    (p ++ List.replicate (p.length % 2) 0).length = p.length + p.length % 2 := by
  simp

lemma takes_to_checksum (p : List UInt8) (hlen : p.length < 65536) (hacc : refused p = false)
    (hp : d.phase = .length) (hP : d.preambleLength = 17) (hM : d.maxPacket = 64)
    (hs : d.syn = 0) (hz : d.zeros = 0) (hL : d.length = 0) :
    d.Takes t
      (byteBits (p.length % 256).toUInt8 ++ byteBits (p.length / 256 % 256).toUInt8 ++ [true] ++
        wordBits (p ++ List.replicate (p.length % 2) 0))
      { d with
        phase := .checksum
        length := p.length
        pad := p.length % 2
        pos := 0
        syn := 0
        bytes := [] ++ (p ++ List.replicate (p.length % 2) 0)
        pending := 0
        crc := 0
        zeros := 0 }
      (List.replicate (17 + 17 * ((p.length + p.length % 2) / 2)) none) := by
  simp only [refused, decide_eq_false_iff_not] at hacc
  have heven : (p ++ List.replicate (p.length % 2) 0).length % 2 = 0 := by
    rw [length_payload_padded]
    omega
  have hword := takes_length_word (t := t) p.length hlen hp hP hs hz hL
  have hc : 0 < p.length + p.length % 2 ∧ p.length + p.length % 2 ≤ d.maxPacket := by omega
  rw [if_pos hc] at hword
  have hpay := takes_payload_words (p ++ List.replicate (p.length % 2) 0) heven
    (List.ne_nil_of_length_pos (by rw [length_payload_padded]; omega))
    { d with
      phase := .payload
      length := p.length
      pad := p.length % 2
      pos := 0
      syn := 0
      bytes := []
      pending := 0
      zeros := 0 } (t + 17) rfl hP rfl rfl rfl rfl (by simp)
  refine (hword.append hpay (by simp)).to rfl ?_
  rw [List.replicate_append_replicate, length_wordBits _ heven, length_payload_padded]

lemma takes_body_accepted (p : List UInt8) (hlen : p.length < 65536) (hacc : refused p = false)
    (hp : d.phase = .length) (hP : d.preambleLength = 17) (hM : d.maxPacket = 64)
    (hs : d.syn = 0) (hz : d.zeros = 0) (hL : d.length = 0) :
    ∃ d', d.Takes t (wordBits (frameBytes p)) d'
      (List.replicate (frameLength p - 19) none ++
        [(Calibration.ofPayload p (t + (frameLength p - 19 : Nat))).toOption]) ∧
      After d d'
        (if ((Calibration.ofPayload p (t + (frameLength p - 19 : Nat))).toOption).isSome then 1
        else 0) 0 := by
  have hhead := takes_to_checksum (t := t) p hlen hacc hp hP hM hs hz hL
  obtain ⟨d', hcs, hafter⟩ := takes_checksum_words
    (t := t + ((17 + 17 * ((p.length + p.length % 2) / 2) : Nat) : Int)) (Crc32.checksum p)
    (d := { d with
      phase := .checksum
      length := p.length
      pad := p.length % 2
      pos := 0
      syn := 0
      bytes := [] ++ (p ++ List.replicate (p.length % 2) 0)
      pending := 0
      crc := 0
      zeros := 0 }) rfl hP rfl rfl rfl rfl (by simp)
  have htime : t + ((17 + 17 * ((p.length + p.length % 2) / 2) : Nat) : Int) + 33 =
      t + (frameLength p - 19 : Nat) := by
    unfold frameLength
    omega
  have hbytes : ([] ++ (p ++ List.replicate (p.length % 2) 0)).take p.length = p := by simp
  simp only [hbytes, htime] at hcs hafter
  refine ⟨d', ?_, ⟨hafter.phase, hafter.zeros, hafter.preambleLength, hafter.maxPacket,
    hafter.decoded, hafter.crcFailures, hafter.oversized⟩⟩
  rw [wordBits_frameBytes, ← List.append_assoc]
  refine (hhead.append hcs ?_).to rfl ?_
  · have heven : (p ++ List.replicate (p.length % 2) 0).length % 2 = 0 := by
      rw [length_payload_padded]
      simp only [refused, decide_eq_false_iff_not] at hacc
      omega
    simp [length_wordBits _ heven]
    omega
  · rw [← List.append_assoc, List.replicate_append_replicate]
    congr 2
    unfold frameLength
    omega

lemma takes_body_refused (p : List UInt8) (hlen : p.length < 65536) (hrej : refused p = true)
    (hp : d.phase = .length) (hP : d.preambleLength = 17) (hM : d.maxPacket = 64)
    (hs : d.syn = 0) (hz : d.zeros = 0) (hL : d.length = 0) :
    ∃ d', d.Takes t (wordBits (frameBytes p)) d'
      (List.replicate (frameLength p - 19) none ++ [none]) ∧ After d d' 0 1 := by
  simp only [refused, decide_eq_true_eq] at hrej
  have heven : (p ++ List.replicate (p.length % 2) 0).length % 2 = 0 := by
    rw [length_payload_padded]
    omega
  have hword := takes_length_word (t := t) p.length hlen hp hP hs hz hL
  have hc : ¬(0 < p.length + p.length % 2 ∧ p.length + p.length % 2 ≤ d.maxPacket) := by omega
  rw [if_neg hc] at hword
  have hidle := takes_idle_words (p ++ List.replicate (p.length % 2) 0) heven
    { d with
      phase := .preamble
      length := p.length
      pad := p.length % 2
      syn := 16
      oversized := d.oversized + 1
      zeros := 0 } (t + 17) rfl hP rfl
  have hidle' := takes_idle_words (checksumBytes (Crc32.checksum p)) (by simp [checksumBytes])
    { d with
      phase := .preamble
      length := p.length
      pad := p.length % 2
      syn := 16
      oversized := d.oversized + 1
      zeros := 0 } (t + 17 + ((17 * ((p.length + p.length % 2) / 2) : Nat) : Int)) rfl hP rfl
  refine ⟨{ d with
      phase := .preamble
      length := p.length
      pad := p.length % 2
      syn := 16
      oversized := d.oversized + 1
      zeros := 0 }, ?_, ⟨rfl, rfl, rfl, rfl, rfl, rfl, rfl⟩⟩
  rw [wordBits_frameBytes]
  refine (hword.append (hidle.append hidle' ?_) (by simp)).to rfl ?_
  · rw [length_wordBits _ heven, length_payload_padded]
  · simp only [List.replicate_append_replicate, ← List.replicate_succ']
    rw [length_wordBits _ heven, length_wordBits _ (by simp [checksumBytes]),
      length_payload_padded]
    congr 1
    simp only [checksumBytes, List.length_cons, List.length_nil, frameLength]
    omega

theorem takes_body (p : List UInt8) (hlen : p.length < 65536) (hp : d.phase = .length)
    (hP : d.preambleLength = 17) (hM : d.maxPacket = 64) (hs : d.syn = 0) (hz : d.zeros = 0)
    (hL : d.length = 0) :
    ∃ d', d.Takes t (wordBits (frameBytes p)) d'
      (List.replicate (frameLength p - 19) none ++ [frameAnswer p (t + (frameLength p - 19 : Nat))]) ∧
      After d d' (if (frameAnswer p (t + (frameLength p - 19 : Nat))).isSome then 1 else 0)
        (if refused p then 1 else 0) := by
  cases h : refused p with
  | false =>
    rw [frameAnswer_of_accepted p _ h]
    exact takes_body_accepted p hlen h hp hP hM hs hz hL
  | true =>
    rw [frameAnswer_of_refused p _ h]
    exact takes_body_refused p hlen h hp hP hM hs hz hL

theorem takes_frame (p : List UInt8) (hlen : p.length < 65536) (hph : d.phase = .preamble)
    (hP : d.preambleLength = 17) (hM : d.maxPacket = 64) (hz : d.zeros = 0) :
    ∃ d', d.Takes t (List.replicate 17 false ++ [true] ++ wordBits (frameBytes p)) d'
      (List.replicate (frameLength p - 1) none ++ [frameAnswer p (t + (frameLength p - 1 : Nat))]) ∧
      After d d' (if (frameAnswer p (t + (frameLength p - 1 : Nat))).isSome then 1 else 0)
        (if refused p then 1 else 0) := by
  have hL : 19 ≤ frameLength p := by unfold frameLength; omega
  have ht : t + 18 + ((frameLength p - 19 : Nat) : Int) = t + (frameLength p - 1 : Nat) := by
    omega
  obtain ⟨d', hbody, hafter⟩ := takes_body (t := t + 18) p hlen
    (d := { d with phase := .length, length := 0, pos := 0, syn := 0, zeros := 0 }) rfl hP hM rfl
    rfl rfl
  rw [ht] at hbody hafter
  refine ⟨d', ((takes_start hph hP hz).append hbody (by simp)).to rfl ?_,
    ⟨hafter.phase, hafter.zeros, hafter.preambleLength, hafter.maxPacket, hafter.decoded,
      hafter.crcFailures, hafter.oversized⟩⟩
  rw [← List.append_assoc, List.replicate_append_replicate]
  congr 2
  omega

theorem takes_frames (ps : List (List UInt8)) (hps : ∀ p ∈ ps, p.length < 65536) :
    ∀ (d : Decoder) (t : Int), d.phase = .preamble → d.preambleLength = 17 → d.maxPacket = 64 →
    d.zeros = 0 →
    ∃ frames, ps.mapM frameBits = .ok frames ∧ frames.length = ps.length ∧
      d.answers t frames.flatten = streamAnswers ps t ∧
      ∀ k ≤ ps.length, After d (d.run t (frames.take k).flatten)
        ((d.answers t (frames.take k).flatten).countP Option.isSome) ((ps.take k).countP refused) := by
  induction ps with
  | nil =>
    intro d t hph _ _ hz
    refine ⟨[], rfl, rfl, rfl, fun k hk => ?_⟩
    simpa using After.refl hph hz
  | cons p ps ih =>
    intro d t hph hP hM hz
    have hlen := hps p (by simp)
    obtain ⟨d₁, hframe, hafter⟩ := takes_frame (t := t) p hlen hph hP hM hz
    obtain ⟨frames, hmap, hlenf, hans, hrest⟩ := ih (fun q hq => hps q (by simp [hq])) d₁
      (t + frameLength p) hafter.phase (hafter.preambleLength.trans hP)
      (hafter.maxPacket.trans hM) hafter.zeros
    have hL : ((List.replicate 17 false ++ [true] ++ wordBits (frameBytes p)).length : Int) =
        frameLength p := by
      rw [length_frame]
    refine ⟨(List.replicate 17 false ++ [true] ++ wordBits (frameBytes p)) :: frames,
      by rw [List.mapM_cons, frameBits_ok p hlen, hmap]; rfl, by simp [hlenf], ?_, fun k hk => ?_⟩
    · rw [List.flatten_cons, answers_append, hframe.answers, hframe.run, hL, hans, streamAnswers]
    · cases k with
      | zero => simpa using After.refl hph hz
      | succ k =>
        have h := hafter.trans (hrest k (by simpa using hk))
        rw [List.take_succ_cons, List.flatten_cons, run_append, answers_append, hframe.run,
          hframe.answers, hL]
        simp only [List.take_succ_cons, List.countP_cons, List.countP_append, List.countP_replicate,
          List.countP_nil, Option.isSome_none, Bool.false_eq_true, ↓reduceIte, Nat.zero_add]
        rw [Nat.add_comm (List.countP refused _)]
        exact h

/-- The standard decoder fed the frames of payloads one after another, bit `j` stamped `t + j`,
answers nothing but at the last bit of each frame, and there the record read from a payload of a
record's length whose padded length is at most the largest packet, stamped with that bit. At every
bit it has counted as many records as it has answered and no checksum failure; after each whole
frame it is waiting for a preamble with one refusal for each empty or too long frame so far. -/
theorem standard_reads_frames (ps : List (List UInt8)) (t : Int)
    (hps : ∀ p ∈ ps, p.length ≤ 65535) :
    ∃ frames, ps.mapM frameBits = .ok frames ∧
      standard.answers t frames.flatten = streamAnswers ps t ∧
      (∀ n, (standard.run t (frames.flatten.take n)).packetsDecoded =
          (standard.answers t (frames.flatten.take n)).countP Option.isSome ∧
        (standard.run t (frames.flatten.take n)).crcFailures = 0) ∧
      ∀ k ≤ ps.length,
        (standard.run t (frames.take k).flatten).phase = .preamble ∧
        (standard.run t (frames.take k).flatten).oversized = (ps.take k).countP refused := by
  obtain ⟨frames, hmap, hlen, hans, hk⟩ := takes_frames ps (fun p hp => by have := hps p hp; omega)
    standard t rfl rfl rfl rfl
  have hfinal := hk ps.length le_rfl
  rw [← hlen, List.take_length] at hfinal
  refine ⟨frames, hmap, hans, fun n => ⟨?_, ?_⟩, fun k hk' => ⟨(hk k hk').phase, ?_⟩⟩
  · exact (run_keeps _ standard t).decoded.trans (Nat.zero_add _)
  · have hc := (run_keeps (frames.flatten.drop n) (standard.run t (frames.flatten.take n))
      (t + (frames.flatten.take n).length)).crcFailures
    rw [← run_append, List.take_append_drop, hfinal.crcFailures] at hc
    exact Nat.le_zero.mp hc
  · exact (hk k hk').oversized.trans (Nat.zero_add _)

theorem standard_reads_record_frame :
    (∀ p ∈ [List.replicate 33 (7 : UInt8)], p.length ≤ 65535) ∧
    ∃ frames, [List.replicate 33 (7 : UInt8)].mapM frameBits = .ok frames ∧
      standard.answers 0 frames.flatten = streamAnswers [List.replicate 33 7] 0 ∧
      (∀ n, (standard.run 0 (frames.flatten.take n)).packetsDecoded =
          (standard.answers 0 (frames.flatten.take n)).countP Option.isSome ∧
        (standard.run 0 (frames.flatten.take n)).crcFailures = 0) ∧
      ∀ k ≤ 1,
        (standard.run 0 (frames.take k).flatten).phase = .preamble ∧
        (standard.run 0 (frames.take k).flatten).oversized =
          ([List.replicate 33 (7 : UInt8)].take k).countP refused :=
  ⟨by simp, standard_reads_frames [List.replicate 33 7] 0 (by simp)⟩

end Decoder

end Lighthouse.Ootx
