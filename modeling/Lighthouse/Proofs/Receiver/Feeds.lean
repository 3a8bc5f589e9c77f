import Lighthouse.Proofs.Receiver.Run
/-!
# Which bits each slot's decoder takes

A lighthouse sends one data bit of its OOTX frame per sync flash, and every sensor that sees the
flash reports it as a sync pulse of its own. The receiver does not wait for the flash to end: it
feeds the data bit of every kept sync pulse, read from that pulse's own length, to the decoder of
the slot that the tracker is on once the pulse is placed. A sync pulse whose gap is too long for
the second lighthouse and too short for a new cycle opens no flash, yet still feeds the current
slot.

`fedBits` lists those bits for one slot, and `run_channels` says a receiver takes exactly them:
every decoder ends as if it had been fed its list and nothing else, and no lighthouse a channel
has identified changes. A flash seen by two sensors therefore feeds two bits.
-/
namespace Lighthouse

namespace Ootx.Decoder

/-- The decoder after taking the given bits in order, each with its own timecode. -/
def feedAll (d : Decoder) : List (Bool × Int) → Decoder
  | [] => d
  | (b, t) :: bs => (d.feed b t).1.feedAll bs

@[simp] theorem feedAll_nil (d : Decoder) : d.feedAll [] = d := rfl

@[simp] theorem feedAll_cons (d : Decoder) (b : Bool) (t : Int) (bs : List (Bool × Int)) :
    d.feedAll ((b, t) :: bs) = (d.feed b t).1.feedAll bs := rfl

end Ootx.Decoder

/-- The bits, each with its timecode, that the decoder of slot `k` takes from `pulses` when the
tracker starts at `tr`: every kept sync pulse gives its own data bit to the slot the tracker is
on once the pulse is placed, and no other pulse gives a bit. -/
def fedBits (numSensors : Int) (k : Nat) : Tracker → List (Int × Int × Int) → List (Bool × Int)
  | _, [] => []
  | tr, (timecode, sensor, length) :: ps =>
    if keptSync numSensors sensor length then
      (if (tr.place timecode).current = k then [(Acode.dataBit (decodeAcode length), timecode)]
        else []) ++ fedBits numSensors k (tr.place timecode) ps
    else fedBits numSensors k tr ps

namespace Receiver

variable {r : Receiver}

/-- A receiver whose table has room for both flashes takes any stream of pulses without
failing, and each channel's decoder ends as if fed exactly the bits `fedBits` lists for its
slot. -/
theorem run_channels (hr : r.sync.Wf) (ps : List (Int × Int × Int)) :
    ∃ r', r.run ps = .ok r' ∧
      r'.channels = r.channels.mapIdx fun k ch =>
        { ch with decoder := ch.decoder.feedAll (fedBits r.numSensors k r.sync.tracker ps) } := by
  induction ps generalizing r with
  | nil =>
    refine ⟨r, rfl, ?_⟩
    apply List.ext_getElem?
    intro k
    simp [fedBits, List.getElem?_mapIdx]
  | cons p ps ih =>
    obtain ⟨timecode, sensor, length⟩ := p
    by_cases hk : keptSync r.numSensors sensor length
    · -- a kept sync pulse: one bit to the slot it leaves current, then the rest of the stream
      obtain ⟨hfail, s', hits, e, a, hwf, htr, hfin⟩ := onSync_eq hr timecode length
      rw [← step_of_keptSync hk] at hfail hfin
      obtain ⟨r', hrun, hch⟩ := ih (r := (r.step timecode sensor length).final)
        (by rw [hfin]; exact hwf)
      refine ⟨r', by rw [run_cons_of_failure_eq_none hfail, hrun], ?_⟩
      have hcur : s'.current = (r.sync.tracker.place timecode).current := by rw [← htr]; rfl
      rw [hch, hfin]
      apply List.ext_getElem?
      intro k
      simp only [List.getElem?_mapIdx, List.getElem?_modify, fedBits, if_pos hk, htr, hcur]
      rcases r.channels[k]? with _ | ch
      · rfl
      · by_cases hck : (r.sync.tracker.place timecode).current = k <;> simp [hck, Channel.feed]
    · -- any other pulse: the channels and the tracker stay, so does every slot's list
      obtain ⟨hfail, a, st, ac, w, d, hfin⟩ := step_of_not_keptSync timecode hk
      obtain ⟨r', hrun, hch⟩ := ih (r := (r.step timecode sensor length).final)
        (by rw [hfin]; exact ⟨hr.1, hr.2, hr.3, hr.4⟩)
      refine ⟨r', by rw [run_cons_of_failure_eq_none hfail, hrun], ?_⟩
      rw [hch, hfin]
      simp only [fedBits, if_neg hk]
      rfl

/-- A receiver over at least two channels takes every stream of pulses without failing. Each
slot's decoder takes, in order and each with its pulse's timecode, the data bits of exactly the
kept sync pulses placed on that slot, one bit per pulse and read from that pulse's own length;
every channel keeps the lighthouse it had identified. -/
theorem decoders_take_bit_per_sync_pulse (channels : List Channel) (numSensors : Int)
    (h2 : 2 ≤ channels.length) (ps : List (Int × Int × Int)) :
    ∃ r, (create channels numSensors).run ps = .ok r ∧
      r.channels = channels.mapIdx fun k ch =>
        { ch with decoder := ch.decoder.feedAll (fedBits numSensors k {} ps) } :=
  run_channels (create_wf h2 numSensors).sync ps

/-- A stream with a dropped pulse, a sweep pulse and sync pulses on both slots. -/
theorem two_slots_take_sync_bits :
    2 ≤ [({} : Channel), {}].length ∧
      ∃ r, (create [{}, {}] 8).run
          [(0, 0, 6000), (90, 9, 3000), (5000, 3, 200), (30000, 1, 4000), (30100, 2, 3600)] = .ok r ∧
        r.channels = [({} : Channel), {}].mapIdx fun k ch => { ch with
          decoder := ch.decoder.feedAll (fedBits 8 k {}
            [(0, 0, 6000), (90, 9, 3000), (5000, 3, 200), (30000, 1, 4000), (30100, 2, 3600)]) } :=
  ⟨by decide, decoders_take_bit_per_sync_pulse [{}, {}] 8 (by decide) _⟩

/-- Two sync pulses ten ticks apart, seen by two sensors, are one flash of the first slot; its
decoder nonetheless takes two bits, so its run of zeros is two long where one bit per flash
would make it one. -/
theorem one_flash_feeds_two_bits :
    Ticks.timecodeDelta 10 0 < sameCycleGap ∧
      ∃ r, (create [{}, {}] 8).run [(0, 0, 3000), (10, 1, 3000)] = .ok r ∧
        r.channels.map (·.decoder.zeros) = [2, 0] := by
  obtain ⟨r, hrun, hch⟩ := run_channels
    (create_wf (show 2 ≤ [({} : Channel), {}].length by decide) 8).sync
    [(0, 0, 3000), (10, 1, 3000)]
  refine ⟨by decide, r, hrun, ?_⟩
  rw [hch]
  decide

end Receiver

end Lighthouse
