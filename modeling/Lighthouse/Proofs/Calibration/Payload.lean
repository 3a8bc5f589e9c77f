import Lighthouse.Calibration.Record
import Lighthouse.Proofs.Half.Conversion
import Lighthouse.Proofs.Text.Numeral
/-!
# The calibration payload

A payload is written field after field (`Calibration.fieldBytes`): the firmware version and
the serial number in little-endian order, the binary16 corrections of the two rotors
interleaved, and the status and accelerometer bytes among them. `Calibration.Layout` says at
which offset each field is found.

Main statements:
* `toPayload_eq_fieldBytes`: a record whose version and serial fit is written as its fields;
* `ofPayload_of_layout`: reading a payload laid out for a record gives the record back with its
  one-byte fields reduced to their low byte and its corrections rounded to binary16
  (`Calibration.readBack`);
* `fieldBytes_ofPayload`: writing what was read from a payload gives its first 33 bytes back,
  when no correction is a NaN.
-/
namespace Lighthouse

/-- A binary64 number rounded to binary16 and read back. -/
def Bits64.toHalf (x : Bits64) : Bits64 := ⟨Half.widen (Half.narrow x.bits)⟩

/-- The corrections of a rotor rounded to binary16 and read back. -/
def Motor.toHalf (m : Motor) : Motor :=
  ⟨m.phase.toHalf, m.tilt.toHalf, m.curve.toHalf, m.gibbousPhase.toHalf, m.gibbousMagnitude.toHalf⟩

namespace Payload

/-- The `n` bytes of `v`, least significant first. -/
def littleEndian (n v : Nat) : List UInt8 := (List.range n).map fun k => (v / 256 ^ k % 256).toUInt8

theorem bytesOf_eq_ok {v : Int} {n : Nat} (h0 : 0 ≤ v) (h1 : v < 256 ^ n) :
    bytesOf v n = .ok (littleEndian n v.toNat) := by
  unfold bytesOf
  rw [if_neg (by omega), if_neg (by rw [Nat.pow_eq]; push_cast; omega)]
  rfl

theorem toNat_lowByte (v : Int) : ((lowByte v).toNat : Int) = v % 256 := by
  unfold lowByte
  rw [Nat.toUInt8_eq, UInt8.toNat_ofNat', Nat.mod_eq_of_lt (by omega), Int.toNat_of_nonneg (by omega)]

theorem signed_eq_bmod (data : List UInt8) (i : Nat) : signed data i = Int.bmod (byte data i) 256 := by
  have hb : byte data i < 256 := (data.getD i 0).toNat_lt
  unfold signed
  dsimp only
  rw [Int.bmod_def, Int.emod_eq_of_lt (by omega) (by omega)]
  split_ifs <;> omega

theorem bytesOf_eq_error {v : Int} {n : Nat} (h : ¬(0 ≤ v ∧ v < 256 ^ n)) :
    ∃ e, bytesOf v n = .error e ∧ e.toFault.kind = .overflow := by
  unfold bytesOf
  by_cases h0 : v < 0
  · exact ⟨_, if_pos h0, rfl⟩
  · rw [if_neg h0, if_pos (by rw [Nat.pow_eq]; push_cast; omega)]
    exact ⟨_, rfl, rfl⟩

theorem littleEndian_succ (k v : Nat) :
    littleEndian (k + 1) v = (v % 256).toUInt8 :: littleEndian k (v / 256) := by
  simp [littleEndian, List.range_succ_eq_map, Nat.pow_succ', Nat.div_div_eq_div_mul]

/-- The `k` bytes of a payload from offset `off` on, zero past its end. -/
def bytesAt (data : List UInt8) (off k : Nat) : List UInt8 :=
  (List.range k).map fun j => data.getD (off + j) 0

theorem bytesAt_zero (data : List UInt8) (off : Nat) : bytesAt data off 0 = [] := rfl

theorem bytesAt_succ (data : List UInt8) (off k : Nat) :
    bytesAt data off (k + 1) = data.getD off 0 :: bytesAt data (off + 1) k := by
  simp [bytesAt, List.range_succ_eq_map, Nat.add_assoc, Nat.add_comm 1]

theorem take_eq_bytesAt {data : List UInt8} {k : Nat} (h : k ≤ data.length) :
    data.take k = bytesAt data 0 k := by
  apply List.ext_getElem (by simp [bytesAt, h])
  intro j hj _
  have hj' : j < data.length := by simp at hj; omega
  simp [bytesAt, List.getElem?_eq_getElem hj']

theorem unsigned_lt (data : List UInt8) (off k : Nat) : unsigned data off k < 256 ^ k := by
  induction k generalizing off with
  | zero => simp [unsigned]
  | succ k ih =>
    have hb : byte data off < 256 := (data.getD off 0).toNat_lt
    have hu := ih (off + 1)
    rw [unsigned, Nat.pow_succ']
    omega

theorem littleEndian_unsigned (data : List UInt8) (off k : Nat) :
    littleEndian k (unsigned data off k) = bytesAt data off k := by
  induction k generalizing off with
  | zero => rfl
  | succ k ih =>
    have hb : byte data off < 256 := (data.getD off 0).toNat_lt
    have hmod : (byte data off + 256 * unsigned data (off + 1) k) % 256 = byte data off := by omega
    have hdiv : (byte data off + 256 * unsigned data (off + 1) k) / 256 =
        unsigned data (off + 1) k := by omega
    rw [unsigned, littleEndian_succ, hmod, hdiv, ih, bytesAt_succ, byte, Nat.toUInt8_eq,
      UInt8.ofNat_toNat]

@[simp] theorem length_littleEndian (k v : Nat) : (littleEndian k v).length = k := by
  simp [littleEndian]

theorem unsigned_append_left {a b : List UInt8} {off k : Nat} (h : off + k ≤ a.length) :
    unsigned (a ++ b) off k = unsigned a off k := by
  induction k generalizing off with
  | zero => rfl
  | succ k ih =>
    rw [unsigned, unsigned, ih (by omega), byte, byte, List.getD_append _ _ _ _ (by omega)]

theorem unsigned_append_right {a b : List UInt8} {off k : Nat} (h : a.length ≤ off) :
    unsigned (a ++ b) off k = unsigned b (off - a.length) k := by
  induction k generalizing off with
  | zero => rfl
  | succ k ih =>
    rw [unsigned, unsigned, ih (by omega), byte, byte, List.getD_append_right _ _ _ _ h,
      show off + 1 - a.length = off - a.length + 1 by omega]

theorem unsigned_cons_succ (x : UInt8) (l : List UInt8) (off k : Nat) :
    unsigned (x :: l) (off + 1) k = unsigned l off k := by
  rw [← List.singleton_append, unsigned_append_right (by simp), List.length_singleton,
    Nat.add_sub_cancel]

theorem unsigned_littleEndian {k v : Nat} (h : v < 256 ^ k) :
    unsigned (littleEndian k v) 0 k = v := by
  induction k generalizing v with
  | zero => simp at h; simp [h, unsigned]
  | succ k ih =>
    have hv : v / 256 < 256 ^ k := by rw [Nat.pow_succ] at h; omega
    rw [littleEndian_succ, unsigned, unsigned_cons_succ, ih hv]
    simp [byte]
    omega

theorem lowByte_eq_getD {data : List UInt8} {i : Nat} {v : Int} (h : v % 256 = byte data i) :
    lowByte v = data.getD i 0 := by
  rw [lowByte, h, Int.toNat_natCast, byte, Nat.toUInt8_eq, UInt8.ofNat_toNat]

theorem emod_byte (data : List UInt8) (i : Nat) : (byte data i : Int) % 256 = byte data i := by
  have hb : byte data i < 256 := (data.getD i 0).toNat_lt
  exact Int.emod_eq_of_lt (by omega) (by omega)

theorem lowByte_byte (data : List UInt8) (i : Nat) : lowByte (byte data i) = data.getD i 0 :=
  lowByte_eq_getD (emod_byte data i)

theorem lowByte_signed (data : List UInt8) (i : Nat) : lowByte (signed data i) = data.getD i 0 :=
  lowByte_eq_getD (by
    rw [signed_eq_bmod]
    exact (Int.bmod_emod ..).trans (emod_byte data i))

end Payload

namespace Calibration

open Payload Interchange

/-- The bytes of a correction rounded to binary16. -/
def halfBytes (x : Bits64) : List UInt8 := Half.bytesOf (Half.narrow x.bits)

@[simp] theorem length_halfBytes (x : Bits64) : (halfBytes x).length = 2 := by
  simp [halfBytes, Half.bytesOf]

theorem unsigned_halfBytes (x : Bits64) : unsigned (halfBytes x) 0 2 = Half.narrow x.bits := by
  have h : unsigned (littleEndian 2 (Half.narrow x.bits)) 0 2 = Half.narrow x.bits :=
    unsigned_littleEndian (lt_of_lt_of_eq (Half.narrow_lt x.bits) (by norm_num))
  rwa [littleEndian, show List.range 2 = [0, 1] from rfl, List.map_cons, List.map_cons,
    List.map_nil, Nat.pow_zero, Nat.div_one, Nat.pow_one] at h

/-- A payload as its fields in order, with the serial number `serial`. -/
def fieldBytes (r : Calibration) (serial : Nat) : List UInt8 :=
  littleEndian 2 r.fwVersion.toNat ++ littleEndian 4 serial ++
    halfBytes r.motors.1.phase ++ halfBytes r.motors.2.phase ++
    halfBytes r.motors.1.tilt ++ halfBytes r.motors.2.tilt ++
    [lowByte r.sysUnlockCount, lowByte r.hwVersion] ++
    halfBytes r.motors.1.curve ++ halfBytes r.motors.2.curve ++
    r.accel.map lowByte ++
    halfBytes r.motors.1.gibbousPhase ++ halfBytes r.motors.2.gibbousPhase ++
    halfBytes r.motors.1.gibbousMagnitude ++ halfBytes r.motors.2.gibbousMagnitude ++
    [lowByte r.modeCurrent, lowByte r.sysFaults]

/-- The record a payload written from `r` with the serial number `serial` reads back as: the
serial as the decimal numeral of its number, the unsigned one-byte fields reduced modulo 256, the
signed ones to the two's complement value of their low byte, and each correction rounded to
binary16. -/
def readBack (r : Calibration) (serial : Int) (timestamp : Int) : Calibration where
  serial := toString serial
  fwVersion := r.fwVersion
  hwVersion := r.hwVersion % 256
  motors := (r.motors.1.toHalf, r.motors.2.toHalf)
  accel := r.accel.map (Int.bmod · 256)
  sysUnlockCount := r.sysUnlockCount % 256
  modeCurrent := Int.bmod r.modeCurrent 256
  sysFaults := Int.bmod r.sysFaults 256
  timestamp

section Writing

variable {r : Calibration} {n : Int}

theorem exists_accel_eq (ha : r.accel.length = 3) : ∃ a₀ a₁ a₂, r.accel = [a₀, a₁, a₂] := by
  match h : r.accel, ha with
  | [a₀, a₁, a₂], _ => exact ⟨a₀, a₁, a₂, rfl⟩

/-- A record whose version fits in two bytes, whose serial is the numeral of a number that fits
in four and which has three accelerometer readings is written as its fields. -/
theorem toPayload_eq_fieldBytes (hfw : 0 ≤ r.fwVersion ∧ r.fwVersion < 2 ^ 16)
    (hs : Text.readInteger r.serial = .value n) (hn : 0 ≤ n ∧ n < 2 ^ 32)
    (ha : r.accel.length = 3) :
    toPayload r = .ok (r.fieldBytes n.toNat) := by
  obtain ⟨a₀, a₁, a₂, hacc⟩ := exists_accel_eq ha
  unfold toPayload
  rw [bytesOf_eq_ok hfw.1 (by norm_num; omega)]
  simp only [bind, Except.bind, hs, pure, Except.pure]
  rw [bytesOf_eq_ok hn.1 (by norm_num; omega)]
  -- the writes at fixed offsets into 33 zero bytes give the fields in order
  simp [hacc, put, halfFields, littleEndian, List.range, List.range.loop, List.zipIdx,
    payloadLength, fieldBytes, halfBytes, Half.bytesOf]

end Writing

/-- Where the fields of a record written with the serial number `serial` lie in a payload:
the version in the two bytes at `0x00`, the serial in the four at `0x02`, each correction
rounded to binary16 in the two at its offset, and the low byte of each one-byte field at its
offset. -/
structure Layout (r : Calibration) (serial : Nat) (data : List UInt8) : Prop where
  length : data.length = payloadLength
  fwVersion : (unsigned data 0x00 2 : Int) = r.fwVersion
  serial : unsigned data 0x02 4 = serial
  halves : ∀ p ∈ r.halfFields, unsigned data p.1 2 = Half.narrow p.2.bits
  sysUnlockCount : (byte data 0x0E : Int) = r.sysUnlockCount % 256
  hwVersion : (byte data 0x0F : Int) = r.hwVersion % 256
  accel : ∀ k < 3, (byte data (0x14 + k) : Int) = r.accel.getD k 0 % 256
  modeCurrent : (byte data 0x1F : Int) = r.modeCurrent % 256
  sysFaults : (byte data 0x20 : Int) = r.sysFaults % 256

theorem layout_fieldBytes {r : Calibration} {n : Nat} (hfw : 0 ≤ r.fwVersion ∧ r.fwVersion < 2 ^ 16)
    (hn : n < 2 ^ 32) (ha : r.accel.length = 3) : Layout r n (r.fieldBytes n) := by
  obtain ⟨a₀, a₁, a₂, hacc⟩ := exists_accel_eq ha
  -- each field is read past the fields before it, from its own bytes
  constructor
  · simp [fieldBytes, hacc, payloadLength]
  · simp only [fieldBytes, List.append_assoc]
    rw [unsigned_append_left (by simp), unsigned_littleEndian (by norm_num; omega)]
    omega
  · simp only [fieldBytes, List.append_assoc]
    rw [unsigned_append_right (by simp), length_littleEndian, Nat.sub_self,
      unsigned_append_left (by simp), unsigned_littleEndian (by norm_num; omega)]
  · intro p hp
    simp only [halfFields, List.mem_cons, List.not_mem_nil, or_false] at hp
    rcases hp with rfl | rfl | rfl | rfl | rfl | rfl | rfl | rfl | rfl | rfl <;>
      simp [fieldBytes, hacc, unsigned_append_left, unsigned_append_right, unsigned_cons_succ,
        unsigned_halfBytes]
  all_goals try intro k hk; interval_cases k
  all_goals simp [fieldBytes, hacc, byte, toNat_lowByte]

section Reading

variable {r : Calibration} {n : Nat} {data : List UInt8}

theorem signed_of_byte {i : Nat} {v : Int} (h : (byte data i : Int) = v % 256) :
    signed data i = Int.bmod v 256 := by
  rw [signed_eq_bmod, h]
  exact Int.emod_bmod ..

theorem toString_natCast (m : Nat) : toString (m : Int) = toString m := rfl

theorem Layout.half (L : Layout r n data) {p : Nat × Bits64} (hp : p ∈ r.halfFields) :
    half data p.1 = p.2.toHalf := by
  rw [Payload.half, L.halves p hp]
  rfl

/-- A payload laid out for a record reads back as the record with each field cut to what its
bytes hold. -/
theorem ofPayload_of_layout (L : Layout r n data) (ha : r.accel.length = 3) (timestamp : Int) :
    ofPayload data timestamp = .ok (r.readBack n timestamp) := by
  obtain ⟨a₀, a₁, a₂, hacc⟩ := exists_accel_eq ha
  have hhalf := fun p hp => L.half (p := p) hp
  simp only [halfFields, List.mem_cons, List.not_mem_nil, or_false, forall_eq_or_imp,
    forall_eq] at hhalf
  obtain ⟨h₀, h₁, h₂, h₃, h₄, h₅, h₆, h₇, h₈, h₉⟩ := hhalf
  have hacc' := L.accel
  simp only [hacc] at hacc'
  unfold ofPayload
  rw [if_neg (by rw [L.length]; omega)]
  simp only [readBack, motorAt, Motor.toHalf, hacc, h₀, h₁, h₂, h₃, h₄, h₅, h₆, h₇, h₈, h₉,
    L.fwVersion, L.serial, L.hwVersion, L.sysUnlockCount, signed_of_byte L.modeCurrent,
    signed_of_byte L.sysFaults, signed_of_byte (hacc' 0 (by omega)),
    signed_of_byte (hacc' 1 (by omega)), signed_of_byte (hacc' 2 (by omega)), List.getD_cons_zero, List.getD_cons_succ, List.map_cons,
    List.map_nil, toString_natCast]

theorem ofPayload_toPayload (hfw : 0 ≤ r.fwVersion ∧ r.fwVersion < 2 ^ 16) {serial : Int}
    (hs : Text.readInteger r.serial = .value serial) (hn : 0 ≤ serial ∧ serial < 2 ^ 32)
    (ha : r.accel.length = 3) (timestamp : Int) :
    ∃ data, toPayload r = .ok data ∧ ofPayload data timestamp = .ok (r.readBack serial timestamp) := by
  refine ⟨_, toPayload_eq_fieldBytes hfw hs hn ha, ?_⟩
  rw [ofPayload_of_layout (layout_fieldBytes hfw (by omega) ha) ha timestamp,
    Int.toNat_of_nonneg hn.1]

end Reading

section Errors

variable {r : Calibration}

theorem toPayload_error_of_fwVersion (h : ¬(0 ≤ r.fwVersion ∧ r.fwVersion < 2 ^ 16)) :
    ∃ e, toPayload r = .error e ∧ e.toFault.kind = .overflow := by
  obtain ⟨e, he, hk⟩ := bytesOf_eq_error (v := r.fwVersion) (n := 2) (by norm_num; omega)
  refine ⟨e, ?_, hk⟩
  unfold toPayload
  rw [he]
  rfl

theorem toPayload_error_of_serial (hfw : 0 ≤ r.fwVersion ∧ r.fwVersion < 2 ^ 16)
    (hs : ∀ n, Text.readInteger r.serial ≠ .value n) :
    ∃ e, toPayload r = .error e ∧ e.toFault.kind = .value := by
  unfold toPayload
  rw [bytesOf_eq_ok hfw.1 (by norm_num; omega)]
  cases h : Text.readInteger r.serial with
  | value n => exact absurd h (hs n)
  | invalid => exact ⟨_, rfl, rfl⟩
  | tooLong k => exact ⟨_, rfl, rfl⟩

theorem toPayload_error_of_serial_range {n : Int} (hfw : 0 ≤ r.fwVersion ∧ r.fwVersion < 2 ^ 16)
    (hs : Text.readInteger r.serial = .value n) (hn : ¬(0 ≤ n ∧ n < 2 ^ 32)) :
    ∃ e, toPayload r = .error e ∧ e.toFault.kind = .overflow := by
  obtain ⟨e, he, hk⟩ := bytesOf_eq_error (v := n) (n := 4) (by norm_num; omega)
  refine ⟨e, ?_, hk⟩
  unfold toPayload
  rw [bytesOf_eq_ok hfw.1 (by norm_num; omega)]
  simp only [bind, Except.bind, hs, pure, Except.pure, he]

theorem ofPayload_error_iff (data : List UInt8) (timestamp : Int) :
    (∃ e, ofPayload data timestamp = .error e ∧ e.toFault.kind = .value) ↔
      data.length < payloadLength := by
  unfold ofPayload
  constructor
  · rintro ⟨e, he, -⟩
    by_contra h
    rw [if_neg h] at he
    cases he
  · intro h
    rw [if_pos h]
    exact ⟨_, rfl, rfl⟩

end Errors

def halfOffsets : List Nat := [0x06, 0x08, 0x0A, 0x0C, 0x10, 0x12, 0x17, 0x19, 0x1B, 0x1D]

section Rewriting

variable {data : List UInt8}

theorem halfBytes_half {off : Nat} (hn : ¬binary16.IsNaN (unsigned data off 2)) :
    halfBytes (half data off) = bytesAt data off 2 := by
  have hbytes : ∀ h, Half.bytesOf h = littleEndian 2 h := fun h => by
    simp [Half.bytesOf, littleEndian, List.range_succ]
  rw [halfBytes, Payload.half, Half.narrow_widen (unsigned_lt data off 2) hn, hbytes,
    littleEndian_unsigned]

theorem toPayload_ofPayload (hlen : payloadLength ≤ data.length)
    (hnan : ∀ i ∈ halfOffsets, ¬binary16.IsNaN (unsigned data i 2)) (timestamp : Int) :
    ∃ r, ofPayload data timestamp = .ok r ∧ toPayload r = .ok (data.take payloadLength) := by
  simp only [halfOffsets, List.mem_cons, List.not_mem_nil, or_false, forall_eq_or_imp,
    forall_eq] at hnan
  obtain ⟨n₀, n₁, n₂, n₃, n₄, n₅, n₆, n₇, n₈, n₉⟩ := hnan
  have hfw := unsigned_lt data 0x00 2
  have hserial := unsigned_lt data 0x02 4
  unfold ofPayload
  rw [if_neg (by unfold payloadLength at hlen ⊢; omega)]
  refine ⟨_, rfl, ?_⟩
  refine (toPayload_eq_fieldBytes (n := unsigned data 0x02 4) ?_ ?_ ?_ ?_).trans (congrArg _ ?_)
  · exact ⟨by simp, by simp only; omega⟩
  · exact Text.readInteger_toString (by unfold Text.integerDigitLimit; omega)
  · exact ⟨by simp, by omega⟩
  · rfl
  simp only [fieldBytes, motorAt, Int.toNat_natCast, littleEndian_unsigned, halfBytes_half n₀,
    halfBytes_half n₁, halfBytes_half n₂, halfBytes_half n₃, halfBytes_half n₄, halfBytes_half n₅,
    halfBytes_half n₆, halfBytes_half n₇, halfBytes_half n₈, halfBytes_half n₉, lowByte_byte,
    lowByte_signed, List.map_cons, List.map_nil, take_eq_bytesAt hlen]
  simp only [payloadLength, bytesAt_succ, bytesAt_zero, Nat.reduceAdd, List.cons_append,
    List.nil_append]

end Rewriting

/-- The payload codec. A record whose version fits in two unsigned bytes, whose serial is the
numeral of a number that fits in four and which has three accelerometer readings is written, and
reads back as `readBack`: the serial rewritten as that number's numeral, the one-byte fields cut
to their low byte, and each correction rounded to binary16 to nearest (`Half.RoundsToHalf`).
Writing fails on a version out of range before anything else, then on a serial that is no
integer or is out of range. A payload of 33 bytes or more reads as a record that is written back
as its first 33 bytes when no correction is a NaN, and reading fails exactly on a shorter
payload. -/
theorem payload_round_trip :
    (∀ (r : Calibration) (serial timestamp : Int), 0 ≤ r.fwVersion ∧ r.fwVersion < 2 ^ 16 →
        Text.readInteger r.serial = .value serial → 0 ≤ serial ∧ serial < 2 ^ 32 →
        r.accel.length = 3 →
        ∃ data, toPayload r = .ok data ∧
          ofPayload data timestamp = .ok (r.readBack serial timestamp)) ∧
      (∀ x : Bits64, Half.RoundsToHalf x.bits.toNat x.toHalf.bits.toNat) ∧
      (∀ r : Calibration, ¬(0 ≤ r.fwVersion ∧ r.fwVersion < 2 ^ 16) →
        ∃ e, toPayload r = .error e ∧ e.toFault.kind = .overflow) ∧
      (∀ r : Calibration, 0 ≤ r.fwVersion ∧ r.fwVersion < 2 ^ 16 →
        (∀ n, Text.readInteger r.serial ≠ .value n) →
        ∃ e, toPayload r = .error e ∧ e.toFault.kind = .value) ∧
      (∀ (r : Calibration) (serial : Int), 0 ≤ r.fwVersion ∧ r.fwVersion < 2 ^ 16 →
        Text.readInteger r.serial = .value serial → ¬(0 ≤ serial ∧ serial < 2 ^ 32) →
        ∃ e, toPayload r = .error e ∧ e.toFault.kind = .overflow) ∧
      (∀ (data : List UInt8) (timestamp : Int), payloadLength ≤ data.length →
        (∀ i ∈ halfOffsets, ¬binary16.IsNaN (unsigned data i 2)) →
        ∃ r, ofPayload data timestamp = .ok r ∧ toPayload r = .ok (data.take payloadLength)) ∧
      (∀ (data : List UInt8) (timestamp : Int),
        (∃ e, ofPayload data timestamp = .error e ∧ e.toFault.kind = .value) ↔
          data.length < payloadLength) :=
  ⟨fun _ _ timestamp hfw hs hn ha => ofPayload_toPayload hfw hs hn ha timestamp,
    fun x => Half.widen_narrow_roundsToHalf x.bits,
    fun _ h => toPayload_error_of_fwVersion h,
    fun _ hfw hs => toPayload_error_of_serial hfw hs,
    fun _ _ hfw hs hn => toPayload_error_of_serial_range hfw hs hn,
    fun _ timestamp hlen hnan => toPayload_ofPayload hlen hnan timestamp,
    ofPayload_error_iff⟩

theorem serial_100_round_trip :
    (0 ≤ (ofSerial "100").fwVersion ∧ (ofSerial "100").fwVersion < 2 ^ 16) ∧
      Text.readInteger (ofSerial "100").serial = .value 100 ∧ (0 ≤ (100 : Int) ∧ (100 : Int) < 2 ^ 32) ∧
      (ofSerial "100").accel.length = 3 ∧
      ∃ data, toPayload (ofSerial "100") = .ok data ∧
        ofPayload data 7 = .ok ((ofSerial "100").readBack 100 7) :=
  have hfw : 0 ≤ (ofSerial "100").fwVersion ∧ (ofSerial "100").fwVersion < 2 ^ 16 := by decide
  have hs : Text.readInteger (ofSerial "100").serial = .value 100 := by decide
  ⟨hfw, hs, by decide, rfl, payload_round_trip.1 (ofSerial "100") 100 7 hfw hs (by decide) rfl⟩

end Calibration

end Lighthouse
