import Mathlib

/-!
# The check of a packet

A packet ends in the check value of what stands before it, lowest byte first. The check value
of the whole packet is then zero.
-/

namespace EverestCore.Yeti

open List

/-- A buffer with the length that is passed along with it. -/
structure Packet where
  buf : List (BitVec 8)
  len : Int
  len_le : len ≤ buf.length

def shift (crc : BitVec 32) : BitVec 32 := (crc >>> 1) ^^^ (0xEDB88320#32 &&& -(crc &&& 1#32))

def feed (crc : BitVec 32) (b : BitVec 8) : BitVec 32 := shift^[8] (crc ^^^ b.setWidth 32)

def crc32 (buf : List (BitVec 8)) (len : Int) : BitVec 32 :=
  (buf.take len.toNat).foldl feed 0xFFFFFFFF

/-- The length of the message that is decoded. -/
def handlePacket (p : Packet) : Option Int :=
  if crc32 p.buf p.len ≠ 0 then none else some (p.len - 4)

def crcBytes : Nat → BitVec 32 → List (BitVec 8)
  | 0, _ => []
  | n + 1, crc => crc.setWidth 8 :: crcBytes n (crc >>> 8)

/-- The packet before it is encoded for the serial line. -/
def linkWrite (payload : List (BitVec 8)) : Packet where
  buf := payload ++ crcBytes 4 (crc32 payload payload.length)
  len := payload.length + 4
  len_le := by simp [crcBytes]

def Packet.HasTrailer (p : Packet) : Prop :=
  4 ≤ p.len ∧ (p.buf.drop (p.len - 4).toNat).take 4 = crcBytes 4 (crc32 p.buf (p.len - 4))

variable {crc : BitVec 32} {b : BitVec 8}

theorem getLsbD_shift (crc : BitVec 32) (i : Nat) :
    (shift crc).getLsbD i =
      (crc.getLsbD (i + 1) ^^ (crc.getLsbD 0 && (0xEDB88320#32).getLsbD i)) := by
  rw [shift, BitVec.and_one_eq_setWidth_ofBool_getLsbD]
  cases crc.getLsbD 0 <;> simp [Nat.add_comm]

/-- The highest bit of the polynomial tells what has been shifted out. -/
theorem shift_injective : Function.Injective shift := by
  intro x y h
  have hbit : ∀ i, (shift x).getLsbD i = (shift y).getLsbD i := fun i => by rw [h]
  simp only [getLsbD_shift] at hbit
  have hlow : x.getLsbD 0 = y.getLsbD 0 := by simpa using hbit 31
  refine BitVec.eq_of_getLsbD_eq fun i _ => ?_
  cases i with
  | zero => exact hlow
  | succ i => exact Bool.xor_left_inj.mp (hlow ▸ hbit i)

/-- Clear bits are only shifted out. -/
theorem shift_iterate {n : Nat} (hlow : ∀ i < n, crc.getLsbD i = false) :
    shift^[n] crc = crc >>> n := by
  induction n generalizing crc with
  | zero => simp
  | succ n ih =>
    have hshift : shift crc = crc >>> 1 := by
      refine BitVec.eq_of_getLsbD_eq fun i _ => ?_
      rw [getLsbD_shift, hlow 0 n.succ_pos]
      simp [Nat.add_comm]
    rw [Function.iterate_succ_apply, hshift, ih, ← BitVec.shiftRight_add, Nat.add_comm]
    intro i hi
    simpa [Nat.add_comm] using hlow (i + 1) (Nat.succ_lt_succ hi)

theorem feed_setWidth (crc : BitVec 32) : feed crc (crc.setWidth 8) = crc >>> 8 := by
  rw [feed, shift_iterate]
  · ext i
    simp
  · intro i hi
    simp [hi, show i < 32 by omega]

/-- A register of 24 bits comes from one whose lowest byte has been fed. -/
theorem eq_setWidth_of_feed (h : (feed crc b).toNat < 256 ^ 3) : b = crc.setWidth 8 := by
  have hback : shift^[8] (feed crc b <<< 8) = feed crc b := by
    rw [shift_iterate fun i hi => by simp [hi]]
    refine BitVec.eq_of_toNat_eq ?_
    simp only [BitVec.toNat_ushiftRight, BitVec.toNat_shiftLeft, Nat.shiftRight_eq_div_pow,
      Nat.shiftLeft_eq]
    omega
  have heq : feed crc b <<< 8 = crc ^^^ b.setWidth 32 := shift_injective.iterate 8 hback
  refine (BitVec.eq_of_getLsbD_eq fun i hi => ?_).symm
  have hbit := congrArg (BitVec.getLsbD · i) heq
  simpa [hi, show i < 32 by omega] using hbit

theorem foldl_feed_eq_zero_iff {bytes : List (BitVec 8)} (h : bytes.length ≤ 4) :
    bytes.foldl feed crc = 0 ↔
      bytes = crcBytes bytes.length crc ∧ crc.toNat < 256 ^ bytes.length := by
  induction bytes generalizing crc with
  | nil => simp [crcBytes, BitVec.toNat_eq]
  | cons b rest ih =>
    rw [length_cons] at h
    rw [foldl_cons, ih (by omega), length_cons, crcBytes, cons.injEq, Nat.pow_succ]
    by_cases hb : b = crc.setWidth 8
    · rw [hb, feed_setWidth, BitVec.toNat_ushiftRight, Nat.shiftRight_eq_div_pow,
        Nat.div_lt_iff_lt_mul (by decide), eq_self, true_and]
    · have hlarge : ¬ (feed crc b).toNat < 256 ^ rest.length := by
        intro hlt
        have hle : 256 ^ rest.length ≤ 256 ^ 3 := Nat.pow_le_pow_right (by decide) (by omega)
        exact hb (eq_setWidth_of_feed (Nat.lt_of_lt_of_le hlt hle))
      simp [hb, hlarge]

theorem crc32_eq_zero_iff (p : Packet) : crc32 p.buf p.len = 0 ↔ p.HasTrailer := by
  have hle := p.len_le
  unfold Packet.HasTrailer
  by_cases hlen : 4 ≤ p.len
  · have hsplit : p.len.toNat = (p.len - 4).toNat + 4 := by omega
    have hlast : ((p.buf.drop (p.len - 4).toNat).take 4).length = 4 := by
      rw [length_take, length_drop]
      omega
    rw [crc32, hsplit, take_add, foldl_append, foldl_feed_eq_zero_iff (Nat.le_of_eq hlast), hlast]
    exact (and_iff_left (BitVec.isLt _)).trans (and_iff_right hlen).symm
  · refine iff_of_false ?_ fun h => hlen h.1
    have hshort : (p.buf.take p.len.toNat).length ≤ 3 := by
      rw [length_take]
      omega
    rw [crc32, foldl_feed_eq_zero_iff (Nat.le_succ_of_le hshort)]
    rintro ⟨-, hlt⟩
    exact absurd (Nat.lt_of_lt_of_le hlt (Nat.pow_le_pow_right (by decide) hshort)) (by decide)

/-- **Checked packets**: exactly those with the right trailer pass, among them those that are
sent, and what is decoded has a length. -/
theorem packet_check_exact :
    (∀ p : Packet, crc32 p.buf p.len = 0 ↔ p.HasTrailer) ∧
    (∀ payload, handlePacket (linkWrite payload) = some (payload.length : Int)) ∧
    ∀ p, ∀ len ∈ handlePacket p, 0 ≤ len := by
  refine ⟨crc32_eq_zero_iff, fun payload => ?_, fun p len hlen => ?_⟩
  · have hzero : crc32 (linkWrite payload).buf (linkWrite payload).len = 0 := by
      rw [crc32_eq_zero_iff]
      refine ⟨Int.le_add_of_nonneg_left (Int.natCast_nonneg _), ?_⟩
      simp [linkWrite, crcBytes, crc32]
    rw [handlePacket, if_neg (not_not.mpr hzero)]
    simp [linkWrite]
  · unfold handlePacket at hlen
    split at hlen
    · cases hlen
    · rename_i hzero
      cases hlen
      have hfour := ((crc32_eq_zero_iff p).mp (not_not.mp hzero)).1
      omega

end EverestCore.Yeti
