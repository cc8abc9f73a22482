import Mathlib

/-!
# BER entries

A GOOSE message is a tree of tagged values. An entry is its tag, the number of its value
bytes and the value. Numbers above 127 take several octets, most significant first.
-/

namespace EverestCore.Goose

open List

structure BEREntry where
  tag : UInt8
  value : List UInt8
deriving DecidableEq

namespace BEREntry

variable (octets : List UInt8)

/-- The length is a `size_t`. -/
def decodeLength : Nat :=
  octets.foldl (fun length octet => (length <<< 8 ||| octet.toNat) % 2 ^ 64) 0

def takeValue (tag : UInt8) (length : Nat) (input : List UInt8) :
    Except String (BEREntry × List UInt8) :=
  if length > input.length then .error "BEREntry: input too short, payload missing"
  else .ok (⟨tag, input.take length⟩, input.drop length)

/-- The entry in front, and the input without it. -/
def decode : List UInt8 → Except String (BEREntry × List UInt8)
  | tag :: first :: input =>
    if first.toNat &&& 0x80 ≠ 0 then
      let lengthOctets := first.toNat &&& 0x7F
      if lengthOctets > input.length then
        .error "BEREntry: input too short, length octets missing"
      else takeValue tag (decodeLength (input.take lengthOctets)) (input.drop lengthOctets)
    else takeValue tag first.toNat input
  | _ => .error "BEREntry: input has no tag or length"

def requiredBytes (length : Nat) : Nat :=
  if length &&& 0xFF000000 ≠ 0 then 4
  else if length &&& 0x00FF0000 ≠ 0 then 3
  else if length &&& 0x0000FF00 ≠ 0 then 2
  else 1

def lengthOctets (required length : Nat) : List UInt8 :=
  (List.range required).map fun i => .ofNat (length >>> (8 * (required - i - 1)) &&& 0xFF)

def encode (e : BEREntry) : List UInt8 :=
  let length := e.value.length
  if length ≤ 127 then e.tag :: .ofNat (length &&& 0x7F) :: e.value
  else
    let required := requiredBytes length
    e.tag :: .ofNat (0x80 ||| required) :: (lengthOctets required length ++ e.value)

/-! ## What the length octets announce -/

def bigEndian : Nat := octets.foldl (fun n octet => n * 256 + octet.toNat) 0

def announced : List UInt8 → Nat
  | _ :: first :: input =>
    if first.toNat &&& 0x80 ≠ 0 then bigEndian (input.take (first.toNat &&& 0x7F))
    else first.toNat
  | _ => 0

theorem decodeLength_eq : decodeLength octets = bigEndian octets % 2 ^ 64 := by
  show octets.foldl _ (0 % 2 ^ 64) = _
  refine foldl_hom (· % 2 ^ 64) ?_
  intro n octet
  rw [← Nat.shiftLeft_add_eq_or_of_lt octet.toNat_lt, Nat.shiftLeft_eq]
  omega

theorem bigEndian_lengthOctets {required length : Nat} (h : length < 256 ^ required) :
    bigEndian (lengthOctets required length) = length := by
  induction required generalizing length with
  | zero => simp_all [lengthOctets, bigEndian]
  | succ required ih =>
    -- the last octet is the least significant one
    have hsplit : lengthOctets (required + 1) length =
        lengthOctets required (length >>> 8) ++ [.ofNat (length &&& 0xFF)] := by
      unfold lengthOctets
      rw [range_succ, map_append]
      congr 1
      · apply map_congr_left
        intro i hi
        rw [← Nat.shiftRight_add]
        congr 3
        have := mem_range.mp hi
        omega
      · simp
    have hhigh : length >>> 8 < 256 ^ required := by
      rw [Nat.shiftRight_eq_div_pow]
      exact Nat.div_lt_of_lt_mul (by rwa [pow_succ, mul_comm] at h)
    rw [hsplit, bigEndian, foldl_append]
    show bigEndian _ * 256 + (UInt8.ofNat (length &&& 0xFF)).toNat = length
    rw [ih hhigh, Nat.and_two_pow_sub_one_eq_mod length 8, UInt8.toNat_ofNat',
      Nat.shiftRight_eq_div_pow]
    omega

/-- None of the eight bits above the lowest `k` is set. -/
theorem lt_of_and_eq_zero {n mask k : Nat} (hand : n &&& mask = 0) (hn : n < 2 ^ (k + 8))
    (hmask : ∀ i < 8, mask.testBit (k + i) = true) : n < 2 ^ k := by
  apply Nat.lt_pow_two_of_testBit
  intro i hi
  by_cases hlt : i < k + 8
  · have hzero := congrArg (Nat.testBit · i) hand
    have hset := hmask (i - k) (by omega)
    rw [Nat.add_sub_cancel' hi] at hset
    simpa [hset] using hzero
  · exact Nat.testBit_lt_two_pow
      (hn.trans_le (Nat.pow_le_pow_right (by decide) (Nat.le_of_not_lt hlt)))

theorem requiredBytes_spec {length : Nat} (h : length < 2 ^ 32) :
    requiredBytes length ≤ 4 ∧ length < 256 ^ requiredBytes length := by
  unfold requiredBytes
  split
  · exact ⟨le_rfl, h⟩
  rename_i h₄
  have h24 := lt_of_and_eq_zero (k := 24) (not_not.mp h₄) h (by decide)
  split
  · exact ⟨by decide, h24⟩
  rename_i h₃
  have h16 := lt_of_and_eq_zero (k := 16) (not_not.mp h₃) h24 (by decide)
  split
  · exact ⟨by decide, h16⟩
  rename_i h₂
  exact ⟨by decide, lt_of_and_eq_zero (k := 8) (not_not.mp h₂) h16 (by decide)⟩

/-! ## Decoding -/

theorem takeValue_append (e : BEREntry) (rest : List UInt8) :
    takeValue e.tag e.value.length (e.value ++ rest) = .ok (e, rest) := by
  simp [takeValue]

theorem decode_encode (e : BEREntry) (rest : List UInt8) (h : e.value.length < 2 ^ 32) :
    decode (e.encode ++ rest) = .ok (e, rest) := by
  unfold encode
  dsimp only
  split_ifs with hshort
  · have hfirst : ∀ n ≤ 127, (UInt8.ofNat (n &&& 0x7F)).toNat = n ∧ n &&& 0x80 = 0 := by decide
    obtain ⟨hnumber, hbit⟩ := hfirst _ hshort
    simp only [cons_append, decode, hnumber, hbit]
    exact takeValue_append e rest
  · obtain ⟨hrequired, hlt⟩ := requiredBytes_spec h
    have hfirst : ∀ r ≤ 4, (UInt8.ofNat (0x80 ||| r)).toNat &&& 0x80 ≠ 0 ∧
        (UInt8.ofNat (0x80 ||| r)).toNat &&& 0x7F = r := by decide
    obtain ⟨hbit, hnumber⟩ := hfirst _ hrequired
    have hoctets : (lengthOctets (requiredBytes e.value.length) e.value.length).length =
        requiredBytes e.value.length := by simp [lengthOctets]
    have hlength : decodeLength (lengthOctets (requiredBytes e.value.length) e.value.length) =
        e.value.length := by
      rw [decodeLength_eq, bigEndian_lengthOctets hlt]
      omega
    simp only [cons_append, append_assoc, decode, if_pos hbit, hnumber]
    rw [if_neg (by simp [hoctets]), take_left' hoctets, drop_left' hoctets, hlength]
    exact takeValue_append e rest

theorem length_of_takeValue {tag : UInt8} {length : Nat} {input rest : List UInt8} {e : BEREntry}
    (h : takeValue tag length input = .ok (e, rest)) : e.value.length = length := by
  unfold takeValue at h
  split_ifs at h with hlong
  cases h
  simpa using hlong

theorem announced_iff {input rest : List UInt8} {e : BEREntry} (h : decode input = .ok (e, rest)) :
    announced input = e.value.length ↔ announced input < 2 ^ 64 := by
  unfold decode at h
  split at h
  · rename_i tag first input
    rw [announced]
    dsimp only at h
    split_ifs at h ⊢
    · rw [length_of_takeValue h, decodeLength_eq]
      omega
    · rw [length_of_takeValue h]
      have := first.toNat_lt
      omega
  · cases h

/-- **BER decoding.** An encoded entry is read back, whatever follows it. What else is decoded has
the size that its length octets announce, unless that does not fit into a `size_t`. -/
theorem ber_decoding_exact_iff (entry : BEREntry) (suffix input : List UInt8) :
    (entry.value.length < 2 ^ 32 → decode (entry.encode ++ suffix) = .ok (entry, suffix)) ∧
      ∀ e rest, decode input = .ok (e, rest) →
        (announced input = e.value.length ↔ announced input < 2 ^ 64) :=
  ⟨decode_encode entry suffix, fun _ _ h => announced_iff h⟩

/-- Nine length octets that announce 2 ^ 64 bytes: the entry is taken as empty. -/
theorem overlong_entry_is_empty :
    decode ([0x61, 0x89, 1] ++ List.replicate 8 0) = .ok (⟨0x61, []⟩, []) ∧
      announced ([0x61, 0x89, 1] ++ List.replicate 8 0) = 2 ^ 64 := by
  decide

end BEREntry

end EverestCore.Goose
