import Mathlib.Data.Rat.Floor
import Mathlib.Tactic.Linarith
import EverestCore.V2G.Context

/-!
# Physical values sent to the EV

A limit is sent as a 16-bit value and a power of ten. An integer that is too large is divided by
ten until it fits, and a fractional number is multiplied by ten while it still fits. What is sent
then is the limit, cut off towards zero at its last digit. The two do not meet for a fractional
number whose integer part does not fit: the multiplier is raised for the integer part, and the
number itself is stored undivided.
-/

namespace EverestCore.V2G

variable {υ : Type}

/-- `iso2_PhysicalValueType` with the unit, which nothing else here reads. -/
structure UnitValue (υ : Type) extends PhysicalValue where
  unit : υ
  deriving DecidableEq

def phyValueMultMin : Int := -3
def phyValueMultMax : Int := 3

variable (n : Int)

def FitsInt16 : Prop := -32768 ≤ n ∧ n ≤ 32767

instance (n : Int) : Decidable (FitsInt16 n) := inferInstanceAs (Decidable (_ ∧ _))

/-- A conversion to an integer type drops the fraction. -/
def truncate (v : ℚ) : Int := if 0 ≤ v then ⌊v⌋ else ⌈v⌉

/-- The division loop of `populate_physical_value`. -/
def scaleDown (multiplier value : Int) : Int × Int :=
  if value > 32767 ∨ value < -32768 then scaleDown (multiplier + 1) (value.tdiv 10)
  else (multiplier, value)
termination_by value.natAbs
decreasing_by
  rw [Int.natAbs_tdiv]
  exact Nat.div_lt_self (by omega) (by decide)

def populatePhysicalValue (pv : UnitValue υ) (value : Int) (unit : υ) : UnitValue υ × Bool :=
  let (multiplier, value) := scaleDown 0 value
  if multiplier < phyValueMultMin ∨ multiplier > phyValueMultMax then (pv, false)
  else ({ value, multiplier, unit }, true)

/-- The multiplication loop of `populate_physical_value_float`. -/
def scaleUp : Nat → Int → ℚ → Int × ℚ
  | 0, multiplier, value => (multiplier, value)
  | places + 1, multiplier, value =>
    if truncate (value * 10) < 32767 ∧ truncate (value * 10) > -32768 then
      scaleUp places (multiplier - 1) (value * 10)
    else scaleUp places multiplier value

/-- Storing a number in an `int16_t` is undefined when its integer part does not fit. -/
def toInt16 (value : ℚ) : Option Int :=
  if FitsInt16 (truncate value) then some (truncate value) else none

def populatePhysicalValueFloat (pv : UnitValue υ) (value : ℚ) (decimalPlaces : Nat) (unit : υ) :
    Option (UnitValue υ) :=
  match populatePhysicalValue pv (truncate value) unit with
  | (pv', false) => some pv'
  | (pv', true) =>
    let (multiplier, value) :=
      if pv'.multiplier = 0 then scaleUp decimalPlaces pv'.multiplier value
      else (pv'.multiplier, value)
    (toInt16 value).map fun value => { pv' with multiplier, value }

/-- What the EV reads is not above the limit, and the two differ by less than a last digit. -/
structure Faithful (pv : PhysicalValue) (v : ℚ) : Prop where
  value : FitsInt16 pv.value
  multiplier : phyValueMultMin ≤ pv.multiplier ∧ pv.multiplier ≤ phyValueMultMax
  le : |(pv.value : ℚ) * 10 ^ pv.multiplier| ≤ |v|
  near : |v - pv.value * 10 ^ pv.multiplier| < 10 ^ pv.multiplier

/-! ## Cutting off towards zero -/

theorem abs_truncate_le (v : ℚ) : |(truncate v : ℚ)| ≤ |v| := by
  unfold truncate
  split
  · rename_i hv
    rw [abs_of_nonneg hv, abs_of_nonneg (by exact_mod_cast Int.floor_nonneg.mpr hv)]
    exact Int.floor_le v
  · have hneg : v ≤ 0 := by linarith
    have hceil : ⌈v⌉ ≤ 0 := Int.ceil_le.mpr (by exact_mod_cast hneg)
    rw [abs_of_nonpos hneg, abs_of_nonpos (by exact_mod_cast hceil)]
    exact neg_le_neg (Int.le_ceil v)

theorem abs_sub_truncate_lt (v : ℚ) : |v - truncate v| < 1 := by
  unfold truncate
  rw [abs_lt]
  split
  · constructor <;> linarith [Int.floor_le v, Int.lt_floor_add_one v]
  · constructor <;> linarith [Int.le_ceil v, Int.ceil_lt_add_one v]

theorem truncate_intCast_div {d : Nat} (hd : 0 < d) : truncate (n / d) = n.tdiv d := by
  have hpos : (0 : ℚ) < d := by exact_mod_cast hd
  unfold truncate
  by_cases hn : 0 ≤ n
  · rw [if_pos (div_nonneg (by exact_mod_cast hn) hpos.le), Rat.floor_intCast_div_natCast,
      Int.tdiv_eq_ediv_of_nonneg hn]
  · have hneg : (n : ℚ) < 0 := by exact_mod_cast not_le.mp hn
    rw [if_neg (not_le.mpr (div_neg_of_neg_of_pos hneg hpos)), Rat.ceil_intCast_div_natCast,
      ← Int.tdiv_eq_ediv_of_nonneg (by omega), Int.neg_tdiv, Int.neg_neg]

/-- The value after `k` rounds of the division loop. -/
def quotient (k : Nat) : Int := n.tdiv (10 ^ k : Nat)

theorem quotient_zero : quotient n 0 = n := Int.tdiv_one n

theorem quotient_tdiv (k : Nat) : quotient (n.tdiv 10) k = quotient n (k + 1) := by
  change (n.tdiv (10 : Nat)).tdiv (10 ^ k : Nat) = n.tdiv (10 ^ (k + 1) : Nat)
  obtain ⟨m, rfl | rfl⟩ := n.eq_nat_or_neg
  · rw [← Int.ofNat_tdiv, ← Int.ofNat_tdiv, ← Int.ofNat_tdiv, Nat.div_div_eq_div_mul, Nat.pow_succ']
  · rw [Int.neg_tdiv, Int.neg_tdiv, Int.neg_tdiv, ← Int.ofNat_tdiv, ← Int.ofNat_tdiv,
      ← Int.ofNat_tdiv, Nat.div_div_eq_div_mul, Nat.pow_succ']

theorem natAbs_quotient (k : Nat) : (quotient n k).natAbs = n.natAbs / 10 ^ k :=
  Int.natAbs_tdiv n _

/-- A number that is cut off at a digit in range is sent faithfully. -/
theorem Faithful.of_truncate {v : ℚ} {multiplier : Int}
    (hmultiplier : phyValueMultMin ≤ multiplier ∧ multiplier ≤ phyValueMultMax)
    (hfits : FitsInt16 (truncate (v / 10 ^ multiplier))) :
    Faithful { value := truncate (v / 10 ^ multiplier), multiplier } v := by
  have hpos : (0 : ℚ) < 10 ^ multiplier := zpow_pos (by norm_num) _
  have hle := abs_truncate_le (v / 10 ^ multiplier)
  have hnear := abs_sub_truncate_lt (v / 10 ^ multiplier)
  have hv : v / 10 ^ multiplier * 10 ^ multiplier = v := div_mul_cancel₀ v hpos.ne'
  refine ⟨hfits, hmultiplier, ?_, ?_⟩
  · rw [abs_mul]
    calc _ ≤ |v / 10 ^ multiplier| * |(10 : ℚ) ^ multiplier| :=
          mul_le_mul_of_nonneg_right hle (abs_nonneg _)
      _ = |v| := by rw [← abs_mul, hv]
  · have := mul_lt_mul_of_pos_right hnear hpos
    rwa [← abs_of_pos hpos, ← abs_mul, abs_of_pos hpos, sub_mul, hv, one_mul] at this

/-! ## The loops -/

/-- The division loop ends at the first quotient that fits. -/
theorem scaleDown_spec (multiplier value : Int) :
    ∃ k : Nat, scaleDown multiplier value = (multiplier + k, quotient value k) ∧
      FitsInt16 (quotient value k) ∧ ∀ j < k, ¬ FitsInt16 (quotient value j) := by
  induction multiplier, value using scaleDown.induct with
  | case1 multiplier value hlarge ih =>
    obtain ⟨k, hrun, hfits, hfirst⟩ := ih
    rw [quotient_tdiv] at hrun hfits
    refine ⟨k + 1, ?_, hfits, ?_⟩
    · rw [scaleDown, if_pos hlarge, hrun, add_assoc, add_comm 1 (k : Int)]
      rfl
    · intro j hj
      cases j with
      | zero =>
        rw [quotient_zero, FitsInt16]
        omega
      | succ j =>
        rw [← quotient_tdiv]
        exact hfirst j (by omega)
  | case2 multiplier value hsmall =>
    refine ⟨0, ?_, ?_, by omega⟩
    · rw [scaleDown, if_neg hsmall, quotient_zero]
      simp
    · rw [quotient_zero, FitsInt16]
      omega

/-- The multiplication loop only takes steps after which the number fits. -/
theorem scaleUp_spec (places : Nat) (multiplier : Int) {value : ℚ}
    (hfits : FitsInt16 (truncate value)) :
    ∃ k ≤ places, scaleUp places multiplier value = (multiplier - k, value * 10 ^ k) ∧
      FitsInt16 (truncate (value * 10 ^ k)) := by
  induction places generalizing multiplier value with
  | zero =>
    refine ⟨0, le_rfl, ?_, ?_⟩
    · simp [scaleUp]
    · simpa using hfits
  | succ places ih =>
    rw [scaleUp]
    by_cases hstep : truncate (value * 10) < 32767 ∧ truncate (value * 10) > -32768
    · rw [if_pos hstep]
      obtain ⟨k, hk, hrun, hlast⟩ := @ih (multiplier - 1) (value * 10) ⟨by omega, by omega⟩
      rw [mul_assoc, ← pow_succ'] at hrun hlast
      refine ⟨k + 1, by omega, ?_, hlast⟩
      rw [hrun]
      push_cast
      rw [sub_sub, add_comm 1 (k : Int)]
    · rw [if_neg hstep]
      obtain ⟨k, hk, hrun, hlast⟩ := ih multiplier hfits
      exact ⟨k, by omega, hrun, hlast⟩

/-! ## What is sent -/

section

variable (pv : UnitValue υ) (unit : υ) {n : Int} {v : ℚ}

theorem populatePhysicalValue_of_lt (hn : |n| < 32768 * 10 ^ 3) :
    ∃ k : Nat, k ≤ 3 ∧ populatePhysicalValue pv n unit =
        ({ value := quotient n k, multiplier := k, unit }, true) ∧
      FitsInt16 (quotient n k) ∧ (k = 0 ↔ FitsInt16 n) := by
  obtain ⟨k, hrun, hfits, hfirst⟩ := scaleDown_spec 0 n
  have hk : k ≤ 3 := by
    by_contra hlarge
    have habs := natAbs_quotient n 3
    rw [Int.abs_eq_natAbs] at hn
    refine hfirst 3 (by omega) ?_
    unfold FitsInt16
    omega
  refine ⟨k, hk, ?_, hfits, ?_, ?_⟩
  · unfold populatePhysicalValue
    rw [hrun, zero_add]
    exact if_neg (by unfold phyValueMultMin phyValueMultMax; omega)
  · rintro rfl
    rwa [quotient_zero] at hfits
  · intro hzero
    by_contra hne
    refine hfirst 0 (by omega) ?_
    rwa [quotient_zero]

theorem populatePhysicalValue_of_le (hn : 32769 * 10 ^ 3 ≤ |n|) :
    populatePhysicalValue pv n unit = (pv, false) := by
  obtain ⟨k, hrun, hfits, -⟩ := scaleDown_spec 0 n
  have hk : 3 < k := by
    by_contra hsmall
    have habs := natAbs_quotient n k
    have hle : n.natAbs / 10 ^ 3 ≤ n.natAbs / 10 ^ k :=
      Nat.div_le_div_left (Nat.pow_le_pow_right (by decide) (not_lt.mp hsmall))
        (Nat.pow_pos (by decide))
    rw [Int.abs_eq_natAbs] at hn
    unfold FitsInt16 at hfits
    omega
  unfold populatePhysicalValue
  rw [hrun, zero_add]
  exact if_pos (by unfold phyValueMultMax; omega)

theorem faithful_populatePhysicalValue (hn : |n| < 32768 * 10 ^ 3) :
    ∃ pv', populatePhysicalValue pv n unit = (pv', true) ∧ Faithful pv'.toPhysicalValue n := by
  obtain ⟨k, hk, hrun, hfits, -⟩ := populatePhysicalValue_of_lt pv unit hn
  refine ⟨_, hrun, ?_⟩
  have hcut : truncate ((n : ℚ) / 10 ^ (k : Int)) = quotient n k := by
    rw [quotient, ← truncate_intCast_div n (Nat.pow_pos (by decide)), zpow_natCast]
    push_cast
    rfl
  rw [← hcut] at hfits ⊢
  exact .of_truncate (by unfold phyValueMultMin phyValueMultMax; omega) hfits

section

variable (decimalPlaces : Nat) (hv : |v| < 32768 * 10 ^ 3)
include hv

theorem populate_truncate :
    ∃ k : Nat, populatePhysicalValue pv (truncate v) unit =
        ({ value := quotient (truncate v) k, multiplier := k, unit }, true) ∧
      (k = 0 ↔ FitsInt16 (truncate v)) := by
  have htruncate : |truncate v| < 32768 * 10 ^ 3 := by
    exact_mod_cast (abs_truncate_le v).trans_lt hv
  obtain ⟨k, -, hrun, -, hzero⟩ := populatePhysicalValue_of_lt pv unit htruncate
  exact ⟨k, hrun, hzero⟩

/-- The multiplier is raised for the integer part, and the number is stored as it is. -/
theorem populatePhysicalValueFloat_eq_none (hlarge : ¬ FitsInt16 (truncate v)) :
    populatePhysicalValueFloat pv v decimalPlaces unit = none := by
  obtain ⟨k, hrun, hzero⟩ := populate_truncate pv unit hv
  unfold populatePhysicalValueFloat
  rw [hrun]
  simp [mt hzero.mp hlarge, toInt16, hlarge]

theorem faithful_populatePhysicalValueFloat (hplaces : decimalPlaces ≤ 3)
    (hfits : FitsInt16 (truncate v)) :
    ∃ pv', populatePhysicalValueFloat pv v decimalPlaces unit = some pv' ∧
      Faithful pv'.toPhysicalValue v := by
  obtain ⟨k, hrun, hzero⟩ := populate_truncate pv unit hv
  obtain rfl := hzero.mpr hfits
  obtain ⟨j, hj, hup, hlast⟩ := scaleUp_spec decimalPlaces 0 hfits
  have hcut : v / 10 ^ (-j : Int) = v * 10 ^ j := by rw [zpow_neg, div_inv_eq_mul, zpow_natCast]
  refine ⟨{ value := truncate (v * 10 ^ j), multiplier := -j, unit }, ?_, ?_⟩
  · unfold populatePhysicalValueFloat
    rw [hrun]
    simp [hup, toInt16, hlast]
  · rw [← hcut] at hlast ⊢
    exact .of_truncate (by unfold phyValueMultMin phyValueMultMax; omega) hlast

end

/-- **Every integer below the largest one that can be sent is sent faithfully, one above it is
not sent, and a fractional number is sent faithfully exactly when its integer part fits in 16
bits.** -/
theorem physical_value_faithful_iff (n : Int) (v : ℚ) {decimalPlaces : Nat}
    (hplaces : decimalPlaces ≤ 3) :
    (|n| < 32768 * 10 ^ 3 →
      ∃ pv', populatePhysicalValue pv n unit = (pv', true) ∧ Faithful pv'.toPhysicalValue n) ∧
    (32769 * 10 ^ 3 ≤ |n| → populatePhysicalValue pv n unit = (pv, false)) ∧
    (|v| < 32768 * 10 ^ 3 →
      ((∃ pv', populatePhysicalValueFloat pv v decimalPlaces unit = some pv' ∧
        Faithful pv'.toPhysicalValue v) ↔ FitsInt16 (truncate v))) := by
  refine ⟨faithful_populatePhysicalValue pv unit, populatePhysicalValue_of_le pv unit, ?_⟩
  intro hv
  constructor
  · rintro ⟨pv', hstored, -⟩
    by_contra hlarge
    rw [populatePhysicalValueFloat_eq_none pv unit decimalPlaces hv hlarge] at hstored
    cases hstored
  · exact faithful_populatePhysicalValueFloat pv unit decimalPlaces hv hplaces

theorem physical_value_faithful_iff_quarter :
    ∃ pv', populatePhysicalValueFloat { value := 0, unit := () } (17 / 4) 1 () = some pv' ∧
      Faithful pv'.toPhysicalValue (17 / 4) :=
  ((physical_value_faithful_iff _ () 0 (17 / 4) (by decide)).2.2 (by norm_num [abs_lt])).mpr
    (by decide +kernel)

/-- 40000 is in scope, but with one decimal place 40000 itself is stored in 16 bits. -/
theorem large_fractional_value_lost :
    |(40000 : ℚ)| < 32768 * 10 ^ 3 ∧
      ¬ ∃ pv', populatePhysicalValueFloat { value := 0, unit := () } 40000 1 () = some pv' ∧
        Faithful pv'.toPhysicalValue 40000 := by
  have hscope : |(40000 : ℚ)| < 32768 * 10 ^ 3 := by norm_num [abs_lt]
  have hlarge : ¬ FitsInt16 (truncate 40000) := by decide +kernel
  refine ⟨hscope, ?_⟩
  rw [populatePhysicalValueFloat_eq_none _ () 1 hscope hlarge]
  simp

end

end EverestCore.V2G
