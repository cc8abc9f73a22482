import Mathlib.Data.List.Nodup
import Mathlib.Data.List.Pairwise
import EverestCore.Modbus.Registers

/-!
# The register map as memory

`byteAt` is what the map should look like from the bus: the wire bytes of the
register a word lies in, zero elsewhere. The read and write loops of the
registry are compared with it one register at a time.
-/

namespace EverestCore.Modbus

open EverestCore.Lib List

namespace Register

/-- The word lies in the register. -/
def covers (w : Nat) (reg : Register) : Bool :=
  decide (reg.startAddress.toNat ≤ w ∧ w < reg.startAddress.toNat + reg.words)

theorem covers_iff {w : Nat} {reg : Register} :
    reg.covers w = true ↔
      reg.startAddress.toNat ≤ w ∧ w < reg.startAddress.toNat + reg.words := by
  rw [covers, decide_eq_true_iff]

def wireByte (w j : Nat) (reg : Register) : UInt8 :=
  reg.onRead.getD ((w - reg.startAddress.toNat) * 2 + j) 0

/-- The last word of the register is the first word behind the window, while
the register starts before that word. -/
def EndsRightBehind (address size : UInt16) (reg : Register) : Prop :=
  reg.startAddress.toNat < address.toNat + size.toNat ∧
    reg.endAddress.toNat = address.toNat + size.toNat
deriving Decidable

end Register

namespace Registry

/-- The memory view of a list of registers: the first register a word lies in
gives its bytes. -/
def byteAt (regs : List Register) (w j : Nat) : UInt8 :=
  match regs.find? (Register.covers w) with
  | some reg => reg.wireByte w j
  | none => 0

/-- The bytes of a range of words. -/
def window (regs : List Register) (address size : UInt16) : List UInt8 :=
  (List.range (size.toNat * 2)).map fun k => byteAt regs (address.toNat + k / 2) (k % 2)

/-! ## One register in a read -/

section

variable {address size : UInt16} {reg : Register} {cells : List UInt8 × List Bool}

/-- A register that meets the window is copied from its first byte inside the
window on. The second cut compares with the last word instead of the word after
it, so it is one word late. -/
private theorem readRegister_meets (cells : List UInt8 × List Bool) (hend : reg.EndsInRange)
    (hstart : reg.startAddress.toNat < address.toNat + size.toNat)
    (hlast : address.toNat ≤ reg.endAddress.toNat) :
    ∃ src : List UInt8,
      readRegister address size cells reg =
        copyIfFree src (reg.startAddress.toNat * 2 - address.toNat * 2) cells ∧
      (reg.startAddress.toNat * 2 - address.toNat * 2) + src.length =
        (if address.toNat + size.toNat < reg.endAddress.toNat
          then size.toNat * 2
          else (reg.endAddress.toNat + 1) * 2 - address.toNat * 2) ∧
      ∀ k < src.length, src[k]? =
        reg.onRead[address.toNat * 2 - reg.startAddress.toNat * 2 + k]? := by
  have hlen := reg.length_onRead
  have hpos := reg.words_pos
  have he := Register.endAddress_toNat hend
  have hmeet : ¬ (address.toNat + size.toNat ≤ reg.startAddress.toNat ∨
      reg.endAddress < address) := by
    rw [UInt16.lt_iff_toNat_lt]
    omega
  -- the first cut drops nothing when the register starts inside the window
  have hhead : (if address.toNat * 2 > reg.startAddress.toNat * 2 then
        (reg.onRead.drop (address.toNat * 2 - reg.startAddress.toNat * 2), address.toNat * 2)
      else (reg.onRead, reg.startAddress.toNat * 2)) =
      (reg.onRead.drop (address.toNat * 2 - reg.startAddress.toNat * 2),
        max (address.toNat * 2) (reg.startAddress.toNat * 2)) := by
    split
    · rw [Nat.max_eq_left (by omega)]
    · rw [Nat.max_eq_right (by omega), Nat.sub_eq_zero_of_le (by omega), drop_zero]
  have hoff : max (address.toNat * 2) (reg.startAddress.toNat * 2) - address.toNat * 2 =
      reg.startAddress.toNat * 2 - address.toNat * 2 := by omega
  unfold readRegister
  rw [if_neg hmeet]
  simp only [hhead, hoff]
  by_cases hcut : address.toNat + size.toNat < reg.endAddress.toNat
  · rw [if_pos hcut, if_pos (by omega)]
    refine ⟨_, rfl, ?_, fun k hk => ?_⟩
    · rw [length_take, length_drop, hlen]
      omega
    · rw [length_take] at hk
      rw [getElem?_take_of_lt (by omega), getElem?_drop]
  · rw [if_neg hcut, if_neg (by omega)]
    refine ⟨_, rfl, ?_, fun k _ => by rw [getElem?_drop]⟩
    rw [length_drop, hlen]
    omega

theorem readRegister_overrun (hend : reg.EndsInRange) (hbehind : reg.EndsRightBehind address size)
    (hcells : cells.1.length = size.toNat * 2) :
    readRegister address size cells reg = none := by
  obtain ⟨hstart, hlast⟩ := hbehind
  obtain ⟨src, hrun, hlen, -⟩ :=
    readRegister_meets cells hend hstart (by omega)
  rw [if_neg (by omega)] at hlen
  rw [hrun]
  have hover : cells.1.length <
      reg.startAddress.toNat * 2 - address.toNat * 2 + src.length := by omega
  refine copyIfFree_eq_none ?_ hover
  rintro rfl
  simp only [length_nil] at hlen
  omega

theorem readRegister_spec (hend : reg.EndsInRange) (hbehind : ¬ reg.EndsRightBehind address size)
    (hcells : cells.1.length = size.toNat * 2) :
    ∃ cells', readRegister address size cells reg = some cells' ∧
      cells'.1.length = size.toNat * 2 ∧
      ∀ k < size.toNat * 2,
        cells'.1[k]? =
          (if reg.covers (address.toNat + k / 2) = true ∧ cells.2.getD k false = true
            then some (reg.wireByte (address.toNat + k / 2) (k % 2)) else cells.1[k]?) ∧
        cells'.2.getD k false =
          (cells.2.getD k false && !reg.covers (address.toNat + k / 2)) := by
  have he := Register.endAddress_toNat hend
  have hpos := reg.words_pos
  have hcov : ∀ k, reg.covers (address.toNat + k / 2) =
      decide (reg.startAddress.toNat ≤ address.toNat + k / 2 ∧
        address.toNat + k / 2 < reg.startAddress.toNat + reg.words) := fun _ => rfl
  by_cases hmeet : reg.startAddress.toNat < address.toNat + size.toNat ∧
      address.toNat ≤ reg.endAddress.toNat
  · obtain ⟨src, hrun, hlen, hsrc⟩ :=
      readRegister_meets cells hend hmeet.1 hmeet.2
    have hnb : reg.endAddress.toNat ≠ address.toNat + size.toNat := fun h => hbehind ⟨hmeet.1, h⟩
    have hfit : reg.startAddress.toNat * 2 - address.toNat * 2 + src.length ≤ cells.1.length := by
      rw [hlen, hcells]
      split <;> omega
    obtain ⟨cells', hcopy, hlen', hspec⟩ := copyIfFree_spec hfit
    refine ⟨cells', by rw [hrun, hcopy], by rw [hlen', hcells], fun k hk => ?_⟩
    obtain ⟨hval, huse⟩ := hspec k
    -- byte positions inside the copied range are those of covered words
    have hrange : (reg.startAddress.toNat * 2 - address.toNat * 2 ≤ k ∧
        k < reg.startAddress.toNat * 2 - address.toNat * 2 + src.length) ↔
        reg.covers (address.toNat + k / 2) = true := by
      rw [Register.covers_iff, hlen]
      split <;> omega
    refine ⟨?_, ?_⟩
    · rw [hval]
      simp only [hrange]
      split
      · rename_i hc
        have hin := hrange.mpr hc.1
        have hw := Register.covers_iff.mp hc.1
        have hidx : address.toNat * 2 - reg.startAddress.toNat * 2 +
            (k - (reg.startAddress.toNat * 2 - address.toNat * 2)) =
            (address.toNat + k / 2 - reg.startAddress.toNat) * 2 + k % 2 := by omega
        have hlt : (address.toNat + k / 2 - reg.startAddress.toNat) * 2 + k % 2 <
            reg.onRead.length := by
          rw [Register.length_onRead]
          omega
        rw [hsrc _ (by omega), hidx, Register.wireByte, getD_eq_getElem?_getD,
          getElem?_eq_getElem hlt, Option.getD_some]
      · rfl
    · rw [huse]
      by_cases hc : reg.covers (address.toNat + k / 2) = true
      · rw [decide_eq_true (hrange.mpr hc), hc]
      · rw [decide_eq_false (fun h => hc (hrange.mp h)), Bool.eq_false_iff.mpr hc]
  · -- the register is skipped, and no word of the window lies in it
    have hskip : readRegister address size cells reg = some cells := by
      unfold readRegister
      rw [if_pos]
      rw [UInt16.lt_iff_toNat_lt]
      omega
    refine ⟨cells, hskip, hcells, fun k hk => ?_⟩
    have hout : reg.covers (address.toNat + k / 2) = false := by
      rw [hcov, decide_eq_false_iff_not]
      omega
    simp [hout]

end

/-! ## The whole read -/

theorem emptyResult_length (size : UInt16) :
    (emptyResult size).1.length = size.toNat * 2 := length_replicate

variable {address size : UInt16} {regs : List Register}

/-- The loop fills the cells that are still free. -/
private theorem readLoop_spec {cells : List UInt8 × List Bool}
    (hend : ∀ reg ∈ regs, reg.EndsInRange)
    (hbehind : ∀ reg ∈ regs, ¬ reg.EndsRightBehind address size)
    (hcells : cells.1.length = size.toNat * 2) :
    ∃ cells', regs.foldlM (readRegister address size) cells = some cells' ∧
      cells'.1.length = size.toNat * 2 ∧
      ∀ k < size.toNat * 2, cells'.1[k]? =
        if cells.2.getD k false = true then
          match regs.find? (Register.covers (address.toNat + k / 2)) with
          | some reg => some (reg.wireByte (address.toNat + k / 2) (k % 2))
          | none => cells.1[k]?
        else cells.1[k]? := by
  induction regs generalizing cells with
  | nil => exact ⟨cells, rfl, hcells, fun k _ => by simp⟩
  | cons reg rest ih =>
    obtain ⟨cells₁, hstep, hlen₁, hspec₁⟩ :=
      readRegister_spec (hend reg (by simp)) (hbehind reg (by simp)) hcells
    obtain ⟨cells₂, hrest, hlen₂, hspec₂⟩ :=
      ih (fun r hr => hend r (by simp [hr])) (fun r hr => hbehind r (by simp [hr])) hlen₁
    refine ⟨cells₂, ?_, hlen₂, fun k hk => ?_⟩
    · rw [foldlM_cons, hstep]
      exact hrest
    · obtain ⟨hval, huse⟩ := hspec₁ k hk
      rw [hspec₂ k hk, hval, huse]
      cases hc : reg.covers (address.toNat + k / 2) <;>
        cases hf : cells.2.getD k false <;> simp [hc]

private theorem readLoop_overrun {cells : List UInt8 × List Bool}
    (hend : ∀ reg ∈ regs, reg.EndsInRange)
    (hbehind : ∃ reg ∈ regs, reg.EndsRightBehind address size)
    (hcells : cells.1.length = size.toNat * 2) :
    regs.foldlM (readRegister address size) cells = none := by
  induction regs generalizing cells with
  | nil => simp at hbehind
  | cons reg rest ih =>
    rw [foldlM_cons]
    by_cases hreg : reg.EndsRightBehind address size
    · rw [readRegister_overrun (hend reg (by simp)) hreg hcells]
      rfl
    · obtain ⟨cells₁, hstep, hlen₁, -⟩ :=
        readRegister_spec (hend reg (by simp)) hreg hcells
      have hrest : ∃ r ∈ rest, r.EndsRightBehind address size :=
        ((exists_mem_cons_iff _ _ _).mp hbehind).resolve_left hreg
      rw [hstep]
      exact ih (fun r hr => hend r (by simp [hr])) hrest hlen₁

variable {registry : Registry}

theorem onRead_eq_window (hend : ∀ reg ∈ registry.getAllRegisters, reg.EndsInRange)
    (hbehind : size = 0 ∨ ∀ reg ∈ registry.getAllRegisters, ¬ reg.EndsRightBehind address size) :
    registry.onRead address size = some (window registry.getAllRegisters address size) := by
  unfold onRead
  by_cases hsize : size = 0
  · subst hsize
    simp [window]
  · rw [if_neg hsize]
    obtain ⟨cells, hloop, hlen, hspec⟩ :=
      readLoop_spec hend (hbehind.resolve_left hsize) (emptyResult_length size)
    simp only [hloop, Option.map_some, Option.some.injEq]
    refine ext_getElem? fun k => ?_
    by_cases hk : k < size.toNat * 2
    · have hfree : (emptyResult size).2.getD k false = true := by simp [emptyResult, hk]
      have hzero : (emptyResult size).1[k]? = some 0 := by simp [emptyResult, hk]
      rw [hspec k hk, if_pos hfree, window, getElem?_map,
        getElem?_range hk, Option.map_some, byteAt, hzero]
      split <;> simp_all
    · rw [getElem?_eq_none (by omega), getElem?_eq_none (by simp [window]; omega)]

/-! ## Writes -/

section

variable (address : UInt16) (data : List UInt8) (reg : Register)

@[simp] theorem writeRegister_startAddress :
    (writeRegister address data reg).startAddress = reg.startAddress := by
  unfold writeRegister
  simp only
  split
  · rfl
  · split <;> simp

@[simp] theorem writeRegister_words : (writeRegister address data reg).words = reg.words := by
  unfold writeRegister
  simp only
  split
  · rfl
  · split <;> simp

@[simp] theorem writeRegister_endAddress :
    (writeRegister address data reg).endAddress = reg.endAddress := by
  simp [Register.endAddress, Register.getSize_eq, writeRegister_startAddress, writeRegister_words]

theorem writeRegister_endsInRange :
    (writeRegister address data reg).EndsInRange ↔ reg.EndsInRange := by
  simp [Register.EndsInRange]

theorem writeRegister_endsRightBehind (b n : UInt16) :
    (writeRegister address data reg).EndsRightBehind b n ↔ reg.EndsRightBehind b n := by
  simp [Register.EndsRightBehind]

/-- The word count of the data, wrapped to 16 bits, ends before the register. -/
def WrapsBefore : Prop :=
  address.toNat + data.length / 2 % 65536 ≤ reg.startAddress.toNat
deriving Decidable

end

/-- The word lies in the written range. -/
def Written (address : UInt16) (data : List UInt8) (w : Nat) : Prop :=
  address.toNat ≤ w ∧ w < address.toNat + data.length / 2
deriving Decidable

def dataByte (address : UInt16) (data : List UInt8) (w j : Nat) : UInt8 :=
  data.getD ((w - address.toNat) * 2 + j) 0

private theorem wireByte_onWrite {reg : Register} {w j offset : Nat} {src : List UInt8}
    (hcov : reg.covers w = true) (hj : j < 2) (hoff : offset ≤ reg.words) :
    (reg.onWrite offset src).wireByte w j =
      if offset * 2 ≤ (w - reg.startAddress.toNat) * 2 + j ∧
          (w - reg.startAddress.toNat) * 2 + j < offset * 2 + src.length
      then src.getD ((w - reg.startAddress.toNat) * 2 + j - offset * 2) 0
      else reg.wireByte w j := by
  have hw := Register.covers_iff.mp hcov
  have hlen := reg.length_onRead
  have hmin : offset * 2 + min src.length (reg.onRead.length - offset * 2) ≤ reg.onRead.length := by
    rw [hlen]
    omega
  simp only [Register.wireByte, Register.onRead_onWrite src hoff,
    Register.onWrite_startAddress, getD_eq_getElem?_getD,
    getElem?_overwrite (Nat.min_le_left _ _) hmin]
  split
  · rw [if_pos (by omega)]
  · rw [if_neg (by omega)]

variable {data : List UInt8}

/-- **One register's part of a write.** A covered word takes the data's bytes
exactly when it is written and the wrapped word count reaches the register. -/
theorem wireByte_writeRegister {reg : Register} {w j : Nat}
    (hend : reg.EndsInRange) (heven : data.length % 2 = 0) (hcov : reg.covers w = true) (hj : j < 2)
    :
    (writeRegister address data reg).wireByte w j =
      if Written address data w ∧ ¬ WrapsBefore address data reg
      then dataByte address data w j else reg.wireByte w j := by
  have he := Register.endAddress_toNat hend
  have hw := Register.covers_iff.mp hcov
  have hwrap : (UInt16.ofNat (data.length / 2)).toNat = data.length / 2 % 65536 := by simp
  unfold writeRegister
  simp only [hwrap, UInt16.lt_iff_toNat_lt]
  by_cases hskip : address.toNat + data.length / 2 % 65536 ≤ reg.startAddress.toNat ∨
      reg.endAddress.toNat < address.toNat
  · rw [if_pos hskip, if_neg]
    unfold Written WrapsBefore
    omega
  · rw [if_neg hskip]
    have hreach : ¬ WrapsBefore address data reg := fun h => hskip (.inl h)
    simp only [hreach, not_false_eq_true, and_true]
    by_cases hneg : (address.toNat : Int) - (reg.startAddress.toNat : Int) < 0
    · -- the data starts before the register: its head is dropped
      rw [if_pos hneg, wireByte_onWrite hcov hj (Nat.zero_le _), length_drop]
      have hshift : (-((address.toNat : Int) - (reg.startAddress.toNat : Int))).toNat =
          reg.startAddress.toNat - address.toNat := by omega
      rw [hshift]
      split
      · rw [if_pos (by unfold Written; omega), dataByte, getD_eq_getElem?_getD,
          getElem?_drop, getD_eq_getElem?_getD]
        congr 2
        omega
      · rw [if_neg (by unfold Written; omega)]
    · -- the data starts inside the register
      have hshift : ((address.toNat : Int) - (reg.startAddress.toNat : Int)).toNat =
          address.toNat - reg.startAddress.toNat := by omega
      rw [if_neg hneg, hshift, wireByte_onWrite hcov hj (by omega)]
      split
      · rw [if_pos (by unfold Written; omega), dataByte]
        congr 1
        omega
      · rw [if_neg (by unfold Written; omega)]

/-! ## The map against its memory view -/

/-- Byte `j` of word `w` after a write, in the memory view: the data where it
meets a register, the old byte elsewhere. -/
def byteAfterWrite (regs : List Register) (address : UInt16) (data : List UInt8)
    (w j : Nat) : UInt8 :=
  if Written address data w ∧ regs.any (Register.covers w) then dataByte address data w j
  else byteAt regs w j

variable (registry)

/-- What a read of `b`, `n` should give before and after a write of `data` at
`address`. -/
structure BehavesLikeMemory (address : UInt16) (data : List UInt8)
    (b n : UInt16) : Prop where
  read : registry.onRead b n = some (window registry.getAllRegisters b n)
  readAfterWrite : ∃ registry', registry.onWrite address data = .ok registry' ∧
    registry'.onRead b n = some ((List.range (n.toNat * 2)).map fun k =>
      byteAfterWrite registry.getAllRegisters address data (b.toNat + k / 2) (k % 2))

/-- No register has its last word right behind a non-empty window. -/
def WindowClear (b n : UInt16) : Prop :=
  n = 0 ∨ ∀ reg ∈ registry.getAllRegisters, ¬ reg.EndsRightBehind b n

/-- In the window, a register the wrapped word count of the data does not reach
already holds the data's bytes. -/
def WriteReaches (address : UInt16) (data : List UInt8)
    (b n : UInt16) : Prop :=
  ∀ k < n.toNat * 2, ∀ reg,
    registry.getAllRegisters.find? (Register.covers (b.toNat + k / 2)) = some reg →
    Written address data (b.toNat + k / 2) → WrapsBefore address data reg →
    dataByte address data (b.toNat + k / 2) (k % 2) = reg.wireByte (b.toNat + k / 2) (k % 2)

variable {registry}

theorem writeReaches_of_short {address b n : UInt16} (hshort : data.length / 2 < 65536) :
    WriteReaches registry address data b n := by
  intro k _ reg hfind hin hwraps
  have hw := Register.covers_iff.mp (find?_some hfind)
  unfold WrapsBefore at hwraps
  rw [Nat.mod_eq_of_lt hshort] at hwraps
  unfold Written at hin
  omega

private theorem byteAt_map_writeRegister {w j : Nat}
    (hend : ∀ reg ∈ regs, reg.EndsInRange) (heven : data.length % 2 = 0) (hj : j < 2) :
    byteAt (regs.map (writeRegister address data)) w j =
      match regs.find? (Register.covers w) with
      | some reg =>
        if Written address data w ∧ ¬ WrapsBefore address data reg
        then dataByte address data w j else reg.wireByte w j
      | none => 0 := by
  have hcomp : Register.covers w ∘ writeRegister address data = Register.covers w :=
    funext fun reg => (by simp [Register.covers])
  rw [byteAt, find?_map, hcomp]
  cases hfind : regs.find? (Register.covers w) with
  | none => rfl
  | some reg =>
    exact wireByte_writeRegister (hend reg (mem_of_find?_eq_some hfind)) heven (find?_some hfind) hj

private theorem byteAfterWrite_eq (regs : List Register) (address : UInt16)
    (data : List UInt8) (w j : Nat) :
    byteAfterWrite regs address data w j =
      match regs.find? (Register.covers w) with
      | some reg =>
        if Written address data w then dataByte address data w j else reg.wireByte w j
      | none => 0 := by
  unfold byteAfterWrite byteAt
  cases hfind : regs.find? (Register.covers w) with
  | none =>
    have hnone : regs.any (Register.covers w) = false := by
      rw [any_eq_false]
      exact find?_eq_none.mp hfind
    simp [hnone]
  | some reg =>
    have hany : regs.any (Register.covers w) = true :=
      any_eq_true.mpr ⟨reg, mem_of_find?_eq_some hfind, find?_some hfind⟩
    simp [hany]

/-- **The register map behaves like memory exactly when** no register ends right
behind the window and no register in it is lost to the wrapped data size. -/
theorem registry_behaves_like_memory_iff {address b n : UInt16} {data : List UInt8}
    (hend : ∀ reg ∈ registry.getAllRegisters, reg.EndsInRange) (heven : data.length % 2 = 0) :
    BehavesLikeMemory registry address data b n ↔
      WindowClear registry b n ∧ WriteReaches registry address data b n := by
  have hwrite : registry.onWrite address data =
      .ok (registry.map fun sub => sub.map (writeRegister address data)) := by
    rw [onWrite, if_neg (by omega)]
  have hall : getAllRegisters (registry.map fun sub => sub.map (writeRegister address data)) =
      registry.getAllRegisters.map (writeRegister address data) :=
    map_flatten.symm
  by_cases hclear : WindowClear registry b n
  · have hread := onRead_eq_window hend hclear
    have hreadAfter :
        onRead (registry.map fun sub => sub.map (writeRegister address data)) b n =
        some (window (registry.getAllRegisters.map (writeRegister address data)) b n) := by
      rw [← hall]
      refine onRead_eq_window ?_ ?_
      · rw [hall]
        simpa [writeRegister_endsInRange] using hend
      · rw [hall]
        simpa [writeRegister_endsRightBehind, WindowClear] using hclear
    -- both windows are maps over the same range: compare them byte by byte
    have hbytes : window (registry.getAllRegisters.map (writeRegister address data)) b n =
        ((range (n.toNat * 2)).map fun k =>
          byteAfterWrite registry.getAllRegisters address data (b.toNat + k / 2) (k % 2)) ↔
        WriteReaches registry address data b n := by
      unfold window WriteReaches
      rw [map_inj_left]
      refine forall_congr' fun k => ?_
      rw [mem_range, byteAt_map_writeRegister hend heven (Nat.mod_lt _ (by decide)),
        byteAfterWrite_eq]
      refine imp_congr_right fun hk => ?_
      cases hfind : registry.getAllRegisters.find? (Register.covers (b.toNat + k / 2)) with
      | none => simp
      | some reg =>
        by_cases hin : Written address data (b.toNat + k / 2) <;>
          by_cases hwraps : WrapsBefore address data reg <;>
          simp [hin, hwraps, eq_comm]
    refine ⟨fun h => ⟨hclear, ?_⟩, fun h => ⟨hread, _, hwrite, ?_⟩⟩
    · obtain ⟨registry', hw', hr'⟩ := h.readAfterWrite
      rw [hwrite, Except.ok.injEq] at hw'
      subst hw'
      rw [hreadAfter, Option.some.injEq] at hr'
      exact hbytes.mp hr'
    · rw [hreadAfter, hbytes.mpr h.2]
  · refine ⟨fun h => ?_, fun h => absurd h.1 hclear⟩
    unfold WindowClear at hclear
    push Not at hclear
    have hread := h.read
    rw [onRead, if_neg hclear.1, readLoop_overrun hend hclear.2 (emptyResult_length _)] at hread
    cases hread

/-- A `uint32_t` register at address `0x0010`. -/
def u32Register (value : UInt32) : Register where
  startAddress := 0x0010
  converter := .abcd
  value := [value.toUInt8, (value >>> 8).toUInt8, (value >>> 16).toUInt8,
    (value >>> 24).toUInt8]
  buffer_pos := by simp
  buffer_even := by simp

/-- The whole register is written and read back. -/
theorem registry_behaves_like_memory_u32 :
    BehavesLikeMemory [[u32Register 0]] 0x0010 [0x12, 0x34, 0x56, 0x78] 0x0010 2 :=
  (registry_behaves_like_memory_iff (by decide) (by decide)).mpr
    ⟨.inr (by decide), writeReaches_of_short (by decide)⟩

/-- Reading only the first word of a two-word register leaves the result
vector. -/
theorem not_behaves_like_memory_first_word :
    verifyOverlap [[u32Register 0]] = .ok () ∧
      ¬ BehavesLikeMemory [[u32Register 0]] 0x0010 [] 0x0010 1 := by
  refine ⟨by rfl, fun h => ?_⟩
  have hnone : onRead [[u32Register 0]] 0x0010 1 = none := by decide
  rw [h.read] at hnone
  exact absurd hnone (by simp)

end Registry

end EverestCore.Modbus
