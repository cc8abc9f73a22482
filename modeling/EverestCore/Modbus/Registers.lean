import EverestCore.Lib.Buffer

/-!
# The complex register map of the fusion-charger Modbus server

Registers hold a value in system byte order; a converter maps it to the byte
order of the wire. A registry is a list of subregistries, each a list of
registers, and serves word-addressed reads and writes that may start or end
inside a register.

Addresses, sizes and end addresses are `uint16_t` and wrap as such; the sums in
the range checks are promoted to `int` and do not.
-/

namespace EverestCore.Modbus

open EverestCore.Lib

/-- The two converters, on a little-endian system. -/
inductive Converter where
  | abcd
  | identity
deriving DecidableEq

def Converter.sysToNet : Converter → List UInt8 → List UInt8
  | .abcd, bytes => bytes.reverse
  | .identity, bytes => bytes

def Converter.netToSys : Converter → List UInt8 → List UInt8
  | .abcd, bytes => bytes.reverse
  | .identity, bytes => bytes

variable (c : Converter)

variable (bytes : List UInt8)

@[simp] theorem Converter.length_sysToNet : (c.sysToNet bytes).length = bytes.length := by
  cases c <;> simp [Converter.sysToNet]

@[simp] theorem Converter.length_netToSys : (c.netToSys bytes).length = bytes.length := by
  cases c <;> simp [Converter.netToSys]

@[simp] theorem Converter.sysToNet_netToSys : c.sysToNet (c.netToSys bytes) = bytes := by
  cases c <;> simp [Converter.sysToNet, Converter.netToSys]

/-- A register over a holding data provider (elementary or memory): `value` is
the provider's memory, as long as the register's buffer. The two facts are the
static assertions on `buffer_size`. -/
structure Register where
  startAddress : UInt16
  converter : Converter
  value : List UInt8
  buffer_pos : 0 < value.length
  buffer_even : value.length % 2 = 0

namespace Register

variable (reg : Register)

/-- `buffer_size / 2`, truncated to the `uint16_t` the base class stores. -/
def getSize : UInt16 := UInt16.ofNat (reg.value.length / 2)

def endAddress : UInt16 := reg.startAddress + reg.getSize - 1

def onRead : List UInt8 := reg.converter.sysToNet reg.value

/-- The value after `data` was laid over the wire bytes from word `offset` on. -/
def written (offset : Nat) (data : List UInt8) : List UInt8 :=
  let byteOffset := offset * 2
  let netBuffer := reg.converter.sysToNet reg.value
  let netBuffer := overwrite netBuffer byteOffset data
    (min data.length (netBuffer.length - byteOffset))
  reg.converter.netToSys netBuffer

def words : Nat := reg.value.length / 2

variable (reg : Register)

theorem getSize_eq : reg.getSize = UInt16.ofNat reg.words := rfl

theorem length_value : reg.value.length = 2 * reg.words := by
  have := reg.buffer_even
  unfold words
  omega

theorem words_pos : 0 < reg.words := by
  have := reg.buffer_pos
  have := reg.length_value
  omega

@[simp] theorem length_onRead : reg.onRead.length = 2 * reg.words := by
  rw [onRead, Converter.length_sysToNet, length_value]

theorem length_written {reg : Register} {offset : Nat} {data : List UInt8}
    (hoff : offset ≤ reg.words) :
    (reg.written offset data).length = reg.value.length := by
  have hlen := reg.length_value
  simp only [written, Converter.length_netToSys, Converter.length_sysToNet]
  rw [length_overwrite (Nat.min_le_left _ _)]
  · rw [Converter.length_sysToNet]
  · rw [Converter.length_sysToNet]
    omega

/-- `ComplexRegister::on_write`: read the provider, convert, lay the data over
the buffer, convert back and store. An offset past the buffer does not occur:
the registry only passes offsets up to the end address. -/
def onWrite (offset : Nat) (data : List UInt8) : Register :=
  if hoff : offset ≤ reg.words then
    { reg with
      value := reg.written offset data
      buffer_pos := by rw [length_written hoff]; exact reg.buffer_pos
      buffer_even := by rw [length_written hoff]; exact reg.buffer_even }
  else reg

@[simp] theorem onWrite_startAddress (offset : Nat) (data : List UInt8) :
    (reg.onWrite offset data).startAddress = reg.startAddress := by
  unfold onWrite
  split <;> rfl

@[simp] theorem onWrite_words (offset : Nat) (data : List UInt8) :
    (reg.onWrite offset data).words = reg.words := by
  unfold onWrite
  split
  · rename_i hoff
    simp [words, length_written hoff]
  · rfl

theorem onRead_onWrite {reg : Register} {offset : Nat} (data : List UInt8)
    (hoff : offset ≤ reg.words) :
    (reg.onWrite offset data).onRead =
      overwrite reg.onRead (offset * 2) data
        (min data.length (reg.onRead.length - offset * 2)) := by
  simp [onWrite, dif_pos hoff, onRead, written, Converter.sysToNet_netToSys]

def EndsInRange : Prop :=
  reg.startAddress.toNat + reg.words ≤ 0x10000
deriving Decidable

theorem endAddress_toNat {reg : Register} (hend : reg.EndsInRange) :
    reg.endAddress.toNat = reg.startAddress.toNat + reg.words - 1 := by
  have hpos := reg.words_pos
  unfold EndsInRange at hend
  have hsize : reg.getSize.toNat = reg.words % 65536 := by simp [getSize, words]
  rw [endAddress, UInt16.toNat_sub, UInt16.toNat_add, hsize]
  simp only [UInt16.toNat_one]
  omega

end Register

/-- Subregistries in the order they were added, each with its registers. -/
abbrev Registry := List (List Register)

namespace Registry

variable (registry : Registry)

def getAllRegisters : List Register := registry.flatten

def addresses (reg : Register) : List UInt16 :=
  (List.range reg.getSize.toNat).map fun i => reg.startAddress + UInt16.ofNat i

/-- The scan of `verify_overlap`: every address must be new. -/
def claimAddresses : List UInt16 → List UInt16 → Except String (List UInt16)
  | [], used => .ok used
  | address :: rest, used =>
    if address ∈ used then .error "Overlapping register addresses"
    else claimAddresses rest (used ++ [address])

def verifyOverlap : Except String Unit :=
  (claimAddresses (registry.getAllRegisters.flatMap addresses) []).map fun _ => ()

def writeRegister (address : UInt16) (data : List UInt8) (reg : Register) : Register :=
  let dataSize : UInt16 := UInt16.ofNat (data.length / 2)
  if address.toNat + dataSize.toNat ≤ reg.startAddress.toNat ∨ reg.endAddress < address then
    reg
  else
    let vectorOffset : Int := (address.toNat : Int) - (reg.startAddress.toNat : Int)
    if vectorOffset < 0 then
      reg.onWrite 0 (data.drop ((-vectorOffset).toNat * 2))
    else
      reg.onWrite vectorOffset.toNat data

def onWrite (address : UInt16) (data : List UInt8) :
    Except String Registry :=
  if data.length % 2 ≠ 0 then .error "Data size must be a multiple of 2 bytes"
  else .ok (registry.map fun sub => sub.map (writeRegister address data))

/-- One register's part of a read request: its bytes, cut to the window, are
copied to the cells that are still empty. -/
def readRegister (address size : UInt16) (cells : List UInt8 × List Bool)
    (reg : Register) : Option (List UInt8 × List Bool) :=
  if address.toNat + size.toNat ≤ reg.startAddress.toNat ∨ reg.endAddress < address then
    some cells
  else
    let readStartB := address.toNat * 2
    let readSizeB := size.toNat * 2
    let dataStartB := reg.startAddress.toNat * 2
    let dataEndB := reg.endAddress.toNat * 2
    let data := reg.onRead
    -- delete data before the window
    let head := if readStartB > dataStartB then
        (data.drop (readStartB - dataStartB), readStartB)
      else (data, dataStartB)
    -- delete data after the window
    let data := if readStartB + readSizeB < dataEndB then
        head.1.take (readStartB + readSizeB - head.2)
      else head.1
    copyIfFree data (head.2 - readStartB) cells

def emptyResult (size : UInt16) : List UInt8 × List Bool :=
  (List.replicate (size.toNat * 2) 0, List.replicate (size.toNat * 2) true)

/-- `on_read`; `none` when the copy leaves the result vector. -/
def onRead (address size : UInt16) : Option (List UInt8) :=
  if size = 0 then some []
  else
    (registry.getAllRegisters.foldlM (readRegister address size) (emptyResult size)).map
      Prod.fst

end Registry

end EverestCore.Modbus
