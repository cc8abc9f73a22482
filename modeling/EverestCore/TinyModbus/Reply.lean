import Mathlib

/-!
# Replies of a Modbus RTU device

`decode_reply` of `tiny_modbus_rtu.cpp`: the checks a received frame has to pass, and the loop that
copies its payload into 16-bit words. The length check compares the payload with the whole frame,
its two checksum bytes included.
-/

namespace EverestCore.TinyModbus

open List

inductive FunctionCode
  | readCoils | readDiscreteInputs | readMultipleHoldingRegisters | readInputRegisters
  | writeSingleCoil | writeSingleHoldingRegister | writeMultipleCoils
  | writeMultipleHoldingRegisters
deriving DecidableEq

/-- The exception classes derived from `TinyModbusException`. -/
inductive ExceptionClass
  | timeout | shortPacket | addressMismatch | functionCodeMismatch | checksumError
  | incompletePacket | oddByteCount | modbus
deriving DecidableEq

structure TinyModbusException where
  kind : ExceptionClass
  what : String
deriving DecidableEq

def hexdump (msg : List UInt8) : String :=
  String.join (msg.map fun b =>
    "<" ++ String.ofList [Nat.digitChar (b.toNat / 16), Nat.digitChar (b.toNat % 16)] ++ ">")

namespace FunctionCode

def code : FunctionCode → UInt8
  | readCoils => 0x01
  | readDiscreteInputs => 0x02
  | readMultipleHoldingRegisters => 0x03
  | readInputRegisters => 0x04
  | writeSingleCoil => 0x05
  | writeSingleHoldingRegister => 0x06
  | writeMultipleCoils => 0x0F
  | writeMultipleHoldingRegisters => 0x10

/-- `FunctionCode_to_string_with_hex`. -/
def toStringWithHex : FunctionCode → String
  | readCoils => "READ_COILS(0x01)"
  | readDiscreteInputs => "READ_DISCRETE_INPUTS(0x02)"
  | readMultipleHoldingRegisters => "READ_MULTIPLE_HOLDING_REGISTERS(0x03)"
  | readInputRegisters => "READ_INPUT_REGISTERS(0x04)"
  | writeSingleCoil => "WRITE_SINGLE_COIL(0x05)"
  | writeSingleHoldingRegister => "WRITE_SINGLE_HOLDING_REGISTER(0x06)"
  | writeMultipleCoils => "WRITE_MULTIPLE_COILS(0x0f)"
  | writeMultipleHoldingRegisters => "WRITE_MULTIPLE_HOLDING_REGISTERS(0x10)"

def evenByteCntExpected : FunctionCode → Bool
  | readMultipleHoldingRegisters | readInputRegisters => true
  | _ => false

/-- `start_of_result`: read replies carry their byte count before the payload. -/
def startOfResult : FunctionCode → Nat
  | readCoils | readDiscreteInputs | readMultipleHoldingRegisters | readInputRegisters => 3
  | _ => 2

def byteCnt (function : FunctionCode) (buf : List UInt8) : Nat :=
  match function with
  | readCoils | readDiscreteInputs | readMultipleHoldingRegisters | readInputRegisters =>
    (buf.getD 2 0).toNat
  | _ => 4

end FunctionCode

/-! ## The checksum -/

def crcShift (crc : UInt16) : UInt16 :=
  if crc &&& 1 ≠ 0 then crc >>> 1 ^^^ 0xA001 else crc >>> 1

def calculateModbusCrc16 (bytes : List UInt8) : UInt16 :=
  bytes.foldl (fun crc byte => crcShift^[8] (crc ^^^ byte.toUInt16)) 0xFFFF

/-- The checksum is the last two bytes, the low one first. -/
def validateChecksum (msg : List UInt8) : Bool :=
  let n := msg.length - 2
  decide (5 ≤ msg.length) &&
    (msg.getD n 0).toUInt16 + 256 * (msg.getD (n + 1) 0).toUInt16 ==
      calculateModbusCrc16 (msg.take n)

/-! ## Decoding -/

def exceptionText (errCode : UInt8) : String :=
  match errCode.toNat with
  | 0x01 => "Modbus exception: Illegal function"
  | 0x02 => "Modbus exception: Illegal data address"
  | 0x03 => "Modbus exception: Illegal data value"
  | 0x04 => "Modbus exception: Client device failure"
  | 0x05 => "Modbus ACK"
  | 0x06 => "Modbus exception: Client device busy"
  | 0x07 => "Modbus exception: NACK"
  | 0x08 => "Modbus exception: Memory parity error"
  | 0x09 => "Modbus exception: Out of resources"
  | 0x0A => "Modbus exception: Gateway path unavailable"
  | 0x0B => "Modbus exception: Gateway target device failed to respond"
  | _ => "Modbus exception: Unknown"

def word (high low : UInt8) : UInt16 := .ofNat (256 * high.toNat + low.toNat)

/-- One pass of the copy loop: two bytes, or one at the end of the frame. -/
def copied (buf : List UInt8) (i : Nat) : UInt16 :=
  if i < buf.length - 1 then word (buf.getD i 0) (buf.getD (i + 1) 0) else word (buf.getD i 0) 0

def decodeReply (buf : List UInt8) (expectedDeviceAddress : UInt8) (function : FunctionCode) :
    Except TinyModbusException (List UInt16) :=
  let functionCode := buf.getD 1 0
  let received := functionCode &&& 0x7F
  let start := function.startOfResult
  let byteCnt := function.byteCnt buf
  if buf.length = 0 then .error ⟨.timeout, "Packet receive timeout"⟩
  else if buf.length < 5 then
    .error ⟨.shortPacket, "Packet too small: only " ++ toString buf.length ++ " bytes"⟩
  else if expectedDeviceAddress ≠ buf.getD 0 0 then
    .error ⟨.addressMismatch, "Device address mismatch: expected: " ++
      toString expectedDeviceAddress ++ " received: " ++ toString (buf.getD 0 0) ++ ": " ++
      hexdump buf⟩
  else if function.code ≠ received then
    .error ⟨.functionCodeMismatch, "Function code mismatch: expected: " ++
      toString function.code ++ " received: " ++ toString received⟩
  else if validateChecksum buf = false then
    .error ⟨.checksumError, "Retrieved Modbus checksum does not match calculated value."⟩
  else if functionCode &&& 0x80 ≠ 0 then .error ⟨.modbus, exceptionText (buf.getD 2 0)⟩
  else if start + byteCnt > buf.length then
    .error ⟨.incompletePacket, "Result data not completely in received message."⟩
  else if function.evenByteCntExpected ∧ byteCnt % 2 = 1 then
    .error ⟨.oddByteCount, "For " ++ function.toStringWithHex ++
      " an even byte count is expected in the response."⟩
  else .ok ((List.range' start ((byteCnt + 1) / 2) 2).map (copied buf))

/-! ## Words of a payload -/

/-- The big-endian words of a payload; the missing half of the last one is zero. -/
def wordsOf : List UInt8 → List UInt16
  | [] => []
  | [high] => [word high 0]
  | high :: low :: payload => word high low :: wordsOf payload

/-- A reply is decoded from its payload only. -/
structure FromPayload (function : FunctionCode) (buf : List UInt8) (words : List UInt16) :
    Prop where
  beforeChecksum : function.startOfResult + function.byteCnt buf + 2 ≤ buf.length
  noLonger : buf.length ≤ function.startOfResult + function.byteCnt buf + 2
  words : words = wordsOf ((buf.drop function.startOfResult).take (function.byteCnt buf))

theorem word_eq_iff (high low : UInt8) : word high low = word high 0 ↔ low = 0 := by
  have := high.toNat_lt
  have := low.toNat_lt
  rw [← UInt16.toNat_inj, ← UInt8.toNat_inj]
  simp [word]
  omega

theorem copied_of_drop {buf rest : List UInt8} {high low : UInt8} {i : Nat}
    (h : buf.drop i = high :: low :: rest) : copied buf i = word high low := by
  have hlength := congrArg length h
  have hhigh : buf[i + 0]? = some high := by
    rw [← getElem?_drop, h]
    rfl
  have hlow : buf[i + 1]? = some low := by
    rw [← getElem?_drop, h]
    rfl
  simp only [length_drop, length_cons] at hlength
  simp [copied, show buf[i]? = some high from hhigh, hlow, show i < buf.length - 1 by omega]

/-- The byte behind the payload is copied into the last word when the payload is odd. -/
theorem map_copied_iff {buf payload rest : List UInt8} {next : UInt8} {start : Nat}
    (hbuf : buf.drop start = payload ++ next :: rest) :
    (List.range' start ((payload.length + 1) / 2) 2).map (copied buf) = wordsOf payload ↔
      payload.length % 2 = 0 ∨ next = 0 := by
  induction payload using wordsOf.induct generalizing start with
  | case1 => simp [wordsOf]
  | case2 high => simp [wordsOf, copied_of_drop hbuf, word_eq_iff]
  | case3 high low payload ih =>
    have hrest : buf.drop (start + 2) = payload ++ next :: rest := by
      rw [← drop_drop, hbuf]
      rfl
    have hcount : (payload.length + 1 + 1 + 1) / 2 = (payload.length + 1) / 2 + 1 := by omega
    simp [wordsOf, hcount, range'_succ, copied_of_drop hbuf, ih hrest,
      Nat.add_mod_right payload.length 2]

variable {buf : List UInt8} {address : UInt8} {function : FunctionCode} {words : List UInt16}

theorem words_eq_of_ok (h : decodeReply buf address function = .ok words) :
    words = (List.range' function.startOfResult ((function.byteCnt buf + 1) / 2) 2).map
      (copied buf) := by
  simp only [decodeReply] at h
  split_ifs at h
  exact (Except.ok.inj h).symm

/-- **An accepted reply** is decoded from its payload only exactly if its length is that of header,
payload and checksum and the payload is even or the checksum's first byte is zero. -/
theorem decoded_from_payload_iff (h : decodeReply buf address function = .ok words) :
    FromPayload function buf words ↔
      buf.length = function.startOfResult + function.byteCnt buf + 2 ∧
        (function.byteCnt buf % 2 = 0 ∨
          buf.getD (function.startOfResult + function.byteCnt buf) 0 = 0) := by
  obtain rfl := words_eq_of_ok h
  by_cases hlength : buf.length = function.startOfResult + function.byteCnt buf + 2
  · have hlt : function.startOfResult + function.byteCnt buf < buf.length := by omega
    have hbuf := take_append_drop (function.byteCnt buf) (buf.drop function.startOfResult)
    rw [drop_drop, drop_eq_getElem_cons hlt, ← getD_eq_getElem _ 0 hlt] at hbuf
    have hwords := map_copied_iff hbuf.symm
    rw [length_take, length_drop, min_eq_left (by omega)] at hwords
    exact ⟨fun hp => ⟨hlength, hwords.mp hp.words⟩,
      fun hr => ⟨hlength.ge, hlength.le, hwords.mpr hr.2⟩⟩
  · exact iff_of_false (fun hp => hlength (le_antisymm hp.noLonger hp.beforeChecksum))
      fun hr => hlength hr.1

theorem register_reply_decoded_from_payload :
    FromPayload .readInputRegisters [1, 4, 2, 0x12, 0x34, 0xB4, 0x47] [0x1234] := by
  have hreply : decodeReply [1, 4, 2, 0x12, 0x34, 0xB4, 0x47] 1 .readInputRegisters =
      .ok [0x1234] := by decide +kernel
  exact (decoded_from_payload_iff hreply).mpr (by decide)

/-- Two devices report the same coils, and the words differ with their checksums; a reply that has
no payload at all returns its checksum as the register. -/
theorem checksum_copied_into_words :
    decodeReply [1, 1, 1, 0x01, 0x90, 0x48] 1 .readCoils = .ok [0x0190] ∧
      ¬ FromPayload .readCoils [1, 1, 1, 0x01, 0x90, 0x48] [0x0190] ∧
      decodeReply [3, 1, 1, 0x01, 0x91, 0xF0] 3 .readCoils = .ok [0x0191] ∧
      decodeReply [1, 3, 2, 0xA1, 0x31] 1 .readMultipleHoldingRegisters = .ok [0xA131] :=
  ⟨by decide +kernel, fun h => absurd h.words (by decide), by decide +kernel, by decide +kernel⟩

end EverestCore.TinyModbus
