import Mathlib

/-!
# SLAC messages

The HomePlug messages of ISO 15118-3 matching, as both SLAC state machines send
and receive them, and the constants they share. A payload stands for the message
of its management message type; members that are always zero are left out.
-/

namespace EverestCore.Slac

abbrev Mac : Type := Vector UInt8 6
abbrev RunId : Type := Vector UInt8 8
abbrev Nmk : Type := Vector UInt8 16

structure Defs where
  broadcastMacAddress : Mac
  aagListLen : Nat
  pevIdLen : Nat
  evseIdLen : Nat
  commonApplicationType : UInt8
  commonSecurityType : UInt8
  cmSlacParmCnfNumSounds : UInt8
  cmSlacParmCnfTimeout : UInt8
  cmSlacParmCnfRespType : UInt8
  cmAttenCharRspResult : UInt8
  cmSlacMatchReqMvfLength : UInt16
  cmSlacMatchCnfMvfLength : UInt16
  cmValidateReqSignalType : UInt8
  cmValidateReqResultFailure : UInt8
  cmSetKeyReqKeyTypeNmk : UInt8
  cmSetKeyReqPidHle : UInt8
  cmSetKeyReqPrnUnused : UInt16
  cmSetKeyReqPmnUnused : UInt8
  cmSetKeyReqCcoCapNone : UInt8
  cmSetKeyReqPeksNmkKnownToSta : UInt8
  cEvMatchRetry : Int
  cEvStartAttenCharInds : Int
  cEvMatchMnbc : Int
  ttEvseSlacInitMs : Int
  ttMatchSequenceMs : Int
  ttEvseMatchMnbcMs : Int
  ttMatchResponseMs : Int
  ttEvseMatchSessionMs : Int
  ttEvAttenResultsMs : Int
  generateNidFromNmk : Nmk → List UInt8

/-- Constants to run the machines with; the timings are those of ISO 15118-3. -/
def Defs.sample : Defs where
  broadcastMacAddress := Vector.replicate 6 0xFF
  aagListLen := 58
  pevIdLen := 17
  evseIdLen := 17
  commonApplicationType := 0x00
  commonSecurityType := 0x00
  cmSlacParmCnfNumSounds := 10
  cmSlacParmCnfTimeout := 0x06
  cmSlacParmCnfRespType := 0x01
  cmAttenCharRspResult := 0x00
  cmSlacMatchReqMvfLength := 0x3e
  cmSlacMatchCnfMvfLength := 0x56
  cmValidateReqSignalType := 0x00
  cmValidateReqResultFailure := 0x02
  cmSetKeyReqKeyTypeNmk := 0x01
  cmSetKeyReqPidHle := 0x04
  cmSetKeyReqPrnUnused := 0x0000
  cmSetKeyReqPmnUnused := 0x00
  cmSetKeyReqCcoCapNone := 0x00
  cmSetKeyReqPeksNmkKnownToSta := 0x01
  cEvMatchRetry := 2
  cEvStartAttenCharInds := 3
  cEvMatchMnbc := 10
  ttEvseSlacInitMs := 40000
  ttMatchSequenceMs := 400
  ttEvseMatchMnbcMs := 600
  ttMatchResponseMs := 200
  ttEvseMatchSessionMs := 10000
  ttEvAttenResultsMs := 1200
  generateNidFromNmk := fun nmk => nmk.toList.take 7

/-! ## Messages -/

structure CmSlacParmReq where
  applicationType : UInt8
  securityType : UInt8
  runId : RunId
deriving DecidableEq

structure CmSlacParmCnf where
  mSoundTarget : Mac
  numSounds : UInt8
  timeout : UInt8
  respType : UInt8
  forwardingSta : Mac
  applicationType : UInt8
  securityType : UInt8
  runId : RunId
deriving DecidableEq

structure CmStartAttenCharInd where
  applicationType : UInt8
  securityType : UInt8
  numSounds : UInt8
  timeout : UInt8
  respType : UInt8
  forwardingSta : Mac
  runId : RunId
deriving DecidableEq

structure CmMnbcSoundInd where
  applicationType : UInt8
  securityType : UInt8
  remainingSoundCount : UInt8
  runId : RunId
  random : List UInt8
deriving DecidableEq

/-- Sent by the modem; it carries no run id. -/
structure CmAttenProfileInd (n : Nat) where
  pevMac : Mac
  numGroups : UInt8
  aag : Vector UInt8 n
deriving DecidableEq

structure CmAttenCharInd (n : Nat) where
  applicationType : UInt8
  securityType : UInt8
  sourceAddress : Mac
  runId : RunId
  numSounds : UInt8
  numGroups : UInt8
  aag : Vector UInt8 n
deriving DecidableEq

structure CmAttenCharRsp where
  applicationType : UInt8
  securityType : UInt8
  sourceAddress : Mac
  runId : RunId
  result : UInt8
deriving DecidableEq

structure CmSlacMatchReq where
  applicationType : UInt8
  securityType : UInt8
  mvfLength : UInt16
  pevId : List UInt8
  pevMac : Mac
  evseId : List UInt8
  evseMac : Mac
  runId : RunId
deriving DecidableEq

/-- The confirmation carries the network membership key. -/
structure CmSlacMatchCnf where
  applicationType : UInt8
  securityType : UInt8
  mvfLength : UInt16
  pevId : List UInt8
  pevMac : Mac
  evseId : List UInt8
  evseMac : Mac
  runId : RunId
  nid : List UInt8
  nmk : Nmk
deriving DecidableEq

structure CmSetKeyReq where
  keyType : UInt8
  myNonce : UInt32
  yourNonce : UInt32
  pid : UInt8
  prn : UInt16
  pmn : UInt8
  ccoCapability : UInt8
  nid : List UInt8
  newEks : UInt8
  newKey : Nmk
deriving DecidableEq

structure CmValidateCnf where
  signalType : UInt8
  toggleNum : UInt8
  result : UInt8
deriving DecidableEq

/-- The message of each management message type the machines know. -/
inductive Payload (n : Nat) where
  | cmSlacParmReq (msg : CmSlacParmReq)
  | cmSlacParmCnf (msg : CmSlacParmCnf)
  | cmStartAttenCharInd (msg : CmStartAttenCharInd)
  | cmMnbcSoundInd (msg : CmMnbcSoundInd)
  | cmAttenProfileInd (msg : CmAttenProfileInd n)
  | cmAttenCharInd (msg : CmAttenCharInd n)
  | cmAttenCharRsp (msg : CmAttenCharRsp)
  | cmSlacMatchReq (msg : CmSlacMatchReq)
  | cmSlacMatchCnf (msg : CmSlacMatchCnf)
  | cmSetKeyReq (msg : CmSetKeyReq)
  | cmSetKeyCnf
  | cmValidateReq
  | cmValidateCnf (msg : CmValidateCnf)
  | qualcommCmResetDeviceReq
  | qualcommCmResetDeviceCnf
  | qualcommLinkStatusReq
  | qualcommLinkStatusCnf (linkStatus : UInt8)
  | qualcommOpAttrReq
  | qualcommOpAttrCnf
  | lumissilNscmResetDeviceReq
  | lumissilNscmGetVersionReq
  | lumissilNscmGetVersionCnf
  | lumissilNscmGetDLinkStatusReq
  | lumissilNscmGetDLinkStatusCnf (linkStatus : UInt8)
  | other (mmtype : UInt16)
deriving DecidableEq

structure HomeplugMessage (n : Nat) where
  srcMac : Mac
  payload : Payload n
deriving DecidableEq

/-! ## Time

Clock readings are nanoseconds; delays are milliseconds, and what is left until a
deadline is truncated to them. -/

def nanosPerMilli : Int := 1000000

def deadlineIn (now delayMs : Int) : Int := now + delayMs * nanosPerMilli

def millisecondsLeft (now deadline : Int) : Int := (deadline - now).tdiv nanosPerMilli

theorem millisecondsLeft_pos_iff (now deadline : Int) :
    0 < millisecondsLeft now deadline ↔ now + nanosPerMilli ≤ deadline := by
  show 0 < (deadline - now).tdiv 1000000 ↔ now + 1000000 ≤ deadline
  by_cases h : 0 ≤ deadline - now
  · rw [Int.tdiv_eq_ediv_of_nonneg h]
    omega
  · have hneg : (deadline - now).tdiv 1000000 ≤ 0 := by
      have hnn : 0 ≤ (-(deadline - now)).tdiv 1000000 := Int.tdiv_nonneg (by omega) (by omega)
      rw [Int.neg_tdiv] at hnn
      omega
    omega

theorem now_lt_of_millisecondsLeft_pos {now deadline : Int}
    (h : 0 < millisecondsLeft now deadline) : now < deadline := by
  have hle := (millisecondsLeft_pos_iff now deadline).mp h
  have hnanos : (0 : Int) < nanosPerMilli := by decide
  omega

end EverestCore.Slac
