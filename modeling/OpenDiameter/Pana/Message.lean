import OpenDiameter.Foundation.Imperative
import OpenDiameter.Foundation.Octets
import OpenDiameter.Pana.SerialNumber

/-! Messages of PANA, and the keys that protect them.

An AVP is what `GetAvp` finds under its name. The hash functions are parameters, as is
the encoding of a message that goes into them.
-/

set_option autoImplicit false

namespace OpenDiameter.Pana

open Foundation

section Messages

structure InetAddr where
  ip : UInt32 := 0
  port : UInt16 := 0
  deriving DecidableEq, Repr

/-! `PANA_MTYPE_*`: a request and its answer have one type. -/

abbrev MType := UInt16

def mtypePCI : MType := 0x01
def mtypePSR : MType := 0x02
def mtypePAR : MType := 0x03
def mtypePRR : MType := 0x04
def mtypePBR : MType := 0x05
def mtypePPR : MType := 0x06
def mtypePTR : MType := 0x07
def mtypePER : MType := 0x08
def mtypePUR : MType := 0x09

/-- `PANA_MsgHeader`; `request` is the flag of that name. -/
structure MsgHeader where
  version : UInt8 := 1
  length : UInt16 := 0
  request : Bool := false
  type : MType := 0
  sessionId : UInt32 := 0
  seq : UInt32 := 0
  deriving DecidableEq, Repr

/-- The AVPs of a message that are read or added by name. -/
structure AvpList where
  algorithm : Option UInt32 := none
  auth : Option Octets := none
  eapPayload : Option Octets := none
  failedMsgHdr : Option MsgHeader := none
  keyId : Option UInt32 := none
  nonce : Option Octets := none
  resultCode : Option UInt32 := none
  sessionLifetime : Option UInt32 := none
  termCause : Option UInt32 := none
  deriving DecidableEq, Repr

structure Message extends MsgHeader where
  avpList : AvpList := {}
  srcAddress : InetAddr := {}
  destAddress : InetAddr := {}
  deriving DecidableEq, Repr

def rcodeSuccess : UInt32 := 0x00
def rcodeAuthenticationRejected : UInt32 := 0x01

/-- `PANA_TERMCAUSE_*`. -/
def termCauseLogout : UInt32 := 1
def termCauseAdministrative : UInt32 := 4
def termCauseSessionTimeout : UInt32 := 8

/-- `PANA_ERROR_UNABLE_TO_COMPLY`. -/
def errorUnableToComply : UInt32 := 1013

end Messages

section Exceptions

/-- The codes of a `PANA_Exception` that sessions throw. -/
inductive ExceptionCode where
  | failed | invalidMessage | missingEapPayload
  deriving DecidableEq, Repr

structure Exception where
  code : ExceptionCode
  description : String
  deriving DecidableEq, Repr

end Exceptions

section Association

/-- `PANA_ScholarValue`; `Reset` forgets that the value is set, not the value. -/
structure ScholarValue (α : Type) where
  value : α
  isSet : Bool := false
  deriving DecidableEq, Repr

variable {α : Type}

def ScholarValue.set (value : α) : ScholarValue α := ⟨value, true⟩

def ScholarValue.reset (v : ScholarValue α) : ScholarValue α := { v with isSet := false }

/-- The hash functions: `PANA_AuthKey::Generate` of both nonces, the master key, the
session id and the key id, and `GenerateAuthAvpValue` of a key and of the message
that is encoded. -/
structure Crypto where
  generate : Octets → Octets → Octets → UInt32 → UInt32 → Octets
  generateAuthAvpValue : Octets → MsgHeader → AvpList → Octets

structure SecurityAssociation where
  authKey : ScholarValue Octets := ⟨[], false⟩
  pacNonce : ScholarValue Octets := ⟨[], false⟩
  paaNonce : ScholarValue Octets := ⟨[], false⟩
  msk : ScholarValue Octets := ⟨[], false⟩
  mskId : UInt32
  deriving DecidableEq, Repr

/-- `PANA_AUTH_HMACSIZE` zeros, in the place of the value that is computed. -/
def zeroAuth : Octets := List.replicate 20 0

/-- `PANA_AUTH_ALGORITHM()`. -/
def authAlgorithm : UInt32 := 0x00020007

namespace SecurityAssociation

variable (crypto : Crypto) (sa : SecurityAssociation)

/-- `Reset`, with the next identifier of `PANA_MSK`. The master key stays set:
`PANA_MSK::Reset` hides the `Reset` of the value. -/
def reset (mskId : UInt32) : SecurityAssociation := { sa with mskId := mskId, authKey := sa.authKey.reset }

def generateAuthKey (sessionId : UInt32) : SecurityAssociation :=
  { sa with authKey := .set (crypto.generate sa.pacNonce.value sa.paaNonce.value sa.msk.value sessionId sa.mskId) }

def authValue (msg : Message) : Octets :=
  crypto.generateAuthAvpValue sa.authKey.value msg.toMsgHeader { msg.avpList with auth := some zeroAuth }

def addKeyIdAvp (msg : Message) : Message := { msg with avpList := { msg.avpList with keyId := some sa.mskId } }

def addAuthAvp (msg : Message) : Message :=
  { msg with avpList := { msg.avpList with auth := some (sa.authValue crypto msg) } }

def validateAuthAvp (msg : Message) : Bool :=
  match msg.avpList.auth with
  | none => false
  | some mvalue => sa.authValue crypto msg == mvalue

theorem validateAuthAvp_iff {crypto : Crypto} {sa : SecurityAssociation} {msg : Message} :
    sa.validateAuthAvp crypto msg = true ↔ msg.avpList.auth = some (sa.authValue crypto msg) := by
  unfold validateAuthAvp
  cases auth : msg.avpList.auth with
  | none => simp
  | some mvalue =>
    simp only [beq_iff_eq, Option.some.injEq]
    exact eq_comm

/-- The receiver accepts what the holder of the same key has protected. -/
theorem validateAuthAvp_addAuthAvp (msg : Message) : sa.validateAuthAvp crypto (sa.addAuthAvp crypto msg) = true :=
  validateAuthAvp_iff.mpr rfl

end SecurityAssociation

end Association

end OpenDiameter.Pana
