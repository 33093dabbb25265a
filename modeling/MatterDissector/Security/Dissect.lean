import MatterDissector.Security.SessionKey

/-!
# The security protocol

`DissectMatterSecurity` (`packet-matter-security.cpp`), on the state that a message finds: its own
CASE record, those of the messages before it in its exchange, and the key table. What a message
shows of itself is in the log of the CASE state.

Left out are the items of `DissectCASEReconfigure`, `DissectMessageCounterSyncResp` and
`DissectKeyError`. These dissectors only show fields of the payload, whose length they have checked.
-/

namespace Matter.Security

open Prog Display Message

def msgTypeCASEBeginSessionRequest : Nat := 10
def msgTypeCASEBeginSessionResponse : Nat := 11
def msgTypeCASEInitiatorKeyConfirm : Nat := 12

/-! ## `CASEInitiatorKeyConfirm` -/

/-- The record of the exchange, unless the message has one. -/
def recordKeyConfirm : CaseM Unit := do
  let own ← gets (·.caseExchangeRec)
  let found ← gets findCASEExchangeRecord
  match if own = none then found else none with
  | some p => modify fun s => { s with caseExchangeRec := some p }
  | none => pure ()

/-- `DissectCASEInitiatorKeyConfirm`. The item is a field of the response. -/
def dissectKeyConfirm (tvb : Tvb) : CaseM Unit := do
  let _ ← drawCase (.appendText .messageParent (Text.lit ": CASE Initiator Key Confirm"))
  verify (20 ≤ tvb.bytes.length) (.code .messageIncomplete)
  let _ ← addBytesItem tvb .messageTree .caseResponseKeyConfirmHash 0 tvb.bytes.length
  recordKeyConfirm

/-! ## `DissectMatterSecurity` -/

abbrev SecurityM := Prog CaseStop Fault RecoveryState

def onCase (x : CaseM Unit) : SecurityM Unit :=
  zoom RecoveryState.case (fun case s => { s with case }) x

/-- `DissectMatterSecurity`, up to `exit:`, where the error code is ignored. -/
def dissectMatterSecurity (env : CaseEnv) (kdf : KdfEnv) (msgType : Nat) (tvb : Tvb) :
    SecurityM Unit :=
  if msgType = msgTypeCASEBeginSessionRequest then onCase (dissectRequest tvb env)
  else if msgType = msgTypeCASEBeginSessionResponse then recoveringResponse tvb env kdf
  else if msgType = msgTypeCASEInitiatorKeyConfirm then onCase (dissectKeyConfirm tvb)
  else pure ()

end Matter.Security
