import MatterDissector.Message.Header

/-!
# Messages over TCP

`GetMatterTCPMessageLength` and the splitting of a segment into PDUs. `tcpDissectPdus` is
Wireshark's `tcp_dissect_pdus` with reassembly on: it asks the callback for the length of the PDU
at the current offset, hands over that many bytes and goes on behind them; a PDU that the segment
does not hold completely waits for the next segment.
-/

namespace Matter.Message

open Prog

/-- `GetMatterTCPMessageLength`. -/
def getMatterTCPMessageLength {σ : Type} (tvb : Tvb) (_offset : Nat) :
    Prog TvbError Fault σ Nat := do
  return (← tvb.getLetohs 0) + matterTCPMessageLengthFieldSize

/-- The PDUs handed to the dissector so far. -/
abbrev PduM := Prog TvbError Fault (List (List UInt8))

/-- One round of `tcp_dissect_pdus` at `offset`. -/
def tcpDissectPdusRound (fixedLen : Nat) (getPduLen : Tvb → Nat → PduM Nat) (tvb : Tvb)
    (offset : Nat) : PduM (Nat ⊕ Unit) := do
  let lengthRemaining := tvb.bytes.length - offset
  if lengthRemaining < fixedLen then pure (.inr ())
  else
    let plen ← getPduLen tvb offset
    if plen < fixedLen ∨ lengthRemaining < plen then pure (.inr ())
    else
      modify fun pdus => pdus ++ [(tvb.bytes.drop offset).take plen]
      pure (.inl (offset + plen))

/-- `tcp_dissect_pdus`. -/
def tcpDissectPdus (fixedLen : Nat) (getPduLen : Tvb → Nat → PduM Nat) (tvb : Tvb) :
    PduM Unit :=
  whileLoop (fun offset _ => tvb.bytes.length - offset) .outOfFuel
    (tcpDissectPdusRound fixedLen getPduLen tvb) 0

/-- `DissectMatterTCP`: its PDUs go to `DissectMatter`. -/
def dissectMatterTCP (tvb : Tvb) : PduM Unit :=
  tcpDissectPdus matterTCPMessageLengthFieldSize getMatterTCPMessageLength tvb

/-- A segment of messages. -/
def segment (msgs : List (List UInt8)) : Tvb := Tvb.ofBytes (msgs.map frameMessage).flatten

end Matter.Message
