import MatterDissector.TLV.Proof.Walk
import MatterDissector.Display.Buffer
import MatterDissector.TLV.Dissector
import MatterDissector.TLV.Proof.Handles
import MatterDissector.TLV.Proof.Generic
import MatterDissector.TLV.Proof.Members
import MatterDissector.TLV.Proof.Bounds
import MatterDissector.IM.Proof.Contract
import MatterDissector.IM.Proof.LookAhead
import MatterDissector.Message.Proof.Header
import MatterDissector.Message.Proof.Tcp
import MatterDissector.Message.Proof.Decrypt
import MatterDissector.Message.Proof.Learned
import MatterDissector.Message.Proof.Nonce
import MatterDissector.Message.Proof.Tail
import MatterDissector.Tracker.Proof.Queries
import MatterDissector.Tracker.Proof.Invariant
import MatterDissector.Tracker.Proof.Frames
import MatterDissector.Tracker.Proof.Start
import MatterDissector.Tracker.Proof.Stability
import MatterDissector.Tracker.Proof.Sessions
import MatterDissector.Tracker.Proof.Order
import MatterDissector.Tracker.Proof.Acks
import MatterDissector.IM.Proof.Decodable
import MatterDissector.Message.KeyTable
import MatterDissector.Message.Proof.KeyTable
import MatterDissector.TLV.Proof.Lengths
import MatterDissector.TLV.Proof.SkipWalk
import MatterDissector.Message.Proof.Split
import MatterDissector.Tracker.Proof.Subscription
import MatterDissector.Message.Proof.HintFile
import MatterDissector.Message.Proof.HintLine
import MatterDissector.Message.Proof.HintCache
import MatterDissector.TLV.Proof.RealEnd
import MatterDissector.TLV.Proof.Ranges
import MatterDissector.IM.Proof.MessagesEnd
import MatterDissector.TLV.Proof.Accessors
import MatterDissector.TLV.Proof.TagClasses
import MatterDissector.TLV.Proof.Visits
import MatterDissector.TLV.Proof.Rendering
import MatterDissector.TLV.Proof.Accepted
import MatterDissector.TLV.Proof.Draws
import MatterDissector.IM.Proof.Integers
import MatterDissector.Security.Proof.Hkdf
import MatterDissector.Security.Proof.CaseLayout
import MatterDissector.Security.Proof.Exchange
import MatterDissector.SecureChannel.Proof.Return
import MatterDissector.SecureChannel.Proof.Shown
import MatterDissector.IM.Proof.Retry
import MatterDissector.IM.Proof.Complete
import MatterDissector.Tracker.Proof.Exchanges
import MatterDissector.Tracker.Proof.Settled
import MatterDissector.Capture.Proof.AsSent
import MatterDissector.Capture.Proof.Session
