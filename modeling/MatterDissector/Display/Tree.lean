import MatterDissector.Display.Text
import MatterDissector.TLV.Reader

/-!
# The protocol tree

What the dissector asks Wireshark to display, as a log of the calls (`Drawn`), and the fields that
`proto_register_matter_im` registers (`packet-matter-im.cpp`), with their types, those of
`proto_register_matter_common` (`packet-matter-common.cpp`), and those of the CASE messages from
`proto_register_matter_security` (`packet-matter-security.cpp`). Fields that no function of the
program shows are left out.
-/

namespace Matter.Display

/-- `ftenum`: the types that `AddTypedItem` tests, and those of the registered fields. -/
inductive FieldType where
  | none
  | boolean
  | int8
  | int16
  | int24
  | int32
  | int40
  | int48
  | int56
  | int64
  | uint8
  | uint16
  | uint24
  | uint32
  | uint40
  | uint48
  | uint56
  | uint64
  | string
  | bytes
  deriving DecidableEq, Repr

/-- The `hf_` variables; `unset` is -1. -/
inductive HeaderField where
  | unset
  | imCommonVersion
  | imCommonUnknown
  | imCommonField
  | timedRequestTimeoutMs
  | statusResponseStatus
  | readRequestAttributeRequests
  | readRequestEventRequests
  | readRequestEventFilters
  | readRequestIsFabricFiltered
  | readRequestDataVersionFilters
  | reportDataSubscriptionID
  | reportDataAttributeReports
  | reportDataEventReports
  | reportDataMoreChunkedMessages
  | reportDataSuppressResponse
  | writeRequestSuppressResponse
  | writeRequestTimedRequest
  | writeRequestWriteRequests
  | writeRequestMoreChunkedMessages
  | writeResponseWriteResponses
  | subscribeRequestKeepSubscriptions
  | subscribeRequestMinIntervalFloor
  | subscribeRequestMaxIntervalCeiling
  | subscribeRequestAttributeRequests
  | subscribeRequestEventRequests
  | subscribeRequestEventFilters
  | subscribeRequestIsFabricFiltered
  | subscribeRequestDataVersionFilters
  | subscribeResponseSubscriptionID
  | subscribeResponseMaxInterval
  | commandRequestSuppressResponse
  | commandRequestTimedRequest
  | commandRequestCommandList
  | commandRequestArgument
  | commandResponseSuppressResponse
  | commandResponseInvokeResponsesDetail
  | commandDataIB
  | commandStatusIB
  | statusIB
  | commandStatusStatus
  | commandStatusClusterStatus
  | commandStatusRef
  | dataElemPropertyPath
  | dataElemPropertyData
  | statusReportTLV
  | caseRequestControlHeader
  | caseRequestEncType
  | caseRequestPerformKeyConfirmFlag
  | caseRequestProposedConfig
  | caseRequestProposedCurve
  | caseRequestProposedSessionId
  | caseRequestAltConfigList
  | caseRequestAltConfigListElem
  | caseRequestAltCurveList
  | caseRequestAltCurveListElem
  | caseRequestECDHPublicKey
  | caseRequestCertInfo
  | caseRequestPayload
  | caseRequestSignature
  | caseResponseKeyConfirmHashLength
  | caseResponseECDHPublicKey
  | caseResponseCertInfo
  | caseResponsePayload
  | caseResponseSignature
  | caseResponseKeyConfirmHash
  | certInfoEntityCert
  | certInfoEntityCertRef
  | certInfoRelatedCertsList
  | certInfoTrustAnchorsList
  | cert
  | certSerialNumber
  | certIssuer
  | certIssuerAttribute
  | certSubject
  | certSubjectAttribute
  | certNotBefore
  | certNotAfter
  | certPublicKeyAlgorithm
  | certEllipticCurveIdentifier
  | certEllipticCurvePublicKey
  | certSignature
  | certUnknown
  | certRef
  | certRefSubject
  | certRefPublicSessionId
  | ecdsaSigR
  | ecdsaSigS
  | pbkdfParamRequestInitiatorRandom
  | pbkdfParamRequestLocalSessionId
  | pbkdfParamRequestPasscodeId
  | pbkdfParamRequestHasPbkdfParams
  | pbkdfParamRequestMrpParams
  | pbkdfParamResponseResponderRandom
  | pbkdfParamResponseResponderSessionId
  | pbkdfParamResponsePbkdfParameters
  | pbkdfParamResponseMrpParams
  | pbkdfParamResponsePbkdfIterationCount
  | pbkdfParamResponsePbkdfSalt
  | pake1PA
  | pake2PB
  | pake2CB
  | pake3CA
  | sessionDestinationId
  | sessionEphPublicKey
  | sessionEncrypted2
  | sessionEncrypted3
  | sessionEncryptedCiphertext
  | sessionEncryptedMic
  | sessionResumptionId
  | sessionResumeMic
  | sessionSleepyParams
  | sessionIdleRetransTimeout
  | sessionActiveRetransTimeout
  | sessionActiveThreshold
  | sessionDataModelRevision
  | sessionInteractionModelRevision
  | sessionSpecificationVersion
  | sessionMaxPathsPerInvoke
  | sessionUnknownParam
  deriving DecidableEq, Repr

/-- `proto_registrar_get_ftype`, from the tables of the `proto_register_matter_` functions. -/
def HeaderField.ftype : HeaderField → FieldType
  | caseRequestControlHeader | caseRequestEncType | caseResponseKeyConfirmHashLength => .uint8
  | timedRequestTimeoutMs | commandStatusStatus | commandStatusClusterStatus
  | commandStatusRef | caseRequestProposedConfig | caseRequestProposedCurve
  | caseRequestProposedSessionId | caseRequestAltConfigListElem
  | caseRequestAltCurveListElem | pbkdfParamRequestLocalSessionId | pbkdfParamRequestPasscodeId
  | pbkdfParamResponseResponderSessionId | sessionActiveThreshold | sessionDataModelRevision
  | sessionInteractionModelRevision | sessionMaxPathsPerInvoke => .uint16
  | certPublicKeyAlgorithm | certEllipticCurveIdentifier | sessionIdleRetransTimeout
  | sessionActiveRetransTimeout | sessionSpecificationVersion => .uint32
  | certNotBefore | certNotAfter | pbkdfParamResponsePbkdfIterationCount => .uint64
  | commandRequestSuppressResponse | commandRequestTimedRequest
  | caseRequestPerformKeyConfirmFlag | pbkdfParamRequestHasPbkdfParams => .boolean
  | caseRequestECDHPublicKey | caseRequestPayload | caseResponseECDHPublicKey
  | caseResponsePayload | caseResponseKeyConfirmHash | certSerialNumber
  | certEllipticCurvePublicKey | certRefPublicSessionId | ecdsaSigR | ecdsaSigS
  | pbkdfParamRequestInitiatorRandom | pbkdfParamResponseResponderRandom
  | pbkdfParamResponsePbkdfSalt | pake1PA | pake2PB | pake2CB | pake3CA | sessionDestinationId
  | sessionEphPublicKey | sessionEncryptedCiphertext | sessionEncryptedMic | sessionResumptionId
  | sessionResumeMic => .bytes
  | imCommonVersion | imCommonUnknown | imCommonField | statusResponseStatus
  | readRequestIsFabricFiltered | reportDataSubscriptionID | reportDataMoreChunkedMessages
  | reportDataSuppressResponse | writeRequestSuppressResponse | writeRequestTimedRequest
  | writeRequestMoreChunkedMessages | subscribeRequestKeepSubscriptions
  | subscribeRequestMinIntervalFloor | subscribeRequestMaxIntervalCeiling
  | subscribeRequestIsFabricFiltered | subscribeResponseSubscriptionID
  | subscribeResponseMaxInterval | commandResponseSuppressResponse
  | dataElemPropertyPath | statusReportTLV | certIssuerAttribute | certSubjectAttribute
  | certSignature | certUnknown | sessionUnknownParam => .string
  | _ => .none

/-- The `ett_` variables of the subtrees. -/
inductive Ett where
  | subscribeRequestPathList
  | commandRequestCommandList
  | commandResponseInvokeResponseList
  | commandElem
  | dataElem
  | statusIB
  | caseRequestAltConfigList
  | caseRequestAltCurveList
  | caseRequestCertInfo
  | caseRequestSignature
  | certInfoRelatedCertsList
  | certInfoTrustAnchorsList
  | cert
  | certDN
  | certRef
  | sessionParameters
  | pbkdfParameters
  | sessionEncrypted
  deriving DecidableEq, Repr

/-- `proto_tree *` and `proto_item *`: the tree of the message, its parent, or the item of a call,
by its place in the log. -/
inductive ProtoNode where
  | messageParent
  | messageTree
  | drawn (n : Nat)
  deriving DecidableEq, Repr

/-- The call that shows an item, and the value it shows. -/
inductive Shown where
  /-- `proto_tree_add_item` -/
  | item
  /-- `proto_tree_add_string_format_value` -/
  | stringValue (text : Text)
  /-- `proto_tree_add_string_format`: the text replaces the field's name, too. -/
  | stringLine (text : Text)
  /-- `proto_tree_add_int` -/
  | int (v : Int)
  /-- `proto_tree_add_int64` -/
  | int64 (v : Int)
  /-- `proto_tree_add_uint` -/
  | uint (v : Nat)
  /-- `proto_tree_add_uint_format_value` -/
  | uintFormatValue (v : Nat) (text : Text)
  /-- `proto_tree_add_uint64` -/
  | uint64 (v : Nat)
  /-- `proto_tree_add_boolean` -/
  | boolean (v : Bool)
  /-- `proto_tree_add_double` -/
  | double (v : TLV.TLVReader.FloatBits)
  /-- `proto_tree_add_string` -/
  | string (text : Text)
  /-- `proto_tree_add_bytes_with_length` -/
  | bytes (v : List UInt8)
  /-- `proto_tree_add_bytes_item` -/
  | bytesItem
  /-- `proto_tree_add_none_format` -/
  | noneFormat (text : Text)
  deriving DecidableEq, Repr

/-- One call. The buffer argument is that of the whole message everywhere. -/
inductive Drawn where
  | add (tree : ProtoNode) (hfindex : HeaderField) (start length : Nat) (shown : Shown)
  | addSubtree (item : ProtoNode) (ett : Ett)
  | setText (item : ProtoNode) (text : Text)
  | appendText (item : ProtoNode) (text : Text)
  deriving DecidableEq, Repr

end Matter.Display
