import MatterDissector.Message.HintFile

/-!
# The hint file between calls

`RefreshMatterProxyHintKeys` (`packet-matter.cpp`) with the path and the modification time that it
keeps: a file is read again where one of the two is another. `HintFile` is what one call finds.
The events that use or change the key store run with any way of refreshing the hints
(`HintEvent.run`): the one of the source, or one that reads the file at every call
(`HintState.readHintKeys`).

A look at the files takes no time: `fopen` opens the file that `stat` has seen.
-/

namespace Matter.Message

open Prog

/-! ## What a call sees -/

/-- What `stat` says of a file, and its text where `fopen` opens it. -/
structure HintFileStat where
  mtime : Int
  content : Option Text

/-- The preference and the files; `stat` fails where there is `none`. -/
structure HintLook where
  prefMatterProxyKeyHintFile : Option Text
  stat : Text → Option HintFileStat

/-- `path`; without a preference it is the empty one. -/
def HintLook.path (look : HintLook) : Text :=
  trimStr (Text.cString (look.prefMatterProxyKeyHintFile.getD []))

/-- What is parsed of a file. -/
def HintFileStat.parsed (fs : HintFileStat) : List MatterProxyHintKey :=
  match fs.content with
  | some content => readMatterProxyHintFile content
  | none => []

/-- The hints of the file, `none` where there is no file. -/
def HintLook.hints (look : HintLook) : Option (List MatterProxyHintKey) :=
  if look.path = [] then none else (look.stat look.path).map HintFileStat.parsed

/-! ## What is kept -/

/-- The key store with `sMatterProxyHintPath` and `sMatterProxyHintMTime`. -/
structure HintState where
  decrypt : DecryptState
  matterProxyHintPath : Text
  matterProxyHintMTime : Int

abbrev HintM := Prog TvbError Fault HintState

namespace HintState

/-- No hint file has been read. -/
def start (keyTable : KeyTable) (hintKeysFromDSB : List MatterProxyHintKey) : HintState where
  decrypt := { keyTable, hintKeysFromFile := [], hintKeysFromDSB, calls := [] }
  matterProxyHintPath := []
  matterProxyHintMTime := 0

/-- `RefreshMatterProxyHintKeys`. -/
def refreshMatterProxyHintKeys (look : HintLook) (s : HintState) : HintState :=
  let path := look.path
  if path = [] then
    { decrypt := { s.decrypt with hintKeysFromFile := [] }
      matterProxyHintPath := []
      matterProxyHintMTime := 0 }
  else
    match look.stat path with
    | none =>
      { decrypt := { s.decrypt with hintKeysFromFile := [] }
        matterProxyHintPath := path
        matterProxyHintMTime := 0 }
    | some fs =>
      if s.matterProxyHintPath = path ∧ s.matterProxyHintMTime = fs.mtime then s
      else
        let parsed := fs.parsed
        { decrypt := { s.decrypt with
            hintKeysFromFile := parsed
            keyTable := parsed.foldl KeyTable.preloadHintKey s.decrypt.keyTable }
          matterProxyHintPath := path
          matterProxyHintMTime := fs.mtime }

/-- The hints are read at every call. -/
def readHintKeys (look : HintLook) (s : HintState) : HintState :=
  { s with
    decrypt := s.decrypt.refreshMatterProxyHintKeys <|
      match look.hints with
      | some hints => .loaded hints
      | none => .missing }

end HintState

/-! ## Events -/

inductive HintEvent where
  | decrypt (look : HintLook) (malloc : Nat → List UInt8) (tvb : Tvb) (encDataOffset : Nat)
      (msgInfo : MatterMessageInfo)
  | addKey (keyData : MessageEncryptionKey)
  | secretsBlock (secrets : Text)

/-- What there is to see of a call of `TryDecryptMessage`: the hints of the file that it works
with, and what it returns or throws. -/
structure DecryptResult where
  hintKeysFromFile : List MatterProxyHintKey
  unencMsgTVB : Except TvbError (Option Tvb)
  deriving DecidableEq

namespace HintM

variable {α : Type}

def decrypt (x : DecryptM α) : HintM α :=
  zoom HintState.decrypt (fun decrypt s => { s with decrypt }) x

end HintM

section
variable (refresh : HintLook → HintState → HintState) (env : DecryptEnv)

/-- `TryDecryptMessage` on the files that `look` sees. -/
def tryDecryptMessageOn (look : HintLook) (tvb : Tvb) (encDataOffset : Nat)
    (msgInfo : MatterMessageInfo) : HintM (Option Tvb) := do
  if messageIsEncrypted msgInfo then
    modify (refresh look)
  .decrypt (tryDecryptMessage { env with hintFile := .unchanged } tvb encDataOffset msgInfo)

/-- One event; what `tvb_memdup` throws is caught by the caller of the dissector. -/
def HintEvent.run : HintEvent → HintM (Option DecryptResult)
  | .decrypt look malloc tvb encDataOffset msgInfo => do
    let unencMsgTVB ← attempt
      (tryDecryptMessageOn refresh { env with malloc } look tvb encDataOffset msgInfo)
    let hintKeysFromFile ← gets (·.decrypt.hintKeysFromFile)
    pure (some { hintKeysFromFile, unencMsgTVB })
  | .addKey keyData => do
    .decrypt (Message.addKey keyData)
    pure none
  | .secretsBlock secrets => do
    .decrypt (modify (·.matterProxyHintSecretsBlockCallback secrets))
    pure none

def runEvents : List HintEvent → HintM (List (Option DecryptResult))
  | [] => pure []
  | event :: events => do
    let result ← event.run refresh env
    let results ← runEvents events
    pure (result :: results)

end

end Matter.Message
