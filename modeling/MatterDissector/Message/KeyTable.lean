import MatterDissector.Message.Decrypt

/-!
# The key table in memory

`MessageEncryptionKeyTable` (`MessageEncryptionKey.cpp`) as it lies in memory. `sKeys` maps a key
id to the entry that was added last under it, and `nextKey` leads from an entry to the one that
was there before. An entry lives at an address, its place in the order of allocation (the epan
scope frees nothing). `KeyTable` says the same as lists.
-/

namespace Matter.Message

open Prog

/-- The address of an entry; `NULL` is `none`. -/
abbrev KeyRef := Nat

/-- `MessageEncryptionKey` with its link. -/
structure KeyEntry extends MessageEncryptionKey where
  nextKey : Option KeyRef
  deriving DecidableEq, Repr

structure KeyMemory where
  entries : List KeyEntry
  sKeys : Nat → Option KeyRef

namespace KeyMemory

/-- `Init`. -/
def empty : KeyMemory where
  entries := []
  sKeys _ := none

/-- The link of the entry at an address, `none` where there is no entry. -/
def nextKey (mem : KeyMemory) (p : KeyRef) : Option KeyRef := mem.entries[p]?.bind KeyEntry.nextKey

/-- The data of the entry at an address. -/
def keyAt (mem : KeyMemory) (p : KeyRef) : Option MessageEncryptionKey :=
  mem.entries[p]?.map KeyEntry.toMessageEncryptionKey

end KeyMemory

/-- Nothing in the table throws. -/
abbrev KeyM := Prog Empty Fault KeyMemory

namespace MessageEncryptionKeyTable

/-- The entry at an address. -/
def load (p : KeyRef) : KeyM KeyEntry := do
  match ← gets (·.entries[p]?) with
  | some entry => pure entry
  | none => stop .outOfBoundsRead

/-- `FindKeysById`: the head of the list. -/
def findKeysById (keyId : Nat) : KeyM (Option KeyRef) := gets (·.sKeys keyId)

/-- One round of the loop of `AddKey`. An entry is the same as itself by its contents, too. -/
def sameKeyRound (keyData : MessageEncryptionKey) :
    Option KeyRef → KeyM (Option KeyRef ⊕ Option KeyRef)
  | none => pure (.inr none)
  | some p => do
    let key ← load p
    pure (if key.isSameKey keyData then .inr (some p) else .inl key.nextKey)

/-- The loop of `AddKey`: the first entry from `first` on with the key. -/
def findSameKey (keyData : MessageEncryptionKey) (first : Option KeyRef) : KeyM (Option KeyRef) :=
  whileLoop (fun _ mem => mem.entries.length) .outOfFuel (sameKeyRound keyData) first

/-- A new entry in front of `existingKeys`. -/
def insertKey (keyData : MessageEncryptionKey) (existingKeys : Option KeyRef) : KeyM KeyRef := do
  let newKey ← gets (·.entries.length)
  modify fun mem =>
    { entries := mem.entries ++ [{ keyData with nextKey := existingKeys }]
      sKeys := fun keyId => if keyId = keyData.keyId then some newKey else mem.sKeys keyId }
  pure newKey

/-- `AddKey`. -/
def addKey (keyData : MessageEncryptionKey) : KeyM KeyRef := do
  let existingKeys ← findKeysById keyData.keyId
  match ← findSameKey keyData existingKeys with
  | some key => pure key
  | none => insertKey keyData existingKeys

/-- A run of `AddKey`. -/
def addKeys : List MessageEncryptionKey → KeyM Unit
  | [] => pure ()
  | keyData :: run => do
    let _ ← addKey keyData
    addKeys run

end MessageEncryptionKeyTable

end Matter.Message
