import Raiko2.Guest.Reconstruct
import Raiko2.Lib.PointUpdates
import Raiko2.Lib.Table

/-!
# The sparse state

The world state of a stateless block (`crates/stateless/src/sparse.rs`): one account trie, and a storage
trie for every account that was looked at, opened on demand from the nodes of the witness. The trie
library is taken at its interface. A trie is the finite map of its entries, it has a root, and the library
can open the trie of a root from a set of nodes.
-/

namespace Raiko2.Guest

open Lib

abbrev TrieMap (α : Type) := Finmap fun _ : B256 => α

structure TrieAccount where
  nonce : UInt64
  balance : U256
  storageRoot : B256
  codeHash : B256
  deriving DecidableEq, Repr

structure Account where
  nonce : UInt64
  balance : U256
  bytecodeHash : Option B256
  deriving DecidableEq, Repr

structure HashedPostState where
  accounts : Table B256 (Option Account)
  storages : Table B256 (Table B256 U256)

inductive ProviderError where
  | trieWitnessError (message : String)
  | rlp (message : String)
  | other (message : String)
  deriving DecidableEq, Repr

/-- The trie library, and the constants and texts of `alloy` and `reth` around it. -/
structure Mpt extends Alloy where
  emptyRootHash : B256
  stateHash : TrieMap TrieAccount → B256
  storageHash : TrieMap U256 → B256
  stateFromPrehashed : B256 → (B256 → Option Bytes) → Except String (TrieMap TrieAccount)
  storageFromPrehashed : B256 → (B256 → Option Bytes) → Except String (TrieMap U256)
  showAddress : Address → String
  showProviderError : ProviderError → String

namespace Mpt

variable (M : Mpt)

def keccak256Empty : B256 := M.keccak256 []

def hashedAddress (address : Address) : B256 := M.keccak256 (beBytes 20 address.toNat)

def hashedSlot (slot : U256) : B256 := M.keccak256 (wordBytes slot)

end Mpt

structure SparseState where
  state : TrieMap TrieAccount
  storages : Table B256 (TrieMap U256)
  rlpByDigest : B256 → Option Bytes

inductive SparseStateError where
  | stateless (reason : StatelessValidationError)
  | witnessRevealFailed (preStateRoot : B256)

def intoSorted {ν : Type} (table : Table B256 ν) : List (Sigma fun _ : B256 => ν) :=
  table.entries.insertionSort fun a b => a.1 ≤ b.1

def slotValue (value : U256) : Option U256 := if value = 0 then none else some value

def writeSlots (trie : TrieMap U256) (storage : Table B256 U256) : TrieMap U256 :=
  eraseAll slotValue (writeAll slotValue trie (intoSorted storage)) (intoSorted storage)

def updateStorage (trie : TrieMap U256) (storage : Option (Table B256 U256)) : TrieMap U256 :=
  match storage with
  | some storage => writeSlots trie storage
  | none => trie

namespace SparseState

variable (M : Mpt)

def newWithStatePool (witness : ExecutionWitness) (sharedStateNodes : List WitnessStateNode)
    (preStateRoot : B256) : Outcome SparseStateError SparseState := do
  let nodes ← (Raiko2.rlpByDigest M.toAlloy witness sharedStateNodes).mapError .stateless
  match M.stateFromPrehashed preStateRoot nodes with
  | .error _ => .error (.witnessRevealFailed preStateRoot)
  | .ok state => return { state, storages := ∅, rlpByDigest := nodes }

def removeAccount (sparse : SparseState) (hashedAddress : B256) : SparseState :=
  { sparse with state := sparse.state.erase hashedAddress, storages := sparse.storages.erase hashedAddress }

/-- The storage trie of an account, opened if it is not there yet. -/
def storageTrieMut (sparse : SparseState) (hashedAddress : B256) :
    Except ProviderError (TrieMap U256 × SparseState) :=
  match sparse.storages.lookup hashedAddress with
  | some trie => .ok (trie, sparse)
  | none =>
    let storageRoot := ((sparse.state.lookup hashedAddress).map (·.storageRoot)).getD M.emptyRootHash
    match M.storageFromPrehashed storageRoot sparse.rlpByDigest with
    | .error reason => .error (.other reason)
    | .ok trie => .ok (trie, { sparse with storages := sparse.storages.insert hashedAddress trie })

def account (sparse : SparseState) (address : Address) :
    Except ProviderError (Option TrieAccount) × SparseState :=
  let hashedAddress := M.hashedAddress address
  match sparse.state.lookup hashedAddress with
  | none => (.ok none, sparse)
  | some account =>
    match sparse.storages.lookup hashedAddress with
    | some _ => (.ok (some account), sparse)
    | none =>
      match M.storageFromPrehashed account.storageRoot sparse.rlpByDigest with
      | .error reason => (.error (.rlp reason), sparse)
      | .ok trie =>
        (.ok (some account), { sparse with storages := sparse.storages.insert hashedAddress trie })

def storage (sparse : SparseState) (address : Address) (slot : U256) : Except ProviderError U256 :=
  match sparse.storages.lookup (M.hashedAddress address) with
  | none => .error (.trieWitnessError s!"storage trie missing for {M.showAddress address}")
  | some trie => .ok ((trie.lookup (M.hashedSlot slot)).getD 0)

def storageFromWitness (sparse : SparseState) (address : Address) (slot : U256) :
    Except ProviderError U256 × SparseState :=
  match sparse.account M address with
  | (.error reason, sparse) => (.error reason, sparse)
  | (.ok _, sparse) =>
    match sparse.storageTrieMut M (M.hashedAddress address) with
    | .error reason =>
      (.error (.trieWitnessError
        s!"storage trie missing for {M.showAddress address}: {M.showProviderError reason}"), sparse)
    | .ok (trie, sparse) => (.ok ((trie.lookup (M.hashedSlot slot)).getD 0), sparse)

def writeAccount (sparse : SparseState) (post : HashedPostState) (hashedAddress : B256) (account : Account) :
    Except StatelessValidationError SparseState :=
  match sparse.storageTrieMut M hashedAddress with
  | .error reason => .error (.statelessExecutionFailed (M.showProviderError reason))
  | .ok (trie, sparse) =>
    let trie := updateStorage trie (post.storages.lookup hashedAddress)
    .ok { sparse with
      storages := sparse.storages.insert hashedAddress trie
      state := sparse.state.insert hashedAddress
        { nonce := account.nonce
          balance := account.balance
          storageRoot := M.storageHash trie
          codeHash := account.bytecodeHash.getD M.keccak256Empty } }

/-- The loop over the accounts: those without a value are put off. -/
def writeAccounts (post : HashedPostState) :
    SparseState → List (Sigma fun _ : B256 => Option Account) → Except StatelessValidationError Unit × SparseState
  | sparse, [] => (.ok (), sparse)
  | sparse, ⟨_, none⟩ :: accounts => writeAccounts post sparse accounts
  | sparse, ⟨hashedAddress, some account⟩ :: accounts =>
    match sparse.writeAccount M post hashedAddress account with
    | .error reason => (.error reason, sparse)
    | .ok sparse => writeAccounts post sparse accounts

def removedAccounts (accounts : List (Sigma fun _ : B256 => Option Account)) : List B256 :=
  (accounts.filter fun entry => entry.2.isNone).map (·.1)

def calculateStateRoot (sparse : SparseState) (post : HashedPostState) :
    Except StatelessValidationError B256 × SparseState :=
  let accounts := intoSorted post.accounts
  match writeAccounts M post sparse accounts with
  | (.error reason, sparse) => (.error reason, sparse)
  | (.ok _, sparse) =>
    let sparse := (removedAccounts accounts).foldl removeAccount sparse
    (.ok (M.stateHash sparse.state), sparse)

end SparseState

end Raiko2.Guest
