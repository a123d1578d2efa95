import Raiko2.Guest.LinkageExact
import Raiko2.Guest.SparseState

/-!
# The sparse state is a ledger

What the sparse state stands for: at every hashed address an account with its storage as a map, and
whether the storage can be read without looking at the account first. Every operation keeps the account
trie, the opened storage tries and the storage roots in step with such a ledger, so that a root is always
the root of the map that the post states written so far give.
-/

namespace Raiko2.Guest

open Lib

structure AccountState where
  nonce : UInt64
  balance : U256
  codeHash : B256
  storage : TrieMap U256

structure Cell where
  account : Option AccountState
  opened : Bool

def Cell.storage (cell : Cell) : TrieMap U256 := (cell.account.map (·.storage)).getD ∅

abbrev Ledger := B256 → Cell

def changedStorage (storage : TrieMap U256) (changes : Option (Table B256 U256)) : TrieMap U256 :=
  match changes with
  | some slots => editAll slotValue storage slots.entries
  | none => storage

def AccountState.trieAccount (M : Mpt) (account : AccountState) : TrieAccount where
  nonce := account.nonce
  balance := account.balance
  storageRoot := M.storageHash account.storage
  codeHash := account.codeHash

def Cell.trieAccount (M : Mpt) (cell : Cell) : Option TrieAccount := cell.account.map (·.trieAccount M)

def Cell.storageRoot (M : Mpt) (cell : Cell) : B256 :=
  ((cell.trieAccount M).map (·.storageRoot)).getD M.emptyRootHash

def Cell.write (M : Mpt) (cell : Cell) (account : Account) (changes : Option (Table B256 U256)) : Cell where
  account := some
    { nonce := account.nonce
      balance := account.balance
      codeHash := account.bytecodeHash.getD M.keccak256Empty
      storage := changedStorage cell.storage changes }
  opened := true

def Cell.removed : Cell where
  account := none
  opened := false

def Cell.apply (M : Mpt) (cell : Cell) (entry : Option (Option Account)) (changes : Option (Table B256 U256)) :
    Cell :=
  match entry with
  | some (some account) => cell.write M account changes
  | some none => .removed
  | none =>
    { cell with account := cell.account.map fun account =>
        { account with storage := changedStorage account.storage changes } }

def Ledger.applyPost (M : Mpt) (ledger : Ledger) (post : HashedPostState) : Ledger := fun address =>
  (ledger address).apply M (post.accounts.lookup address) (post.storages.lookup address)

def HashedPostState.WellFormed (post : HashedPostState) : Prop :=
  ∀ address, (post.storages.lookup address).isSome → (post.accounts.lookup address).isSome

def Ledger.HasRoot (M : Mpt) (ledger : Ledger) (root : B256) : Prop :=
  ∃ accounts : TrieMap TrieAccount,
    (∀ address, accounts.lookup address = (ledger address).trieAccount M) ∧ root = M.stateHash accounts

theorem Ledger.HasRoot.unique {M : Mpt} {ledger : Ledger} {root root' : B256} (h : ledger.HasRoot M root)
    (h' : ledger.HasRoot M root') : root = root' := by
  obtain ⟨accounts, hAccounts, rfl⟩ := h
  obtain ⟨accounts', hAccounts', rfl⟩ := h'
  have hEq : accounts = accounts' := Finmap.ext_lookup fun address => by rw [hAccounts, hAccounts']
  rw [hEq]

def Ledger.openAt (ledger : Ledger) (address : B256) : Ledger :=
  Function.update ledger address { ledger address with opened := true }

def Ledger.lookAt (ledger : Ledger) (address : B256) : Ledger :=
  if (ledger address).account.isSome then ledger.openAt address else ledger

def Ledger.slotAt (M : Mpt) (ledger : Ledger) (address : Address) (slot : U256) : U256 :=
  ((ledger (M.hashedAddress address)).storage.lookup (M.hashedSlot slot)).getD 0

section Opening

variable {ledger : Ledger}

theorem openAt_of_opened {address : B256} (h : (ledger address).opened = true) : ledger.openAt address = ledger := by
  have hCell : { ledger address with opened := true } = ledger address := by
    rw [← h]
  rw [Ledger.openAt, hCell, Function.update_eq_self]

theorem openAt_openAt (address : B256) : (ledger.openAt address).openAt address = ledger.openAt address := by
  apply openAt_of_opened
  simp [Ledger.openAt]

theorem openAt_lookAt (address : B256) : (ledger.lookAt address).openAt address = ledger.openAt address := by
  rw [Ledger.lookAt]
  split
  · exact openAt_openAt address
  · rfl

theorem storage_lookAt (address : B256) : (ledger.lookAt address address).storage = (ledger address).storage := by
  rw [Ledger.lookAt]
  split
  · simp [Ledger.openAt, Cell.storage]
  · rfl

end Opening

section Sorted

variable {ν : Type} (table : Table B256 ν)

theorem nodupKeys_intoSorted : (intoSorted table).NodupKeys :=
  (List.perm_nodupKeys (List.perm_insertionSort _ _)).mpr table.nodupKeys

theorem dlookup_intoSorted (address : B256) : (intoSorted table).dlookup address = table.lookup address :=
  List.perm_dlookup address (nodupKeys_intoSorted table) (List.perm_insertionSort _ _)

end Sorted

theorem updateStorage_eq (trie : TrieMap U256) (changes : Option (Table B256 U256)) :
    updateStorage trie changes = changedStorage trie changes := by
  cases changes with
  | none => rfl
  | some slots =>
    exact eraseAll_writeAll slotValue (nodupKeys_intoSorted slots) slots.nodupKeys (dlookup_intoSorted slots)

section Passes

variable {M : Mpt} {ledger : Ledger} {post : HashedPostState}

def Ledger.writeAt (M : Mpt) (post : HashedPostState) (ledger : Ledger) (address : B256) (account : Account) : Ledger :=
  Function.update ledger address ((ledger address).write M account (post.storages.lookup address))

theorem writeAt_openAt (address : B256) (account : Account) : ledger.writeAt M post address account =
    Function.update (ledger.openAt address) address
      ((ledger address).write M account (post.storages.lookup address)) :=
  (Function.update_idem _ _ _).symm

def Ledger.writeEntry (M : Mpt) (post : HashedPostState) (ledger : Ledger)
    (entry : Sigma fun _ : B256 => Option Account) : Ledger :=
  match entry.2 with
  | some account => ledger.writeAt M post entry.1 account
  | none => ledger

def Ledger.removeEntry (ledger : Ledger) (entry : Sigma fun _ : B256 => Option Account) : Ledger :=
  match entry.2 with
  | some _ => ledger
  | none => Function.update ledger entry.1 .removed

variable (accounts : List (Sigma fun _ : B256 => Option Account))

theorem foldl_writeEntry (hNodup : accounts.NodupKeys) (address : B256) :
    accounts.foldl (Ledger.writeEntry M post) ledger address =
      updatedAt (fun (value : Option Account) cell =>
        value.elim cell fun account => cell.write M account (post.storages.lookup address))
        (accounts.dlookup address) (ledger address) := by
  refine read_foldl_of_local (fun ledger address => ledger address) _
    (fun address (value : Option Account) cell =>
      value.elim cell fun account => cell.write M account (post.storages.lookup address)) ?_ hNodup ledger address
  rintro ledger ⟨k, value⟩ x
  cases value with
  | none => exact (ite_self _).symm
  | some account =>
    refine (Function.update_apply _ _ _ _).trans ?_
    split
    · rename_i hx
      rw [hx]
      rfl
    · rfl

theorem foldl_removeEntry (hNodup : accounts.NodupKeys) (address : B256) :
    accounts.foldl Ledger.removeEntry ledger address =
      updatedAt (fun (value : Option Account) cell => value.elim Cell.removed fun _ => cell)
        (accounts.dlookup address) (ledger address) := by
  refine read_foldl_of_local (fun ledger address => ledger address) _ (fun _ => _) ?_ hNodup ledger address
  rintro ledger ⟨k, value⟩ x
  cases value with
  | none => exact Function.update_apply ledger k Cell.removed x
  | some account => exact (ite_self _).symm

theorem removeEntry_writeEntry (hPost : post.WellFormed) :
    (intoSorted post.accounts).foldl Ledger.removeEntry
      ((intoSorted post.accounts).foldl (Ledger.writeEntry M post) ledger) = ledger.applyPost M post := by
  funext address
  have hNodup := nodupKeys_intoSorted post.accounts
  rw [foldl_removeEntry _ hNodup, foldl_writeEntry _ hNodup, dlookup_intoSorted, Ledger.applyPost]
  cases hAccount : post.accounts.lookup address with
  | none =>
    have hStorage : post.storages.lookup address = none := by
      rw [← Option.not_isSome_iff_eq_none]
      intro hSome
      have := hPost address hSome
      rw [hAccount] at this
      cases this
    rw [hStorage]
    simp [Cell.apply, changedStorage]
  | some value => cases value <;> rfl

end Passes

structure SparseState.Represents (M : Mpt) (sparse : SparseState) (ledger : Ledger) : Prop where
  state : ∀ address, sparse.state.lookup address = (ledger address).trieAccount M
  storages : ∀ address, sparse.storages.lookup address =
    if (ledger address).opened then some (ledger address).storage else none
  unopened : ∀ address, (ledger address).opened = false →
    M.storageFromPrehashed ((ledger address).storageRoot M) sparse.rlpByDigest = .ok (ledger address).storage
  empty : M.storageFromPrehashed M.emptyRootHash sparse.rlpByDigest = .ok ∅

namespace SparseState.Represents

variable {M : Mpt} {sparse sparse' : SparseState} {ledger : Ledger}

section Reading

variable (h : sparse.Represents M ledger)

include h

theorem update {address : B256} {cell : Cell} (hNodes : sparse'.rlpByDigest = sparse.rlpByDigest)
    (hState : ∀ x, sparse'.state.lookup x = if x = address then cell.trieAccount M else sparse.state.lookup x)
    (hStorages : ∀ x, sparse'.storages.lookup x =
      if x = address then (if cell.opened then some cell.storage else none) else sparse.storages.lookup x)
    (hUnopened : cell.opened = false →
      M.storageFromPrehashed (cell.storageRoot M) sparse.rlpByDigest = .ok cell.storage) :
    sparse'.Represents M (Function.update ledger address cell) where
  state x := by
    rw [hState, Function.update_apply]
    split
    · rfl
    · exact h.state x
  storages x := by
    rw [hStorages, Function.update_apply]
    split
    · rfl
    · exact h.storages x
  unopened x := by
    rw [hNodes, Function.update_apply]
    split
    · exact hUnopened
    · exact h.unopened x
  empty := by rw [hNodes]; exact h.empty


theorem opening (address : B256) :
    ({ sparse with storages := sparse.storages.insert address (ledger address).storage } : SparseState).Represents M
      (ledger.openAt address) := by
  refine h.update rfl (fun x => ?_) (fun x => ?_) fun hOpened => by cases hOpened
  · split
    · rename_i hx
      rw [hx]
      exact h.state address
    · rfl
  · exact Table.lookup_insert_ite

theorem storageTrieMut (address : B256) :
    ∃ sparse', sparse.storageTrieMut M address = .ok ((ledger address).storage, sparse') ∧
      sparse'.Represents M (ledger.openAt address) := by
  rw [SparseState.storageTrieMut, h.storages]
  cases hOpened : (ledger address).opened with
  | true => exact ⟨sparse, rfl, by rwa [openAt_of_opened hOpened]⟩
  | false =>
    have hTrie := h.unopened address hOpened
    rw [Cell.storageRoot, ← h.state] at hTrie
    simp only [Bool.false_eq_true, ↓reduceIte, hTrie]
    exact ⟨_, rfl, h.opening address⟩

theorem account (address : Address) :
    ∃ sparse', sparse.account M address = (.ok ((ledger (M.hashedAddress address)).trieAccount M), sparse') ∧
      sparse'.Represents M (ledger.lookAt (M.hashedAddress address)) := by
  rw [SparseState.account, h.state, Ledger.lookAt]
  generalize M.hashedAddress address = hashed
  cases hAccount : (ledger hashed).account with
  | none =>
    rw [Cell.trieAccount, hAccount]
    exact ⟨sparse, rfl, h⟩
  | some account =>
    have hTrieAccount : (ledger hashed).trieAccount M = some (account.trieAccount M) := by
      rw [Cell.trieAccount, hAccount, Option.map_some]
    rw [hTrieAccount, h.storages]
    cases hOpened : (ledger hashed).opened with
    | true => exact ⟨sparse, rfl, by simpa [openAt_of_opened hOpened] using h⟩
    | false =>
      have hTrie := h.unopened hashed hOpened
      rw [Cell.storageRoot, hTrieAccount, Option.map_some, Option.getD_some] at hTrie
      simp only [Bool.false_eq_true, ↓reduceIte, hTrie]
      exact ⟨_, rfl, h.opening hashed⟩

theorem storage (address : Address) (slot : U256) : sparse.storage M address slot =
      if (ledger (M.hashedAddress address)).opened then .ok (ledger.slotAt M address slot)
      else .error (.trieWitnessError s!"storage trie missing for {M.showAddress address}") := by
  rw [SparseState.storage, h.storages]
  cases (ledger (M.hashedAddress address)).opened <;> rfl

theorem storageFromWitness (address : Address) (slot : U256) :
    ∃ sparse', sparse.storageFromWitness M address slot = (.ok (ledger.slotAt M address slot), sparse') ∧
      sparse'.Represents M (ledger.openAt (M.hashedAddress address)) := by
  obtain ⟨looked, hLooked, hRep⟩ := h.account address
  obtain ⟨after, hAfter, hRep'⟩ := hRep.storageTrieMut (M.hashedAddress address)
  refine ⟨after, ?_, ?_⟩
  · rw [SparseState.storageFromWitness, hLooked]
    simp only [hAfter, Ledger.slotAt, storage_lookAt]
  · rwa [openAt_lookAt] at hRep'

theorem writeAccount (post : HashedPostState) (address : B256) (account : Account) :
    ∃ sparse', sparse.writeAccount M post address account = .ok sparse' ∧
      sparse'.Represents M (ledger.writeAt M post address account) := by
  obtain ⟨opened, hOpened, hRep⟩ := h.storageTrieMut address
  rw [SparseState.writeAccount, hOpened]
  refine ⟨_, rfl, ?_⟩
  rw [updateStorage_eq, writeAt_openAt]
  refine hRep.update rfl (fun x => ?_) (fun x => ?_) fun hClosed => by cases hClosed
  · exact lookup_insert_eq_ite _ _ _ _
  · exact Table.lookup_insert_ite

end Reading

theorem writeAccounts (post : HashedPostState) (accounts : List (Sigma fun _ : B256 => Option Account))
    (h : sparse.Represents M ledger) :
    ∃ sparse', SparseState.writeAccounts M post sparse accounts = (.ok (), sparse') ∧
      sparse'.Represents M (accounts.foldl (Ledger.writeEntry M post) ledger) := by
  induction accounts generalizing sparse ledger with
  | nil => exact ⟨sparse, rfl, h⟩
  | cons entry accounts ih =>
    obtain ⟨address, value⟩ := entry
    cases value with
    | none => exact ih h
    | some account =>
      obtain ⟨written, hWritten, hRep⟩ := h.writeAccount post address account
      rw [SparseState.writeAccounts, hWritten]
      exact ih hRep

theorem removeAccount (h : sparse.Represents M ledger) (address : B256) :
    (sparse.removeAccount address).Represents M (Function.update ledger address .removed) := by
  refine h.update rfl (fun x => ?_) (fun x => ?_) fun _ => h.empty
  · exact lookup_erase_eq_ite _ _ _
  · exact Table.lookup_erase_ite

theorem removeAccounts (accounts : List (Sigma fun _ : B256 => Option Account)) (h : sparse.Represents M ledger) :
    ((SparseState.removedAccounts accounts).foldl SparseState.removeAccount sparse).Represents M
      (accounts.foldl Ledger.removeEntry ledger) := by
  induction accounts generalizing sparse ledger with
  | nil => exact h
  | cons entry accounts ih =>
    obtain ⟨address, value⟩ := entry
    cases value with
    | none => exact ih (h.removeAccount address)
    | some account => exact ih h

theorem calculateStateRoot (h : sparse.Represents M ledger) {post : HashedPostState} (hPost : post.WellFormed) :
    ∃ root sparse', sparse.calculateStateRoot M post = (.ok root, sparse') ∧
      (ledger.applyPost M post).HasRoot M root ∧ sparse'.Represents M (ledger.applyPost M post) := by
  obtain ⟨written, hWritten, hRep⟩ := h.writeAccounts post (intoSorted post.accounts)
  have hRemoved := hRep.removeAccounts (intoSorted post.accounts)
  rw [removeEntry_writeEntry hPost] at hRemoved
  rw [SparseState.calculateStateRoot]
  simp only [hWritten]
  exact ⟨_, _, rfl, ⟨_, hRemoved.state, rfl⟩, hRemoved⟩

end SparseState.Represents

inductive StateCall where
  | account (address : Address)
  | storage (address : Address) (slot : U256)
  | storageFromWitness (address : Address) (slot : U256)
  | calculateStateRoot (post : HashedPostState)

namespace StateCall

def Answer : StateCall → Type
  | account _ => Except ProviderError (Option TrieAccount)
  | storage _ _ => Except ProviderError U256
  | storageFromWitness _ _ => Except ProviderError U256
  | calculateStateRoot _ => Except StatelessValidationError B256

def WellFormed : StateCall → Prop
  | calculateStateRoot post => post.WellFormed
  | _ => True

end StateCall

def SparseState.perform (M : Mpt) (sparse : SparseState) : (call : StateCall) → call.Answer × SparseState
  | .account address => sparse.account M address
  | .storage address slot => (sparse.storage M address slot, sparse)
  | .storageFromWitness address slot => sparse.storageFromWitness M address slot
  | .calculateStateRoot post => sparse.calculateStateRoot M post

def SparseState.run (M : Mpt) (sparse : SparseState) (calls : List StateCall) : SparseState :=
  calls.foldl (fun sparse call => (sparse.perform M call).2) sparse

/-- What a ledger lets a call answer. A storage that was not opened is not read. -/
def Ledger.Answers (M : Mpt) (ledger : Ledger) : (call : StateCall) → call.Answer → Prop
  | .account address, answer => answer = .ok ((ledger (M.hashedAddress address)).trieAccount M)
  | .storage address slot, answer =>
    answer = if (ledger (M.hashedAddress address)).opened then .ok (ledger.slotAt M address slot)
      else .error (.trieWitnessError s!"storage trie missing for {M.showAddress address}")
  | .storageFromWitness address slot, answer => answer = .ok (ledger.slotAt M address slot)
  | .calculateStateRoot post, answer => ∃ root, answer = .ok root ∧ (ledger.applyPost M post).HasRoot M root

def Ledger.after (M : Mpt) (ledger : Ledger) : StateCall → Ledger
  | .account address => ledger.lookAt (M.hashedAddress address)
  | .storage _ _ => ledger
  | .storageFromWitness address _ => ledger.openAt (M.hashedAddress address)
  | .calculateStateRoot post => ledger.applyPost M post

def Ledger.run (M : Mpt) (ledger : Ledger) (calls : List StateCall) : Ledger := calls.foldl (Ledger.after M) ledger

theorem Ledger.Answers.unique {M : Mpt} {ledger : Ledger} {call : StateCall} {answer answer' : call.Answer}
    (h : ledger.Answers M call answer) (h' : ledger.Answers M call answer') : answer = answer' := by
  cases call with
  | account address => exact Eq.trans h (Eq.symm h')
  | storage address slot => exact Eq.trans h (Eq.symm h')
  | storageFromWitness address slot => exact Eq.trans h (Eq.symm h')
  | calculateStateRoot post =>
    obtain ⟨root, rfl, hRoot⟩ := h
    obtain ⟨root', rfl, hRoot'⟩ := h'
    rw [hRoot.unique hRoot']

namespace SparseState.Represents

variable {M : Mpt} {sparse : SparseState} {ledger : Ledger}

theorem perform (h : sparse.Represents M ledger) {call : StateCall} (hCall : call.WellFormed) :
    ledger.Answers M call (sparse.perform M call).1 ∧
      (sparse.perform M call).2.Represents M (ledger.after M call) := by
  cases call with
  | account address =>
    obtain ⟨sparse', hEq, hRep⟩ := h.account address
    rw [SparseState.perform, hEq]
    exact ⟨rfl, hRep⟩
  | storage address slot => exact ⟨h.storage address slot, h⟩
  | storageFromWitness address slot =>
    obtain ⟨sparse', hEq, hRep⟩ := h.storageFromWitness address slot
    rw [SparseState.perform, hEq]
    exact ⟨rfl, hRep⟩
  | calculateStateRoot post =>
    obtain ⟨root, sparse', hEq, hRoot, hRep⟩ := h.calculateStateRoot hCall
    rw [SparseState.perform, hEq]
    exact ⟨⟨root, rfl, hRoot⟩, hRep⟩

theorem run (calls : List StateCall) (hCalls : ∀ call ∈ calls, call.WellFormed) (h : sparse.Represents M ledger) :
    (sparse.run M calls).Represents M (ledger.run M calls) := by
  induction calls generalizing sparse ledger with
  | nil => exact h
  | cons call calls ih =>
    have hStep := h.perform (hCalls call List.mem_cons_self)
    exact ih (fun call hMem => hCalls call (List.mem_cons_of_mem _ hMem)) hStep.2

end SparseState.Represents

def SparseState.ledger (M : Mpt) (sparse : SparseState) : Ledger := fun address =>
  { account := (sparse.state.lookup address).map fun account =>
      { nonce := account.nonce
        balance := account.balance
        codeHash := account.codeHash
        storage := (M.storageFromPrehashed account.storageRoot sparse.rlpByDigest).toOption.getD ∅ }
    opened := false }

/-- The nodes are fully resolved: every storage root of the account trie, and the root of the empty trie,
opens to a map with that root. -/
structure Mpt.Resolves (M : Mpt) (sparse : SparseState) : Prop where
  empty : M.storageFromPrehashed M.emptyRootHash sparse.rlpByDigest = .ok ∅
  storage : ∀ address account, sparse.state.lookup address = some account →
    ∃ trie, M.storageFromPrehashed account.storageRoot sparse.rlpByDigest = .ok trie ∧
      M.storageHash trie = account.storageRoot

theorem SparseState.storages_newWithStatePool {M : Mpt} {witness : ExecutionWitness}
    {sharedStateNodes : List WitnessStateNode} {preStateRoot : B256} {sparse : SparseState}
    (h : newWithStatePool M witness sharedStateNodes preStateRoot = .ok sparse) : sparse.storages = ∅ := by
  obtain ⟨nodes, -, h⟩ := Outcome.bind_eq_ok_iff.mp h
  cases hState : M.stateFromPrehashed preStateRoot nodes with
  | error reason => rw [hState] at h; cases h
  | ok state => rw [hState] at h; cases h; rfl

theorem SparseState.represents_ledger {M : Mpt} {sparse : SparseState} (hStorages : sparse.storages = ∅)
    (hResolves : M.Resolves sparse) : sparse.Represents M (sparse.ledger M) where
  state address := by
    cases hAccount : sparse.state.lookup address with
    | none => simp [SparseState.ledger, Cell.trieAccount, hAccount]
    | some account =>
      obtain ⟨trie, hTrie, hRoot⟩ := hResolves.storage address account hAccount
      simp [SparseState.ledger, Cell.trieAccount, AccountState.trieAccount, hAccount, hTrie, Except.toOption, hRoot]
  storages address := by rw [hStorages]; rfl
  unopened address _ := by
    cases hAccount : sparse.state.lookup address with
    | none => simpa [SparseState.ledger, Cell.storageRoot, Cell.trieAccount, Cell.storage, hAccount] using hResolves.empty
    | some account =>
      obtain ⟨trie, hTrie, hRoot⟩ := hResolves.storage address account hAccount
      simp [SparseState.ledger, Cell.storageRoot, Cell.trieAccount, AccountState.trieAccount, Cell.storage, hAccount,
        hTrie, Except.toOption, hRoot]
  empty := hResolves.empty

structure HashedPostState.Same (post post' : HashedPostState) : Prop where
  accounts : post.accounts.entries.Perm post'.accounts.entries
  addresses : ∀ address, (post.storages.lookup address).isSome = (post'.storages.lookup address).isSome
  slots : ∀ address slots slots', post.storages.lookup address = some slots →
    post'.storages.lookup address = some slots' → slots.entries.Perm slots'.entries

variable {post post' : HashedPostState}

theorem HashedPostState.Same.changedStorage (h : post.Same post') (address : B256) (storage : TrieMap U256) :
    changedStorage storage (post.storages.lookup address) =
      Guest.changedStorage storage (post'.storages.lookup address) := by
  have hBoth := h.addresses address
  cases hSlots : post.storages.lookup address with
  | none =>
    cases hSlots' : post'.storages.lookup address with
    | none => rfl
    | some slots' => rw [hSlots, hSlots'] at hBoth; cases hBoth
  | some slots =>
    cases hSlots' : post'.storages.lookup address with
    | none => rw [hSlots, hSlots'] at hBoth; cases hBoth
    | some slots' =>
      exact editAll_congr slotValue slots.nodupKeys slots'.nodupKeys fun key =>
        AList.perm_lookup (h.slots address slots slots' hSlots hSlots')

theorem HashedPostState.Same.applyPost (h : post.Same post') (M : Mpt) (ledger : Ledger) :
    ledger.applyPost M post = ledger.applyPost M post' := by
  funext address
  have hAccounts : post.accounts.lookup address = post'.accounts.lookup address := AList.perm_lookup h.accounts
  rw [Ledger.applyPost, Ledger.applyPost, hAccounts]
  cases post'.accounts.lookup address with
  | none => simp only [Cell.apply, h.changedStorage]
  | some value =>
    cases value with
    | none => rfl
    | some account => simp only [Cell.apply, Cell.write, h.changedStorage]

theorem HashedPostState.Same.wellFormed (h : post.Same post') (hPost : post.WellFormed) :
    post'.WellFormed := by
  intro address hStorage
  rw [← h.addresses] at hStorage
  have hAccount := hPost address hStorage
  rwa [AList.perm_lookup h.accounts] at hAccount

/-- Every answer is the one of the ledger that the calls before it give, and the order in which a post state
is iterated changes neither its root nor any later answer. -/
theorem calculate_state_root_updates_the_ledger (M : Mpt) (witness : ExecutionWitness)
    (sharedStateNodes : List WitnessStateNode) (preStateRoot : B256) (sparse : SparseState)
    (hNew : SparseState.newWithStatePool M witness sharedStateNodes preStateRoot = .ok sparse)
    (hResolves : M.Resolves sparse) (calls : List StateCall) (hCalls : ∀ call ∈ calls, call.WellFormed) :
    (∀ call : StateCall, call.WellFormed →
      ((sparse.ledger M).run M calls).Answers M call ((sparse.run M calls).perform M call).1) ∧
    ∀ post post' : HashedPostState, post.WellFormed → post.Same post' →
      ((sparse.run M calls).calculateStateRoot M post).1 = ((sparse.run M calls).calculateStateRoot M post').1 ∧
      ∀ later : List StateCall, (∀ call ∈ later, call.WellFormed) → ∀ call : StateCall, call.WellFormed →
        ((((sparse.run M calls).calculateStateRoot M post).2.run M later).perform M call).1 =
          ((((sparse.run M calls).calculateStateRoot M post').2.run M later).perform M call).1 := by
  have hRun := (SparseState.represents_ledger (SparseState.storages_newWithStatePool hNew) hResolves).run calls hCalls
  refine ⟨fun call hCall => (hRun.perform hCall).1, fun post post' hPost hSame => ?_⟩
  -- both iterations lead to the same ledger, and a ledger fixes every answer
  obtain ⟨root, after, hRoot, hHasRoot, hRep⟩ := hRun.calculateStateRoot hPost
  obtain ⟨root', after', hRoot', hHasRoot', hRep'⟩ := hRun.calculateStateRoot (hSame.wellFormed hPost)
  rw [← hSame.applyPost] at hHasRoot' hRep'
  rw [hRoot, hRoot']
  refine ⟨by rw [hHasRoot.unique hHasRoot'], fun later hLater call hCall => ?_⟩
  exact ((hRep.run later hLater).perform hCall).1.unique ((hRep'.run later hLater).perform hCall).1

section Sample

def sampleStorage : TrieMap U256 := Finmap.singleton (sampleAlloy.keccak256 (wordBytes 3)) 9

def sampleTrieAccount : TrieAccount where
  nonce := 1
  balance := 100
  storageRoot := 5
  codeHash := sampleAlloy.keccak256 []

def sampleMpt : Mpt where
  toAlloy := sampleAlloy
  emptyRootHash := 0
  stateHash trie := if trie = ∅ then 0 else 1
  storageHash trie := if trie = ∅ then 0 else if trie = sampleStorage then 5 else 6
  stateFromPrehashed root _ :=
    if root = 1 then .ok (Finmap.singleton (sampleAlloy.keccak256 (beBytes 20 7)) sampleTrieAccount)
    else .error "unresolved"
  storageFromPrehashed root _ :=
    if root = 0 then .ok ∅ else if root = 5 then .ok sampleStorage else .error "unresolved"
  showAddress address := toString address.toNat
  showProviderError _ := "unresolved"

def sampleSparse : SparseState where
  state := Finmap.singleton (sampleAlloy.keccak256 (beBytes 20 7)) sampleTrieAccount
  storages := ∅
  rlpByDigest := digestMap sampleAlloy []

def unchangedPost : HashedPostState where
  accounts := ∅
  storages := ∅

theorem newWithStatePool_sample : SparseState.newWithStatePool sampleMpt {} [] 1 = .ok sampleSparse := rfl

theorem resolves_sample : sampleMpt.Resolves sampleSparse where
  empty := rfl
  storage address account hAccount := by
    have hMem : sampleSparse.state.lookup address =
        if address = sampleAlloy.keccak256 (beBytes 20 7) then some sampleTrieAccount else none :=
      (lookup_insert_eq_ite ∅ _ _ _)
    rw [hMem] at hAccount
    split at hAccount
    · cases hAccount
      exact ⟨sampleStorage, rfl, by decide +kernel⟩
    · cases hAccount

/-- After a post state has been written, the storage of an account that nobody looked at cannot be read:
the slot has the value 9, and the read fails. -/
theorem storage_read_needs_a_look :
    SparseState.newWithStatePool sampleMpt {} [] 1 = .ok sampleSparse ∧ sampleMpt.Resolves sampleSparse ∧
      unchangedPost.WellFormed ∧
      ((sampleSparse.ledger sampleMpt).run sampleMpt [.calculateStateRoot unchangedPost]).slotAt sampleMpt 7 3 = 9 ∧
      (sampleSparse.run sampleMpt [.calculateStateRoot unchangedPost]).storage sampleMpt 7 3 =
        .error (.trieWitnessError "storage trie missing for 7") := by
  refine ⟨newWithStatePool_sample, resolves_sample, ?_, by decide +kernel, by decide +kernel⟩
  intro address hStorage
  cases hStorage

def deletingPost : HashedPostState where
  accounts := AList.singleton (sampleAlloy.keccak256 (beBytes 20 7)) none
  storages := ∅

def recreatingPost : HashedPostState where
  accounts := AList.singleton (sampleAlloy.keccak256 (beBytes 20 7))
    (some { nonce := 0, balance := 1, bytecodeHash := none })
  storages := ∅

theorem storage_of_recreated_account :
    SparseState.newWithStatePool sampleMpt {} [] 1 = .ok sampleSparse ∧ sampleMpt.Resolves sampleSparse ∧
      (∀ call ∈ [StateCall.account 7, .calculateStateRoot deletingPost, .calculateStateRoot recreatingPost],
        call.WellFormed) ∧
      (sampleSparse.run sampleMpt
        [.account 7, .calculateStateRoot deletingPost, .calculateStateRoot recreatingPost]).storage sampleMpt 7 3 =
          .ok 0 := by
  have hCalls : ∀ call ∈ [StateCall.account 7, .calculateStateRoot deletingPost, .calculateStateRoot recreatingPost],
      call.WellFormed := by
    intro call hCall
    simp only [List.mem_cons, List.not_mem_nil, or_false] at hCall
    obtain rfl | rfl | rfl := hCall
    · trivial
    · rintro address ⟨⟩
    · rintro address ⟨⟩
  have hAnswers := (calculate_state_root_updates_the_ledger sampleMpt {} [] 1 sampleSparse newWithStatePool_sample
    resolves_sample _ hCalls).1 (.storage 7 3) trivial
  have hOpened : ((sampleSparse.ledger sampleMpt).run sampleMpt [.account 7, .calculateStateRoot deletingPost,
      .calculateStateRoot recreatingPost] (sampleMpt.hashedAddress 7)).opened = true := by decide +kernel
  have hSlot : ((sampleSparse.ledger sampleMpt).run sampleMpt [.account 7, .calculateStateRoot deletingPost,
      .calculateStateRoot recreatingPost]).slotAt sampleMpt 7 3 = 0 := by decide +kernel
  exact ⟨newWithStatePool_sample, resolves_sample, hCalls, Eq.trans hAnswers ((if_pos hOpened).trans (by rw [hSlot]))⟩

end Sample

end Raiko2.Guest
