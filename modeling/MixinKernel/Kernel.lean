import MixinKernel.Common

/-!
# The node, its store and its transactions

What the mint code reads: the node's epoch, network and mint window, its accepted kernel
nodes and consensus threshold, and the store's mint distributions, node works, round spaces,
domains and custodian. What the `crypto`, `config` and `storage` packages return is a field
of the node or the store, so every result holds whatever they return.

A transaction keeps what its payload hash covers and the code sets: the inputs, and for
each output its type, script threshold, amount, accounts and the seed its keys are derived
from, as the hashed text.
-/

namespace MixinKernel.Kernel

open MixinKernel.Common

/-- A 32-byte hash or curve point, as a number. -/
abbrev Hash := Nat

structure Address where
  publicSpendKey : Hash
  publicViewKey : Hash
  deriving DecidableEq, Repr

structure CNode where
  idForNetwork : Hash
  signer : Address
  payee : Address
  deriving DecidableEq, Repr

/-- A node's kernel mint share: `CNode` with its `Work`. -/
structure CNodeWork extends CNode where
  work : Nat
  deriving DecidableEq, Repr

structure MintDistribution where
  group : String
  batch : Nat
  amount : Nat
  deriving DecidableEq, Repr

def mintGroupKernelNode : String := "KERNELNODE"
def mintGroupUniversal : String := "UNIVERSAL"

theorem mintGroupKernelNode_ne_universal : mintGroupKernelNode ≠ mintGroupUniversal := by
  decide

/-- The store's mint distributions, in increasing batch order as the store keys them. -/
structure MintLedger where
  records : List MintDistribution
  sorted : records.Pairwise (fun a b => a.batch < b.batch)

namespace MintLedger

def empty : MintLedger := ⟨[], List.Pairwise.nil⟩

/-- Modelled from the spec: `ReadLastMintDistribution(^uint64(0))`; batch 0 before any mint. -/
def readLastMintDistribution (l : MintLedger) : MintDistribution :=
  l.records.getLast?.getD ⟨"", 0, 0⟩

/-- Modelled from the spec: `ReadMintDistributions(offset, count)` from batch `offset` on. -/
def readMintDistributions (l : MintLedger) (offset count : Nat) : List MintDistribution :=
  (l.records.filter fun r => offset ≤ r.batch).take count

theorem batch_le_last (l : MintLedger) {r : MintDistribution} (hr : r ∈ l.records) :
    r.batch ≤ l.readLastMintDistribution.batch := by
  obtain ⟨records, sorted⟩ := l
  induction records using List.reverseRecOn with
  | nil => simp at hr
  | append_singleton init last _ =>
    simp only [readLastMintDistribution, List.getLast?_concat, Option.getD_some]
    rcases List.mem_append.mp hr with hr | hr
    · exact (List.pairwise_append.mp sorted).2.2 r hr last (List.mem_singleton_self _) |>.le
    · rw [List.mem_singleton.mp hr]

/-- A new latest record: what persisting a mint snapshot appends. -/
def appendMint (l : MintLedger) (r : MintDistribution)
    (h : l.readLastMintDistribution.batch < r.batch) : MintLedger :=
  ⟨l.records ++ [r], List.pairwise_append.mpr ⟨l.sorted, List.pairwise_singleton _ _,
    fun a ha b hb => by rw [List.mem_singleton.mp hb]; exact (l.batch_le_last ha).trans_lt h⟩⟩

@[simp] theorem appendMint_records (l : MintLedger) (r : MintDistribution) (h) :
    (l.appendMint r h).records = l.records ++ [r] := rfl

@[simp] theorem readLastMintDistribution_appendMint (l : MintLedger) (r : MintDistribution) (h) :
    (l.appendMint r h).readLastMintDistribution = r := by
  simp [readLastMintDistribution, List.getLast?_concat]

theorem readLastMintDistribution_mem {l : MintLedger} (hne : l.records ≠ []) :
    l.readLastMintDistribution ∈ l.records := by
  simp only [readLastMintDistribution, List.getLast?_eq_getLast l.records hne, Option.getD_some]
  exact List.getLast_mem hne

theorem readMintDistributions_pred {l : MintLedger} {b : Nat}
    (h : l.readLastMintDistribution.batch < b) :
    l.readMintDistributions (b - 1) 1 =
      if l.records ≠ [] ∧ l.readLastMintDistribution.batch + 1 = b then
        [l.readLastMintDistribution] else [] := by
  obtain ⟨records, sorted⟩ := l
  induction records using List.reverseRecOn with
  | nil => simp [readMintDistributions]
  | append_singleton init last _ =>
    have hinit : ∀ r ∈ init, r.batch < last.batch := fun r hr =>
      (List.pairwise_append.mp sorted).2.2 r hr last (List.mem_singleton_self _)
    simp only [readLastMintDistribution, List.getLast?_concat, Option.getD_some] at h ⊢
    simp only [readMintDistributions, List.filter_append, ne_eq, List.append_eq_nil,
      List.cons_ne_nil, and_false, not_false_eq_true, true_and]
    rw [List.filter_eq_nil_iff.mpr (fun r hr => by have := hinit r hr; simp; omega)]
    split_ifs with hb
    · simp [List.filter, hb]
    · simp [List.filter, show ¬b ≤ last.batch + 1 by omega]

theorem readMintDistributions_appendMint (l : MintLedger) (r : MintDistribution) (h)
    {offset : Nat} (hne : l.records ≠ []) (hoff : offset ≤ l.readLastMintDistribution.batch) :
    (l.appendMint r h).readMintDistributions offset 1 = l.readMintDistributions offset 1 := by
  have hf : l.records.filter (fun r => offset ≤ r.batch) ≠ [] := fun he =>
    absurd hoff (by simpa using List.filter_eq_nil_iff.mp he _ (readLastMintDistribution_mem hne))
  obtain ⟨x, xs, hx⟩ := List.exists_cons_of_ne_nil hf
  simp only [readMintDistributions, appendMint_records, List.filter_append, hx]
  rfl

end MintLedger

/-- `common.RoundSpace`; the mint code reads only its batch. -/
structure RoundSpace where
  batch : Nat
  deriving DecidableEq, Repr

structure Domain where
  account : Address
  deriving DecidableEq, Repr

structure CustodianUpdateRequest where
  custodian : Address
  deriving DecidableEq, Repr

inductive OutputType where
  | script
  | nodePledge
  deriving DecidableEq, Repr

structure Output where
  type : OutputType
  /-- The threshold byte of the script `OperatorCmp OperatorSum threshold`. -/
  script : Nat
  amount : Nat
  accounts : List Address
  /-- The seed of the output's keys and mask: `NewHash(account.String() + label)`. -/
  seed : Address × String
  deriving DecidableEq, Repr

structure MintData where
  group : String
  batch : Nat
  amount : Nat
  deriving DecidableEq, Repr

structure Input where
  hash : Hash
  index : Nat
  mint : Option MintData
  deriving DecidableEq, Repr

structure Transaction where
  inputs : List Input
  outputs : List Output
  extra : Option Hash
  deriving DecidableEq, Repr

/-- A versioned transaction; `PayloadHash` hashes its `payload`. -/
structure VersionedTransaction where
  payload : Transaction
  deriving DecidableEq, Repr

/-- The mint input's data, as `ReadMintDistributions` records it once persisted. -/
def VersionedTransaction.mintRecord (tx : VersionedTransaction) : MintDistribution :=
  match tx.payload.inputs with
  | ⟨_, _, some mint⟩ :: _ => ⟨mint.group, mint.batch, mint.amount⟩
  | _ => ⟨"", 0, 0⟩

structure Store where
  mintDistributions : MintLedger
  listNodeWorks : List Hash → Nat → Except String (List (Hash × Nat × Nat))
  readNodeRoundSpacesForBatch : Hash → Nat → Except String (List RoundSpace)
  listAggregatedRoundSpaceCheckpoints : List Hash → Except String (List RoundSpace)
  readDomains : List Domain
  readCustodian : Nat → Except String (Option CustodianUpdateRequest)

/-- What the mint code reads from its node and from the packages around it. -/
structure Node where
  epoch : Nat
  isMainnet : Bool
  idForNetwork : Hash
  /-- `config.KernelMintTimeBegin` and `config.KernelMintTimeEnd`. -/
  kernelMintTimeBegin : Nat
  kernelMintTimeEnd : Nat
  /-- `NodesListWithoutState(timestamp, true)`. -/
  nodesListWithoutState : Nat → List CNode
  /-- `ConsensusThreshold(timestamp, false)`. -/
  consensusThreshold : Nat → Nat
  /-- `common.NewAddressFromSeed(make([]byte, 64))`. -/
  zeroSeedAddress : Address
  /-- `TransactionMintWorkHacks`, decoded: the pinned legacy transaction of a batch. -/
  transactionMintWorkHacks : Nat → Option VersionedTransaction
  /-- `buildMintTransactionV1(timestamp, validateOnly)`. -/
  buildMintTransactionV1 : Nat → Bool → Except Fault (Option VersionedTransaction)

/-- Seven kernel nodes; node `i` has id `i` and signs and is paid at keys `(i, i)`. -/
def sevenNodes : List CNode := (List.range 7).map fun i => ⟨i, ⟨i, i⟩, ⟨i, i⟩⟩

/-- A node that mints all day, accepts `sevenNodes` with threshold five and pins nothing. -/
def exampleNode (epoch : Nat) (mainnet : Bool) : Node where
  epoch := epoch
  isMainnet := mainnet
  idForNetwork := 0
  kernelMintTimeBegin := 0
  kernelMintTimeEnd := 23
  nodesListWithoutState := fun _ => sevenNodes
  consensusThreshold := fun _ => 5
  zeroSeedAddress := ⟨0, 0⟩
  transactionMintWorkHacks := fun _ => none
  buildMintTransactionV1 := fun _ _ => .ok none

/-- A store with no mints, one produced snapshot a day per node and every checkpoint. -/
def exampleStore : Store where
  mintDistributions := MintLedger.empty
  listNodeWorks := fun cids _ => .ok (cids.map fun id => (id, 1, 0))
  readNodeRoundSpacesForBatch := fun _ _ => .ok []
  listAggregatedRoundSpaceCheckpoints := fun cids => .ok (cids.map fun _ => ⟨1000000⟩)
  readDomains := [⟨⟨100, 100⟩⟩]
  readCustodian := fun _ => .ok none

def legacyLedger (batch amount : Nat) : MintLedger :=
  ⟨[⟨mintGroupKernelNode, batch, amount⟩], List.pairwise_singleton _ _⟩

def universalLedger (batch amount : Nat) : MintLedger :=
  ⟨[⟨mintGroupUniversal, batch, amount⟩], List.pairwise_singleton _ _⟩

/-- `exampleStore` with the mints of `ledger` and a custodian. -/
def custodianStore (ledger : MintLedger) : Store :=
  { exampleStore with
    mintDistributions := ledger
    readCustodian := fun _ => .ok (some ⟨⟨100, 100⟩⟩) }

end MixinKernel.Kernel
