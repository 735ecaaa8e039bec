import MixinKernel.Kernel

/-!
# Reading and loading the genesis record

`readGenesis` checks a parsed genesis record: seven nodes, and for each node an address that
parses back from its string, a balance of at least the pledge, an address not seen before,
and a view key derived from the spend key. What the `common` and `crypto` packages compute,
address strings, their parser, amounts as text and the key derivation, is a field of
`GenesisLib`, so every result holds whatever they compute.

The duplicate check reads `inputsFilter`, a map that nothing writes: it never fires.

`LoadGenesis` then turns an accepted record into the genesis snapshots, one per node, which
together issue exactly the record's balances: node `i` spends input `i` of the zero hash into
a pledge output and what its balance holds beyond the pledge into a second output. The network
id, `crypto.NewHash` of the record's JSON, and the address hashes are fields of
`LoadGenesisLib`; the snapshots' topological order, drawn from the node's counter, is left out.
-/

namespace MixinKernel.GenesisLoader

open MixinKernel.Common MixinKernel.Kernel

def minimumNodeCount : Nat := 7

def pledgeAmount : Nat := 10000

structure GenesisNode where
  address : Address
  /-- A `common.Integer`, in units of `10^-8`. -/
  balance : Nat
  deriving DecidableEq, Repr

/-- The `Genesis` record as `json.Unmarshal` parses it. -/
structure Genesis where
  epoch : Int
  nodes : List GenesisNode
  deriving DecidableEq, Repr

/-- What the genesis code calls in the `common` and `crypto` packages. -/
structure GenesisLib where
  /-- `Address.String()`. -/
  addressString : Address → String
  /-- `common.NewAddressFromString`. -/
  newAddressFromString : String → Except String Address
  /-- `Integer.String()`. -/
  integerString : Nat → String
  /-- `Key.String()`. -/
  keyString : Hash → String
  /-- `crypto.NewKeyFromSeed(seed || seed).Public()` with `seed = crypto.NewHash(spendKey)`. -/
  viewKeyOf : Hash → Hash

/-- One iteration of the check loop of `readGenesis`, with the loop's `inputsFilter`. -/
def checkGenesisInput (lib : GenesisLib) (inputsFilter : String → Bool) (input : GenesisNode) :
    Except String Unit := do
  let _ ← lib.newAddressFromString (lib.addressString input.address)
  if input.balance < newInteger pledgeAmount then
    throw s!"invalid genesis input amount {lib.integerString input.balance}"
  if inputsFilter (lib.addressString input.address) then
    throw s!"duplicated genesis inputs {lib.addressString input.address}"
  let privateView := lib.viewKeyOf input.address.publicSpendKey
  if privateView ≠ input.address.publicViewKey then
    throw s!"invalid node key format {lib.keyString privateView} {lib.keyString input.address.publicViewKey}"

/-- `readGenesis` from the parsed record on; nothing writes `inputsFilter`. -/
def readGenesis (lib : GenesisLib) (gns : Genesis) : Except String Genesis := do
  if gns.nodes.length ≠ minimumNodeCount then
    throw s!"invalid genesis inputs number {gns.nodes.length}/{minimumNodeCount}"
  let inputsFilter : String → Bool := fun _ => false
  gns.nodes.forM (checkGenesisInput lib inputsFilter)
  return gns

theorem forM_eq_ok {α ε : Type} (f : α → Except ε Unit) :
    ∀ l : List α, l.forM f = .ok () ↔ ∀ x ∈ l, f x = .ok ()
  | [] => by simp only [List.forM, List.not_mem_nil, false_implies, implies_true, iff_true]; rfl
  | x :: l => by
    simp only [List.forM, List.mem_cons, forall_eq_or_imp]
    cases h : f x with
    | error e => simp [h]
    | ok u => simp [h, forM_eq_ok f l]

theorem checkGenesisInput_ok_iff (lib : GenesisLib) (input : GenesisNode) :
    checkGenesisInput lib (fun _ => false) input = .ok () ↔
      (∃ a, lib.newAddressFromString (lib.addressString input.address) = .ok a) ∧
      newInteger pledgeAmount ≤ input.balance ∧
      lib.viewKeyOf input.address.publicSpendKey = input.address.publicViewKey := by
  unfold checkGenesisInput
  cases lib.newAddressFromString (lib.addressString input.address) with
  | error e => simp
  | ok a =>
    by_cases hb : input.balance < newInteger pledgeAmount
    · simp [hb]
    · by_cases hv : lib.viewKeyOf input.address.publicSpendKey = input.address.publicViewKey
      · simp [hb, hv]; omega
      · simp [hb, hv]

/-- The node checks `readGenesis` makes, and every other genesis check is on the count. -/
def ValidNode (lib : GenesisLib) (input : GenesisNode) : Prop :=
  (∃ a, lib.newAddressFromString (lib.addressString input.address) = .ok a) ∧
    newInteger pledgeAmount ≤ input.balance ∧
    lib.viewKeyOf input.address.publicSpendKey = input.address.publicViewKey

/-- What `readGenesis` accepts: seven valid nodes, with no condition between two of them. -/
theorem readGenesis_eq_ok_iff (lib : GenesisLib) (gns g : Genesis) :
    readGenesis lib gns = .ok g ↔
      g = gns ∧ gns.nodes.length = minimumNodeCount ∧ ∀ n ∈ gns.nodes, ValidNode lib n := by
  unfold readGenesis
  by_cases hn : gns.nodes.length = minimumNodeCount
  · simp only [hn, ne_eq, not_true_eq_false, if_false, pure_eq_ok, true_and]
    cases h : gns.nodes.forM (checkGenesisInput lib fun _ => false) with
    | error e =>
      have : ¬∀ n ∈ gns.nodes, ValidNode lib n := fun hall => by
        have := (forM_eq_ok _ _).mpr fun n hn => (checkGenesisInput_ok_iff lib n).mpr (hall n hn)
        rw [h] at this; cases this
      simp [this]
    | ok u =>
      have hall := fun n hn => (checkGenesisInput_ok_iff lib n).mp ((forM_eq_ok _ _).mp h n hn)
      simp only [ok_bind, Except.ok.injEq]
      exact ⟨fun h => ⟨h.symm, hall⟩, fun h => h.1.symm⟩
  · simp [hn]

/-- `readGenesis` accepts a record that lists one valid node seven times. -/
theorem readGenesis_accepts_repeated_node (lib : GenesisLib) (epoch : Int) (node : GenesisNode)
    (h : ValidNode lib node) :
    readGenesis lib ⟨epoch, List.replicate 7 node⟩ = .ok ⟨epoch, List.replicate 7 node⟩ ∧
      ¬((List.replicate 7 node).map (lib.addressString ·.address)).Nodup :=
  ⟨(readGenesis_eq_ok_iff _ _ _).mpr ⟨rfl, rfl, fun n hn => List.eq_of_mem_replicate hn ▸ h⟩,
    by simp [List.nodup_replicate]⟩

theorem readGenesis_accepts_repeated_node_seven_times :
    ValidNode ⟨fun a => toString a.publicSpendKey, fun _ => .ok ⟨0, 0⟩, toString, toString, id⟩
        ⟨⟨1, 1⟩, newInteger pledgeAmount⟩ ∧
      readGenesis ⟨fun a => toString a.publicSpendKey, fun _ => .ok ⟨0, 0⟩, toString, toString, id⟩
          ⟨0, List.replicate 7 ⟨⟨1, 1⟩, newInteger pledgeAmount⟩⟩ =
        .ok ⟨0, List.replicate 7 ⟨⟨1, 1⟩, newInteger pledgeAmount⟩⟩ ∧
      ¬((List.replicate 7 (⟨⟨1, 1⟩, newInteger pledgeAmount⟩ : GenesisNode)).map
        ((fun a : Address => toString a.publicSpendKey) ·.address)).Nodup :=
  have h : ValidNode ⟨fun a => toString a.publicSpendKey, fun _ => .ok ⟨0, 0⟩, toString, toString,
      id⟩ ⟨⟨1, 1⟩, newInteger pledgeAmount⟩ := ⟨⟨_, rfl⟩, le_rfl, rfl⟩
  ⟨h, readGenesis_accepts_repeated_node _ 0 _ h⟩

/-- What `LoadGenesis` calls beyond `readGenesis`. -/
structure LoadGenesisLib extends GenesisLib where
  /-- `crypto.NewHash(json.Marshal(gns))`. -/
  networkIdOf : Genesis → Hash
  /-- `Address.Hash()`. -/
  addressHash : Address → Hash
  /-- `Hash.ForNetwork(networkId)`. -/
  forNetwork : Hash → Hash → Hash
  /-- `Hash.String()`. -/
  hashString : Hash → String

/-- A genesis snapshot's fields, its topological order left out. -/
structure GenesisSnapshot where
  nodeId : Hash
  transaction : Transaction
  roundNumber : Nat
  timestamp : Nat
  deriving DecidableEq, Repr

/-- The store calls `LoadGenesis` makes; each returns whatever the store returns. -/
structure GenesisStore where
  /-- `StateGet("network", &state)`: the stored network id, `none` when there is none. -/
  stateGetNetwork : Except String (Option Hash)
  snapshotsLoadGenesis : List GenesisSnapshot → Except String Unit
  /-- `StateSet("network", state)`. -/
  stateSetNetwork : Hash → Except String Unit

structure GenesisNodeState where
  consensusNodes : List Address
  networkId : Hash
  idForNetwork : Hash
  deriving DecidableEq, Repr

/-- What `LoadGenesis` leaves: the node's fields, the snapshots it hands on, and its error. -/
structure GenesisLoad where
  node : GenesisNodeState
  loaded : Option (List GenesisSnapshot)
  result : Except String Unit

/-- `uint64(time.Unix(epoch, 0).UnixNano())`. -/
def genesisTimestamp (epoch : Int) : Nat := (epoch * 1000000000 % 2 ^ 64).toNat

def genesisTransaction (gns : Genesis) (i : Nat) (input : GenesisNode) :
    Except Fault Transaction := do
  let pledge : Output := ⟨.nodePledge, gns.nodes.length * 2 / 3 + 1, newInteger pledgeAmount,
    gns.nodes.map (·.address), (input.address, "NODEPLEDGE")⟩
  let remaining ← Integer.sub input.balance (newInteger pledgeAmount)
  let outputs := if remaining > 0 then
      [pledge, ⟨.script, 1, remaining, [input.address], (input.address, "NODEREMAINING")⟩]
    else [pledge]
  pure ⟨[⟨0, i, none⟩], outputs, some input.address.publicSpendKey⟩

/-- One iteration of the snapshot loop: node `i`'s transaction in a snapshot of round zero. -/
def genesisSnapshot (lib : LoadGenesisLib) (networkId : Hash) (gns : Genesis) (i : Nat)
    (input : GenesisNode) : Except Fault GenesisSnapshot := do
  let tx ← genesisTransaction gns i input
  pure ⟨lib.forNetwork (lib.addressHash input.address) networkId, tx, 0,
    genesisTimestamp gns.epoch⟩

def genesisSnapshots (lib : LoadGenesisLib) (networkId : Hash) (gns : Genesis) :
    Except Fault (List GenesisSnapshot) :=
  gns.nodes.enum.mapM fun x => genesisSnapshot lib networkId gns x.1 x.2

/-- `LoadGenesis` from the parsed record on; a zero `state.Id` stands for no state. -/
def loadGenesis (lib : LoadGenesisLib) (store : GenesisStore) (account : Address)
    (node : GenesisNodeState) (gns : Genesis) : Except Fault GenesisLoad :=
  match readGenesis lib.toGenesisLib gns with
  | .error err => pure ⟨node, none, .error err⟩
  | .ok gns => do
    let networkId := lib.networkIdOf gns
    let node : GenesisNodeState := ⟨node.consensusNodes ++ gns.nodes.map (·.address), networkId,
      lib.forNetwork (lib.addressHash account) networkId⟩
    match store.stateGetNetwork with
    | .error err => pure ⟨node, none, .error err⟩
    | .ok found =>
      if found.getD 0 = networkId then pure ⟨node, none, .ok ()⟩
      else match found with
        | some id => pure ⟨node, none, .error s!"invalid genesis for network {lib.hashString id}"⟩
        | none => do
          let snapshots ← genesisSnapshots lib networkId gns
          pure ⟨node, some snapshots, store.snapshotsLoadGenesis snapshots >>= fun _ =>
            store.stateSetNetwork networkId⟩

/-- Node `i`'s transaction spends input `i` of the zero hash and pays out exactly its balance. -/
structure PledgeTransaction (i : Nat) (input : GenesisNode) (tx : Transaction) : Prop where
  inputs : tx.inputs = [⟨0, i, none⟩]
  pledge : ∃ o ∈ tx.outputs.head?, o.type = .nodePledge ∧ o.amount = newInteger pledgeAmount
  second : tx.outputs.length = 2 ↔ newInteger pledgeAmount < input.balance
  length_le : tx.outputs.length ≤ 2
  script : ∀ o ∈ tx.outputs.tail, o.type = .script
  sum : (tx.outputs.map (·.amount)).sum = input.balance

theorem genesisTransaction_pledge (gns : Genesis) {input : GenesisNode} (i : Nat)
    (h : newInteger pledgeAmount ≤ input.balance) :
    ∃ tx, genesisTransaction gns i input = .ok tx ∧ PledgeTransaction i input tx := by
  simp only [genesisTransaction, Integer.sub_of_le h, ok_bind, pure_eq_ok]
  by_cases hr : 0 < input.balance - newInteger pledgeAmount
  · rw [if_pos hr]
    refine ⟨_, rfl, rfl, ⟨_, rfl, rfl, rfl⟩, iff_of_true rfl (by omega), le_rfl, by simp, ?_⟩
    rw [List.map_cons, List.map_cons, List.map_nil, List.sum_cons, List.sum_cons, List.sum_nil]
    dsimp only
    rw [Nat.add_zero]
    exact Nat.add_sub_of_le h
  · rw [if_neg hr]
    refine ⟨_, rfl, rfl, ⟨_, rfl, rfl, rfl⟩, iff_of_false (by simp) (by omega), by simp, by simp, ?_⟩
    rw [List.map_cons, List.map_nil, List.sum_cons, List.sum_nil]
    dsimp only
    omega

theorem mapM_getElem? {α β ε : Type} {f : α → Except ε β} (P : α → β → Prop) :
    ∀ {l : List α}, (∀ x ∈ l, ∃ y, f x = .ok y ∧ P x y) →
      ∃ ys : List β, l.mapM f = .ok ys ∧ ys.length = l.length ∧
        ∀ (i : Nat) x, l[i]? = some x → ∃ y, ys[i]? = some y ∧ P x y
  | [], _ => ⟨[], rfl, rfl, fun i x h => by simp at h⟩
  | x :: l, h => by
    obtain ⟨y, hy, hP⟩ := h x (List.mem_cons_self _ _)
    obtain ⟨ys, hys, hlen, hget⟩ := mapM_getElem? P fun x hx => h x (List.mem_cons_of_mem _ hx)
    refine ⟨y :: ys, by rw [List.mapM_cons, hy, hys]; rfl, by simp [hlen], ?_⟩
    rintro (_ | i) x' hx'
    · simp only [List.getElem?_cons_zero, Option.some.injEq] at hx'
      exact ⟨y, List.getElem?_cons_zero, hx' ▸ hP⟩
    · simpa using hget i x' (by simpa using hx')

theorem map_eq_enum_map {α β γ : Type} {l : List α} {ys : List β} {f : β → γ}
    {g : Nat → α → γ} (hlen : ys.length = l.length)
    (h : ∀ i x, l[i]? = some x → ∃ y, ys[i]? = some y ∧ f y = g i x) :
    ys.map f = l.enum.map fun x => g x.1 x.2 := by
  apply List.ext_getElem?
  intro i
  simp only [List.getElem?_map, List.getElem?_enum]
  cases hi : l[i]? with
  | none =>
    have : ys[i]? = none := by
      rw [List.getElem?_eq_none_iff] at hi ⊢
      omega
    simp [this]
  | some x =>
    obtain ⟨y, hy, hfy⟩ := h i x hi
    simp [hy, hfy]

theorem genesisSnapshots_ok (lib : LoadGenesisLib) (networkId : Hash) {gns : Genesis}
    (h : ∀ n ∈ gns.nodes, newInteger pledgeAmount ≤ n.balance) :
    ∃ snapshots, genesisSnapshots lib networkId gns = .ok snapshots ∧
      snapshots.length = gns.nodes.length ∧
      ∀ i n, gns.nodes[i]? = some n → ∃ s, snapshots[i]? = some s ∧
        s.nodeId = lib.forNetwork (lib.addressHash n.address) networkId ∧ s.roundNumber = 0 ∧
        s.timestamp = genesisTimestamp gns.epoch ∧ PledgeTransaction i n s.transaction := by
  obtain ⟨ys, hys, hlen, hget⟩ := mapM_getElem?
    (f := fun x => genesisSnapshot lib networkId gns x.1 x.2) (l := gns.nodes.enum)
    (fun x s => s.nodeId = lib.forNetwork (lib.addressHash x.2.address) networkId ∧
      s.roundNumber = 0 ∧ s.timestamp = genesisTimestamp gns.epoch ∧
      PledgeTransaction x.1 x.2 s.transaction)
    fun x hx => by
      obtain ⟨tx, htx, hp⟩ := genesisTransaction_pledge gns x.1
        (h x.2 (List.snd_mem_of_mem_enum hx))
      simp only [genesisSnapshot, htx, ok_bind, pure_eq_ok]
      exact ⟨_, rfl, rfl, rfl, rfl, hp⟩
  exact ⟨ys, hys, by simpa using hlen,
    fun i n hn => hget i (i, n) (by simp [List.getElem?_enum, hn])⟩

/-- With a stored network id `LoadGenesis` loads nothing, and errs on an id not its own. -/
theorem loadGenesis_of_stored (lib : LoadGenesisLib) (store : GenesisStore) (account : Address)
    (node : GenesisNodeState) {gns : Genesis} {id : Hash}
    (hread : readGenesis lib.toGenesisLib gns = .ok gns)
    (hstate : store.stateGetNetwork = .ok (some id)) :
    loadGenesis lib store account node gns =
      .ok ⟨⟨node.consensusNodes ++ gns.nodes.map (·.address), lib.networkIdOf gns,
        lib.forNetwork (lib.addressHash account) (lib.networkIdOf gns)⟩, none,
        if id = lib.networkIdOf gns then .ok ()
        else .error s!"invalid genesis for network {lib.hashString id}"⟩ := by
  simp only [loadGenesis, hread, hstate, Option.getD_some]
  split <;> rfl

/-- A record whose network id were zero would read as loaded already. -/
theorem loadGenesis_of_networkId_zero (lib : LoadGenesisLib) (store : GenesisStore)
    (account : Address) (node : GenesisNodeState) {gns : Genesis}
    (hread : readGenesis lib.toGenesisLib gns = .ok gns)
    (hstate : store.stateGetNetwork = .ok none) (h0 : lib.networkIdOf gns = 0) :
    loadGenesis lib store account node gns =
      .ok ⟨⟨node.consensusNodes ++ gns.nodes.map (·.address), 0,
        lib.forNetwork (lib.addressHash account) 0⟩, none, .ok ()⟩ := by
  simp only [loadGenesis, hread, hstate, Option.getD_none, h0, if_true, pure_eq_ok]

def exampleGenesisLib : LoadGenesisLib :=
  ⟨⟨fun a => toString a.publicSpendKey, fun _ => .ok ⟨0, 0⟩, toString, toString, id⟩,
    fun _ => 1, (·.publicSpendKey), (· + ·), toString⟩

/-- Seven nodes, node `i` with `i` units beyond the pledge. -/
def exampleGenesis : Genesis :=
  ⟨0, (List.range 7).map fun i => ⟨⟨i, i⟩, newInteger pledgeAmount + i⟩⟩

def emptyGenesisStore : GenesisStore := ⟨.ok none, fun _ => .ok (), fun _ => .ok ()⟩

/-- `LoadGenesis` hands on one snapshot per genesis node, together issuing the balances. -/
theorem loadGenesis_issues_declared_balances (lib : LoadGenesisLib) (store : GenesisStore)
    (account : Address) (node : GenesisNodeState) (gns : Genesis)
    (hread : readGenesis lib.toGenesisLib gns = .ok gns)
    (hstate : store.stateGetNetwork = .ok none) (hnet : lib.networkIdOf gns ≠ 0) :
    ∃ snapshots, loadGenesis lib store account node gns =
        .ok ⟨⟨node.consensusNodes ++ gns.nodes.map (·.address), lib.networkIdOf gns,
          lib.forNetwork (lib.addressHash account) (lib.networkIdOf gns)⟩, some snapshots,
          store.snapshotsLoadGenesis snapshots >>= fun _ =>
            store.stateSetNetwork (lib.networkIdOf gns)⟩ ∧
      snapshots.length = gns.nodes.length ∧
      (∀ i n, gns.nodes[i]? = some n → ∃ s, snapshots[i]? = some s ∧
        s.nodeId = lib.forNetwork (lib.addressHash n.address) (lib.networkIdOf gns) ∧
        PledgeTransaction i n s.transaction) ∧
      (snapshots.flatMap fun s => s.transaction.inputs.map (·.index)).Nodup ∧
      (snapshots.map fun s => (s.transaction.outputs.map (·.amount)).sum).sum =
        (gns.nodes.map (·.balance)).sum := by
  have hvalid : ∀ n ∈ gns.nodes, newInteger pledgeAmount ≤ n.balance := fun n hn =>
    (((readGenesis_eq_ok_iff _ _ _).mp hread).2.2 n hn).2.1
  obtain ⟨snapshots, hs, hlen, hget⟩ := genesisSnapshots_ok lib (lib.networkIdOf gns) hvalid
  have hinputs : (snapshots.map fun s => s.transaction.inputs.map (·.index)) =
      gns.nodes.enum.map fun x => [x.1] :=
    map_eq_enum_map (g := fun i _ => [i]) hlen fun i n hn => by
      obtain ⟨s, hs, -, -, -, hp⟩ := hget i n hn
      exact ⟨s, hs, by simp [hp.inputs]⟩
  have hsums : (snapshots.map fun s => (s.transaction.outputs.map (·.amount)).sum) =
      gns.nodes.enum.map fun x => x.2.balance :=
    map_eq_enum_map (g := fun _ n => n.balance) hlen fun i n hn => by
      obtain ⟨s, hs, -, -, -, hp⟩ := hget i n hn
      exact ⟨s, hs, hp.sum⟩
  refine ⟨snapshots, ?_, hlen, fun i n hn => ?_, ?_, ?_⟩
  · simp only [loadGenesis, hread, hstate, Option.getD_none, if_neg (Ne.symm hnet), hs, ok_bind,
      pure_eq_ok]
  · obtain ⟨s, hs, hid, -, -, hp⟩ := hget i n hn
    exact ⟨s, hs, hid, hp⟩
  · have : (snapshots.flatMap fun s => s.transaction.inputs.map (·.index)) =
        List.range gns.nodes.length := by
      rw [List.flatMap, hinputs, show (fun x : Nat × GenesisNode => [x.1]) =
        (fun i => [i]) ∘ Prod.fst from rfl, ← List.map_map, List.enum_map_fst]
      exact List.flatMap_singleton' _
    rw [this]
    exact List.nodup_range _
  · rw [hsums, show (fun x : Nat × GenesisNode => x.2.balance) = (·.balance) ∘ Prod.snd from rfl,
      ← List.map_map, List.enum_map_snd]

theorem loadGenesis_issues_declared_balances_of_example :
    readGenesis exampleGenesisLib.toGenesisLib exampleGenesis = .ok exampleGenesis ∧
      emptyGenesisStore.stateGetNetwork = .ok none ∧
      exampleGenesisLib.networkIdOf exampleGenesis ≠ 0 ∧
      ∃ snapshots, loadGenesis exampleGenesisLib emptyGenesisStore ⟨0, 0⟩ ⟨[], 0, 0⟩ exampleGenesis =
          .ok ⟨⟨[] ++ exampleGenesis.nodes.map (·.address),
            exampleGenesisLib.networkIdOf exampleGenesis,
            exampleGenesisLib.forNetwork (exampleGenesisLib.addressHash ⟨0, 0⟩)
              (exampleGenesisLib.networkIdOf exampleGenesis)⟩, some snapshots,
            emptyGenesisStore.snapshotsLoadGenesis snapshots >>= fun _ =>
              emptyGenesisStore.stateSetNetwork (exampleGenesisLib.networkIdOf exampleGenesis)⟩ ∧
        snapshots.length = exampleGenesis.nodes.length ∧
        (∀ i n, exampleGenesis.nodes[i]? = some n → ∃ s, snapshots[i]? = some s ∧
          s.nodeId = exampleGenesisLib.forNetwork (exampleGenesisLib.addressHash n.address)
            (exampleGenesisLib.networkIdOf exampleGenesis) ∧
          PledgeTransaction i n s.transaction) ∧
        (snapshots.flatMap fun s => s.transaction.inputs.map (·.index)).Nodup ∧
        (snapshots.map fun s => (s.transaction.outputs.map (·.amount)).sum).sum =
          (exampleGenesis.nodes.map (·.balance)).sum :=
  ⟨rfl, rfl, by decide,
    loadGenesis_issues_declared_balances _ _ _ _ _ rfl rfl (by decide)⟩

end MixinKernel.GenesisLoader
