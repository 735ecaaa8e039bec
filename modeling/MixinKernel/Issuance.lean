import MixinKernel.Build

/-!
# Issuance over runs of mints

A run appends one mint record after another. A legacy mint has the batch and amount the
legacy gate returns against the last record, and comes while every record is legacy. A
universal mint has the universal gate's batch and amount, as `tryToSlashLegacyLightPool`
leaves it: on mainnet from the V3 fork, credited at the switch from legacy mints.

Over every run the minted total through each record stays within what the universal
schedule has issued by its batch, and within the legacy schedule's while every mint so far
is legacy, so it stays below `MintPool`. The catch-up of missed days keeps the bound since
the daily issue never grows; the switch keeps it since the credit is exactly the legacy
schedule's shortfall, and the slash grants it only right after the last legacy batch.
-/

namespace MixinKernel.Issuance

open MixinKernel.Common MixinKernel.Pool MixinKernel.Kernel MixinKernel.Gate MixinKernel.Build
  MixinKernel.Distribute

/-- Every record is a legacy one. -/
def allLegacy (records : List MintDistribution) : Prop :=
  ∀ r ∈ records, r.group = mintGroupKernelNode

/-- What the records mint together. -/
def minted (records : List MintDistribution) : Nat := (records.map (·.amount)).sum

/-- One mint a node can append to its ledger, at some timestamp. -/
inductive MintStep (node : Node) (l : MintLedger) : MintDistribution → Prop
  | legacy {timestamp b A : Nat} (hall : allLegacy l.records)
      (hg : checkLegacyMintPossibility node l timestamp false = .ok (b, A)) (hb : 0 < b) :
      MintStep node l ⟨mintGroupKernelNode, b, A⟩
  | universal {timestamp b A : Nat} {mint : MintData}
      (hg : checkUniversalMintPossibility node l timestamp false = .ok (b, A)) (hb : 0 < b)
      (hs : tryToSlashLegacyLightPool node l b ⟨mintGroupUniversal, b, A⟩ = .ok mint) :
      MintStep node l ⟨mint.group, mint.batch, mint.amount⟩

theorem MintStep.batch_lt {node : Node} {l : MintLedger} {r : MintDistribution}
    (h : MintStep node l r) : l.readLastMintDistribution.batch < r.batch := by
  cases h with
  | legacy _ hg hb => exact (checkLegacyMintPossibility_new hg hb).2.1
  | universal hg hb hs =>
    rcases tryToSlashLegacyLightPool_ok hs with rfl | ⟨_, _, rfl⟩ <;>
      exact (checkUniversalMintPossibility_new hg hb).2.1

/-- The ledgers a node's mints build from an empty store. -/
inductive Reachable (node : Node) : MintLedger → Prop
  | empty : Reachable node MintLedger.empty
  | step {l : MintLedger} {r : MintDistribution} (hl : Reachable node l)
      (hs : MintStep node l r) : Reachable node (l.appendMint r hs.batch_lt)

/-- The schedule bound on `records`, minted through a record of batch `b`. -/
def WithinSchedule (records : List MintDistribution) (b : Nat) : Prop :=
  minted records ≤ universalIssued b ∧ (allLegacy records → minted records ≤ legacyIssued b)

structure Inv (l : MintLedger) : Prop where
  groups : ∀ r ∈ l.records, r.group = mintGroupKernelNode ∨ r.group = mintGroupUniversal
  legacy_first : l.readLastMintDistribution.group = mintGroupKernelNode → allLegacy l.records
  last : WithinSchedule l.records l.readLastMintDistribution.batch
  prefixes : ∀ pre r suf, l.records = pre ++ r :: suf → WithinSchedule (pre ++ [r]) r.batch

@[simp] theorem minted_append_singleton (records : List MintDistribution)
    (r : MintDistribution) : minted (records ++ [r]) = minted records + r.amount := by
  simp [minted]

theorem inv_empty : Inv MintLedger.empty where
  groups _ h := nomatch h
  legacy_first h := nomatch h
  last := ⟨Nat.zero_le _, fun _ => Nat.zero_le _⟩
  prefixes pre _ _ h := by simp [MintLedger.empty] at h

theorem append_singleton_eq_append_cons {α : Type} {l pre suf : List α} {x r : α}
    (h : l ++ [x] = pre ++ r :: suf) :
    (pre = l ∧ r = x ∧ suf = []) ∨ ∃ suf', suf = suf' ++ [x] ∧ l = pre ++ r :: suf' := by
  rcases List.eq_nil_or_concat suf with rfl | ⟨s, y, rfl⟩
  · obtain ⟨h1, h2⟩ := List.append_inj' h rfl
    exact .inl ⟨h1.symm, (List.singleton_inj.mp h2).symm, rfl⟩
  · rw [List.concat_eq_append, ← List.cons_append, ← List.append_assoc] at h
    obtain ⟨h1, h2⟩ := List.append_inj' h rfl
    rw [List.singleton_inj.mp h2]
    exact .inr ⟨s, List.concat_eq_append _ _, h1⟩

theorem MintStep.group_cases {node : Node} {l : MintLedger} {r : MintDistribution}
    (hs : MintStep node l r) :
    (r.group = mintGroupKernelNode ∧ allLegacy l.records) ∨ r.group = mintGroupUniversal := by
  cases hs with
  | legacy hall => exact .inl ⟨rfl, hall⟩
  | universal _ _ hs =>
    rcases tryToSlashLegacyLightPool_ok hs with rfl | ⟨_, _, rfl⟩ <;> exact .inr rfl

theorem not_allLegacy_universal (records : List MintDistribution) {r : MintDistribution}
    (hr : r.group = mintGroupUniversal) : ¬allLegacy (records ++ [r]) := fun h =>
  mintGroupKernelNode_ne_universal
    ((h r (List.mem_append_right _ (List.mem_singleton_self _))).symm.trans hr)

/-- The record a step appends keeps the bound through it. -/
theorem MintStep.withinSchedule {node : Node} {l : MintLedger} {r : MintDistribution}
    (hi : Inv l) (hs : MintStep node l r) : WithinSchedule (l.records ++ [r]) r.batch := by
  cases hs with
  | @legacy timestamp b A hall hg hb =>
    obtain ⟨-, hlt, rfl⟩ := checkLegacyMintPossibility_new hg hb
    have hL := hi.last.2 hall
    have := legacyIssued_catchUp hlt.le
    have := legacyIssued_le_universalIssued b
    simp only [WithinSchedule, minted_append_singleton]
    omega
  | universal hg hb hs =>
    obtain ⟨-, hlt, rfl⟩ := checkUniversalMintPossibility_new hg hb
    refine ⟨?_, fun hall => absurd hall (not_allLegacy_universal _ ?_)⟩
    · rcases tryToSlashLegacyLightPool_cases hlt hs with rfl | ⟨-, -, hne, hnext, hgroup, rfl⟩
      · have := universalIssued_catchUp hlt.le
        have := hi.last.1
        simp only [minted_append_singleton]
        omega
      · have hK := (hi.groups _ (MintLedger.readLastMintDistribution_mem hne)).resolve_right hgroup
        have hL := hi.last.2 (hi.legacy_first hK)
        have hstep := universalIssued_step l.readLastMintDistribution.batch
        have := legacyIssued_le_universalIssued l.readLastMintDistribution.batch
        subst hnext
        simp only [minted_append_singleton, Nat.add_sub_cancel, Nat.add_sub_cancel_left, Nat.mul_one]
        omega
    · rcases tryToSlashLegacyLightPool_ok hs with rfl | ⟨_, _, rfl⟩ <;> rfl

theorem Inv.step {node : Node} {l : MintLedger} {r : MintDistribution} (hi : Inv l)
    (hs : MintStep node l r) : Inv (l.appendMint r hs.batch_lt) where
  groups x hx := by
    rcases List.mem_append.mp hx with hx | hx
    · exact hi.groups x hx
    · rw [List.mem_singleton.mp hx]
      exact hs.group_cases.imp And.left id
  legacy_first hK := by
    rw [MintLedger.readLastMintDistribution_appendMint] at hK
    rcases hs.group_cases with ⟨-, hall⟩ | hU
    · intro x hx
      rcases List.mem_append.mp hx with hx | hx
      · exact hall x hx
      · rw [List.mem_singleton.mp hx]; exact hK
    · exact absurd (hK.symm.trans hU) mintGroupKernelNode_ne_universal
  last := by
    rw [MintLedger.readLastMintDistribution_appendMint]
    exact hs.withinSchedule hi
  prefixes pre x suf h := by
    rw [MintLedger.appendMint_records] at h
    rcases append_singleton_eq_append_cons h with ⟨rfl, rfl, -⟩ | ⟨suf', -, h'⟩
    · exact hs.withinSchedule hi
    · exact hi.prefixes pre x suf' h'

theorem Reachable.inv {node : Node} {l : MintLedger} (h : Reachable node l) : Inv l := by
  induction h with
  | empty => exact inv_empty
  | step _ hs ih => exact ih.step hs

/-- Over every run batches increase and each record's running total stays within the schedule. -/
theorem issuance_within_pool (node : Node) (l : MintLedger) (hl : Reachable node l) :
    l.records.Pairwise (fun a b => a.batch < b.batch) ∧ (l.records.map (·.batch)).Nodup ∧
    ∀ pre r suf, l.records = pre ++ r :: suf →
      (∃ u, poolSizeUniversal r.batch = .ok u ∧ minted (pre ++ [r]) ≤ mintPool - u) ∧
      (allLegacy (pre ++ [r]) →
        ∃ p, poolSizeLegacy r.batch = .ok p ∧ minted (pre ++ [r]) ≤ mintPool - p) ∧
      minted (pre ++ [r]) < mintPool := by
  refine ⟨l.sorted, List.pairwise_map.mpr (l.sorted.imp Nat.ne_of_lt), fun pre r suf h => ?_⟩
  obtain ⟨hU, hL⟩ := hl.inv.prefixes pre r suf h
  have hlt := universalIssued_lt r.batch
  have hle := legacyIssued_le_universalIssued r.batch
  refine ⟨⟨_, poolSizeUniversal_eq _, by omega⟩,
    fun hall => ⟨_, poolSizeLegacy_eq _, by have := hL hall; omega⟩, by omega⟩

theorem issuance_within_pool_legacy_then_universal :
    Reachable (exampleNode 0 false) ⟨[⟨mintGroupKernelNode, 1, 12328767117⟩,
        ⟨mintGroupUniversal, 2, 13698630136⟩], by decide⟩ ∧
      ((⟨[⟨mintGroupKernelNode, 1, 12328767117⟩, ⟨mintGroupUniversal, 2, 13698630136⟩],
          by decide⟩ : MintLedger).records.Pairwise (fun a b => a.batch < b.batch) ∧
        ((⟨[⟨mintGroupKernelNode, 1, 12328767117⟩, ⟨mintGroupUniversal, 2, 13698630136⟩],
          by decide⟩ : MintLedger).records.map (·.batch)).Nodup ∧
        ∀ pre r suf, (⟨[⟨mintGroupKernelNode, 1, 12328767117⟩,
            ⟨mintGroupUniversal, 2, 13698630136⟩], by decide⟩ : MintLedger).records =
              pre ++ r :: suf →
          (∃ u, poolSizeUniversal r.batch = .ok u ∧ minted (pre ++ [r]) ≤ mintPool - u) ∧
          (allLegacy (pre ++ [r]) →
            ∃ p, poolSizeLegacy r.batch = .ok p ∧ minted (pre ++ [r]) ≤ mintPool - p) ∧
          minted (pre ++ [r]) < mintPool) :=
  have h : Reachable (exampleNode 0 false) ⟨[⟨mintGroupKernelNode, 1, 12328767117⟩,
      ⟨mintGroupUniversal, 2, 13698630136⟩], by decide⟩ :=
    .step (.step .empty (@MintStep.legacy _ _ (dayNanos + 3600000000000 * 5) 1 12328767117
      (fun _ h => nomatch h) (by rfl) (by decide)))
      (@MintStep.universal _ _ (dayNanos * 2 + 3600000000000 * 5) 2 13698630136
        ⟨mintGroupUniversal, 2, 13698630136⟩ (by rfl) (by decide) (by rfl))
  ⟨h, issuance_within_pool _ _ h⟩

/-- `node.PoolSize()`: the pool of the last record's group at its batch. -/
def poolSize (l : MintLedger) : Except Fault Nat :=
  if l.readLastMintDistribution.group = mintGroupKernelNode then
    poolSizeLegacy l.readLastMintDistribution.batch
  else poolSizeUniversal l.readLastMintDistribution.batch

/-- Over every run, the pool the node reports and the minted total stay within `MintPool`. -/
theorem Reachable.minted_add_poolSize_le {node : Node} {l : MintLedger} (hl : Reachable node l) :
    ∃ p, poolSize l = .ok p ∧ minted l.records + p ≤ mintPool := by
  have hi := hl.inv
  have hlt := universalIssued_lt l.readLastMintDistribution.batch
  unfold poolSize
  split
  · rename_i hK
    have := hi.last.2 (hi.legacy_first hK)
    have := legacyIssued_le_universalIssued l.readLastMintDistribution.batch
    exact ⟨_, poolSizeLegacy_eq _, by omega⟩
  · have := hi.last.1
    exact ⟨_, poolSizeUniversal_eq _, by omega⟩

theorem poolSize_eq (l : MintLedger) :
    poolSize l = .ok (mintPool - if l.readLastMintDistribution.group = mintGroupKernelNode
      then legacyIssued l.readLastMintDistribution.batch
      else universalIssued l.readLastMintDistribution.batch) := by
  unfold poolSize
  split <;> rename_i h <;> simp [h, poolSizeLegacy_eq, poolSizeUniversal_eq]

theorem universalIssued_zero : universalIssued 0 = 0 := by
  simp [universalIssued_eq, yearPool]

/-- Every admitted mint, the switch from legacy included, lowers the reported pool or keeps it. -/
theorem MintStep.poolSize_never_grows {node : Node} {l : MintLedger} {r : MintDistribution}
    (hs : MintStep node l r) :
    ∃ p p', poolSize l = .ok p ∧ poolSize (l.appendMint r hs.batch_lt) = .ok p' ∧ p' ≤ p := by
  refine ⟨_, _, poolSize_eq l, poolSize_eq _, ?_⟩
  rw [MintLedger.readLastMintDistribution_appendMint]
  have hU := (Nat.le_add_right _ _).trans (universalIssued_catchUp hs.batch_lt.le)
  have hL := (Nat.le_add_right _ _).trans (legacyIssued_catchUp hs.batch_lt.le)
  have hLU := legacyIssued_le_universalIssued l.readLastMintDistribution.batch
  rcases hs.group_cases with ⟨hr, hall⟩ | hr
  · rw [if_pos hr]
    by_cases hne : l.records = []
    · simp [MintLedger.readLastMintDistribution, hne, mintGroupKernelNode, universalIssued_zero]
    · rw [if_pos (hall _ (MintLedger.readLastMintDistribution_mem hne))]
      omega
  · rw [if_neg (hr ▸ mintGroupKernelNode_ne_universal.symm)]
    split <;> omega

theorem MintStep.poolSize_never_grows_at_switch :
    MintStep (exampleNode 0 false) (legacyLedger 1 12328767117)
        ⟨mintGroupUniversal, 3, 27397260272⟩ ∧
      ∃ p p', poolSize (legacyLedger 1 12328767117) = .ok p ∧
        poolSize ((legacyLedger 1 12328767117).appendMint ⟨mintGroupUniversal, 3, 27397260272⟩
          (by decide)) = .ok p' ∧ p' ≤ p :=
  have hg : checkUniversalMintPossibility (exampleNode 0 false) (legacyLedger 1 12328767117)
      (dayNanos * 3 + 3600000000000 * 5) false = .ok (3, 27397260272) := rfl
  have hsl : tryToSlashLegacyLightPool (exampleNode 0 false) (legacyLedger 1 12328767117) 3
      ⟨mintGroupUniversal, 3, 27397260272⟩ = .ok ⟨mintGroupUniversal, 3, 27397260272⟩ := rfl
  have hs : MintStep (exampleNode 0 false) (legacyLedger 1 12328767117)
      ⟨mintGroupUniversal, 3, 27397260272⟩ := .universal hg (by decide) hsl
  ⟨hs, MintStep.poolSize_never_grows hs⟩

/-- `node.PledgeAmount(ts)`, whose `int64` duration wraps `2^63` nanoseconds past the epoch. -/
def Node.pledgeAmount (node : Node) (ts : Nat) : Except Fault Nat :=
  if ts < node.epoch then Pool.pledgeAmount 0
  else
    let since := ts - node.epoch
    Pool.pledgeAmount (if since < 2 ^ 63 then since else 0)

theorem Node.pledgeAmount_of_lt (node : Node) {ts : Nat} (h : ts < node.epoch + 2 ^ 63) :
    Node.pledgeAmount node ts =
      Pool.pledgeAmount (if ts < node.epoch then 0 else ts - node.epoch) := by
  simp only [Node.pledgeAmount]
  split_ifs <;> first | rfl | omega

theorem Node.pledgeAmount_first_year (node : Node) {ts : Nat}
    (h : ts < node.epoch + 365 * dayNanos) :
    Node.pledgeAmount node ts = .ok (mintLiquidity / mintNodeMaximum) := by
  unfold dayNanos at h
  have hyear : (if ts < node.epoch then 0 else ts - node.epoch) / 3600000000000 / 24 / 365 = 0 := by
    split_ifs <;> omega
  rw [Node.pledgeAmount_of_lt node (by omega), pledgeAmount_eq, hyear]
  simp [yearPool]

/-- Within `2^63` nanoseconds of the epoch the pledge never panics and never falls. -/
theorem Node.pledgeAmount_monotone (node : Node) {ts ts' : Nat} (h : ts ≤ ts')
    (h' : ts' < node.epoch + 2 ^ 63) :
    ∃ p p', Node.pledgeAmount node ts = .ok p ∧ Node.pledgeAmount node ts' = .ok p' ∧
      mintLiquidity / mintNodeMaximum ≤ p ∧ p ≤ p' ∧
      p' ≤ (mintLiquidity + mintPool) / mintNodeMaximum := by
  obtain ⟨p, p', hp, hp', hle, hmax⟩ := pledgeAmount_mono
    (show (if ts < node.epoch then 0 else ts - node.epoch) ≤
      (if ts' < node.epoch then 0 else ts' - node.epoch) by split_ifs <;> omega)
  refine ⟨p, p', (Node.pledgeAmount_of_lt node (by omega)).trans hp,
    (Node.pledgeAmount_of_lt node h').trans hp', ?_, hle, hmax⟩
  rw [pledgeAmount_eq, Except.ok.injEq] at hp
  exact hp ▸ Nat.div_le_div_right (Nat.le_add_right _ _)

theorem Node.pledgeAmount_monotone_over_a_year :
    0 ≤ 400 * dayNanos ∧ 400 * dayNanos < dayNanos + 2 ^ 63 ∧
      ∃ p p', Node.pledgeAmount (exampleNode dayNanos true) 0 = .ok p ∧
        Node.pledgeAmount (exampleNode dayNanos true) (400 * dayNanos) = .ok p' ∧
        mintLiquidity / mintNodeMaximum ≤ p ∧ p ≤ p' ∧
        p' ≤ (mintLiquidity + mintPool) / mintNodeMaximum :=
  ⟨Nat.zero_le _, by decide, Node.pledgeAmount_monotone _ (Nat.zero_le _) (by decide)⟩

-- The bound is needed: `2^63` nanoseconds after the epoch the duration wraps, and the pledge
-- falls back to the epoch's.
example (node : Node) :
    ∃ p, Node.pledgeAmount node (node.epoch + 2 ^ 63 - 1) = .ok p ∧
      Node.pledgeAmount node (node.epoch + 2 ^ 63) = .ok (mintLiquidity / mintNodeMaximum) ∧
      mintLiquidity / mintNodeMaximum < p := by
  have hyear : yearPool ((2 ^ 63 - 1) / 3600000000000 / 24 / 365) ≤ 45000000000000 :=
    yearPool_antitone (k := 1) (by decide)
  refine ⟨(mintLiquidity + (mintPool - yearPool ((2 ^ 63 - 1) / 3600000000000 / 24 / 365))) /
    mintNodeMaximum, ?_, ?_, ?_⟩
  · rw [Node.pledgeAmount_of_lt node (by omega), if_neg (by omega),
      show node.epoch + 2 ^ 63 - 1 - node.epoch = 2 ^ 63 - 1 by omega]
    exact pledgeAmount_eq _
  · simp [Node.pledgeAmount, pledgeAmount_eq, yearPool]
  · rw [show mintLiquidity = 50000000000000 from rfl, show mintPool = 50000000000000 from rfl,
      show mintNodeMaximum = 50 from rfl]
    omega

theorem MintStep.of_buildUniversalMintTransaction {node : Node} {store : Store}
    {cur : Option CustodianUpdateRequest} {timestamp : Nat} {tx : VersionedTransaction}
    (h : buildUniversalMintTransaction node store cur timestamp false = .ok (some tx)) :
    MintStep node store.mintDistributions tx.mintRecord := by
  obtain ⟨b, A, -, mint, hg, hb, -, -, hs, hrec⟩ := buildUniversalMintTransaction_admitted h
  rw [hrec]
  exact .universal hg hb hs

theorem MintStep.of_buildLegacyKerneNodeMintTransaction {node : Node} {store : Store}
    {timestamp b A : Nat} {tx : VersionedTransaction}
    (hall : allLegacy store.mintDistributions.records)
    (hg : checkLegacyMintPossibility node store.mintDistributions timestamp false = .ok (b, A))
    (hm : node.isMainnet = true →
      node.transactionMintWorkHacks b = none ∧ mainnetMintTransactionV2ForkBatch ≤ b)
    (h : buildLegacyKerneNodeMintTransaction node store timestamp false = .ok (some tx)) :
    MintStep node store.mintDistributions tx.mintRecord := by
  have hpos := buildLegacyKerneNodeMintTransaction_pos hg h
  rw [buildLegacyKerneNodeMintTransaction_eq hg hpos.1 hpos.2 hm] at h
  split at h <;> cases h
  exact .legacy hall hg hpos.1

/-- The ledgers a node's own mint transactions build from an empty store. -/
inductive Built (node : Node) : MintLedger → Prop
  | empty : Built node MintLedger.empty
  | universal {store : Store} {cur : Option CustodianUpdateRequest} {timestamp : Nat}
      {tx : VersionedTransaction} (hl : Built node store.mintDistributions)
      (h : buildUniversalMintTransaction node store cur timestamp false = .ok (some tx)) :
      Built node (store.mintDistributions.appendMint tx.mintRecord
        (MintStep.of_buildUniversalMintTransaction h).batch_lt)
  | legacy {store : Store} {timestamp b A : Nat} {tx : VersionedTransaction}
      (hl : Built node store.mintDistributions) (hall : allLegacy store.mintDistributions.records)
      (hg : checkLegacyMintPossibility node store.mintDistributions timestamp false = .ok (b, A))
      (hm : node.isMainnet = true →
        node.transactionMintWorkHacks b = none ∧ mainnetMintTransactionV2ForkBatch ≤ b)
      (h : buildLegacyKerneNodeMintTransaction node store timestamp false = .ok (some tx)) :
      Built node (store.mintDistributions.appendMint tx.mintRecord
        (MintStep.of_buildLegacyKerneNodeMintTransaction hall hg hm h).batch_lt)

/-- The builders refine the model: every ledger the node's own mints build is reachable. -/
theorem Built.reachable {node : Node} {l : MintLedger} (h : Built node l) : Reachable node l := by
  induction h with
  | empty => exact .empty
  | universal _ h ih => exact .step ih (MintStep.of_buildUniversalMintTransaction h)
  | legacy _ hall hg hm h ih =>
    exact .step ih (MintStep.of_buildLegacyKerneNodeMintTransaction hall hg hm h)

/-- Over every run of the node's own mints, minted and reported pool stay within `MintPool`. -/
theorem Built.poolSize_le {node : Node} {l : MintLedger} (h : Built node l) :
    ∃ p, poolSize l = .ok p ∧ minted l.records + p ≤ mintPool :=
  h.reachable.minted_add_poolSize_le

theorem Built.poolSize_le_after_day_two :
    ∃ tx, ∃ h : buildUniversalMintTransaction (exampleNode 0 false) exampleStore none (dayNanos * 2 + 3600000000000 * 5) false =
        .ok (some tx),
      Built (exampleNode 0 false) (exampleStore.mintDistributions.appendMint tx.mintRecord
        (MintStep.of_buildUniversalMintTransaction h).batch_lt) ∧
      ∃ p, poolSize (exampleStore.mintDistributions.appendMint tx.mintRecord
          (MintStep.of_buildUniversalMintTransaction h).batch_lt) = .ok p ∧
        minted (exampleStore.mintDistributions.appendMint tx.mintRecord
          (MintStep.of_buildUniversalMintTransaction h).batch_lt).records + p ≤ mintPool :=
  have hbuild : ∃ tx, buildUniversalMintTransaction (exampleNode 0 false) exampleStore none
      (dayNanos * 2 + 3600000000000 * 5) false = .ok (some tx) := ⟨_, rfl⟩
  let ⟨tx, h⟩ := hbuild
  have hl : Built (exampleNode 0 false) (exampleStore.mintDistributions.appendMint tx.mintRecord
      (MintStep.of_buildUniversalMintTransaction h).batch_lt) := .universal .empty h
  ⟨tx, h, hl, Built.poolSize_le hl⟩

end MixinKernel.Issuance
