import MixinKernel.Gate
import MixinKernel.Distribute

/-!
# Mint transaction builders

`buildUniversalMintTransaction`, `tryToSlashLegacyLightPool`,
`buildLegacyKerneNodeMintTransaction` and `validateMintSnapshot`. The universal mint gives
half of its amount to the kernel nodes by work, two fifths to the custodian and the rest to
the light pool; on mainnet from the V3 fork batch on, the first universal mint after a
legacy one is credited with what the legacy schedule held back from the light pool. The
legacy mint gives its whole amount to the kernel nodes, and the rounding remainder to a
`DIFF` output.
-/

namespace MixinKernel.Build

open MixinKernel.Common MixinKernel.Pool MixinKernel.Kernel MixinKernel.Gate
  MixinKernel.Distribute

/-- `tx.AddScriptOutput` of a threshold script, seeded `NewHash(account.String() + label)`. -/
def scriptOutput (accounts : List Address) (threshold amount : Nat) (account : Address)
    (label : String) : Output :=
  ⟨.script, threshold, amount, accounts, (account, label)⟩

/-- `common.Operator64`, the script threshold no key set reaches. -/
def operator64 : Nat := 64

def kernelNodeOutput (batch : Nat) (m : CNodeWork) : Output :=
  scriptOutput [m.payee] 1 m.work m.signer s!"MINTKERNELNODE{batch}"

/-- A transaction with one mint input, universal or legacy. -/
def mintTransaction (mint : MintData) (outputs : List Output) : VersionedTransaction :=
  ⟨⟨[⟨0, 0, some mint⟩], outputs, none⟩⟩

def tryToSlashLegacyLightPool (node : Node) (ledger : MintLedger) (batch : Nat)
    (mint : MintData) : Except Fault MintData := do
  if !node.isMainnet ∨ batch < mainnetMintTransactionV3ForkBatch then return mint
  match ledger.readMintDistributions (batch - 1) 1 with
  | [] => throw (.panic indexOutOfRange)
  | m :: _ =>
    if m.batch + 1 ≠ batch then
      let mb := m.batch
      throw (.panic s!"tryToSlashLegacyLightPool {mb} {batch}")
    if m.group = mint.group then return mint
    let old := m.batch
    let lightSlash ← Integer.sub (← poolSizeLegacy old) (← poolSizeUniversal old)
    return { mint with amount := mint.amount + lightSlash }

def buildUniversalMintTransaction (node : Node) (store : Store)
    (custodianRequest : Option CustodianUpdateRequest) (timestamp : Nat) (validateOnly : Bool) :
    Except Fault (Option VersionedTransaction) := do
  let (batch, amount) ←
    checkUniversalMintPossibility node store.mintDistributions timestamp validateOnly
  if amount = 0 ∨ batch = 0 then return none
  let kernel := amount / 10 * 5
  let accepted := node.nodesListWithoutState timestamp
  match distributeKernelMintByWorks node store accepted kernel timestamp with
  | .error (.error _) => return none
  | .error (.panic msg) => throw (.panic msg)
  | .ok mints =>
    let kernelOutputs := mints.map (kernelNodeOutput batch)
    let total := (mints.map (·.work)).sum
    if total > amount then throw (.panic s!"buildUniversalMintTransaction {amount} {total}")
    let safe := amount / 10 * 4
    let custodian ← match store.readDomains with
      | [] => throw (.panic indexOutOfRange)
      | d :: _ => pure d.account
    let custodian := match custodianRequest with
      | some r => r.custodian
      | none => custodian
    let custodianOutput :=
      scriptOutput [custodian] 1 safe custodian s!"MINTCUSTODIANACCOUNT{batch}"
    let total := total + safe
    if total > amount then throw (.panic s!"buildUniversalMintTransaction {amount} {total}")
    let mint ← tryToSlashLegacyLightPool node store.mintDistributions batch
      ⟨mintGroupUniversal, batch, amount⟩
    let amount := mint.amount
    let light ← Integer.sub amount total
    let addr := node.zeroSeedAddress
    let lightOutput := scriptOutput [addr] operator64 light addr s!"MINTLIGHTACCOUNT{batch}"
    return some (mintTransaction mint (kernelOutputs ++ [custodianOutput, lightOutput]))

def buildLegacyKerneNodeMintTransaction (node : Node) (store : Store) (timestamp : Nat)
    (validateOnly : Bool) : Except Fault (Option VersionedTransaction) := do
  let (batch, amount) ←
    checkLegacyMintPossibility node store.mintDistributions timestamp validateOnly
  if amount = 0 ∨ batch = 0 then return none
  if let some ver := node.transactionMintWorkHacks batch then
    if node.isMainnet then return some ver
  if node.isMainnet ∧ batch < mainnetMintTransactionV2ForkBatch then
    return ← node.buildMintTransactionV1 timestamp validateOnly
  let accepted := node.nodesListWithoutState timestamp
  match distributeKernelMintByWorks node store accepted amount timestamp with
  | .error (.error _) => return none
  | .error (.panic msg) => throw (.panic msg)
  | .ok mints =>
    let kernelOutputs := mints.map (kernelNodeOutput batch)
    let total := (mints.map (·.work)).sum
    if total > amount then
      throw (.panic s!"buildLegacyKerneNodeMintTransaction {amount} {total}")
    let diff ← Integer.sub amount total
    let addr := node.zeroSeedAddress
    let diffOutputs :=
      if diff > 0 then [scriptOutput [addr] operator64 diff addr s!"MINTKERNELNODE{batch}DIFF"]
      else []
    return some (mintTransaction ⟨mintGroupKernelNode, batch, amount⟩
      (kernelOutputs ++ diffOutputs))

/-- Rebuild the mint of the snapshot's time with `validateOnly` and compare the payloads. -/
def validateMintSnapshot (node : Node) (store : Store) (snapTimestamp : Nat) (snapNodeId : Hash)
    (now : Nat) (tx : VersionedTransaction) : Except Fault Unit := do
  let timestamp := if snapTimestamp = 0 ∧ snapNodeId = node.idForNetwork then now
    else snapTimestamp
  let cur ← liftError (store.readCustodian timestamp)
  let signed ← if cur.isNone ∧ node.isMainnet then do
      match ← buildLegacyKerneNodeMintTransaction node store timestamp true with
      | none => throw (.error s!"no legacy mint available at {timestamp}")
      | some signed => pure signed
    else do
      match ← buildUniversalMintTransaction node store cur timestamp true with
      | none => throw (.error s!"no universal mint available at {timestamp}")
      | some signed => pure signed
  if tx.payload ≠ signed.payload then
    throw (.error s!"malformed mint transaction at {timestamp}")

@[simp] theorem scriptOutput_amount (accounts : List Address) (threshold amount : Nat)
    (account : Address) (label : String) :
    (scriptOutput accounts threshold amount account label).amount = amount := rfl

@[simp] theorem kernelNodeOutput_amount (batch : Nat) (m : CNodeWork) :
    (kernelNodeOutput batch m).amount = m.work := rfl

@[simp] theorem mintTransaction_outputs (mint : MintData) (outputs : List Output) :
    (mintTransaction mint outputs).payload.outputs = outputs := rfl

theorem mintTransaction_outputs_sum (mint : MintData) (b : Nat) (mints : List CNodeWork)
    (rest : List Output) :
    ((mintTransaction mint (mints.map (kernelNodeOutput b) ++ rest)).payload.outputs.map
      (·.amount)).sum = (mints.map (·.work)).sum + (rest.map (·.amount)).sum := by
  simp [Function.comp_def]

/-- The switchover credit: the light pool the legacy schedule held back by batch `old`. -/
theorem lightSlash_eq (old : Nat) :
    Integer.sub (mintPool - legacyIssued old) (mintPool - universalIssued old) =
      .ok (universalIssued old - legacyIssued old) := by
  have := legacyIssued_le_universalIssued old
  have := universalIssued_lt old
  rw [Integer.sub_of_le (by omega)]
  congr 1
  omega

theorem tryToSlashLegacyLightPool_of_not {node : Node} {l : MintLedger} {batch : Nat}
    {mint : MintData} (h : ¬(node.isMainnet = true ∧ mainnetMintTransactionV3ForkBatch ≤ batch)) :
    tryToSlashLegacyLightPool node l batch mint = .ok mint := by
  have : ((!node.isMainnet) = true ∨ batch < mainnetMintTransactionV3ForkBatch) := by
    cases hm : node.isMainnet <;> simp_all
  simp only [tryToSlashLegacyLightPool, this, if_true, pure_eq_ok]

/-- From the V3 fork the slash reads only the batch before; `Batch+1 != batch` never fires. -/
theorem tryToSlashLegacyLightPool_eq {node : Node} {l : MintLedger} {batch : Nat}
    {mint : MintData} (hm : node.isMainnet = true)
    (hb : mainnetMintTransactionV3ForkBatch ≤ batch)
    (hlt : l.readLastMintDistribution.batch < batch) :
    tryToSlashLegacyLightPool node l batch mint =
      if l.records ≠ [] ∧ l.readLastMintDistribution.batch + 1 = batch then
        .ok (if l.readLastMintDistribution.group = mint.group then mint
          else { mint with amount := mint.amount + (universalIssued (batch - 1) -
            legacyIssued (batch - 1)) })
      else .error (.panic indexOutOfRange) := by
  have hv : ¬((!node.isMainnet) = true ∨ batch < mainnetMintTransactionV3ForkBatch) := by
    simp [hm]; omega
  simp only [tryToSlashLegacyLightPool, hv, if_false, MintLedger.readMintDistributions_pred hlt,
    pure_eq_ok, ok_bind]
  by_cases h : l.records ≠ [] ∧ l.readLastMintDistribution.batch + 1 = batch
  · have hold : l.readLastMintDistribution.batch = batch - 1 := by omega
    rw [if_pos h, if_pos h]
    simp only [h.2, ne_eq, not_true_eq_false, if_false, pure_eq_ok, ok_bind]
    split_ifs
    · rfl
    · rw [hold, poolSizeLegacy_eq, poolSizeUniversal_eq, ok_bind, ok_bind, lightSlash_eq, ok_bind]
  · rw [if_neg h, if_neg h]
    rfl

theorem tryToSlashLegacyLightPool_ok {node : Node} {l : MintLedger} {batch : Nat}
    {mint m : MintData} (h : tryToSlashLegacyLightPool node l batch mint = .ok m) :
    m = mint ∨ ∃ old, old + 1 = batch ∧
      m = { mint with amount := mint.amount + (universalIssued old - legacyIssued old) } := by
  unfold tryToSlashLegacyLightPool at h
  simp only [pure_eq_ok, ok_bind, throw_eq_error, error_bind] at h
  split_ifs at h with h1
  · exact .inl (Except.ok.inj h).symm
  split at h
  · cases h
  rename_i r _ _
  split_ifs at h with h2
  · exact .inl (Except.ok.inj h).symm
  · rw [poolSizeLegacy_eq, poolSizeUniversal_eq, ok_bind, ok_bind, lightSlash_eq, ok_bind] at h
    exact .inr ⟨r.batch, by omega, (Except.ok.inj h).symm⟩

theorem tryToSlashLegacyLightPool_amount_le {node : Node} {l : MintLedger} {batch : Nat}
    {mint m : MintData} (h : tryToSlashLegacyLightPool node l batch mint = .ok m) :
    mint.amount ≤ m.amount := by
  rcases tryToSlashLegacyLightPool_ok h with rfl | ⟨_, _, rfl⟩
  · exact le_rfl
  · exact Nat.le_add_right _ _

theorem tryToSlashLegacyLightPool_cases {node : Node} {l : MintLedger} {b A : Nat}
    {mint : MintData} (hlt : l.readLastMintDistribution.batch < b)
    (hs : tryToSlashLegacyLightPool node l b ⟨mintGroupUniversal, b, A⟩ = .ok mint) :
    mint = ⟨mintGroupUniversal, b, A⟩ ∨
      (node.isMainnet = true ∧ mainnetMintTransactionV3ForkBatch ≤ b ∧ l.records ≠ [] ∧
        l.readLastMintDistribution.batch + 1 = b ∧
        l.readLastMintDistribution.group ≠ mintGroupUniversal ∧
        mint = ⟨mintGroupUniversal, b, A + (universalIssued (b - 1) - legacyIssued (b - 1))⟩) := by
  by_cases hc : node.isMainnet = true ∧ mainnetMintTransactionV3ForkBatch ≤ b
  · rw [tryToSlashLegacyLightPool_eq hc.1 hc.2 hlt] at hs
    by_cases hcond : l.records ≠ [] ∧ l.readLastMintDistribution.batch + 1 = b
    · rw [if_pos hcond, Except.ok.injEq] at hs
      split_ifs at hs with hg
      · exact .inl hs.symm
      · exact .inr ⟨hc.1, hc.2, hcond.1, hcond.2, hg, hs.symm⟩
    · rw [if_neg hcond] at hs
      cases hs
  · rw [tryToSlashLegacyLightPool_of_not hc, Except.ok.injEq] at hs
    exact .inl hs.symm

theorem tryToSlashLegacyLightPool_appendMint {node : Node} {l : MintLedger} {r : MintDistribution}
    {h} {batch : Nat} {mint : MintData} (hne : l.records ≠ [])
    (hb : l.readLastMintDistribution.batch + 1 = batch) :
    tryToSlashLegacyLightPool node (l.appendMint r h) batch mint =
      tryToSlashLegacyLightPool node l batch mint := by
  unfold tryToSlashLegacyLightPool
  rw [MintLedger.readMintDistributions_appendMint l r h hne (by omega)]

/-- For an admitted batch the slash completes exactly after a record of the batch before. -/
theorem tryToSlashLegacyLightPool_of_admitted (node : Node) (l : MintLedger)
    (timestamp b A : Nat) (mint : MintData) (hm : node.isMainnet = true)
    (hb : mainnetMintTransactionV3ForkBatch ≤ b)
    (hg : checkUniversalMintPossibility node l timestamp false = .ok (b, A)) :
    (l.records ≠ [] ∧ l.readLastMintDistribution.batch + 1 = b →
      ∃ m, tryToSlashLegacyLightPool node l b mint = .ok m) ∧
    (¬(l.records ≠ [] ∧ l.readLastMintDistribution.batch + 1 = b) →
      tryToSlashLegacyLightPool node l b mint = .error (.panic indexOutOfRange)) := by
  have hb0 : 0 < b := lt_of_lt_of_le (by decide) hb
  rw [tryToSlashLegacyLightPool_eq hm hb (checkUniversalMintPossibility_new hg hb0).2.1]
  exact ⟨fun h => ⟨_, if_pos h⟩, fun h => if_neg h⟩

/-- An admitted universal mint fails only on an empty domain list or in the slash. -/
theorem buildUniversalMintTransaction_eq {node : Node} {store : Store}
    {cur : Option CustodianUpdateRequest} {timestamp b A : Nat} {v : Bool}
    (hg : checkUniversalMintPossibility node store.mintDistributions timestamp v = .ok (b, A)) :
    buildUniversalMintTransaction node store cur timestamp v =
      if A = 0 ∨ b = 0 then .ok none else
      match distributeKernelMintByWorks node store (node.nodesListWithoutState timestamp)
          (A / 10 * 5) timestamp with
      | .error (.error _) => .ok none
      | .error (.panic msg) => .error (.panic msg)
      | .ok mints =>
        match store.readDomains with
        | [] => .error (.panic indexOutOfRange)
        | d :: _ =>
          let custodian := match cur with
            | some r => r.custodian
            | none => d.account
          (tryToSlashLegacyLightPool node store.mintDistributions b
            ⟨mintGroupUniversal, b, A⟩).map fun mint =>
            some (mintTransaction mint (mints.map (kernelNodeOutput b) ++
              [scriptOutput [custodian] 1 (A / 10 * 4) custodian s!"MINTCUSTODIANACCOUNT{b}",
               scriptOutput [node.zeroSeedAddress] operator64
                (mint.amount - ((mints.map (·.work)).sum + A / 10 * 4)) node.zeroSeedAddress
                s!"MINTLIGHTACCOUNT{b}"])) := by
  simp only [buildUniversalMintTransaction, hg, ok_bind, pure_eq_ok]
  by_cases hz : A = 0 ∨ b = 0
  · simp only [if_pos hz]
  rw [if_neg hz, if_neg hz]
  split <;> rename_i hd <;> simp only [hd, throw_eq_error]
  rename_i mints
  have hsum := distributeKernelMintByWorks_sum_le hd
  simp only [show ¬(mints.map (·.work)).sum > A by omega,
    show ¬(mints.map (·.work)).sum + A / 10 * 4 > A by omega, if_false]
  cases store.readDomains with
  | nil => rfl
  | cons d _ =>
    simp only [ok_bind]
    cases hs : tryToSlashLegacyLightPool node store.mintDistributions b
        ⟨mintGroupUniversal, b, A⟩ with
    | error e => rfl
    | ok mint =>
      have : A ≤ mint.amount := tryToSlashLegacyLightPool_amount_le hs
      rw [ok_bind, Integer.sub_of_le (by omega)]
      rfl

theorem buildUniversalMintTransaction_of_mints {node : Node} {store : Store}
    {cur : Option CustodianUpdateRequest} {timestamp b A : Nat} {v : Bool}
    {mints : List CNodeWork}
    (hg : checkUniversalMintPossibility node store.mintDistributions timestamp v = .ok (b, A))
    (hb : 0 < b) (hA : 0 < A)
    (hd : distributeKernelMintByWorks node store (node.nodesListWithoutState timestamp)
      (A / 10 * 5) timestamp = .ok mints) :
    buildUniversalMintTransaction node store cur timestamp v =
      match store.readDomains with
      | [] => .error (.panic indexOutOfRange)
      | d :: _ =>
        let custodian := match cur with
          | some r => r.custodian
          | none => d.account
        (tryToSlashLegacyLightPool node store.mintDistributions b
          ⟨mintGroupUniversal, b, A⟩).map fun mint =>
          some (mintTransaction mint (mints.map (kernelNodeOutput b) ++
            [scriptOutput [custodian] 1 (A / 10 * 4) custodian s!"MINTCUSTODIANACCOUNT{b}",
             scriptOutput [node.zeroSeedAddress] operator64
              (mint.amount - ((mints.map (·.work)).sum + A / 10 * 4)) node.zeroSeedAddress
              s!"MINTLIGHTACCOUNT{b}"])) := by
  rw [buildUniversalMintTransaction_eq hg, if_neg (by omega), hd]

theorem buildUniversalMintTransaction_admitted {node : Node} {store : Store}
    {cur : Option CustodianUpdateRequest} {timestamp : Nat} {v : Bool} {tx : VersionedTransaction}
    (h : buildUniversalMintTransaction node store cur timestamp v = .ok (some tx)) :
    ∃ b A mints mint,
      checkUniversalMintPossibility node store.mintDistributions timestamp v = .ok (b, A) ∧
      0 < b ∧ 0 < A ∧
      distributeKernelMintByWorks node store (node.nodesListWithoutState timestamp) (A / 10 * 5)
        timestamp = .ok mints ∧
      tryToSlashLegacyLightPool node store.mintDistributions b ⟨mintGroupUniversal, b, A⟩ =
        .ok mint ∧
      tx.mintRecord = ⟨mint.group, mint.batch, mint.amount⟩ := by
  obtain ⟨⟨b, A⟩, hg⟩ : ∃ p, checkUniversalMintPossibility node store.mintDistributions
      timestamp v = .ok p := ⟨_, checkUniversalMintPossibility_eq _ _ _ _⟩
  rw [buildUniversalMintTransaction_eq hg] at h
  split_ifs at h with hz
  · cases h
  split at h <;> try cases h
  rename_i mints hd
  split at h
  · cases h
  cases hs : tryToSlashLegacyLightPool node store.mintDistributions b
      ⟨mintGroupUniversal, b, A⟩ <;> rw [hs] at h <;> cases h
  exact ⟨b, A, mints, _, hg, by omega, by omega, hd, hs, rfl⟩

/-- On mainnet a day two past the last record never mints, nor does any later day. -/
theorem buildUniversalMintTransaction_stuck_after_missed_day {node : Node} {store : Store}
    {cur : Option CustodianUpdateRequest} {timestamp : Nat} (hm : node.isMainnet = true)
    (hfork : mainnetMintTransactionV3ForkBatch ≤ (timestamp - node.epoch) / 3600000000000 / 24)
    (hday : store.mintDistributions.readLastMintDistribution.batch + 2 ≤ (timestamp - node.epoch) / 3600000000000 / 24) :
    (∀ tx, buildUniversalMintTransaction node store cur timestamp false ≠ .ok (some tx)) ∧
      ∀ b A mints d ds,
        checkUniversalMintPossibility node store.mintDistributions timestamp false = .ok (b, A) →
        0 < b → 0 < A →
        distributeKernelMintByWorks node store (node.nodesListWithoutState timestamp) (A / 10 * 5)
          timestamp = .ok mints →
        store.readDomains = d :: ds →
        buildUniversalMintTransaction node store cur timestamp false =
          .error (.panic indexOutOfRange) := by
  have hslash : ∀ {b A}, checkUniversalMintPossibility node store.mintDistributions timestamp
      false = .ok (b, A) → 0 < b → ∀ mint,
      tryToSlashLegacyLightPool node store.mintDistributions b mint =
        .error (.panic indexOutOfRange) := fun hg hb mint => by
    obtain ⟨rfl, -, -⟩ := checkUniversalMintPossibility_new hg hb
    have hbatch : universalWindowBatch node timestamp =
        (timestamp - node.epoch) / 3600000000000 / 24 := (windowBatch_pos hb).2.1
    exact (tryToSlashLegacyLightPool_of_admitted node _ timestamp _ _ mint hm (by omega) hg).2
      fun h => by omega
  refine ⟨fun tx h => ?_, fun b A mints d ds hg hb hA hd hdom => ?_⟩
  · obtain ⟨b, A, -, _, hg, hb, -, -, hs, -⟩ := buildUniversalMintTransaction_admitted h
    rw [hslash hg hb] at hs
    cases hs
  · rw [buildUniversalMintTransaction_of_mints hg hb hA hd, hdom]
    simp only [hslash hg hb]
    rfl

theorem buildUniversalMintTransaction_stuck_two_days_after_universal_mint :
    (exampleNode 0 true).isMainnet = true ∧
      mainnetMintTransactionV3ForkBatch ≤ ((dayNanos * 1402 + 3600000000000 * 5) - (exampleNode 0 true).epoch) / 3600000000000 / 24 ∧
      (custodianStore (universalLedger 1400 27397260272)).mintDistributions.readLastMintDistribution.batch + 2 ≤
        ((dayNanos * 1402 + 3600000000000 * 5) - (exampleNode 0 true).epoch) / 3600000000000 / 24 ∧
      buildUniversalMintTransaction (exampleNode 0 true) (custodianStore (universalLedger 1400 27397260272))
        (some ⟨⟨100, 100⟩⟩) (dayNanos * 1402 + 3600000000000 * 5) false = .error (.panic indexOutOfRange) ∧
      ((∀ tx, buildUniversalMintTransaction (exampleNode 0 true) (custodianStore (universalLedger 1400 27397260272))
          (some ⟨⟨100, 100⟩⟩) (dayNanos * 1402 + 3600000000000 * 5) false ≠ .ok (some tx)) ∧
        ∀ b A mints d ds, checkUniversalMintPossibility (exampleNode 0 true)
            (custodianStore (universalLedger 1400 27397260272)).mintDistributions (dayNanos * 1402 + 3600000000000 * 5) false = .ok (b, A) →
          0 < b → 0 < A →
          distributeKernelMintByWorks (exampleNode 0 true) (custodianStore (universalLedger 1400 27397260272))
            ((exampleNode 0 true).nodesListWithoutState (dayNanos * 1402 + 3600000000000 * 5)) (A / 10 * 5) (dayNanos * 1402 + 3600000000000 * 5) = .ok mints →
          (custodianStore (universalLedger 1400 27397260272)).readDomains = d :: ds →
          buildUniversalMintTransaction (exampleNode 0 true) (custodianStore (universalLedger 1400 27397260272))
            (some ⟨⟨100, 100⟩⟩) (dayNanos * 1402 + 3600000000000 * 5) false = .error (.panic indexOutOfRange)) :=
  ⟨rfl, by decide, by decide, rfl,
    buildUniversalMintTransaction_stuck_after_missed_day rfl (by decide) (by decide)⟩

/-- An admitted legacy mint pays the kernel nodes and a `DIFF` output of the remainder. -/
theorem buildLegacyKerneNodeMintTransaction_eq {node : Node} {store : Store}
    {timestamp b A : Nat} {v : Bool}
    (hg : checkLegacyMintPossibility node store.mintDistributions timestamp v = .ok (b, A))
    (hb : 0 < b) (hA : 0 < A)
    (hm : node.isMainnet = true →
      node.transactionMintWorkHacks b = none ∧ mainnetMintTransactionV2ForkBatch ≤ b) :
    buildLegacyKerneNodeMintTransaction node store timestamp v =
      match distributeKernelMintByWorks node store (node.nodesListWithoutState timestamp) A
          timestamp with
      | .error (.error _) => .ok none
      | .error (.panic msg) => .error (.panic msg)
      | .ok mints => .ok (some (mintTransaction ⟨mintGroupKernelNode, b, A⟩
          (mints.map (kernelNodeOutput b) ++
            if (mints.map (·.work)).sum < A then
              [scriptOutput [node.zeroSeedAddress] operator64 (A - (mints.map (·.work)).sum)
                node.zeroSeedAddress s!"MINTKERNELNODE{b}DIFF"]
            else []))) := by
  have hpre : ¬(node.isMainnet = true ∧ b < mainnetMintTransactionV2ForkBatch) := fun h =>
    absurd h.2 (Nat.not_lt.mpr (hm h.1).2)
  have hnot : node.transactionMintWorkHacks b ≠ none → node.isMainnet = false := fun hne => by
    cases hmain : node.isMainnet
    · rfl
    · exact absurd (hm hmain).1 hne
  cases hh : node.transactionMintWorkHacks b <;>
    simp only [buildLegacyKerneNodeMintTransaction, hg, ok_bind, pure_eq_ok,
      Nat.pos_iff_ne_zero.mp hA, Nat.pos_iff_ne_zero.mp hb, or_self, if_false, hpre, hh, hnot,
      ne_eq, reduceCtorEq, not_false_eq_true, Bool.false_eq_true, false_and]
  all_goals
    split <;> rename_i hd <;> simp only [hd, throw_eq_error]
    have hsum := distributeKernelMintByWorks_sum_le hd
    simp only [Nat.not_lt.mpr hsum, gt_iff_lt, if_false, Integer.sub_of_le hsum, ok_bind,
      Nat.sub_pos_iff_lt]
theorem buildLegacyKerneNodeMintTransaction_of_mints {node : Node} {store : Store}
    {timestamp b A : Nat} {v : Bool} {mints : List CNodeWork}
    (hg : checkLegacyMintPossibility node store.mintDistributions timestamp v = .ok (b, A))
    (hb : 0 < b) (hA : 0 < A)
    (hm : node.isMainnet = true →
      node.transactionMintWorkHacks b = none ∧ mainnetMintTransactionV2ForkBatch ≤ b)
    (hd : distributeKernelMintByWorks node store (node.nodesListWithoutState timestamp) A
      timestamp = .ok mints) :
    buildLegacyKerneNodeMintTransaction node store timestamp v =
      .ok (some (mintTransaction ⟨mintGroupKernelNode, b, A⟩ (mints.map (kernelNodeOutput b) ++
        if (mints.map (·.work)).sum < A then
          [scriptOutput [node.zeroSeedAddress] operator64 (A - (mints.map (·.work)).sum)
            node.zeroSeedAddress s!"MINTKERNELNODE{b}DIFF"]
        else []))) := by
  rw [buildLegacyKerneNodeMintTransaction_eq hg hb hA hm, hd]

/-- Every mint transaction pays out exactly its mint input's amount. -/
theorem mint_transactions_balance (node : Node) (store : Store) (timestamp b A : Nat) (v : Bool)
    (mints : List CNodeWork) (hb : 0 < b) (hA : 0 < A) :
    (∀ cur, checkUniversalMintPossibility node store.mintDistributions timestamp v = .ok (b, A) →
      distributeKernelMintByWorks node store (node.nodesListWithoutState timestamp) (A / 10 * 5)
        timestamp = .ok mints →
      (∃ e, buildUniversalMintTransaction node store cur timestamp v = .error e ∧
        (e = .panic indexOutOfRange ∨ tryToSlashLegacyLightPool node store.mintDistributions b
          ⟨mintGroupUniversal, b, A⟩ = .error e)) ∨
      ∃ tx, buildUniversalMintTransaction node store cur timestamp v = .ok (some tx) ∧
        ∃ mint custodian light,
          tx = mintTransaction mint (mints.map (kernelNodeOutput b) ++ [custodian, light]) ∧
          (mints.map (·.work)).sum ≤ A / 10 * 5 ∧ custodian.amount = A / 10 * 4 ∧
          (mints.map (·.work)).sum + custodian.amount ≤ mint.amount ∧
          light.amount = mint.amount - ((mints.map (·.work)).sum + custodian.amount) ∧
          (tx.payload.outputs.map (·.amount)).sum = mint.amount ∧
          (mint.amount = A ∨ ∃ l u, poolSizeLegacy (b - 1) = .ok l ∧
            poolSizeUniversal (b - 1) = .ok u ∧ mint.amount = A + (l - u))) ∧
    (checkLegacyMintPossibility node store.mintDistributions timestamp v = .ok (b, A) →
      (node.isMainnet = true →
        node.transactionMintWorkHacks b = none ∧ mainnetMintTransactionV2ForkBatch ≤ b) →
      distributeKernelMintByWorks node store (node.nodesListWithoutState timestamp) A timestamp =
        .ok mints →
      ∃ tx diff, buildLegacyKerneNodeMintTransaction node store timestamp v = .ok (some tx) ∧
        tx = mintTransaction ⟨mintGroupKernelNode, b, A⟩ (mints.map (kernelNodeOutput b) ++ diff) ∧
        (diff ≠ [] ↔ (mints.map (·.work)).sum < A) ∧ (tx.payload.outputs.map (·.amount)).sum = A) := by
  refine ⟨fun cur hg hd => ?_, fun hg hm hd => ?_⟩
  · have hsum := distributeKernelMintByWorks_sum_le hd
    rw [buildUniversalMintTransaction_of_mints hg hb hA hd]
    split
    · exact .inl ⟨_, rfl, .inl rfl⟩
    cases hs : tryToSlashLegacyLightPool node store.mintDistributions b
        ⟨mintGroupUniversal, b, A⟩ with
    | error e => exact .inl ⟨e, rfl, .inr rfl⟩
    | ok mint =>
      have hle : A ≤ mint.amount := tryToSlashLegacyLightPool_amount_le hs
      refine .inr ⟨_, rfl, mint, _, _, rfl, hsum, rfl, by simp only [scriptOutput_amount]; omega,
        rfl, ?_, ?_⟩
      · simp only [mintTransaction_outputs_sum, List.map_cons, List.map_nil, scriptOutput_amount,
          List.sum_cons, List.sum_nil]
        omega
      · rcases tryToSlashLegacyLightPool_ok hs with rfl | ⟨old, rfl, rfl⟩
        · exact .inl rfl
        · have := legacyIssued_le_universalIssued old
          have := universalIssued_lt old
          refine .inr ⟨_, _, poolSizeLegacy_eq _, poolSizeUniversal_eq _, ?_⟩
          simp only [Nat.add_sub_cancel]
          omega
  · have hsum := distributeKernelMintByWorks_sum_le hd
    refine ⟨_, _, buildLegacyKerneNodeMintTransaction_of_mints hg hb hA hm hd, rfl, ?_, ?_⟩
    · split_ifs with h <;> simp [h]
    · rw [mintTransaction_outputs_sum]
      split_ifs with h <;>
        simp only [List.map_cons, List.map_nil, scriptOutput_amount, List.sum_cons, List.sum_nil] <;>
        omega

theorem mint_transactions_balance_on_day_two :
    0 < 2 ∧ 0 < 27397260272 ∧
      checkUniversalMintPossibility (exampleNode 0 false) exampleStore.mintDistributions
        (dayNanos * 2 + 3600000000000 * 5) false = .ok (2, 27397260272) ∧
      distributeKernelMintByWorks (exampleNode 0 false) exampleStore
        ((exampleNode 0 false).nodesListWithoutState (dayNanos * 2 + 3600000000000 * 5))
        (27397260272 / 10 * 5) (dayNanos * 2 + 3600000000000 * 5) =
          .ok (sevenNodes.map fun n => ⟨n, 1956947162⟩) ∧
      ((∃ e, buildUniversalMintTransaction (exampleNode 0 false) exampleStore none
          (dayNanos * 2 + 3600000000000 * 5) false = .error e ∧
        (e = .panic indexOutOfRange ∨ tryToSlashLegacyLightPool (exampleNode 0 false)
          exampleStore.mintDistributions 2 ⟨mintGroupUniversal, 2, 27397260272⟩ = .error e)) ∨
      ∃ tx, buildUniversalMintTransaction (exampleNode 0 false) exampleStore none
          (dayNanos * 2 + 3600000000000 * 5) false = .ok (some tx) ∧
        ∃ mint custodian light,
          tx = mintTransaction mint ((sevenNodes.map fun n => (⟨n, 1956947162⟩ : CNodeWork)).map
            (kernelNodeOutput 2) ++ [custodian, light]) ∧
          ((sevenNodes.map fun n => (⟨n, 1956947162⟩ : CNodeWork)).map (·.work)).sum ≤
            27397260272 / 10 * 5 ∧
          custodian.amount = 27397260272 / 10 * 4 ∧
          ((sevenNodes.map fun n => (⟨n, 1956947162⟩ : CNodeWork)).map (·.work)).sum +
            custodian.amount ≤ mint.amount ∧
          light.amount = mint.amount -
            (((sevenNodes.map fun n => (⟨n, 1956947162⟩ : CNodeWork)).map (·.work)).sum +
              custodian.amount) ∧
          (tx.payload.outputs.map (·.amount)).sum = mint.amount ∧
          (mint.amount = 27397260272 ∨ ∃ l u, poolSizeLegacy (2 - 1) = .ok l ∧
            poolSizeUniversal (2 - 1) = .ok u ∧ mint.amount = 27397260272 + (l - u))) :=
  ⟨by decide, by decide, rfl, rfl,
    (mint_transactions_balance (exampleNode 0 false) exampleStore
      (dayNanos * 2 + 3600000000000 * 5) 2 27397260272 false
      (sevenNodes.map fun n => ⟨n, 1956947162⟩) (by decide) (by decide)).1 none (by rfl) (by rfl)⟩

/-- Validating on the store a mint was built on rebuilds it. -/
theorem buildUniversalMintTransaction_validate_same_store {node : Node} {store : Store}
    {cur : Option CustodianUpdateRequest} {timestamp : Nat} {tx : VersionedTransaction}
    (h : buildUniversalMintTransaction node store cur timestamp false = .ok (some tx)) :
    buildUniversalMintTransaction node store cur timestamp true = .ok (some tx) := by
  obtain ⟨b, A, -, -, hg, hb, -⟩ := buildUniversalMintTransaction_admitted h
  obtain ⟨hw, hlt, -⟩ := checkUniversalMintPossibility_new hg hb
  have hv : checkUniversalMintPossibility node store.mintDistributions timestamp true =
      checkUniversalMintPossibility node store.mintDistributions timestamp false := by
    rw [checkUniversalMintPossibility_eq, checkUniversalMintPossibility_eq,
      gateOutcome_validateOnly (by omega)]
  rw [← h]
  unfold buildUniversalMintTransaction
  rw [hv]

theorem tryToSlashLegacyLightPool_appendMint_of_ok {node : Node} {l : MintLedger} {b : Nat}
    {mint m : MintData} (hlt : l.readLastMintDistribution.batch < b)
    (hs : tryToSlashLegacyLightPool node l b mint = .ok m) (r : MintDistribution) (h)
    (mint' : MintData) :
    tryToSlashLegacyLightPool node (l.appendMint r h) b mint' =
      tryToSlashLegacyLightPool node l b mint' := by
  by_cases hc : node.isMainnet = true ∧ mainnetMintTransactionV3ForkBatch ≤ b
  · rw [tryToSlashLegacyLightPool_eq hc.1 hc.2 hlt] at hs
    by_cases hcond : l.records ≠ [] ∧ l.readLastMintDistribution.batch + 1 = b
    · exact tryToSlashLegacyLightPool_appendMint hcond.1 hcond.2
    · rw [if_neg hcond] at hs
      cases hs
  · rw [tryToSlashLegacyLightPool_of_not hc, tryToSlashLegacyLightPool_of_not hc]

/-- The gate replays a recorded universal mint with the recorded amount. -/
theorem checkUniversalMintPossibility_replay {node : Node} {l : MintLedger} {timestamp b A : Nat}
    {r : MintDistribution} {h} (hg : checkUniversalMintPossibility node l timestamp false = .ok (b, A))
    (hb : 0 < b) (hr : r.batch = b) :
    checkUniversalMintPossibility node (l.appendMint r h) timestamp true = .ok (b, r.amount) := by
  obtain ⟨hw, -⟩ := checkUniversalMintPossibility_new hg hb
  rw [checkUniversalMintPossibility_eq, MintLedger.readLastMintDistribution_appendMint, ← hw,
    gateOutcome_replay hb hr]

/-- Replaying a recorded universal mint rebuilds it, or at the switch adds the credit again. -/
theorem buildUniversalMintTransaction_replay {node : Node} {store : Store}
    {cur : Option CustodianUpdateRequest} {timestamp : Nat} {tx : VersionedTransaction}
    (h : buildUniversalMintTransaction node store cur timestamp false = .ok (some tx))
    (hlt : store.mintDistributions.readLastMintDistribution.batch < tx.mintRecord.batch) :
    (¬(node.isMainnet = true ∧ mainnetMintTransactionV3ForkBatch ≤ tx.mintRecord.batch ∧
        store.mintDistributions.readLastMintDistribution.group ≠ mintGroupUniversal) →
      buildUniversalMintTransaction node
        { store with mintDistributions := store.mintDistributions.appendMint tx.mintRecord hlt }
        cur timestamp true = .ok (some tx)) ∧
    (node.isMainnet = true ∧ mainnetMintTransactionV3ForkBatch ≤ tx.mintRecord.batch ∧
        store.mintDistributions.readLastMintDistribution.group ≠ mintGroupUniversal →
      ∀ tx', buildUniversalMintTransaction node
        { store with mintDistributions := store.mintDistributions.appendMint tx.mintRecord hlt }
        cur timestamp true = .ok (some tx') → tx'.payload ≠ tx.payload) := by
  obtain ⟨b, A, mints, mint, hg, hb, hA, hd, hs, hrec⟩ :=
    buildUniversalMintTransaction_admitted h
  have hrb : tx.mintRecord.batch = b := by
    rw [hrec]
    rcases tryToSlashLegacyLightPool_ok hs with rfl | ⟨_, _, rfl⟩ <;> rfl
  have hblt := (checkUniversalMintPossibility_new hg hb).2.1
  have hg' := checkUniversalMintPossibility_replay (h := hlt) hg hb hrb
  have hslash := tryToSlashLegacyLightPool_appendMint_of_ok hblt hs tx.mintRecord hlt
  constructor
  · intro hno
    have hA' : tx.mintRecord.amount = A := by
      rcases tryToSlashLegacyLightPool_cases hblt hs with rfl | ⟨hm, hV3, -, -, hne, -⟩
      · rw [hrec]
      · exact absurd ⟨hm, hrb ▸ hV3, hne⟩ hno
    rw [hA'] at hg'
    rw [@buildUniversalMintTransaction_of_mints node
      { store with mintDistributions := store.mintDistributions.appendMint tx.mintRecord hlt }
      cur timestamp b A true mints hg' hb hA hd, hslash]
    rwa [buildUniversalMintTransaction_of_mints hg hb hA hd] at h
  · rintro ⟨hm, hV3, hne⟩ tx' h' heq
    rw [hrb] at hV3
    obtain ⟨b', A', -, mint', hg'', -, -, -, hs', hrec'⟩ := buildUniversalMintTransaction_admitted h'
    rw [hg'] at hg''
    obtain ⟨rfl, rfl⟩ := Prod.mk.inj (Except.ok.inj hg'')
    rw [hslash] at hs'
    rw [tryToSlashLegacyLightPool_eq hm hV3 hblt] at hs hs'
    have hcond : store.mintDistributions.records ≠ [] ∧
        store.mintDistributions.readLastMintDistribution.batch + 1 = b := by
      by_contra hc
      rw [if_neg hc] at hs
      cases hs
    simp only [if_pos hcond, hne, if_false, Except.ok.injEq] at hs'
    have hx := legacyIssued_lt_universalIssued (show 365 ≤ b - 1 by
      unfold mainnetMintTransactionV3ForkBatch at hV3; omega)
    have hsame : tx'.mintRecord = tx.mintRecord := by
      unfold VersionedTransaction.mintRecord
      rw [heq]
    have := congrArg MintDistribution.amount (hrec'.symm.trans hsame)
    rw [← hs'] at this
    simp only at this
    omega

/-- The first mainnet universal mint, of batch 1313, is rejected once its record is stored. -/
theorem validateMintSnapshot_rejects_recorded_switch_mint :
    ∃ tx, buildUniversalMintTransaction (exampleNode 0 true)
        (custodianStore (legacyLedger 1312 12328767120)) (some ⟨⟨100, 100⟩⟩)
        (dayNanos * 1313 + 3600000000000 * 5) false = .ok (some tx) ∧
      tx.mintRecord = ⟨mintGroupUniversal, 1313, 1581689042834⟩ ∧
      validateMintSnapshot (exampleNode 0 true) (custodianStore (legacyLedger 1312 12328767120))
        (dayNanos * 1313 + 3600000000000 * 5) 0 0 tx = .ok () ∧
      validateMintSnapshot (exampleNode 0 true)
        (custodianStore ((legacyLedger 1312 12328767120).appendMint
          ⟨mintGroupUniversal, 1313, 1581689042834⟩ (by decide)))
        (dayNanos * 1313 + 3600000000000 * 5) 0 0 tx =
          .error (.error "malformed mint transaction at 113461200000000000") :=
  ⟨_, rfl, rfl, rfl, rfl⟩

theorem checkLegacyMintPossibility_replay {node : Node} {l : MintLedger} {timestamp b A : Nat}
    {r : MintDistribution} {h} (hg : checkLegacyMintPossibility node l timestamp false = .ok (b, A))
    (hb : 0 < b) (hr : r.batch = b) :
    checkLegacyMintPossibility node (l.appendMint r h) timestamp true = .ok (b, r.amount) := by
  obtain ⟨hw, -⟩ := checkLegacyMintPossibility_new hg hb
  rw [checkLegacyMintPossibility_eq, MintLedger.readLastMintDistribution_appendMint, ← hw,
    gateOutcome_replay hb hr]

/-- A legacy mint takes no slash, so replaying it rebuilds it. -/
theorem buildLegacyKerneNodeMintTransaction_replay {node : Node} {store : Store}
    {timestamp b A : Nat} {mints : List CNodeWork}
    (hg : checkLegacyMintPossibility node store.mintDistributions timestamp false = .ok (b, A))
    (hb : 0 < b) (hA : 0 < A)
    (hm : node.isMainnet = true →
      node.transactionMintWorkHacks b = none ∧ mainnetMintTransactionV2ForkBatch ≤ b)
    (hd : distributeKernelMintByWorks node store (node.nodesListWithoutState timestamp) A
      timestamp = .ok mints) {tx : VersionedTransaction}
    (h : buildLegacyKerneNodeMintTransaction node store timestamp false = .ok (some tx))
    (hlt : store.mintDistributions.readLastMintDistribution.batch < tx.mintRecord.batch) :
    buildLegacyKerneNodeMintTransaction node
      { store with mintDistributions := store.mintDistributions.appendMint tx.mintRecord hlt }
      timestamp true = .ok (some tx) := by
  rw [buildLegacyKerneNodeMintTransaction_of_mints hg hb hA hm hd] at h
  cases h
  refine @buildLegacyKerneNodeMintTransaction_of_mints node _ timestamp b A true mints ?_ hb hA hm hd
  exact checkLegacyMintPossibility_replay (h := hlt) hg hb rfl

/-- With no custodian, validation accepts a legacy mint before and after its record. -/
theorem validateMintSnapshot_accepts_recorded_legacy_mint {node : Node} {store : Store}
    {timestamp b A : Nat} {mints : List CNodeWork}
    (hg : checkLegacyMintPossibility node store.mintDistributions timestamp false = .ok (b, A))
    (hb : 0 < b) (hA : 0 < A) (hmain : node.isMainnet = true)
    (hm : node.transactionMintWorkHacks b = none ∧ mainnetMintTransactionV2ForkBatch ≤ b)
    (hd : distributeKernelMintByWorks node store (node.nodesListWithoutState timestamp) A
      timestamp = .ok mints)
    (hcur : store.readCustodian timestamp = .ok none) (hts : 0 < timestamp) (snapNodeId now : Hash) :
    ∃ tx h, buildLegacyKerneNodeMintTransaction node store timestamp false = .ok (some tx) ∧
      validateMintSnapshot node store timestamp snapNodeId now tx = .ok () ∧
      validateMintSnapshot node
        { store with mintDistributions := store.mintDistributions.appendMint tx.mintRecord h }
        timestamp snapNodeId now tx = .ok () := by
  obtain ⟨hw, hlt, -⟩ := checkLegacyMintPossibility_new hg hb
  have hv : checkLegacyMintPossibility node store.mintDistributions timestamp true = .ok (b, A) := by
    rw [← hg, checkLegacyMintPossibility_eq, checkLegacyMintPossibility_eq,
      gateOutcome_validateOnly (by omega)]
  have hbuild := buildLegacyKerneNodeMintTransaction_of_mints hg hb hA (fun _ => hm) hd
  refine ⟨_, ?_, hbuild, ?_, ?_⟩
  · exact hlt
  all_goals
    simp only [validateMintSnapshot, Nat.pos_iff_ne_zero.mp hts, false_and, if_false, hcur,
      liftError_ok, ok_bind, hmain, Option.isNone_none, and_self, if_true, ne_eq,
      not_true_eq_false, pure_eq_ok,
      buildLegacyKerneNodeMintTransaction_of_mints hv hb hA (fun _ => hm) hd,
      buildLegacyKerneNodeMintTransaction_replay hg hb hA (fun _ => hm) hd hbuild hlt]

theorem validateMintSnapshot_accepts_recorded_legacy_mint_on_day_740 :
    checkLegacyMintPossibility (exampleNode 0 true) exampleStore.mintDistributions
        (dayNanos * 740 + 3600000000000 * 5) false = .ok (740, 7389863013060) ∧
      0 < 740 ∧ 0 < 7389863013060 ∧ (exampleNode 0 true).isMainnet = true ∧
      ((exampleNode 0 true).transactionMintWorkHacks 740 = none ∧
        mainnetMintTransactionV2ForkBatch ≤ 740) ∧
      exampleStore.readCustodian (dayNanos * 740 + 3600000000000 * 5) = .ok none ∧
      0 < (dayNanos * 740 + 3600000000000 * 5) ∧
      ∃ mints, distributeKernelMintByWorks (exampleNode 0 true) exampleStore
          ((exampleNode 0 true).nodesListWithoutState (dayNanos * 740 + 3600000000000 * 5)) 7389863013060
          (dayNanos * 740 + 3600000000000 * 5) = .ok mints ∧
        ∃ tx h, buildLegacyKerneNodeMintTransaction (exampleNode 0 true) exampleStore
            (dayNanos * 740 + 3600000000000 * 5) false = .ok (some tx) ∧
          validateMintSnapshot (exampleNode 0 true) exampleStore (dayNanos * 740 + 3600000000000 * 5) 0 0 tx = .ok () ∧
          validateMintSnapshot (exampleNode 0 true)
            { exampleStore with
              mintDistributions := exampleStore.mintDistributions.appendMint tx.mintRecord h }
            (dayNanos * 740 + 3600000000000 * 5) 0 0 tx = .ok () :=
  have hg : checkLegacyMintPossibility (exampleNode 0 true) exampleStore.mintDistributions
      (dayNanos * 740 + 3600000000000 * 5) false = .ok (740, 7389863013060) := rfl
  have hd : ∃ mints, distributeKernelMintByWorks (exampleNode 0 true) exampleStore
      ((exampleNode 0 true).nodesListWithoutState (dayNanos * 740 + 3600000000000 * 5)) 7389863013060
      (dayNanos * 740 + 3600000000000 * 5) = .ok mints := ⟨_, rfl⟩
  ⟨hg, by decide, by decide, rfl, ⟨rfl, by decide⟩, rfl, by decide, hd.elim fun mints hm =>
    ⟨mints, hm, validateMintSnapshot_accepts_recorded_legacy_mint hg (by decide) (by decide) rfl
      ⟨rfl, by decide⟩ hm rfl (by decide) 0 0⟩⟩

theorem buildLegacyKerneNodeMintTransaction_pos {node : Node} {store : Store}
    {timestamp b A : Nat} {v : Bool} {tx : VersionedTransaction}
    (hg : checkLegacyMintPossibility node store.mintDistributions timestamp v = .ok (b, A))
    (h : buildLegacyKerneNodeMintTransaction node store timestamp v = .ok (some tx)) :
    0 < b ∧ 0 < A := by
  by_contra hc
  simp only [buildLegacyKerneNodeMintTransaction, hg, ok_bind, pure_eq_ok,
    if_pos (show A = 0 ∨ b = 0 by omega)] at h
  cases h

theorem buildLegacyKerneNodeMintTransaction_validate_same_store {node : Node} {store : Store}
    {timestamp : Nat} {tx : VersionedTransaction}
    (hv1 : node.buildMintTransactionV1 timestamp true = node.buildMintTransactionV1 timestamp false)
    (h : buildLegacyKerneNodeMintTransaction node store timestamp false = .ok (some tx)) :
    buildLegacyKerneNodeMintTransaction node store timestamp true = .ok (some tx) := by
  obtain ⟨⟨b, A⟩, hg⟩ : ∃ p, checkLegacyMintPossibility node store.mintDistributions
      timestamp false = .ok p := ⟨_, checkLegacyMintPossibility_eq _ _ _ _⟩
  obtain ⟨hw, hlt, -⟩ :=
    checkLegacyMintPossibility_new hg (buildLegacyKerneNodeMintTransaction_pos hg h).1
  have hv : checkLegacyMintPossibility node store.mintDistributions timestamp true =
      checkLegacyMintPossibility node store.mintDistributions timestamp false := by
    rw [checkLegacyMintPossibility_eq, checkLegacyMintPossibility_eq,
      gateOutcome_validateOnly (by omega)]
  rw [← h]
  unfold buildLegacyKerneNodeMintTransaction
  rw [hv, hv1]

/-- One tick of `MintLoop`: legacy on mainnet before a custodian is set, universal otherwise. -/
def mintLoopTick (node : Node) (store : Store) (graphTimestamp : Nat) :
    Except Fault (Option VersionedTransaction) :=
  match store.readCustodian graphTimestamp with
  | .error err => throw (.panic err)
  | .ok cur =>
    if cur.isNone ∧ node.isMainnet then
      buildLegacyKerneNodeMintTransaction node store graphTimestamp false
    else buildUniversalMintTransaction node store cur graphTimestamp false

/-- A node accepts the mint its own loop proposes, on the same store and timestamp. -/
theorem validateMintSnapshot_accepts_mintLoopTick {node : Node} {store : Store}
    {timestamp : Nat} {tx : VersionedTransaction} (ht : 0 < timestamp)
    (hv1 : node.buildMintTransactionV1 timestamp true = node.buildMintTransactionV1 timestamp false)
    (h : mintLoopTick node store timestamp = .ok (some tx)) (snapNodeId now : Hash) :
    validateMintSnapshot node store timestamp snapNodeId now tx = .ok () := by
  cases hc : store.readCustodian timestamp with
  | error e => simp [mintLoopTick, hc] at h
  | ok cur =>
    simp only [mintLoopTick, hc] at h
    simp only [validateMintSnapshot, Nat.pos_iff_ne_zero.mp ht, false_and, if_false, hc,
      liftError_ok, ok_bind]
    split_ifs at h ⊢
    · simp [buildLegacyKerneNodeMintTransaction_validate_same_store hv1 h]
    · simp [buildUniversalMintTransaction_validate_same_store h]

theorem validateMintSnapshot_accepts_mintLoopTick_on_day_two :
    0 < dayNanos * 2 + 3600000000000 * 5 ∧
      (exampleNode 0 false).buildMintTransactionV1 (dayNanos * 2 + 3600000000000 * 5) true =
        (exampleNode 0 false).buildMintTransactionV1 (dayNanos * 2 + 3600000000000 * 5) false ∧
      ∃ tx, mintLoopTick (exampleNode 0 false) exampleStore (dayNanos * 2 + 3600000000000 * 5) =
          .ok (some tx) ∧
        validateMintSnapshot (exampleNode 0 false) exampleStore
          (dayNanos * 2 + 3600000000000 * 5) 0 0 tx = .ok () :=
  have h : ∃ tx, mintLoopTick (exampleNode 0 false) exampleStore
      (dayNanos * 2 + 3600000000000 * 5) = .ok (some tx) := ⟨_, rfl⟩
  ⟨by decide, rfl, h.elim fun tx htx =>
    ⟨tx, htx, validateMintSnapshot_accepts_mintLoopTick (by decide) rfl htx 0 0⟩⟩

end MixinKernel.Build
