import MixinKernel.Kernel
import MixinKernel.Pool

/-!
# Mint-possibility gates

`checkUniversalMintPossibility` and `checkLegacyMintPossibility`: whether a timestamp falls in
the mint window of a new batch, and the amount due since the last mint distribution. Both
reduce to `gateOutcome`, from which the gate lemmas below follow: a new batch is always past
the last record and owes its daily issue for every batch since, and the `validateOnly`
replay returns the stored record's amount.
-/

namespace MixinKernel.Gate

open MixinKernel.Common MixinKernel.Pool MixinKernel.Kernel

def mainnetMintPeriodForkBatch : Nat := 72
def mainnetMintPeriodForkTimeBegin : Nat := 6
def mainnetMintPeriodForkTimeEnd : Nat := 18
def mainnetMintWorkDistributionForkBatch : Nat := 729
def mainnetMintTransactionV2ForkBatch : Nat := 739
def mainnetMintTransactionV3ForkBatch : Nat := 1313

/-- `pool = pool.Sub(pool.Div(MintYearShares))`, once a year. -/
def shrinkPool (pool : Nat) : Except Fault Nat := Integer.sub pool (pool / mintYearShares)

def checkUniversalMintPossibility (node : Node) (ledger : MintLedger) (timestamp : Nat)
    (validateOnly : Bool) : Except Fault (Nat × Nat) := do
  if timestamp ≤ node.epoch then return (0, 0)
  let since := timestamp - node.epoch
  let hours := since / 3600000000000
  let batch := hours / 24
  if batch < 1 then return (0, 0)
  let kmb := node.kernelMintTimeBegin
  let kme := node.kernelMintTimeEnd
  if hours % 24 < kmb ∨ hours % 24 > kme then return (0, 0)
  let pool ← forCount shrinkPool (batch / mintYearBatches) mintPool
  let pool := pool / mintYearShares
  let total := pool / mintYearBatches
  let dist := ledger.readLastMintDistribution
  if batch < dist.batch then return (0, 0)
  if batch = dist.batch then
    if validateOnly then return (batch, dist.amount)
    return (0, 0)
  let amount := total * (batch - dist.batch)
  return (batch, amount)

def checkLegacyMintPossibility (node : Node) (ledger : MintLedger) (timestamp : Nat)
    (validateOnly : Bool) : Except Fault (Nat × Nat) := do
  if timestamp ≤ node.epoch then return (0, 0)
  let since := timestamp - node.epoch
  let hours := since / 3600000000000
  let batch := hours / 24
  if batch < 1 then return (0, 0)
  let (kmb, kme) :=
    if node.isMainnet ∧ batch < mainnetMintPeriodForkBatch then
      (mainnetMintPeriodForkTimeBegin, mainnetMintPeriodForkTimeEnd)
    else (node.kernelMintTimeBegin, node.kernelMintTimeEnd)
  if hours % 24 < kmb ∨ hours % 24 > kme then return (0, 0)
  let pool ← forCount shrinkPool (batch / mintYearBatches) mintPool
  let pool := pool / mintYearShares
  let total := pool / mintYearBatches
  let light := total / 10
  let full := light * 9
  let dist := ledger.readLastMintDistribution
  if batch < dist.batch then return (0, 0)
  if batch = dist.batch then
    if validateOnly then return (batch, dist.amount)
    return (0, 0)
  let amount := full * (batch - dist.batch)
  return (batch, amount)

/-- The batch of a timestamp inside the mint window `[kmb, kme]` of its day, and `0` outside. -/
def windowBatch (epoch kmb kme timestamp : Nat) : Nat :=
  let hours := (timestamp - epoch) / 3600000000000
  if timestamp ≤ epoch ∨ hours / 24 < 1 ∨ hours % 24 < kmb ∨ hours % 24 > kme then 0
  else hours / 24

/-- What a gate returns for window batch `batch`, daily issue `rate` and last record `dist`. -/
def gateOutcome (batch rate : Nat) (dist : MintDistribution) (validateOnly : Bool) : Nat × Nat :=
  if batch = 0 ∨ batch < dist.batch then (0, 0)
  else if batch = dist.batch then (if validateOnly then (batch, dist.amount) else (0, 0))
  else (batch, rate * (batch - dist.batch))

def universalWindowBatch (node : Node) (timestamp : Nat) : Nat :=
  windowBatch node.epoch node.kernelMintTimeBegin node.kernelMintTimeEnd timestamp

def legacyWindowBatch (node : Node) (timestamp : Nat) : Nat :=
  let batch := (timestamp - node.epoch) / 3600000000000 / 24
  if node.isMainnet ∧ batch < mainnetMintPeriodForkBatch then
    windowBatch node.epoch mainnetMintPeriodForkTimeBegin mainnetMintPeriodForkTimeEnd timestamp
  else windowBatch node.epoch node.kernelMintTimeBegin node.kernelMintTimeEnd timestamp

theorem shrinkPool_eq (pool : Nat) : shrinkPool pool = .ok (decay pool) :=
  Integer.sub_of_le (Nat.div_le_self _ _)

theorem forCount_shrinkPool (k : Nat) : forCount shrinkPool k mintPool = .ok (yearPool k) :=
  forCount_of_total shrinkPool decay shrinkPool_eq k mintPool

/-- The gates after the pool loop, for a window `[kmb, kme]` and a daily issue `rate`. -/
theorem gate_eq {timestamp epoch kmb kme hours : Nat} (rate : Nat → Nat)
    (dist : MintDistribution) (validateOnly : Bool) :
    (if timestamp ≤ epoch then .ok (0, 0) else
      if hours / 24 < 1 then .ok (0, 0) else
      if hours % 24 < kmb ∨ hours % 24 > kme then .ok (0, 0) else
      if hours / 24 < dist.batch then .ok (0, 0) else
      if hours / 24 = dist.batch then
        (if validateOnly = true then .ok (hours / 24, dist.amount) else .ok (0, 0))
      else (.ok (hours / 24, rate (hours / 24) * (hours / 24 - dist.batch)) :
        Except Fault (Nat × Nat))) =
    .ok (gateOutcome (if timestamp ≤ epoch ∨ hours / 24 < 1 ∨ hours % 24 < kmb ∨
        hours % 24 > kme then 0 else hours / 24)
      (rate (if timestamp ≤ epoch ∨ hours / 24 < 1 ∨ hours % 24 < kmb ∨
        hours % 24 > kme then 0 else hours / 24)) dist validateOnly) := by
  by_cases h : timestamp ≤ epoch ∨ hours / 24 < 1 ∨ hours % 24 < kmb ∨ hours % 24 > kme
  · rw [if_pos h]
    rcases h with h | h | h <;> simp [h, gateOutcome]
  · rw [if_neg h]
    simp only [not_or] at h
    simp only [h, if_false, false_or, gateOutcome, show hours / 24 ≠ 0 by omega]
    split_ifs <;> rfl

theorem checkUniversalMintPossibility_eq (node : Node) (ledger : MintLedger) (timestamp : Nat)
    (validateOnly : Bool) :
    checkUniversalMintPossibility node ledger timestamp validateOnly =
      .ok (gateOutcome (universalWindowBatch node timestamp)
        (dailyIssue (universalWindowBatch node timestamp / 365))
        ledger.readLastMintDistribution validateOnly) := by
  simp only [checkUniversalMintPossibility, forCount_shrinkPool, mintYearBatches_eq,
    mintYearShares_eq, pure_eq_ok, ok_bind]
  exact gate_eq (fun b => dailyIssue (b / 365)) _ _

theorem checkLegacyMintPossibility_eq (node : Node) (ledger : MintLedger) (timestamp : Nat)
    (validateOnly : Bool) :
    checkLegacyMintPossibility node ledger timestamp validateOnly =
      .ok (gateOutcome (legacyWindowBatch node timestamp)
        (legacyDailyIssue (legacyWindowBatch node timestamp / 365))
        ledger.readLastMintDistribution validateOnly) := by
  simp only [checkLegacyMintPossibility, legacyWindowBatch, forCount_shrinkPool,
    mintYearBatches_eq, mintYearShares_eq, pure_eq_ok, ok_bind]
  by_cases hm : node.isMainnet = true ∧
      (timestamp - node.epoch) / 3600000000000 / 24 < mainnetMintPeriodForkBatch <;>
    simp only [hm, ↓reduceIte] <;>
    exact gate_eq (fun b => legacyDailyIssue (b / 365)) _ _

/-- A gate admits a new batch owing every daily issue since the last, or replays the last. -/
theorem gateOutcome_cases {batch rate b a : Nat} {dist : MintDistribution} {validateOnly : Bool}
    (h : gateOutcome batch rate dist validateOnly = (b, a)) (hb : 0 < b) :
    b = batch ∧ ((dist.batch < b ∧ a = rate * (b - dist.batch)) ∨
      (validateOnly = true ∧ b = dist.batch ∧ a = dist.amount)) := by
  unfold gateOutcome at h
  split_ifs at h with h1 h2 h3 <;> obtain ⟨rfl, rfl⟩ := Prod.mk.inj h
  · exact absurd hb (lt_irrefl 0)
  · exact ⟨rfl, .inr ⟨h3, h2, rfl⟩⟩
  · exact absurd hb (lt_irrefl 0)
  · exact ⟨rfl, .inl ⟨by omega, rfl⟩⟩

/-- `validateOnly` matters only when the batch is the last record's. -/
theorem gateOutcome_validateOnly {batch rate : Nat} {dist : MintDistribution}
    (h : batch ≠ dist.batch) (v : Bool) :
    gateOutcome batch rate dist v = gateOutcome batch rate dist false := by
  unfold gateOutcome
  simp only [h, if_false]

/-- Replaying the batch of the last record returns that record's amount. -/
theorem gateOutcome_replay {batch rate : Nat} {dist : MintDistribution} (hb : 0 < batch)
    (h : dist.batch = batch) : gateOutcome batch rate dist true = (batch, dist.amount) := by
  unfold gateOutcome
  simp only [h, lt_irrefl, if_true, if_false, or_false, Nat.pos_iff_ne_zero.mp hb]

theorem checkUniversalMintPossibility_new {node : Node} {ledger : MintLedger}
    {timestamp b a : Nat}
    (h : checkUniversalMintPossibility node ledger timestamp false = .ok (b, a)) (hb : 0 < b) :
    b = universalWindowBatch node timestamp ∧ ledger.readLastMintDistribution.batch < b ∧
      a = dailyIssue (b / 365) * (b - ledger.readLastMintDistribution.batch) := by
  rw [checkUniversalMintPossibility_eq, Except.ok.injEq] at h
  obtain ⟨rfl, h | ⟨h, -⟩⟩ := gateOutcome_cases h hb
  · exact ⟨rfl, h⟩
  · cases h

theorem checkLegacyMintPossibility_new {node : Node} {ledger : MintLedger}
    {timestamp b a : Nat}
    (h : checkLegacyMintPossibility node ledger timestamp false = .ok (b, a)) (hb : 0 < b) :
    b = legacyWindowBatch node timestamp ∧ ledger.readLastMintDistribution.batch < b ∧
      a = legacyDailyIssue (b / 365) * (b - ledger.readLastMintDistribution.batch) := by
  rw [checkLegacyMintPossibility_eq, Except.ok.injEq] at h
  obtain ⟨rfl, h | ⟨h, -⟩⟩ := gateOutcome_cases h hb
  · exact ⟨rfl, h⟩
  · cases h

/-- A nonzero window batch is the day of a timestamp past the epoch, inside the window. -/
theorem windowBatch_pos {epoch kmb kme timestamp : Nat}
    (h : 0 < windowBatch epoch kmb kme timestamp) :
    epoch < timestamp ∧
      windowBatch epoch kmb kme timestamp = (timestamp - epoch) / 3600000000000 / 24 ∧
      kmb ≤ (timestamp - epoch) / 3600000000000 % 24 ∧
      (timestamp - epoch) / 3600000000000 % 24 ≤ kme := by
  simp only [windowBatch] at h ⊢
  split_ifs at h ⊢ with hw
  · exact absurd h (lt_irrefl 0)
  · simp only [not_or, not_le, not_lt] at hw
    exact ⟨hw.1, rfl, hw.2.2.1, hw.2.2.2⟩

/-- The gates admit only the batch of the timestamp's day, inside that day's mint window. -/
theorem gates_admit_within_window {node : Node} {ledger : MintLedger} {timestamp b a : Nat}
    {validateOnly : Bool} (hb : 0 < b) :
    (checkUniversalMintPossibility node ledger timestamp validateOnly = .ok (b, a) →
      node.epoch < timestamp ∧ b = (timestamp - node.epoch) / 3600000000000 / 24 ∧
        node.kernelMintTimeBegin ≤ (timestamp - node.epoch) / 3600000000000 % 24 ∧ (timestamp - node.epoch) / 3600000000000 % 24 ≤ node.kernelMintTimeEnd) ∧
    (checkLegacyMintPossibility node ledger timestamp validateOnly = .ok (b, a) →
      node.epoch < timestamp ∧ b = (timestamp - node.epoch) / 3600000000000 / 24 ∧
        if node.isMainnet ∧ b < mainnetMintPeriodForkBatch then
          mainnetMintPeriodForkTimeBegin ≤ (timestamp - node.epoch) / 3600000000000 % 24 ∧ (timestamp - node.epoch) / 3600000000000 % 24 ≤ mainnetMintPeriodForkTimeEnd
        else node.kernelMintTimeBegin ≤ (timestamp - node.epoch) / 3600000000000 % 24 ∧ (timestamp - node.epoch) / 3600000000000 % 24 ≤ node.kernelMintTimeEnd) := by
  constructor
  · intro h
    rw [checkUniversalMintPossibility_eq, Except.ok.injEq] at h
    obtain ⟨rfl, -⟩ := gateOutcome_cases h hb
    obtain ⟨hlt, hbatch, hwin⟩ := windowBatch_pos hb
    exact ⟨hlt, hbatch, hwin⟩
  · intro h
    rw [checkLegacyMintPossibility_eq, Except.ok.injEq] at h
    obtain ⟨hb', -⟩ := gateOutcome_cases h hb
    by_cases hm : node.isMainnet = true ∧ (timestamp - node.epoch) / 3600000000000 / 24 < mainnetMintPeriodForkBatch
    · have hw : b = windowBatch node.epoch mainnetMintPeriodForkTimeBegin
          mainnetMintPeriodForkTimeEnd timestamp := by
        simp only [hb', legacyWindowBatch, hm, and_self, if_true]
      obtain ⟨hlt, hbatch, hwin⟩ := windowBatch_pos (hw ▸ hb)
      rw [← hw] at hbatch
      exact ⟨hlt, hbatch, by rwa [if_pos (by rwa [hbatch])]⟩
    · have hw : b = windowBatch node.epoch node.kernelMintTimeBegin node.kernelMintTimeEnd
          timestamp := by
        simp only [hb', legacyWindowBatch, hm, if_false]
      obtain ⟨hlt, hbatch, hwin⟩ := windowBatch_pos (hw ▸ hb)
      rw [← hw] at hbatch
      exact ⟨hlt, hbatch, by rwa [if_neg (by rwa [hbatch])]⟩

end MixinKernel.Gate
