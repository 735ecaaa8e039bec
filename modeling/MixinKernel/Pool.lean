import MixinKernel.Common
import Mathlib.Logic.Function.Iterate

/-!
# Pool model

`poolSizeUniversal`, `poolSizeLegacy` and `pledgeAmount` as the code runs them, and their
closed forms. Each year a tenth of what remains of `MintPool` is the year's budget, and a
batch issues a 365th of the year's budget; legacy batches and years credit nine tenths of
it. Every subtraction of the three functions stays above zero, and the pool left after a
batch never grows.
-/

namespace MixinKernel.Pool

open MixinKernel.Common

def mintPool : Nat := newInteger 500000
def mintLiquidity : Nat := newInteger 500000
def mintYearShares : Nat := 10
def mintYearBatches : Nat := 365
def mintNodeMaximum : Nat := 50

@[simp] theorem mintYearShares_eq : mintYearShares = 10 := rfl
@[simp] theorem mintYearBatches_eq : mintYearBatches = 365 := rfl

/-- The three yearly loops' body: a year's share leaves the pool, `credit` of it minted. -/
def takeYearShare (credit : Nat → Nat) (s : Nat × Nat) :
    Except Fault (Nat × Nat) := do
  let year := s.2 / mintYearShares
  let pool ← Integer.sub s.2 year
  pure (s.1 + credit year, pool)

def poolSizeUniversal (batch : Nat) : Except Fault Nat := do
  let (mint, pool) ← forCount (takeYearShare id) (batch / mintYearBatches) (0, mintPool)
  let day := pool / mintYearShares / mintYearBatches
  let count := batch % mintYearBatches
  let mint := if count > 0 then mint + day * count else mint
  if mint > 0 then Integer.sub mintPool mint else pure mintPool

def poolSizeLegacy (batch : Nat) : Except Fault Nat := do
  let (mint, pool) ←
    forCount (takeYearShare fun year => year / 10 * 9) (batch / mintYearBatches) (0, mintPool)
  let day := pool / mintYearShares / mintYearBatches
  let count := batch % mintYearBatches
  let mint := if count > 0 then mint + day / 10 * 9 * count else mint
  if mint > 0 then Integer.sub mintPool mint else pure mintPool

def pledgeAmount (sinceEpoch : Nat) : Except Fault Nat := do
  let batch := sinceEpoch / 3600000000000 / 24
  let (liquidity, _) ←
    forCount (takeYearShare id) (batch / mintYearBatches) (mintLiquidity, mintPool)
  pure (liquidity / mintNodeMaximum)

/-- What one year leaves of the pool. -/
def decay (p : Nat) : Nat := p - p / 10

/-- What `k` years of a loop credit, from pool `p` on. -/
def yearsMinted (credit : Nat → Nat) (p : Nat) : Nat → Nat
  | 0 => 0
  | k + 1 => credit (p / 10) + yearsMinted credit (decay p) k

/-- The pool at the start of year `k`. -/
def yearPool (k : Nat) : Nat := decay^[k] mintPool

/-- A universal batch's issue in year `k`: the gate's `total`. -/
def dailyIssue (k : Nat) : Nat := yearPool k / 10 / 365

/-- A legacy batch's issue in year `k`: the gate's `full`. -/
def legacyDailyIssue (k : Nat) : Nat := dailyIssue k / 10 * 9

/-- What the universal schedule has issued before batch `b`. -/
def universalIssued (b : Nat) : Nat :=
  yearsMinted id mintPool (b / 365) + dailyIssue (b / 365) * (b % 365)

/-- What the legacy schedule has issued before batch `b`. -/
def legacyIssued (b : Nat) : Nat :=
  yearsMinted (fun y => y / 10 * 9) mintPool (b / 365) + legacyDailyIssue (b / 365) * (b % 365)

theorem takeYearShare_eq (credit : Nat → Nat) (s : Nat × Nat) :
    takeYearShare credit s = .ok (s.1 + credit (s.2 / 10), decay s.2) := by
  simp [takeYearShare, Integer.sub_of_le (Nat.div_le_self s.2 10), decay]

theorem forCount_takeYearShare (credit : Nat → Nat) (k : Nat) (m p : Nat) :
    forCount (takeYearShare credit) k (m, p) = .ok (m + yearsMinted credit p k, decay^[k] p) := by
  induction k generalizing m p with
  | zero => rfl
  | succ k ih =>
    simp only [forCount_succ, takeYearShare_eq, ok_bind, ih, yearsMinted,
      Function.iterate_succ_apply, Nat.add_assoc]

theorem decay_le (p : Nat) : decay p ≤ p := Nat.sub_le p _

theorem decay_pos {p : Nat} (h : 0 < p) : 0 < decay p := by unfold decay; omega

theorem iterate_decay_le (k p : Nat) : decay^[k] p ≤ p := by
  induction k generalizing p with
  | zero => exact le_rfl
  | succ k ih => exact (ih (decay p)).trans (decay_le p)

theorem yearsMinted_id (p k : Nat) : yearsMinted id p k = p - decay^[k] p := by
  induction k generalizing p with
  | zero => simp [yearsMinted]
  | succ k ih =>
    have h := iterate_decay_le k (decay p)
    simp only [yearsMinted, ih, Function.iterate_succ_apply, id, decay] at h ⊢
    omega

theorem yearsMinted_succ (credit : Nat → Nat) (p k : Nat) :
    yearsMinted credit p (k + 1) = yearsMinted credit p k + credit (decay^[k] p / 10) := by
  induction k generalizing p with
  | zero => simp [yearsMinted]
  | succ k ih =>
    rw [yearsMinted, ih, yearsMinted, Function.iterate_succ_apply]; omega

theorem yearPool_succ (k : Nat) : yearPool (k + 1) = decay (yearPool k) :=
  Function.iterate_succ_apply' decay k mintPool

theorem yearPool_pos (k : Nat) : 0 < yearPool k := by
  induction k with
  | zero => decide
  | succ k ih => rw [yearPool_succ]; exact decay_pos ih

theorem yearPool_le (k : Nat) : yearPool k ≤ mintPool := iterate_decay_le k mintPool

theorem yearPool_antitone {k k' : Nat} (h : k ≤ k') : yearPool k' ≤ yearPool k := by
  obtain ⟨n, rfl⟩ := Nat.exists_eq_add_of_le h
  simp only [yearPool, Nat.add_comm k n, Function.iterate_add_apply]
  exact iterate_decay_le n _

theorem dailyIssue_antitone {k k' : Nat} (h : k ≤ k') : dailyIssue k' ≤ dailyIssue k := by
  have := yearPool_antitone h
  unfold dailyIssue; omega

theorem legacyDailyIssue_antitone {k k' : Nat} (h : k ≤ k') :
    legacyDailyIssue k' ≤ legacyDailyIssue k := by
  have := dailyIssue_antitone h
  unfold legacyDailyIssue; omega

theorem universalIssued_eq (b : Nat) :
    universalIssued b = mintPool - yearPool (b / 365) + dailyIssue (b / 365) * (b % 365) := by
  rw [universalIssued, yearsMinted_id]; rfl

theorem universalIssued_lt (b : Nat) : universalIssued b < mintPool := by
  have hp := yearPool_pos (b / 365)
  have hle := yearPool_le (b / 365)
  have hc : b % 365 < 365 := Nat.mod_lt b (by decide)
  have hd : dailyIssue (b / 365) * (b % 365) ≤ dailyIssue (b / 365) * 365 :=
    Nat.mul_le_mul_left _ hc.le
  rw [universalIssued_eq]
  unfold dailyIssue at hd ⊢
  omega

theorem yearsMinted_le_id (credit : Nat → Nat) (hc : ∀ y, credit y ≤ y) (p k : Nat) :
    yearsMinted credit p k ≤ yearsMinted id p k := by
  induction k generalizing p with
  | zero => exact le_rfl
  | succ k ih => exact Nat.add_le_add (hc _) (ih _)

theorem legacyIssued_le_universalIssued (b : Nat) : legacyIssued b ≤ universalIssued b := by
  have hy := yearsMinted_le_id (fun y => y / 10 * 9) (fun y => show y / 10 * 9 ≤ y by omega) mintPool (b / 365)
  have hd : legacyDailyIssue (b / 365) ≤ dailyIssue (b / 365) := by
    unfold legacyDailyIssue; omega
  exact Nat.add_le_add hy (Nat.mul_le_mul_right _ hd)

/-- After the first year the legacy schedule lags the universal one. -/
theorem legacyIssued_lt_universalIssued {b : Nat} (h : 365 ≤ b) :
    legacyIssued b < universalIssued b := by
  obtain ⟨k, hk⟩ : ∃ k, b / 365 = k + 1 := ⟨b / 365 - 1, by omega⟩
  have hy := yearsMinted_le_id (fun y => y / 10 * 9) (fun y => show y / 10 * 9 ≤ y by omega)
    (decay mintPool) k
  have hd : legacyDailyIssue (b / 365) ≤ dailyIssue (b / 365) := by
    unfold legacyDailyIssue; omega
  have hm := Nat.mul_le_mul_right (b % 365) hd
  have hfirst : mintPool / 10 / 10 * 9 < mintPool / 10 := by decide
  rw [hk] at hm
  simp only [legacyIssued, universalIssued, hk, yearsMinted, id]
  omega

/-- The tail shared by both pool sizes. -/
theorem mintOrPool_eq {mint : Nat} (h : mint ≤ mintPool) :
    (if mint > 0 then Integer.sub mintPool mint else pure mintPool) = .ok (mintPool - mint) := by
  split
  · exact Integer.sub_of_le h
  · simp_all

@[simp] theorem add_mul_count (m d c : Nat) : (if c > 0 then m + d * c else m) = m + d * c := by
  split <;> simp_all

theorem poolSizeUniversal_eq (b : Nat) :
    poolSizeUniversal b = .ok (mintPool - universalIssued b) := by
  simp only [poolSizeUniversal, mintYearBatches_eq, mintYearShares_eq, forCount_takeYearShare,
    ok_bind, Nat.zero_add, add_mul_count]
  exact mintOrPool_eq (universalIssued_lt b).le

theorem poolSizeLegacy_eq (b : Nat) : poolSizeLegacy b = .ok (mintPool - legacyIssued b) := by
  simp only [poolSizeLegacy, mintYearBatches_eq, mintYearShares_eq, forCount_takeYearShare,
    ok_bind, Nat.zero_add, add_mul_count]
  exact mintOrPool_eq ((legacyIssued_le_universalIssued b).trans (universalIssued_lt b).le)

/-- Batch `j + 1` adds at least its own daily issue to the universal schedule. -/
theorem universalIssued_step (j : Nat) :
    universalIssued j + dailyIssue ((j + 1) / 365) ≤ universalIssued (j + 1) := by
  rcases Nat.lt_or_ge (j % 365) 364 with hc | hc
  · have hk : (j + 1) / 365 = j / 365 := by omega
    have hm : (j + 1) % 365 = j % 365 + 1 := by omega
    rw [universalIssued, universalIssued, hk, hm, Nat.mul_succ, Nat.add_assoc]
  · have hk : (j + 1) / 365 = j / 365 + 1 := by omega
    have hm : (j + 1) % 365 = 0 := by omega
    have hle := yearPool_le (j / 365)
    rw [universalIssued_eq, universalIssued_eq, hk, hm, show j % 365 = 364 by omega]
    simp only [dailyIssue, yearPool_succ, decay]
    omega

theorem legacyIssued_step (j : Nat) :
    legacyIssued j + legacyDailyIssue ((j + 1) / 365) ≤ legacyIssued (j + 1) := by
  rcases Nat.lt_or_ge (j % 365) 364 with hc | hc
  · have hk : (j + 1) / 365 = j / 365 := by omega
    have hm : (j + 1) % 365 = j % 365 + 1 := by omega
    rw [legacyIssued, legacyIssued, hk, hm, Nat.mul_succ, Nat.add_assoc]
  · have hk : (j + 1) / 365 = j / 365 + 1 := by omega
    have hm : (j + 1) % 365 = 0 := by omega
    rw [legacyIssued, legacyIssued, hk, hm, show j % 365 = 364 by omega, yearsMinted_succ]
    simp only [legacyDailyIssue, dailyIssue, yearPool_succ, decay]
    rw [yearPool]
    omega

theorem universalIssued_le_succ (b : Nat) : universalIssued b ≤ universalIssued (b + 1) :=
  (Nat.le_add_right _ _).trans (universalIssued_step b)

theorem legacyIssued_le_succ (b : Nat) : legacyIssued b ≤ legacyIssued (b + 1) :=
  (Nat.le_add_right _ _).trans (legacyIssued_step b)

/-- A catch-up mint at `b`'s daily issue for the batches since `d` stays within the schedule. -/
theorem universalIssued_catchUp {d b : Nat} (h : d ≤ b) :
    universalIssued d + dailyIssue (b / 365) * (b - d) ≤ universalIssued b := by
  induction b, h using Nat.le_induction with
  | base => simp
  | succ b hdb ih =>
    have hD := dailyIssue_antitone
      (Nat.div_le_div_right (Nat.le_add_right b 1) : b / 365 ≤ (b + 1) / 365)
    have hm := Nat.mul_le_mul_right (b - d) hD
    have hs := universalIssued_step b
    rw [show b + 1 - d = b - d + 1 by omega, Nat.mul_succ]
    omega

theorem legacyIssued_catchUp {d b : Nat} (h : d ≤ b) :
    legacyIssued d + legacyDailyIssue (b / 365) * (b - d) ≤ legacyIssued b := by
  induction b, h using Nat.le_induction with
  | base => simp
  | succ b hdb ih =>
    have hD := legacyDailyIssue_antitone
      (Nat.div_le_div_right (Nat.le_add_right b 1) : b / 365 ≤ (b + 1) / 365)
    have hm := Nat.mul_le_mul_right (b - d) hD
    have hs := legacyIssued_step b
    rw [show b + 1 - d = b - d + 1 by omega, Nat.mul_succ]
    omega

theorem pool_size_laws (b : Nat) :
    ∃ u l u' l', poolSizeUniversal b = .ok u ∧ poolSizeLegacy b = .ok l ∧
      poolSizeUniversal (b + 1) = .ok u' ∧ poolSizeLegacy (b + 1) = .ok l' ∧
      0 < u ∧ u ≤ l ∧ l ≤ mintPool ∧ Integer.sub l u = .ok (l - u) ∧ u' ≤ u ∧ l' ≤ l := by
  have hlt := universalIssued_lt b
  have hlu := legacyIssued_le_universalIssued b
  have hu := universalIssued_le_succ b
  have hl := legacyIssued_le_succ b
  refine ⟨_, _, _, _, poolSizeUniversal_eq b, poolSizeLegacy_eq b, poolSizeUniversal_eq (b + 1),
    poolSizeLegacy_eq (b + 1), by omega, by omega, by omega, Integer.sub_of_le (by omega),
    by omega, by omega⟩

/-- `pledgeAmount` spreads the liquidity and the released years over the node maximum. -/
theorem pledgeAmount_eq (sinceEpoch : Nat) :
    pledgeAmount sinceEpoch = .ok ((mintLiquidity +
      (mintPool - yearPool (sinceEpoch / 3600000000000 / 24 / 365))) / mintNodeMaximum) := by
  simp only [pledgeAmount, mintYearBatches_eq, forCount_takeYearShare, ok_bind, yearsMinted_id]
  rfl

/-- The pledge never falls, and stays within the liquidity and pool over the node maximum. -/
theorem pledgeAmount_mono {s s' : Nat} (h : s ≤ s') :
    ∃ p p', pledgeAmount s = .ok p ∧ pledgeAmount s' = .ok p' ∧ p ≤ p' ∧
      p' ≤ (mintLiquidity + mintPool) / mintNodeMaximum := by
  have hy := yearPool_antitone (Nat.div_le_div_right (c := 365)
    (Nat.div_le_div_right (c := 24) (Nat.div_le_div_right (c := 3600000000000) h)))
  exact ⟨_, _, pledgeAmount_eq s, pledgeAmount_eq s', Nat.div_le_div_right (by omega),
    Nat.div_le_div_right (by omega)⟩

end MixinKernel.Pool
