import MixinKernel.Kernel
import Mathlib.Algebra.BigOperators.Ring.List
import Mathlib.Algebra.Ring.Nat

/-!
# Kernel mint distribution by works

`distributeKernelMintByWorks` splits `base` over the accepted kernel nodes. A node's raw work
weighs its produced snapshots 1.2 and its signed ones 1. The statistics loop counts the
nonzero works and finds their minimum, maximum and total; the average leaves out one
minimum and one maximum. Each work is clamped around the average,

  a = average work
  for x > 7a, y = 2a
  for 7a > x > a, y = 1/6x + 5/6a
  for a > x > 1/7a, y = x
  for x < 1/7a, y = 1/7a

and each node gets its clamped work's share of `base`, rounded down.
-/

namespace MixinKernel.Distribute

open MixinKernel.Common MixinKernel.Kernel

/-- `uint64(time.Hour) * 24`. -/
def dayNanos : Nat := 3600000000000 * 24

def validateWorksAndSpacesAggregator (node : Node) (store : Store) (cids : List Hash)
    (thr day : Nat) : Except String Unit := do
  let works ← store.listNodeWorks cids day
  let worksAgg := works.countP fun w => w.2.1 > 0
  let worksLen := works.length
  if worksAgg < thr then
    throw s!"validateWorksAndSpacesAggregator works not ready yet {day} {worksLen} {worksAgg} {thr}"
  let spaces ← store.listAggregatedRoundSpaceCheckpoints cids
  let epoch := node.epoch / dayNanos
  let batch := day - epoch
  let spacesAgg := spaces.countP fun s => s.batch ≥ batch
  let spacesLen := spaces.length
  if spacesAgg < thr ∨ worksAgg ≠ spacesAgg then
    throw s!"validateWorksAndSpacesAggregator spaces not ready yet {batch} {spacesLen} {spacesAgg} {worksAgg} {thr}"
  pure ()

/-- `ListRoundSpaces(cids, day)`; the distributor only logs what it returns. -/
def listRoundSpaces (node : Node) (store : Store) (cids : List Hash) (day : Nat) :
    Except String (List (List RoundSpace)) :=
  let epoch := node.epoch / dayNanos
  cids.mapM fun id => store.readNodeRoundSpacesForBatch id (day - epoch)

/-- `ListMintWorks(batch)`: the works of the nodes accepted on the day of the batch. -/
def listMintWorks (node : Node) (store : Store) (batch : Nat) :
    Except String (List (Hash × Nat × Nat)) :=
  let now := (node.epoch + batch * dayNanos) % 2 ^ 64
  store.listNodeWorks ((node.nodesListWithoutState now).map (·.idForNetwork))
    (now / dayNanos % 2 ^ 32)

/-- `works[id]`, zero for a node without works. -/
def lookupWork (works : List (Hash × Nat × Nat)) (id : Hash) : Nat × Nat :=
  (works.lookup id).getD (0, 0)

/-- A node's raw work from its day's `(w0, w1)`. -/
def rawWork (w : Nat × Nat) : Nat :=
  let work := newInteger w.1 * 120 / 100
  let sign := newInteger w.2
  if sign > 0 then work + sign else work

/-- The statistics loop's `valid`, `minW`, `maxW` and `totalW`. -/
structure WorkStats where
  valid : Nat
  minW : Nat
  maxW : Nat
  totalW : Nat
  deriving DecidableEq, Repr

/-- One iteration of the statistics loop. -/
def WorkStats.push (s : WorkStats) (w : Nat) : WorkStats :=
  if w = 0 then s
  else
    { valid := s.valid + 1
      minW := if s.minW = 0 then w else if w < s.minW then w else s.minW
      maxW := if w > s.maxW then w else s.maxW
      totalW := s.totalW + w }

/-- The clamp of one work around `avg`, with `upper = 7 avg` and `lower = avg / 7`. -/
def clampWork (avg upper lower w : Nat) : Nat :=
  if w ≥ upper then avg * 2
  else if w ≥ avg then w / 6 + avg * 5 / 6
  else if w ≤ lower then avg / 7
  else w

/-- One iteration of the ratio loop: the node's work becomes its fraction of `base`. -/
def shareOf (base totalW : Nat) (m : CNodeWork) : Except Fault CNodeWork := do
  let rat ← Integer.ration m.work totalW
  pure { m with work := rat.product base }

/-- `distributeKernelMintByWorks` from the statistics loop on, over the nodes' raw works. -/
def shareByWorks (day thr base : Nat) (mints : List CNodeWork) :
    Except Fault (List CNodeWork) := do
  let stats := (mints.map (·.work)).foldl WorkStats.push ⟨0, 0, 0, 0⟩
  let n := mints.length
  let valid := stats.valid
  if valid < thr then
    throw (.error s!"distributeKernelMintByWorks not valid {day} {n} {thr} {valid}")
  let totalW ← Integer.sub stats.totalW stats.minW
  let totalW ← Integer.sub totalW stats.maxW
  let avg ← Integer.div totalW (valid - 2)
  if avg = 0 then
    throw (.error s!"distributeKernelMintByWorks not valid {day} {n} {thr} {valid}")
  let upper := avg * 7
  let lower := avg / 7
  let mints := mints.map fun m => { m with work := clampWork avg upper lower m.work }
  let totalW := (mints.map (·.work)).sum
  mints.mapM (shareOf base totalW)

def distributeKernelMintByWorks (node : Node) (store : Store) (accepted : List CNode)
    (base timestamp : Nat) : Except Fault (List CNodeWork) := do
  let mints := accepted.map fun n => (⟨n, 0⟩ : CNodeWork)
  let cids := accepted.map (·.idForNetwork)
  let epoch := node.epoch / dayNanos
  let day := timestamp / dayNanos
  if day < epoch then throw (.panic s!"invalid mint day {epoch} {day}")
  if day - epoch = 0 then
    let work ← Integer.div base mints.length
    return mints.map fun m => { m with work := work }
  let thr := node.consensusThreshold timestamp
  let _ ← wrapError (fun err => s!"distributeKernelMintByWorks not ready yet {day} {err}")
    (validateWorksAndSpacesAggregator node store cids thr day)
  let works ← liftError (store.listNodeWorks cids (day - 1))
  let _ ← liftError (listRoundSpaces node store cids (day - 1))
  let mints := mints.map fun m => { m with work := rawWork (lookupWork works m.idForNetwork) }
  shareByWorks day thr base mints

/-- What the statistics loop keeps over works that are zero or at least `L`. -/
def WorkStats.Inv (L : Nat) (s : WorkStats) : Prop :=
  (s.valid = 0 → s.minW = 0 ∧ s.maxW = 0 ∧ s.totalW = 0) ∧
  (0 < s.valid → L ≤ s.minW ∧ s.minW ≤ s.maxW ∧ s.maxW + (s.valid - 1) * s.minW ≤ s.totalW)

theorem WorkStats.inv_zero (L : Nat) : WorkStats.Inv L ⟨0, 0, 0, 0⟩ :=
  ⟨fun _ => ⟨rfl, rfl, rfl⟩, fun h => absurd h (lt_irrefl 0)⟩

theorem WorkStats.Inv.push {L : Nat} {s : WorkStats} (hL : 0 < L) (h : s.Inv L) {w : Nat}
    (hw : w = 0 ∨ L ≤ w) : (s.push w).Inv L := by
  rcases hw with rfl | hw
  · simpa [WorkStats.push] using h
  have hw0 : w ≠ 0 := by omega
  obtain ⟨h0, h1⟩ := h
  rcases Nat.eq_zero_or_pos s.valid with hv | hv
  · obtain ⟨hmin, hmax, htot⟩ := h0 hv
    refine ⟨fun h => by simp [WorkStats.push, hw0] at h, fun _ => ?_⟩
    simp only [WorkStats.push, hw0, hmin, hmax, htot, hv, if_true, if_false,
      show w > 0 by omega]
    omega
  · obtain ⟨hLm, hmM, htot⟩ := h1 hv
    obtain ⟨v, hv'⟩ : ∃ v, s.valid = v + 1 := ⟨s.valid - 1, by omega⟩
    refine ⟨fun h => by simp [WorkStats.push, hw0] at h, fun _ => ?_⟩
    simp only [WorkStats.push, hw0, show s.minW ≠ 0 by omega, if_false, hv',
      Nat.add_sub_cancel] at htot ⊢
    have hmul : ∀ x, x ≤ s.minW → v * x ≤ v * s.minW := fun x hx => Nat.mul_le_mul_left v hx
    rw [Nat.succ_mul]
    split_ifs with h₁ h₂ h₂
    · have := hmul w h₁.le; omega
    · have := hmul w h₁.le; omega
    · have := hmul s.minW le_rfl; omega
    · have := hmul s.minW le_rfl; omega

theorem WorkStats.Inv.foldl {L : Nat} (hL : 0 < L) {ws : List Nat} (hws : ∀ w ∈ ws, w = 0 ∨ L ≤ w) :
    ∀ {s : WorkStats}, s.Inv L → (ws.foldl WorkStats.push s).Inv L := by
  induction ws with
  | nil => exact id
  | cons w ws ih =>
    intro s hs
    exact ih (fun x hx => hws x (List.mem_cons_of_mem w hx))
      (hs.push hL (hws w (List.mem_cons_self w ws)))

theorem WorkStats.foldl_valid_le (ws : List Nat) (s : WorkStats) :
    (ws.foldl WorkStats.push s).valid ≤ s.valid + ws.length := by
  induction ws generalizing s with
  | nil => simp
  | cons w ws ih =>
    have : (s.push w).valid ≤ s.valid + 1 := by unfold WorkStats.push; split <;> simp
    simp only [List.foldl_cons, List.length_cons]
    have := ih (s.push w)
    omega

theorem WorkStats.Inv.avg {L : Nat} {s : WorkStats} (h : s.Inv L) (hv : 3 ≤ s.valid) :
    s.minW ≤ s.totalW ∧ s.maxW ≤ s.totalW - s.minW ∧
      L ≤ (s.totalW - s.minW - s.maxW) / (s.valid - 2) := by
  obtain ⟨hLm, hmM, htot⟩ := h.2 (by omega)
  obtain ⟨u, hu⟩ : ∃ u, s.valid = u + 3 := ⟨s.valid - 3, by omega⟩
  rw [hu] at htot ⊢
  simp only [show u + 3 - 1 = (u + 1) + 1 by omega, show u + 3 - 2 = u + 1 by omega,
    Nat.succ_mul] at htot ⊢
  refine ⟨by omega, by omega, (Nat.le_div_iff_mul_le (by omega)).mpr ?_⟩
  have := Nat.mul_le_mul_right (u + 1) hLm
  rw [Nat.mul_comm s.minW, Nat.succ_mul] at this
  omega


/-- The clamp never lowers a larger work below a smaller one's, across every boundary. -/
theorem clampWork_mono (avg : Nat) {x y : Nat} (h : x ≤ y) :
    clampWork avg (avg * 7) (avg / 7) x ≤ clampWork avg (avg * 7) (avg / 7) y := by
  unfold clampWork
  split_ifs <;> omega

theorem clampWork_ge (avg x : Nat) : avg / 7 ≤ clampWork avg (avg * 7) (avg / 7) x := by
  unfold clampWork
  split_ifs <;> omega

theorem clampWork_le (avg x : Nat) : clampWork avg (avg * 7) (avg / 7) x ≤ avg * 2 := by
  unfold clampWork
  split_ifs <;> omega

theorem sum_div_bounds (xs : List Nat) (T : Nat) :
    (xs.map (· / T)).sum * T ≤ xs.sum ∧
      (0 < T → xs.sum + xs.length ≤ ((xs.map (· / T)).sum + xs.length) * T) := by
  induction xs with
  | nil => simp
  | cons x xs ih =>
    have hd := Nat.div_add_mod x T
    simp only [List.map_cons, List.sum_cons, List.length_cons, Nat.add_mul] at ih ⊢
    refine ⟨by rw [Nat.mul_comm] at hd; omega, fun hT => ?_⟩
    have := Nat.mod_lt x hT
    have := ih.2 hT
    rw [Nat.mul_comm] at hd
    omega



def clampedTotal (avg : Nat) (mints : List CNodeWork) : Nat :=
  (mints.map fun m => clampWork avg (avg * 7) (avg / 7) m.work).sum

def clampedShares (avg base : Nat) (mints : List CNodeWork) : List CNodeWork :=
  mints.map fun m => { m with
    work := base * clampWork avg (avg * 7) (avg / 7) m.work / clampedTotal avg mints }

theorem mapM_shareOf {base T : Nat} {ms r : List CNodeWork}
    (h : ms.mapM (shareOf base T) = .ok r) :
    r = ms.map (fun m => { m with work := base * m.work / T }) ∧ (ms = [] ∨ 0 < T) := by
  induction ms generalizing r with
  | nil =>
    simp only [List.mapM_nil, pure_eq_ok, Except.ok.injEq] at h
    exact ⟨h.symm, .inl rfl⟩
  | cons m ms ih =>
    rw [List.mapM_cons] at h
    obtain ⟨a, ha, h⟩ := bind_eq_ok.mp h
    obtain ⟨rs, hrs, h⟩ := bind_eq_ok.mp h
    unfold shareOf Integer.ration at ha
    split at ha
    · cases ha
    · simp only [pure_eq_ok, ok_bind, Except.ok.injEq] at ha h
      subst ha h
      exact ⟨by simp [(ih hrs).1, Integer.Rational.product], .inr (by omega)⟩

theorem mapM_shareOf_of_pos {base T : Nat} (hT : 0 < T) (ms : List CNodeWork) :
    ms.mapM (shareOf base T) = .ok (ms.map fun m => { m with work := base * m.work / T }) := by
  induction ms with
  | nil => rfl
  | cons m ms ih =>
    rw [List.mapM_cons]
    simp only [shareOf, Integer.ration_of_pos hT, ok_bind, pure_eq_ok, ih,
      Integer.Rational.product, List.map_cons]

theorem mapM_shareOf_eq_ok_iff {base T : Nat} {ms r : List CNodeWork} :
    ms.mapM (shareOf base T) = .ok r ↔
      (ms = [] ∨ 0 < T) ∧ r = ms.map (fun m => { m with work := base * m.work / T }) := by
  refine ⟨fun h => ⟨(mapM_shareOf h).2, (mapM_shareOf h).1⟩, ?_⟩
  rintro ⟨rfl | hT, rfl⟩
  · rfl
  · exact mapM_shareOf_of_pos hT ms

theorem clampedTotal_pos {avg : Nat} (h7 : 7 ≤ avg) {mints : List CNodeWork}
    (hne : mints ≠ []) : 0 < clampedTotal avg mints := by
  obtain ⟨m, ms, rfl⟩ := List.exists_cons_of_ne_nil hne
  have := clampWork_ge avg m.work
  simp only [clampedTotal, List.map_cons, List.sum_cons]
  omega

@[simp] theorem clampedShares_toCNode (avg base : Nat) (mints : List CNodeWork) :
    (clampedShares avg base mints).map (·.toCNode) = mints.map (·.toCNode) := by
  simp [clampedShares]

/-- The shares never exceed `base`, and fall short of it by less than one unit a node. -/
theorem clampedShares_sum (avg base : Nat) (mints : List CNodeWork) :
    ((clampedShares avg base mints).map (·.work)).sum ≤ base ∧
      (0 < clampedTotal avg mints →
        base < ((clampedShares avg base mints).map (·.work)).sum + mints.length) := by
  set T := clampedTotal avg mints with hT
  have hb := sum_div_bounds (mints.map fun m => base * clampWork avg (avg * 7) (avg / 7) m.work) T
  have hsum : (mints.map fun m => base * clampWork avg (avg * 7) (avg / 7) m.work).sum = base * T := by
    exact List.sum_map_mul_left mints (fun m => clampWork avg (avg * 7) (avg / 7) m.work) base
  simp only [List.map_map, List.length_map, hsum] at hb
  have hs : (clampedShares avg base mints).map (·.work) =
      mints.map ((· / T) ∘ fun m => base * clampWork avg (avg * 7) (avg / 7) m.work) := by
    simp [clampedShares, ← hT]
  rw [hs]
  refine ⟨?_, fun hpos => ?_⟩
  · rcases Nat.eq_zero_or_pos T with h0 | hpos
    · simp [h0, Function.comp_def]
    · exact Nat.le_of_mul_le_mul_right hb.1 hpos
  · have h := hb.2 hpos
    have hn : 0 < mints.length := by
      rcases mints with _ | ⟨m, ms⟩
      · simp [hT, clampedTotal] at hpos
      · simp
    rw [Nat.add_mul] at h
    have h' : base * T < ((mints.map ((· / T) ∘ fun m =>
        base * clampWork avg (avg * 7) (avg / 7) m.work)).sum + mints.length) * T := by
      rw [Nat.add_mul]; omega
    exact Nat.lt_of_mul_lt_mul_right h'

theorem shareByWorks_ok {day thr base : Nat} {mints ms : List CNodeWork}
    (h : shareByWorks day thr base mints = .ok ms) :
    ∃ avg, 0 < avg ∧ ms = clampedShares avg base mints ∧
      (mints = [] ∨ 0 < clampedTotal avg mints) := by
  simp only [shareByWorks, throw_eq_error, error_bind, pure_eq_ok, ok_bind] at h
  split at h
  · cases h
  obtain ⟨t1, -, h⟩ := bind_eq_ok.mp h
  obtain ⟨t2, -, h⟩ := bind_eq_ok.mp h
  obtain ⟨avg, -, h⟩ := bind_eq_ok.mp h
  split at h
  · cases h
  obtain ⟨rfl, hT⟩ := mapM_shareOf h
  refine ⟨avg, by omega, by simp [clampedShares, clampedTotal, Function.comp_def], ?_⟩
  simpa [clampedTotal] using hT

/-- With a threshold of three or more, `shareByWorks` errs or returns the clamped shares. -/
theorem shareByWorks_cases {day thr base : Nat} {mints : List CNodeWork} (hthr : 3 ≤ thr)
    (hw : ∀ m ∈ mints, m.work = 0 ∨ 7 ≤ m.work) :
    (∃ e, shareByWorks day thr base mints = .error (.error e)) ∨
      ∃ avg, shareByWorks day thr base mints = .ok (clampedShares avg base mints) ∧
        0 < clampedTotal avg mints := by
  have hinv := WorkStats.Inv.foldl (show 0 < 7 by decide)
    (show ∀ w ∈ mints.map (·.work), w = 0 ∨ 7 ≤ w by simpa using hw) (WorkStats.inv_zero 7)
  have hlen := WorkStats.foldl_valid_le (mints.map (·.work)) ⟨0, 0, 0, 0⟩
  generalize hs : (mints.map (·.work)).foldl WorkStats.push ⟨0, 0, 0, 0⟩ = s at hinv hlen
  by_cases hv : s.valid < thr
  · left
    simp only [shareByWorks, hs, hv, if_true, throw_eq_error, error_bind]
    exact ⟨_, rfl⟩
  · right
    obtain ⟨h1, h2, havg⟩ := hinv.avg (by omega)
    have hne : mints ≠ [] := by rintro rfl; simp at hlen; omega
    refine ⟨(s.totalW - s.minW - s.maxW) / (s.valid - 2), ?_, clampedTotal_pos havg hne⟩
    simp only [shareByWorks, hs, hv, if_false, pure_eq_ok, ok_bind, Integer.sub_of_le h1,
      Integer.sub_of_le h2, Integer.div_of_pos (show 0 < s.valid - 2 by omega),
      show (s.totalW - s.minW - s.maxW) / (s.valid - 2) ≠ 0 by omega]
    rw [mapM_shareOf_of_pos (by simpa [clampedTotal] using clampedTotal_pos havg hne)]
    simp [clampedShares, clampedTotal, Function.comp_def]

theorem rawWork_eq_zero_or_ge (w : Nat × Nat) : rawWork w = 0 ∨ 7 ≤ rawWork w := by
  unfold rawWork newInteger Precision
  simp only [Nat.reducePow]
  split <;> omega

theorem mem_clampedShares {avg base : Nat} {mints : List CNodeWork} {m : CNodeWork}
    (h : m ∈ clampedShares avg base mints) : ∃ m' ∈ mints, m.toCNode = m'.toCNode ∧
      m.work = base * clampWork avg (avg * 7) (avg / 7) m'.work / clampedTotal avg mints := by
  obtain ⟨m', hm', rfl⟩ := List.mem_map.mp h
  exact ⟨m', hm', rfl, rfl⟩

/-- Past the epoch's day the distributor errs, or hands the raw works to `shareByWorks`. -/
theorem distributeKernelMintByWorks_cases {node : Node} {store : Store} {accepted : List CNode}
    {base timestamp : Nat} (hday : node.epoch / dayNanos < timestamp / dayNanos) :
    (∃ e, distributeKernelMintByWorks node store accepted base timestamp = .error (.error e)) ∨
      ∃ works, store.listNodeWorks (accepted.map (·.idForNetwork)) (timestamp / dayNanos - 1) =
          .ok works ∧
        distributeKernelMintByWorks node store accepted base timestamp =
          shareByWorks (timestamp / dayNanos) (node.consensusThreshold timestamp) base
            (accepted.map fun n => ⟨n, rawWork (lookupWork works n.idForNetwork)⟩) := by
  simp only [distributeKernelMintByWorks, Nat.not_lt.mpr hday.le, if_false,
    show timestamp / dayNanos - node.epoch / dayNanos ≠ 0 by omega, pure_eq_ok, ok_bind]
  cases validateWorksAndSpacesAggregator node store (accepted.map (·.idForNetwork))
    (node.consensusThreshold timestamp) (timestamp / dayNanos) with
  | error e => exact .inl ⟨_, rfl⟩
  | ok u =>
    cases hw : store.listNodeWorks (accepted.map (·.idForNetwork)) (timestamp / dayNanos - 1) with
    | error e => exact .inl ⟨_, rfl⟩
    | ok works =>
      cases listRoundSpaces node store (accepted.map (·.idForNetwork)) (timestamp / dayNanos - 1) with
      | error e => exact .inl ⟨_, rfl⟩
      | ok spaces => exact .inr ⟨works, rfl, by simp [Function.comp_def]⟩

/-- `ListMintWorks(batch)` reads the works of day `epoch / day + batch`. -/
theorem listMintWorks_eq (node : Node) (store : Store) (batch : Nat)
    (h : node.epoch + batch * dayNanos < 2 ^ 64) :
    listMintWorks node store batch = store.listNodeWorks
      ((node.nodesListWithoutState (node.epoch + batch * dayNanos)).map (·.idForNetwork))
      (node.epoch / dayNanos + batch) := by
  have hday : (node.epoch + batch * dayNanos) / dayNanos = node.epoch / dayNanos + batch :=
    Nat.add_mul_div_right _ _ (by decide)
  have hfit : (node.epoch + batch * dayNanos) / dayNanos < 2 ^ 32 := by
    unfold dayNanos at h ⊢; omega
  simp only [listMintWorks, Nat.mod_eq_of_lt h, hday, Nat.mod_eq_of_lt (hday ▸ hfit)]

/-- The works `ListMintWorks` reports for a batch pay the mint on the next day. -/
theorem listMintWorks_day_of_next_mint (node : Node) (store : Store) {ts : Nat}
    (hday : node.epoch / dayNanos < ts / dayNanos) (hts : ts < 2 ^ 64) :
    listMintWorks node store (ts / dayNanos - 1 - node.epoch / dayNanos) =
      store.listNodeWorks ((node.nodesListWithoutState
        (node.epoch + (ts / dayNanos - 1 - node.epoch / dayNanos) * dayNanos)).map
          (·.idForNetwork)) (ts / dayNanos - 1) := by
  have hfit : node.epoch + (ts / dayNanos - 1 - node.epoch / dayNanos) * dayNanos < 2 ^ 64 := by
    unfold dayNanos at hday ⊢; omega
  rw [listMintWorks_eq node store _ hfit, Nat.add_sub_cancel' (by omega)]

theorem listMintWorks_day_of_next_mint_on_day_two :
    (exampleNode 0 false).epoch / dayNanos < (dayNanos * 2 + 3600000000000 * 5) / dayNanos ∧
      (dayNanos * 2 + 3600000000000 * 5) < 2 ^ 64 ∧
      listMintWorks (exampleNode 0 false) exampleStore
          ((dayNanos * 2 + 3600000000000 * 5) / dayNanos - 1 - (exampleNode 0 false).epoch / dayNanos) =
        exampleStore.listNodeWorks (((exampleNode 0 false).nodesListWithoutState
          ((exampleNode 0 false).epoch + ((dayNanos * 2 + 3600000000000 * 5) / dayNanos - 1 -
            (exampleNode 0 false).epoch / dayNanos) * dayNanos)).map (·.idForNetwork))
          ((dayNanos * 2 + 3600000000000 * 5) / dayNanos - 1) :=
  ⟨by decide, by decide, listMintWorks_day_of_next_mint _ _ (by decide) (by decide)⟩

theorem distributeKernelMintByWorks_of_ready {node : Node} {store : Store}
    {accepted : List CNode} {base timestamp : Nat} {works : List (Hash × Nat × Nat)}
    {spaces : List (List RoundSpace)} (hday : node.epoch / dayNanos < timestamp / dayNanos)
    (hv : validateWorksAndSpacesAggregator node store (accepted.map (·.idForNetwork))
      (node.consensusThreshold timestamp) (timestamp / dayNanos) = .ok ())
    (hw : store.listNodeWorks (accepted.map (·.idForNetwork)) (timestamp / dayNanos - 1) =
      .ok works)
    (hs : listRoundSpaces node store (accepted.map (·.idForNetwork)) (timestamp / dayNanos - 1) =
      .ok spaces) :
    distributeKernelMintByWorks node store accepted base timestamp =
      shareByWorks (timestamp / dayNanos) (node.consensusThreshold timestamp) base
        (accepted.map fun n => ⟨n, rawWork (lookupWork works n.idForNetwork)⟩) := by
  simp only [distributeKernelMintByWorks, Nat.not_lt.mpr hday.le, if_false,
    show timestamp / dayNanos - node.epoch / dayNanos ≠ 0 by omega, pure_eq_ok, ok_bind, hv, hw,
    hs, wrapError_ok, liftError_ok]
  simp [Function.comp_def]

theorem distributeKernelMintByWorks_of_epoch_day {node : Node} {store : Store}
    {accepted : List CNode} {base timestamp : Nat} {ms : List CNodeWork}
    (hday : timestamp / dayNanos ≤ node.epoch / dayNanos)
    (h : distributeKernelMintByWorks node store accepted base timestamp = .ok ms) :
    ∃ w, ms = accepted.map (fun n => ⟨n, w⟩) ∧ accepted.length * w ≤ base := by
  simp only [distributeKernelMintByWorks, pure_eq_ok, ok_bind,
    show timestamp / dayNanos - node.epoch / dayNanos = 0 by omega, if_true] at h
  split at h
  · cases h
  obtain ⟨w, hw, h⟩ := bind_eq_ok.mp h
  cases h
  unfold Integer.div at hw
  split at hw
  · cases hw
  · cases hw
    exact ⟨base / accepted.length, by simp [Function.comp_def], Nat.mul_div_le base _⟩

/-- On the epoch's own day every node gets the same share. -/
theorem distributeKernelMintByWorks_epoch_day {node : Node} {store : Store}
    {accepted : List CNode} {base timestamp : Nat} {ms : List CNodeWork}
    (hday : timestamp / dayNanos ≤ node.epoch / dayNanos)
    (h : distributeKernelMintByWorks node store accepted base timestamp = .ok ms) :
    ∀ m₁ ∈ ms, ∀ m₂ ∈ ms, m₁.work = m₂.work := by
  obtain ⟨w, rfl, -⟩ := distributeKernelMintByWorks_of_epoch_day hday h
  intro m₁ hm₁ m₂ hm₂
  obtain ⟨_, _, rfl⟩ := List.mem_map.mp hm₁
  obtain ⟨_, _, rfl⟩ := List.mem_map.mp hm₂
  rfl

/-- Whatever the distributor returns sums to at most `base`, on the epoch's day too. -/
theorem distributeKernelMintByWorks_sum_le {node : Node} {store : Store}
    {accepted : List CNode} {base timestamp : Nat} {ms : List CNodeWork}
    (h : distributeKernelMintByWorks node store accepted base timestamp = .ok ms) :
    (ms.map (·.work)).sum ≤ base := by
  rcases Nat.lt_or_ge (node.epoch / dayNanos) (timestamp / dayNanos) with hday | hday
  · rcases distributeKernelMintByWorks_cases hday with ⟨e, he⟩ | ⟨works, -, he⟩
    · rw [he] at h; cases h
    · rw [he] at h
      obtain ⟨avg, -, rfl, -⟩ := shareByWorks_ok h
      exact (clampedShares_sum _ _ _).1
  · obtain ⟨w, rfl, hw⟩ := distributeKernelMintByWorks_of_epoch_day hday h
    simpa [Function.comp_def] using hw

/-- The distributor never panics, and pays one share per node, within a unit a node of `base`. -/
theorem distributeKernelMintByWorks_never_panics (node : Node) (store : Store)
    (accepted : List CNode) (base timestamp : Nat)
    (hday : node.epoch / dayNanos + 1 ≤ timestamp / dayNanos)
    (hthr : 3 ≤ node.consensusThreshold timestamp) :
    (∀ msg, distributeKernelMintByWorks node store accepted base timestamp ≠ .error (.panic msg)) ∧
      ∀ ms, distributeKernelMintByWorks node store accepted base timestamp = .ok ms →
        ms.map (·.toCNode) = accepted ∧ (ms.map (·.work)).sum ≤ base ∧
          base < (ms.map (·.work)).sum + accepted.length := by
  rcases distributeKernelMintByWorks_cases hday with ⟨e, he⟩ | ⟨works, -, he⟩
  · rw [he]
    exact ⟨(fun msg h => nomatch h), (fun ms h => nomatch h)⟩
  · rw [he]
    have hw : ∀ m ∈ accepted.map (fun n => (⟨n, rawWork (lookupWork works n.idForNetwork)⟩ :
        CNodeWork)), m.work = 0 ∨ 7 ≤ m.work := by
      simp only [List.mem_map]
      rintro m ⟨n, -, rfl⟩
      exact rawWork_eq_zero_or_ge _
    rcases @shareByWorks_cases (timestamp / dayNanos) _ base _ hthr hw with
      ⟨e, he'⟩ | ⟨avg, he', hT⟩
    · rw [he']
      exact ⟨(fun msg h => nomatch h), (fun ms h => nomatch h)⟩
    · rw [he']
      refine ⟨(fun msg h => nomatch h), fun ms h => ?_⟩
      cases h
      obtain ⟨hle, hlt⟩ := clampedShares_sum avg base
        (accepted.map fun n => (⟨n, rawWork (lookupWork works n.idForNetwork)⟩ : CNodeWork))
      refine ⟨by simp [Function.comp_def], hle, by simpa using hlt hT⟩

theorem distributeKernelMintByWorks_never_panics_on_day_one :
    (exampleNode 0 true).epoch / dayNanos + 1 ≤ dayNanos / dayNanos ∧
      3 ≤ (exampleNode 0 true).consensusThreshold dayNanos ∧
      ((∀ msg, distributeKernelMintByWorks (exampleNode 0 true) exampleStore sevenNodes 700
          dayNanos ≠ .error (.panic msg)) ∧
        ∀ ms, distributeKernelMintByWorks (exampleNode 0 true) exampleStore sevenNodes 700
            dayNanos = .ok ms →
          ms.map (·.toCNode) = sevenNodes ∧ (ms.map (·.work)).sum ≤ 700 ∧
            700 < (ms.map (·.work)).sum + sevenNodes.length) :=
  ⟨by decide, by decide, distributeKernelMintByWorks_never_panics _ _ _ _ _ (by decide) (by decide)⟩


/-- The clamp is monotone into `[avg / 7, 2 avg]`, so more raw work never earns less. -/
theorem clamp_monotone_shares_ordered :
    (∀ avg, Monotone (clampWork avg (avg * 7) (avg / 7)) ∧
      ∀ x, avg / 7 ≤ clampWork avg (avg * 7) (avg / 7) x ∧
        clampWork avg (avg * 7) (avg / 7) x ≤ avg * 2) ∧
    ∀ (node : Node) (store : Store) (accepted : List CNode) (base timestamp : Nat)
      (works : List (Hash × Nat × Nat)) (ms : List CNodeWork),
      store.listNodeWorks (accepted.map (·.idForNetwork)) (timestamp / dayNanos - 1) = .ok works →
      distributeKernelMintByWorks node store accepted base timestamp = .ok ms →
      ∀ m₁ ∈ ms, ∀ m₂ ∈ ms, rawWork (lookupWork works m₁.idForNetwork) ≤
        rawWork (lookupWork works m₂.idForNetwork) → m₁.work ≤ m₂.work := by
  refine ⟨fun avg => ⟨fun x y h => clampWork_mono avg h,
    fun x => ⟨clampWork_ge avg x, clampWork_le avg x⟩⟩, ?_⟩
  intro node store accepted base timestamp works ms hworks h m₁ hm₁ m₂ hm₂ hle
  rcases Nat.lt_or_ge (node.epoch / dayNanos) (timestamp / dayNanos) with hday | hday
  · rcases distributeKernelMintByWorks_cases hday with ⟨e, he⟩ | ⟨works', hw', he⟩
    · rw [he] at h; cases h
    · rw [hworks, Except.ok.injEq] at hw'
      subst hw'
      rw [he] at h
      obtain ⟨avg, -, rfl, -⟩ := shareByWorks_ok h
      obtain ⟨n₁, hn₁, hc₁, hw₁⟩ := mem_clampedShares hm₁
      obtain ⟨n₂, hn₂, hc₂, hw₂⟩ := mem_clampedShares hm₂
      obtain ⟨a₁, -, rfl⟩ := List.mem_map.mp hn₁
      obtain ⟨a₂, -, rfl⟩ := List.mem_map.mp hn₂
      have e₁ : m₁.idForNetwork = a₁.idForNetwork := congrArg CNode.idForNetwork hc₁
      have e₂ : m₂.idForNetwork = a₂.idForNetwork := congrArg CNode.idForNetwork hc₂
      rw [e₁, e₂] at hle
      rw [hw₁, hw₂]
      exact Nat.div_le_div_right (Nat.mul_le_mul_left _ (clampWork_mono _ hle))
  · exact (distributeKernelMintByWorks_epoch_day hday h m₁ hm₁ m₂ hm₂).le

end MixinKernel.Distribute
