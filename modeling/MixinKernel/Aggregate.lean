import MixinKernel.Common

/-!
# The mint work aggregation loop

`Chain.AggregateMintWork` walks the rounds of a chain from the stored work offset. Each
iteration of its outer loop reads the cache round number and the snapshot works of the
current round; a round with works goes to `WriteRoundWork`, retried while the store
reports a write conflict, and the cursor moves on once the cache round is past it.

The loop is a state machine with a program counter at each place it returns to: the head of
the outer loop, the head of the retry loop, and the cursor update after it. The store and
the chain state are its environment: between two steps of the loop the cache round may
grow, works may be added to rounds, and the chain may stop. Every call to `WriteRoundWork`
is recorded with the round, the cache round number of its iteration, the works passed and
whether it succeeded.
-/

namespace MixinKernel.Aggregate

/-- A snapshot's work entry; the loop reads only its timestamp. -/
structure SnapshotWork where
  timestamp : Nat
  deriving DecidableEq, Repr

structure ChainEnv where
  running : Bool
  /-- `chain.State.CacheRound.Number`, or `none` while `chain.State` is nil. -/
  cacheRound : Option Nat
  /-- `ReadSnapshotWorksForNodeRound(chain.ChainId, round)` when the read succeeds. -/
  works : Nat → List SnapshotWork

/-- What `WriteRoundWork` returns: nil, `badger.ErrConflict`, or another error. -/
inductive WriteResult where
  | ok
  | conflict
  | failed (msg : String)
  deriving DecidableEq, Repr

inductive Panic where
  /-- `AggregateMintWork(%s) waiting %d %d`. -/
  | waiting (crn round : Nat)
  /-- `snapshots[0]` on an empty list. -/
  | indexOutOfRange
  /-- `panic(err)` on a write error other than a conflict. -/
  | writeFailed (msg : String)
  deriving DecidableEq, Repr

inductive Pc where
  /-- `for chain.running {` of the outer loop. -/
  | head
  /-- `for chain.running {` of the retry loop, with the iteration's `crn` and `snapshots`. -/
  | retry (crn : Nat) (snapshots : List SnapshotWork)
  /-- `if round < crn {` after the retry loop. -/
  | next (crn : Nat)
  | done
  | panicked (p : Panic)
  deriving DecidableEq, Repr

/-- A call `WriteRoundWork(chainId, round, snapshots)` of an iteration that read `crn`. -/
structure WriteCall where
  round : Nat
  crn : Nat
  snapshots : List SnapshotWork
  ok : Bool
  deriving DecidableEq, Repr

structure Agg where
  round : Nat
  pc : Pc
  calls : List WriteCall
  deriving DecidableEq, Repr

/-- One step of `AggregateMintWork`, up to its next wait, `continue` or store call. -/
def aggregateMintWork (mainnet : Bool) (fork : Nat) (env : ChainEnv)
    (read : Except String (List SnapshotWork)) (write : WriteResult) (s : Agg) : Agg :=
  match s.pc with
  | .head =>
    if !env.running then { s with pc := .done } else
    match env.cacheRound with
    | none => s
    | some crn =>
      if crn < s.round then { s with pc := .panicked (.waiting crn s.round) } else
      match read with
      | .error _ => s
      | .ok [] => s
      | .ok snapshots => { s with pc := .retry crn snapshots }
  | .retry crn snapshots =>
    if !env.running then { s with pc := .next crn } else
    -- `chain.node.isMainnet() && snapshots[0].Timestamp < fork`
    let stale := if mainnet then snapshots.head?.map (fun w => decide (w.timestamp < fork))
      else some false
    match stale with
    | none => { s with pc := .panicked .indexOutOfRange }
    | some stale =>
      let snapshots := if stale then [] else snapshots
      match write with
      | .ok => ⟨s.round, .next crn, s.calls ++ [⟨s.round, crn, snapshots, true⟩]⟩
      | .conflict =>
        ⟨s.round, .retry crn snapshots, s.calls ++ [⟨s.round, crn, snapshots, false⟩]⟩
      | .failed msg =>
        ⟨s.round, .panicked (.writeFailed msg), s.calls ++ [⟨s.round, crn, snapshots, false⟩]⟩
  | .next crn => if s.round < crn then { s with round := s.round + 1, pc := .head }
    else { s with pc := .head }
  | .done | .panicked _ => s

structure Sys where
  env : ChainEnv
  agg : Agg

/-- The loop's steps, interleaved with a raised cache round, a new work and a stop. -/
inductive Step (mainnet : Bool) (fork : Nat) : Sys → Sys → Prop
  | loop {env : ChainEnv} {agg : Agg} (read : Except String (List SnapshotWork))
      (write : WriteResult) (hread : read = .ok (env.works agg.round) ∨ ∃ e, read = .error e) :
      Step mainnet fork ⟨env, agg⟩ ⟨env, aggregateMintWork mainnet fork env read write agg⟩
  | raise {env : ChainEnv} {agg : Agg} {c c' : Nat} (h : env.cacheRound = some c)
      (hc : c ≤ c') : Step mainnet fork ⟨env, agg⟩ ⟨{ env with cacheRound := some c' }, agg⟩
  | addWork {env : ChainEnv} {agg : Agg} (r : Nat) (w : SnapshotWork) :
      Step mainnet fork ⟨env, agg⟩
        ⟨{ env with works := fun r' => if r' = r then env.works r ++ [w] else env.works r' }, agg⟩
  | stop {env : ChainEnv} {agg : Agg} :
      Step mainnet fork ⟨env, agg⟩ ⟨{ env with running := false }, agg⟩

/-- The states reached from `s₀` while the chain keeps running. -/
inductive Reach (mainnet : Bool) (fork : Nat) (s₀ : Sys) : Sys → Prop
  | init : Reach mainnet fork s₀ s₀
  | step {s s' : Sys} (h : Reach mainnet fork s₀ s) (hs : Step mainnet fork s s')
      (hrun : s'.env.running = true) : Reach mainnet fork s₀ s'

theorem Reach.loop {mainnet : Bool} {fork : Nat} {s₀ : Sys} {env : ChainEnv} {agg agg' : Agg}
    (h : Reach mainnet fork s₀ ⟨env, agg⟩) (hrun : env.running = true)
    {read : Except String (List SnapshotWork)} {write : WriteResult}
    (hread : read = .ok (env.works agg.round) ∨ ∃ e, read = .error e)
    (heq : aggregateMintWork mainnet fork env read write agg = agg') :
    Reach mainnet fork s₀ ⟨env, agg'⟩ :=
  heq ▸ .step h (.loop read write hread) hrun

theorem Reach.trans {mainnet : Bool} {fork : Nat} {s₀ s₁ s₂ : Sys}
    (h₁ : Reach mainnet fork s₀ s₁) (h₂ : Reach mainnet fork s₁ s₂) : Reach mainnet fork s₀ s₂ := by
  induction h₂ with
  | init => exact h₁
  | step _ hs hrun ih => exact .step ih hs hrun

/-- The accepted write of round `r`: its works, emptied on mainnet if the first is stale. -/
def roundWrite (mainnet : Bool) (fork : Nat) (env : ChainEnv) (crn r : Nat) : WriteCall :=
  ⟨r, crn, match env.works r with
    | w :: ws => if mainnet = true ∧ w.timestamp < fork then [] else w :: ws
    | [] => [], true⟩

/-- With works at the cursor and a later cache round, three iterations write the round. -/
theorem aggregateMintWork_advances (mainnet : Bool) (fork : Nat) (env : ChainEnv)
    (round crn : Nat) (calls : List WriteCall) (hrun : env.running = true)
    (hc : env.cacheRound = some crn) (hlt : round < crn) (hw : env.works round ≠ []) :
    Reach mainnet fork ⟨env, ⟨round, .head, calls⟩⟩
      ⟨env, ⟨round + 1, .head, calls ++ [roundWrite mainnet fork env crn round]⟩⟩ := by
  obtain ⟨w, ws, hws⟩ := List.exists_cons_of_ne_nil hw
  have h1 : aggregateMintWork mainnet fork env (.ok (env.works round)) .ok
      ⟨round, .head, calls⟩ = ⟨round, .retry crn (w :: ws), calls⟩ := by
    simp [aggregateMintWork, hrun, hc, Nat.not_lt.mpr hlt.le, hws]
  have h2 : aggregateMintWork mainnet fork env (.ok (env.works round)) .ok
      ⟨round, .retry crn (w :: ws), calls⟩ =
        ⟨round, .next crn, calls ++ [roundWrite mainnet fork env crn round]⟩ := by
    cases mainnet <;> simp [aggregateMintWork, hrun, roundWrite, hws]
  have h3 : ∀ calls', aggregateMintWork mainnet fork env (.ok (env.works round)) .ok
      ⟨round, .next crn, calls'⟩ = ⟨round + 1, .head, calls'⟩ := fun _ => by
    simp only [aggregateMintWork, if_pos hlt]
  exact ((Reach.init.loop hrun (.inl rfl) h1).loop hrun (.inl rfl) h2).loop hrun (.inl rfl) (h3 _)

theorem aggregateMintWork_retry_fresh {mainnet : Bool} {fork : Nat} {env : ChainEnv}
    {read : Except String (List SnapshotWork)} {write : WriteResult} {s : Agg} {crn : Nat}
    {w : SnapshotWork} {ws : List SnapshotWork} (hpc : s.pc = .retry crn (w :: ws))
    (hrun : env.running = true) (hfresh : mainnet = true → fork ≤ w.timestamp) :
    aggregateMintWork mainnet fork env read write s =
      match write with
      | .ok => ⟨s.round, .next crn, s.calls ++ [⟨s.round, crn, w :: ws, true⟩]⟩
      | .conflict => ⟨s.round, .retry crn (w :: ws), s.calls ++ [⟨s.round, crn, w :: ws, false⟩]⟩
      | .failed msg =>
        ⟨s.round, .panicked (.writeFailed msg), s.calls ++ [⟨s.round, crn, w :: ws, false⟩]⟩ := by
  have hstale : (if mainnet then (w :: ws).head?.map (fun w => decide (w.timestamp < fork))
      else some false) = some false := by
    cases mainnet
    · rfl
    · simp [Nat.not_lt.mpr (hfresh rfl)]
  simp only [aggregateMintWork, hpc, hrun, Bool.not_true, hstale]
  rfl

/-- On mainnet a stale round is written empty, and its retry indexes the empty list. -/
theorem aggregateMintWork_retry_stale {fork : Nat} {env : ChainEnv}
    {read read' : Except String (List SnapshotWork)} {write' : WriteResult} {s : Agg}
    {crn : Nat} {w : SnapshotWork} {ws : List SnapshotWork} (hpc : s.pc = .retry crn (w :: ws))
    (hrun : env.running = true) (hstale : w.timestamp < fork) :
    aggregateMintWork true fork env read .conflict s =
        ⟨s.round, .retry crn [], s.calls ++ [⟨s.round, crn, [], false⟩]⟩ ∧
      aggregateMintWork true fork env read' write'
          ⟨s.round, .retry crn [], s.calls ++ [⟨s.round, crn, [], false⟩]⟩ =
        ⟨s.round, .panicked .indexOutOfRange, s.calls ++ [⟨s.round, crn, [], false⟩]⟩ := by
  constructor
  · simp [aggregateMintWork, hpc, hrun, hstale]
  · simp [aggregateMintWork, hrun]

theorem aggregateMintWork_conflict_after_fork_drop_panics :
    Reach true 10 ⟨⟨true, some 0, fun _ => [⟨5⟩]⟩, ⟨0, .head, []⟩⟩
      ⟨⟨true, some 0, fun _ => [⟨5⟩]⟩, ⟨0, .panicked .indexOutOfRange, [⟨0, 0, [], false⟩]⟩⟩ :=
  .step (.step (.step .init (.loop (.ok [⟨5⟩]) .ok (.inl rfl)) rfl)
    (.loop (.ok [⟨5⟩]) .conflict (.inl rfl)) rfl) (.loop (.ok [⟨5⟩]) .ok (.inl rfl)) rfl

/-- The cache round number an iteration read, while the iteration lasts. -/
def Pc.crn? : Pc → Option Nat
  | .retry crn _ => some crn
  | .next crn => some crn
  | _ => none

/-- The last successful `WriteRoundWork` of round `r`. -/
def lastWrite (calls : List WriteCall) (r : Nat) : Option WriteCall :=
  (calls.filter fun c => decide (c.round = r) && c.ok).getLast?

theorem lastWrite_append_of_ne {calls : List WriteCall} {a : WriteCall} {r : Nat}
    (h : a.round ≠ r) : lastWrite (calls ++ [a]) r = lastWrite calls r := by
  simp [lastWrite, List.filter_append, h]

theorem lastWrite_of_getLast {calls : List WriteCall} {a : WriteCall}
    (h : calls.getLast? = some a) (hok : a.ok = true) : lastWrite calls a.round = some a := by
  obtain ⟨pre, rfl⟩ : ∃ pre, calls = pre ++ [a] := by
    rcases List.eq_nil_or_concat calls with rfl | ⟨pre, b, rfl⟩
    · cases h
    · rw [List.concat_eq_append, List.getLast?_concat, Option.some.injEq] at h
      exact ⟨pre, by rw [h, List.concat_eq_append]⟩
  simp [lastWrite, List.filter_append, hok, List.getLast?_concat]

/-- What holds in every state the loop reaches from `offset` while the chain runs. -/
structure Inv (offset : Nat) (s : Sys) : Prop where
  running : s.env.running = true
  cache : ∃ c, s.env.cacheRound = some c ∧ s.agg.round ≤ c ∧
    ∀ crn, s.agg.pc.crn? = some crn → s.agg.round ≤ crn ∧ crn ≤ c
  offset_le : offset ≤ s.agg.round
  not_waiting : ∀ crn r, s.agg.pc ≠ .panicked (.waiting crn r)
  calls_le : ∀ a ∈ s.agg.calls, a.round ≤ s.agg.round
  next_written : ∀ crn, s.agg.pc = .next crn →
    ∃ snapshots, s.agg.calls.getLast? = some ⟨s.agg.round, crn, snapshots, true⟩
  closed : ∀ r, offset ≤ r → r < s.agg.round → ∃ a, lastWrite s.agg.calls r = some a ∧ r < a.crn

theorem Inv.with_pc {offset : Nat} {env : ChainEnv} {agg : Agg} (hi : Inv offset ⟨env, agg⟩)
    (pc : Pc)
    (hcrn : ∀ crn, pc.crn? = some crn → agg.round ≤ crn ∧ ∀ c, env.cacheRound = some c → crn ≤ c)
    (hnw : ∀ crn r, pc ≠ .panicked (.waiting crn r)) (hnext : ∀ crn, pc ≠ .next crn) :
    Inv offset ⟨env, { agg with pc := pc }⟩ := by
  obtain ⟨c, hc, hrc, -⟩ := hi.cache
  exact ⟨hi.running, ⟨c, hc, hrc, fun crn h => ⟨(hcrn crn h).1, (hcrn crn h).2 c hc⟩⟩,
    hi.offset_le, hnw, hi.calls_le, fun crn h => absurd h (hnext crn), hi.closed⟩

theorem Inv.with_call {offset : Nat} {env : ChainEnv} {agg : Agg} (hi : Inv offset ⟨env, agg⟩)
    (pc : Pc) (a : WriteCall) (hround : a.round = agg.round)
    (hcrn : ∀ crn, pc.crn? = some crn → agg.round ≤ crn ∧ ∀ c, env.cacheRound = some c → crn ≤ c)
    (hnw : ∀ crn r, pc ≠ .panicked (.waiting crn r))
    (hnext : ∀ crn, pc = .next crn → a = ⟨agg.round, crn, a.snapshots, true⟩) :
    Inv offset ⟨env, ⟨agg.round, pc, agg.calls ++ [a]⟩⟩ := by
  obtain ⟨c, hc, hrc, -⟩ := hi.cache
  refine ⟨hi.running, ⟨c, hc, hrc, fun crn h => ⟨(hcrn crn h).1, (hcrn crn h).2 c hc⟩⟩,
    hi.offset_le, hnw, ?_,
    fun crn h => ⟨a.snapshots, by rw [List.getLast?_concat, hnext crn h]⟩,
    fun r hr hlt => ?_⟩
  · intro x hx
    rcases List.mem_append.mp hx with hx | hx
    · exact hi.calls_le x hx
    · rw [List.mem_singleton.mp hx, hround]
  · have hlt : r < agg.round := hlt
    rw [lastWrite_append_of_ne (by omega)]
    exact hi.closed r hr hlt

theorem Inv.loop {mainnet : Bool} {fork offset : Nat} {env : ChainEnv} {agg : Agg}
    (hi : Inv offset ⟨env, agg⟩) (read : Except String (List SnapshotWork))
    (write : WriteResult) :
    Inv offset ⟨env, aggregateMintWork mainnet fork env read write agg⟩ := by
  obtain ⟨round, pc, calls⟩ := agg
  obtain ⟨c, hc, hrc, hcrn⟩ := hi.cache
  have hrc : round ≤ c := hrc
  have hc : env.cacheRound = some c := hc
  have hrun : env.running = true := hi.running
  have hle : ∀ crn, crn ≤ c → ∀ c', env.cacheRound = some c' → crn ≤ c' := by
    intro crn h c' h'
    rw [hc, Option.some.injEq] at h'
    omega
  cases pc with
  | head =>
    simp only [aggregateMintWork, hrun, Bool.not_true, Bool.false_eq_true, if_false]
    rw [hc]
    simp only [show ¬c < round by omega, if_false]
    split
    · exact hi
    · exact hi
    · rename_i _ snapshots _
      exact hi.with_pc (.retry c snapshots) (fun _ h => by cases h; exact ⟨hrc, hle c le_rfl⟩)
        (fun _ _ h => nomatch h) (fun _ h => nomatch h)
  | retry crn snapshots =>
    obtain ⟨hrcrn, hcrnc⟩ := hcrn crn rfl
    simp only [aggregateMintWork, hrun, Bool.not_true, Bool.false_eq_true, if_false]
    split
    · exact hi.with_pc (.panicked .indexOutOfRange) (fun _ h => nomatch h)
        (fun _ _ h => nomatch h) (fun _ h => nomatch h)
    · rename_i stale _
      cases write with
      | ok =>
        exact hi.with_call (.next crn) _ rfl
          (fun _ h => by cases h; exact ⟨hrcrn, hle crn hcrnc⟩)
          (fun _ _ h => nomatch h) (fun _ h => by cases h; rfl)
      | conflict =>
        exact hi.with_call (.retry crn (if stale = true then [] else snapshots)) _ rfl
          (fun _ h => by cases h; exact ⟨hrcrn, hle crn hcrnc⟩)
          (fun _ _ h => nomatch h) (fun _ h => nomatch h)
      | failed msg =>
        exact hi.with_call (.panicked (.writeFailed msg)) _ rfl (fun _ h => nomatch h)
          (fun _ _ h => nomatch h) (fun _ h => nomatch h)
  | next crn =>
    obtain ⟨hrcrn, hcrnc⟩ := hcrn crn rfl
    obtain ⟨snapshots, hlast⟩ := hi.next_written crn rfl
    simp only [aggregateMintWork]
    split_ifs with hlt
    · refine ⟨hrun, ⟨c, hc, by simp only; omega, fun _ h => nomatch h⟩,
        Nat.le_succ_of_le hi.offset_le, (fun _ _ h => nomatch h),
        fun a ha => Nat.le_succ_of_le (hi.calls_le a ha), (fun _ h => nomatch h), ?_⟩
      intro r hr hr'
      rcases Nat.lt_succ_iff_lt_or_eq.mp hr' with hr' | rfl
      · exact hi.closed r hr hr'
      · exact ⟨_, lastWrite_of_getLast hlast rfl, hlt⟩
    · exact hi.with_pc .head (fun _ h => nomatch h) (fun _ _ h => nomatch h) (fun _ h => nomatch h)
  | done => exact hi
  | panicked p => exact hi

theorem Inv.step {mainnet : Bool} {fork offset : Nat} {s s' : Sys} (hi : Inv offset s)
    (hs : Step mainnet fork s s') (hrun : s'.env.running = true) : Inv offset s' := by
  cases hs with
  | loop read write _ => exact hi.loop read write
  | raise h hle =>
    obtain ⟨c, hc, hrc, hcrn⟩ := hi.cache
    simp only at hc hrc hcrn
    rw [h, Option.some.injEq] at hc
    exact ⟨hi.running, ⟨_, rfl, by simp only; omega,
      fun crn h' => ⟨(hcrn crn h').1, by have := (hcrn crn h').2; omega⟩⟩,
      hi.offset_le, hi.not_waiting, hi.calls_le, hi.next_written, hi.closed⟩
  | addWork r w =>
    exact ⟨hi.running, hi.cache, hi.offset_le, hi.not_waiting, hi.calls_le, hi.next_written,
      hi.closed⟩
  | stop => cases hrun

theorem Reach.inv {mainnet : Bool} {fork offset c : Nat} {env : ChainEnv}
    (hc : env.cacheRound = some c) (hoff : offset ≤ c) (hrun : env.running = true) {s : Sys}
    (h : Reach mainnet fork ⟨env, ⟨offset, .head, []⟩⟩ s) : Inv offset s := by
  induction h with
  | init =>
    exact ⟨hrun, ⟨c, hc, hoff, fun _ h => nomatch h⟩, le_rfl, (fun _ _ h => nomatch h),
      (fun _ h => nomatch h), (fun _ h => nomatch h),
      fun _ h₁ h₂ => absurd h₂ (by simp only; omega)⟩
  | step _ hs hr ih => exact ih.step hs hr

/-- The cursor moves by one at most, after an iteration that read a later cache round. -/
theorem aggregateMintWork_round (mainnet : Bool) (fork : Nat) (env : ChainEnv)
    (read : Except String (List SnapshotWork)) (write : WriteResult) (s : Agg) :
    (aggregateMintWork mainnet fork env read write s).round = s.round ∨
      ((aggregateMintWork mainnet fork env read write s).round = s.round + 1 ∧
        ∃ crn, s.pc = .next crn ∧ s.round < crn) := by
  obtain ⟨round, pc, calls⟩ := s
  cases pc <;> simp only [aggregateMintWork] <;> (repeat' split) <;> simp_all

theorem Step.round {mainnet : Bool} {fork : Nat} {s s' : Sys} (hs : Step mainnet fork s s') :
    s'.agg.round = s.agg.round ∨
      (s'.agg.round = s.agg.round + 1 ∧ ∃ crn, s.agg.pc = .next crn ∧ s.agg.round < crn) := by
  cases hs with
  | loop read write _ => exact aggregateMintWork_round _ _ _ read write _
  | raise | addWork | stop => exact .inl rfl

/-- The aggregation cursor over every interleaving with the environment. -/
theorem aggregation_cursor (mainnet : Bool) (fork offset c : Nat) (env : ChainEnv)
    (hc : env.cacheRound = some c) (hoff : offset ≤ c) (hrun : env.running = true) (s : Sys)
    (hs : Reach mainnet fork ⟨env, ⟨offset, .head, []⟩⟩ s) :
    (∀ crn r, s.agg.pc ≠ .panicked (.waiting crn r)) ∧
    (∃ c, s.env.cacheRound = some c ∧ offset ≤ s.agg.round ∧ s.agg.round ≤ c) ∧
    (∀ s', Step mainnet fork s s' → s.agg.round ≤ s'.agg.round ∧
      (s'.agg.round ≠ s.agg.round → s'.agg.round = s.agg.round + 1 ∧
        ∃ crn snapshots, s.agg.pc = .next crn ∧ s.agg.round < crn ∧
          s.agg.calls.getLast? = some ⟨s.agg.round, crn, snapshots, true⟩)) ∧
    (∀ r, offset ≤ r → r < s.agg.round → ∃ a, lastWrite s.agg.calls r = some a ∧ r < a.crn) := by
  have hi := hs.inv hc hoff hrun
  obtain ⟨c', hc', hrc, -⟩ := hi.cache
  refine ⟨hi.not_waiting, ⟨c', hc', hi.offset_le, hrc⟩, fun s' hs' => ?_, hi.closed⟩
  rcases hs'.round with h | ⟨h, crn, hpc, hlt⟩
  · exact ⟨h.ge, fun hne => absurd h hne⟩
  · obtain ⟨snapshots, hlast⟩ := hi.next_written crn hpc
    exact ⟨h ▸ Nat.le_succ _, fun _ => ⟨h, crn, snapshots, hpc, hlt, hlast⟩⟩

theorem aggregation_cursor_after_one_round :
    (⟨true, some 1, fun _ => [⟨5⟩]⟩ : ChainEnv).cacheRound = some 1 ∧ 0 ≤ 1 ∧ (⟨true, some 1, fun _ => [⟨5⟩]⟩ : ChainEnv).running = true ∧
      Reach false 0 ⟨(⟨true, some 1, fun _ => [⟨5⟩]⟩ : ChainEnv), ⟨0, .head, []⟩⟩ ⟨(⟨true, some 1, fun _ => [⟨5⟩]⟩ : ChainEnv), ⟨1, .head, [⟨0, 1, [⟨5⟩], true⟩]⟩⟩ ∧
      ((∀ crn r, (Pc.head : Pc) ≠ .panicked (.waiting crn r)) ∧
      (∃ c, (⟨true, some 1, fun _ => [⟨5⟩]⟩ : ChainEnv).cacheRound = some c ∧ 0 ≤ 1 ∧ 1 ≤ c) ∧
      (∀ s', Step false 0 ⟨(⟨true, some 1, fun _ => [⟨5⟩]⟩ : ChainEnv), ⟨1, .head, [⟨0, 1, [⟨5⟩], true⟩]⟩⟩ s' → 1 ≤ s'.agg.round ∧
        (s'.agg.round ≠ 1 → s'.agg.round = 1 + 1 ∧
          ∃ crn snapshots, (Pc.head : Pc) = .next crn ∧ 1 < crn ∧
            ([⟨0, 1, [⟨5⟩], true⟩] : List WriteCall).getLast? = some ⟨1, crn, snapshots, true⟩)) ∧
      (∀ r, 0 ≤ r → r < 1 → ∃ a, lastWrite [⟨0, 1, [⟨5⟩], true⟩] r = some a ∧ r < a.crn)) :=
  have h : Reach false 0 ⟨(⟨true, some 1, fun _ => [⟨5⟩]⟩ : ChainEnv), ⟨0, .head, []⟩⟩ ⟨(⟨true, some 1, fun _ => [⟨5⟩]⟩ : ChainEnv), ⟨1, .head, [⟨0, 1, [⟨5⟩], true⟩]⟩⟩ :=
    aggregateMintWork_advances false 0 _ 0 1 [] rfl rfl Nat.zero_lt_one (List.cons_ne_nil _ _)
  ⟨rfl, Nat.zero_le 1, rfl, h, aggregation_cursor false 0 0 1 _ rfl (Nat.zero_le 1) rfl _ h⟩

theorem aggregateMintWork_calls (mainnet : Bool) (fork : Nat) (env : ChainEnv)
    (read : Except String (List SnapshotWork)) (write : WriteResult) (s : Agg) :
    (aggregateMintWork mainnet fork env read write s).calls = s.calls ∨
      ∃ crn snapshots a, s.pc = .retry crn snapshots ∧ env.running = true ∧
        a.round = s.round ∧ a.crn = crn ∧
        (aggregateMintWork mainnet fork env read write s).calls = s.calls ++ [a] := by
  obtain ⟨round, pc, calls⟩ := s
  cases pc with
  | retry crn snapshots =>
    simp only [aggregateMintWork]
    split
    · exact .inl rfl
    · rename_i hrun
      split
      · exact .inl rfl
      · split <;> exact .inr ⟨crn, snapshots, _, rfl, by simpa using hrun, rfl, rfl, rfl⟩
  | head => simp only [aggregateMintWork]; (repeat' split) <;> exact .inl rfl
  | next crn => simp only [aggregateMintWork]; split <;> exact .inl rfl
  | done | panicked _ => exact .inl rfl

/-- The writes come in round order, each between the offset, its cache round and the cursor. -/
theorem aggregation_writes_ordered (mainnet : Bool) (fork offset c : Nat) (env : ChainEnv)
    (hc : env.cacheRound = some c) (hoff : offset ≤ c) (hrun : env.running = true) (s : Sys)
    (hs : Reach mainnet fork ⟨env, ⟨offset, .head, []⟩⟩ s) :
    s.agg.calls.Pairwise (fun a b => a.round ≤ b.round) ∧
      ∀ a ∈ s.agg.calls, offset ≤ a.round ∧ a.round ≤ a.crn ∧ a.round ≤ s.agg.round := by
  induction hs with
  | init => simp
  | @step s s' h hs' _ ih =>
    have hi := h.inv hc hoff hrun
    have hround := hs'.round
    cases hs' with
    | @loop envs agg read write _ =>
      dsimp only at ih hround ⊢
      rcases aggregateMintWork_calls mainnet fork envs read write agg with
        heq | ⟨crn, snapshots, a, hpc, -, ha, hcrn, heq⟩
      · simp only [heq]
        refine ⟨ih.1, fun x hx => ?_⟩
        obtain ⟨hoff, hcrn, hx⟩ := ih.2 x hx
        exact ⟨hoff, hcrn, by omega⟩
      · obtain ⟨c', -, -, hcc⟩ := hi.cache
        have hle := (hcc crn (by simp [hpc, Pc.crn?])).1
        simp only [heq]
        refine ⟨List.pairwise_append.mpr ⟨ih.1, List.pairwise_singleton _ _,
          fun x hx y hy => ?_⟩, fun x hx => ?_⟩
        · rw [List.mem_singleton.mp hy, ha]
          exact (ih.2 x hx).2.2
        · rcases List.mem_append.mp hx with hx | hx
          · obtain ⟨hoff, hcrn, hx⟩ := ih.2 x hx
            exact ⟨hoff, hcrn, by omega⟩
          · rw [List.mem_singleton.mp hx, ha, hcrn]
            exact ⟨hi.offset_le, hle, by omega⟩
    | raise | addWork | stop => exact ih

theorem aggregation_writes_ordered_after_one_round :
    (⟨true, some 1, fun _ => [⟨5⟩]⟩ : ChainEnv).cacheRound = some 1 ∧ 0 ≤ 1 ∧
      (⟨true, some 1, fun _ => [⟨5⟩]⟩ : ChainEnv).running = true ∧
      Reach false 0 ⟨⟨true, some 1, fun _ => [⟨5⟩]⟩, ⟨0, .head, []⟩⟩
        ⟨⟨true, some 1, fun _ => [⟨5⟩]⟩, ⟨1, .head, [⟨0, 1, [⟨5⟩], true⟩]⟩⟩ ∧
      (([⟨0, 1, [⟨5⟩], true⟩] : List WriteCall).Pairwise (fun a b => a.round ≤ b.round) ∧
        ∀ a ∈ ([⟨0, 1, [⟨5⟩], true⟩] : List WriteCall),
          0 ≤ a.round ∧ a.round ≤ a.crn ∧ a.round ≤ 1) :=
  have h : Reach false 0 ⟨⟨true, some 1, fun _ => [⟨5⟩]⟩, ⟨0, .head, []⟩⟩
      ⟨⟨true, some 1, fun _ => [⟨5⟩]⟩, ⟨1, .head, [⟨0, 1, [⟨5⟩], true⟩]⟩⟩ :=
    .step (.step (.step .init (.loop (.ok [⟨5⟩]) .ok (.inl rfl)) rfl)
      (.loop (.ok [⟨5⟩]) .ok (.inl rfl)) rfl) (.loop (.ok [⟨5⟩]) .ok (.inl rfl)) rfl
  ⟨rfl, Nat.zero_le 1, rfl, h, aggregation_writes_ordered false 0 0 1 _ rfl (Nat.zero_le 1) rfl _ h⟩

/-- The loop catches up with the cache round, writing each round once, in order. -/
theorem aggregation_catches_up (mainnet : Bool) (fork : Nat) (env : ChainEnv) (c : Nat)
    (hrun : env.running = true) (hc : env.cacheRound = some c) (round : Nat)
    (calls : List WriteCall) (hle : round ≤ c) (hw : ∀ r, round ≤ r → r < c → env.works r ≠ []) :
    Reach mainnet fork ⟨env, ⟨round, .head, calls⟩⟩ ⟨env, ⟨c, .head,
      calls ++ (List.range' round (c - round)).map (roundWrite mainnet fork env c)⟩⟩ := by
  obtain ⟨k, hk⟩ : ∃ k, c - round = k := ⟨_, rfl⟩
  rw [hk]
  induction k generalizing round calls with
  | zero =>
    obtain rfl : round = c := by omega
    simpa using Reach.init
  | succ k ih =>
    have hlt : round < c := by omega
    rw [List.range'_succ, List.map_cons, List.append_cons]
    exact (aggregateMintWork_advances mainnet fork env round c calls hrun hc hlt
      (hw round le_rfl hlt)).trans
        (ih (round + 1) _ hlt (fun r h1 h2 => hw r (by omega) h2) (by omega))

theorem aggregation_catches_up_over_two_rounds :
    (⟨true, some 2, fun _ => [⟨5⟩]⟩ : ChainEnv).running = true ∧
      (⟨true, some 2, fun _ => [⟨5⟩]⟩ : ChainEnv).cacheRound = some 2 ∧ 0 ≤ 2 ∧
      (∀ r, 0 ≤ r → r < 2 → (⟨true, some 2, fun _ => [⟨5⟩]⟩ : ChainEnv).works r ≠ []) ∧
      Reach true 3 ⟨⟨true, some 2, fun _ => [⟨5⟩]⟩, ⟨0, .head, []⟩⟩
        ⟨⟨true, some 2, fun _ => [⟨5⟩]⟩, ⟨2, .head, [] ++ (List.range' 0 (2 - 0)).map
          (roundWrite true 3 ⟨true, some 2, fun _ => [⟨5⟩]⟩ 2)⟩⟩ :=
  ⟨rfl, rfl, Nat.zero_le 2, fun _ _ _ => List.cons_ne_nil _ _,
    aggregation_catches_up true 3 ⟨true, some 2, fun _ => [⟨5⟩]⟩ 2 rfl rfl 0 [] (Nat.zero_le 2)
      fun _ _ _ => List.cons_ne_nil _ _⟩

end MixinKernel.Aggregate
