import MixinKernel.GenesisLoader
import MixinKernel.Issuance
import Mathlib.Logic.Relation

/-!
Every start of a node runs `LoadGenesis` against the store the earlier boots wrote. The store
is modelled from the spec, since the storage package is not under `src/`: `StateGet` returns
what the last successful `StateSet` wrote, a failed write changes nothing, and each of the
three calls may fail, as the store's answers to the boot choose. Each boot is a fresh node.

Over every run of boots from an empty store, whatever record each boot reads and whatever the
store answers, every snapshot list handed to `SnapshotsLoadGenesis` is that of an accepted
record with a nonzero network id. A load is repeated only after the one before it failed, the
stored state is the network id of the one load that succeeded, and once it is set no boot
changes the store again.

Every snapshot a boot hands the store pledges `NewInteger(PledgeAmount)`, which is what the
mint code's `node.PledgeAmount` asks through the first year after the epoch.
-/

namespace MixinKernel.GenesisBoot

open MixinKernel.Common MixinKernel.Kernel MixinKernel.GenesisLoader MixinKernel.Issuance
open MixinKernel.Distribute (dayNanos)

/-- The store's answers to one boot's `StateGet`, `SnapshotsLoadGenesis` and `StateSet`. -/
structure StoreAnswers where
  get : Except String Unit
  load : Except String Unit
  set : Except String Unit

/-- A `SnapshotsLoadGenesis` call, with the result of the load and the `StateSet` after it. -/
structure LoadCall where
  networkId : Hash
  snapshots : List GenesisSnapshot
  result : Except String Unit

structure GenesisDB where
  network : Option Hash
  loads : List LoadCall

def GenesisDB.store (db : GenesisDB) (answers : StoreAnswers) : GenesisStore :=
  ⟨answers.get.map fun _ => db.network, fun _ => answers.load, fun _ => answers.set⟩

/-- One boot: `LoadGenesis` of a fresh node on `gns`, and the store after its calls. -/
def boot (lib : LoadGenesisLib) (account : Address) (gns : Genesis) (answers : StoreAnswers)
    (db : GenesisDB) : Except Fault (GenesisLoad × GenesisDB) := do
  let load ← loadGenesis lib (db.store answers) account ⟨[], 0, 0⟩ gns
  match load.loaded with
  | some snapshots =>
    let network := match load.result with
      | .ok () => some load.node.networkId
      | .error _ => db.network
    pure (load, ⟨network, db.loads ++ [⟨load.node.networkId, snapshots, load.result⟩]⟩)
  | none => pure (load, db)

def Boot (lib : LoadGenesisLib) (account : Address) (db db' : GenesisDB) : Prop :=
  ∃ gns answers load, boot lib account gns answers db = .ok (load, db')

/-- `LoadGenesis` hands snapshots to the store only for an accepted record, with no state
stored and a nonzero network id, and they are that record's snapshots. -/
theorem loadGenesis_loaded {lib : LoadGenesisLib} {store : GenesisStore} {account : Address}
    {node : GenesisNodeState} {gns : Genesis} {load : GenesisLoad}
    {snapshots : List GenesisSnapshot} (h : loadGenesis lib store account node gns = .ok load)
    (hl : load.loaded = some snapshots) :
    readGenesis lib.toGenesisLib gns = .ok gns ∧ store.stateGetNetwork = .ok none ∧
      lib.networkIdOf gns ≠ 0 ∧ genesisSnapshots lib (lib.networkIdOf gns) gns = .ok snapshots ∧
      load.node.networkId = lib.networkIdOf gns := by
  cases hr : readGenesis lib.toGenesisLib gns with
  | error e => simp only [loadGenesis, hr, pure_eq_ok, Except.ok.injEq] at h; subst h; cases hl
  | ok g =>
    obtain ⟨rfl, -⟩ := (readGenesis_eq_ok_iff _ _ _).mp hr
    cases hs : store.stateGetNetwork with
    | error e => simp only [loadGenesis, hr, hs, pure_eq_ok, Except.ok.injEq] at h; subst h; cases hl
    | ok found =>
      simp only [loadGenesis, hr, hs] at h
      split_ifs at h with hne
      · cases h; cases hl
      cases found with
      | some id => cases h; cases hl
      | none =>
        obtain ⟨s, hsnap, h⟩ := bind_eq_ok.mp h
        cases h
        cases hl
        exact ⟨rfl, rfl, fun h0 => hne (by simp [h0]), hsnap, rfl⟩

/-- One boot leaves the store as it is, or, with no state stored, loads the snapshots of an
accepted record with a nonzero network id and sets the state if the load succeeds. -/
theorem boot_cases {lib : LoadGenesisLib} {account : Address} {gns : Genesis}
    {answers : StoreAnswers} {db db' : GenesisDB} {load : GenesisLoad}
    (h : boot lib account gns answers db = .ok (load, db')) :
    db' = db ∨ (db.network = none ∧ readGenesis lib.toGenesisLib gns = .ok gns ∧
      lib.networkIdOf gns ≠ 0 ∧ ∃ snapshots result,
        genesisSnapshots lib (lib.networkIdOf gns) gns = .ok snapshots ∧
        db' = ⟨match result with | .ok () => some (lib.networkIdOf gns) | .error _ => none,
          db.loads ++ [⟨lib.networkIdOf gns, snapshots, result⟩]⟩) := by
  obtain ⟨l, hl, h⟩ := bind_eq_ok.mp h
  cases hloaded : l.loaded with
  | none =>
    simp only [hloaded, pure_eq_ok, Except.ok.injEq, Prod.mk.injEq] at h
    exact .inl h.2.symm
  | some snapshots =>
    simp only [hloaded, pure_eq_ok, Except.ok.injEq, Prod.mk.injEq] at h
    obtain ⟨hread, hstate, hnet, hs, hid⟩ := loadGenesis_loaded hl hloaded
    have hnone : db.network = none := by
      cases hget : answers.get with
      | error e => simp [GenesisDB.store, hget, Except.map] at hstate
      | ok u => simpa [GenesisDB.store, hget, Except.map] using hstate
    refine .inr ⟨hnone, hread, hnet, snapshots, l.result, hs, ?_⟩
    rw [← h.2, hid, hnone]

theorem Boot.eq_of_network_set {lib : LoadGenesisLib} {account : Address} {db db' : GenesisDB}
    (h : Boot lib account db db') (hset : db.network ≠ none) : db' = db := by
  obtain ⟨gns, answers, load, h⟩ := h
  rcases boot_cases h with rfl | ⟨hnone, -⟩
  · rfl
  · exact absurd hnone hset

/-- The loads and the state over every run of boots from an empty store. -/
theorem boots_inv (lib : LoadGenesisLib) (account : Address) {db : GenesisDB}
    (h : Relation.ReflTransGen (Boot lib account) ⟨none, []⟩ db) :
    (∀ c ∈ db.loads, c.networkId ≠ 0 ∧ ∃ gns, readGenesis lib.toGenesisLib gns = .ok gns ∧
      lib.networkIdOf gns = c.networkId ∧ genesisSnapshots lib c.networkId gns = .ok c.snapshots) ∧
    ((db.network = none ∧ ∀ c ∈ db.loads, c.result ≠ .ok ()) ∨
      ∃ failed c, db.loads = failed ++ [c] ∧ (∀ f ∈ failed, f.result ≠ .ok ()) ∧
        c.result = .ok () ∧ db.network = some c.networkId) := by
  induction h with
  | refl => exact ⟨nofun, .inl ⟨rfl, nofun⟩⟩
  | tail _ hb ih =>
    obtain ⟨gns, answers, load, hb⟩ := hb
    rcases boot_cases hb with rfl | ⟨hnone, hread, hnet, snapshots, result, hs, rfl⟩
    · exact ih
    obtain ⟨hall, ⟨-, hfailed⟩ | ⟨_, _, _, _, _, hsome⟩⟩ := ih
    · refine ⟨List.forall_mem_append.mpr
        ⟨hall, List.forall_mem_singleton.mpr ⟨hnet, gns, hread, rfl, hs⟩⟩, ?_⟩
      cases result with
      | ok u => exact .inr ⟨_, _, rfl, hfailed, rfl, rfl⟩
      | error e =>
        exact .inl ⟨rfl, List.forall_mem_append.mpr ⟨hfailed, List.forall_mem_singleton.mpr nofun⟩⟩
    · simp [hnone] at hsome

/-- Over every run of boots from an empty store, whatever records the boots read and whatever
the store answers: every load is the snapshots of an accepted record with a nonzero network
id; either no load succeeded and no state is stored, or every load before the last failed and
the last set the state to its network id; and once the state is set, no boot changes the
store. -/
theorem boots_load_genesis_once (lib : LoadGenesisLib) (account : Address) {db : GenesisDB}
    (h : Relation.ReflTransGen (Boot lib account) ⟨none, []⟩ db) :
    (∀ c ∈ db.loads, c.networkId ≠ 0 ∧ ∃ gns, readGenesis lib.toGenesisLib gns = .ok gns ∧
      lib.networkIdOf gns = c.networkId ∧ genesisSnapshots lib c.networkId gns = .ok c.snapshots) ∧
    ((db.network = none ∧ ∀ c ∈ db.loads, c.result ≠ .ok ()) ∨
      ∃ failed c, db.loads = failed ++ [c] ∧ (∀ f ∈ failed, f.result ≠ .ok ()) ∧
        c.result = .ok () ∧ db.network = some c.networkId) ∧
    ∀ db', Relation.ReflTransGen (Boot lib account) db db' → db.network ≠ none → db' = db := by
  refine ⟨(boots_inv lib account h).1, (boots_inv lib account h).2, fun db' h' hset => ?_⟩
  induction h' with
  | refl => rfl
  | tail _ hb ih =>
    subst ih
    exact Boot.eq_of_network_set hb hset

/-- The snapshots of `exampleGenesis` under network id 1. -/
def exampleSnapshots : List GenesisSnapshot :=
  (genesisSnapshots exampleGenesisLib 1 exampleGenesis).toOption.getD []

theorem boots_load_genesis_once_after_failed_state_write :
    Relation.ReflTransGen (Boot exampleGenesisLib ⟨0, 0⟩) ⟨none, []⟩
        ⟨some 1, [⟨1, exampleSnapshots, .error "conflict"⟩, ⟨1, exampleSnapshots, .ok ()⟩]⟩ ∧
      ((∀ c ∈ [(⟨1, exampleSnapshots, .error "conflict"⟩ : LoadCall),
          ⟨1, exampleSnapshots, .ok ()⟩], c.networkId ≠ 0 ∧ ∃ gns,
          readGenesis exampleGenesisLib.toGenesisLib gns = .ok gns ∧
          exampleGenesisLib.networkIdOf gns = c.networkId ∧
          genesisSnapshots exampleGenesisLib c.networkId gns = .ok c.snapshots) ∧
        ((some 1 = none ∧ ∀ c ∈ [(⟨1, exampleSnapshots, .error "conflict"⟩ : LoadCall),
            ⟨1, exampleSnapshots, .ok ()⟩], c.result ≠ .ok ()) ∨
          ∃ failed c, [(⟨1, exampleSnapshots, .error "conflict"⟩ : LoadCall),
              ⟨1, exampleSnapshots, .ok ()⟩] = failed ++ [c] ∧
            (∀ f ∈ failed, f.result ≠ .ok ()) ∧ c.result = .ok () ∧ some 1 = some c.networkId) ∧
        ∀ db', Relation.ReflTransGen (Boot exampleGenesisLib ⟨0, 0⟩)
            ⟨some 1, [⟨1, exampleSnapshots, .error "conflict"⟩, ⟨1, exampleSnapshots, .ok ()⟩]⟩
            db' →
          (some 1 : Option Hash) ≠ none →
          db' = ⟨some 1, [⟨1, exampleSnapshots, .error "conflict"⟩,
            ⟨1, exampleSnapshots, .ok ()⟩]⟩) :=
  have h1 : Boot exampleGenesisLib ⟨0, 0⟩ ⟨none, []⟩
      ⟨none, [⟨1, exampleSnapshots, .error "conflict"⟩]⟩ :=
    ⟨exampleGenesis, ⟨.ok (), .ok (), .error "conflict"⟩, _, rfl⟩
  have h2 : Boot exampleGenesisLib ⟨0, 0⟩ ⟨none, [⟨1, exampleSnapshots, .error "conflict"⟩]⟩
      ⟨some 1, [⟨1, exampleSnapshots, .error "conflict"⟩, ⟨1, exampleSnapshots, .ok ()⟩]⟩ :=
    ⟨exampleGenesis, ⟨.ok (), .ok (), .ok ()⟩, _, rfl⟩
  have h : Relation.ReflTransGen (Boot exampleGenesisLib ⟨0, 0⟩) ⟨none, []⟩
      ⟨some 1, [⟨1, exampleSnapshots, .error "conflict"⟩, ⟨1, exampleSnapshots, .ok ()⟩]⟩ :=
    (Relation.ReflTransGen.single h1).tail h2
  ⟨h, boots_load_genesis_once exampleGenesisLib ⟨0, 0⟩ h⟩

/-- Every snapshot `LoadGenesis` hands the store pledges what `node.PledgeAmount(ts)` asks,
for every node and every time before the end of the year after its epoch. -/
theorem loadGenesis_pledges_first_year_amount {lib : LoadGenesisLib} {store : GenesisStore}
    {account : Address} {state : GenesisNodeState} {gns : Genesis} {load : GenesisLoad}
    {snapshots : List GenesisSnapshot} (h : loadGenesis lib store account state gns = .ok load)
    (hl : load.loaded = some snapshots) (node : Node) {ts : Nat}
    (hts : ts < node.epoch + 365 * dayNanos) :
    ∀ s ∈ snapshots, ∃ o ∈ s.transaction.outputs.head?,
      o.type = .nodePledge ∧ Node.pledgeAmount node ts = .ok o.amount := by
  obtain ⟨hread, -, -, hs, -⟩ := loadGenesis_loaded h hl
  obtain ⟨-, -, hvalid⟩ := (readGenesis_eq_ok_iff _ _ _).mp hread
  obtain ⟨snapshots', hs', hlen, hget⟩ :=
    genesisSnapshots_ok lib (lib.networkIdOf gns) fun n hn => (hvalid n hn).2.1
  obtain rfl : snapshots' = snapshots := Except.ok.inj (hs'.symm.trans hs)
  intro s hmem
  obtain ⟨i, hi⟩ := List.mem_iff_getElem?.mp hmem
  obtain ⟨hlt, -⟩ := List.getElem?_eq_some_iff.mp hi
  obtain ⟨s', hs'', -, -, -, hpledge⟩ := hget i _ (List.getElem?_eq_getElem (hlen ▸ hlt))
  obtain rfl : s' = s := Option.some.inj (hs''.symm.trans hi)
  obtain ⟨o, ho, htype, hamount⟩ := hpledge.pledge
  exact ⟨o, ho, htype, hamount ▸ Node.pledgeAmount_first_year node hts⟩

theorem loadGenesis_pledges_first_year_amount_of_example :
    ∃ load snapshots, loadGenesis exampleGenesisLib emptyGenesisStore ⟨0, 0⟩ ⟨[], 0, 0⟩
        exampleGenesis = .ok load ∧ load.loaded = some snapshots ∧
      0 < (exampleNode 0 true).epoch + 365 * dayNanos ∧
      ∀ s ∈ snapshots, ∃ o ∈ s.transaction.outputs.head?,
        o.type = .nodePledge ∧ Node.pledgeAmount (exampleNode 0 true) 0 = .ok o.amount :=
  have h : ∃ load snapshots, loadGenesis exampleGenesisLib emptyGenesisStore ⟨0, 0⟩ ⟨[], 0, 0⟩
      exampleGenesis = .ok load ∧ load.loaded = some snapshots := ⟨_, _, rfl, rfl⟩
  let ⟨load, snapshots, hload, hl⟩ := h
  ⟨load, snapshots, hload, hl, by decide,
    loadGenesis_pledges_first_year_amount hload hl (exampleNode 0 true) (by decide)⟩

end MixinKernel.GenesisBoot
