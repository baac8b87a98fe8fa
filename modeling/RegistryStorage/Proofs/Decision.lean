import RegistryStorage.Proofs.Ownership

/-!
Ownership is decided once.

A run is a list of `Errand`s: invocations that follow each other on one record, each by a driver of
its own. Providers are free here. One may answer as it likes and change its mind from call to call,
and others may work on it while no invocation does. What an invocation comes to is its `Deed`, and
`deeds` tells of each in turn.

Two things count. A deed has *founded* something if an account or a container was granted to it,
however it ended, and it has *settled* the storage if it was to put it in place and ended well. The
first of either kind decides: what was founded is the program's, and what was settled without being
founded is not. Nothing that comes later changes that (`ownership_decided_once`), not even storage
that is founded after other storage was settled (`late_storage_stays_unowned`).
-/

set_option autoImplicit false

namespace RegistryStorage

variable {σ : Type}

/-! ## Runs -/

/-- One invocation of a run: what it is asked for and given, and what becomes of the provider
before it starts. -/
structure Errand (σ : Type) where
  settings : Settings
  order : Order
  now : Moment
  /-- The configuration that the driver works with. -/
  config : StorageConfig
  meanwhile : σ → σ := id

/-- What an invocation came to: the record before and after, its result, and its calls. -/
structure Deed where
  order : Order
  before : StorageState
  after : StorageState
  result : Except Fault Unit
  journal : Journal

namespace Deed

/-- Whether an account or a container was granted. -/
def founded (d : Deed) : Bool := d.journal.founded

/-- Whether storage was to be put in place, and is. -/
def settled (d : Deed) : Bool := d.order.creates && d.result.isOk

/-- The invocation made somebody the owner who was not. -/
def Appoints (m : Management) (d : Deed) : Prop :=
  d.before.management ≠ some m ∧ d.after.management = some m

instance decidableAppoints (m : Management) (d : Deed) : Decidable (d.Appoints m) :=
  inferInstanceAs (Decidable (_ ∧ _))

/-- An invocation that may decide on the owner, if nobody did before. -/
def Decides (d : Deed) : Prop := d.founded = true ∨ d.settled = true

end Deed

/-- What comes of an errand, and the provider afterwards. -/
def Errand.run (r : Replier σ) (state : StorageState) (p : σ) (e : Errand σ) : Deed × σ :=
  let outcome := ((e.order.invocation e.settings e.now).start ⟨e.config, state⟩).run r.journaled
    ⟨e.meanwhile p, []⟩
  (⟨e.order, state, outcome.1.2.state, outcome.1.1, outcome.2.journal⟩, outcome.2.provider)

/-- What a run came to, invocation by invocation. -/
def deeds (r : Replier σ) : StorageState → σ → List (Errand σ) → List Deed
  | _, _, [] => []
  | state, p, e :: rest =>
    let (d, q) := e.run r state p
    d :: deeds r d.after q rest

theorem deeds_cons {r : Replier σ} {state : StorageState} {p : σ} {e : Errand σ}
    {rest : List (Errand σ)} :
    deeds r state p (e :: rest) =
      (e.run r state p).1 :: deeds r (e.run r state p).1.after (e.run r state p).2 rest := rfl

/-! ## What an invocation decides -/

/-- All the errands are run with the credentials of a cluster. -/
def Clustered (errands : List (Errand σ)) : Prop :=
  ∀ e ∈ errands, ∃ credentials, e.settings.credentials = .ok (.cluster credentials)

namespace Deed

variable {d : Deed}

/-- The invocation decided on the owner as it should. -/
def Fair (d : Deed) : Prop := d.after.management = d.before.ownerAfter d.founded d.settled

/-- An owner that was decided before stays. -/
theorem Fair.owned (h : d.Fair) (hb : d.before.management ≠ none) :
    d.after.management = d.before.management := by
  unfold Fair StorageState.ownerAfter at h
  rw [h]
  cases hm : d.before.management with
  | some m => rfl
  | none => exact absurd hm hb

/-- Who the owner becomes when there was none. -/
theorem Fair.decided (h : d.Fair) (hb : d.before.management = none) :
    d.after.management =
      if d.founded then some .managed else if d.settled then some .unmanaged else none := by
  unfold Fair StorageState.ownerAfter at h
  rw [h, hb]

theorem Fair.unowned (h : d.Fair) :
    d.after.management = none ↔ d.before.management = none ∧ ¬d.Decides := by
  by_cases hb : d.before.management = none
  · rw [h.decided hb, and_iff_right hb, Decides]
    cases d.founded <;> cases d.settled <;> simp
  · rw [h.owned hb]
    exact ⟨fun hnone => absurd hnone hb, And.left⟩

/-- Only who had no owner can be given one. -/
theorem Fair.appoints (h : d.Fair) {m : Management} :
    d.Appoints m ↔ d.before.management = none ∧ d.after.management = some m := by
  constructor
  · rintro ⟨hother, hnow⟩
    refine ⟨?_, hnow⟩
    by_contra hb
    exact hother ((h.owned hb).symm.trans hnow)
  · rintro ⟨hb, hnow⟩
    exact ⟨by rw [hb]; exact nofun, hnow⟩

theorem Fair.appoints_managed (h : d.Fair) :
    d.Appoints .managed ↔ d.before.management = none ∧ d.founded = true := by
  rw [h.appoints]
  refine and_congr_right fun hb => ?_
  rw [h.decided hb]
  cases d.founded <;> cases d.settled <;> simp

theorem Fair.appoints_unmanaged (h : d.Fair) :
    d.Appoints .unmanaged ↔
      d.before.management = none ∧ d.settled = true ∧ d.founded = false := by
  rw [h.appoints]
  refine and_congr_right fun hb => ?_
  rw [h.decided hb]
  cases d.founded <;> cases d.settled <;> simp

end Deed

variable {r : Replier σ} {state : StorageState} {p : σ} {errands : List (Errand σ)}

/-- **The step**: one invocation decides as it should. -/
theorem Errand.run_fair {e : Errand σ} {credentials : ClusterCredentials}
    (hc : e.settings.credentials = .ok (.cluster credentials)) : (e.run r state p).1.Fair := by
  unfold Errand.run Deed.Fair Deed.founded Deed.settled
  generalize hrun : Program.run _ _ _ = outcome
  obtain ⟨⟨result, v⟩, t⟩ := outcome
  obtain ⟨hok, hfailed⟩ := (Order.decides hc e.order).run_journaled hrun
  -- nothing was called before, so all that the journal has is of this invocation
  have hall : ∀ {b : Bool}, t.Founded [] b → t.journal.founded = b := by
    rintro b ⟨new, hnew, hb⟩
    rwa [hnew, List.append_nil]
  cases result with
  | ok x =>
    obtain ⟨b, hb, hv⟩ := hok x rfl
    dsimp only
    rw [hall hb, hv, Except.isOk, Except.toBool, Bool.and_true]
  | error f =>
    obtain ⟨b, hb, hv⟩ := hfailed f rfl
    dsimp only
    rw [hall hb, hv, Except.isOk, Except.toBool, Bool.and_false]

/-- **The run**: every invocation decides as it should, and nobody owns the storage before it
exactly if no earlier one could decide. -/
theorem deeds_fair (hc : Clustered errands) {past future : List Deed} {d : Deed}
    (h : deeds r state p errands = past ++ d :: future) :
    d.Fair ∧ (d.before.management = none ↔
      state.management = none ∧ ∀ e ∈ past, ¬e.Decides) := by
  -- on the past; each invocation goes on with the record that the one before left
  induction past generalizing state p errands with
  | nil =>
    cases errands with
    | nil => cases h
    | cons e rest =>
      obtain ⟨credentials, hc⟩ := hc e List.mem_cons_self
      rw [deeds_cons] at h
      obtain ⟨hd, -⟩ := List.cons.inj h
      rw [← hd]
      exact ⟨Errand.run_fair hc, (and_iff_left (List.forall_mem_nil _)).symm⟩
  | cons first past ih =>
    cases errands with
    | nil => cases h
    | cons e rest =>
      obtain ⟨credentials, hfirst⟩ := hc e List.mem_cons_self
      rw [deeds_cons] at h
      obtain ⟨hdeed, hrest⟩ := List.cons.inj h
      obtain ⟨hfair, hbefore⟩ := ih (fun e he => hc e (List.mem_cons_of_mem _ he)) hrest
      refine ⟨hfair, ?_⟩
      rw [hbefore, (Errand.run_fair hfirst).unowned, hdeed, List.forall_mem_cons, and_assoc,
        ← hdeed]
      rfl

/-- **Ownership is decided once.** In every run that starts with a record without an owner, an
invocation makes the storage the program's exactly if it was granted an account or a container, no
earlier one was, and the storage was not in place already; it leaves the storage to others exactly
if it is the first to put it in place, and nothing was granted until then; and an owner stays. -/
theorem ownership_decided_once (r : Replier σ) (p : σ) (state : StorageState)
    (hstart : state.management = none) (errands : List (Errand σ)) (hc : Clustered errands)
    (past future : List Deed) (d : Deed) (hd : deeds r state p errands = past ++ d :: future) :
    (d.Appoints .managed ↔
      d.founded = true ∧ ∀ e ∈ past, e.founded = false ∧ e.settled = false) ∧
    (d.Appoints .unmanaged ↔ d.settled = true ∧ d.founded = false ∧
      ∀ e ∈ past, e.founded = false ∧ e.settled = false) ∧
    (d.before.management ≠ none → d.after.management = d.before.management) := by
  obtain ⟨hfair, hbefore⟩ := deeds_fair hc hd
  have hopen : d.before.management = none ↔ ∀ e ∈ past, e.founded = false ∧ e.settled = false := by
    rw [hbefore, and_iff_right hstart]
    refine forall₂_congr fun e _ => ?_
    rw [Deed.Decides, not_or, Bool.not_eq_true, Bool.not_eq_true]
  refine ⟨?_, ?_, hfair.owned⟩
  · rw [hfair.appoints_managed, hopen, and_comm]
  · rw [hfair.appoints_unmanaged, hopen, and_comm, and_assoc]

/-- What was created before a failure is the program's: the first of two invocations is granted an
account, and is refused the container. -/
theorem failed_invocation_owns :
    let r := (Inventory.reply clusterSettings.cluster.scope).disturbed
    let p : Disturbance × Inventory :=
      ([none, none, none, none, some (.response 500 "InternalError" "")], {})
    let create : Errand (Disturbance × Inventory) :=
      { settings := clusterSettings, order := .create ⟨"mycluster", none⟩ ⟨⟨[], 0⟩, 0⟩
        now := default, config := {} }
    let again := { create with config := { account := "imageregistrymyclusaaaaa" } }
    let first := (create.run r {} p).1
    Clustered [create, again] ∧ first.result.isOk = false ∧ first.Appoints .managed := by
  intro r p create again first
  have hc : Clustered [create, again] := by
    intro e he
    refine ⟨clusterSettings.cluster, ?_⟩
    rcases List.mem_cons.1 he with rfl | he
    · rfl
    · rw [List.mem_singleton.1 he]
      rfl
  have hfounded : first.founded = true := by decide +kernel
  obtain ⟨hmanaged, -, -⟩ := ownership_decided_once r p {} rfl [create, again] hc [] _ first rfl
  exact ⟨hc, by decide +kernel, hmanaged.2 ⟨hfounded, List.forall_mem_nil _⟩⟩

/-- **Storage that is created late is not the program's.** The first invocation finds an account
and a container, and leaves them to their owner. Then the container is lost, and the second
invocation is the first to be granted anything, but the owner stays. -/
theorem late_storage_stays_unowned :
    let user : Inventory :=
      { accounts := .ofList [("acct1", .named "acct1")]
        containers := .ofList [(("acct1", "images"), ())] }
    let create : Errand Inventory :=
      { settings := clusterSettings, order := .create ⟨"mycluster", none⟩ ⟨⟨[], 0⟩, 0⟩
        now := default, config := { account := "acct1", container := "images" } }
    let lose : Inventory → Inventory := fun i => { i with containers := {} }
    let run := deeds (Inventory.reply clusterSettings.cluster.scope) {} user
      [create, { create with meanwhile := lose }]
    ∃ first second, run = [first, second] ∧ (first.founded = false ∧ second.founded = true) ∧
      ¬second.Appoints .managed ∧ second.after.management = some .unmanaged := by
  refine ⟨_, _, rfl, ?_⟩
  decide +kernel

end RegistryStorage
