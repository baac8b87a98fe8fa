import RegistryStorage.Proofs.Bookkeeping
import RegistryStorage.Proofs.Recorded

/-!
Taking down is complete.

However far the invocations before it came, a removal that no call disturbs takes away all that
the run created (`teardown_is_complete`). Three facts add up to this. The record names whatever
the run holds (`World.Accounted`), whatever the run created and still exists is held (`Traced`),
and a removal that goes through leaves no name in the record (`Storage.remove_blank`). What is
left to show here is that nothing but a refusal can stop a removal: the one fault that an
inventory gives by itself is that something does not exist, and every step of a removal takes
that for an answer.
-/

set_option autoImplicit false

namespace RegistryStorage

variable {home : Scope} {s : Scene Inventory}

/-! ## Nothing but a refusal stops a removal -/

/-- The key of an account is had if the account is there, and else the fault says that it is not. -/
theorem Inventory.primaryKey_undisturbed (hplain : s.provider.Plain) (account : String) :
    (Probe.primaryKey account).Ensures (Inventory.undisturbed home) s
      (fun key t => s.provider.has (.account account) = true ∧ key = account ++ "-key1" ∧
        t = s.after (.listKeys account) none s.provider)
      fun f t => s.provider.has (.account account) = false ∧ f.isNotFound = true ∧
        ∃ g, t = s.after (.listKeys account) (some g) s.provider := by
  rw [Probe.primaryKey_ensures]
  refine Inventory.ensures_undisturbed (fun keys t ht => ?_) fun f hf => ?_
  · simp only [Inventory.reply] at ht
    split at ht
    · rename_i a ha
      obtain ⟨hkeys, rfl⟩ := Prod.mk.inj ht
      -- a truthful inventory makes the keys from the name
      have hfirst : Probe.firstKey account keys = .ok (account ++ "-key1") := by
        rw [← Except.ok.inj hkeys, Inventory.keys, hplain.keyed _ a ha]
        rfl
      rw [hfirst]
      refine ⟨fun key hkey => ⟨Dict.contains_of_get? ha, (Except.ok.inj hkey).symm, rfl⟩, ?_⟩
      rintro f ⟨⟩
    · cases ht
  · have hnot := Inventory.reply_error hf
    refine ⟨Inventory.reply_missing rfl hf, ?_, f, rfl⟩
    rw [Probe.keyFault, if_pos hnot]
    rfl

/-- An inventory in which the zones of another one are left. -/
structure Preserving (zones : Dict String Unit) (s : Scene Inventory) : Prop where
  plain : s.provider.Plain
  zones : s.provider.zones = zones

namespace Preserving

variable {zones : Dict String Unit}

/-- A deletion goes through, or there is nothing to delete. -/
theorem delete {d : Call} {x : Resource} (hs : Preserving zones s) (hd : d.deletion? = some x) :
    (Action.perform d).Ensures (Inventory.undisturbed home) s (fun _ t => Preserving zones t)
      fun f t => if f.isNotFound then Preserving zones t else False := by
  refine Inventory.ensures_undisturbed (fun _ t ht => ?_) fun f hf => ?_
  · exact ⟨hs.plain.reply ht, (Inventory.reply_zones hd ht).trans hs.zones⟩
  · rw [if_pos (Inventory.reply_error hf)]
    exact ⟨hs.plain, hs.zones⟩

end Preserving

namespace Storage

variable {zones : Dict String Unit} {w : Work} {now : Moment}

section Reaching

variable {σ : Type} {R : Conduct σ} {s : σ} {I J : σ → Prop} {account : String}

/-- Deletions of what is no account go through or find nothing, and leave an invariant. -/
def Deletes (R : Conduct σ) (I : σ → Prop) : Prop :=
  ∀ (d : Call) (x : Resource), d.deletion? = some x → (∀ n, x ≠ .account n) → ∀ t, I t →
    (Action.perform d).Ensures R t (fun _ u => I u) fun f u => if f.isNotFound then I u else False

theorem removePrivateNetwork_succeeds (hI : Deletes R I) (hs : I s) :
    (removePrivateNetwork now account).Ensures R w s (fun _ _ t => I t) fun _ _ _ => False := by
  rw [removePrivateNetwork_ensures]
  split
  · exact hs
  · rename_i endpoint _
    have hrecord : (Action.tolerant (Action.perform (.deleteARecord Isolation.zone account))).Ensures
        R s (fun _ t => I t) fun _ _ => False :=
      (Action.ensures_tolerant _).2 (hI _ _ rfl (fun _ h => by cases h) s hs)
    refine (Action.ensures_bind _).2 (hrecord.mono (fun _ t ht => ?_) fun _ _ => False.elim)
    have hgroup : (Action.tolerant
        (Action.perform (.deleteZoneGroup endpoint Isolation.zoneGroup))).Ensures
        R t (fun _ u => I u) fun _ _ => False :=
      (Action.ensures_tolerant _).2 (hI _ _ rfl (fun _ h => by cases h) t ht)
    refine (Action.ensures_bind _).2 (hgroup.mono (fun _ u hu => ?_) fun _ _ => False.elim)
    have hlink : (Action.tolerant (Action.perform (.deleteLink Isolation.zone account))).Ensures
        R u (fun _ v => I v) fun _ _ => False :=
      (Action.ensures_tolerant _).2 (hI _ _ rfl (fun _ h => by cases h) u hu)
    refine hlink.mono (fun _ v hv => ?_) fun _ _ => False.elim
    exact (Action.ensures_tolerant _).2 (hI _ _ rfl (fun _ h => by cases h) v hv)

/-- **A removal gets as far as the account**, or finds that the account is gone: then `J` holds,
and there is nothing left to do but to forget the names. -/
theorem dismantle_reaches {Q : σ → Prop} (hI : Deletes R I) (hJ : Deletes R J)
    (hkey : ∀ t, I t → (Probe.primaryKey w.config.account).Ensures R t (fun _ u => I u)
      fun f u => f.isNotFound = true ∧ J u)
    (hlast : ∀ (v : Work) t, I t → (removeAccount now w.config.account).Ensures R v t
      (fun _ _ u => Q u) fun _ _ _ => False)
    (hend : ∀ t, J t → Q t) (hs : I s) :
    (dismantle now).Ensures R w s (fun _ _ t => Q t) fun _ _ _ => False := by
  -- private access and then the account, whatever became of the container
  have hrest : ∀ {v : Work} {t : σ}, I t →
      (removePrivateNetwork now w.config.account).Ensures R v t
        (fun _ u r => (removeAccount now w.config.account).Ensures R u r (fun _ _ x => Q x)
          fun _ _ _ => False)
        fun _ _ _ => False := by
    intro v t ht
    refine (removePrivateNetwork_succeeds hI ht).mono (fun _ u r hr => ?_) fun _ _ _ => False.elim
    exact hlast u r hr
  rw [dismantle_ensures]
  dsimp only
  split
  · exact hrest hs
  · rw [keyUnlessGone_ensures]
    refine (hkey s hs).mono (fun key t ht => ?_) fun f t ht => ?_
    · dsimp only
      rw [removeContainer_ensures]
      have hcontainer : (Action.tolerant (Action.perform
          (.deleteContainer w.config.account key w.config.container))).Ensures
          R t (fun _ u => I u) fun _ _ => False :=
        (Action.ensures_tolerant _).2 (hI _ _ rfl (fun _ h => by cases h) t ht)
      exact hcontainer.mono (fun _ u hu => hrest hu) fun _ _ => False.elim
    · obtain ⟨hnot, ht⟩ := ht
      rw [if_pos hnot]
      exact (removePrivateNetwork_succeeds hJ ht).mono (fun _ _ u hu => hend u hu)
        fun _ _ _ => False.elim

end Reaching

theorem dismantle_succeeds (hs : Preserving zones s) :
    (dismantle now).Ensures (Inventory.undisturbed home) w s
      (fun _ _ t => Preserving zones t) fun _ _ _ => False := by
  have hdeletes : Deletes (Inventory.undisturbed home) (Preserving zones) :=
    fun _ _ hd _ _ ht => ht.delete hd
  refine dismantle_reaches hdeletes hdeletes (fun t ht => ?_) (fun v t ht => ?_) (fun _ ht => ht) hs
  · refine (Inventory.primaryKey_undisturbed ht.plain _).mono ?_ ?_
    · rintro key u ⟨-, -, rfl⟩
      exact ⟨ht.plain, ht.zones⟩
    · rintro f u ⟨-, hnot, g, rfl⟩
      exact ⟨hnot, ht.plain, ht.zones⟩
  · rw [removeAccount_ensures]
    exact (Action.ensures_tolerant _).2 (ht.delete rfl)

/-- **Nothing but a refusal stops the removal of storage that the program owns.** -/
theorem remove_succeeds {settings : Settings} {credentials : ClusterCredentials}
    (hc : settings.credentials = .ok (.cluster credentials)) (ho : Orderly settings w.state)
    (hw : w.state.spec = w.config) (hs : Preserving zones s) :
    (remove settings now).Ensures (Inventory.undisturbed home) w s
      (fun _ _ t => Preserving zones t) fun _ _ _ => False := by
  rw [remove_ensures hc]
  split
  · exact hs
  · rename_i hmanaged
    split
    · exact hs
    · obtain ⟨environment, hcloud⟩ := ho.cloud (by simpa using hmanaged)
      rw [hw] at hcloud
      refine ⟨fun f hf => ?_, fun _ _ => ?_⟩
      · rw [hcloud] at hf
        cases hf
      · refine Inventory.ensures_undisturbed (fun _ t ht => ?_) fun f hf => ?_
        · obtain rfl := (Prod.mk.inj ht).2
          exact dismantle_succeeds ⟨hs.plain, hs.zones⟩
        · cases hf

end Storage

/-! ## Whole runs -/

/-- What a world keeps from turn to turn if nothing was in place when the run began. -/
structure World.Retraceable (settings : Settings) (w : World) : Prop where
  accounted : w.Accounted
  orderly : Orderly settings w.state
  traced : Traced w.scene

namespace World

variable {settings : Settings} {credentials : ClusterCredentials} {w : World} {t : Turn}

/-- **One turn.** -/
theorem Retraceable.take (hc : settings.credentials = .ok (.cluster credentials))
    (hw : w.Retraceable settings) (ht : t.Honest) :
    (w.take settings home t).2.Retraceable settings := by
  have horderly : Orderly settings (w.take settings home t).2.state := by
    refine take_keeps (P := fun v => Orderly settings v.state) ht ?_
    cases t.order with
    | create infra fresh => exact Storage.create_orderly hc hw.orderly rfl
    | remove =>
      exact (Storage.remove_blank hc hw.orderly rfl).mono (fun _ _ _ hv => hv.1) fun _ _ _ hv => hv
    | checkExists =>
      refine (Invocation.ensures_bind _).2 ?_
      exact (Storage.checkExists_orderly (w := ⟨w.state.spec, w.state⟩) hw.orderly).mono
        (fun _ _ _ hv => hv) fun _ _ _ hv => hv
  refine ⟨hw.accounted.take hc ht, horderly, ?_⟩
  exact take_keeps (P := fun v => Traced v.scene) ht (.of_kept Traced.kept hw.traced)

/-- A world before the first call, with nothing in place. -/
theorem Retraceable.initial {state : StorageState} {inventory : Inventory}
    (hstatus : state.status = none) (hmanagement : state.management = none)
    (hplain : inventory.Plain) : (World.initial state inventory).Retraceable settings := by
  have hunmanaged : ¬state.isManaged = true := by
    rw [StorageState.isManaged, hmanagement]
    exact nofun
  -- nothing is owned and nothing was applied, so there is nothing to be in order
  refine ⟨.initial hplain, ⟨fun h => absurd h hunmanaged, fun h => absurd h hunmanaged, ?_⟩,
    Traced.of_no_journal⟩
  intro c hc
  rw [World.initial, hstatus] at hc
  cases hc

/-- **A removal without refusals leaves nothing.** -/
theorem Retraceable.remove (hc : settings.credentials = .ok (.cluster credentials))
    (hw : w.Retraceable settings) (hmanaged : w.state.isManaged = true) (now : Moment) :
    let outcome := w.take settings home ⟨.remove, now, []⟩
    outcome.1 = .ok () ∧
      (∀ r, outcome.2.scene.journal.Created r → outcome.2.scene.provider.has r = false) ∧
      outcome.2.scene.provider.zones = w.scene.provider.zones ∧
      outcome.2.state.spec.Blank ∧ ∀ c, outcome.2.state.status = some c → c.Blank := by
  intro outcome
  have hv : outcome.2.Retraceable settings := hw.take hc Disturbance.honest_nil
  have hsucceeds : (Storage.remove settings now).Ensures (Inventory.undisturbed home)
      ⟨w.state.spec, w.state⟩ w.scene
      (fun _ _ t => Preserving w.scene.provider.zones t) fun _ _ _ => False :=
    Storage.remove_succeeds hc hw.orderly rfl ⟨hw.accounted.plain, rfl⟩
  have hblank : (Storage.remove settings now).Ensures (Inventory.undisturbed home)
      ⟨w.state.spec, w.state⟩ w.scene (fun _ v _ => Orderly settings v.state ∧
        (w.state.isManaged = true → v.state.spec.Blank))
      fun _ v _ => Orderly settings v.state :=
    Storage.remove_blank hc hw.orderly rfl
  have htake := take_undisturbed (w := w) (t := ⟨.remove, now, []⟩)
    (Q := fun v => v.scene.provider.zones = w.scene.provider.zones ∧ v.state.spec.Blank)
    (E := fun _ _ => False) rfl ((hsucceeds.and hblank).mono
      (fun _ _ _ h => ⟨h.1.zones, h.2.2 hmanaged⟩) fun _ _ _ h => h.1)
  split at htake
  · rename_i hok
    obtain ⟨hzones, hspec⟩ := htake
    refine ⟨hok, fun r hr => ?_, hzones, hspec, fun c hc => (hv.orderly.applied c hc).blank hspec⟩
    -- what still exists is held, and the record would have to name it
    refine Bool.eq_false_iff.2 fun hhas => ?_
    exact hspec.not_names (hv.accounted.named r (hv.traced r hr hhas))
  · exact htake.elim

end World

/-- **Taking down is complete.** After every run of invocations on a record in which nothing was
put in place, each of which may fail at any call: if the program owns the storage, one removal
that is not refused a call ends well, leaves nothing that was created and the shared zone where it
is, and forgets all names. -/
theorem teardown_is_complete {settings : Settings} {credentials : ClusterCredentials}
    (hc : settings.credentials = .ok (.cluster credentials)) (home : Scope) (state : StorageState)
    (hstatus : state.status = none) (hmanagement : state.management = none) (inventory : Inventory)
    (hplain : inventory.Plain) (turns : List Turn) (hhonest : ∀ t ∈ turns, t.Honest)
    (now : Moment) :
    let w := (World.initial state inventory).after settings home turns
    w.state.isManaged = true →
      let outcome := w.take settings home ⟨.remove, now, []⟩
      outcome.1 = .ok () ∧
        (∀ r, outcome.2.scene.journal.Created r → outcome.2.scene.provider.has r = false) ∧
        outcome.2.scene.provider.zones = w.scene.provider.zones ∧
        outcome.2.state.spec.Blank ∧ ∀ c, outcome.2.state.status = some c → c.Blank := by
  intro w hmanaged
  have hw : w.Retraceable settings :=
    World.after_keeps (fun v hv t ht => hv.take hc (hhonest t ht))
      (.initial hstatus hmanagement hplain)
  exact hw.remove hc hmanaged now

/-- A run that was refused the container and a removal that was refused the account, before a
removal that goes through. -/
theorem teardown_is_complete_after_refusals :
    let turns : List Turn := [
      ⟨.create ⟨"mycluster", none⟩ ⟨⟨[], 0⟩, 0⟩, default,
        [none, none, none, none, some (.api "refused")]⟩,
      ⟨.remove, default, [none, some (.api "refused")]⟩]
    let w := (World.initial {} {}).after clusterSettings clusterSettings.cluster.scope turns
    (∀ t ∈ turns, t.Honest) ∧ w.scene.journal.Created (.account "imageregistrymyclusaaaaa") ∧
      w.state.isManaged = true ∧
      let outcome := w.take clusterSettings clusterSettings.cluster.scope ⟨.remove, default, []⟩
      outcome.1 = .ok () ∧ outcome.2.state.spec.Blank := by
  intro turns w
  have hplain : ({} : Inventory).Plain := ⟨rfl, nofun, nofun⟩
  have hhonest : ∀ t ∈ turns, t.Honest := by decide
  have hcreated : w.scene.journal.Created (.account "imageregistrymyclusaaaaa") := by decide +kernel
  have hmanaged : w.state.isManaged = true := by decide +kernel
  have hremoved := teardown_is_complete clusterSettings_credentials clusterSettings.cluster.scope {}
    rfl rfl {} hplain turns hhonest default hmanaged
  exact ⟨hhonest, hcreated, hmanaged, hremoved.1, hremoved.2.2.2.1⟩

end RegistryStorage
