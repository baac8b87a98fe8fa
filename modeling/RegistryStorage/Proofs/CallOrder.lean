import RegistryStorage.Proofs.ChosenNames
import RegistryStorage.Proofs.Ownership
import RegistryStorage.Proofs.Seclusion
import RegistryStorage.Proofs.Transcript

/-!
The order of the calls, and where they stop.

An operation keeps a `Discipline`: the calls with which it changes something come in a fixed order,
none of them twice, and after a fault there is no further call, unless it is one of the few faults
that the operation can live with. The invariant behind it is `Discipline.Ahead`: as long as the
operation goes on, every fault so far was one of those, and the changes made so far can be followed
by those that are still ahead. Each step takes some of these off.

Two things are said beyond the order. An account is closed to the public network only once all that
leads to it privately and its container are there (`Connected`, `Furnished`), and an account that
was said to be gone is not deleted.
Main statement: all of this holds of every run against every provider (`calls_are_disciplined`).
-/

set_option autoImplicit false

namespace RegistryStorage

open Isolation (zone zoneLocation zoneGroup addressLifetime firstAddress)
open Storage (takeCloud accountNamed)

variable {σ : Type}

/-! ## Disciplines -/

/-- The change that a call makes, by the name of the call, or nothing if it only looks. -/
def Call.changed : Call → List String
  | clients .. | containers _ | checkName _ | getAccount _ | listKeys _ => []
  | containerExists .. | getEndpoint _ | getInterface _ => []
  | c => [c.name]

/-- The changes that the calls of a transcript make. -/
def Transcript.changes (h : Transcript) : List String := h.flatMap (·.call.changed)

/-- How an operation goes about its work: the changes it makes, in their order and each but once,
and the faults after which it goes on. -/
structure Discipline where
  stages : List String
  once : stages.Nodup
  tolerates : Call → Fault → Bool

namespace Discipline

variable {d : Discipline} {l m : List String} {h : Transcript} {c : Call}

/-- The operation may go on after an exchange. -/
def Allows (d : Discipline) (e : Exchange) : Prop :=
  ∀ f, e.reply = .error f → d.tolerates e.call f = true

/-- **The discipline is kept.** -/
structure Kept (d : Discipline) (h : Transcript) : Prop where
  order : h.changes.Sublist d.stages
  /-- Nothing follows an exchange after which the operation may not go on. -/
  stop : h.Pairwise fun e _ => d.Allows e

/-- The operation may go on, and these are the changes that are still ahead of it. -/
structure Ahead (d : Discipline) (l : List String) (h : Transcript) : Prop where
  order : (h.changes ++ l).Sublist d.stages
  goes : ∀ e ∈ h, d.Allows e

theorem Ahead.kept (ha : d.Ahead l h) : d.Kept h where
  order := (List.sublist_append_left ..).trans ha.order
  stop := List.pairwise_of_forall_mem_list fun e he _ _ => ha.goes e he

theorem Ahead.skip (ha : d.Ahead l h) (hm : m.Sublist l) : d.Ahead m h :=
  ⟨((List.Sublist.refl _).append hm).trans ha.order, ha.goes⟩

/-- **The step**: a call that makes the next change, or none, takes it off what is ahead. A fault
ends the run, unless it is tolerated. -/
theorem Ahead.perform (ha : d.Ahead (c.changed ++ l) h) :
    (Action.perform c).Ensures unruly h (fun _ t => d.Ahead l t) fun f t =>
      d.Kept t ∧ (d.tolerates c f = true → d.Ahead l t) := by
  have horder : ∀ reply, (Transcript.changes (h ++ [⟨c, reply⟩]) ++ l).Sublist d.stages := by
    intro reply
    have hsame : Transcript.changes (h ++ [⟨c, reply⟩]) ++ l =
        h.changes ++ (c.changed ++ l) := by
      simp [Transcript.changes]
    rw [hsame]
    exact ha.order
  have hgoes : ∀ e, d.Allows e → ∀ x ∈ h ++ [e], d.Allows x := by
    intro e he x hx
    rcases List.mem_append.1 hx with hx | hx
    · exact ha.goes x hx
    · rwa [List.mem_singleton.1 hx]
  refine Action.ensures_unruly (fun x => ⟨horder _, hgoes _ nofun⟩) fun f =>
    ⟨⟨?_, ?_⟩, fun hf => ?_⟩
  · exact (List.sublist_append_left ..).trans (horder _)
  · rw [List.pairwise_append]
    refine ⟨ha.kept.stop, List.pairwise_singleton .., ?_⟩
    intro e he x _
    exact ha.goes e he
  · refine ⟨horder _, hgoes _ ?_⟩
    rintro g hg
    obtain rfl := Except.error.inj hg
    exact hf

/-- A call after whose faults there is no other. -/
theorem Ahead.strict (ha : d.Ahead (c.changed ++ l) h) :
    (Action.perform c).Ensures unruly h (fun _ t => d.Ahead l t) fun _ t => d.Kept t :=
  ha.perform.mono (fun _ _ ht => ht) fun _ _ ht => ht.1

end Discipline

/-! ## Putting storage in place -/

/-- The changes that DNS takes. -/
def Isolation.stages : List String :=
  ["create_or_update_zone", "create_or_update_a_record", "create_private_dns_zone_group",
    "create_or_update_vnet_link"]

/-- How storage is put in place. An endpoint that does not exist is created, a link that is there
will do, and an account that cannot be looked at counts as open. -/
def creating : Discipline where
  stages := ["create_account", "create_private_endpoint"] ++ Isolation.stages ++
    ["create_container", "update_public_network_access"]
  once := by decide
  tolerates
    | .getEndpoint _, f => f.isNotFound
    | .putLink _, f => f.isConflict
    | .getAccount _, _ => true
    | _, _ => false

section Creating

variable {h : Transcript} {l : List String} {scope : Scope} {infra : Infrastructure}
variable {fresh : Fresh} {c : StorageConfig} {network : InternalNetwork} {tags : Tags}

theorem Assure.account_disciplined {environment : CloudEnvironment}
    (ha : creating.Ahead ("create_account" :: l) h) :
    (account scope environment c infra fresh).Ensures unruly h (fun _ t => creating.Ahead l t)
      fun _ t => creating.Kept t := by
  rw [account_ensures]
  refine ⟨fun _ _ => ha.kept, fun name generated _ => ?_⟩
  refine (ha.strict (c := .checkName name)).mono ?_ fun _ _ ht => ht
  intro availability t ht
  split
  · exact ht.strict (l := l)
  · split
    · exact ht.kept
    · exact ht.skip (List.sublist_cons_self ..)

theorem Isolation.configureDns_disciplined {endpoint : Endpoint} {vnet group account : String}
    (ha : creating.Ahead (stages ++ l) h) :
    (configureDns scope endpoint vnet group account tags).Ensures unruly h
      (fun _ t => creating.Ahead l t) fun _ t => creating.Kept t := by
  rw [configureDns_ensures]
  refine (ha.strict (c := .putZone ..) (l := stages.tail ++ l)).mono ?_ fun _ _ ht => ht
  intro _ t ht
  refine ⟨fun name _ => ?_, fun _ _ => ht.kept⟩
  refine (ht.strict (c := .getInterface name)).mono ?_ fun _ _ ht => ht
  intro interface t ht
  refine ⟨fun address _ => ?_, fun _ _ => ht.kept⟩
  refine (ht.strict (c := .putARecord ..) (l := stages.tail.tail ++ l)).mono ?_
    fun _ _ ht => ht
  intro _ t ht
  refine (ht.strict (c := .putZoneGroup ..) (l := "create_or_update_vnet_link" :: l)).mono ?_
    fun _ _ ht => ht
  intro _ t ht
  rw [link_ensures]
  refine (ht.perform (c := .putLink _) (l := l)).mono (fun _ _ ht => ht) ?_
  rintro f t ⟨hkept, hgoes⟩
  split
  · rename_i hconflict
    exact hgoes hconflict
  · exact hkept

theorem Isolation.configure_disciplined {account : String}
    (ha : creating.Ahead ("create_private_endpoint" :: (stages ++ l)) h) :
    (configure scope account tags network).Ensures unruly h (fun _ t => creating.Ahead l t)
      fun _ t => creating.Kept t := by
  refine (Action.ensures_bind _).2 ?_
  refine (ha.strict (c := .createEndpoint _) (l := stages ++ l)).mono ?_ fun _ _ ht => ht
  intro endpoint t ht
  refine (Action.ensures_bind _).2 ?_
  exact (configureDns_disciplined ht).mono (fun _ _ hu => hu) fun _ _ hu => hu

theorem Storage.openPrivately_disciplined {a : Assured}
    (ha : creating.Ahead ("create_private_endpoint" :: (Isolation.stages ++ l)) h) :
    (openPrivately scope infra a c).Ensures unruly h (fun _ t => creating.Ahead l t)
      fun _ t => creating.Kept t := by
  unfold openPrivately
  split
  · rw [Assure.privateNetwork_ensures]
    split
    · exact Isolation.configure_disciplined ha
    · refine (ha.perform (c := .getEndpoint _)).mono ?_ ?_
      · intro endpoint t ht
        exact Isolation.configureDns_disciplined (ht.skip (List.sublist_cons_self ..))
      · rintro f t ⟨hkept, hgoes⟩
        split
        · rename_i hgone
          exact Isolation.configure_disciplined (hgoes hgone)
        · exact hkept
  · refine ha.skip ?_
    rw [← List.cons_append]
    exact List.sublist_append_right ..

/-- Asking for a key changes nothing. -/
theorem Probe.primaryKey_disciplined {d : Discipline} {account : String} (ha : d.Ahead l h) :
    (primaryKey account).Ensures unruly h (fun _ t => d.Ahead l t) fun _ t => d.Kept t := by
  rw [primaryKey_ensures]
  refine (ha.strict (c := .listKeys account)).mono ?_ fun _ _ ht => ht
  intro keys t ht
  exact ⟨fun _ _ => ht, fun _ _ => ht.kept⟩

theorem Assure.container_disciplined (ha : creating.Ahead ("create_container" :: l) h) :
    (container c infra fresh).Ensures unruly h (fun _ t => creating.Ahead l t)
      fun _ t => creating.Kept t := by
  rw [container_ensures]
  split
  · refine (Probe.primaryKey_disciplined ha).mono ?_ fun _ _ ht => ht
    intro key t ht
    exact ht.strict (l := l)
  · refine ⟨fun _ _ => ha.kept, fun _ => ?_⟩
    refine (Probe.primaryKey_disciplined ha).mono ?_ fun _ _ ht => ht
    intro key t ht
    have hexists : (Probe.containerExists c.account key c.container).Ensures unruly t
        (fun _ u => creating.Ahead ("create_container" :: l) u) fun _ u => creating.Kept u := by
      unfold Probe.containerExists
      split
      · exact ht
      · exact ht.strict (c := .containerExists ..)
    refine hexists.mono ?_ fun _ _ hu => hu
    intro there u hu
    split
    · exact hu.skip (List.sublist_cons_self ..)
    · exact hu.strict (l := l)

theorem Storage.closePublicly_disciplined
    (ha : creating.Ahead ["update_public_network_access"] h) :
    (closePublicly c).Ensures unruly h (fun _ t => creating.Kept t)
      fun _ t => creating.Kept t := by
  have hset : ∀ {t}, creating.Ahead ["update_public_network_access"] t →
      (Action.perform (.setAccess c.account .disabled)).Ensures unruly t
        (fun _ u => creating.Kept u) fun _ u => creating.Kept u := by
    intro t ht
    exact (ht.strict (l := [])).mono (fun _ _ hu => hu.kept) fun _ _ hu => hu
  unfold closePublicly
  split
  · rw [closeToPublic_ensures]
    refine (ha.perform (c := .getAccount _)).mono ?_ fun f t ht => hset (ht.2 rfl)
    intro found t ht
    split
    · exact ht.kept
    · exact hset ht
  · exact ha.kept

end Creating

namespace Storage

variable {w : Work} {now : Moment} {settings : Settings} {infra : Infrastructure} {fresh : Fresh}
variable {h : Transcript}

theorem furnish_disciplined {scope : Scope} {environment : CloudEnvironment}
    (ha : creating.Ahead creating.stages h) :
    (furnish scope environment infra fresh now).Ensures unruly w h
      (fun _ _ t => creating.Kept t) fun _ _ t => creating.Kept t := by
  rw [furnish_ensures]
  refine (Assure.account_disciplined ha).mono ?_ fun _ _ ht => ht
  intro account t ht
  refine (openPrivately_disciplined ht).mono ?_ fun _ _ hu => hu
  intro _ u hu
  refine (Assure.container_disciplined hu).mono ?_ fun _ _ hv => hv
  intro container v hv
  exact closePublicly_disciplined hv

theorem create_disciplined :
    (create settings infra fresh now).Ensures unruly w [] (fun _ _ t => creating.Kept t)
      fun _ _ t => creating.Kept t := by
  have hnone : creating.Ahead creating.stages [] := ⟨List.Sublist.refl _, List.forall_mem_nil _⟩
  refine create_of_furnish hnone.kept fun environment credentials => ?_
  refine (hnone.strict (c := .clients environment credentials)).mono ?_ fun _ _ ht => ht
  intro _ t ht
  exact furnish_disciplined ht

end Storage

/-! ## Taking storage down -/

/-- The changes that it takes to remove what private access needs. -/
def Isolation.removals : List String :=
  ["delete_a_record", "delete_private_dns_zone_group", "delete_vnet_link",
    "delete_private_endpoint"]

/-- How storage is taken down. What is gone already counts as deleted. -/
def removing : Discipline where
  stages := "delete_container" :: (Isolation.removals ++ ["delete_account"])
  once := by decide
  tolerates
    | .listKeys _, f | .deleteContainer .., f | .deleteARecord .., f => f.isNotFound
    | .deleteZoneGroup .., f | .deleteLink .., f | .deleteEndpoint _, f => f.isNotFound
    | _, _ => false

/-- An account without keys is a fault, and not one that says that the account is gone. -/
theorem Probe.isNotFound_firstKey {account : String} {keys : List AccountKey} {f : Fault}
    (hf : firstKey account keys = .error f) : f.isNotFound = false := by
  unfold firstKey at hf
  split at hf
  · cases hf
  · obtain rfl := Except.error.inj hf
    rfl

/-- A key is not found exactly if the account is not. -/
theorem Probe.isNotFound_keyFault {account : String} {f : Fault} :
    (keyFault account f).isNotFound = f.isNotFound := by
  unfold keyFault
  split
  · rename_i hgone
    rw [hgone]
    rfl
  · rfl

namespace Storage

variable {w : Work} {now : Moment} {settings : Settings} {account : String}
variable {h : Transcript} {l : List String}

/-- A deletion that counts as done if there was nothing to delete. -/
theorem tolerant_disciplined {a : Action Unit}
    (ha : a.Ensures unruly h (fun _ t => removing.Ahead l t) fun f t =>
      removing.Kept t ∧ (f.isNotFound = true → removing.Ahead l t)) :
    (Action.tolerant a).Ensures unruly h (fun _ t => removing.Ahead l t)
      fun _ t => removing.Kept t := by
  rw [Action.ensures_tolerant]
  refine ha.mono (fun _ _ ht => ht) ?_
  rintro f t ⟨hkept, hgoes⟩
  split
  · rename_i hgone
    exact hgoes hgone
  · exact hkept

theorem removePrivateNetwork_disciplined
    (ha : removing.Ahead (Isolation.removals ++ l) h) :
    (removePrivateNetwork now account).Ensures unruly w h (fun _ _ t => removing.Ahead l t)
      fun _ _ t => removing.Kept t := by
  rw [removePrivateNetwork_ensures]
  split
  · exact ha.skip (List.sublist_append_right ..)
  · rename_i endpoint _
    have hdns : (Isolation.removeDns endpoint account).Ensures unruly h
        (fun _ t => removing.Ahead ("delete_private_endpoint" :: l) t)
        fun _ t => removing.Kept t := by
      unfold Isolation.removeDns
      rw [Action.ensures_bind]
      refine (tolerant_disciplined (l := Isolation.removals.tail ++ l) ha.perform).mono ?_
        fun _ _ ht => ht
      intro _ t ht
      rw [Action.ensures_bind]
      refine (tolerant_disciplined (l := Isolation.removals.tail.tail ++ l) ht.perform).mono
        ?_ fun _ _ hu => hu
      intro _ u hu
      exact tolerant_disciplined hu.perform
    refine hdns.mono ?_ fun _ _ ht => ht
    intro _ t ht
    exact (tolerant_disciplined (l := l) ht.perform).mono (fun _ _ hu => hu) fun _ _ hu => hu

theorem removeAccount_disciplined (ha : removing.Ahead ["delete_account"] h) :
    (removeAccount now account).Ensures unruly w h (fun _ _ t => removing.Kept t)
      fun _ _ t => removing.Kept t := by
  rw [removeAccount_ensures, Action.ensures_tolerant]
  refine (ha.strict (c := .deleteAccount account) (l := [])).mono (fun _ _ ht => ht.kept) ?_
  intro f t ht
  split <;> exact ht

theorem dismantle_disciplined (ha : removing.Ahead removing.stages h) :
    (dismantle now).Ensures unruly w h (fun _ _ t => removing.Kept t)
      fun _ _ t => removing.Kept t := by
  -- once the container is gone
  have hrest : ∀ {v t}, removing.Ahead (Isolation.removals ++ ["delete_account"]) t →
      (removePrivateNetwork now w.config.account).Ensures unruly v t
        (fun _ x u => (removeAccount now w.config.account).Ensures unruly x u
          (fun _ _ r => removing.Kept r) fun _ _ r => removing.Kept r)
        fun _ _ u => removing.Kept u := by
    intro v t ht
    refine (removePrivateNetwork_disciplined ht).mono ?_ fun _ _ _ hu => hu
    intro _ x u hu
    exact removeAccount_disciplined hu
  rw [dismantle_ensures]
  dsimp only
  split
  · exact hrest (ha.skip (List.sublist_cons_self ..))
  · rw [keyUnlessGone_ensures, Probe.primaryKey_ensures]
    refine (ha.perform (c := .listKeys _)).mono ?_ ?_
    · intro keys t ht
      refine ⟨fun key _ => ?_, fun f hf => ?_⟩
      · dsimp only
        rw [removeContainer_ensures]
        refine (tolerant_disciplined (l := Isolation.removals ++ ["delete_account"])
          ht.perform).mono ?_ fun _ _ hu => hu
        intro _ u hu
        exact hrest hu
      · rw [Probe.isNotFound_firstKey hf, if_neg Bool.false_ne_true]
        exact ht.kept
    · rintro f t ⟨hkept, hgoes⟩
      rw [Probe.isNotFound_keyFault]
      split
      · rename_i hgone
        have hgone := (hgoes hgone).skip (List.sublist_cons_self ..)
        exact (removePrivateNetwork_disciplined hgone).mono (fun _ _ _ hu => hu.kept)
          fun _ _ _ hu => hu
      · exact hkept

theorem remove_disciplined :
    (remove settings now).Ensures unruly w [] (fun _ _ t => removing.Kept t)
      fun _ _ t => removing.Kept t := by
  have hnone : removing.Ahead removing.stages [] := ⟨List.Sublist.refl _, List.forall_mem_nil _⟩
  refine remove_of_dismantle hnone.kept fun environment credentials => ?_
  refine (hnone.strict (c := .clients environment credentials)).mono ?_ fun _ _ ht => ht
  intro _ t ht
  exact dismantle_disciplined ht

end Storage

/-! ## An account that is gone -/

/-- All exchanges of a transcript are of a sort. -/
abbrev Transcript.All (P : Exchange → Prop) (h : Transcript) : Prop := ∀ e ∈ h, P e

theorem Transcript.All.concat {P : Exchange → Prop} {h : Transcript} {e : Exchange} (hh : h.All P)
    (he : P e) : Transcript.All P (h ++ [e]) := by
  intro x hx
  rcases List.mem_append.1 hx with hx | hx
  · exact hh x hx
  · rwa [List.mem_singleton.1 hx]

/-- A call keeps them so if every exchange that it may come to is of that sort. -/
theorem Transcript.All.keeps {P : Exchange → Prop} {c : Call} (hc : ∀ reply, P ⟨c, reply⟩) :
    Action.Keeps unruly (Transcript.All P) (Action.perform c) := fun _ hh =>
  Action.ensures_unruly (fun _ => hh.concat (hc _)) fun _ => hh.concat (hc _)

/-- The look at the keys of an account was answered with the account being gone. -/
def Exchange.SaysGone (e : Exchange) : Prop :=
  ∃ account f, e = ⟨.listKeys account, .error f⟩ ∧ f.isNotFound = true

/-- Only a look at keys says so. -/
theorem Exchange.not_saysGone {c : Call} (hc : ∀ account, c ≠ .listKeys account) (reply : Reply c) :
    ¬(⟨c, reply⟩ : Exchange).SaysGone := by
  rintro ⟨account, f, he, -⟩
  exact hc account (congrArg Exchange.call he)

/-- An account was deleted only if none was said to be gone. -/
def Transcript.Spares (h : Transcript) : Prop :=
  (∃ e ∈ h, e.SaysGone) → ∀ e ∈ h, ∀ account, e.call ≠ .deleteAccount account

theorem Transcript.All.spares {h : Transcript} (hh : h.All fun e => ¬e.SaysGone) : h.Spares := by
  rintro ⟨e, he, hsays⟩
  exact absurd hsays (hh e he)

namespace Storage

variable {w : Work} {now : Moment} {settings : Settings} {h : Transcript} {account : String}

/-- Private access and the account are removed without a look at the keys. -/
theorem removeRest_spares (hh : h.All fun e => ¬e.SaysGone) :
    (removePrivateNetwork now account).Ensures unruly w h
      (fun _ v t => (removeAccount now account).Ensures unruly v t
        (fun _ _ u => u.Spares) fun _ _ u => u.Spares)
      fun _ _ t => t.Spares := by
  have hkept : ∀ d : Call, d.OfIsolation account →
      Action.Keeps unruly (Transcript.All fun e => ¬e.SaysGone) (Action.perform d) := by
    intro d hd
    refine Transcript.All.keeps (Exchange.not_saysGone ?_)
    rintro account rfl
    exact hd
  refine (removePrivateNetwork_within hkept hh).mono ?_ fun _ _ _ ht => ht.1.spares
  rintro _ v t ⟨ht, -⟩
  have hdelete : Action.Keeps unruly (Transcript.All fun e => ¬e.SaysGone)
      (Action.perform (.deleteAccount account)) :=
    Transcript.All.keeps (Exchange.not_saysGone (by simp))
  rw [removeAccount_ensures]
  exact (hdelete.tolerant t ht).mono (fun _ _ hu => hu.spares) fun _ _ hu => hu.spares

theorem dismantle_spares (hgone : h.All fun e => ¬e.SaysGone)
    (hdelete : h.All fun e => ∀ account, e.call ≠ .deleteAccount account) :
    (dismantle now).Ensures unruly w h (fun _ _ t => t.Spares) fun _ _ t => t.Spares := by
  rw [dismantle_ensures]
  dsimp only
  split
  · exact removeRest_spares hgone
  · rw [keyUnlessGone_ensures, Probe.primaryKey_ensures]
    refine Action.ensures_unruly (fun keys => ?_) fun f => ?_
    · -- found, the account was not said to be gone
      have ht : Transcript.All (fun e => ¬e.SaysGone)
          (h ++ [⟨.listKeys w.config.account, .ok keys⟩]) := by
        refine hgone.concat ?_
        rintro ⟨account, f, heq, -⟩
        cases heq
      refine ⟨fun key _ => ?_, fun f hf => ?_⟩
      · have hcontainer : Action.Keeps unruly (Transcript.All fun e => ¬e.SaysGone)
            (Action.perform (.deleteContainer w.config.account key w.config.container)) :=
          Transcript.All.keeps (Exchange.not_saysGone (by simp))
        dsimp only
        rw [removeContainer_ensures]
        exact (hcontainer.tolerant _ ht).mono (fun _ _ hu => removeRest_spares hu)
          fun _ _ hu => hu.spares
      · rw [Probe.isNotFound_firstKey hf, if_neg Bool.false_ne_true]
        exact ht.spares
    · -- gone, or not known to be there: no account is deleted
      have ht : Transcript.All (fun e => ∀ account, e.call ≠ .deleteAccount account)
          (h ++ [⟨.listKeys w.config.account, .error f⟩]) := hdelete.concat nofun
      have hsafe : ∀ d : Call, d.OfIsolation w.config.account → Action.Keeps unruly
          (Transcript.All fun e => ∀ account, e.call ≠ .deleteAccount account)
            (Action.perform d) := by
        intro d hd
        refine Transcript.All.keeps fun _ => ?_
        rintro account rfl
        exact hd
      split
      · refine (removePrivateNetwork_within hsafe ht).mono ?_ ?_
        · exact fun _ _ _ hu _ => hu.1
        · exact fun _ _ _ hu _ => hu.1
      · exact fun _ => ht

theorem remove_spares :
    (remove settings now).Ensures unruly w [] (fun _ _ t => t.Spares) fun _ _ t => t.Spares := by
  have hnone : ∀ {P : Exchange → Prop}, Transcript.All P [] := List.forall_mem_nil _
  refine remove_of_dismantle hnone.spares fun environment credentials => ?_
  refine Action.ensures_unruly (fun _ => dismantle_spares ?_ ?_) fun _ => ?_
  · exact hnone.concat (Exchange.not_saysGone (by simp) _)
  · exact hnone.concat nofun
  · exact Transcript.All.spares (hnone.concat (Exchange.not_saysGone (by simp) _))

end Storage

/-! ## An account that is closed -/

/-- A call was made and granted. -/
def Transcript.Granted (h : Transcript) (c : Call) : Prop := ∃ x, ⟨c, .ok x⟩ ∈ h

/-- All that leads to an account privately was put in place: the endpoint and the shared zone, the
record with the address of the endpoint, the zone group, and the link unless there was one. -/
structure Connected (account : String) (h : Transcript) : Prop where
  endpoint : ∃ endpoint : Endpoint,
    ((∃ n, ⟨.getEndpoint n, .ok endpoint⟩ ∈ h) ∨ ∃ r, ⟨.createEndpoint r, .ok endpoint⟩ ∈ h) ∧
      ∃ id, h.Granted (.putZoneGroup endpoint.name zoneGroup id)
  zone : ∃ tags, h.Granted (.putZone zone zoneLocation tags)
  record : ∃ n interface address, ⟨.getInterface n, .ok interface⟩ ∈ h ∧
    firstAddress interface = .ok address ∧
      h.Granted (.putARecord Isolation.zone account addressLifetime address)
  link : ∃ r : LinkRequest, r.zone = Isolation.zone ∧ r.link = account ∧
    (h.Granted (.putLink r) ∨ ∃ f, ⟨.putLink r, .error f⟩ ∈ h ∧ f.isConflict = true)

/-- A container was created or found in an account. -/
def Furnished (account : String) (h : Transcript) : Prop :=
  ∃ key n, h.Granted (.createContainer account key n) ∨
    ⟨.containerExists account key n, .ok true⟩ ∈ h

/-- No account was closed or opened. -/
abbrev Transcript.Untouched (h : Transcript) : Prop :=
  h.All fun e => ∀ account access, e.call ≠ .setAccess account access

/-- An account is closed only if it is to be private, and after all that leads to it and its
container are there. -/
def Transcript.ClosesLast (wanted : Bool) (h : Transcript) : Prop :=
  ∀ before e after, h = before ++ e :: after →
    ∀ account access, e.call = .setAccess account access →
      access = .disabled ∧ wanted = true ∧ Connected account before ∧ Furnished account before

section Closing

variable {h t : Transcript} {account : String} {wanted : Bool} {scope : Scope} {tags : Tags}
variable {infra : Infrastructure} {fresh : Fresh} {c : StorageConfig} {network : InternalNetwork}

theorem Transcript.Granted.mono {d : Call} (hd : h.Granted d) (ht : h ⊆ t) : t.Granted d := by
  obtain ⟨x, hx⟩ := hd
  exact ⟨x, ht hx⟩

theorem Connected.mono (hc : Connected account h) (ht : h ⊆ t) : Connected account t := by
  obtain ⟨⟨endpoint, hendpoint, id, hgroup⟩, ⟨tags, hzone⟩, ⟨n, i, a, hi, ha, hrecord⟩,
    ⟨r, hrzone, hrlink, hlink⟩⟩ := hc
  refine ⟨⟨endpoint, ?_, id, hgroup.mono ht⟩, ⟨tags, hzone.mono ht⟩, ⟨n, i, a, ht hi, ha,
    hrecord.mono ht⟩, ⟨r, hrzone, hrlink, ?_⟩⟩
  · exact hendpoint.imp (fun ⟨n, hn⟩ => ⟨n, ht hn⟩) fun ⟨r, hr⟩ => ⟨r, ht hr⟩
  · exact hlink.imp (fun hg => hg.mono ht) fun ⟨f, hf, hconflict⟩ => ⟨f, ht hf, hconflict⟩

theorem Furnished.mono (hf : Furnished account h) (ht : h ⊆ t) : Furnished account t := by
  obtain ⟨key, n, hcontainer⟩ := hf
  exact ⟨key, n, hcontainer.imp (fun hg => hg.mono ht) fun hx => ht hx⟩

/-- What a longer transcript has as well is kept by every call. -/
theorem Transcript.keeps_of_mono {P : Transcript → Prop} (hP : ∀ {h t}, P h → h ⊆ t → P t)
    (d : Call) :
    Action.Keeps unruly P (Action.perform d) := fun _ hh =>
  Action.ensures_unruly (fun _ => hP hh (List.subset_append_left ..)) fun _ =>
    hP hh (List.subset_append_left ..)

theorem Transcript.Untouched.closesLast (hh : h.Untouched) : h.ClosesLast wanted := by
  rintro before e after rfl account access he
  have hmem : e ∈ before ++ e :: after := by simp
  exact absurd he (hh e hmem account access)

/-- **The one call that closes an account comes last.** -/
theorem Transcript.Untouched.close (hh : h.Untouched) (hconnected : Connected account h)
    (hfurnished : Furnished account h) :
    (Action.perform (.setAccess account .disabled)).Ensures unruly h
      (fun _ t => t.ClosesLast true) fun _ t => t.ClosesLast true := by
  have hlast : ∀ reply,
      Transcript.ClosesLast true (h ++ [⟨.setAccess account .disabled, reply⟩]) := by
    intro reply before e after hsplit a access he
    rcases List.eq_nil_or_concat after with rfl | ⟨front, last, rfl⟩
    · obtain ⟨rfl, hlast⟩ := List.append_inj' hsplit rfl
      obtain rfl := List.singleton_inj.1 hlast
      obtain ⟨rfl, rfl⟩ := Call.setAccess.inj he
      exact ⟨rfl, rfl, hconnected, hfurnished⟩
    · -- then it would have been made before
      have hbefore : h = before ++ e :: front := by
        rw [List.concat_eq_append, ← List.cons_append, ← List.append_assoc] at hsplit
        exact (List.append_inj' hsplit rfl).1
      exact (hh.closesLast before e front hbefore a access he)
  exact Action.ensures_unruly (fun _ => hlast _) fun _ => hlast _

/-- **DNS is complete only when the whole chain was gone through.** -/
theorem Isolation.configureDns_chains {endpoint : Endpoint} {vnet group : String}
    (hendpoint : (∃ n, ⟨.getEndpoint n, .ok endpoint⟩ ∈ h) ∨
      ∃ r, ⟨.createEndpoint r, .ok endpoint⟩ ∈ h) :
    (configureDns scope endpoint vnet group account tags).Ensures unruly h
      (fun _ t => Connected account t) fun _ _ => True := by
  rw [configureDns_ensures]
  refine Action.ensures_unruly (fun z => ?_) fun _ => trivial
  refine ⟨fun n _ => ?_, fun _ _ => trivial⟩
  refine Action.ensures_unruly (fun interface => ?_) fun _ => trivial
  refine ⟨fun address haddress => ?_, fun _ _ => trivial⟩
  refine Action.ensures_unruly (fun a => ?_) fun _ => trivial
  refine Action.ensures_unruly (fun g => ?_) fun _ => trivial
  rw [link_ensures]
  -- only the link is left, and it is there however the last call is answered
  have hchain : ∀ e : Exchange,
      (∃ r : LinkRequest, r.zone = zone ∧ r.link = account ∧
        (e = ⟨.putLink r, .ok ()⟩ ∨ ∃ f, e = ⟨.putLink r, .error f⟩ ∧ f.isConflict = true)) →
      Connected account (h ++ [⟨.putZone zone zoneLocation tags, .ok z⟩] ++
        [⟨.getInterface n, .ok interface⟩] ++
        [⟨.putARecord zone account addressLifetime address, .ok a⟩] ++
        [⟨.putZoneGroup endpoint.name zoneGroup
          (ResourceId.privateDnsZone scope.subscription scope.resourceGroup zone), .ok g⟩] ++ [e]) := by
    rintro e ⟨r, hzone, hlink, he⟩
    refine ⟨⟨endpoint, ?_, _, g, by simp⟩, ⟨tags, z, by simp⟩,
      ⟨n, interface, address, by simp, haddress, a, by simp⟩, ⟨r, hzone, hlink, ?_⟩⟩
    · exact hendpoint.imp (fun ⟨n, hn⟩ => ⟨n, by simp [hn]⟩) fun ⟨r, hr⟩ => ⟨r, by simp [hr]⟩
    · exact he.imp (fun he => ⟨(), by simp [he]⟩) fun ⟨f, he, hf⟩ => ⟨f, by simp [he], hf⟩
  refine Action.ensures_unruly (fun x => hchain _ ⟨_, rfl, rfl, Or.inl rfl⟩) fun f => ?_
  split
  · rename_i hconflict
    exact hchain _ ⟨_, rfl, rfl, Or.inr ⟨f, rfl, hconflict⟩⟩
  · trivial

theorem Isolation.configure_chains :
    (configure scope account tags network).Ensures unruly h (fun _ t => Connected account t)
      fun _ _ => True := by
  refine (Action.ensures_bind _).2 (Action.ensures_unruly (fun endpoint => ?_) fun _ => trivial)
  refine (Action.ensures_bind _).2 ?_
  exact (configureDns_chains (Or.inr ⟨_, List.mem_concat_self⟩)).mono (fun _ _ ht => ht)
    fun _ _ ht => ht

/-- **Private access that was opened is complete.** -/
theorem Storage.openPrivately_chains {a : Assured} (hwanted : c.network.isInternal = true) :
    (openPrivately scope infra a c).Ensures unruly h (fun _ t => Connected a.name t)
      fun _ _ => True := by
  unfold openPrivately
  split
  · rw [Assure.privateNetwork_ensures]
    split
    · exact Isolation.configure_chains
    · refine Action.ensures_unruly (fun endpoint => ?_) fun f => ?_
      · exact Isolation.configureDns_chains (Or.inl ⟨_, List.mem_concat_self⟩)
      · split
        · exact Isolation.configure_chains
        · trivial
  · rename_i hexternal
    rw [hexternal] at hwanted
    cases hwanted

theorem Assure.container_furnishes :
    (container c infra fresh).Ensures unruly h (fun _ t => Furnished c.account t)
      fun _ _ => True := by
  have hcreate : ∀ {t : Transcript} {key n},
      (Action.perform (.createContainer c.account key n)).Ensures
      unruly t (fun _ u => Furnished c.account u) fun _ _ => True :=
    Action.ensures_unruly (fun x => ⟨_, _, Or.inl ⟨x, List.mem_concat_self⟩⟩) fun _ => trivial
  rw [container_ensures]
  split
  · exact .of_forall (fun _ _ => hcreate) fun _ _ => trivial
  · refine ⟨fun _ _ => trivial, fun _ => ?_⟩
    refine .of_forall (fun key t => ?_) fun _ _ => trivial
    unfold Probe.containerExists
    split
    · exact hcreate
    · refine Action.ensures_unruly (fun there => ?_) fun _ => trivial
      split
      · rename_i hthere
        obtain rfl : there = true := hthere
        exact ⟨key, c.container, Or.inr List.mem_concat_self⟩
      · exact hcreate

/-- All calls but the one leave public access alone. -/
theorem Transcript.Untouched.keeps {d : Call}
    (hd : ∀ account access, d ≠ .setAccess account access) :
    Action.Keeps unruly Transcript.Untouched (Action.perform d) := Transcript.All.keeps fun _ => hd

theorem Assure.account_aside {environment : CloudEnvironment} :
    Action.Keeps unruly Transcript.Untouched
      (Assure.account scope environment c infra fresh) :=
  account_keeps_of (fun _ => Transcript.Untouched.keeps (by simp)) fun _ =>
    Transcript.Untouched.keeps (by simp)

theorem Storage.openPrivately_aside {a : Assured} :
    Action.Keeps unruly Transcript.Untouched (openPrivately scope infra a c) := by
  refine openPrivately_keeps_of fun d hd => Transcript.Untouched.keeps ?_
  rintro account access rfl
  exact hd.elim

theorem Assure.container_aside :
    Action.Keeps unruly Transcript.Untouched (container c infra fresh) := by
  apply container_keeps_of
  · exact Transcript.Untouched.keeps (by simp)
  · exact fun _ _ => Transcript.Untouched.keeps (by simp)
  · exact fun _ _ => Transcript.Untouched.keeps (by simp)

/-- What is neither closed nor opened by the calls before it may be closed by the last step. -/
theorem Storage.closePublicly_closesLast (hh : h.Untouched)
    (hconnected : c.network.isInternal = true → Connected c.account h)
    (hfurnished : Furnished c.account h) :
    (closePublicly c).Ensures unruly h (fun _ t => t.ClosesLast c.network.isInternal)
      fun _ t => t.ClosesLast c.network.isInternal := by
  unfold closePublicly
  split
  · rename_i hinternal
    rw [hinternal]
    have hlook : ∀ reply, let t := h ++ [⟨.getAccount c.account, reply⟩]
        t.Untouched ∧ Connected c.account t ∧ Furnished c.account t := by
      intro reply
      have hsub : h ⊆ h ++ [⟨.getAccount c.account, reply⟩] := List.subset_append_left ..
      exact ⟨hh.concat (by simp), (hconnected hinternal).mono hsub, hfurnished.mono hsub⟩
    rw [closeToPublic_ensures]
    refine Action.ensures_unruly (fun found => ?_) fun f => ?_
    · obtain ⟨ht, hct, hft⟩ := hlook (.ok found)
      split
      · exact ht.closesLast
      · exact ht.close hct hft
    · obtain ⟨ht, hct, hft⟩ := hlook (.error f)
      exact ht.close hct hft
  · exact hh.closesLast

end Closing

namespace Storage

variable {w : Work} {now : Moment} {settings : Settings} {infra : Infrastructure} {fresh : Fresh}
variable {h : Transcript}

theorem furnish_closesLast {scope : Scope} {environment : CloudEnvironment} (hh : h.Untouched) :
    (furnish scope environment infra fresh now).Ensures unruly w h
      (fun _ _ t => t.ClosesLast w.config.network.isInternal)
      fun _ _ t => t.ClosesLast w.config.network.isInternal := by
  rw [furnish_ensures]
  refine (Assure.account_aside h hh).mono ?_ fun _ _ ht => ht.closesLast
  intro account t ht
  let c := accountNamed account.name w.config
  have hcaccount : c.account = account.name := StorageConfig.accountNamed_account ..
  have hinternal : c.network.isInternal = w.config.network.isInternal :=
    StorageConfig.accountNamed_isInternal ..
  -- what is complete by then stays complete while the container is looked for
  have hopen : (openPrivately scope infra account c).Ensures unruly t
      (fun _ u => u.Untouched ∧ (c.network.isInternal = true → Connected c.account u))
      fun _ u => u.Untouched := by
    by_cases hwanted : c.network.isInternal = true
    · rw [hcaccount]
      exact ((openPrivately_aside t ht).and (openPrivately_chains hwanted)).mono
        (fun _ _ hu => ⟨hu.1, fun _ => hu.2⟩) fun _ _ hu => hu.1
    · exact (openPrivately_aside t ht).mono (fun _ _ hu => ⟨hu, fun h => absurd h hwanted⟩)
        fun _ _ hu => hu
  refine hopen.mono ?_ fun _ _ hu => hu.closesLast
  rintro _ u ⟨hu, hconnected⟩
  have hstill : Action.Keeps unruly
      (fun t => c.network.isInternal = true → Connected c.account t)
      (Assure.container c infra fresh) := by
    apply Assure.container_keeps_of
    · exact Transcript.keeps_of_mono (fun hc hsub hwanted => (hc hwanted).mono hsub) _
    · exact fun _ _ => Transcript.keeps_of_mono (fun hc hsub hwanted => (hc hwanted).mono hsub) _
    · exact fun _ _ => Transcript.keeps_of_mono (fun hc hsub hwanted => (hc hwanted).mono hsub) _
  refine (((Assure.container_aside u hu).and (hstill u hconnected)).and
    Assure.container_furnishes).mono ?_ fun _ _ hv => hv.1.1.closesLast
  rintro container v ⟨⟨hv, hconnected⟩, hfurnished⟩
  rw [← hinternal]
  exact closePublicly_closesLast hv hconnected hfurnished

theorem create_closesLast :
    (create settings infra fresh now).Ensures unruly w []
      (fun _ _ t => t.ClosesLast w.config.network.isInternal)
      fun _ _ t => t.ClosesLast w.config.network.isInternal := by
  have hnone : Transcript.Untouched [] := List.forall_mem_nil _
  refine create_of_furnish hnone.closesLast fun environment credentials => ?_
  refine (Transcript.Untouched.keeps (by simp) [] hnone).mono ?_ fun _ _ ht => ht.closesLast
  intro _ t ht
  rw [← StorageConfig.takeCloud_network infra w.config]
  exact furnish_closesLast (w := w.withConfig (takeCloud infra w.config)) ht

end Storage

/-! ## The theorem -/

/-- **The calls of an operation are disciplined**, whatever the provider replies. Those that change
something come in the order of the operation, each at most once, and nothing follows a fault but
what is due after one that is tolerated. An account is closed to the public network only if it is to
be private, and not before its private access is complete and its container is there; and no account
is deleted by a removal that was told that the account is gone. -/
theorem calls_are_disciplined {σ : Type} (r : Replier σ) (s : σ) (settings : Settings) (w : Work)
    (now : Moment) :
    (∀ infra fresh,
      let h := ((Storage.create settings infra fresh now).start w).transcript r s
      creating.Kept h ∧ h.ClosesLast w.config.network.isInternal) ∧
    let h := ((Storage.remove settings now).start w).transcript r s
    removing.Kept h ∧ h.Spares := by
  refine ⟨fun infra fresh => ⟨?_, ?_⟩, ?_, ?_⟩
  · exact Storage.create_disciplined.of_transcript (P := creating.Kept) s
  · exact Storage.create_closesLast.of_transcript s
  · exact Storage.remove_disciplined.of_transcript (P := removing.Kept) s
  · exact Storage.remove_spares.of_transcript s

end RegistryStorage
