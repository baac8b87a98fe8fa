import RegistryStorage.Proofs.History
import RegistryStorage.Proofs.Phases
import RegistryStorage.Proofs.Transcript

/-!
The DNS chain, and the one fault that does not break it.

Configuring DNS for an endpoint takes five calls, each of which needs the one before. Whatever the
provider replies, a transcript of the chain is one of seven (`Chain`): it ends with a call that
fails, or with an endpoint that has no interface or an interface that has no address, or it gets as
far as the link. Only there is a fault ever passed over, namely when it says that there is a link
already.
-/

set_option autoImplicit false

namespace RegistryStorage

namespace Isolation

section Chain

variable (scope : Scope) (endpoint : Endpoint) (vnet group account : String) (tags : Tags)

/-- The shared zone is in place. -/
def zoned : Transcript := [⟨.putZone zone zoneLocation tags, .ok ()⟩]

/-- The shared zone is in place, and an interface was found. -/
def looked (name : String) (interface : NetworkInterface) : Transcript :=
  zoned tags ++ [⟨.getInterface name, .ok interface⟩]

/-- An address was recorded as well. -/
def recorded (name : String) (interface : NetworkInterface) (address : String) : Transcript :=
  looked tags name interface ++ [⟨.putARecord zone account addressLifetime address, .ok ()⟩]

/-- The call that joins the zone to the endpoint. -/
abbrev joining : Call :=
  .putZoneGroup endpoint.name zoneGroup
    (ResourceId.privateDnsZone scope.subscription scope.resourceGroup zone)

/-- All but the link is in place. -/
def joined (name : String) (interface : NetworkInterface) (address : String) : Transcript :=
  recorded account tags name interface address ++ [⟨joining scope endpoint, .ok ()⟩]

/-- What the reply to the link comes to. -/
def tolerateConflict : Except Fault Unit → Except Fault Unit
  | .ok () => .ok ()
  | .error fault => if fault.isConflict then .ok () else .error fault

/-- The chain got as far as the link, which was replied to so. -/
def Linked (reply : Except Fault Unit) (h : Transcript) : Prop :=
  ∃ name interface address, firstInterface endpoint = .ok name ∧
    firstAddress interface = .ok address ∧
    h = joined scope endpoint account tags name interface address ++
      [⟨.putLink (linkRequest scope account vnet group tags), reply⟩]

/-- A transcript of the chain, and what the chain comes to. -/
inductive Chain : Transcript → Except Fault Unit → Prop
  | zone (fault : Fault) :
      Chain [⟨.putZone zone zoneLocation tags, .error fault⟩] (.error fault)
  | noInterface {fault : Fault} (h : firstInterface endpoint = .error fault) :
      Chain (zoned tags) (.error fault)
  | interface {name : String} (h : firstInterface endpoint = .ok name) (fault : Fault) :
      Chain (zoned tags ++ [⟨.getInterface name, .error fault⟩]) (.error fault)
  | noAddress {name : String} {interface : NetworkInterface} {fault : Fault}
      (h : firstInterface endpoint = .ok name) (h' : firstAddress interface = .error fault) :
      Chain (looked tags name interface) (.error fault)
  | record {name : String} {interface : NetworkInterface} {address : String}
      (h : firstInterface endpoint = .ok name) (h' : firstAddress interface = .ok address)
      (fault : Fault) :
      Chain (looked tags name interface ++
        [⟨.putARecord Isolation.zone account addressLifetime address, .error fault⟩]) (.error fault)
  | group {name : String} {interface : NetworkInterface} {address : String}
      (h : firstInterface endpoint = .ok name) (h' : firstAddress interface = .ok address)
      (fault : Fault) :
      Chain (recorded account tags name interface address ++
        [⟨joining scope endpoint, .error fault⟩]) (.error fault)
  | link {t : Transcript} {reply : Except Fault Unit}
      (h : Linked scope endpoint vnet group account tags reply t) :
      Chain t (tolerateConflict reply)

end Chain

variable {scope : Scope} {endpoint : Endpoint} {vnet group account : String} {tags : Tags}
variable {t : Transcript} {result : Except Fault Unit}

/-- **Every transcript is one of the chain**, whatever the provider replies. -/
theorem configureDns_chain :
    (configureDns scope endpoint vnet group account tags).run.Ensures unruly []
      fun result t => Chain scope endpoint vnet group account tags t result := by
  rw [Action.ensures_run, configureDns_ensures]
  refine Action.ensures_unruly (fun _ => ?_) fun fault => .zone fault
  refine ⟨fun name hname => ?_, fun fault hnone => .noInterface hnone⟩
  refine Action.ensures_unruly (fun interface => ?_) fun fault => .interface hname fault
  refine ⟨fun address haddress => ?_, fun fault hnone => .noAddress hname hnone⟩
  refine Action.ensures_unruly (fun _ => ?_) fun fault => .record hname haddress fault
  refine Action.ensures_unruly (fun _ => ?_) fun fault => .group hname haddress fault
  rw [link_ensures]
  have hlink : ∀ reply, Chain scope endpoint vnet group account tags
      (joined scope endpoint account tags name interface address ++
        [⟨.putLink (linkRequest scope account vnet group tags), reply⟩]) (tolerateConflict reply) :=
    fun reply => .link ⟨name, interface, address, hname, haddress, rfl⟩
  refine Action.ensures_unruly (fun _ => hlink (.ok ())) fun fault => ?_
  have hfault := hlink (.error fault)
  unfold tolerateConflict at hfault
  dsimp only at hfault
  split
  · rw [if_pos ‹_›] at hfault
    exact hfault
  · rw [if_neg ‹_›] at hfault
    exact hfault

theorem chain_run {σ : Type} (r : Replier σ) (s : σ) :
    Chain scope endpoint vnet group account tags
      ((configureDns scope endpoint vnet group account tags).run.transcript r s)
      ((configureDns scope endpoint vnet group account tags).run.run r s).1 := by
  have hrun := Program.Ensures.of_transcript (r := r)
    (configureDns_chain : Program.Ensures _
      (configureDns scope endpoint vnet group account tags).run _ _) s
  rw [List.nil_append] at hrun
  exact hrun

/-! ## What the chain comes to -/

theorem tolerateConflict_eq_ok {reply : Except Fault Unit} :
    tolerateConflict reply = .ok () ↔
      reply = .ok () ∨ ∃ fault, reply = .error fault ∧ fault.isConflict = true := by
  cases reply with
  | ok _ => simp [tolerateConflict]
  | error fault =>
    unfold tolerateConflict
    dsimp only
    split <;> simp [*]

theorem isConflict_iff {fault : Fault} :
    fault.isConflict = true ↔ ∃ status code message, fault = .response status code message ∧
      (code = "Conflict" ∨ status = 409) := by
  constructor
  · intro h
    cases fault with
    | response status code message =>
      exact ⟨status, code, message, rfl, by simpa [Fault.isConflict, or_comm] using h⟩
    | _ => cases h
  · rintro ⟨status, code, message, rfl, h⟩
    simpa [Fault.isConflict, or_comm] using h

namespace Chain

/-- A chain that ends well got as far as the link. -/
theorem linked (h : Chain scope endpoint vnet group account tags t (.ok ())) :
    ∃ reply, Linked scope endpoint vnet group account tags reply t ∧
      tolerateConflict reply = .ok () := by
  generalize hresult : (Except.ok () : Except Fault Unit) = result at h
  cases h with
  | link h => exact ⟨_, h, rfl⟩
  | _ => cases hresult

/-- What a chain comes to that gets as far as the link. -/
theorem of_linked {reply : Except Fault Unit}
    (h : Chain scope endpoint vnet group account tags t result)
    (hlinked : Linked scope endpoint vnet group account tags reply t) :
    result = tolerateConflict reply := by
  obtain ⟨name, interface, address, -, -, ht⟩ := hlinked
  cases h with
  | link h =>
    obtain ⟨name', interface', address', -, -, ht'⟩ := h
    have hlast := (List.append_singleton_inj.1 (ht.symm.trans ht')).2
    cases hlast
    rfl
  | _ =>
    -- all the others are too short
    have hlength := congrArg List.length ht
    simp [zoned, looked, recorded, joined] at hlength

/-- Where a chain stops that fails, and with which fault. -/
theorem stops {fault : Fault}
    (h : Chain scope endpoint vnet group account tags t (.error fault)) :
    (∃ before x, t = before ++ [x] ∧ (∀ y ∈ before, faultOf y.reply = none) ∧
      faultOf x.reply = some fault) ∨
    (firstInterface endpoint = .error fault ∧ t = zoned tags) ∨
    ∃ name interface, firstInterface endpoint = .ok name ∧
      firstAddress interface = .error fault ∧ t = looked tags name interface := by
  generalize hresult : (Except.error fault : Except Fault Unit) = result at h
  cases h with
  | zone fault' =>
    cases hresult
    exact Or.inl ⟨[], _, rfl, by simp, rfl⟩
  | noInterface hnone =>
    cases hresult
    exact Or.inr (Or.inl ⟨hnone, rfl⟩)
  | interface _ fault' =>
    cases hresult
    exact Or.inl ⟨_, _, rfl, by simp [zoned], rfl⟩
  | noAddress hname hnone =>
    cases hresult
    exact Or.inr (Or.inr ⟨_, _, hname, hnone, rfl⟩)
  | record _ _ fault' =>
    cases hresult
    exact Or.inl ⟨_, _, rfl, by simp [zoned, looked], rfl⟩
  | group _ _ fault' =>
    cases hresult
    exact Or.inl ⟨_, _, rfl, by simp [zoned, looked, recorded], rfl⟩
  | @link _ reply h =>
    obtain ⟨name, interface, address, -, -, rfl⟩ := h
    refine Or.inl ⟨_, _, rfl, by simp [zoned, looked, recorded, joined], ?_⟩
    cases reply with
    | ok _ => cases hresult
    | error fault' =>
      unfold tolerateConflict at hresult
      dsimp only at hresult
      split at hresult <;> cases hresult
      rfl

/-- A call that fails is the last one, and its fault is that of the chain; the link alone may fail
with a conflict. -/
theorem fails (h : Chain scope endpoint vnet group account tags t result) {x : Exchange}
    (hx : x ∈ t) {fault : Fault} (hfault : faultOf x.reply = some fault)
    (hconflict : (∃ request, x.call = .putLink request) → fault.isConflict = false) :
    t.getLast? = some x ∧ result = .error fault := by
  have hlast : ∀ {before : Transcript} {last : Exchange}, t = before ++ [last] →
      (∀ y ∈ before, faultOf y.reply = none) → x = last := by
    rintro before last rfl hbefore
    rcases List.mem_append.1 hx with hx | hx
    · rw [hbefore x hx] at hfault
      cases hfault
    · exact List.mem_singleton.1 hx
  cases result with
  | ok _ =>
    -- only the link can have failed here, and not with a conflict
    obtain ⟨reply, ⟨name, interface, address, -, -, ht⟩, hreply⟩ := h.linked
    obtain rfl := hlast ht (by simp [zoned, looked, recorded, joined])
    obtain rfl | ⟨fault', rfl, hfault'⟩ := tolerateConflict_eq_ok.1 hreply
    · cases hfault
    · cases hfault
      rw [hconflict ⟨_, rfl⟩] at hfault'
      cases hfault'
  | error fault' =>
    obtain ⟨before, last, ht, hbefore, hfault'⟩ | ⟨-, rfl⟩ | ⟨name, interface, -, -, rfl⟩ := h.stops
    · obtain rfl := hlast ht hbefore
      rw [hfault] at hfault'
      cases hfault'
      exact ⟨by rw [ht, List.getLast?_concat], rfl⟩
    · obtain rfl := List.mem_singleton.1 hx
      cases hfault
    · simp only [looked, zoned, List.mem_append, List.mem_singleton] at hx
      rcases hx with rfl | rfl <;> cases hfault

end Chain

end Isolation

open Isolation in
/-- **In the DNS chain nothing but a conflict is passed over**, whatever the provider replies. The
chain ends well if it gets as far as the link, and the link is made or refused with a conflict: with
the code of one, or with its status and no code. Any other call that fails is the last one and fails
the chain with its own fault, and so does an endpoint without an interface or an interface without
an address. -/
theorem only_conflicts_are_tolerated {σ : Type} (r : Replier σ) (s : σ) (scope : Scope)
    (endpoint : Endpoint) (vnet group account : String) (tags : Tags) :
    let chain := (configureDns scope endpoint vnet group account tags).run
    let t := chain.transcript r s
    let result := (chain.run r s).1
    (result = .ok () → ∃ reply, Linked scope endpoint vnet group account tags reply t ∧
      (reply = .ok () ∨ ∃ status code message, reply = .error (.response status code message) ∧
        (code = "Conflict" ∨ status = 409))) ∧
    (∀ reply, Linked scope endpoint vnet group account tags reply t →
      (reply = .ok () ∨ ∃ status code message, reply = .error (.response status code message) ∧
        (code = "Conflict" ∨ status = 409 ∧ code = "")) →
      result = .ok ()) ∧
    (∀ x ∈ t, ∀ fault, faultOf x.reply = some fault →
      ((∃ request, x.call = .putLink request) → ∀ status code message,
        fault = .response status code message → code ≠ "Conflict" ∧ status ≠ 409) →
      t.getLast? = some x ∧ result = .error fault) ∧
    (∀ fault, result = .error fault →
      (∃ before x, t = before ++ [x] ∧ (∀ y ∈ before, faultOf y.reply = none) ∧
        faultOf x.reply = some fault) ∨
      (firstInterface endpoint = .error fault ∧ t = zoned tags) ∨
      ∃ name interface, firstInterface endpoint = .ok name ∧
        firstAddress interface = .error fault ∧ t = looked tags name interface) := by
  intro chain t result
  have hchain : Chain scope endpoint vnet group account tags t result := chain_run r s
  refine ⟨fun hresult => ?_, fun reply hlinked hreply => ?_, fun x hx fault hfault hother => ?_,
    fun fault hresult => ?_⟩
  · rw [hresult] at hchain
    obtain ⟨reply, hlinked, hreply⟩ := hchain.linked
    refine ⟨reply, hlinked, (tolerateConflict_eq_ok.1 hreply).imp id ?_⟩
    rintro ⟨fault, rfl, hconflict⟩
    obtain ⟨status, code, message, rfl, hsaid⟩ := isConflict_iff.1 hconflict
    exact ⟨status, code, message, rfl, hsaid⟩
  · rw [hchain.of_linked hlinked, tolerateConflict_eq_ok]
    refine hreply.imp id ?_
    rintro ⟨status, code, message, rfl, hsaid⟩
    exact ⟨_, rfl, isConflict_iff.2 ⟨status, code, message, rfl, hsaid.imp id And.left⟩⟩
  · refine hchain.fails hx hfault fun hlink => Bool.eq_false_iff.2 fun hconflict => ?_
    obtain ⟨status, code, message, hcode, hsaid⟩ := isConflict_iff.1 hconflict
    obtain ⟨hnotCode, hnotStatus⟩ := hother hlink status code message hcode
    exact hsaid.elim hnotCode hnotStatus
  · rw [hresult] at hchain
    exact hchain.stops

/-- **The status of a conflict is enough.** The link is refused with status 409, without a code and
because of another operation, and the chain ends well both times. -/
theorem conflict_status_is_tolerated :
    let endpoint : Endpoint := ⟨"", "acct1-pe", ["/networkInterfaces/acct1-pe-nic"]⟩
    let inventory : Inventory := { interfaces := .ofList [("acct1-pe-nic", ["10.0.1.4"])] }
    let home := clusterSettings.cluster.scope
    let r := (Inventory.reply home).disturbed
    let chain := (Isolation.configureDns home endpoint "vnet" "network-rg" "acct1" {}).run
    ∀ fault ∈ [Fault.response 409 "" "conflict",
        Fault.response 409 "AnotherOperationInProgress" "another operation is in progress"],
      let start : Disturbance × Inventory := ([none, none, none, none, some fault], inventory)
      (chain.run r start).1.toOption = some () ∧
        (chain.transcript r start).map (fun x => (x.call.name, faultOf x.reply)) =
          [("create_or_update_zone", none), ("get_network_interface", none),
            ("create_or_update_a_record", none), ("create_private_dns_zone_group", none),
            ("create_or_update_vnet_link", some fault)] := by
  decide +kernel

end RegistryStorage
