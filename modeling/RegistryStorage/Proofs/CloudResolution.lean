import Mathlib.Data.List.DropRight
import RegistryStorage.Proofs.CallOrder
import RegistryStorage.Proofs.CloudNames

/-!
Resolving clouds, and the scopes of their tokens.

Two names of a cloud with the same capitals, in whatever letters, name the same cloud, and the
canonical name of a cloud names it again (`CloudEnvironment.ofName_eq_ok_iff`). The kind of account
that is asked for follows the cloud that was found (`Storage.create_asks_for`).

The scope of a token is the audience brought into a normal form: without slashes at its end, and
with one ending. Appending slashes changes nothing, nor does taking a scope for an audience
(`tokenScope_of_ending`).
-/

set_option autoImplicit false

namespace RegistryStorage

/-! ## The kind of account that is asked for -/

/-- If a call asks for an account, then for one of this kind. -/
def Call.AsksFor (kind : AccountKind) : Call → Prop
  | createAccount request => request.kind = kind
  | _ => True

/-- The calls of a transcript ask for accounts of this kind alone. -/
abbrev Transcript.AsksFor (kind : AccountKind) (h : Transcript) : Prop :=
  h.All fun e => e.call.AsksFor kind

theorem Transcript.asksFor_nil (kind : AccountKind) : Transcript.AsksFor kind [] := fun _ he =>
  absurd he List.not_mem_nil

/-- A call that asks for no other kind keeps it so. -/
theorem Call.AsksFor.keeps {kind : AccountKind} {c : Call} (hc : c.AsksFor kind) :
    Action.Keeps unruly (Transcript.AsksFor kind) (Action.perform c) :=
  Transcript.All.keeps fun _ => hc

namespace CloudEnvironment

/-- The kind of account that a cloud offers. -/
def accountKind (e : CloudEnvironment) : AccountKind := if e.isStack then .legacy else .current

theorem accountKind_eq_legacy (e : CloudEnvironment) :
    e.accountKind = .legacy ↔ e.isStack = true := by
  unfold accountKind
  split
  · exact iff_of_true rfl ‹_›
  · exact iff_of_false nofun ‹_›

end CloudEnvironment

namespace Storage

variable {w : Work} {settings : Settings} {infra : Infrastructure} {fresh : Fresh} {now : Moment}
variable {scope : Scope} {environment : CloudEnvironment}

theorem account_asks :
    Action.Keeps unruly (Transcript.AsksFor environment.accountKind)
      (Assure.account scope environment w.config infra fresh) := by
  have hlook : ∀ name, (Call.checkName name).AsksFor environment.accountKind := fun _ => trivial
  have hcreate : ∀ name, (Call.createAccount (AccountRequest.forRegistry name scope.region infra.tags
      environment.isStack)).AsksFor environment.accountKind := fun _ => rfl
  exact Assure.account_keeps_of (fun name => (hlook name).keeps) fun name => (hcreate name).keeps

/-- All that is done after the account is there asks for none. -/
theorem furnish_asks {h : Transcript} (hh : h.AsksFor environment.accountKind) :
    (furnish scope environment infra fresh now).Ensures unruly w h
      (fun _ _ t => t.AsksFor environment.accountKind)
      fun _ _ t => t.AsksFor environment.accountKind := by
  have hother : ∀ c : Call, (∀ request, c ≠ .createAccount request) →
      Action.Keeps unruly (Transcript.AsksFor environment.accountKind) (Action.perform c) := by
    intro c hc
    refine Call.AsksFor.keeps ?_
    cases c <;> first | trivial | exact absurd rfl (hc _)
  refine furnish_keeps_of account_asks (fun account => ?_) (fun c => ?_) (fun c => ?_) hh
  · exact openPrivately_keeps_of fun d hd => hother d (by rintro _ rfl; exact hd)
  · exact Assure.container_keeps_of (hother _ nofun) (fun _ _ => hother _ nofun) fun _ _ =>
      hother _ nofun
  · exact closePublicly_keeps_of (hother _ nofun) (hother _ nofun)

/-- The accounts that the calls of a transcript ask for are of the kind that the cloud of the
configuration offers. -/
def AsksAsOffered (settings : Settings) (c : StorageConfig) (h : Transcript) : Prop :=
  ∀ e ∈ h, ∀ request, e.call = .createAccount request →
    ∃ environment, CloudEnvironment.ofName c.cloud settings.customCloud = .ok environment ∧
      request.kind = environment.accountKind

theorem create_asks :
    (create settings infra fresh now).Ensures unruly w []
      (fun _ _ t => AsksAsOffered settings (takeCloud infra w.config) t)
      fun _ _ t => AsksAsOffered settings (takeCloud infra w.config) t := by
  refine create_of_resolved (fun e he => absurd he List.not_mem_nil) ?_
  intro environment credentials hfound
  have hoffered : ∀ {h : Transcript}, h.AsksFor environment.accountKind →
      AsksAsOffered settings (takeCloud infra w.config) h := by
    intro h hh e he request hrequest
    have hasks : e.call.AsksFor environment.accountKind := hh e he
    rw [hrequest] at hasks
    exact ⟨environment, hfound, hasks⟩
  have hclients : (Call.clients environment credentials).AsksFor environment.accountKind := trivial
  refine (hclients.keeps [] (Transcript.asksFor_nil _)).mono (fun _ t ht => ?_)
    fun _ _ ht => hoffered ht
  exact (furnish_asks ht).mono (fun _ _ _ hu => hoffered hu) fun _ _ _ hu => hoffered hu

/-- **The kind of account that is asked for is the one that the cloud offers**, whoever replies. -/
theorem create_asks_for {σ : Type} (r : Replier σ) (s : σ) {request : AccountRequest}
    (h : .createAccount request ∈ ((create settings infra fresh now).start w).calls r s) :
    ∃ environment, CloudEnvironment.ofName (takeCloud infra w.config).cloud settings.customCloud =
        .ok environment ∧ request.kind = environment.accountKind := by
  obtain ⟨e, he, hcall⟩ := List.mem_map.1 h
  exact Invocation.Ensures.of_transcript (r := r) create_asks s e he request hcall

end Storage

/-! ## Scopes of tokens -/

namespace Text

theorem toList_dropEndSlashes (s : String) :
    (dropEndSlashes s).toList = s.toList.rdropWhile (· == '/') := String.toList_ofList

/-- Slashes at the end are dropped, however many. -/
theorem dropEndSlashes_append (s : String) (k : ℕ) :
    dropEndSlashes (s ++ String.ofList (List.replicate k '/')) = dropEndSlashes s := by
  rw [← String.toList_inj, toList_dropEndSlashes, toList_dropEndSlashes, String.toList_append,
    String.toList_ofList]
  induction k with
  | zero => rw [List.replicate_zero, List.append_nil]
  | succ k ih =>
    rw [List.replicate_succ', ← List.append_assoc, List.rdropWhile_concat_pos _ _ _ (by decide), ih]

/-- A text whose last letter is no slash stays as it is. -/
theorem dropEndSlashes_of_suffix {s : String} (l : List Char) (c : Char)
    (h : l ++ [c] <:+ s.toList) (hc : c ≠ '/') : dropEndSlashes s = s := by
  obtain ⟨front, hs⟩ := h
  rw [← String.toList_inj, toList_dropEndSlashes, ← hs, ← List.append_assoc]
  exact List.rdropWhile_concat_neg _ _ _ (by simpa using hc)

end Text

namespace CloudEnvironment

/-- The ending of every scope. -/
def scopeEnding : List Char := "/.default".toList

variable (e : CloudEnvironment)

/-- Every scope has the ending. -/
theorem tokenScope_ending : scopeEnding <:+ e.tokenScope.toList := by
  unfold tokenScope
  dsimp only
  split
  · rename_i h
    exact List.isSuffixOf_iff_suffix.1 h
  · rw [String.toList_append]
    exact List.suffix_append _ _

/-- An audience with the ending is the scope. -/
theorem tokenScope_of_ending {scope : String} (h : scopeEnding <:+ scope.toList) :
    tokenScope { e with tokenAudience := scope } = scope := by
  have hkept : Text.dropEndSlashes scope = scope :=
    Text.dropEndSlashes_of_suffix "/.defaul".toList 't' h (by decide)
  unfold tokenScope
  rw [hkept]
  exact if_pos (List.isSuffixOf_iff_suffix.2 h)

theorem tokenScope_append_slashes (k : ℕ) :
    let slashes := String.ofList (List.replicate k '/')
    tokenScope { e with tokenAudience := e.tokenAudience ++ slashes } = e.tokenScope := by
  intro slashes
  unfold tokenScope
  rw [Text.dropEndSlashes_append]

end CloudEnvironment

/-! ## The theorem -/

open CloudEnvironment Storage

/-- **Resolving a cloud and taking a scope lead to normal forms.** The canonical name of a cloud
that was found finds it again, the capitals of a name decide which cloud it is, and they decide
whether it is the one on hardware of its own; so every account that a run of creating asks for,
whoever replies, is of the legacy kind exactly if the cloud is that one, however it is spelled. A
scope is the same for an audience with more slashes at its end, has the ending, and is the scope of
itself. -/
theorem clouds_and_scopes_are_canonical :
    (∀ name custom e, ofName name custom = .ok e → ofName e.name custom = .ok e) ∧
    (∀ a b custom e, Text.upper a = Text.upper b →
      (ofName a custom = .ok e ↔ ofName b custom = .ok e)) ∧
    (∀ name custom e, ofName name custom = .ok e →
      (e.isStack = true ↔ Text.upper name = "AZURESTACKCLOUD")) ∧
    (∀ {σ : Type} (r : Replier σ) (s : σ) settings infra fresh now w request,
      .createAccount request ∈ ((create settings infra fresh now).start w).calls r s →
        ∃ e, ofName (takeCloud infra w.config).cloud settings.customCloud = .ok e ∧
          (request.kind = .legacy ↔ e.isStack = true) ∧
          (request.kind = .legacy ↔
            Text.upper (takeCloud infra w.config).cloud = "AZURESTACKCLOUD")) ∧
    (∀ (e : CloudEnvironment) (k : ℕ),
      let slashes := String.ofList (List.replicate k '/')
      tokenScope { e with tokenAudience := e.tokenAudience ++ slashes } = e.tokenScope) ∧
    (∀ e : CloudEnvironment, "/.default".toList <:+ e.tokenScope.toList) ∧
    ∀ e : CloudEnvironment, tokenScope { e with tokenAudience := e.tokenScope } = e.tokenScope := by
  have hstack : ∀ name custom e, ofName name custom = .ok e →
      (e.isStack = true ↔ Text.upper name = "AZURESTACKCLOUD") :=
    fun name custom e h => (ofName_eq_ok_iff.1 h).isStack_iff
  refine ⟨?_, ?_, hstack, ?_, tokenScope_append_slashes, tokenScope_ending, ?_⟩
  · intro name custom e h
    exact ofName_eq_ok_iff.2 (ofName_eq_ok_iff.1 h).again
  · intro a b custom e hcapitals
    rw [ofName_eq_ok_iff, ofName_eq_ok_iff, hcapitals]
  · intro σ r s settings infra fresh now w request hasked
    obtain ⟨e, hfound, hkind⟩ := create_asks_for r s hasked
    have hlegacy : request.kind = .legacy ↔ e.isStack = true := by
      rw [hkind]
      exact e.accountKind_eq_legacy
    exact ⟨e, hfound, hlegacy, hlegacy.trans (hstack _ settings.customCloud e hfound)⟩
  · intro e
    exact tokenScope_of_ending e e.tokenScope_ending

/-- A name with a letter whose capital is an ASCII one leads to the legacy kind of account. -/
theorem long_s_names_the_stack :
    let endpoints : CloudEndpoints := { tokenAudience := "https://management.local/" }
    let e : CloudEnvironment := { endpoints with name := "AzureStackCloud" }
    let home := clusterSettings.cluster.scope
    let infra : Infrastructure := ⟨"mycluster", none⟩
    let w : Work := ⟨{ cloud := "azureſtackcloud", account := "myaccount" }, {}⟩
    let settings : Settings := { clusterSettings with customCloud := some endpoints }
    let request := AccountRequest.forRegistry "myaccount" home.region infra.tags true
    ofName w.config.cloud settings.customCloud = .ok e ∧
      ofName e.name settings.customCloud = .ok e ∧ e.isStack = true ∧
      .createAccount request ∈ ((create settings infra default default).start w).calls
        (Inventory.reply home) {} ∧
      request.kind = .legacy ∧
      e.tokenScope = "https://management.local/.default" ∧
      tokenScope { e with tokenAudience := e.tokenScope } = e.tokenScope := by
  intro endpoints e home infra w settings request
  obtain ⟨hagain, hcapitals, hstack, hasked, -, -, hscope⟩ := clouds_and_scopes_are_canonical
  have hupper : Text.upper w.config.cloud = "AZURESTACKCLOUD" := by decide +kernel
  have hsame : Text.upper w.config.cloud = Text.upper e.name := by
    rw [hupper]
    decide +kernel
  have hfound : ofName e.name settings.customCloud = .ok e := by decide +kernel
  have hcall : .createAccount request ∈ ((create settings infra default default).start w).calls
      (Inventory.reply home) {} := by
    decide +kernel
  have hspelled : ofName w.config.cloud settings.customCloud = .ok e :=
    (hcapitals _ _ _ e hsame).2 hfound
  have hscoped : e.tokenScope = "https://management.local/.default" := by decide +kernel
  refine ⟨hspelled, hagain _ _ e hspelled, (hstack _ _ e hspelled).2 hupper, hcall, ?_, hscoped, ?_⟩
  · obtain ⟨_, -, -, hkind⟩ :=
      hasked (Inventory.reply home) {} settings infra default default w request hcall
    exact hkind.2 hupper
  · exact hscope e

end RegistryStorage
