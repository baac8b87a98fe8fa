import Mathlib.Data.List.DropRight
import Mathlib.Data.Nat.Digits.Defs
import RegistryStorage.Proofs.History
import RegistryStorage.Provider.Remote
import RegistryStorage.Settings.File

/-!
Where every setting comes from, and what the settings then decide.

A `Setting` is a field of the settings file together with the variable of the environment that
counts more, if there is one. How each of the two is read is part of it, so that one rule says which
value a setting takes (`Setting.Takes`): the variable's, else the file's, else the default. A file
is read once, with all its fields (`Setting.each_decoded`), and the environment is laid over it once
(`Setting.each_overlaid`).

What is decided afterwards are the credentials and the source of the tokens. Both look at whether a
text is blank, which is whether nothing is left of it when it is trimmed (`Text.trim_eq_empty`).
-/

set_option autoImplicit false

namespace RegistryStorage

open Json (Tree)

/-! ## Blank texts -/

namespace Text

/-- Nothing is left of a blank text when it is trimmed. -/
theorem trim_eq_empty (s : String) : trim s = "" ↔ isAllBlank s = true := by
  have htrim : (trim s).toList = (s.toList.dropWhile isBlank).rdropWhile isBlank :=
    String.toList_ofList
  rw [← String.toList_inj, htrim, String.toList_empty, List.rdropWhile_eq_nil_iff,
    ← List.dropWhile_eq_nil_iff, List.dropWhile_idempotent, List.dropWhile_eq_nil_iff, isAllBlank,
    List.all_eq_true]

end Text

/-- A secret is there if something is left of it when it is trimmed. -/
theorem hasSecret_iff {secret : Option String} :
    hasSecret secret = true ↔ ∃ text, secret = some text ∧ Text.trim text ≠ "" := by
  cases secret with
  | none => simp [hasSecret]
  | some text => simp [hasSecret, Text.trim_eq_empty]

/-! ## The fields of a record -/

namespace Json.Tree

/-- What a record gives to one of its fields: the value of the member of that name, or the element
in its place. -/
def field? (names : List String) (name : String) : Tree → Option Tree
  | .object members => (valuesOf name members).head?
  | .list items => items[names.idxOf name]?
  | _ => none

/-- **The fields of a record are what it gives to each of them.** -/
theorem fields_eq_map {names : List String} (hnames : names.Nodup) {t : Tree}
    {values : List (Option Tree)} (h : t.fields names = some values) :
    values = names.map fun name => t.field? names name := by
  cases t with
  | object members =>
    simp only [fields] at h
    split at h
    · clear hnames
      simp only [field?]
      induction names generalizing values with
      | nil => simpa using h.symm
      | cons name names ih =>
        rw [List.mapM_cons] at h
        obtain ⟨value, hvalue, h⟩ := Option.bind_eq_some_iff.1 h
        obtain ⟨rest, hrest, h⟩ := Option.bind_eq_some_iff.1 h
        cases h
        rw [List.map_cons, ih hrest]
        congr 1
        split at hvalue <;> simp_all
    · cases h
  | list items =>
    simp only [fields] at h
    split at h
    · rename_i hlength
      cases h
      refine List.ext_getElem (by simp; omega) fun i hi hi' => ?_
      simp only [List.length_map] at hi'
      rw [List.getElem_map, field?, hnames.idxOf_getElem i hi']
      by_cases hitem : i < items.length
      · rw [List.getElem_append_left (by simpa using hitem), List.getElem_map,
          List.getElem?_eq_getElem hitem]
      · rw [List.getElem_append_right (by simpa using hitem), List.getElem_replicate,
          List.getElem?_eq_none (by omega)]
    · cases h
  | null | bool b | number n | text s => cases h

end Json.Tree

namespace Settings

/-! ## Numbers in variables -/

/-- What digits stand for. -/
def decimal (cs : List Char) : ℕ := Nat.ofDigits 10 (cs.reverse.map fun c => c.toNat - 48)

/-- The letters are the digits of a number of 64 bits, and there is one at least. -/
structure IsDecimal (cs : List Char) (n : ℕ) : Prop where
  some : cs ≠ []
  digits : ∀ c ∈ cs, c.isDigit = true
  value : decimal cs = n
  fits : n < 2 ^ 64

/-- The text is a number of 64 bits: digits, with a plus sign in front if need be. -/
def IsCount (value : String) (n : ℕ) : Prop :=
  ∃ cs, (value.toList = cs ∨ value.toList = '+' :: cs) ∧ IsDecimal cs n

/-- **A variable gives a number if it is one of 64 bits.** -/
theorem seconds?_eq_some_iff {value : String} {n : ℕ} :
    seconds? value = some n ↔ IsCount value n := by
  have hdecimal : ∀ cs : List Char,
      cs.foldl (fun n c => 10 * n + (c.toNat - 48)) 0 = decimal cs := by
    intro cs
    rw [decimal, Nat.ofDigits_eq_foldr, List.foldr_map, List.foldr_reverse]
    simp only [Nat.cast_id, Nat.add_comm]
  have hcount : ∀ cs : List Char,
      (if !cs.isEmpty && cs.all Char.isDigit && decimal cs < Nat.pow 2 64 then some (decimal cs)
        else none) = some n ↔ IsDecimal cs n := by
    intro cs
    rw [Option.ite_none_right_eq_some, Bool.and_eq_true, Bool.and_eq_true, decide_eq_true_eq,
      Bool.not_eq_true', List.isEmpty_eq_false_iff, List.all_eq_true, Option.some_inj]
    constructor
    · rintro ⟨⟨⟨hsome, hdigits⟩, hfits⟩, rfl⟩
      exact ⟨hsome, hdigits, rfl, hfits⟩
    · rintro ⟨hsome, hdigits, rfl, hfits⟩
      exact ⟨⟨⟨hsome, hdigits⟩, hfits⟩, rfl⟩
  simp only [seconds?, hdecimal]
  split
  · rename_i r hvalue
    rw [hcount]
    constructor
    · exact fun h => ⟨r, Or.inr hvalue, h⟩
    · rintro ⟨cs, hcs | hcs, h⟩
      · -- a sign is no digit
        have hsign := h.digits '+' (hcs ▸ hvalue ▸ List.mem_cons_self)
        exact absurd hsign (by decide)
      · obtain rfl := (List.cons.inj (hvalue.symm.trans hcs)).2
        exact h
  · rename_i hvalue
    rw [hcount]
    constructor
    · exact fun h => ⟨_, Or.inl rfl, h⟩
    · rintro ⟨cs, rfl | hcs, h⟩
      · exact h
      · exact absurd hcs (hvalue cs)

/-! ## Settings and where they come from -/

end Settings

/-- A field of the settings: its name in the file, the variable that counts more if there is one,
how either is read, and what the field holds by default. -/
structure Setting (α : Type) where
  field : String
  variableName : Option String
  ofTree : Tree → Option α
  ofVariable : String → Option α
  default : α
  get : Settings → α

namespace Setting

variable {α : Type}

/-- A field with a text. -/
def text (field variableName : String) (get : Settings → String) : Setting String :=
  ⟨field, some variableName, Tree.text?, some, "", get⟩

/-- A field with a text that may be missing. -/
def optionalText (field variableName : String) (get : Settings → Option String) :
    Setting (Option String) :=
  ⟨field, some variableName, Tree.option? Tree.text?, fun value => some (some value), none, get⟩

/-- A field with a number of seconds. -/
def seconds (field variableName : String) (default : ℕ) (get : Settings → ℕ) : Setting ℕ :=
  ⟨field, some variableName, Tree.count?, Settings.seconds?, default, get⟩

/-- The fields with a text. -/
def texts : List (Setting String) :=
  [text "subscription_id" "AZURE_SUBSCRIPTION_ID" Settings.subscription,
    text "tenant_id" "AZURE_TENANT_ID" Settings.tenant,
    text "client_id" "AZURE_CLIENT_ID" Settings.client,
    text "resource_group" "AZURE_RESOURCE_GROUP" Settings.resourceGroup,
    text "region" "AZURE_REGION" Settings.region]

/-- The fields with a text that may be missing. -/
def optionalTexts : List (Setting (Option String)) :=
  [optionalText "client_secret" "AZURE_CLIENT_SECRET" Settings.clientSecret,
    optionalText "federated_token_file" "AZURE_FEDERATED_TOKEN_FILE" Settings.tokenFile,
    optionalText "account_key" RegistryVariable.accountKeyName Settings.accountKey]

/-- The fields with a number of seconds. -/
def counts : List (Setting ℕ) :=
  [seconds "poll_interval_secs" "AZSTORE_POLL_INTERVAL_SECS" 10 Settings.pollInterval,
    seconds "poll_timeout_secs" "AZSTORE_POLL_TIMEOUT_SECS" 180 Settings.pollTimeout]

/-- Whether to say more. The variable is set to something true, or to something else. -/
def debug : Setting Bool where
  field := "debug"
  variableName := some "DEBUG"
  ofTree := Tree.bool?
  ofVariable value := some (Text.lower value == "true" || value == "1")
  default := false
  get := Settings.debug

/-- The endpoints of a cloud of the user's, which only the file gives. -/
def customCloud : Setting (Option CloudEndpoints) where
  field := "custom_cloud"
  variableName := none
  ofTree := Tree.option? CloudEndpoints.decode?
  ofVariable _ := none
  default := none
  get := Settings.customCloud

/-- Something is true of every setting. -/
structure Each (P : ∀ {α : Type}, Setting α → Prop) : Prop where
  texts : ∀ x ∈ texts, P x
  optionalTexts : ∀ x ∈ optionalTexts, P x
  counts : ∀ x ∈ counts, P x
  debug : P debug
  customCloud : P customCloud

section Each

variable {P Q : ∀ {α : Type}, Setting α → Prop}

theorem Each.mono (h : Each P) (hPQ : ∀ {α : Type} (x : Setting α), P x → Q x) : Each Q where
  texts x hx := hPQ x (h.texts x hx)
  optionalTexts x hx := hPQ x (h.optionalTexts x hx)
  counts x hx := hPQ x (h.counts x hx)
  debug := hPQ _ h.debug
  customCloud := hPQ _ h.customCloud

theorem Each.and (h : Each P) (h' : Each Q) : Each fun x => P x ∧ Q x where
  texts x hx := ⟨h.texts x hx, h'.texts x hx⟩
  optionalTexts x hx := ⟨h.optionalTexts x hx, h'.optionalTexts x hx⟩
  counts x hx := ⟨h.counts x hx, h'.counts x hx⟩
  debug := ⟨h.debug, h'.debug⟩
  customCloud := ⟨h.customCloud, h'.customCloud⟩

end Each

/-- What the environment gives to a setting. -/
def given? (x : Setting α) (env : Variables) : Option α :=
  (x.variableName.bind env.get?).bind x.ofVariable

theorem given?_text (field name : String) (get : Settings → String) (env : Variables) :
    (text field name get).given? env = env.get? name := Option.bind_fun_some _

theorem getD_given?_optionalText (field name : String) (get : Settings → Option String)
    (env : Variables) (old : Option String) :
    ((optionalText field name get).given? env).getD old = (env.get? name).or old := by
  show ((env.get? name).bind fun value => some (some value)).getD old = _
  cases env.get? name <;> rfl

/-- **The value that a setting takes**: that of its variable if it is set to one, or else what the
file has, or else the default. -/
inductive Takes (x : Setting α) (env : Variables) (written : String → Option Tree) : α → Prop
  | ofVariable {name value : String} {a : α} (hname : x.variableName = some name)
    (hset : env.get? name = some value) (ha : x.ofVariable value = some a) : Takes x env written a
  | ofFile {t : Tree} {a : α} (hunset : x.given? env = none) (hfield : written x.field = some t)
    (ha : x.ofTree t = some a) : Takes x env written a
  | byDefault (hunset : x.given? env = none) (hfield : written x.field = none) :
    Takes x env written x.default

/-- What is given counts more than what was there before. -/
theorem takes_of {x : Setting α} {env : Variables} {written : String → Option Tree} {old : α}
    (hold : Tree.orDefault x.ofTree x.default (written x.field) = some old) :
    x.Takes env written ((x.given? env).getD old) := by
  cases hgiven : x.given? env with
  | some a =>
    obtain ⟨value, hvalue, ha⟩ := Option.bind_eq_some_iff.1 hgiven
    obtain ⟨name, hname, hset⟩ := Option.bind_eq_some_iff.1 hvalue
    exact .ofVariable hname hset ha
  | none =>
    cases hfield : written x.field with
    | some t =>
      rw [hfield] at hold
      exact .ofFile hgiven hfield hold
    | none =>
      rw [hfield] at hold
      cases hold
      exact .byDefault hgiven hfield

end Setting

namespace Settings

open Setting (Each)

variable {s : Settings}

/-- What the form of a settings file has for a field. -/
def fieldOf (t : Tree) (name : String) : Option Tree := t.field? fieldNames name

/-- **What is read of a form is what it has for each field**, or the default. -/
theorem each_decoded {t : Tree} (h : decode? t = some s) :
    Each fun x => Tree.orDefault x.ofTree x.default (fieldOf t x.field) = some (x.get s) := by
  unfold decode? at h
  obtain ⟨values, hvalues, h⟩ := Option.bind_eq_some_iff.1 h
  have hfields : values = fieldNames.map (fieldOf t) := Tree.fields_eq_map (by decide) hvalues
  rw [hfields] at h
  obtain ⟨debug, hdebug, h⟩ := Option.bind_eq_some_iff.1 h
  obtain ⟨subscription, hsubscription, h⟩ := Option.bind_eq_some_iff.1 h
  obtain ⟨tenant, htenant, h⟩ := Option.bind_eq_some_iff.1 h
  obtain ⟨client, hclient, h⟩ := Option.bind_eq_some_iff.1 h
  obtain ⟨secret, hsecret, h⟩ := Option.bind_eq_some_iff.1 h
  obtain ⟨tokenFile, htokenFile, h⟩ := Option.bind_eq_some_iff.1 h
  obtain ⟨group, hgroup, h⟩ := Option.bind_eq_some_iff.1 h
  obtain ⟨region, hregion, h⟩ := Option.bind_eq_some_iff.1 h
  obtain ⟨key, hkey, h⟩ := Option.bind_eq_some_iff.1 h
  obtain ⟨interval, hinterval, h⟩ := Option.bind_eq_some_iff.1 h
  obtain ⟨timeout, htimeout, h⟩ := Option.bind_eq_some_iff.1 h
  obtain ⟨custom, hcustom, h⟩ := Option.bind_eq_some_iff.1 h
  cases h
  exact {
    texts := by
      simp only [Setting.texts, List.forall_mem_cons]
      exact ⟨hsubscription, htenant, hclient, hgroup, hregion, nofun⟩
    optionalTexts := by
      simp only [Setting.optionalTexts, List.forall_mem_cons]
      exact ⟨hsecret, htokenFile, hkey, nofun⟩
    counts := by
      simp only [Setting.counts, List.forall_mem_cons]
      exact ⟨hinterval, htimeout, nofun⟩
    debug := hdebug
    customCloud := hcustom }

/-- **What the environment gives lies over what was there before.** -/
theorem each_overlaid (s : Settings) (env : Variables) :
    Each fun x => x.get (s.overlaid env) = (x.given? env).getD (x.get s) where
  texts := by
    simp only [Setting.texts, List.forall_mem_cons, Setting.given?_text]
    exact ⟨rfl, rfl, rfl, rfl, rfl, nofun⟩
  optionalTexts := by
    simp only [Setting.optionalTexts, List.forall_mem_cons, Setting.getD_given?_optionalText]
    exact ⟨rfl, rfl, rfl, nofun⟩
  counts := by
    simp only [Setting.counts, List.forall_mem_cons]
    exact ⟨rfl, rfl, nofun⟩
  debug := by
    cases hset : env.get? "DEBUG" with
    | some value => simp [overlaid, Setting.debug, Setting.given?, hset]
    | none => simp [overlaid, Setting.debug, Setting.given?, hset]
  customCloud := rfl

/-- The form of a settings file: that of TOML if settings can be read of it, or else that of
JSON. -/
def form? (text : String) : Option Tree :=
  match Toml.read? text with
  | some t => if (decode? t).isSome then some t else Tree.read? text
  | none => Tree.read? text

theorem ofText?_eq (text : String) : ofText? text = (form? text).bind decode? := by
  unfold ofText? form?
  cases Toml.read? text with
  | none => rfl
  | some t =>
    dsimp only
    rw [Option.bind_some]
    cases hread : decode? t with
    | none => rfl
    | some s => exact hread.symm

/-- What a file has for a field. -/
def written : Content → String → Option Tree
  | .text text, name => (form? text).bind fun t => fieldOf t name
  | _, _ => none

/-- **What is read of a file is what it has for each field**, or the default. -/
theorem each_read {file : Content} (h : ofContent file = .ok s) :
    Each fun x => Tree.orDefault x.ofTree x.default (written file x.field) = some (x.get s) := by
  cases file with
  | missing =>
    cases h
    exact {
      texts := by
        simp only [Setting.texts, List.forall_mem_cons]
        exact ⟨rfl, rfl, rfl, rfl, rfl, nofun⟩
      optionalTexts := by
        simp only [Setting.optionalTexts, List.forall_mem_cons]
        exact ⟨rfl, rfl, rfl, nofun⟩
      counts := by
        simp only [Setting.counts, List.forall_mem_cons]
        exact ⟨rfl, rfl, nofun⟩
      debug := rfl
      customCloud := rfl }
  | unreadable reason => cases h
  | text text =>
    unfold ofContent at h
    dsimp only at h
    rw [ofText?_eq] at h
    cases hform : form? text with
    | none => rw [hform] at h; cases h
    | some t =>
      rw [hform, Option.bind_some] at h
      cases hread : decode? t with
      | none => rw [hread] at h; cases h
      | some found =>
        rw [hread] at h
        cases h
        have hwritten : ∀ name, written (.text text) name = fieldOf t name := fun name => by
          rw [written, hform, Option.bind_some]
        simp only [hwritten]
        exact each_decoded hread

/-- **Every setting takes its value from its variable, or else from the file, or else it has its
default.** -/
theorem each_taken {file : Content} {old : Settings} (h : ofContent file = .ok old)
    (env : Variables) : Each fun x => x.Takes env (written file) (x.get (old.overlaid env)) := by
  have hlaid := each_overlaid old env
  have hread := each_read h
  exact (hread.and hlaid).mono fun x hx => hx.2 ▸ Setting.takes_of hx.1

end Settings

/-! ## Credentials -/

/-- What the cluster's credentials may lack. -/
inductive ClusterOption
  | subscription
  | tenant
  | client
  | clientSecret
  | tokenFile
  | resourceGroup
  | region
deriving DecidableEq

namespace ClusterOption

/-- The name of an option. -/
def name : ClusterOption → String
  | subscription => "subscription_id"
  | tenant => "tenant_id"
  | client => "client_id"
  | clientSecret => "client_secret"
  | tokenFile => "federated_token_file"
  | resourceGroup => "resource_group"
  | region => "region"

/-- The order in which options are named. -/
def inOrder : List ClusterOption :=
  [subscription, tenant, client, clientSecret, tokenFile, resourceGroup, region]

theorem mem_inOrder (o : ClusterOption) : o ∈ inOrder := by cases o <;> decide

end ClusterOption

namespace Settings

variable {s : Settings} {key : String}

/-- The settings lack an option. A token file stands for a secret, so both are lacking or none. -/
def Lacks (s : Settings) : ClusterOption → Prop
  | .subscription => s.subscription = ""
  | .tenant => s.tenant = ""
  | .client => s.client = ""
  | .clientSecret | .tokenFile => hasSecret s.clientSecret = false ∧ s.tokenFile = none
  | .resourceGroup => s.resourceGroup = ""
  | .region => s.region = ""

instance (s : Settings) : DecidablePred s.Lacks
  | .subscription => inferInstanceAs (Decidable (s.subscription = ""))
  | .tenant => inferInstanceAs (Decidable (s.tenant = ""))
  | .client => inferInstanceAs (Decidable (s.client = ""))
  | .clientSecret | .tokenFile =>
    inferInstanceAs (Decidable (hasSecret s.clientSecret = false ∧ s.tokenFile = none))
  | .resourceGroup => inferInstanceAs (Decidable (s.resourceGroup = ""))
  | .region => inferInstanceAs (Decidable (s.region = ""))

/-- The options that the settings lack, in order. -/
def lacking (s : Settings) : List ClusterOption := ClusterOption.inOrder.filter (s.Lacks ·)

theorem mem_lacking {o : ClusterOption} : o ∈ s.lacking ↔ s.Lacks o := by
  simp [lacking, ClusterOption.mem_inOrder]

/-- **The options that are called missing are those that the settings lack**, in order. -/
theorem missing_eq (s : Settings) : s.missing = s.lacking.map ClusterOption.name := by
  have hcons : ∀ (o : ClusterOption) (l : List ClusterOption),
      ((o :: l).filter (s.Lacks ·)).map ClusterOption.name =
        (if s.Lacks o then [o.name] else []) ++ (l.filter (s.Lacks ·)).map ClusterOption.name := by
    intro o l
    by_cases ho : s.Lacks o <;> simp [ho]
  have hpair : (!hasSecret s.clientSecret && s.tokenFile.isNone) = true ↔
      s.Lacks .clientSecret := by
    rw [Bool.and_eq_true, Bool.not_eq_true', Option.isNone_iff_eq_none]
    exact Iff.rfl
  simp only [lacking, ClusterOption.inOrder, hcons, missing, List.filter_nil, List.map_nil,
    List.append_nil, List.append_assoc]
  -- a token file stands for a secret, so these two are looked at together
  by_cases hneither : s.Lacks .clientSecret
  · have hfile : s.Lacks .tokenFile := hneither
    rw [if_pos (hpair.2 hneither), if_pos hneither, if_pos hfile]
    rfl
  · have hfile : ¬s.Lacks .tokenFile := hneither
    rw [if_neg (hpair.not.2 hneither), if_neg hneither, if_neg hfile]
    rfl

/-- The fault that names options as missing. -/
def refusal (options : List ClusterOption) : Fault :=
  .config ("client misconfigured, missing " ++
    ", ".intercalate (options.map fun o => "'" ++ o.name ++ "'") ++ " option(s)")

theorem validate_ok_iff : s.validate = .ok () ↔ ∀ o, ¬s.Lacks o := by
  have hnone : s.missing = [] ↔ ∀ o, ¬s.Lacks o := by
    rw [missing_eq, List.map_eq_nil_iff, List.eq_nil_iff_forall_not_mem]
    simp only [mem_lacking]
  rw [← hnone]
  unfold validate
  split
  · exact iff_of_true rfl ‹_›
  · exact iff_of_false nofun ‹_›

/-- **Settings that lack something are refused with all that they lack**, in order. -/
theorem validate_of_lacks {o : ClusterOption} (ho : s.Lacks o) :
    s.validate = .error (refusal s.lacking) := by
  have hsome : s.missing ≠ [] := by
    rw [missing_eq]
    exact List.ne_nil_of_mem (List.mem_map_of_mem (mem_lacking.2 ho))
  unfold validate
  split
  · contradiction
  · rw [missing_eq, List.map_map]
    rfl

/-- Settings are accepted, or refused with all that they lack. -/
theorem validate_cases (s : Settings) :
    s.validate = .ok () ∨ s.validate = .error (refusal s.lacking) := by
  by_cases h : ∀ o, ¬s.Lacks o
  · exact Or.inl (validate_ok_iff.2 h)
  · obtain ⟨o, ho⟩ := not_forall_not.1 h
    exact Or.inr (validate_of_lacks ho)

/-- Without a key the cluster's credentials are validated and used. -/
theorem credentials_of_unkeyed (hkey : s.accountKey = none) :
    s.credentials = s.validate.map fun _ => .cluster s.cluster := by
  unfold credentials
  rw [hkey]
  dsimp only
  cases s.validate <;> rfl

/-- A key that is not blank is used as it is. -/
theorem credentials_of_key (hkey : s.accountKey = some key) (hsome : Text.trim key ≠ "") :
    s.credentials = .ok (.userManaged key) := by
  rw [ne_eq, Text.trim_eq_empty] at hsome
  unfold credentials
  rw [hkey]
  exact if_neg hsome

/-- The fault that names the setting of the account key. -/
def blankKey : Fault :=
  .config ("the setting " ++ RegistryVariable.accountKeyName ++
    " has an empty value; it should be removed so that the cluster credentials are used " ++
    "or it should contain a valid storage account access key")

/-- A blank key is refused, whatever else there is. -/
theorem credentials_of_blank (hkey : s.accountKey = some key) (hblank : Text.trim key = "") :
    s.credentials = .error blankKey := by
  rw [Text.trim_eq_empty] at hblank
  unfold credentials
  rw [hkey]
  exact if_pos hblank

/-- **The user manages the storage exactly if there is a key that is not blank.** -/
theorem credentials_userManaged_iff :
    s.credentials = .ok (.userManaged key) ↔ s.accountKey = some key ∧ Text.trim key ≠ "" := by
  constructor
  · intro h
    cases hkey : s.accountKey with
    | none =>
      rw [credentials_of_unkeyed hkey] at h
      rcases s.validate_cases with hvalid | hvalid <;> rw [hvalid] at h <;> cases h
    | some found =>
      by_cases hblank : Text.trim found = ""
      · rw [credentials_of_blank hkey hblank] at h
        cases h
      · rw [credentials_of_key hkey hblank] at h
        cases h
        exact ⟨rfl, hblank⟩
  · rintro ⟨hkey, hsome⟩
    exact credentials_of_key hkey hsome

/-- **The cluster's credentials are used exactly if there is no key and nothing is lacking.** -/
theorem credentials_cluster_iff {c : ClusterCredentials} :
    s.credentials = .ok (.cluster c) ↔
      s.accountKey = none ∧ s.validate = .ok () ∧ c = s.cluster := by
  constructor
  · intro h
    cases hkey : s.accountKey with
    | none =>
      rw [credentials_of_unkeyed hkey] at h
      rcases s.validate_cases with hvalid | hvalid <;> rw [hvalid] at h <;> cases h
      exact ⟨rfl, hvalid, rfl⟩
    | some found =>
      by_cases hblank : Text.trim found = ""
      · rw [credentials_of_blank hkey hblank] at h
        cases h
      · rw [credentials_of_key hkey hblank] at h
        cases h
  · rintro ⟨hkey, hvalid, rfl⟩
    rw [credentials_of_unkeyed hkey, hvalid]
    rfl

end Settings

/-! ## Sources of tokens -/

namespace ClusterCredentials

variable {c : ClusterCredentials} {e : CloudEnvironment}

/-- With a secret that is not blank, tokens come from the authority of the cloud. -/
theorem tokenSource_of_secret {secret : String} (hsecret : c.clientSecret = some secret)
    (hsome : Text.trim secret ≠ "") :
    c.tokenSource e = match Url.parse e.activeDirectory with
      | .ok authority => .ok (.clientSecret authority c.tenant c.client secret)
      | .error fault => .error (.config ("Invalid authority URL: " ++ fault.message)) := by
  unfold tokenSource
  rw [if_pos (hasSecret_iff.2 ⟨secret, hsecret, hsome⟩), hsecret]
  rfl

/-- **Tokens come from the surroundings exactly if there is no secret, or a blank one.** -/
theorem tokenSource_surroundings_iff :
    c.tokenSource e = .ok .surroundings ↔ hasSecret c.clientSecret = false := by
  unfold tokenSource
  cases hasSecret c.clientSecret with
  | true =>
    refine iff_of_false ?_ nofun
    rw [if_pos rfl]
    split <;> nofun
  | false => exact iff_of_true rfl rfl

end ClusterCredentials

/-- Settings that are accepted without a secret have a token file. -/
theorem Settings.tokenFile_of_validate {s : Settings} (hvalid : s.validate = .ok ())
    (hsecret : hasSecret s.clientSecret = false) : s.tokenFile.isSome = true := by
  have hkept : ¬s.Lacks .tokenFile := validate_ok_iff.1 hvalid .tokenFile
  cases hfile : s.tokenFile with
  | some path => rfl
  | none => exact absurd ⟨hsecret, hfile⟩ hkept

/-! ## The theorem -/

open Setting (Each)

/-- **How settings decide on the credentials.** -/
structure Settings.Decides (s : Settings) : Prop where
  /-- The user manages the storage, with exactly the key that is set, if it is not blank. -/
  keyed key : s.credentials = .ok (.userManaged key) ↔
    s.accountKey = some key ∧ Text.trim key ≠ ""
  /-- A blank key is refused, whatever else is set. -/
  blank key : s.accountKey = some key → Text.trim key = "" → s.credentials = .error blankKey
  /-- Without a key, the cluster's credentials are used if they are accepted. -/
  unkeyed c : s.credentials = .ok (.cluster c) ↔
    s.accountKey = none ∧ s.validate = .ok () ∧ c = s.cluster
  /-- They are accepted if nothing is lacking. -/
  accepted : s.validate = .ok () ↔ ∀ o, ¬s.Lacks o
  /-- Otherwise every option that is lacking is named and no other, in the fixed order. -/
  refused : s.accountKey = none → s.validate ≠ .ok () →
    s.credentials = .error (refusal (ClusterOption.inOrder.filter (s.Lacks ·)))

theorem Settings.decides (s : Settings) : s.Decides where
  keyed _ := credentials_userManaged_iff
  blank _ := credentials_of_blank
  unkeyed _ := credentials_cluster_iff
  accepted := validate_ok_iff
  refused hkey hinvalid := by
    rw [credentials_of_unkeyed hkey, s.validate_cases.resolve_left hinvalid]
    rfl

/-- **How credentials of the cluster decide on the source of tokens.** -/
structure ClusterCredentials.Decides (c : ClusterCredentials) (e : CloudEnvironment) : Prop where
  /-- With a secret that is not blank it is the authority of the cloud, if that is a URL. -/
  secret secret : c.clientSecret = some secret → Text.trim secret ≠ "" →
    c.tokenSource e = match Url.parse e.activeDirectory with
      | .ok authority => .ok (.clientSecret authority c.tenant c.client secret)
      | .error fault => .error (.config ("Invalid authority URL: " ++ fault.message))
  /-- Otherwise it is the surroundings, and only then. -/
  surroundings : c.tokenSource e = .ok .surroundings ↔
    ¬∃ secret, c.clientSecret = some secret ∧ Text.trim secret ≠ ""
  /-- The surroundings are asked only if there is a token file. -/
  tokenFile : c.tokenSource e = .ok .surroundings → c.tokenFile.isSome = true

/-- **Settings and credentials come from where they should.** Of a settings file that can be read,
and whatever the environment is, settings are loaded; each of them takes the value of its variable,
which has to be a number of 64 bits where seconds are meant, or else what the file has, or else the
default. They decide on the credentials, and those of a cluster on the source of its tokens. -/
theorem credentials_are_resolved {file : Content} {old : Settings}
    (hfile : Settings.ofContent file = .ok old) (env : Variables) :
    (∀ value n, Settings.seconds? value = some n ↔ Settings.IsCount value n) ∧
    ∃ s, Settings.load file env = .ok s ∧
      Each (fun x => x.Takes env (Settings.written file) (x.get s)) ∧ s.Decides ∧
      ∀ c e, s.credentials = .ok (.cluster c) → c.Decides e := by
  refine ⟨fun _ _ => Settings.seconds?_eq_some_iff, old.overlaid env, ?_, ?_, ?_, ?_⟩
  · unfold Settings.load
    rw [hfile]
    rfl
  · exact Settings.each_taken hfile env
  · exact Settings.decides _
  · intro c e hc
    obtain ⟨-, hvalid, rfl⟩ := Settings.credentials_cluster_iff.1 hc
    have hsurroundings : ∀ {d : ClusterCredentials}, d.tokenSource e = .ok .surroundings ↔
        ¬∃ secret, d.clientSecret = some secret ∧ Text.trim secret ≠ "" := by
      intro d
      rw [ClusterCredentials.tokenSource_surroundings_iff, ← hasSecret_iff, Bool.not_eq_true]
    exact {
      secret := fun _ hsecret hsome => ClusterCredentials.tokenSource_of_secret hsecret hsome
      surroundings := hsurroundings
      tokenFile := fun h => Settings.tokenFile_of_validate hvalid
        (ClusterCredentials.tokenSource_surroundings_iff.1 h) }

/-- A blank secret leaves a token file in use, and a word that is no number leaves the seconds of
the file. -/
theorem blank_secret_asks_surroundings :
    let file : Content := .text "client_id = \"client\"\npoll_interval_secs = 2\n"
    let env : Variables := .ofList [("AZURE_SUBSCRIPTION_ID", "sub"), ("AZURE_TENANT_ID", "tenant"),
      ("AZURE_CLIENT_SECRET", " "), ("AZURE_FEDERATED_TOKEN_FILE", "/var/token"),
      ("AZURE_RESOURCE_GROUP", "group"), ("AZURE_REGION", "eastus"),
      ("AZSTORE_POLL_INTERVAL_SECS", "soon")]
    let old : Settings := { client := "client", pollInterval := 2 }
    Settings.ofContent file = .ok old ∧
    ∃ s, Settings.load file env = .ok s ∧ s.client = "client" ∧ s.pollInterval = 2 ∧
      s.credentials = .ok (.cluster s.cluster) ∧
      ∀ e, s.cluster.tokenSource e = .ok .surroundings := by
  intro file env old
  have hfile : Settings.ofContent file = .ok old := by decide +kernel
  obtain ⟨-, s, hload, -, hdecides, htokens⟩ := credentials_are_resolved hfile env
  have hs : s = old.overlaid env := by
    unfold Settings.load at hload
    rw [hfile] at hload
    exact (Except.ok.inj hload).symm
  subst hs
  have hvalid : (old.overlaid env).validate = .ok () := by decide +kernel
  have hsecret : (old.overlaid env).clientSecret = some " " := by decide +kernel
  have hblank : Text.trim " " = "" := by decide +kernel
  have hcluster := (hdecides.unkeyed _).2 ⟨by decide +kernel, hvalid, rfl⟩
  refine ⟨hfile, _, hload, by decide +kernel, by decide +kernel, hcluster, fun e => ?_⟩
  refine (htokens _ e hcluster).surroundings.2 ?_
  rintro ⟨secret, hfound, hsome⟩
  cases hsecret.symm.trans hfound
  exact hsome hblank

end RegistryStorage
