import RegistryStorage.ResourceManager.Answer
import Mathlib.Data.List.DropRight

/-!
What an answer says.

An answer is a status, some headers and a body, and what it says of a write is read off these: the
write goes on and is followed at an address (`Accepts`), the body holds a value (`Holds`) or none
that can be read (`Garbled`), an operation has a status with a word (`Says`). Here all of this is
said of what has been received, headers by their raw text and statuses by their number, and none of
it with the functions that the client reads an answer with. That these find what the answer says is
proved, function by function: `trimmed_eq_iff`, `visibleHeader?_eq_some`, `readBody_eq_ok`,
`readBody_eq_error`, `following?_eq_some`.
-/

set_option autoImplicit false

namespace RegistryStorage

open Json (Value)

namespace Http

/-! ## Headers -/

/-- Names of headers that differ in nothing but their case. -/
def SameName (name name' : String) : Prop :=
  name.toList.map Char.toLower = name'.toList.map Char.toLower

/-- The characters that may stand around the value of a header. -/
def IsGap (c : Char) : Prop := c = ' ' ∨ c = '\t'

/-- A value is what is between the gaps at both ends of a text. -/
structure Stripped (raw value : String) : Prop where
  between : ∃ before after, raw.toList = before ++ value.toList ++ after ∧
    (∀ c ∈ before, IsGap c) ∧ ∀ c ∈ after, IsGap c
  first : ∀ c ∈ value.toList.head?, ¬ IsGap c
  last : ∀ c ∈ value.toList.getLast?, ¬ IsGap c

/-- The text is not empty, and each of its characters is visible, a space or a tab. -/
def Visible (value : String) : Prop :=
  value ≠ "" ∧ ∀ c ∈ value.toList, c = '\t' ∨ 0x20 ≤ c.toNat ∧ c.toNat < 0x7F

namespace Response

/-- The first header of a name has this value, and it is visible. -/
def Names (r : Response) (name value : String) : Prop :=
  ∃ before shown raw after, r.headers = before ++ (shown, raw) :: after ∧
    (∀ h ∈ before, ¬ SameName h.1 name) ∧ SameName shown name ∧ Stripped raw value ∧ Visible value

/-- The server did what it was asked. -/
def Well (r : Response) : Prop := 200 ≤ r.status ∧ r.status < 300

end Response

section Lists

variable {p : Char → Bool} {l before middle after : List Char}

/-- What is left of a list that is trimmed at both ends. -/
theorem trimBy_eq : Text.trimBy p l = (l.dropWhile p).rdropWhile p := rfl

theorem trimBy_append (hbefore : ∀ c ∈ before, p c = true) (hafter : ∀ c ∈ after, p c = true)
    (hfirst : ∀ c ∈ middle.head?, p c = false) (hlast : ∀ c ∈ middle.getLast?, p c = false) :
    Text.trimBy p (before ++ middle ++ after) = middle := by
  rw [trimBy_eq, List.append_assoc, List.dropWhile_append_of_pos hbefore]
  rcases List.eq_nil_or_concat middle with rfl | ⟨front, c, rfl⟩
  · rw [List.nil_append, List.dropWhile_eq_nil_iff.2 hafter, List.rdropWhile_nil]
  · have hself : (front ++ [c] ++ after).dropWhile p = front ++ [c] ++ after := by
      cases front with
      | nil => simpa using hfirst c rfl
      | cons d front => simpa using hfirst d rfl
    rw [List.concat_eq_append, hself, List.rdropWhile, List.reverse_append,
      List.dropWhile_append_of_pos fun d hd => hafter d (List.mem_reverse.1 hd)]
    have hkept : p c = false := hlast c (by simp)
    simp [hkept]

theorem exists_trimBy (p : Char → Bool) (l : List Char) :
    (∃ before after, l = before ++ Text.trimBy p l ++ after ∧ (∀ c ∈ before, p c = true) ∧
      ∀ c ∈ after, p c = true) ∧
    (∀ c ∈ (Text.trimBy p l).head?, p c = false) ∧
    ∀ c ∈ (Text.trimBy p l).getLast?, p c = false := by
  rw [trimBy_eq]
  refine ⟨⟨l.takeWhile p, (l.dropWhile p).rtakeWhile p, ?_, ?_, ?_⟩, ?_, ?_⟩
  · rw [List.append_assoc, List.rdropWhile_append_rtakeWhile, List.takeWhile_append_dropWhile]
  · exact fun c hc => List.mem_takeWhile_imp hc
  · exact fun c hc => List.mem_rtakeWhile_imp hc
  · intro c hc
    -- it begins where the list does of which only the front was dropped
    obtain ⟨rest, hrest⟩ := List.rdropWhile_prefix p (l := l.dropWhile p)
    obtain ⟨kept, hkept⟩ : ∃ kept, (l.dropWhile p).rdropWhile p = c :: kept :=
      List.head?_eq_some_iff.1 hc
    have hdropped := List.head?_dropWhile_not p l
    rw [← hrest, hkept] at hdropped
    exact hdropped
  · intro c hc
    obtain ⟨kept, hkept⟩ : ∃ kept, (l.dropWhile p).rdropWhile p = kept ++ [c] :=
      List.getLast?_eq_some_iff.1 hc
    have hlast := List.rdropWhile_last_not p (l := l.dropWhile p) (by simp [hkept])
    simpa [hkept] using hlast

end Lists

section Headers

variable {r : Response} {name small raw value value' : String}

/-- **A value is trimmed** of the gaps around it, and of nothing else. -/
theorem trimmed_eq_iff : trimmed raw = value ↔ Stripped raw value := by
  have hgap : ∀ c, (decide (c = ' ') || decide (c = '\t')) = true ↔ IsGap c := by
    simp [IsGap]
  have hkept : ∀ c, (decide (c = ' ') || decide (c = '\t')) = false ↔ ¬ IsGap c := by
    simp [IsGap]
  unfold trimmed
  constructor
  · rintro rfl
    obtain ⟨hbetween, hfirst, hlast⟩ := exists_trimBy (fun c => c = ' ' || c = '\t') raw.toList
    simp only [hgap, hkept] at hbetween hfirst hlast
    constructor <;> rw [String.toList_ofList]
    · exact hbetween
    · exact hfirst
    · exact hlast
  · rintro ⟨⟨before, after, hraw, hbefore, hafter⟩, hfirst, hlast⟩
    rw [hraw, trimBy_append, String.ofList_toList]
    · exact fun c hc => (hgap c).2 (hbefore c hc)
    · exact fun c hc => (hgap c).2 (hafter c hc)
    · exact fun c hc => (hkept c).2 (hfirst c hc)
    · exact fun c hc => (hkept c).2 (hlast c hc)

/-- The value of a header is that of the first of its name. -/
theorem header?_eq_some (hsmall : name.toList.map Char.toLower = small.toList) :
    r.header? small = some value ↔ ∃ before shown raw after,
      r.headers = before ++ (shown, raw) :: after ∧ (∀ h ∈ before, ¬ SameName h.1 name) ∧
        SameName shown name ∧ Stripped raw value := by
  have hsame : ∀ h : String × String,
      (h.1.toList.map Char.toLower == small.toList) = true ↔ SameName h.1 name := by
    simp [SameName, hsmall]
  simp only [Response.header?, Option.map_eq_some_iff, List.find?_eq_some_iff_append,
    trimmed_eq_iff, Bool.not_eq_true', ← Bool.not_eq_true, hsame]
  constructor
  · rintro ⟨⟨shown, raw⟩, ⟨hshown, before, after, hheaders, hbefore⟩, hvalue⟩
    exact ⟨before, shown, raw, after, hheaders, hbefore, hshown, hvalue⟩
  · rintro ⟨before, shown, raw, after, hheaders, hbefore, hshown, hvalue⟩
    exact ⟨(shown, raw), ⟨hshown, before, after, hheaders, hbefore⟩, hvalue⟩

/-- **The value of a header is read if it is visible.** Its name is looked for in small letters. -/
theorem visibleHeader?_eq_some (hsmall : name.toList.map Char.toLower = small.toList) :
    r.visibleHeader? small = some value ↔ r.Names name value := by
  have hread : r.visibleHeader? small = some value ↔
      r.header? small = some value ∧ Visible value := by
    unfold Response.visibleHeader?
    have hvisible : ∀ v : String, (v ≠ "" ∧ v.toList.all fun c =>
        c = '\t' || (0x20 ≤ c.toNat && c.toNat < 0x7F)) ↔ Visible v := by
      simp [Visible]
    cases r.header? small with
    | none => simp
    | some found =>
      simp only [hvisible, Option.ite_none_right_eq_some, Option.some.injEq]
      constructor
      · rintro ⟨hfound, rfl⟩
        exact ⟨rfl, hfound⟩
      · rintro ⟨rfl, hfound⟩
        exact ⟨hfound, rfl⟩
  rw [hread, header?_eq_some hsmall]
  constructor
  · rintro ⟨⟨before, shown, raw, after, hheaders, hbefore, hshown, hvalue⟩, hvisible⟩
    exact ⟨before, shown, raw, after, hheaders, hbefore, hshown, hvalue, hvisible⟩
  · rintro ⟨before, shown, raw, after, hheaders, hbefore, hshown, hvalue, hvisible⟩
    exact ⟨⟨before, shown, raw, after, hheaders, hbefore, hshown, hvalue⟩, hvisible⟩

end Headers

theorem Response.isSuccess_iff {r : Response} : r.isSuccess = true ↔ r.Well := by
  simp [isSuccess, Well]

end Http

namespace ResourceManager

open Http

/-! ## Bodies -/

/-- The body of the answer holds a value; a blank one holds `null`. -/
inductive Holds (r : Response) : Value → Prop
  | nothing {text : String} (hbody : r.body = .complete text)
      (hblank : ∀ c ∈ text.toList, Text.isBlank c = true) : Holds r .null
  | value {text : String} {v : Value} (hbody : r.body = .complete text)
      (hshown : ∃ c ∈ text.toList, Text.isBlank c = false) (hread : Value.read? text = some v) :
      Holds r v

/-- The body of the answer cannot be read: it ended early, or it is no JSON. -/
inductive Garbled (r : Response) : Prop
  | truncated (hbody : r.body = .truncated)
  | malformed {text : String} (hbody : r.body = .complete text)
      (hshown : ∃ c ∈ text.toList, Text.isBlank c = false) (hread : Value.read? text = none)

/-- The answer tells the status of an operation with a word; one that tells none is in progress. -/
inductive Says (r : Response) : String → Prop
  | told {v : Value} {word : String} (hholds : Holds r v)
      (hword : v.get? "status" = some (.text word)) : Says r word
  | untold {v : Value} (hholds : Holds r v) (hword : ∀ word, v.get? "status" ≠ some (.text word)) :
      Says r "InProgress"

/-! ## Where a write is followed -/

/-- The answer accepts a write that goes on, and says where. A status is preferred to a result. -/
inductive Accepts (r : Response) : Following → Prop
  | status {address : String} (haccepted : r.status = 201 ∨ r.status = 202)
      (haddress : r.Names "Azure-AsyncOperation" address) : Accepts r (.status address)
  | result {address : String} (haccepted : r.status = 201 ∨ r.status = 202)
      (hstatus : ∀ address, ¬ r.Names "Azure-AsyncOperation" address)
      (haddress : r.Names "Location" address) : Accepts r (.result address)

/-- Nothing goes on after the answer. -/
def Final (r : Response) : Prop := ∀ way, ¬ Accepts r way

section

variable {r : Response} {way way' : Following} {v w : Value} {word word' : String}

theorem isAllBlank_iff {text : String} :
    Text.isAllBlank text = true ↔ ∀ c ∈ text.toList, Text.isBlank c = true := by
  simp [Text.isAllBlank]

theorem isAllBlank_eq_false {text : String} :
    Text.isAllBlank text = false ↔ ∃ c ∈ text.toList, Text.isBlank c = false := by
  simp [Text.isAllBlank]

/-- **What is read of a body is what it says.** -/
theorem readBody_spec (r : Response) :
    match readBody r with
    | .ok v => Holds r v
    | .error _ => Garbled r := by
  unfold readBody
  cases hbody : r.body with
  | truncated => exact .truncated hbody
  | complete text =>
    dsimp only
    by_cases hblank : Text.isAllBlank text = true
    · rw [if_pos hblank]
      exact .nothing hbody (isAllBlank_iff.1 hblank)
    · rw [if_neg hblank]
      have hshown := isAllBlank_eq_false.1 (Bool.eq_false_iff.2 hblank)
      cases hread : Value.read? text with
      | none => exact .malformed hbody hshown hread
      | some v => exact .value hbody hshown hread

/-- **The value that is read is the one that the body holds.** -/
theorem readBody_eq_ok : readBody r = .ok v ↔ Holds r v := by
  constructor
  · intro h
    have hspec := readBody_spec r
    rwa [h] at hspec
  · rintro (⟨hbody, hblank⟩ | ⟨hbody, hshown, hread⟩)
    · simp [readBody, hbody, isAllBlank_iff.2 hblank]
    · simp [readBody, hbody, isAllBlank_eq_false.2 hshown, hread]

/-- **No value is read of a body that is garbled**, and of no other. -/
theorem readBody_eq_error : (∃ fault, readBody r = .error fault) ↔ Garbled r := by
  constructor
  · rintro ⟨fault, h⟩
    have hspec := readBody_spec r
    rwa [h] at hspec
  · rintro (hbody | ⟨hbody, hshown, hread⟩)
    · simp [readBody, hbody]
    · simp [readBody, hbody, isAllBlank_eq_false.2 hshown, hread]

theorem Holds.unique (h : Holds r v) (h' : Holds r w) : v = w := by
  rw [← readBody_eq_ok] at h h'
  exact Except.ok.inj (h.symm.trans h')

theorem Holds.not_garbled (h : Holds r v) : ¬ Garbled r := by
  rw [← readBody_eq_error, readBody_eq_ok.2 h]
  rintro ⟨fault, ⟨⟩⟩

theorem textAt?_status (v : Value) : v.textAt? ["status"] = (v.get? "status").bind Value.text? := by
  unfold Value.textAt? Value.at? Value.at?
  cases v.get? "status" <;> rfl

/-- The word that is read of a value is the one that the answer with this value tells. -/
theorem Holds.says_iff (h : Holds r v) :
    Says r word ↔ (v.textAt? ["status"]).getD "InProgress" = word := by
  rw [textAt?_status]
  constructor
  · rintro (⟨hholds, hword⟩ | ⟨hholds, hword⟩)
    · cases h.unique hholds
      rw [hword]
      rfl
    · cases h.unique hholds
      cases hstatus : v.get? "status" with
      | none => rfl
      | some status =>
        cases status with
        | text told => exact absurd hstatus (hword told)
        | _ => rfl
  · rintro rfl
    cases hstatus : v.get? "status" with
    | none => exact .untold h fun told htold => nomatch hstatus.symm.trans htold
    | some status =>
      cases status with
      | text told => exact .told h hstatus
      | _ => exact .untold h fun told htold => nomatch hstatus.symm.trans htold

theorem Says.holds (h : Says r word) : ∃ v, Holds r v := by
  cases h with
  | told hholds _ => exact ⟨_, hholds⟩
  | untold hholds _ => exact ⟨_, hholds⟩

theorem Says.unique (h : Says r word) (h' : Says r word') : word = word' := by
  obtain ⟨v, hv⟩ := h.holds
  exact (hv.says_iff.1 h).symm.trans (hv.says_iff.1 h')

theorem Says.not_garbled (h : Says r word) : ¬ Garbled r := by
  obtain ⟨v, hv⟩ := h.holds
  exact hv.not_garbled

/-- **A write is followed where its answer says.** -/
theorem following?_eq_some : following? r = some way ↔ Accepts r way := by
  have hstatus : ∀ address, r.visibleHeader? "azure-asyncoperation" = some address ↔
      r.Names "Azure-AsyncOperation" address := fun _ => visibleHeader?_eq_some (by decide)
  have hresult : ∀ address, r.visibleHeader? "location" = some address ↔
      r.Names "Location" address := fun _ => visibleHeader?_eq_some (by decide)
  have hnone : r.visibleHeader? "azure-asyncoperation" = none ↔
      ∀ address, ¬ r.Names "Azure-AsyncOperation" address := by
    simp only [Option.eq_none_iff_forall_ne_some, ne_eq, hstatus]
  unfold following?
  constructor
  · intro h
    split at h
    · rename_i haccepted
      split at h
      · rename_i address haddress
        cases h
        exact .status haccepted ((hstatus _).1 haddress)
      · rename_i address hnothing haddress
        cases h
        exact .result haccepted (hnone.1 hnothing) ((hresult _).1 haddress)
      · cases h
    · cases h
  · rintro (⟨haccepted, haddress⟩ | ⟨haccepted, hnothing, haddress⟩)
    · rw [if_pos haccepted, (hstatus _).2 haddress]
    · rw [if_pos haccepted, hnone.2 hnothing, (hresult _).2 haddress]

theorem following?_eq_none : following? r = none ↔ Final r := by
  simp only [Option.eq_none_iff_forall_ne_some, ne_eq, following?_eq_some, Final]

/-- A write is followed at one address only. -/
theorem Accepts.unique (h : Accepts r way) (h' : Accepts r way') : way = way' := by
  rw [← following?_eq_some] at h h'
  exact Option.some.inj (h.symm.trans h')

end

end ResourceManager

end RegistryStorage
