import Mathlib.Data.List.Induction
import Mathlib.Data.List.Nodup
import RegistryStorage.Record.State

/-!
Conditions over a history.

A record's conditions are written over and over, by calls for one kind or another and at any time.
What a list of conditions has come to after a whole history of such calls is said here from the
history alone (`Conditions.Follows`): which entries there are, which of them are what they were,
what the condition of a kind says, and since when.

One call does no more than `Notice.write`, and four small lemmas say what that does to the kinds, to
the condition of the kind, to those of other kinds, and to the entries that are not the first of
their kind. Each law is then an induction over the calls. Only the time needs the whole history of
a kind: it is that of the first call in the last run of calls with one status, unless that run goes
back to an entry that was there before and had the status already (`Conditions.Shows`).
-/

set_option autoImplicit false

namespace RegistryStorage

/-- What a call writes about a condition, and when. -/
structure Notice where
  time : Moment
  kind : String
  status : ConditionStatus
  reason : String
  message : String

namespace Notice

/-- Writes a condition into a list. -/
def write (n : Notice) (l : List Condition) : List Condition :=
  Conditions.update n.time n.kind n.status n.reason n.message l

/-- The condition written in place of the one that was there, if any. -/
def onto (n : Notice) (old : Option Condition) : Condition where
  kind := n.kind
  status := n.status
  reason := n.reason
  message := n.message
  since := if old.map (·.status) = some n.status then (old.map (·.since)).getD n.time else n.time

/-! ## One call -/

variable (n : Notice) (l : List Condition)

/-- A call adds its kind at the end, if there is no entry of it. -/
theorem kinds_write : (n.write l).map (·.kind) =
    if n.kind ∈ l.map (·.kind) then l.map (·.kind) else l.map (·.kind) ++ [n.kind] := by
  induction l with
  | nil => rfl
  | cons c l ih =>
    unfold write Conditions.update
    by_cases hkind : c.kind = n.kind
    · simp [hkind]
    · rw [if_neg hkind, List.map_cons, show (Conditions.update _ _ _ _ _ l).map _ = _ from ih]
      simp only [List.map_cons, List.mem_cons, Ne.symm hkind, false_or]
      split <;> rfl

theorem find?_write_self :
    Conditions.find? n.kind (n.write l) = some (n.onto (Conditions.find? n.kind l)) := by
  induction l with
  | nil => simp [write, Conditions.update, Conditions.find?, onto]
  | cons c l ih =>
    unfold write Conditions.update
    by_cases hkind : c.kind = n.kind
    · simp [Conditions.find?, onto, hkind]
    · rw [if_neg hkind, Conditions.find?, List.find?_cons_of_neg (by simpa using hkind),
        Conditions.find?, List.find?_cons_of_neg (by simpa using hkind)]
      exact ih

theorem find?_write_of_ne {kind : String} (h : kind ≠ n.kind) :
    Conditions.find? kind (n.write l) = Conditions.find? kind l := by
  induction l with
  | nil => simp [write, Conditions.update, Conditions.find?, h.symm]
  | cons c l ih =>
    unfold write Conditions.update
    by_cases hkind : c.kind = n.kind
    · simp [Conditions.find?, hkind, h.symm]
    · rw [if_neg hkind, Conditions.find?, Conditions.find?, List.find?_cons, List.find?_cons]
      split
      · rfl
      · exact ih

/-- An entry of another kind, or with one of its kind before it, stays as it is. -/
theorem getElem?_write {i : Nat} {c : Condition} (hc : l[i]? = some c)
    (h : c.kind ≠ n.kind ∨ ∃ j < i, (l.map (·.kind))[j]? = some c.kind) :
    (n.write l)[i]? = some c := by
  induction l generalizing i with
  | nil => simp at hc
  | cons d l ih =>
    unfold write Conditions.update
    by_cases hkind : d.kind = n.kind
    · rw [if_pos hkind]
      cases i with
      | zero =>
        obtain rfl : d = c := by simpa using hc
        obtain h | ⟨j, hj, -⟩ := h
        · exact absurd hkind h
        · omega
      | succ i => simpa using hc
    · rw [if_neg hkind]
      cases i with
      | zero => simpa using hc
      | succ i =>
        rw [List.getElem?_cons_succ] at hc ⊢
        refine ih hc ?_
        -- an earlier entry of the kind is no entry of the kind that is written, or lies in the rest
        by_cases hother : c.kind = n.kind
        · obtain h | ⟨j, hj, hd⟩ := h
          · exact absurd hother h
          · cases j with
            | zero =>
              have hfirst : d.kind = c.kind := by simpa using hd
              exact absurd (hfirst.trans hother) hkind
            | succ j => exact Or.inr ⟨j, by omega, by simpa using hd⟩
        · exact Or.inl hother

end Notice

/-! ## A history of calls -/

namespace Conditions

/-- The conditions after a history. -/
def after (l : List Condition) (h : List Notice) : List Condition :=
  h.foldl (fun l n => n.write l) l

/-- The kinds that are new to those known, each once, in the order in which they first come up. -/
def newKinds (known : List String) : List String → List String
  | [] => []
  | k :: ks => if k ∈ known then newKinds known ks else k :: newKinds (known ++ [k]) ks

theorem mem_newKinds {known ks : List String} {kind : String} :
    kind ∈ newKinds known ks ↔ kind ∈ ks ∧ kind ∉ known := by
  induction ks generalizing known with
  | nil => simp [newKinds]
  | cons k ks ih =>
    unfold newKinds
    by_cases hk : k ∈ known
    · rw [if_pos hk, ih, List.mem_cons]
      refine and_congr_left fun hkind => ?_
      have hne : kind ≠ k := fun h => hkind (h ▸ hk)
      simp [hne]
    · rw [if_neg hk, List.mem_cons, List.mem_cons, ih, List.mem_append, List.mem_singleton]
      by_cases hkind : kind = k
      · simp [hkind, hk]
      · simp [hkind]

theorem nodup_newKinds (known ks : List String) : (newKinds known ks).Nodup := by
  induction ks generalizing known with
  | nil => exact List.nodup_nil
  | cons k ks ih =>
    unfold newKinds
    split
    · exact ih known
    · refine List.nodup_cons.2 ⟨fun hk => ?_, ih _⟩
      exact (mem_newKinds.1 hk).2 (List.mem_append_right _ List.mem_cons_self)

/-- **No entry is removed or moved**, and each kind that is new comes at the end, once. -/
theorem kinds_after (l : List Condition) (h : List Notice) : (after l h).map (·.kind) =
    l.map (·.kind) ++ newKinds (l.map (·.kind)) (h.map (·.kind)) := by
  induction h generalizing l with
  | nil => simp [after, newKinds]
  | cons n h ih =>
    have hstep : (after l (n :: h)).map (·.kind) = _ := ih (n.write l)
    rw [hstep, n.kinds_write, List.map_cons, newKinds]
    split
    · rfl
    · rw [List.append_assoc, List.singleton_append]

theorem nodup_kinds_after {l : List Condition} (hl : (l.map (·.kind)).Nodup) (h : List Notice) :
    ((after l h).map (·.kind)).Nodup := by
  rw [kinds_after]
  refine hl.append (nodup_newKinds _ _) fun kind hknown hnew => ?_
  exact (mem_newKinds.1 hnew).2 hknown

/-- **What is not the first entry of a kind that is written stays as it is.** -/
theorem getElem?_after {l : List Condition} {i : Nat} {c : Condition} (hc : l[i]? = some c)
    (h : List Notice)
    (hother : c.kind ∉ h.map (·.kind) ∨ ∃ j < i, (l.map (·.kind))[j]? = some c.kind) :
    (after l h)[i]? = some c := by
  induction h using List.reverseRecOn with
  | nil => exact hc
  | append_singleton h n ih =>
    rw [List.map_append, List.mem_append, not_or] at hother
    have hbefore := ih (hother.imp_left fun hkinds => hkinds.1)
    rw [after, List.foldl_append]
    refine n.getElem?_write _ hbefore (hother.imp (fun hkinds heq => ?_) ?_)
    · exact hkinds.2 (by simp [heq])
    · -- the earlier entry of the kind is still there
      rintro ⟨j, hj, hd⟩
      refine ⟨j, hj, ?_⟩
      rw [show (List.foldl _ l h).map _ = _ from kinds_after l h,
        List.getElem?_append_left (List.getElem?_eq_some_iff.1 hd).1]
      exact hd

/-- What a history says of one kind. -/
def about (kind : String) (h : List Notice) : List Notice := h.filter (·.kind == kind)

/-- The condition of a kind depends on what was said of the kind alone. -/
theorem find?_after (kind : String) (l : List Condition) (h : List Notice) :
    find? kind (after l h) =
      (about kind h).foldl (fun old n => some (n.onto old)) (find? kind l) := by
  induction h generalizing l with
  | nil => rfl
  | cons n h ih =>
    have hstep : find? kind (after l (n :: h)) = _ := ih (n.write l)
    rw [hstep]
    by_cases hkind : n.kind = kind
    · subst hkind
      rw [n.find?_write_self, about, about, List.filter_cons_of_pos (by simp)]
      rfl
    · rw [n.find?_write_of_ne l (Ne.symm hkind), about, about,
        List.filter_cons_of_neg (by simpa using hkind)]

/-! ## Since when -/

/-- The status of a condition before some call: that of the call before it, or the stored one. -/
def statusBefore (stored : Option Condition) (before : List Notice) : Option ConditionStatus :=
  match before.getLast? with
  | some n => some n.status
  | none => stored.map (·.status)

/-- What the condition of a kind shows after calls about it. -/
structure Shows (stored : Option Condition) (calls : List Notice) (c : Condition) : Prop where
  /-- It says what the last call said. -/
  last : ∃ n ∈ calls.getLast?, c.kind = n.kind ∧ c.status = n.status ∧ c.reason = n.reason ∧
    c.message = n.message
  /-- Its time is the stored one if no call changed the stored status; else it is that of the first
  of the last calls with one status, as many as there are. -/
  since : (∃ old, stored = some old ∧ (∀ n ∈ calls, n.status = old.status) ∧ c.since = old.since) ∨
    ∃ before first block, calls = before ++ first :: block ∧
      (∀ n ∈ block, n.status = first.status) ∧
      statusBefore stored before ≠ some first.status ∧ c.since = first.time

theorem Shows.status_eq {stored : Option Condition} {calls : List Notice} {c : Condition}
    (h : Shows stored calls c) : statusBefore stored calls = some c.status := by
  obtain ⟨n, hn, -, hstatus, -⟩ := h.last
  rw [statusBefore, Option.mem_def.1 hn, hstatus]

/-- A call that changes the status begins a new run of calls. -/
theorem shows_onto_of_ne {stored old : Option Condition} {calls : List Notice} (n : Notice)
    (hold : old.map (·.status) = statusBefore stored calls)
    (hne : statusBefore stored calls ≠ some n.status) :
    Shows stored (calls ++ [n]) (n.onto old) where
  last := ⟨n, by simp, rfl, rfl, rfl, rfl⟩
  since := Or.inr ⟨calls, n, [], rfl, by simp, hne, if_neg (hold ▸ hne)⟩

/-- A call that keeps the status goes on with the run of calls before it. -/
theorem Shows.onto {stored : Option Condition} {calls : List Notice} {c : Condition}
    (h : Shows stored calls c) {n : Notice} (hstatus : c.status = n.status) :
    Shows stored (calls ++ [n]) (n.onto (some c)) where
  last := ⟨n, by simp, rfl, rfl, rfl, rfl⟩
  since := by
    have hsince : (n.onto (some c)).since = c.since := by simp [Notice.onto, hstatus]
    obtain ⟨last, hlast, -, hshown, -⟩ := h.last
    have hmem : last ∈ calls := List.mem_of_getLast? hlast
    rw [hsince]
    obtain ⟨old, hstored, hall, hc⟩ | ⟨before, first, block, rfl, hblock, hne, hc⟩ := h.since
    · refine Or.inl ⟨old, hstored, ?_, hc⟩
      intro m hm
      rcases List.mem_append.1 hm with hm | hm
      · exact hall m hm
      · rw [List.mem_singleton.1 hm, ← hstatus, hshown, hall last hmem]
    · refine Or.inr ⟨before, first, block ++ [n], by simp, ?_, hne, hc⟩
      -- the last call before this one is in the run, whose calls have one status
      have hrun : ∀ m ∈ first :: block, m.status = first.status :=
        List.forall_mem_cons.2 ⟨rfl, hblock⟩
      have hlastRun : last ∈ first :: block := by
        rw [Option.mem_def, List.getLast?_append_cons] at hlast
        exact List.mem_of_getLast? hlast
      intro m hm
      rcases List.mem_append.1 hm with hm | hm
      · exact hblock m hm
      · rw [List.mem_singleton.1 hm, ← hstatus, hshown, hrun last hlastRun]

/-- **What the calls about a kind come to**, one after the other. -/
theorem shows_foldl (stored : Option Condition) {calls : List Notice} (hcalls : calls ≠ []) :
    ∃ c, calls.foldl (fun old n => some (Notice.onto n old)) stored = some c ∧
      Shows stored calls c := by
  induction calls using List.reverseRecOn with
  | nil => exact absurd rfl hcalls
  | append_singleton calls n ih =>
    rw [List.foldl_append]
    refine ⟨_, rfl, ?_⟩
    by_cases hfirst : calls = []
    · subst hfirst
      -- the first call of all is compared with the stored entry
      by_cases hsame : stored.map (·.status) = some n.status
      · obtain ⟨old, rfl, hstatus⟩ := Option.map_eq_some_iff.1 hsame
        refine ⟨⟨n, by simp, rfl, rfl, rfl, rfl⟩, Or.inl ⟨old, rfl, ?_, ?_⟩⟩
        · simpa using hstatus.symm
        · simp [Notice.onto, hstatus]
      · exact shows_onto_of_ne n rfl hsame
    · obtain ⟨c, hc, hshows⟩ := ih hfirst
      rw [hc]
      by_cases hsame : c.status = n.status
      · exact hshows.onto hsame
      · refine shows_onto_of_ne n hshows.status_eq.symm ?_
        rw [hshows.status_eq]
        exact fun h => hsame (Option.some.inj h)

/-- **What a list of conditions has come to** after a history of calls. -/
structure Follows (l : List Condition) (h : List Notice) (final : List Condition) : Prop where
  /-- No entry is removed, all keep their places, and each kind that is new to the list comes at the
  end, once, in the order of the first calls for them. -/
  kinds : final.map (·.kind) =
    l.map (·.kind) ++ newKinds (l.map (·.kind)) (h.map (·.kind))
  /-- No kind comes up twice if none did before. -/
  nodup : (l.map (·.kind)).Nodup → (final.map (·.kind)).Nodup
  /-- An entry whose kind was not written, or with one of its kind before it, is what it was. -/
  unchanged : ∀ (i : Nat) (c : Condition), l[i]? = some c →
    (c.kind ∉ h.map (·.kind) ∨ ∃ j < i, (l.map (·.kind))[j]? = some c.kind) → final[i]? = some c
  /-- The condition of a kind that was written shows what the calls about it come to. -/
  shown : ∀ kind ∈ h.map (·.kind), ∃ c, find? kind final = some c ∧
    Shows (find? kind l) (about kind h) c

theorem follows_after (l : List Condition) (h : List Notice) : Follows l h (after l h) where
  kinds := kinds_after l h
  nodup hl := nodup_kinds_after hl h
  unchanged _ _ hc hother := getElem?_after hc h hother
  shown kind hkind := by
    obtain ⟨n, hn, hnkind⟩ := List.mem_map.1 hkind
    have habout : about kind h ≠ [] := List.ne_nil_of_mem (a := n) (by simp [about, hn, hnkind])
    rw [find?_after]
    exact shows_foldl _ habout

end Conditions

/-! ## Calls on a record -/

/-- A call that writes a condition into a record. -/
inductive Announcement
  /-- Writes a condition of any kind. -/
  | update (kind : String) (status : ConditionStatus) (reason message : String)
  /-- Writes the condition on the existence of the storage. -/
  | report (status : ConditionStatus) (reason : StorageReason) (message : String)

/-- The record after a call. -/
def StorageState.announce (s : StorageState) (now : Moment) : Announcement → StorageState
  | .update kind status reason message =>
    { s with conditions := Conditions.update now kind status reason message s.conditions }
  | .report status reason message => s.report now status reason message

/-- What a call writes. -/
def Announcement.notice (now : Moment) : Announcement → Notice
  | update kind status reason message => ⟨now, kind, status, reason, message⟩
  | report status reason message => ⟨now, storageExistsKind, status, reason.text, message⟩

/-- The record after calls at their times. -/
def StorageState.announced (s : StorageState) (calls : List (Moment × Announcement)) :
    StorageState :=
  calls.foldl (fun s call => s.announce call.1 call.2) s

theorem StorageState.announced_eq (s : StorageState) (calls : List (Moment × Announcement)) :
    s.announced calls =
      { s with
        conditions := Conditions.after s.conditions (calls.map fun c => c.2.notice c.1) } := by
  induction calls generalizing s with
  | nil => rfl
  | cons call calls ih =>
    have hstep : s.announced (call :: calls) = _ := ih (s.announce call.1 call.2)
    rw [hstep]
    obtain ⟨now, _ | _⟩ := call <;> rfl

/-- **The conditions of a record follow from the calls that wrote them**, whatever they were, and
nothing else in the record changes. -/
theorem StorageState.conditions_follow_calls (s : StorageState)
    (calls : List (Moment × Announcement)) :
    Conditions.Follows s.conditions (calls.map fun c => c.2.notice c.1)
      (s.announced calls).conditions ∧
    s.announced calls = { s with conditions := (s.announced calls).conditions } := by
  rw [s.announced_eq calls]
  exact ⟨Conditions.follows_after _ _, rfl⟩

end RegistryStorage
