/-!
Dictionaries with their keys in order.

A `Dict` is a list of entries whose keys increase strictly, so two dictionaries with the
same entries are equal and the list a reader sees is in the order of the keys. Everything
the library keeps by name (tags, accounts, endpoints, records) is kept in one. Main statements:
a key finds what was put there last (`get?_insert`), and one that was taken out finds nothing
(`get?_erase`).
-/

set_option autoImplicit false

namespace RegistryStorage

/-- Pairs are ordered by their first component, then by the second. -/
instance orderOfPairs {α β : Type} [Ord α] [Ord β] : Ord (α × β) := lexOrd

instance transOrdOfPairs {α β : Type} [Ord α] [Ord β] [Std.TransOrd α] [Std.TransOrd β] :
    Std.TransOrd (α × β) :=
  inferInstanceAs (Std.TransCmp (compareLex (compareOn Prod.fst) (compareOn Prod.snd)))

instance lawfulOrdOfPairs {α β : Type} [Ord α] [Ord β] [Std.LawfulEqOrd α] [Std.LawfulEqOrd β] :
    Std.LawfulEqOrd (α × β) where
  compare_self {p} := by
    show (compare p.1 p.1).then (compare p.2 p.2) = .eq
    simp [Std.ReflCmp.compare_self]
  eq_of_compare {p q} h := by
    have h' : (compare p.1 q.1).then (compare p.2 q.2) = .eq := h
    rw [Ordering.then_eq_eq] at h'
    exact Prod.ext (Std.LawfulEqCmp.eq_of_compare h'.1) (Std.LawfulEqCmp.eq_of_compare h'.2)

variable {κ α : Type} [Ord κ]

/-! ## Ordered lists of entries -/

namespace Entries

/-- The keys increase strictly along the list. -/
def Increasing (l : List (κ × α)) : Prop :=
  l.Pairwise fun a b => compare a.1 b.1 = .lt

/-- Puts an entry in its place, over an entry of the same key. -/
def put (k : κ) (v : α) : List (κ × α) → List (κ × α)
  | [] => [(k, v)]
  | e :: r =>
    match compare k e.1 with
    | .lt => (k, v) :: e :: r
    | .eq => (k, v) :: r
    | .gt => e :: put k v r

/-- The value of a key. -/
def find? (k : κ) : List (κ × α) → Option α
  | [] => none
  | e :: r => if compare k e.1 = .eq then some e.2 else find? k r

/-- Leaves out the entry of a key. -/
def drop (k : κ) : List (κ × α) → List (κ × α)
  | [] => []
  | e :: r => if compare k e.1 = .eq then r else e :: drop k r

theorem mem_put {k : κ} {v : α} {l : List (κ × α)} {e : κ × α} (h : e ∈ put k v l) :
    e = (k, v) ∨ e ∈ l := by
  induction l with
  | nil => simpa [put] using h
  | cons d r ih =>
    unfold put at h
    split at h
    · simpa using h
    · rcases List.mem_cons.1 h with h | h
      · exact Or.inl h
      · exact Or.inr (List.mem_cons_of_mem _ h)
    · rcases List.mem_cons.1 h with h | h
      · exact Or.inr (h ▸ List.mem_cons_self)
      · rcases ih h with h | h
        · exact Or.inl h
        · exact Or.inr (List.mem_cons_of_mem _ h)

theorem drop_sublist (k : κ) (l : List (κ × α)) : (drop k l).Sublist l := by
  induction l with
  | nil => exact List.Sublist.refl _
  | cons e r ih =>
    unfold drop
    split
    · exact List.sublist_cons_self _ _
    · exact ih.cons_cons _

variable [Std.TransOrd κ]

theorem Increasing.put {k : κ} {v : α} {l : List (κ × α)} (h : Increasing l) :
    Increasing (put k v l) := by
  induction l with
  | nil => simp [Entries.put, Increasing]
  | cons e r ih =>
    have hr := List.pairwise_cons.1 h
    unfold Entries.put
    split
    · rename_i hlt
      refine List.pairwise_cons.2 ⟨?_, h⟩
      intro d hd
      rcases List.mem_cons.1 hd with rfl | hd
      · exact hlt
      · exact Std.TransCmp.lt_trans hlt (hr.1 d hd)
    · rename_i heq
      refine List.pairwise_cons.2 ⟨?_, hr.2⟩
      intro d hd
      exact Std.TransCmp.lt_of_eq_of_lt heq (hr.1 d hd)
    · rename_i hgt
      refine List.pairwise_cons.2 ⟨?_, ih hr.2⟩
      intro d hd
      rcases mem_put hd with rfl | hd
      · exact Std.OrientedCmp.lt_of_gt hgt
      · exact hr.1 d hd

omit [Std.TransOrd κ] in
theorem Increasing.drop {k : κ} {l : List (κ × α)} (h : Increasing l) :
    Increasing (drop k l) :=
  List.Pairwise.sublist (drop_sublist k l) h

/-! ## What a key finds -/

omit [Std.TransOrd κ] in
/-- A key that lies below all others finds nothing. -/
theorem find?_eq_none_of_lt {k : κ} {l : List (κ × α)}
    (h : ∀ e ∈ l, compare k e.1 = .lt) : find? k l = none := by
  induction l with
  | nil => rfl
  | cons e r ih =>
    have he : compare k e.1 ≠ .eq := by simp [h e List.mem_cons_self]
    simp only [find?, if_neg he]
    exact ih fun d hd => h d (List.mem_cons_of_mem _ hd)

variable [Std.LawfulEqOrd κ]

omit [Std.TransOrd κ] in
/-- What a key finds is an entry of that key. -/
theorem mem_of_find? {k : κ} {v : α} {l : List (κ × α)} (h : find? k l = some v) : (k, v) ∈ l := by
  induction l with
  | nil => cases h
  | cons e r ih =>
    unfold find? at h
    split at h
    · rename_i hkey
      cases h
      rw [Std.LawfulEqCmp.eq_of_compare hkey]
      exact List.mem_cons_self
    · exact List.mem_cons_of_mem e (ih h)

omit [Std.TransOrd κ] in
/-- An entry of an ordered list is what its key finds. -/
theorem find?_of_mem {e : κ × α} {l : List (κ × α)} (hl : Increasing l) (he : e ∈ l) :
    find? e.1 l = some e.2 := by
  induction l with
  | nil => cases he
  | cons d r ih =>
    obtain ⟨hfirst, hrest⟩ := List.pairwise_cons.1 hl
    rcases List.mem_cons.1 he with rfl | he
    · simp [find?, Std.ReflCmp.compare_self]
    · -- a later entry has a larger key than the first one
      have hne : compare e.1 d.1 ≠ .eq := by
        intro heq
        have hlt := hfirst e he
        rw [Std.LawfulEqCmp.eq_of_compare heq] at hlt
        simp [Std.ReflCmp.compare_self] at hlt
      simp only [find?, if_neg hne]
      exact ih hrest he

theorem find?_put (a k : κ) (v : α) (l : List (κ × α)) :
    find? a (put k v l) = if compare a k = .eq then some v else find? a l := by
  induction l with
  | nil => rfl
  | cons e r ih =>
    unfold put
    split
    · rfl
    · rename_i heq
      have hk : k = e.1 := Std.LawfulEqCmp.eq_of_compare heq
      subst hk
      simp only [find?]
      split <;> rfl
    · rename_i hgt
      simp only [find?, ih]
      by_cases hae : compare a e.1 = .eq
      · have ha : a = e.1 := Std.LawfulEqCmp.eq_of_compare hae
        have hak : compare a k ≠ .eq := by
          subst ha
          rw [Std.OrientedCmp.lt_of_gt hgt]
          simp
        simp [hae, hak]
      · simp [hae]

omit [Std.TransOrd κ] in
theorem find?_drop (a k : κ) {l : List (κ × α)} (h : Increasing l) :
    find? a (drop k l) = if compare a k = .eq then none else find? a l := by
  induction l with
  | nil => simp [drop, find?]
  | cons e r ih =>
    have hr := List.pairwise_cons.1 h
    unfold drop
    split
    · rename_i hke
      have hk : k = e.1 := Std.LawfulEqCmp.eq_of_compare hke
      subst hk
      by_cases hak : compare a e.1 = .eq
      · have ha : a = e.1 := Std.LawfulEqCmp.eq_of_compare hak
        subst ha
        simp only [hak, if_true]
        exact find?_eq_none_of_lt hr.1
      · simp [find?, hak]
    · rename_i hke
      simp only [find?, ih hr.2]
      by_cases hae : compare a e.1 = .eq
      · have ha : a = e.1 := Std.LawfulEqCmp.eq_of_compare hae
        have hak : compare a k ≠ .eq := by
          intro hak
          have hk : a = k := Std.LawfulEqCmp.eq_of_compare hak
          exact hke (hk ▸ hae)
        simp [hae, hak]
      · simp [hae]

omit [Std.TransOrd κ] in
/-- A key finds its value after a filter on keys, unless the filter drops it. -/
theorem find?_filter (p : κ → Bool) (a : κ) (l : List (κ × α)) :
    find? a (l.filter fun e => p e.1) = if p a then find? a l else none := by
  induction l with
  | nil => simp [find?]
  | cons e r ih =>
    by_cases hae : compare a e.1 = .eq
    · have ha : a = e.1 := Std.LawfulEqCmp.eq_of_compare hae
      subst ha
      by_cases hp : p e.1 <;> simp [hp, find?, ih]
    · by_cases hp : p e.1 <;> simp [hp, find?, hae, ih]

/-- The first key of an ordered list finds something, and nothing in a list that lies above it. -/
theorem eq_of_find?_eq : ∀ {l m : List (κ × α)}, Increasing l → Increasing m →
    (∀ a, find? a l = find? a m) → l = m
  | [], [], _, _, _ => rfl
  | [], e :: r, _, _, h => by simpa [find?, Std.ReflCmp.compare_self] using h e.1
  | e :: r, [], _, _, h => by simpa [find?, Std.ReflCmp.compare_self] using h e.1
  | e :: r, d :: q, hl, hm, h => by
    have hr := List.pairwise_cons.1 hl
    have hq := List.pairwise_cons.1 hm
    have hkey : e.1 = d.1 := by
      rcases hc : compare e.1 d.1 with _ | _ | _
      · -- the smaller first key would be missing from the other list
        have hnone : find? e.1 (d :: q) = none := by
          refine find?_eq_none_of_lt fun b hb => ?_
          rcases List.mem_cons.1 hb with rfl | hb
          · exact hc
          · exact Std.TransCmp.lt_trans hc (hq.1 b hb)
        have hsome := h e.1
        rw [hnone] at hsome
        simp [find?, Std.ReflCmp.compare_self] at hsome
      · exact Std.LawfulEqCmp.eq_of_compare hc
      · have hlt : compare d.1 e.1 = .lt := Std.OrientedCmp.lt_of_gt hc
        have hnone : find? d.1 (e :: r) = none := by
          refine find?_eq_none_of_lt fun b hb => ?_
          rcases List.mem_cons.1 hb with rfl | hb
          · exact hlt
          · exact Std.TransCmp.lt_trans hlt (hr.1 b hb)
        have hsome := h d.1
        rw [hnone] at hsome
        simp [find?, Std.ReflCmp.compare_self] at hsome
    have hvalue : e.2 = d.2 := by
      have he := h e.1
      simpa [find?, hkey, Std.ReflCmp.compare_self] using he
    have htail : r = q := by
      refine eq_of_find?_eq hr.2 hq.2 fun a => ?_
      by_cases ha : compare a e.1 = .eq
      · have hae : a = e.1 := Std.LawfulEqCmp.eq_of_compare ha
        subst hae
        rw [find?_eq_none_of_lt hr.1, hkey, find?_eq_none_of_lt hq.1]
      · have hrest := h a
        simpa [find?, ha, ← hkey] using hrest
    exact congr (congrArg List.cons (Prod.ext hkey hvalue)) htail

end Entries

/-! ## Dictionaries -/

/-- A finite map, as the list of its entries in the order of the keys. -/
structure Dict (κ α : Type) [Ord κ] where
  toList : List (κ × α)
  increasing : Entries.Increasing toList

namespace Dict

instance [DecidableEq κ] [DecidableEq α] : DecidableEq (Dict κ α) := fun a b =>
  decidable_of_iff (a.toList = b.toList)
    ⟨fun h => by cases a; cases b; cases h; rfl, fun h => h ▸ rfl⟩

/-- The dictionary without entries. -/
def empty : Dict κ α := ⟨[], List.Pairwise.nil⟩

instance : EmptyCollection (Dict κ α) := ⟨empty⟩
instance : Inhabited (Dict κ α) := ⟨empty⟩

/-- The value of a key. -/
def get? (d : Dict κ α) (k : κ) : Option α := Entries.find? k d.toList

/-- Whether a key has a value. -/
def contains (d : Dict κ α) (k : κ) : Bool := (d.get? k).isSome

/-- The keys, in order. -/
def keys (d : Dict κ α) : List κ := d.toList.map (·.1)

/-- Whether a test accepts some entry. -/
def any (d : Dict κ α) (p : κ → α → Bool) : Bool := d.toList.any fun e => p e.1 e.2

variable [Std.TransOrd κ]

/-- Gives a key a value, in place of an earlier one. -/
def insert (d : Dict κ α) (k : κ) (v : α) : Dict κ α :=
  ⟨Entries.put k v d.toList, d.increasing.put⟩

/-- Takes a key out. -/
def erase (d : Dict κ α) (k : κ) : Dict κ α :=
  ⟨Entries.drop k d.toList, d.increasing.drop⟩

/-- Keeps the entries that a test accepts. -/
def filter (d : Dict κ α) (p : κ → α → Bool) : Dict κ α :=
  ⟨d.toList.filter fun e => p e.1 e.2, List.Pairwise.sublist List.filter_sublist d.increasing⟩

/-- Gives every listed key its value, a later entry over an earlier one. -/
def insertAll (d : Dict κ α) (entries : List (κ × α)) : Dict κ α :=
  entries.foldl (fun d e => d.insert e.1 e.2) d

/-- The dictionary of a list of entries, a later entry over an earlier one. -/
def ofList (entries : List (κ × α)) : Dict κ α := empty.insertAll entries

/-! ## Looking up -/

omit [Std.TransOrd κ] in
@[simp] theorem get?_empty (a : κ) : (empty : Dict κ α).get? a = none := rfl

variable [Std.LawfulEqOrd κ]

/-- A key finds what was put there last. -/
theorem get?_insert (d : Dict κ α) (a k : κ) (v : α) :
    (d.insert k v).get? a = if compare a k = .eq then some v else d.get? a :=
  Entries.find?_put a k v d.toList

omit [Std.TransOrd κ] in
/-- A key that was taken out finds nothing, all others what they found before. -/
theorem get?_erase (d : Dict κ α) (a k : κ) :
    (d.erase k).get? a = if compare a k = .eq then none else d.get? a :=
  Entries.find?_drop a k d.increasing

omit [Std.TransOrd κ] in
/-- A key finds what it found before, unless a filter on keys drops it. -/
theorem get?_filter (d : Dict κ α) (p : κ → Bool) (a : κ) :
    (d.filter fun k _ => p k).get? a = if p a then d.get? a else none :=
  Entries.find?_filter p a d.toList

/-- Dictionaries in which every key finds the same are equal. -/
theorem ext_get? {d e : Dict κ α} (h : ∀ a, d.get? a = e.get? a) : d = e := by
  obtain ⟨l, hl⟩ := d
  obtain ⟨m, hm⟩ := e
  have hlm : l = m := Entries.eq_of_find?_eq hl hm h
  subst hlm
  rfl

theorem get?_insert_self (d : Dict κ α) (k : κ) (v : α) : (d.insert k v).get? k = some v := by
  rw [get?_insert, if_pos Std.ReflCmp.compare_self]

theorem get?_insert_of_ne (d : Dict κ α) {a k : κ} (v : α) (h : a ≠ k) :
    (d.insert k v).get? a = d.get? a := by
  rw [get?_insert, if_neg fun hc => h (Std.LawfulEqCmp.eq_of_compare hc)]

/-- What a key finds is what was just put there, or what it found before. -/
theorem get?_insert_cases {d : Dict κ α} {a k : κ} {v u : α} (h : (d.insert k v).get? a = some u) :
    (a = k ∧ u = v) ∨ d.get? a = some u := by
  rw [get?_insert] at h
  split at h
  · rename_i hc
    exact Or.inl ⟨Std.LawfulEqCmp.eq_of_compare hc, (Option.some.inj h).symm⟩
  · exact Or.inr h

omit [Std.TransOrd κ] in
theorem get?_of_erase {d : Dict κ α} {a k : κ} {u : α} (h : (d.erase k).get? a = some u) :
    d.get? a = some u := by
  rw [get?_erase] at h
  split at h
  · cases h
  · exact h

/-- What is put in place of itself changes nothing. -/
theorem insert_of_get? {d : Dict κ α} {k : κ} {v : α} (h : d.get? k = some v) :
    d.insert k v = d := by
  refine ext_get? fun a => ?_
  rw [get?_insert]
  split
  · rename_i hc
    rw [Std.LawfulEqCmp.eq_of_compare hc, h]
  · rfl

/-- The last value put at a key counts. -/
@[simp] theorem insert_insert (d : Dict κ α) (k : κ) (v u : α) :
    (d.insert k v).insert k u = d.insert k u := by
  refine ext_get? fun a => ?_
  simp only [get?_insert]
  split <;> rfl

/-- What was put at a key is taken out with it. -/
@[simp] theorem erase_insert (d : Dict κ α) (k : κ) (v : α) : (d.insert k v).erase k = d.erase k := by
  refine ext_get? fun a => ?_
  simp only [get?_erase, get?_insert]
  split <;> rfl

@[simp] theorem contains_insert (d : Dict κ α) (a k : κ) (v : α) :
    (d.insert k v).contains a = true ↔ a = k ∨ d.contains a = true := by
  unfold contains
  rw [get?_insert]
  split
  · rename_i hc
    simp [Std.LawfulEqCmp.eq_of_compare hc]
  · rename_i hc
    have hne : a ≠ k := fun h => hc (h ▸ Std.ReflCmp.compare_self)
    simp [hne]

omit [Std.TransOrd κ] in
@[simp] theorem contains_erase (d : Dict κ α) (a k : κ) :
    (d.erase k).contains a = true ↔ a ≠ k ∧ d.contains a = true := by
  unfold contains
  rw [get?_erase]
  split
  · rename_i hc
    simp [Std.LawfulEqCmp.eq_of_compare hc]
  · rename_i hc
    have hne : a ≠ k := fun h => hc (h ▸ Std.ReflCmp.compare_self)
    simp [hne]

omit [Std.TransOrd κ] in
@[simp] theorem contains_filter (d : Dict κ α) (p : κ → Bool) (a : κ) :
    (d.filter fun k _ => p k).contains a = true ↔ p a = true ∧ d.contains a = true := by
  unfold contains
  rw [get?_filter]
  by_cases hp : p a <;> simp [hp]

omit [Std.TransOrd κ] in
/-- A test accepts some entry if it accepts what some key finds. -/
theorem any_eq_true {d : Dict κ α} {p : κ → α → Bool} :
    d.any p = true ↔ ∃ k v, d.get? k = some v ∧ p k v = true := by
  unfold any
  rw [List.any_eq_true]
  constructor
  · rintro ⟨e, he, hp⟩
    exact ⟨e.1, e.2, Entries.find?_of_mem d.increasing he, hp⟩
  · rintro ⟨k, v, hv, hp⟩
    exact ⟨(k, v), Entries.mem_of_find? hv, hp⟩

omit [Std.TransOrd κ] [Std.LawfulEqOrd κ] in
theorem contains_of_get? {d : Dict κ α} {k : κ} {v : α} (h : d.get? k = some v) :
    d.contains k = true := by
  unfold contains
  rw [h]
  rfl

omit [Std.TransOrd κ] [Std.LawfulEqOrd κ] in
theorem not_contains_of_get? {d : Dict κ α} {k : κ} (h : d.get? k = none) :
    d.contains k = false := by
  unfold contains
  rw [h]
  rfl

omit [Std.TransOrd κ] [Std.LawfulEqOrd κ] in
theorem exists_get? {d : Dict κ α} {k : κ} (h : d.contains k = true) : ∃ v, d.get? k = some v :=
  Option.isSome_iff_exists.1 h

end Dict

end RegistryStorage
