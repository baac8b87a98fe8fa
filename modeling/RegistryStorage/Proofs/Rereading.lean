import RegistryStorage.Proofs.NumberText

/-!
Values, written and read again.

A value can be held (`Value.Held`) if its numbers can and no key of an object comes twice. Whatever
was read can be held, and its lists and objects lie no deeper than those of the text it was read
from (`Tree.held_of_valueOf`). What can be held is read again from its own text, with spaces or
without, if it lies less than 128 deep (`Value.Held.read?_text`).

What is read again need not be the value itself: the members of an object come back in the order of
their keys, and a double may come back a step away. But each key finds the value of that key, read
again (`Value.Held.get?_reread`), and texts come back as they are, so the text at the end of a path
is the same (`Value.Held.textAt?_reread`).
-/

set_option autoImplicit false

namespace RegistryStorage.Json

/-! ## Values that can be held -/

/-- A value that can be held: its numbers are, and no key of an object comes twice. -/
inductive Value.Held : Value → Prop
  | null : Held .null
  | bool (b : Bool) : Held (.bool b)
  | number {n : Number} (h : n.Held) : Held (.number n)
  | text (s : String) : Held (.text s)
  | list {items : List Value} (h : ∀ v ∈ items, Held v) : Held (.list items)
  | object {members : List (String × Value)} (keys : (members.map (·.1)).Nodup)
      (h : ∀ m ∈ members, Held m.2) : Held (.object members)

namespace Value

/-- The tokens of a value that can be held are known to the grammar. -/
theorem Held.legible {v : Value} (h : v.Held) : Legible v.words := by
  induction h with
  | null | bool =>
    intro n hn
    simp [words] at hn
  | number h =>
    intro n hn
    obtain rfl := Token.number.inj (List.mem_singleton.1 hn)
    exact h.read.1
  | text s => exact legible_text s
  | list _ ih => exact legible_list ih
  | object _ _ ih => exact legible_object ih

theorem Held.get? {v e : Value} {key : String} (h : v.Held) (he : v.get? key = some e) :
    e.Held := by
  cases h with
  | object _ hmembers => exact hmembers (key, e) (Entries.mem_of_find? he)
  | null | bool | number | text | list => cases he

/-! ## Nesting -/

theorem nestingOfMembers_le_iff (members : List (String × Value)) (n : ℕ) :
    Tree.nestingOfMembers (treesOfMembers members) ≤ n ↔ ∀ m ∈ members, m.2.tree.nesting ≤ n := by
  induction members with
  | nil => simp [treesOfMembers, Tree.nestingOfMembers]
  | cons m r ih => simp [treesOfMembers, Tree.nestingOfMembers, ih]

end Value

/-! ## Values that were read -/

namespace Tree

mutual
/-- **A value that was read can be held**, and lies no deeper than the text it was read from. -/
theorem held_of_valueOf : (t : Tree) → {v : Value} → t.valueOf = some v →
    v.Held ∧ v.tree.nesting ≤ t.nesting
  | .null, _, h => by
    cases h
    exact ⟨.null, le_rfl⟩
  | .bool b, _, h => by
    cases h
    exact ⟨.bool b, le_rfl⟩
  | .number n, _, h => by
    obtain ⟨x, hx, rfl⟩ := Option.map_eq_some_iff.1 h
    exact ⟨.number (Number.held_of_ofNumeral? hx), le_rfl⟩
  | .text t, _, h => by
    obtain ⟨s, -, rfl⟩ := Option.map_eq_some_iff.1 h
    exact ⟨.text s, le_rfl⟩
  | .list items, _, h => by
    obtain ⟨vs, hvs, rfl⟩ := Option.map_eq_some_iff.1 h
    obtain ⟨hheld, hnesting⟩ := held_of_items items hvs
    exact ⟨.list hheld, Nat.succ_le_succ hnesting⟩
  | .object members, _, h => by
    obtain ⟨l, hl, rfl⟩ := Option.map_eq_some_iff.1 h
    obtain ⟨hkeys, hheld, hnesting⟩ := held_of_members members hl
    refine ⟨.object ?_ hheld, Nat.succ_le_succ hnesting⟩
    refine List.pairwise_map.2 (hkeys.imp ?_)
    intro a b hlt heq
    have hself : compare a.1 b.1 = .eq := heq ▸ Std.ReflCmp.compare_self
    rw [hlt] at hself
    cases hself

theorem held_of_items : (items : List Tree) → {vs : List Value} → valuesOfItems items = some vs →
    (∀ v ∈ vs, v.Held) ∧ nestingOfItems (Value.treesOfItems vs) ≤ nestingOfItems items
  | [], _, h => by
    cases h
    exact ⟨nofun, le_rfl⟩
  | t :: r, _, h => by
    obtain ⟨v, hv, hrest⟩ := Option.bind_eq_some_iff.1 h
    obtain ⟨vs, hvs, hcons⟩ := Option.bind_eq_some_iff.1 hrest
    cases hcons
    obtain ⟨hheld, hnesting⟩ := held_of_valueOf t hv
    obtain ⟨hheld', hnesting'⟩ := held_of_items r hvs
    exact ⟨List.forall_mem_cons.2 ⟨hheld, hheld'⟩, max_le_max hnesting hnesting'⟩

theorem held_of_members : (members : List (Option String × Tree)) →
    {l : List (String × Value)} → valuesOfMembers members = some l →
    Entries.Increasing l ∧ (∀ m ∈ l, m.2.Held) ∧
      nestingOfMembers (Value.treesOfMembers l) ≤ nestingOfMembers members
  | [], _, h => by
    cases h
    exact ⟨List.Pairwise.nil, nofun, le_rfl⟩
  | (key, t) :: r, _, h => by
    obtain ⟨k, -, hrest⟩ := Option.bind_eq_some_iff.1 h
    obtain ⟨v, hv, hrest⟩ := Option.bind_eq_some_iff.1 hrest
    obtain ⟨l, hl, hput⟩ := Option.bind_eq_some_iff.1 hrest
    obtain ⟨hheld, hnesting⟩ := held_of_valueOf t hv
    obtain ⟨hkeys, hheld', hnesting'⟩ := held_of_members r hl
    rw [Value.nestingOfMembers_le_iff] at hnesting'
    have hnesting'' : ∀ m ∈ l, m.2.tree.nesting ≤ max t.nesting (nestingOfMembers r) := fun m hm =>
      (hnesting' m hm).trans (le_max_right _ _)
    cases hput
    rw [Value.nestingOfMembers_le_iff]
    -- a key that comes again later keeps the later value
    split
    · exact ⟨hkeys, hheld', hnesting''⟩
    · refine ⟨hkeys.put, ?_, ?_⟩
      · intro m hm
        rcases Entries.mem_put hm with rfl | hm
        · exact hheld
        · exact hheld' m hm
      · intro m hm
        rcases Entries.mem_put hm with rfl | hm
        · exact hnesting.trans (le_max_left _ _)
        · exact hnesting'' m hm
end

end Tree

/-! ## Values that are read again -/

namespace Value

/-- The value that is read from the text of a value. -/
def reread (v : Value) : Option Value := v.tree.valueOf

theorem exists_items_reread {items : List Value} (h : ∀ v ∈ items, ∃ w, v.reread = some w) :
    ∃ vs, Tree.valuesOfItems (treesOfItems items) = some vs := by
  induction items with
  | nil => exact ⟨[], rfl⟩
  | cons v r ih =>
    obtain ⟨⟨w, hw⟩, hr⟩ := List.forall_mem_cons.1 h
    obtain ⟨ws, hws⟩ := ih hr
    refine ⟨w :: ws, ?_⟩
    rw [reread] at hw
    rw [treesOfItems, Tree.valuesOfItems, hw, hws]
    rfl

/-- A key finds in the members that were read again what it found before, read again. -/
theorem exists_members_reread {members : List (String × Value)}
    (hkeys : (members.map (·.1)).Nodup) (h : ∀ m ∈ members, ∃ w, m.2.reread = some w) :
    ∃ l, Tree.valuesOfMembers (treesOfMembers members) = some l ∧
      ∀ key, Entries.find? key l = (Entries.find? key members).bind reread := by
  induction members with
  | nil => exact ⟨[], rfl, fun _ => rfl⟩
  | cons m r ih =>
    obtain ⟨key, v⟩ := m
    obtain ⟨hnew, hrest⟩ := List.nodup_cons.1 hkeys
    obtain ⟨⟨w, hw⟩, hr⟩ := List.forall_mem_cons.1 h
    obtain ⟨l, hl, hfind⟩ := ih hrest hr
    have hnone : Entries.find? key l = none := by
      rw [hfind, Option.bind_eq_none_iff]
      intro u hu
      exact absurd (List.mem_map_of_mem (Entries.mem_of_find? hu)) hnew
    refine ⟨Entries.put key w l, ?_, fun k => ?_⟩
    · rw [reread] at hw
      rw [treesOfMembers, Tree.valuesOfMembers]
      simp [hw, hl, hnone]
    · rw [Entries.find?_put, Entries.find?]
      split
      · rw [Option.bind_some, hw]
      · exact hfind k

/-- **A value that can be held is read again.** -/
theorem Held.exists_reread {v : Value} (h : v.Held) : ∃ w, v.reread = some w := by
  induction h with
  | null | bool | text => exact ⟨_, rfl⟩
  | number h =>
    obtain ⟨n, hn⟩ := Option.isSome_iff_exists.1 h.read.2
    exact ⟨.number n, by rw [reread, tree, Tree.valueOf, hn]; rfl⟩
  | list _ ih =>
    obtain ⟨vs, hvs⟩ := exists_items_reread ih
    exact ⟨.list vs, by rw [reread, tree, Tree.valueOf, hvs]; rfl⟩
  | object hkeys _ ih =>
    obtain ⟨l, hl, -⟩ := exists_members_reread hkeys ih
    exact ⟨.object l, by rw [reread, tree, Tree.valueOf, hl]; rfl⟩

variable {v w : Value}

/-- **A key finds the value of that key, read again**, and nothing where it found nothing. -/
theorem Held.get?_reread (h : v.Held) (hw : v.reread = some w) (key : String) :
    w.get? key = (v.get? key).bind reread := by
  cases h with
  | null | bool | text =>
    cases hw
    rfl
  | number =>
    obtain ⟨_, -, rfl⟩ := Option.map_eq_some_iff.1 hw
    rfl
  | list =>
    obtain ⟨_, -, rfl⟩ := Option.map_eq_some_iff.1 hw
    rfl
  | object hkeys hmembers =>
    obtain ⟨l, hl, hfind⟩ := exists_members_reread hkeys fun m hm => (hmembers m hm).exists_reread
    obtain ⟨l', hl', rfl⟩ := Option.map_eq_some_iff.1 hw
    obtain rfl : l = l' := Option.some.inj (hl.symm.trans hl')
    exact hfind key

theorem text?_reread (hw : v.reread = some w) : w.text? = v.text? := by
  cases v with
  | null | bool | text =>
    cases hw
    rfl
  | number | list | object =>
    obtain ⟨_, -, rfl⟩ := Option.map_eq_some_iff.1 hw
    rfl

/-- **The text of a key is read again as it was.** -/
theorem Held.textAt?_reread (h : v.Held) (hw : v.reread = some w) (key : String) :
    w.textAt? [key] = v.textAt? [key] := by
  have hmember := h.get?_reread hw key
  unfold textAt? at? at?
  cases hfound : v.get? key with
  | none =>
    rw [hmember, hfound]
    rfl
  | some u =>
    obtain ⟨u', hu'⟩ := (h.get? hfound).exists_reread
    rw [hmember, hfound, Option.bind_some, hu']
    exact text?_reread hu'

/-- **A value is read from its text**, with spaces or without, if it is not too deep. -/
theorem Held.read?_text (h : v.Held) (hdeep : v.tree.nesting < 128) {body : String}
    (hbody : body ∈ [v.compact, v.pretty]) : read? body = v.reread := by
  have htree : Tree.read? body = some v.tree := by
    rcases List.mem_pair.1 hbody with rfl | rfl
    · exact read?_compact h.legible
    · exact read?_pretty h.legible
  unfold read?
  rw [htree, Option.bind_eq_bind, Option.bind_some, Tree.value?, Nat.add_zero, if_pos hdeep]
  rfl

/-- What was read from a text can be held, and is not too deep to be read again. -/
theorem held_of_read? {body : String} (h : read? body = some v) :
    v.Held ∧ v.tree.nesting < 128 := by
  obtain ⟨t, -, hvalue⟩ := Option.bind_eq_some_iff.1 h
  unfold Tree.value? at hvalue
  split at hvalue
  · rename_i hdeep
    obtain ⟨hheld, hnesting⟩ := Tree.held_of_valueOf t hvalue
    exact ⟨hheld, by omega⟩
  · cases hvalue

end Value

end RegistryStorage.Json
