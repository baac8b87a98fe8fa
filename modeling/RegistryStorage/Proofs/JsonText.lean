import RegistryStorage.Json.Writer

/-!
JSON, written and read.

A value is read back as the tree that says the same, whether it is written without a space
(`Value.read?_compact`) or over several lines (`Value.read?_pretty`). There are two halves. The
characters are cut into the tokens of the value (`Value.tokens_compactChars`,
`Value.tokens_prettyChars`), and these do not depend on how the value was laid out; the reader then
puts the tokens together (`Value.foldlM_words`). Each half is an induction over values, with one
statement for values, one for items and one for members.

A quoted text is read back whatever characters it holds. A number is read back if its numeral is one
that the grammar knows (`Numeral.Proper`), and only if no character follows that could belong to it;
what follows a value in a text never could (`Stops`).
-/

set_option autoImplicit false

namespace RegistryStorage.Json

/-! ## Quoted texts -/

/-- What a character of a text becomes between quotes: itself, or the code unit that its escape
names. -/
def pieceOf (c : Char) : Piece :=
  if c.toNat < 0x20 ∧ c ∉ ['\x08', '\x0C', '\n', '\r', '\t'] then .unit c.toNat else .char c

/-- The digits of an escape name its code unit. -/
theorem hexUnit?_of_lt {n : Nat} (h : n < 0x20) :
    hexUnit? '0' '0' (Nat.digitChar (n / 16)) (Nat.digitChar (n % 16)) = some n := by
  have hall : ∀ n < 0x20,
      hexUnit? '0' '0' (Nat.digitChar (n / 16)) (Nat.digitChar (n % 16)) = some n := by decide
  exact hall n h

/-- An escape of one letter stands for its character. -/
theorem pieces_escaped {c e : Char} (hc : escaped? c = some e) (s : List Char) :
    pieces ('\\' :: c :: s) = (pieces s).map fun (ps, r) => (.char e :: ps, r) := by
  rw [pieces.eq_4, hc]
  · cases pieces s <;> rfl
  · -- no letter stands for what four digits write
    rintro _ _ _ _ _ rfl
    cases hc

/-- **A character is read as it was written.** -/
theorem pieces_escapeChar (c : Char) (s : List Char) :
    pieces (escapeChar c ++ s) = (pieces s).map fun (ps, r) => (pieceOf c :: ps, r) := by
  unfold escapeChar
  split
  · exact pieces_escaped rfl s
  · exact pieces_escaped rfl s
  · exact pieces_escaped rfl s
  · exact pieces_escaped rfl s
  · exact pieces_escaped rfl s
  · exact pieces_escaped rfl s
  · exact pieces_escaped rfl s
  · rename_i hquote hbackslash hb hf hn hr ht
    have hother : c ∉ ['\x08', '\x0C', '\n', '\r', '\t'] := by
      simp only [List.mem_cons, List.not_mem_nil, or_false, not_or]
      exact ⟨hb, hf, hn, hr, ht⟩
    unfold pieceOf
    split
    · rename_i hlt
      rw [if_pos ⟨hlt, hother⟩]
      simp only [List.cons_append, List.nil_append]
      rw [pieces.eq_3, hexUnit?_of_lt hlt]
      cases pieces s <;> rfl
    · rename_i hge
      rw [if_neg fun h => hge h.1, List.singleton_append, pieces.eq_5, if_neg hge]
      · cases pieces s <;> rfl
      · exact hquote
      · exact fun _ _ _ _ _ h _ => hbackslash h
      · exact fun _ _ h _ => hbackslash h

/-- A code unit of a control character is a character by itself. -/
theorem joinPieces_unit {code : Nat} (h : code < 0x20) (ps : List Piece) :
    joinPieces (.unit code :: ps) = (Char.ofNat code :: ·) <$> joinPieces ps := by
  -- it is no half of a pair, so what comes next does not matter
  have hhigh : isHighUnit code = false := by
    unfold isHighUnit
    simp only [Bool.and_eq_false_iff, decide_eq_false_iff_not]
    omega
  have hlow : isLowUnit code = false := by
    unfold isLowUnit
    simp only [Bool.and_eq_false_iff, decide_eq_false_iff_not]
    omega
  rcases ps with _ | ⟨_ | low, r⟩
  · rw [joinPieces.eq_4 _ _ (by rintro _ _ ⟨⟩), hhigh, hlow]
    rfl
  · rw [joinPieces.eq_4 _ _ (by rintro _ _ ⟨⟩), hhigh, hlow]
    rfl
  · rw [joinPieces.eq_3, hhigh, hlow]
    rfl

theorem joinPieces_pieceOf (s : List Char) : joinPieces (s.map pieceOf) = some s := by
  induction s with
  | nil => rfl
  | cons c s ih =>
    rw [List.map_cons, pieceOf]
    split
    · rename_i h
      rw [joinPieces_unit h.1, ih, Char.ofNat_toNat]
      rfl
    · rw [joinPieces.eq_2, ih]
      rfl

theorem pieces_flatMap_escapeChar (s r : List Char) :
    pieces (s.flatMap escapeChar ++ '"' :: r) = some (s.map pieceOf, r) := by
  induction s with
  | nil => rfl
  | cons c s ih =>
    rw [List.flatMap_cons, List.append_assoc, pieces_escapeChar, ih]
    rfl

/-! ## Numerals -/

/-- A numeral of the grammar: some digit comes before the point, and no zero before another digit;
and an exponent has digits. -/
structure Numeral.Proper (n : Numeral) : Prop where
  whole : ∃ d ds, n.whole = d :: ds ∧ (d = 0 → ds = [])
  exponent : ∀ e, n.exponent = some e → e.2 ≠ []

/-- No character of a number comes first. -/
def Stops (s : List Char) : Prop :=
  ∀ c r, s = c :: r → digitOf? c = none ∧ c ≠ '.' ∧ c ≠ 'e' ∧ c ≠ 'E'

theorem stops_nil : Stops [] := nofun

theorem stops_cons {c : Char} {s : List Char}
    (h : digitOf? c = none ∧ c ≠ '.' ∧ c ≠ 'e' ∧ c ≠ 'E') : Stops (c :: s) := by
  rintro _ _ ⟨⟩
  exact h

theorem digitOf?_digitChar (d : Digit) : digitOf? (digitChar d) = some d := by
  revert d
  decide

/-- Digits are taken up to the first character that is none. -/
theorem takeDigits_map (ds : List Digit) {s : List Char}
    (hs : ∀ c r, s = c :: r → digitOf? c = none) :
    takeDigits (ds.map digitChar ++ s) = (ds, s) := by
  induction ds with
  | nil =>
    cases s with
    | nil => rfl
    | cons c r => simp [takeDigits, hs c r rfl]
  | cons d ds ih =>
    rw [List.map_cons, List.cons_append, takeDigits, digitOf?_digitChar]
    simp [ih]

theorem digitChar_ne_sign (d : Digit) : digitChar d ≠ '-' ∧ digitChar d ≠ '+' := by
  revert d
  decide

theorem readFraction_digits (ds : List Digit) {s : List Char} (hs : Stops s) (t : List Char)
    (ht : t = s ∨ ∃ r, t = 'e' :: r) :
    readFraction ((if ds.isEmpty then [] else '.' :: ds.map digitChar) ++ t) = some (ds, t) := by
  have hdigit : ∀ c r, t = c :: r → digitOf? c = none := by
    rintro c r rfl
    rcases ht with rfl | ⟨_, ⟨⟩⟩
    · exact (hs c r rfl).1
    · rfl
  cases ds with
  | nil =>
    have hpoint : ∀ r, t ≠ '.' :: r := by
      rintro r rfl
      rcases ht with rfl | ⟨_, ⟨⟩⟩
      exact (hs _ r rfl).2.1 rfl
    exact readFraction.eq_2 t hpoint
  | cons d ds =>
    have htaken := takeDigits_map (d :: ds) hdigit
    simp only [List.isEmpty_cons, Bool.false_eq_true, if_false, List.cons_append]
    rw [readFraction, htaken]

/-- A sign is read as it was written, and digits are no sign. -/
theorem readSign_digits (neg plus : Bool) (d : Digit) (ds : List Digit) (s : List Char) :
    readSign ((if neg then ['-'] else if plus then ['+'] else []) ++
      ((d :: ds).map digitChar ++ s)) = (neg, (d :: ds).map digitChar ++ s) := by
  obtain ⟨hminus, hplus⟩ := digitChar_ne_sign d
  cases neg with
  | true => rfl
  | false =>
    cases plus with
    | true => rfl
    | false =>
      refine readSign.eq_3 _ ?_ ?_
      · intro r h
        exact hminus (List.cons.inj h).1
      · intro r h
        exact hplus (List.cons.inj h).1

/-- An exponent, as it is written. -/
def exponentChars (plus : Bool) : Option (Bool × List Digit) → List Char
  | none => []
  | some (neg, ds) =>
    'e' :: (if neg then ['-'] else if plus then ['+'] else []) ++ ds.map digitChar

theorem readExponent_exponentChars (e : Option (Bool × List Digit)) (plus : Bool)
    (he : ∀ x, e = some x → x.2 ≠ []) {s : List Char} (hs : Stops s) :
    readExponent (exponentChars plus e ++ s) = some (e, s) := by
  match e with
  | none =>
    cases s with
    | nil => rfl
    | cons c r =>
      obtain ⟨-, -, hlower, hupper⟩ := hs c r rfl
      exact if_neg (not_or.2 ⟨hlower, hupper⟩)
  | some (neg, []) => exact absurd rfl (he (neg, []) rfl)
  | some (neg, d :: ds) =>
    have hsign := readSign_digits neg plus d ds s
    have htaken := takeDigits_map (d :: ds) fun c r hc => (hs c r hc).1
    simp only [exponentChars, List.cons_append, List.append_assoc] at hsign ⊢
    rw [readExponent, if_pos (Or.inl rfl), hsign]
    dsimp only
    rw [htaken]

/-- **A numeral is read as it was written**, if no character of a number follows. -/
theorem Numeral.read?_toChars {n : Numeral} (hn : n.Proper) (plus : Bool) {s : List Char}
    (hs : Stops s) : Numeral.read? (n.toChars plus ++ s) = some (n, s) := by
  obtain ⟨negative, whole, fraction, exponent⟩ := n
  obtain ⟨⟨d, ds, rfl, hzero⟩, hexponent⟩ := hn
  let power := exponentChars plus exponent
  let point : List Char := if fraction.isEmpty then [] else '.' :: fraction.map digitChar
  let body : List Char := (d :: ds).map digitChar ++ (point ++ (power ++ s))
  have hchars : Numeral.toChars ⟨negative, d :: ds, fraction, exponent⟩ plus ++ s =
      (if negative then ['-'] else []) ++ body := by
    simp only [Numeral.toChars, List.append_assoc, body, point, power]
    rfl
  -- what follows the fraction is the exponent, if there is one
  have hpower : power ++ s = s ∨ ∃ r, power ++ s = 'e' :: r := by
    rcases exponent with _ | ⟨neg, es⟩
    · exact Or.inl rfl
    · exact Or.inr ⟨_, rfl⟩
  have hrest : ∀ c r, point ++ (power ++ s) = c :: r → digitOf? c = none := by
    intro c r h
    cases fraction with
    | nil =>
      rcases hpower with hpower | ⟨t, hpower⟩
      · exact (hs c r (hpower.symm.trans h)).1
      · obtain ⟨rfl, -⟩ := List.cons.inj (hpower.symm.trans h)
        rfl
    | cons f fs =>
      obtain ⟨rfl, -⟩ := List.cons.inj h
      rfl
  have htaken : takeDigits body = (d :: ds, point ++ (power ++ s)) := takeDigits_map _ hrest
  have hfraction : readFraction (point ++ (power ++ s)) = some (fraction, power ++ s) :=
    readFraction_digits fraction hs _ hpower
  have hread : readExponent (power ++ s) = some (exponent, s) :=
    readExponent_exponentChars exponent plus hexponent hs
  have hleading : ¬(d = 0 ∧ ds ≠ []) := fun h => h.2 (hzero h.1)
  rw [hchars]
  unfold Numeral.read?
  split
  rename_i neg r hsign
  have hbody : (neg, r) = (negative, body) := by
    rw [← hsign]
    cases negative with
    | true => rfl
    | false =>
      split
      · rename_i h
        exact absurd (List.cons.inj h).1 (digitChar_ne_sign d).1
      · rfl
  obtain ⟨rfl, rfl⟩ := Prod.mk.inj hbody
  rw [htaken]
  simp only [if_neg hleading, hfraction, hread, Option.bind_eq_bind, Option.bind_some]

/-! ## Tokens -/

theorem tokens_space {c : Char} (h : isSpace c = true) (s : List Char) :
    tokens (c :: s) = tokens s := by
  rw [tokens, if_pos h]

theorem tokens_newLine (depth : Nat) (s : List Char) :
    tokens (Value.newLine depth ++ s) = tokens s := by
  have hspaces : ∀ k, tokens (List.replicate k ' ' ++ s) = tokens s := by
    intro k
    induction k with
    | zero => rfl
    | succ k ih =>
      rw [List.replicate_succ, List.cons_append, tokens_space rfl, ih]
  rw [Value.newLine, List.cons_append, tokens_space rfl, hspaces]

/-- A token is followed by the tokens of what is left. -/
theorem tokens_cons {c : Char} {s r : List Char} {t : Token} (hc : isSpace c = false)
    (h : nextToken (c :: s) = some (t, r)) : tokens (c :: s) = (tokens r).map (t :: ·) := by
  rw [tokens, hc, if_neg Bool.false_ne_true]
  split
  · rename_i hnone
    rw [h] at hnone
    cases hnone
  · rename_i hsome
    rw [h] at hsome
    cases hsome
    rfl

/-- The tokens of one character. -/
def marks : List (Token × Char) :=
  [(.openObject, '{'), (.closeObject, '}'), (.openList, '['), (.closeList, ']'), (.colon, ':'),
    (.comma, ',')]

theorem tokens_mark (t : Token) (c : Char) (h : (t, c) ∈ marks) (s : List Char) :
    tokens (c :: s) = (tokens s).map (t :: ·) := by
  simp only [marks, List.mem_cons, List.not_mem_nil, or_false, Prod.mk.injEq] at h
  rcases h with ⟨rfl, rfl⟩ | ⟨rfl, rfl⟩ | ⟨rfl, rfl⟩ | ⟨rfl, rfl⟩ | ⟨rfl, rfl⟩ | ⟨rfl, rfl⟩
  all_goals exact tokens_cons rfl rfl

/-- **A quoted text is one token**, with the text itself as its value. -/
theorem tokens_quote (t : String) (s : List Char) :
    tokens (quote t ++ s) = (tokens s).map (.text (some t) :: ·) := by
  have hnext : nextToken ('"' :: (t.toList.flatMap escapeChar ++ '"' :: s)) =
      some (.text (some t), s) := by
    rw [nextToken.eq_10, pieces_flatMap_escapeChar]
    dsimp only [Option.map_some]
    rw [joinPieces_pieceOf, Option.map_some, String.ofList_toList]
  have hquote : quote t ++ s = '"' :: (t.toList.flatMap escapeChar ++ '"' :: s) := by
    simp [quote]
  rw [hquote, tokens_cons rfl hnext]

/-- The characters with which a token begins that is no number. -/
def otherStarts : List Char := ['{', '}', '[', ']', ':', ',', 'n', 't', 'f', '"']

theorem nextToken_number {c : Char} (hc : c ∉ otherStarts) (s : List Char) :
    nextToken (c :: s) = (Numeral.read? (c :: s)).map fun (n, r) => (.number n, r) := by
  have hne : ∀ d ∈ otherStarts, ∀ r, c :: s = d :: r → False := by
    rintro d hd r h
    exact hc ((List.cons.inj h).1 ▸ hd)
  rw [nextToken.eq_11]
  all_goals exact fun r => hne _ (by decide) _

/-- **A numeral is one token**, if no character of a number follows. -/
theorem tokens_toChars {n : Numeral} (hn : n.Proper) {s : List Char} (hs : Stops s) :
    tokens (n.toChars ++ s) = (tokens s).map (.number n :: ·) := by
  obtain ⟨c, r, hchars, hspace, hstart⟩ : ∃ c r, n.toChars ++ s = c :: r ∧ isSpace c = false ∧
      c ∉ otherStarts := by
    have hdigit : ∀ d : Digit, isSpace (digitChar d) = false ∧ digitChar d ∉ otherStarts := by
      decide
    obtain ⟨d, ds, hwhole, -⟩ := hn.whole
    unfold Numeral.toChars
    rw [hwhole]
    cases n.negative with
    | true => exact ⟨'-', _, rfl, by decide, by decide⟩
    | false => exact ⟨digitChar d, _, rfl, hdigit d⟩
  have hread := Numeral.read?_toChars hn true hs
  rw [hchars] at hread ⊢
  have hnext : nextToken (c :: r) = some (.number n, s) := by
    rw [nextToken_number hstart, hread]
    rfl
  exact tokens_cons hspace hnext

/-! ## The tokens of a value -/

namespace Value

mutual
/-- The tokens of a value. -/
def words : Value → List Token
  | .null => [.null]
  | .bool b => [.bool b]
  | .number n => [.number n.numeral]
  | .text s => [.text (some s)]
  | .list items => .openList :: (wordsOfItems items ++ [.closeList])
  | .object members => .openObject :: (wordsOfMembers members ++ [.closeObject])

/-- The tokens of items. -/
def wordsOfItems : List Value → List Token
  | [] => []
  | [v] => v.words
  | v :: r => v.words ++ .comma :: wordsOfItems r

/-- The tokens of members. -/
def wordsOfMembers : List (String × Value) → List Token
  | [] => []
  | [(key, v)] => .text (some key) :: .colon :: v.words
  | (key, v) :: r => .text (some key) :: .colon :: (v.words ++ .comma :: wordsOfMembers r)
end

/-- All numbers among some tokens are written as the grammar knows them. -/
def Legible (ts : List Token) : Prop := ∀ n, .number n ∈ ts → n.Proper

theorem Legible.left {ts us : List Token} (h : Legible (ts ++ us)) : Legible ts := fun n hn =>
  h n (List.mem_append_left us hn)

theorem Legible.right {ts us : List Token} (h : Legible (ts ++ us)) : Legible us := fun n hn =>
  h n (List.mem_append_right ts hn)

theorem Legible.tail {t : Token} {ts : List Token} (h : Legible (t :: ts)) : Legible ts :=
  fun n hn => h n (List.mem_cons_of_mem t hn)

theorem number_mem_wordsOfItems {n : Numeral} {items : List Value}
    (h : .number n ∈ wordsOfItems items) : ∃ v ∈ items, .number n ∈ v.words := by
  induction items with
  | nil => cases h
  | cons v r ih =>
    cases r with
    | nil => exact ⟨v, List.mem_cons_self, h⟩
    | cons w r =>
      rw [wordsOfItems.eq_3 v (w :: r) nofun] at h
      rcases List.mem_append.1 h with h | h
      · exact ⟨v, List.mem_cons_self, h⟩
      · obtain ⟨u, hu, hwords⟩ := ih ((List.mem_cons.1 h).resolve_left nofun)
        exact ⟨u, List.mem_cons_of_mem v hu, hwords⟩

theorem number_mem_wordsOfMembers {n : Numeral} {members : List (String × Value)}
    (h : .number n ∈ wordsOfMembers members) : ∃ m ∈ members, .number n ∈ m.2.words := by
  induction members with
  | nil => cases h
  | cons m r ih =>
    obtain ⟨key, v⟩ := m
    have hvalue {ts : List Token} (h : .number n ∈ .text (some key) :: .colon :: ts) :
        .number n ∈ ts := by
      simpa using h
    cases r with
    | nil => exact ⟨(key, v), List.mem_cons_self, hvalue h⟩
    | cons w r =>
      rw [wordsOfMembers.eq_3 key v (w :: r) nofun] at h
      rcases List.mem_append.1 (hvalue h) with h | h
      · exact ⟨(key, v), List.mem_cons_self, h⟩
      · obtain ⟨u, hu, hwords⟩ := ih ((List.mem_cons.1 h).resolve_left nofun)
        exact ⟨u, List.mem_cons_of_mem (key, v) hu, hwords⟩

theorem legible_text (s : String) : Legible (text s).words := by
  intro n hn
  simp [words] at hn

theorem legible_list {items : List Value} (h : ∀ v ∈ items, Legible v.words) :
    Legible (list items).words := by
  intro n hn
  have hitems : .number n ∈ wordsOfItems items := by
    simpa [words] using hn
  obtain ⟨v, hv, hwords⟩ := number_mem_wordsOfItems hitems
  exact h v hv n hwords

theorem legible_object {members : List (String × Value)} (h : ∀ m ∈ members, Legible m.2.words) :
    Legible (object members).words := by
  intro n hn
  have hmembers : .number n ∈ wordsOfMembers members := by
    simpa [words] using hn
  obtain ⟨m, hm, hwords⟩ := number_mem_wordsOfMembers hmembers
  exact h m hm n hwords

theorem stops_newLine (depth : Nat) (s : List Char) : Stops (newLine depth ++ s) :=
  stops_cons (by decide)

theorem tokens_scalarChars {v : Value} {s : List Char} (hs : Stops s) (hv : Legible v.words)
    (hlist : ∀ items, v ≠ .list items) (hobject : ∀ members, v ≠ .object members) :
    tokens (v.scalarChars ++ s) = (tokens s).map (v.words ++ ·) := by
  cases v with
  | null => exact tokens_cons rfl rfl
  | bool b => cases b <;> exact tokens_cons rfl rfl
  | number n => exact tokens_toChars (hv _ List.mem_cons_self) hs
  | text t => exact tokens_quote t s
  | list items => exact absurd rfl (hlist items)
  | object members => exact absurd rfl (hobject members)

mutual
/-- **A value is cut into its tokens**, also if no space is written. -/
theorem tokens_compactChars {s : List Char} (hs : Stops s) :
    (v : Value) → Legible v.words → tokens (v.compactChars ++ s) = (tokens s).map (v.words ++ ·)
  | .list items, hv => by
    -- the items are followed by a bracket, which belongs to no number
    have hclose : Stops (']' :: s) := stops_cons (by decide)
    have hparts := tokens_compactItems hclose items (Legible.left hv.tail)
    simp only [compactChars, List.cons_append, List.append_assoc, List.nil_append]
    rw [tokens_mark .openList '[' (by decide), hparts, tokens_mark .closeList ']' (by decide)]
    simp [words, Function.comp_def]
  | .object members, hv => by
    have hclose : Stops ('}' :: s) := stops_cons (by decide)
    have hparts := tokens_compactMembers hclose members (Legible.left hv.tail)
    simp only [compactChars, List.cons_append, List.append_assoc, List.nil_append]
    rw [tokens_mark .openObject '{' (by decide), hparts, tokens_mark .closeObject '}' (by decide)]
    simp [words, Function.comp_def]
  | .null, hv | .bool _, hv | .number _, hv | .text _, hv =>
    tokens_scalarChars hs hv nofun nofun

theorem tokens_compactItems {s : List Char} (hs : Stops s) :
    (items : List Value) → Legible (wordsOfItems items) →
      tokens (compactItems items ++ s) = (tokens s).map (wordsOfItems items ++ ·)
  | [], _ => Option.map_id'.symm
  | [v], hv => tokens_compactChars hs v hv
  | v :: w :: r, hv => by
    -- the comma ends the number that may stand before it
    have hcomma : Stops (',' :: (compactItems (w :: r) ++ s)) := stops_cons (by decide)
    have hrest := tokens_compactItems hs (w :: r) (Legible.tail (Legible.right hv))
    rw [compactItems.eq_3 v (w :: r) nofun]
    simp only [List.cons_append, List.append_assoc]
    rw [tokens_compactChars hcomma v (Legible.left hv), tokens_mark .comma ',' (by decide), hrest]
    simp [wordsOfItems, Function.comp_def]

theorem tokens_compactMembers {s : List Char} (hs : Stops s) :
    (members : List (String × Value)) → Legible (wordsOfMembers members) →
      tokens (compactMembers members ++ s) = (tokens s).map (wordsOfMembers members ++ ·)
  | [], _ => Option.map_id'.symm
  | [(key, v)], hv => by
    have hvalue := tokens_compactChars hs v hv.tail.tail
    simp only [compactMembers, List.cons_append, List.append_assoc]
    rw [tokens_quote, tokens_mark .colon ':' (by decide), hvalue]
    simp [wordsOfMembers, Function.comp_def]
  | (key, v) :: m :: r, hv => by
    have hcomma : Stops (',' :: (compactMembers (m :: r) ++ s)) := stops_cons (by decide)
    have hvalue := tokens_compactChars hcomma v (Legible.left hv.tail.tail)
    have hrest := tokens_compactMembers hs (m :: r) (Legible.right hv.tail.tail).tail
    rw [compactMembers.eq_3 key v (m :: r) nofun]
    simp only [List.cons_append, List.append_assoc]
    rw [tokens_quote, tokens_mark .colon ':' (by decide), hvalue,
      tokens_mark .comma ',' (by decide), hrest]
    simp [wordsOfMembers, Function.comp_def]
end

mutual
/-- **A value is cut into its tokens**, if no character of a number follows. -/
theorem tokens_prettyChars (depth : Nat) {s : List Char} (hs : Stops s) :
    (v : Value) → Legible v.words →
      tokens (v.prettyChars depth ++ s) = (tokens s).map (v.words ++ ·)
  | .list [], _ => by
    show tokens ('[' :: ']' :: s) = _
    rw [tokens_mark .openList '[' (by decide), tokens_mark .closeList ']' (by decide),
      Option.map_map]
    rfl
  | .list (v :: r), hv => by
    -- the items are followed by a new line, which belongs to no number
    have hparts := tokens_prettyItems (depth + 1) (stops_newLine depth (']' :: s)) (v :: r)
      (Legible.left hv.tail)
    rw [prettyChars.eq_3 depth (v :: r) nofun]
    simp only [List.cons_append, List.append_assoc, List.nil_append]
    rw [tokens_mark .openList '[' (by decide), hparts, tokens_newLine,
      tokens_mark .closeList ']' (by decide)]
    simp [words, Function.comp_def]
  | .object [], _ => by
    show tokens ('{' :: '}' :: s) = _
    rw [tokens_mark .openObject '{' (by decide), tokens_mark .closeObject '}' (by decide),
      Option.map_map]
    rfl
  | .object (m :: r), hv => by
    have hparts := tokens_prettyMembers (depth + 1) (stops_newLine depth ('}' :: s)) (m :: r)
      (Legible.left hv.tail)
    rw [prettyChars.eq_4 depth (m :: r) nofun]
    simp only [List.cons_append, List.append_assoc, List.nil_append]
    rw [tokens_mark .openObject '{' (by decide), hparts, tokens_newLine,
      tokens_mark .closeObject '}' (by decide)]
    simp [words, Function.comp_def]
  | .null, hv | .bool _, hv | .number _, hv | .text _, hv =>
    tokens_scalarChars hs hv nofun nofun

theorem tokens_prettyItems (depth : Nat) {s : List Char} (hs : Stops s) :
    (items : List Value) → Legible (wordsOfItems items) →
      tokens (prettyItems depth items ++ s) = (tokens s).map (wordsOfItems items ++ ·)
  | [], _ => Option.map_id'.symm
  | [v], hv => by
    show tokens (newLine depth ++ v.prettyChars depth ++ s) = (tokens s).map (v.words ++ ·)
    rw [List.append_assoc, tokens_newLine, tokens_prettyChars depth hs v hv]
  | v :: w :: r, hv => by
    -- the comma ends the number that may stand before it
    have hcomma : Stops (',' :: (prettyItems depth (w :: r) ++ s)) := stops_cons (by decide)
    have hrest := tokens_prettyItems depth hs (w :: r) (Legible.tail (Legible.right hv))
    rw [prettyItems.eq_3 depth v (w :: r) nofun]
    simp only [List.cons_append, List.append_assoc]
    rw [tokens_newLine, tokens_prettyChars depth hcomma v (Legible.left hv),
      tokens_mark .comma ',' (by decide), hrest]
    simp [wordsOfItems, Function.comp_def]

theorem tokens_prettyMembers (depth : Nat) {s : List Char} (hs : Stops s) :
    (members : List (String × Value)) → Legible (wordsOfMembers members) →
      tokens (prettyMembers depth members ++ s) = (tokens s).map (wordsOfMembers members ++ ·)
  | [], _ => Option.map_id'.symm
  | [(key, v)], hv => by
    have hvalue := tokens_prettyChars depth hs v hv.tail.tail
    simp only [prettyMembers, List.cons_append, List.append_assoc]
    rw [tokens_newLine, tokens_quote, tokens_mark .colon ':' (by decide), tokens_space rfl, hvalue]
    simp [wordsOfMembers, Function.comp_def]
  | (key, v) :: m :: r, hv => by
    have hcomma : Stops (',' :: (prettyMembers depth (m :: r) ++ s)) := stops_cons (by decide)
    have hvalue := tokens_prettyChars depth hcomma v (Legible.left hv.tail.tail)
    have hrest := tokens_prettyMembers depth hs (m :: r) (Legible.right hv.tail.tail).tail
    rw [prettyMembers.eq_3 depth key v (m :: r) nofun]
    simp only [List.cons_append, List.append_assoc]
    rw [tokens_newLine, tokens_quote, tokens_mark .colon ':' (by decide), tokens_space rfl, hvalue,
      tokens_mark .comma ',' (by decide), hrest]
    simp [wordsOfMembers, Function.comp_def]
end

/-! ## The tree of a value -/

/-- At the start of a list the first item begins as any other one does. -/
theorem foldlM_items_firstItem (v : Value) (r : List Value) (stack : List Frame)
    (ts : List Token) :
    (wordsOfItems (v :: r) ++ ts).foldlM Reading.step (.firstItem stack) =
      (wordsOfItems (v :: r) ++ ts).foldlM Reading.step (.value (.items [] :: stack)) := by
  have hfirst : v.words.foldlM Reading.step (.firstItem stack) =
      v.words.foldlM Reading.step (.value (.items [] :: stack)) := by
    cases v with
    | null | bool | number | text | list | object => rfl
  cases r with
  | nil => rw [wordsOfItems, List.foldlM_append, List.foldlM_append, hfirst]
  | cons w r =>
    rw [wordsOfItems.eq_3 v (w :: r) nofun, List.append_assoc, List.foldlM_append,
      List.foldlM_append, hfirst]

/-- At the start of an object the first key begins as any other one does. -/
theorem foldlM_members_firstKey (m : String × Value) (r : List (String × Value))
    (stack : List Frame) (ts : List Token) :
    (wordsOfMembers (m :: r) ++ ts).foldlM Reading.step (.firstKey stack) =
      (wordsOfMembers (m :: r) ++ ts).foldlM Reading.step (.nextKey [] stack) := by
  cases r <;> rfl

mutual
/-- **The tokens of a value are put together to its tree.** -/
theorem foldlM_words : (v : Value) → (stack : List Frame) →
    v.words.foldlM Reading.step (.value stack) = some (Reading.deliver v.tree stack)
  | .null, _ | .bool _, _ | .number _, _ | .text _, _ => rfl
  | .list [], _ => rfl
  | .list (v :: r), stack => by
    show (wordsOfItems (v :: r) ++ [Token.closeList]).foldlM Reading.step (.firstItem stack) = _
    rw [foldlM_items_firstItem, foldlM_items (v :: r) nofun [] stack]
    rfl
  | .object [], _ => rfl
  | .object (m :: r), stack => by
    show (wordsOfMembers (m :: r) ++ [Token.closeObject]).foldlM Reading.step (.firstKey stack) = _
    rw [foldlM_members_firstKey, foldlM_members (m :: r) nofun [] stack]
    rfl

theorem foldlM_items : (items : List Value) → items ≠ [] → (done : List Tree) →
    (stack : List Frame) →
    (wordsOfItems items ++ [Token.closeList]).foldlM Reading.step (.value (.items done :: stack)) =
      some (Reading.deliver (.list (done.reverse ++ treesOfItems items)) stack)
  | [], hne, _, _ => absurd rfl hne
  | [v], _, done, stack => by
    rw [wordsOfItems, List.foldlM_append, foldlM_words v]
    show some (Reading.deliver (.list (v.tree :: done).reverse) stack) = _
    rw [List.reverse_cons]
    rfl
  | v :: w :: r, _, done, stack => by
    -- what is done is kept last first, so the next item goes in front of it
    have hrest := foldlM_items (w :: r) nofun (v.tree :: done) stack
    rw [wordsOfItems.eq_3 v (w :: r) nofun, List.append_assoc, List.foldlM_append, foldlM_words v]
    refine hrest.trans ?_
    rw [List.reverse_cons, List.append_assoc]
    rfl

theorem foldlM_members : (members : List (String × Value)) → members ≠ [] →
    (done : List (Option String × Tree)) → (stack : List Frame) →
    (wordsOfMembers members ++ [Token.closeObject]).foldlM Reading.step (.nextKey done stack) =
      some (Reading.deliver (.object (done.reverse ++ treesOfMembers members)) stack)
  | [], hne, _, _ => absurd rfl hne
  | [(key, v)], _, done, stack => by
    show (v.words ++ [Token.closeObject]).foldlM Reading.step
      (.value (.members done (some key) :: stack)) = _
    rw [List.foldlM_append, foldlM_words v]
    show some (Reading.deliver (.object ((some key, v.tree) :: done).reverse) stack) = _
    rw [List.reverse_cons]
    rfl
  | (key, v) :: n :: r, _, done, stack => by
    have hrest := foldlM_members (n :: r) nofun ((some key, v.tree) :: done) stack
    rw [wordsOfMembers.eq_3 key v (n :: r) nofun]
    show (v.words ++ .comma :: wordsOfMembers (n :: r) ++ [Token.closeObject]).foldlM Reading.step
      (.value (.members done (some key) :: stack)) = _
    rw [List.append_assoc, List.foldlM_append, foldlM_words v]
    refine hrest.trans ?_
    rw [List.reverse_cons, List.append_assoc]
    rfl
end

/-- A text that is cut into the tokens of a value is read as its tree. -/
theorem read?_of_tokens {v : Value} {chars : List Char}
    (h : tokens (chars ++ []) = (tokens []).map (v.words ++ ·)) :
    Tree.read? (String.ofList chars) = some v.tree := by
  have htokens : tokens chars = some v.words := by
    rw [List.append_nil] at h
    rw [h, tokens]
    simp
  -- no list or object is open around the value
  have htree : Tree.ofTokens? v.words = some v.tree := by
    unfold Tree.ofTokens?
    rw [foldlM_words v []]
    rfl
  unfold Tree.read?
  rw [String.toList_ofList, htokens]
  exact htree

/-- **A value that was written without a space is read back**: as the tree that says the same. -/
theorem read?_compact {v : Value} (hv : Legible v.words) : Tree.read? v.compact = some v.tree :=
  read?_of_tokens (tokens_compactChars stops_nil v hv)

/-- **A value that was written over several lines is read back**: as the tree that says the same. -/
theorem read?_pretty {v : Value} (hv : Legible v.words) : Tree.read? v.pretty = some v.tree :=
  read?_of_tokens (tokens_prettyChars 0 stops_nil v hv)

end Value

end RegistryStorage.Json
