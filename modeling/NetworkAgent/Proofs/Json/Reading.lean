import NetworkAgent.Proofs.Json.Grammar

/-! # Reading strings and numbers

The readers of strings and numbers accept what the grammar says, and hand back what follows it.

* `pieces_eq_some_iff` — a string is read piece by piece; **`decode_eq_some_iff`** — its pieces are decoded if and only
  if they stand for a text.
* `readDigits_eq_some_iff`, `readWhole_eq_some_iff` — digits are read as far as they go: `Stops` says of a text that it
  does not go on with a character of a class.
* **`exists_of_skipNumber`** and **`skipNumber_append`** — only numbers are skipped, and all of them to their end.
* `IsWhole.toDigits`, `isWhole_toDigits` — the whole numbers are the numerals. -/

namespace NetworkAgent.Json

/-! ## Blanks -/

/-- An empty text is blank. -/
theorem blank_nil : Blank [] := List.forall_mem_nil _

/-- Blanks are skipped. -/
theorem skipBlanks_append {b : List Char} (hb : Blank b) (s : List Char) : skipBlanks (b ++ s) = skipBlanks s :=
  List.dropWhile_append_of_pos hb

/-- Nothing else is. -/
theorem skipBlanks_cons {c : Char} (hc : isBlank c = false) (s : List Char) : skipBlanks (c :: s) = c :: s :=
  List.dropWhile_cons_of_neg (by simp [hc])

/-- What is skipped are blanks. -/
theorem exists_blank_append (s : List Char) : ∃ b, Blank b ∧ s = b ++ skipBlanks s := by
  refine ⟨s.takeWhile isBlank, fun c hc => ?_, List.takeWhile_append_dropWhile.symm⟩
  exact List.all_eq_true.1 List.all_takeWhile c hc

/-- What follows the blanks is read as it is. -/
theorem skipBlanks_skipBlanks (s : List Char) : skipBlanks (skipBlanks s) = skipBlanks s := by
  obtain ⟨b, hb, hs⟩ := exists_blank_append s
  have hall := skipBlanks_append hb (skipBlanks s)
  rw [← hs] at hall
  exact hall.symm

/-- What reads the same without the blanks in front of a text does not depend on them. -/
theorem read_blank_append {α : Type} {read : List Char → α} (h : ∀ s, read (skipBlanks s) = read s) {b : List Char}
    (hb : Blank b) (s : List Char) : read (b ++ s) = read s := by
  rw [← h, skipBlanks_append hb, h]

/-! ## Strings -/

/-- A plain character is neither a quote nor a backslash. -/
theorem ne_of_isPlain {c : Char} (h : isPlain c = true) : c ≠ '"' ∧ c ≠ '\\' := by
  simp only [isPlain, Bool.and_eq_true, bne_iff_ne, decide_eq_true_eq] at h
  exact h.1

/-- A character that starts no escape ends the string or stands for itself. -/
theorem pieces_cons {c : Char} (hc : c ≠ '\\') (s : List Char) :
    pieces (c :: s)
      = if c = '"' then some ([], s) else if isPlain c = true then consPiece (.char c) (pieces s) else none := by
  rw [pieces.eq_def]
  simp only [if_neg hc]

/-- **A string is read up to its closing quote**, piece by piece. -/
theorem pieces_append {inside : List Char} {ps : List Piece} (h : Spelled inside ps) (rest : List Char) :
    pieces (inside ++ '"' :: rest) = some (ps, rest) := by
  induction h with
  | nil => rw [List.nil_append, pieces_cons (by decide), if_pos rfl]
  | @plain c s ps hc _ ih =>
      obtain ⟨hquote, hback⟩ := ne_of_isPlain hc
      rw [List.cons_append, pieces_cons hback, if_neg hquote, if_pos hc, ih]
      rfl
  | @short e c s ps he _ ih =>
      -- an escape of four digits begins as no other does
      have hu : e ≠ 'u' := by
        rintro rfl
        cases he
      rw [List.cons_append, List.cons_append, pieces.eq_3 _ _ _ fun _ _ _ _ _ h => absurd h hu, if_neg (by decide),
        if_pos rfl, he]
      simp only [ih]
      rfl
  | @unit a b c d n s ps hn _ ih =>
      simp only [List.cons_append]
      rw [pieces.eq_2, if_neg (by decide), if_pos rfl, hn]
      simp only [ih]
      rfl

/-- A piece is read in front of the others. -/
theorem consPiece_eq_some_iff {p : Piece} {read : Option (List Piece × List Char)} {ps : List Piece}
    {rest : List Char} : consPiece p read = some (ps, rest) ↔ ∃ qs, ps = p :: qs ∧ read = some (qs, rest) := by
  cases read with
  | none => exact iff_of_false nofun fun ⟨_, _, h⟩ => nomatch h
  | some q =>
      constructor
      · intro h
        cases h
        exact ⟨q.1, rfl, rfl⟩
      · rintro ⟨qs, rfl, h⟩
        cases h
        rfl

/-- What is read was written so. -/
theorem exists_of_pieces {s rest : List Char} {ps : List Piece} (h : pieces s = some (ps, rest)) :
    ∃ inside, Spelled inside ps ∧ s = inside ++ '"' :: rest := by
  fun_induction pieces s generalizing ps with
  | case1 => cases h
  | case2 r =>
      cases h
      exact ⟨[], .nil, rfl⟩
  | case3 a b c d r n hn _ ih =>
      obtain ⟨qs, rfl, hread⟩ := consPiece_eq_some_iff.1 h
      obtain ⟨inside, hs, rfl⟩ := ih hread
      exact ⟨_, .unit hn hs, rfl⟩
  | case4 => cases h
  | case5 e r _ x hx _ ih =>
      obtain ⟨qs, rfl, hread⟩ := consPiece_eq_some_iff.1 h
      obtain ⟨inside, hs, rfl⟩ := ih hread
      exact ⟨_, .short hx hs, rfl⟩
  | case6 => cases h
  | case7 => cases h
  | case8 c r _ _ hc ih =>
      obtain ⟨qs, rfl, hread⟩ := consPiece_eq_some_iff.1 h
      obtain ⟨inside, hs, rfl⟩ := ih hread
      exact ⟨_, .plain hc hs, rfl⟩
  | case9 => cases h

/-- **The reader of strings reads what is spelled.** -/
theorem pieces_eq_some_iff {s rest : List Char} {ps : List Piece} :
    pieces s = some (ps, rest) ↔ ∃ inside, Spelled inside ps ∧ s = inside ++ '"' :: rest := by
  refine ⟨exists_of_pieces, ?_⟩
  rintro ⟨inside, h, rfl⟩
  exact pieces_append h rest

/-- Strings are skipped as they are read. -/
theorem skipString_eq_some_iff {s rest : List Char} :
    skipString s = some rest ↔ ∃ inside ps, Spelled inside ps ∧ s = inside ++ '"' :: rest := by
  rw [skipString, Option.map_eq_some_iff]
  constructor
  · rintro ⟨⟨ps, r⟩, h, rfl⟩
    obtain ⟨inside, hs, rfl⟩ := pieces_eq_some_iff.1 h
    exact ⟨inside, ps, hs, rfl⟩
  · rintro ⟨inside, ps, hs, rfl⟩
    exact ⟨(ps, rest), pieces_append hs rest, rfl⟩

/-! ## Decoding -/

/-- A number that is written with four digits. -/
def Piece.Short : Piece → Prop
  | .char _ => True
  | .unit n => n < 0x10000

/-- A hexadecimal digit is worth less than sixteen. -/
theorem digit?_lt {c : Char} {k : Nat} (h : Hex.digit? c = some k) : k < 16 := by
  have hle {x y : Char} : x ≤ y ↔ x.toNat ≤ y.toNat := Iff.rfl
  simp only [Hex.digit?, hle, Char.reduceToNat] at h
  split at h
  · cases h
    omega
  · split at h
    · cases h
      omega
    · split at h <;> cases h
      omega

/-- Four hexadecimal digits spell a number of sixteen bits. -/
theorem hex4_lt {a b c d : Char} {n : Nat} (h : hex4? a b c d = some n) : n < 0x10000 := by
  simp only [hex4?, Hex.toNat?, List.foldlM_cons, List.foldlM_nil, Option.bind_eq_bind, Option.bind_eq_some_iff,
    Option.map_eq_some_iff] at h
  obtain ⟨_, ⟨p, hp, rfl⟩, _, ⟨q, hq, rfl⟩, _, ⟨r, hr, rfl⟩, _, ⟨s, hs, rfl⟩, h⟩ := h
  cases h
  have hfirst : p < 16 := digit?_lt hp
  have hsecond : q < 16 := digit?_lt hq
  have hthird : r < 16 := digit?_lt hr
  have hfourth : s < 16 := digit?_lt hs
  omega

/-- The pieces of a string are short. -/
theorem Spelled.short_of_mem {inside : List Char} {ps : List Piece} (h : Spelled inside ps) : ∀ p ∈ ps, p.Short := by
  induction h with
  | nil => exact fun _ => nofun
  | plain _ _ ih => exact List.forall_mem_cons.2 ⟨trivial, ih⟩
  | short _ _ ih => exact List.forall_mem_cons.2 ⟨trivial, ih⟩
  | unit hn _ ih => exact List.forall_mem_cons.2 ⟨hex4_lt hn, ih⟩

/-- A number that is a code point is that of its character. -/
theorem toNat_ofNat {n : Nat} (h : n.isValidChar) : (Char.ofNat n).toNat = n := by
  rw [Char.ofNat, dif_pos h]
  rfl

/-- The range of first halves. -/
theorem isHighSurrogate_iff {n : Nat} : isHighSurrogate n = true ↔ 0xD800 ≤ n ∧ n ≤ 0xDBFF := by
  simp only [isHighSurrogate, Bool.and_eq_true, decide_eq_true_eq]

/-- The range of second halves. -/
theorem isLowSurrogate_iff {n : Nat} : isLowSurrogate n = true ↔ 0xDC00 ≤ n ∧ n ≤ 0xDFFF := by
  simp only [isLowSurrogate, Bool.and_eq_true, decide_eq_true_eq]

/-- The number of a code point is no surrogate. -/
theorem not_surrogate_toNat (c : Char) : isHighSurrogate c.toNat = false ∧ isLowSurrogate c.toNat = false := by
  have hvalid : c.toNat < 0xD800 ∨ (0xDFFF < c.toNat ∧ c.toNat < 0x110000) := c.valid
  constructor
  · rw [← Bool.not_eq_true, isHighSurrogate_iff]
    omega
  · rw [← Bool.not_eq_true, isLowSurrogate_iff]
    omega

/-- Pieces that are decoded stand for the text. -/
theorem spells_of_decode {ps : List Piece} {text : List Char} (h : decode ps = some text)
    (hps : ∀ p ∈ ps, p.Short) : Spells ps text := by
  fun_induction decode ps generalizing text with
  | case1 =>
      cases h
      exact .nil
  | case2 c ps ih =>
      obtain ⟨text, hd, rfl⟩ := Option.map_eq_some_iff.1 h
      exact .char (ih hd (List.forall_mem_cons.1 hps).2)
  | case3 n hh m ps hl ih =>
      -- a pair, whose number is beyond the halves and within the code points
      obtain ⟨text, hd, rfl⟩ := Option.map_eq_some_iff.1 h
      have hhigh := isHighSurrogate_iff.1 hh
      have hlow := isLowSurrogate_iff.1 hl
      have hvalid : (0x10000 + (n - 0xD800) * 0x400 + (m - 0xDC00)).isValidChar := by
        right
        omega
      refine .pair hhigh hlow ?_ (ih hd fun p hp => hps p (.tail _ (.tail _ hp)))
      rw [joinSurrogates, toNat_ofNat hvalid]
  | case4 => cases h
  | case5 => cases h
  | case6 => cases h
  | case7 n ps hh hl ih =>
      -- a number that is no half is a code point, being short
      obtain ⟨text, hd, rfl⟩ := Option.map_eq_some_iff.1 h
      have hshort : n < 0x10000 := hps _ (.head _)
      have hvalid : n.isValidChar := by
        rw [isHighSurrogate_iff] at hh
        rw [isLowSurrogate_iff] at hl
        rw [Nat.isValidChar]
        omega
      have hspells : Spells (.unit (Char.ofNat n).toNat :: ps) (Char.ofNat n :: text) :=
        .scalar (ih hd (List.forall_mem_cons.1 hps).2)
      rwa [toNat_ofNat hvalid] at hspells

/-- What pieces stand for is decoded. -/
theorem decode_eq_of_spells {ps : List Piece} {text : List Char} (h : Spells ps text) : decode ps = some text := by
  induction h with
  | nil => rfl
  | @char c ps text _ ih => rw [decode, ih, Option.map_some]
  | @scalar c ps text _ ih =>
      obtain ⟨hhigh, hlow⟩ := not_surrogate_toNat c
      rw [decode.eq_def]
      simp only [hhigh, hlow, ih, Bool.false_eq_true, ↓reduceIte, Option.map_some, Char.ofNat_toNat]
  | @pair high low c ps text hh hl hc _ ih =>
      rw [decode, if_pos (isHighSurrogate_iff.2 hh)]
      simp only [if_pos (isLowSurrogate_iff.2 hl), ih, Option.map_some]
      rw [joinSurrogates, ← hc, Char.ofNat_toNat]

/-- **Pieces are decoded if and only if they stand for a text**, and then to that. -/
theorem decode_eq_some_iff {ps : List Piece} (h : ∀ p ∈ ps, p.Short) {text : List Char} :
    decode ps = some text ↔ Spells ps text :=
  ⟨fun hd => spells_of_decode hd h, decode_eq_of_spells⟩

/-- **A string is read if and only if it stands for a text.** -/
theorem readString_eq_some_iff {s text rest : List Char} :
    readString s = some (text, rest) ↔ ∃ inside ps, Spelled inside ps ∧ Spells ps text ∧ s = inside ++ '"' :: rest := by
  constructor
  · intro h
    rw [readString] at h
    split at h
    · rename_i ps r hp
      obtain ⟨t, hd, ht⟩ := Option.map_eq_some_iff.1 h
      cases ht
      obtain ⟨inside, hs, rfl⟩ := exists_of_pieces hp
      exact ⟨inside, ps, hs, (decode_eq_some_iff hs.short_of_mem).1 hd, rfl⟩
    · cases h
  · rintro ⟨inside, ps, hs, htext, rfl⟩
    rw [readString, pieces_append hs]
    simp only [decode_eq_of_spells htext, Option.map_some]

/-- A string that stands for a text is one that is read to its end. -/
theorem standsFor_iff {s text : List Char} :
    StandsFor s text ↔ s.head? = some '"' ∧ readString s.tail = some (text, []) := by
  constructor
  · rintro ⟨inside, ps, hs, htext, rfl⟩
    exact ⟨rfl, readString_eq_some_iff.2 ⟨inside, ps, hs, htext, rfl⟩⟩
  · rintro ⟨hquote, hread⟩
    obtain ⟨r, rfl⟩ := List.head?_eq_some_iff.1 hquote
    obtain ⟨inside, ps, hs, htext, rfl⟩ := readString_eq_some_iff.1 hread
    exact ⟨inside, ps, hs, htext, rfl⟩

instance (s text : List Char) : Decidable (StandsFor s text) := decidable_of_iff _ standsFor_iff.symm

/-! ## Numbers -/

/-- A text does not go on with a character of the class. -/
def Stops (p : Char → Bool) (s : List Char) : Prop := ∀ c, s.head? = some c → p c = false

/-- The characters that a number may go on with before its exponent. -/
def isDecimal (c : Char) : Bool := c.isDigit || c == '.'

/-- The characters that a number may go on with. -/
def isNumeric (c : Char) : Bool := isDecimal c || c == 'e' || c == 'E'

/-- An ended text goes on with none. -/
theorem stops_nil (p : Char → Bool) : Stops p [] := fun _ => nofun

/-- A text goes on with its first character. -/
theorem stops_cons {p : Char → Bool} {c : Char} {s : List Char} : Stops p (c :: s) ↔ p c = false :=
  ⟨fun h => h c rfl, fun h _ hc => Option.some.inj hc ▸ h⟩

/-- Fewer characters are gone on with in a smaller class. -/
theorem Stops.mono {p q : Char → Bool} {s : List Char} (h : Stops p s) (hq : ∀ c, q c = true → p c = true) :
    Stops q s := fun c hc => by
  have hp := h c hc
  cases hqc : q c with
  | false => rfl
  | true => exact absurd (hq c hqc) (by rw [hp]; decide)

/-- Where a number ends, its fraction does. -/
theorem Stops.decimal {s : List Char} (h : Stops isNumeric s) : Stops isDecimal s :=
  h.mono fun c hc => by simp only [isNumeric, hc, Bool.true_or]

/-- Where a fraction ends, its digits do. -/
theorem Stops.digit {s : List Char} (h : Stops isDecimal s) : Stops Char.isDigit s :=
  h.mono fun c hc => by simp only [isDecimal, hc, Bool.true_or]

/-- **Characters of a class are taken as far as they go.** -/
theorem takeWhile_dropWhile_iff {p : Char → Bool} {s t r : List Char} :
    s.takeWhile p = t ∧ s.dropWhile p = r ↔ s = t ++ r ∧ (∀ c ∈ t, p c = true) ∧ Stops p r := by
  constructor
  · rintro ⟨rfl, rfl⟩
    refine ⟨List.takeWhile_append_dropWhile.symm, List.all_eq_true.1 List.all_takeWhile, fun c hc => ?_⟩
    have hnot := List.head?_dropWhile_not p s
    rw [hc] at hnot
    exact hnot
  · rintro ⟨rfl, ht, hr⟩
    rw [List.takeWhile_append_of_pos ht, List.dropWhile_append_of_pos ht]
    cases r with
    | nil => exact ⟨List.append_nil t, rfl⟩
    | cons c r =>
        have hc : ¬p c = true := by
          rw [stops_cons.1 hr]
          decide
        rw [List.takeWhile_cons_of_neg hc, List.dropWhile_cons_of_neg hc, List.append_nil]
        exact ⟨rfl, rfl⟩

/-- **Digits are read as far as they go.** -/
theorem readDigits_eq_some_iff {s ds r : List Char} :
    readDigits s = some (ds, r) ↔ IsDigits ds ∧ s = ds ++ r ∧ Stops Char.isDigit r := by
  constructor
  · intro h
    rw [readDigits] at h
    split at h
    · cases h
    · rename_i hne
      cases h
      obtain ⟨hs, hds, hr⟩ := takeWhile_dropWhile_iff.1 ⟨rfl, rfl⟩
      exact ⟨⟨fun h => hne (List.isEmpty_iff.2 h), hds⟩, hs, hr⟩
  · rintro ⟨⟨hne, hds⟩, hs, hr⟩
    obtain ⟨htake, hdrop⟩ := takeWhile_dropWhile_iff.2 ⟨hs, hds, hr⟩
    rw [readDigits, htake, hdrop, if_neg (by rwa [List.isEmpty_iff])]

/-- **Whole numbers are read as far as they go.** -/
theorem readWhole_eq_some_iff {s ds r : List Char} :
    readWhole s = some (ds, r) ↔ IsWhole ds ∧ s = ds ++ r ∧ Stops Char.isDigit r := by
  constructor
  · intro h
    rw [readWhole] at h
    split at h
    · rename_i es t hd
      split at h
      · cases h
      · rename_i hzero
        cases h
        obtain ⟨hds, hs, hr⟩ := readDigits_eq_some_iff.1 hd
        exact ⟨⟨hds, fun h0 => Decidable.not_not.1 fun h1 => hzero ⟨h0, h1⟩⟩, hs, hr⟩
    · cases h
  · rintro ⟨⟨hds, hzero⟩, hs, hr⟩
    rw [readWhole, readDigits_eq_some_iff.2 ⟨hds, hs, hr⟩]
    exact if_neg fun ⟨h0, h1⟩ => h1 (hzero h0)

/-- A fraction is skipped. -/
theorem exists_of_skipFraction {s r : List Char} (h : skipFraction s = some r) :
    ∃ f, IsFraction f ∧ s = f ++ r := by
  rw [skipFraction.eq_def] at h
  split at h
  · obtain ⟨⟨ds, t⟩, hd, rfl⟩ := Option.map_eq_some_iff.1 h
    obtain ⟨hds, rfl, -⟩ := readDigits_eq_some_iff.1 hd
    exact ⟨'.' :: ds, .point hds, rfl⟩
  · cases h
    exact ⟨[], .none, rfl⟩

/-- It is skipped to its end. -/
theorem skipFraction_append {f r : List Char} (hf : IsFraction f)
    (hr : Stops isDecimal r) : skipFraction (f ++ r) = some r := by
  cases hf with
  | none =>
      cases r with
      | nil => rfl
      | cons c r =>
          have hc : c ≠ '.' := by
            rintro rfl
            cases stops_cons.1 hr
          exact skipFraction.eq_2 _ fun _ h => hc (List.cons.inj h).1
  | @point ds hds =>
      have hd : readDigits (ds ++ r) = some (ds, r) :=
        readDigits_eq_some_iff.2 ⟨hds, rfl, hr.digit⟩
      rw [List.cons_append, skipFraction, hd]
      rfl

/-- An exponent is skipped. -/
theorem exists_of_skipExponent {s r : List Char} (h : skipExponent s = some r) :
    ∃ e, IsExponent e ∧ s = e ++ r := by
  rw [skipExponent.eq_def] at h
  split at h
  · rename_i e t
    split at h
    · rename_i he
      split at h
      · rename_i d u
        obtain ⟨⟨ds, v⟩, hd, rfl⟩ := Option.map_eq_some_iff.1 h
        split at hd
        · rename_i hsign
          obtain ⟨hds, rfl, -⟩ := readDigits_eq_some_iff.1 hd
          exact ⟨e :: d :: ds, .signed he hsign hds, rfl⟩
        · obtain ⟨hds, hu, -⟩ := readDigits_eq_some_iff.1 hd
          exact ⟨e :: ds, .bare he hds, by rw [hu, List.cons_append]⟩
      · cases h
    · cases h
      exact ⟨[], .none, rfl⟩
  · cases h
    exact ⟨[], .none, rfl⟩

/-- No digit is a sign. -/
theorem isSign_of_isDigit {c : Char} (h : c.isDigit = true) : isSign c = false := by
  rw [isSign, Bool.or_eq_false_iff, beq_eq_false_iff_ne, beq_eq_false_iff_ne]
  constructor
  · rintro rfl
    cases h
  · rintro rfl
    cases h

/-- It is skipped to its end. -/
theorem skipExponent_append {e r : List Char} (he : IsExponent e) (hr : Stops isNumeric r) :
    skipExponent (e ++ r) = some r := by
  cases he with
  | none =>
      cases r with
      | nil => rfl
      | cons c r =>
          have hc : ¬(c = 'e' ∨ c = 'E') := by
            rintro (rfl | rfl) <;> cases stops_cons.1 hr
          rw [List.nil_append, skipExponent.eq_def]
          exact if_neg hc
  | @bare e ds he hds =>
      obtain ⟨d, ds, rfl⟩ := List.exists_cons_of_ne_nil hds.ne_nil
      have hsign : isSign d = false := isSign_of_isDigit (hds.digits d (.head _))
      rw [List.cons_append, skipExponent.eq_def]
      simp only [if_pos he, List.cons_append, hsign, Bool.false_eq_true, ↓reduceIte]
      rw [← List.cons_append, readDigits_eq_some_iff.2 ⟨hds, rfl, hr.decimal.digit⟩, Option.map_some]
  | @signed e sign ds he hs hds =>
      rw [List.cons_append, List.cons_append, skipExponent.eq_def]
      simp only [if_pos he, hs, ↓reduceIte]
      rw [readDigits_eq_some_iff.2 ⟨hds, rfl, hr.decimal.digit⟩, Option.map_some]

/-- **Only numbers are skipped as numbers.** -/
theorem exists_of_skipNumber {s r : List Char} (h : skipNumber s = some r) : ∃ m, IsMagnitude m ∧ s = m ++ r := by
  rw [skipNumber] at h
  split at h
  · rename_i ds t hw
    obtain ⟨hds, rfl, -⟩ := readWhole_eq_some_iff.1 hw
    obtain ⟨u, hf, he⟩ := Option.bind_eq_some_iff.1 h
    obtain ⟨f, hfraction, rfl⟩ := exists_of_skipFraction hf
    obtain ⟨e, hexponent, rfl⟩ := exists_of_skipExponent he
    exact ⟨_, .mk hds hfraction hexponent, by simp only [List.append_assoc]⟩
  · cases h

/-- What follows the parts of a number in front of an exponent goes on with no digit and no point. -/
theorem IsExponent.stops {e r : List Char} (he : IsExponent e) (hr : Stops isNumeric r) :
    Stops isDecimal (e ++ r) := by
  cases he with
  | none => exact hr.decimal
  | bare he _ => rcases he with rfl | rfl <;> exact stops_cons.2 rfl
  | signed he _ _ => rcases he with rfl | rfl <;> exact stops_cons.2 rfl

/-- What follows a whole number goes on with no digit. -/
theorem IsFraction.stops {f r : List Char} (hf : IsFraction f) (hr : Stops isDecimal r) :
    Stops Char.isDigit (f ++ r) := by
  cases hf with
  | none => exact hr.digit
  | point _ => exact stops_cons.2 rfl

/-- **Every number is skipped to its end.** -/
theorem skipNumber_append {m r : List Char} (hm : IsMagnitude m) (hr : Stops isNumeric r) :
    skipNumber (m ++ r) = some r := by
  obtain ⟨hw, hf, he⟩ := hm
  rename_i ds f e
  have hexponent : Stops isDecimal (e ++ r) := he.stops hr
  have hwhole : readWhole (ds ++ (f ++ (e ++ r))) = some (ds, f ++ (e ++ r)) :=
    readWhole_eq_some_iff.2 ⟨hw, rfl, hf.stops hexponent⟩
  rw [List.append_assoc, List.append_assoc, skipNumber, hwhole]
  simp only [skipFraction_append hf hexponent, Option.bind_some, skipExponent_append he hr]

/-! ## Numerals -/

/-- A digit is the character of its value. -/
theorem digitChar_of_isDigit {c : Char} (h : c.isDigit = true) :
    c.toNat - '0'.toNat < 10 ∧ Nat.digitChar (c.toNat - '0'.toNat) = c := by
  rw [Char.isDigit, Bool.and_eq_true, decide_eq_true_eq, decide_eq_true_eq] at h
  have hlow : 48 ≤ c.toNat := h.1
  have hhigh : c.toNat ≤ 57 := h.2
  obtain ⟨k, hk⟩ := Nat.exists_eq_add_of_le hlow
  have hc : c = Char.ofNat (48 + k) := by rw [← hk, Char.ofNat_toNat]
  have hten : k < 10 := by omega
  have hsub : c.toNat - '0'.toNat = k := by
    rw [hk]
    exact Nat.add_sub_cancel_left 48 k
  rw [hsub, hc]
  exact ⟨hten, (by decide : ∀ k < 10, Nat.digitChar k = Char.ofNat (48 + k)) k hten⟩

/-- More digits are written behind those of a number. -/
theorem toDigits_ofDigitChars {ds : List Char} (hds : ∀ c ∈ ds, c.isDigit = true) {n : Nat} (hn : 0 < n) :
    Nat.toDigits 10 (Nat.ofDigitChars 10 ds n) = Nat.toDigits 10 n ++ ds := by
  induction ds generalizing n with
  | nil => rw [Nat.ofDigitChars_nil, List.append_nil]
  | cons c ds ih =>
      obtain ⟨hc, hds⟩ := List.forall_mem_cons.1 hds
      obtain ⟨hten, hchar⟩ := digitChar_of_isDigit hc
      rw [Nat.ofDigitChars_cons, ih hds (by omega), ← Nat.toDigits_append_toDigits (by decide) hn hten,
        Nat.toDigits_of_lt_base hten, hchar, List.append_assoc, List.singleton_append]

/-- **A whole number is the numeral of its value.** -/
theorem IsWhole.toDigits {ds : List Char} (h : IsWhole ds) :
    Nat.toDigits 10 (Nat.ofDigitChars 10 ds 0) = ds := by
  obtain ⟨c, ds, rfl⟩ := List.exists_cons_of_ne_nil h.ne_nil
  obtain ⟨hc, hds⟩ := List.forall_mem_cons.1 h.digits
  obtain ⟨hten, hchar⟩ := digitChar_of_isDigit hc
  rw [Nat.ofDigitChars_cons, Nat.mul_zero, Nat.zero_add]
  rcases Nat.eq_zero_or_pos (c.toNat - '0'.toNat) with hzero | hpos
  · -- a zero stands alone
    rw [hzero] at hchar
    subst hchar
    have hlength : ds.length + 1 = 1 := h.zero rfl
    have hnil : ds = [] := List.eq_nil_of_length_eq_zero (Nat.succ.inj hlength)
    subst hnil
    rfl
  · rw [toDigits_ofDigitChars hds hpos, Nat.toDigits_of_lt_base hten, hchar, List.singleton_append]

/-- Only the numeral of zero begins with a zero. -/
theorem eq_zero_of_head?_toDigits {n : Nat} (h : (Nat.toDigits 10 n).head? = some '0') : n = 0 := by
  induction n using Nat.strongRecOn with
  | ind n ih =>
      rcases Nat.lt_or_ge n 10 with hlt | hge
      · rw [Nat.toDigits_of_lt_base hlt, List.head?_cons, Option.some_inj] at h
        exact (by decide : ∀ k < 10, Nat.digitChar k = '0' → k = 0) n hlt h
      · obtain ⟨c, t, ht⟩ := List.exists_cons_of_ne_nil (Nat.toDigits_ne_nil (n := n / 10) (b := 10))
        rw [Nat.toDigits_of_base_le (by decide) hge, ht] at h
        have hdiv : n / 10 = 0 := ih _ (by omega) (by rw [ht]; exact h)
        omega

/-- **A numeral is a whole number.** -/
theorem isWhole_toDigits (n : Nat) : IsWhole (Nat.toDigits 10 n) := by
  refine ⟨⟨Nat.toDigits_ne_nil, fun c hc => Nat.isDigit_of_mem_toDigits (by decide) (by decide) hc⟩, fun h => ?_⟩
  rw [eq_zero_of_head?_toDigits h]
  rfl

end NetworkAgent.Json
