import NetworkAgent.Proofs.Json.Reading

/-! # Skipping values

Values are skipped as the grammar says, whatever they hold and however deep.

* `skipValue_succ_iff`, with `Start`, and `skipElements_succ_iff`, `skipMembers_succ_iff`, with `Rest` — what one step
  can do.
* `Rest.written` and **`again_listed`** — lists are read part by part, elements and members alike.
* **`exists_of_skip`** — only values are skipped, by induction on the allowance.
* **`skip_append`** — every value is skipped to its end, by induction on the value: an allowance that is longer than the
  text is enough. -/

namespace NetworkAgent.Json

/-! ## One step -/

/-- Words are skipped. -/
theorem skipWord_eq_some_iff {w s r : List Char} : skipWord w s = some r ↔ s = w ++ r := by
  induction w generalizing s with
  | nil => exact Option.some_inj
  | cons c w ih =>
      cases s with
      | nil => exact iff_of_false nofun nofun
      | cons d s =>
          rw [skipWord, List.cons_append, List.cons_eq_cons]
          by_cases h : c = d
          · rw [if_pos h, ih]
            exact (and_iff_right h.symm).symm
          · rw [if_neg h]
            exact iff_of_false nofun fun hs => h hs.1.symm

/-- A number begins with a digit. -/
theorem IsMagnitude.exists_cons {m : List Char} (h : IsMagnitude m) : ∃ c t, m = c :: t ∧ c.isDigit = true := by
  obtain ⟨hw, _, _⟩ := h
  rename_i ds f e
  obtain ⟨c, ds, rfl⟩ := List.exists_cons_of_ne_nil hw.ne_nil
  exact ⟨c, _, rfl, hw.digits c (.head _)⟩

/-- **What skipping a value comes to**, by the character it begins with, with an allowance for what is nested. -/
inductive Start (n : Nat) : List Char → List Char → Prop where
  /-- a string -/
  | string {s r : List Char} (h : skipString s = some r) : Start n ('"' :: s) r
  /-- an array without elements -/
  | emptyArray {s r : List Char} (h : skipBlanks s = ']' :: r) : Start n ('[' :: s) r
  /-- an array with elements -/
  | array {s r : List Char} (h : skipElements n s = some r) : Start n ('[' :: s) r
  /-- an object without members -/
  | emptyObject {s r : List Char} (h : skipBlanks s = '\x7d' :: r) : Start n ('\x7b' :: s) r
  /-- an object with members -/
  | object {s r : List Char} (h : skipMembers n s = some r) : Start n ('\x7b' :: s) r
  /-- a word -/
  | word {w r : List Char} (h : w ∈ words) : Start n (w ++ r) r
  /-- a number below zero -/
  | negative {s r : List Char} (h : skipNumber s = some r) : Start n ('-' :: s) r
  /-- a number -/
  | number {c : Char} {s r : List Char} (hc : c.isDigit = true) (h : skipNumber (c :: s) = some r) :
      Start n (c :: s) r

/-- What follows a part of a list: the sign that closes the list, or a comma and more parts. -/
def Rest (close : Char) (more : List Char → Prop) (s r : List Char) : Prop :=
  skipBlanks s = close :: r ∨ ∃ t, skipBlanks s = ',' :: t ∧ more t

/-- A member is skipped: its name, a colon and its value. -/
def SkipsMember (n : Nat) (s t : List Char) : Prop :=
  ∃ a b c, skipBlanks s = '"' :: a ∧ skipString a = some b ∧ skipBlanks b = ':' :: c ∧ skipValue n c = some t

/-- **A name and a colon**, as they are read. -/
theorem skipBlanks_name_iff {s inside c : List Char} :
    (∃ b, skipBlanks s = '"' :: (inside ++ '"' :: b) ∧ skipBlanks b = ':' :: c)
      ↔ ∃ name : Padded, name.Clean ∧ name.core = quoted inside ∧ s = name.text ++ ':' :: c := by
  constructor
  · rintro ⟨b, hs, hb⟩
    obtain ⟨front, hfront, hfronts⟩ := exists_blank_append s
    obtain ⟨back, hback, hbacks⟩ := exists_blank_append b
    refine ⟨⟨front, quoted inside, back⟩, ⟨hfront, hback⟩, rfl, ?_⟩
    rw [hfronts, hs, hbacks, hb]
    simp [Padded.text, quoted]
  · rintro ⟨⟨front, core, back⟩, ⟨hfront, hback⟩, rfl, rfl⟩
    refine ⟨back ++ ':' :: c, ?_, ?_⟩
    · simp only [Padded.text, quoted, List.append_assoc, List.cons_append, List.nil_append]
      rw [skipBlanks_append hfront, skipBlanks_cons (by decide)]
    · rw [skipBlanks_append hback, skipBlanks_cons (by decide)]

/-- A member and what follows it. -/
theorem Member.text_append (m : Member) (u : List Char) :
    m.text ++ u = m.name.text ++ ':' :: (m.value.text ++ u) := by
  rw [Member.text, List.append_assoc, List.cons_append]

/-- **What skipping elements comes to.** -/
theorem skipElements_succ_iff {n : Nat} {s r : List Char} :
    skipElements (n + 1) s = some r ↔ ∃ t, skipValue n s = some t ∧ Rest ']' (skipElements n · = some r) t r := by
  rw [skipElements.eq_2]
  constructor
  · intro h
    split at h
    · cases h
    · rename_i t ht
      refine ⟨t, ht, ?_⟩
      split at h
      · exact .inr ⟨_, ‹_›, h⟩
      · cases h
        exact .inl ‹_›
      · cases h
  · rintro ⟨t, ht, hclose | ⟨u, hu, hagain⟩⟩
    · simp only [ht, hclose]
    · simp only [ht, hu, hagain]

/-- **What skipping members comes to.** -/
theorem skipMembers_succ_iff {n : Nat} {s r : List Char} :
    skipMembers (n + 1) s = some r ↔ ∃ t, SkipsMember n s t ∧ Rest '\x7d' (skipMembers n · = some r) t r := by
  rw [skipMembers.eq_2]
  constructor
  · intro h
    split at h
    · split at h
      · cases h
      split at h
      · split at h
        · cases h
        rename_i t ht
        refine ⟨t, ⟨_, _, _, ‹_›, ‹_›, ‹_›, ht⟩, ?_⟩
        split at h
        · exact .inr ⟨_, ‹_›, h⟩
        · cases h
          exact .inl ‹_›
        · cases h
      · cases h
    · cases h
  · rintro ⟨t, ⟨a, b, c, ha, hb, hc, ht⟩, hclose | ⟨u, hu, hagain⟩⟩
    · simp only [ha, hb, hc, ht, hclose]
    · simp only [ha, hb, hc, ht, hu, hagain]

/-- Blanks in front of a value are skipped with it. -/
theorem skipValue_skipBlanks (n : Nat) (s : List Char) : skipValue n (skipBlanks s) = skipValue n s := by
  cases n with
  | zero => rfl
  | succ n => rw [skipValue.eq_2, skipBlanks_skipBlanks, ← skipValue.eq_2]

/-- So are those in front of elements. -/
theorem skipElements_skipBlanks (n : Nat) (s : List Char) : skipElements n (skipBlanks s) = skipElements n s := by
  cases n with
  | zero => rfl
  | succ n => rw [skipElements.eq_2, skipValue_skipBlanks, ← skipElements.eq_2]

/-- So are those in front of members. -/
theorem skipMembers_skipBlanks (n : Nat) (s : List Char) : skipMembers n (skipBlanks s) = skipMembers n s := by
  cases n with
  | zero => rfl
  | succ n => rw [skipMembers.eq_2, skipBlanks_skipBlanks, ← skipMembers.eq_2]

/-- A word starts with its first character. -/
theorem start_word {n : Nat} {c : Char} {w s r : List Char} (hw : c :: w ∈ words) (h : skipWord w s = some r) :
    Start n (c :: s) r := by
  rw [skipWord_eq_some_iff.1 h]
  exact .word hw

/-- A value that is skipped starts in one of the ways. -/
theorem start_of_skipValue {n : Nat} {s r : List Char} (h : skipValue (n + 1) s = some r) :
    Start n (skipBlanks s) r := by
  rw [skipValue.eq_2] at h
  split at h
  · cases h
  rename_i c t hs
  rw [hs]
  split at h
  · rename_i hc
    exact hc ▸ .string h
  split at h
  · rename_i hc
    subst hc
    split at h
    · rename_i u hu
      cases h
      exact .emptyArray hu
    · exact .array (by rwa [skipElements_skipBlanks] at h)
  split at h
  · rename_i hc
    subst hc
    split at h
    · rename_i u hu
      cases h
      exact .emptyObject hu
    · exact .object (by rwa [skipMembers_skipBlanks] at h)
  split at h
  · rename_i hc
    exact hc ▸ start_word (by decide) h
  split at h
  · rename_i hc
    exact hc ▸ start_word (by decide) h
  split at h
  · rename_i hc
    exact hc ▸ start_word (by decide) h
  split at h
  · rename_i hc
    exact hc ▸ .negative h
  · obtain ⟨m, hm, hcons⟩ := exists_of_skipNumber h
    obtain ⟨d, u, rfl, hd⟩ := hm.exists_cons
    obtain ⟨rfl, -⟩ := List.cons.inj hcons
    exact .number hd h

/-- No value starts with the sign that closes an array. -/
theorem Start.ne_close {n : Nat} {s r t : List Char} (h : Start n s r) : s ≠ ']' :: t := by
  cases h with
  | string | emptyArray | array | emptyObject | object | negative => exact fun h => nomatch h
  | word h =>
      simp only [words, List.mem_cons, List.not_mem_nil, or_false] at h
      rcases h with rfl | rfl | rfl <;> exact nofun
  | number hc h =>
      intro hs
      obtain ⟨rfl, -⟩ := List.cons.inj hs
      cases hc

/-- No value is skipped where an array is closed. -/
theorem ne_close_of_skipValue {n : Nat} {s r t : List Char} (h : skipValue n s = some r) : skipBlanks s ≠ ']' :: t := by
  cases n with
  | zero => cases h
  | succ n => exact (start_of_skipValue h).ne_close

/-- So no elements are. -/
theorem ne_close_of_skipElements {n : Nat} {s r t : List Char} (h : skipElements n s = some r) :
    skipBlanks s ≠ ']' :: t := by
  cases n with
  | zero => cases h
  | succ n =>
      obtain ⟨u, hu, -⟩ := skipElements_succ_iff.1 h
      exact ne_close_of_skipValue hu

/-- No members are skipped where an object is closed. -/
theorem ne_close_of_skipMembers {n : Nat} {s r t : List Char} (h : skipMembers n s = some r) :
    skipBlanks s ≠ '\x7d' :: t := by
  cases n with
  | zero => cases h
  | succ n =>
      obtain ⟨u, ⟨_, _, _, hs, -⟩, -⟩ := skipMembers_succ_iff.1 h
      rw [hs]
      exact nofun

/-- What starts in one of the ways is skipped. -/
theorem skipValue_of_start {n : Nat} {s r : List Char} (h : Start n (skipBlanks s) r) :
    skipValue (n + 1) s = some r := by
  rw [skipValue.eq_2]
  -- a list with parts is told from an empty one by what does not stand where it would be closed
  generalize skipBlanks s = t at h
  cases h with
  | string h => exact h
  | emptyArray h => simp only [h]; rfl
  | @array s r h =>
      simp only
      rw [if_neg (by decide), if_pos trivial]
      split
      · exact absurd ‹_› (ne_close_of_skipElements h)
      · rwa [skipElements_skipBlanks]
  | emptyObject h => simp only [h]; rfl
  | @object s r h =>
      simp only
      rw [if_neg (by decide), if_neg (by decide), if_pos trivial]
      split
      · exact absurd ‹_› (ne_close_of_skipMembers h)
      · rwa [skipMembers_skipBlanks]
  | word h =>
      simp only [words, List.mem_cons, List.not_mem_nil, or_false] at h
      rcases h with rfl | rfl | rfl <;> rfl
  | negative h => exact h
  | number hc h =>
      have hne {c d : Char} (hc : c.isDigit = true) (hd : d.isDigit = false) : c ≠ d := by
        rintro rfl
        rw [hc] at hd
        cases hd
      simp only
      repeat rw [if_neg (hne hc rfl)]
      exact h

/-- **What one step of skipping a value can do.** -/
theorem skipValue_succ_iff {n : Nat} {s r : List Char} : skipValue (n + 1) s = some r ↔ Start n (skipBlanks s) r :=
  ⟨start_of_skipValue, skipValue_of_start⟩

/-! ## Lists -/

/-- Parts of a list up to the sign that closes it. -/
def Written {P : Type} (close : Char) (text : P → List Char) (good : P → Prop) (s r : List Char) : Prop :=
  ∃ p ps, (∀ q ∈ p :: ps, good q) ∧ s = listed ((p :: ps).map text) ++ close :: r

/-- One part is written as it is. -/
theorem listed_singleton {P : Type} (text : P → List Char) (p : P) : listed ([p].map text) = text p := by
  simp [listed]

/-- A comma stands behind a part that others follow. -/
theorem listed_cons_cons {P : Type} (text : P → List Char) (p q : P) (ps : List P) :
    listed ((p :: q :: ps).map text) = text p ++ ',' :: listed ((q :: ps).map text) := by
  simp [listed, List.intercalate_cons_cons]

/-- An array and what follows it. -/
theorem arrayText_append (gap : List Char) (items : List Padded) (r : List Char) :
    arrayText gap items ++ r = '[' :: (gap ++ (listed (items.map Padded.text) ++ ']' :: r)) := by
  simp [arrayText]

/-- An object and what follows it. -/
theorem objectText_append (gap : List Char) (members : List Member) (r : List Char) :
    objectText gap members ++ r = '\x7b' :: (gap ++ (listed (members.map Member.text) ++ '\x7d' :: r)) := by
  simp [objectText]

section Lists

variable {P : Type} {close : Char} {text : P → List Char} {good : P → Prop} {first : Nat → List Char → List Char → Prop}
  {again : Nat → List Char → Option (List Char)}

/-- A part and what follows it are parts. -/
theorem Rest.written {more : List Char → Prop} {s t r : List Char} (h : Rest close more t r)
    (hmore : ∀ u, more u → Written close text good u r)
    (hpart : ∀ b u, Blank b → t = b ++ u → ∃ p, good p ∧ s = text p ++ u) : Written close text good s r := by
  obtain ⟨b, hb, ht⟩ := exists_blank_append t
  obtain ⟨p, hp, rfl⟩ := hpart b _ hb ht
  obtain hclose | ⟨u, hu, hagain⟩ := h
  · exact ⟨p, [], List.forall_mem_singleton.2 hp, by rw [hclose, listed_singleton]⟩
  · obtain ⟨q, qs, hqs, rfl⟩ := hmore u hagain
    refine ⟨p, q :: qs, List.forall_mem_cons.2 ⟨hp, hqs⟩, ?_⟩
    rw [hu, listed_cons_cons, List.append_assoc, List.cons_append]

/-- **A list is read part by part**, if each part is. -/
theorem again_listed
    (hagain : ∀ {n s r}, again (n + 1) s = some r ↔ ∃ t, first n s t ∧ Rest close (again n · = some r) t r)
    (hclose : isBlank close = false ∧ isNumeric close = false) {p : P} {ps : List P}
    (hfirst : ∀ q ∈ p :: ps, ∀ {n u}, (text q).length < n → Stops isNumeric u →
      ∃ t, first n (text q ++ u) t ∧ skipBlanks t = skipBlanks u)
    {n : Nat} (hn : (listed ((p :: ps).map text)).length + 1 < n) (r : List Char) :
    again n (listed ((p :: ps).map text) ++ close :: r) = some r := by
  -- each part takes one step of the allowance, and its text at least one character of the bound
  induction ps generalizing p n with
  | nil =>
      obtain ⟨n, rfl⟩ := Nat.exists_eq_succ_of_ne_zero (Nat.ne_zero_of_lt hn)
      rw [listed_singleton] at hn ⊢
      obtain ⟨t, ht, hblanks⟩ := hfirst p (.head _) (Nat.lt_of_succ_lt_succ hn) (stops_cons.2 hclose.2)
      exact hagain.2 ⟨t, ht, .inl (hblanks.trans (skipBlanks_cons hclose.1 r))⟩
  | cons q qs ih =>
      obtain ⟨n, rfl⟩ := Nat.exists_eq_succ_of_ne_zero (Nat.ne_zero_of_lt hn)
      rw [listed_cons_cons, List.length_append, List.length_cons] at hn
      rw [listed_cons_cons, List.append_assoc, List.cons_append]
      have hp : (text p).length < n := by omega
      obtain ⟨t, ht, hblanks⟩ := hfirst p (.head _) hp (stops_cons.2 (show isNumeric ',' = false by decide))
      refine hagain.2 ⟨t, ht, .inr ⟨_, hblanks.trans (skipBlanks_cons (by decide) _), ?_⟩⟩
      exact ih (fun a ha => hfirst a (.tail _ ha)) (by omega)

end Lists

/-! ## What is skipped -/

/-- **What is skipped with an allowance**: a value, elements or members. -/
structure Skipped (n : Nat) : Prop where
  /-- a value, with blanks in front of it -/
  value : ∀ {s r}, skipValue n s = some r → ∃ b v, Blank b ∧ IsValue v ∧ s = b ++ (v ++ r)
  /-- elements of an array -/
  elements : ∀ {s r}, skipElements n s = some r → Written ']' Padded.text IsElement s r
  /-- members of an object -/
  members : ∀ {s r}, skipMembers n s = some r → Written '\x7d' Member.text IsMember s r

/-- A value that starts in one of the ways is one. -/
theorem Start.exists_value {n : Nat} (hn : Skipped n) {s r : List Char} (h : Start n s r) :
    ∃ v, IsValue v ∧ s = v ++ r := by
  cases h with
  | @string s r h =>
      obtain ⟨inside, ps, hs, rfl⟩ := skipString_eq_some_iff.1 h
      exact ⟨quoted inside, .string ⟨inside, ps, hs, rfl⟩, by simp [quoted]⟩
  | @emptyArray s r h =>
      obtain ⟨b, hb, hs⟩ := exists_blank_append s
      refine ⟨arrayText b [], .array hb (List.forall_mem_nil _) (List.forall_mem_nil _), ?_⟩
      rw [arrayText_append, hs, h]
      rfl
  | @array s r h =>
      obtain ⟨i, is, his, rfl⟩ := hn.elements h
      refine ⟨arrayText [] (i :: is), .array blank_nil (fun i hi => (his i hi).clean)
        (fun i hi => (his i hi).value), ?_⟩
      rw [arrayText_append, List.nil_append]
  | @emptyObject s r h =>
      obtain ⟨b, hb, hs⟩ := exists_blank_append s
      refine ⟨objectText b [], .object hb (List.forall_mem_nil _) (List.forall_mem_nil _) (List.forall_mem_nil _), ?_⟩
      rw [objectText_append, hs, h]
      rfl
  | @object s r h =>
      obtain ⟨m, ms, hms, rfl⟩ := hn.members h
      refine ⟨objectText [] (m :: ms), .object blank_nil (fun m hm => (hms m hm).clean) (fun m hm => (hms m hm).name)
        (fun m hm => (hms m hm).value), ?_⟩
      rw [objectText_append, List.nil_append]
  | word h => exact ⟨_, .word h, rfl⟩
  | negative h =>
      obtain ⟨m, hm, rfl⟩ := exists_of_skipNumber h
      exact ⟨'-' :: m, .negative hm, rfl⟩
  | number _ h =>
      obtain ⟨m, hm, hs⟩ := exists_of_skipNumber h
      exact ⟨m, .number hm, hs⟩

/-- A member that is skipped is one. -/
theorem SkipsMember.exists_member {n : Nat} (hn : Skipped n) {s t : List Char} (h : SkipsMember n s t) (b u : List Char)
    (hb : Blank b) (ht : t = b ++ u) : ∃ m, IsMember m ∧ s = m.text ++ u := by
  obtain ⟨a, c, d, hs, ha, hc, hd⟩ := h
  obtain ⟨inside, ps, hinside, rfl⟩ := skipString_eq_some_iff.1 ha
  obtain ⟨name, hclean, hcore, rfl⟩ := skipBlanks_name_iff.1 ⟨c, hs, hc⟩
  obtain ⟨gap, v, hgap, hv, rfl⟩ := hn.value hd
  refine ⟨⟨name, ⟨gap, v, b⟩⟩, ⟨⟨hclean, ⟨hgap, hb⟩⟩, ⟨inside, ps, hinside, hcore⟩, hv⟩, ?_⟩
  rw [ht, Member.text_append]
  simp [Padded.text]

/-- **Only values are skipped**, with any allowance. -/
theorem skipped (n : Nat) : Skipped n := by
  induction n with
  | zero => exact ⟨nofun, nofun, nofun⟩
  | succ n ih =>
      refine ⟨fun {s r} h => ?_, fun {s r} h => ?_, fun {s r} h => ?_⟩
      · obtain ⟨b, hb, hs⟩ := exists_blank_append s
        obtain ⟨v, hv, hvs⟩ := (skipValue_succ_iff.1 h).exists_value ih
        exact ⟨b, v, hb, hv, by rw [← hvs]; exact hs⟩
      · obtain ⟨t, ht, hrest⟩ := skipElements_succ_iff.1 h
        refine hrest.written (fun u => ih.elements) fun b u hb hbu => ?_
        obtain ⟨front, v, hfront, hv, rfl⟩ := ih.value ht
        exact ⟨⟨front, v, b⟩, ⟨⟨hfront, hb⟩, hv⟩, by rw [hbu]; simp [Padded.text]⟩
      · obtain ⟨t, ht, hrest⟩ := skipMembers_succ_iff.1 h
        exact hrest.written (fun u => ih.members) (ht.exists_member ih)

/-- **What is skipped is a value**, with the blanks in front of it. -/
theorem exists_of_skip {s r : List Char} (h : skip s = some r) : ∃ b v, Blank b ∧ IsValue v ∧ s = b ++ (v ++ r) :=
  (skipped _).value h

/-! ## All values are skipped -/

/-- A value begins with no blank. -/
theorem IsValue.exists_cons {v : List Char} (h : IsValue v) : ∃ c t, v = c :: t ∧ isBlank c = false := by
  cases h with
  | word h =>
      simp only [words, List.mem_cons, List.not_mem_nil, or_false] at h
      rcases h with rfl | rfl | rfl <;> exact ⟨_, _, rfl, by decide⟩
  | string h =>
      obtain ⟨inside, ps, -, rfl⟩ := h
      exact ⟨_, _, rfl, by decide⟩
  | number h =>
      obtain ⟨c, t, rfl, hc⟩ := h.exists_cons
      refine ⟨c, t, rfl, ?_⟩
      rw [← Bool.not_eq_true]
      intro hblank
      simp only [isBlank, Bool.or_eq_true, beq_iff_eq] at hblank
      obtain ((rfl | rfl) | rfl) | rfl := hblank <;> cases hc
  | negative h => exact ⟨_, _, rfl, by decide⟩
  | array => exact ⟨_, _, rfl, by decide⟩
  | object => exact ⟨_, _, rfl, by decide⟩

/-- Blanks go on with no number. -/
theorem Blank.stops {b s : List Char} (hb : Blank b) (hs : Stops isNumeric s) : Stops isNumeric (b ++ s) := by
  cases b with
  | nil => exact hs
  | cons c b =>
      rw [List.cons_append, stops_cons]
      have hc : isBlank c = true := hb c (.head _)
      simp only [isBlank, Bool.or_eq_true, beq_iff_eq] at hc
      obtain ((rfl | rfl) | rfl) | rfl := hc <;> decide

/-- With this allowance a value is skipped wherever it stands. -/
def Skips (v : List Char) : Prop := ∀ n r, v.length < n → Stops isNumeric r → skipValue n (v ++ r) = some r

/-- The text begins with a value, which starts in one of the ways. -/
theorem skips_of_start {v : List Char} (hv : IsValue v)
    (h : ∀ {n r}, v.length < n + 1 → Stops isNumeric r → Start n (v ++ r) r) : Skips v := by
  intro n r hn hr
  obtain ⟨n, rfl⟩ := Nat.exists_eq_succ_of_ne_zero (Nat.ne_zero_of_lt hn)
  obtain ⟨c, t, rfl, hc⟩ := hv.exists_cons
  have hstart := h hn hr
  rw [List.cons_append] at hstart ⊢
  exact skipValue_succ_iff.2 (by rwa [skipBlanks_cons hc])

/-- A value with blanks around it is skipped. -/
theorem Skips.padded {i : Padded} (hi : i.Clean) (h : Skips i.core) {n : Nat} {u : List Char}
    (hn : i.text.length < n) (hu : Stops isNumeric u) :
    ∃ t, skipValue n (i.text ++ u) = some t ∧ skipBlanks t = skipBlanks u := by
  refine ⟨i.back ++ u, ?_, skipBlanks_append hi.back u⟩
  simp only [Padded.text, List.length_append] at hn
  have hcore : i.core.length < n := by omega
  rw [Padded.text, List.append_assoc, read_blank_append (skipValue_skipBlanks n) hi.front, List.append_assoc]
  exact h n _ hcore (hi.back.stops hu)

/-- A member is skipped. -/
theorem Skips.member {m : Member} (hm : m.Clean) (hname : IsString m.name.core) (h : Skips m.value.core) {n : Nat}
    {u : List Char} (hn : m.text.length < n) (hu : Stops isNumeric u) :
    ∃ t, SkipsMember n (m.text ++ u) t ∧ skipBlanks t = skipBlanks u := by
  obtain ⟨inside, ps, hs, hcore⟩ := hname
  rw [Member.text, List.length_append, List.length_cons] at hn
  obtain ⟨t, ht, hblanks⟩ := h.padded hm.value (n := n) (by omega) hu
  obtain ⟨b, hname, hcolon⟩ := skipBlanks_name_iff.2 ⟨m.name, hm.name, hcore, m.text_append u⟩
  exact ⟨t, ⟨_, b, _, hname, skipString_eq_some_iff.2 ⟨inside, ps, hs, rfl⟩, hcolon, ht⟩, hblanks⟩

/-- **Every value is skipped to its end**, if the allowance is longer than its text. -/
theorem skipValue_append {v : List Char} (hv : IsValue v) : Skips v := by
  induction hv with
  | word h => exact skips_of_start (.word h) fun _ _ => .word h
  | string h =>
      refine skips_of_start (.string h) fun _ _ => ?_
      obtain ⟨inside, ps, hs, rfl⟩ := h
      exact .string (skipString_eq_some_iff.2 ⟨inside, ps, hs, by simp⟩)
  | number h =>
      refine skips_of_start (.number h) fun _ hr => ?_
      obtain ⟨c, t, rfl, hc⟩ := h.exists_cons
      exact .number hc (skipNumber_append h hr)
  | negative h => exact skips_of_start (.negative h) fun _ hr => .negative (skipNumber_append h hr)
  | @array gap items hgap hclean h ih =>
      refine skips_of_start (.array hgap hclean h) fun {n r} hn hr => ?_
      simp only [arrayText, List.length_cons, List.length_append, List.length_nil] at hn
      rw [arrayText_append]
      cases items with
      | nil => exact .emptyArray (by rw [skipBlanks_append hgap]; exact skipBlanks_cons (by decide) r)
      | cons i is =>
          refine .array ?_
          rw [read_blank_append (skipElements_skipBlanks n) hgap]
          exact again_listed skipElements_succ_iff (by decide)
            (fun j hj {n u} hn hu => Skips.padded (hclean j hj) (ih j hj) hn hu) (by omega) r
  | @object gap members hgap hclean hname h ih =>
      refine skips_of_start (.object hgap hclean hname h) fun {n r} hn hr => ?_
      simp only [objectText, List.length_cons, List.length_append, List.length_nil] at hn
      rw [objectText_append]
      cases members with
      | nil => exact .emptyObject (by rw [skipBlanks_append hgap]; exact skipBlanks_cons (by decide) r)
      | cons m ms =>
          refine .object ?_
          rw [read_blank_append (skipMembers_skipBlanks n) hgap]
          exact again_listed skipMembers_succ_iff (by decide)
            (fun j hj {n u} hn hu => Skips.member (hclean j hj) (hname j hj) (ih j hj) hn hu) (by omega) r

/-- **A value with blanks in front of it is skipped.** -/
theorem skip_append {b v r : List Char} (hb : Blank b) (hv : IsValue v) (hr : Stops isNumeric r) :
    skip (b ++ (v ++ r)) = some r := by
  rw [skip, read_blank_append (skipValue_skipBlanks _) hb]
  refine skipValue_append hv _ r ?_ hr
  simp only [List.length_append]
  omega

/-- **A value is a text that is skipped to its end** and begins with no blank. -/
theorem isValue_iff {v : List Char} : IsValue v ↔ skip v = some [] ∧ skipBlanks v = v := by
  constructor
  · intro h
    have hskip := skip_append blank_nil h (stops_nil isNumeric)
    rw [List.nil_append, List.append_nil] at hskip
    obtain ⟨c, t, rfl, hc⟩ := h.exists_cons
    exact ⟨hskip, skipBlanks_cons hc t⟩
  · rintro ⟨hskip, hv⟩
    obtain ⟨b, w, hb, hw, rfl⟩ := exists_of_skip hskip
    obtain ⟨c, t, rfl, hc⟩ := hw.exists_cons
    rw [skipBlanks_append hb, List.append_nil, skipBlanks_cons hc] at hv
    rwa [List.append_nil, ← hv]

instance : DecidablePred IsValue := fun _ => decidable_of_iff _ isValue_iff.symm

/-- **A text is a value and what follows it in one way only.** -/
theorem IsValue.unique {b b' v v' r r' : List Char} (hb : Blank b) (hb' : Blank b') (hv : IsValue v)
    (hv' : IsValue v') (hr : Stops isNumeric r) (hr' : Stops isNumeric r') (h : b ++ (v ++ r) = b' ++ (v' ++ r')) :
    v = v' ∧ r = r' := by
  have hrest : r = r' := by
    rw [← Option.some_inj, ← skip_append hb hv hr, h, skip_append hb' hv' hr']
  subst hrest
  obtain ⟨c, t, rfl, hc⟩ := hv.exists_cons
  obtain ⟨d, u, rfl, hd⟩ := hv'.exists_cons
  have hskip := congrArg skipBlanks h
  rw [skipBlanks_append hb, skipBlanks_append hb', List.cons_append, List.cons_append, skipBlanks_cons hc,
    skipBlanks_cons hd, ← List.cons_append, ← List.cons_append] at hskip
  exact ⟨List.append_cancel_right hskip, rfl⟩

end NetworkAgent.Json
