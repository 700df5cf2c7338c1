import NetworkAgent.Proofs.Text.Sequence

/-! # Text repaired

Octets that are no text are read all the same: what is text is left as it is, and each maximal part that is none becomes
one replacement character.

* **`Utf8.Invalid`** — a maximal invalid part: as much as a character could begin with, where none stands.
* **`Utf8.Repaired`** — octets with the text that they are repaired to.
* **`Utf8.decode_eq_iff`** — octets are read as the text that they are repaired to, and by `Utf8.decode_encode` a text
  is read from its octets. -/

namespace NetworkAgent.Utf8

open Message (Bytes)

variable {b : UInt8} {c : Char} {k : Nat} {bs tail rest : Bytes}

/-! ## Reading text -/

/-- Octets that a character begins with. -/
def Begins (bs : Bytes) : Prop := ∃ c : Char, bs <+: String.utf8EncodeChar c

/-- **A maximal invalid part of octets**, in front of others: no character stands there, and the part is the longest
that one could begin with, or a single octet if there is none. -/
structure Invalid (bad rest : Bytes) : Prop where
  /-- No character stands there. -/
  not_char : ∀ c : Char, ¬String.utf8EncodeChar c <+: bad ++ rest
  /-- There is something. -/
  ne_nil : bad ≠ []
  /-- A character begins with it, or it is a single octet. -/
  begins : Begins bad ∨ bad.length = 1
  /-- No character begins with more. -/
  maximal : ∀ p, p <+: bad ++ rest → Begins p → p.length ≤ bad.length

/-- **Octets repaired to a text**: each maximal invalid part is replaced, and all else is left. -/
inductive Repaired : Bytes → List Char → Prop where
  /-- there is nothing -/
  | nil : Repaired [] []
  /-- a character is left -/
  | char {bs : Bytes} {text : List Char} (c : Char) (h : Repaired bs text) :
      Repaired (String.utf8EncodeChar c ++ bs) (c :: text)
  /-- an invalid part is replaced -/
  | invalid {bad bs : Bytes} {text : List Char} (hbad : Invalid bad bs) (h : Repaired bs text) :
      Repaired (bad ++ bs) (replacement :: text)

/-- The octets of a character are a well-formed sequence, whatever it begins with. -/
theorem exists_sequence_of_prefix {c : Char} (h : b :: bs <+: String.utf8EncodeChar c) :
    ∃ tail, Sequence c.toNat (b :: tail) ∧ String.utf8EncodeChar c = b :: tail ∧ bs <+: tail := by
  obtain ⟨tail, htail⟩ := h
  refine ⟨bs ++ tail, ?_, htail.symm, List.prefix_append bs tail⟩
  rw [← List.cons_append, htail]
  exact sequence_encodeChar c

/-- **A character is read**, whatever follows it. -/
theorem readChar_encodeChar (hc : String.utf8EncodeChar c = b :: tail) (rest : Bytes) :
    readChar b (tail ++ rest) = (some c, tail.length) := by
  have hseq : Sequence c.toNat (b :: tail) := hc ▸ sequence_encodeChar c
  rw [hseq.readChar_eq, Char.ofNat_toNat]

/-- A character begins with what a well-formed sequence begins with. -/
theorem Sequence.begins {n : Nat} {p : Bytes} (hn : Sequence n (b :: tail)) (hp : p <+: tail) : Begins (b :: p) := by
  refine ⟨Char.ofNat n, ?_⟩
  rw [hn.encodeChar_eq.2]
  exact List.cons_prefix_cons.2 ⟨rfl, hp⟩

/-- **What is passed over is a maximal invalid part.** -/
theorem invalid_of_readChar (h : readChar b rest = (none, k)) :
    k ≤ rest.length ∧ Invalid (b :: rest.take k) (rest.drop k) := by
  have hreads : Reads b rest (readChar b rest) := reads_readChar b rest
  rw [h] at hreads
  cases hreads with
  | fault hle hbegins hmost =>
      refine ⟨hle, ?_, List.cons_ne_nil _ _, ?_, ?_⟩
      · -- a character that stands there would have been read
        intro c hc
        rw [List.cons_append, List.take_append_drop] at hc
        have hne : String.utf8EncodeChar c ≠ [] := String.utf8EncodeChar_ne_nil
        obtain ⟨b', tail, hencode⟩ := List.exists_cons_of_ne_nil hne
        rw [hencode] at hc
        obtain ⟨rfl, more, rfl⟩ := List.cons_prefix_cons.1 hc
        rw [readChar_encodeChar hencode] at h
        cases h
      · rcases Nat.eq_zero_or_pos k with rfl | hk
        · exact Or.inr rfl
        · obtain ⟨n, tail, hn, htail⟩ := hbegins hk
          exact Or.inl (hn.begins htail)
      · rintro p hp ⟨c, hc⟩
        rw [List.cons_append, List.take_append_drop] at hp
        rcases List.prefix_cons_iff.1 hp with rfl | ⟨q, rfl, hq⟩
        · exact Nat.zero_le _
        · obtain ⟨tail, hn, -, htail⟩ := exists_sequence_of_prefix hc
          have hmost := hmost _ _ _ hn htail hq
          rw [List.length_cons, List.length_cons, List.length_take_of_le hle]
          exact Nat.succ_le_succ hmost

/-- **A maximal invalid part is passed over.** -/
theorem readChar_of_invalid (hle : k ≤ rest.length) (hbad : Invalid (b :: rest.take k) (rest.drop k)) :
    readChar b rest = (none, k) := by
  have hreads : Reads b rest (readChar b rest) := reads_readChar b rest
  generalize readChar b rest = r at hreads
  cases hreads with
  | @read n tail more h hrest =>
      -- a character stands there
      refine absurd ?_ (hbad.not_char (Char.ofNat n))
      rw [List.cons_append, List.take_append_drop, hrest, h.encodeChar_eq.2]
      exact List.prefix_append (b :: tail) more
  | @fault m hm hbegins hmost =>
      have hleft : m ≤ k := by
        rcases Nat.eq_zero_or_pos m with rfl | hpos
        · exact Nat.zero_le k
        · obtain ⟨n, tail, hn, htail⟩ := hbegins hpos
          have hprefix : b :: rest.take m <+: b :: rest.take k ++ rest.drop k := by
            rw [List.cons_append, List.take_append_drop]
            exact List.cons_prefix_cons.2 ⟨rfl, List.take_prefix m rest⟩
          have hlength := hbad.maximal _ hprefix (hn.begins htail)
          rw [List.length_cons, List.length_cons, List.length_take_of_le hle, List.length_take_of_le hm] at hlength
          exact Nat.le_of_succ_le_succ hlength
      have hright : k ≤ m := by
        rcases hbad.begins with ⟨c, hc⟩ | hone
        · obtain ⟨tail, hn, -, htail⟩ := exists_sequence_of_prefix hc
          have hlength := hmost _ _ _ hn htail (List.take_prefix k rest)
          rwa [List.length_take_of_le hle] at hlength
        · rw [List.length_cons, List.length_take_of_le hle] at hone
          omega
      rw [Nat.le_antisymm hleft hright]

/-- Of nothing nothing is read. -/
theorem decode_nil : decode [] = [] := by
  rw [decode, read]
  rfl

/-- Reading goes on behind what has been read. -/
theorem decode_cons (b : UInt8) (rest : Bytes) :
    decode (b :: rest) = (readChar b rest).1.getD replacement :: decode (rest.drop (readChar b rest).2) := by
  rw [decode, read]
  rfl

/-- What octets are read as is what they are repaired to. -/
theorem repaired_decode (bs : Bytes) : Repaired bs (decode bs) := by
  induction hlength : bs.length using Nat.strongRecOn generalizing bs with
  | ind l ih =>
      cases bs with
      | nil =>
          rw [decode_nil]
          exact .nil
      | cons b rest =>
          subst hlength
          have hrest : Repaired (rest.drop (readChar b rest).2) (decode (rest.drop (readChar b rest).2)) :=
            ih _ (by rw [List.length_drop, List.length_cons]; omega) _ rfl
          rw [decode_cons]
          have hreads : Reads b rest (readChar b rest) := reads_readChar b rest
          generalize hread : readChar b rest = r at hrest hreads ⊢
          cases hreads with
          | @read n tail more h hmore =>
              subst hmore
              rw [List.drop_left] at hrest ⊢
              have hchar := Repaired.char (Char.ofNat n) hrest
              rwa [h.encodeChar_eq.2] at hchar
          | @fault k hle _ _ =>
              have hbad := (invalid_of_readChar hread).2
              have hinvalid := Repaired.invalid hbad hrest
              rwa [List.cons_append, List.take_append_drop] at hinvalid

/-- **Octets are read as the text that they are repaired to.** -/
theorem decode_eq_iff {text : List Char} : decode bs = text ↔ Repaired bs text := by
  refine ⟨fun h => h ▸ repaired_decode bs, fun h => ?_⟩
  induction h with
  | nil => exact decode_nil
  | @char bs text c h ih =>
      have hne : String.utf8EncodeChar c ≠ [] := String.utf8EncodeChar_ne_nil
      obtain ⟨b, tail, hc⟩ := List.exists_cons_of_ne_nil hne
      rw [hc, List.cons_append, decode_cons, readChar_encodeChar hc, List.drop_left, ih]
      rfl
  | @invalid bad bs text hbad h ih =>
      obtain ⟨b, tail, rfl⟩ := List.exists_cons_of_ne_nil hbad.ne_nil
      have hread : readChar b (tail ++ bs) = (none, tail.length) :=
        readChar_of_invalid (by simp) (by rwa [List.take_left, List.drop_left])
      rw [List.cons_append, decode_cons, hread, List.drop_left, ih]
      rfl

/-- **A text is read from its octets.** -/
theorem decode_encode (s : String) : decode (encode s) = s.toList := by
  rw [decode_eq_iff, encode]
  induction s.toList with
  | nil => exact .nil
  | cons c text ih => exact .char c ih

end NetworkAgent.Utf8
