import NetworkAgent.Text.Utf8

/-! # The order of texts is that of their octets

UTF-8 puts characters into octets so that the order of the characters can be seen in the octets: a longer form starts
with a greater octet, and forms of one length compare like numerals.

* `Utf8.encodeChar_append_lt` — the octets of a character tell it from a greater one, whatever comes after them.
* **`Utf8.encode_lt_encode`** — a text that comes before another does so octet by octet. -/

namespace NetworkAgent.Utf8

/-- Octets compare like those after them if the first two do not tell. -/
theorem ofNat_cons_lt {m n : Nat} {xs ys : List UInt8} (hn : n < 256) (hle : m ≤ n) (h : m = n → xs < ys) :
    UInt8.ofNat m :: xs < UInt8.ofNat n :: ys := by
  rcases Nat.lt_or_eq_of_le hle with hlt | heq
  · exact List.cons_lt_cons_iff.2 (Or.inl ((UInt8.ofNat_lt_iff_lt (Nat.lt_trans hlt hn) hn).2 hlt))
  · exact List.cons_lt_cons_iff.2 (Or.inr ⟨congrArg UInt8.ofNat heq, h heq⟩)

/-- **The octets of a character come before those of a greater one**, whatever comes after them. -/
theorem encodeChar_append_lt {c d : Char} (h : c < d) (xs ys : List UInt8) :
    String.utf8EncodeChar c ++ xs < String.utf8EncodeChar d ++ ys := by
  have hlt : c.val.toNat < d.val.toNat := h
  have hd : d.val.toNat < 0x110000 := by
    rcases d.valid with hd | hd
    · exact Nat.lt_trans hd (by decide)
    · exact hd.2
  simp only [String.utf8EncodeChar]
  generalize c.val.toNat = v at hlt
  generalize d.val.toNat = w at hlt hd
  -- by the lengths of the two forms, of which the first is no longer than the second
  repeat' split
  all_goals try omega
  all_goals simp only [List.cons_append, List.nil_append]
  -- one octet, against one to four
  · exact ofNat_cons_lt (by omega) (by omega) (by omega)
  · exact ofNat_cons_lt (by omega) (by omega) (by omega)
  · exact ofNat_cons_lt (by omega) (by omega) (by omega)
  · exact ofNat_cons_lt (by omega) (by omega) (by omega)
  -- two octets, against two to four
  · refine ofNat_cons_lt (by omega) (by omega) fun _ => ?_
    exact ofNat_cons_lt (by omega) (by omega) (by omega)
  · exact ofNat_cons_lt (by omega) (by omega) (by omega)
  · exact ofNat_cons_lt (by omega) (by omega) (by omega)
  -- three octets, against three and four
  · refine ofNat_cons_lt (by omega) (by omega) fun _ => ?_
    refine ofNat_cons_lt (by omega) (by omega) fun _ => ?_
    exact ofNat_cons_lt (by omega) (by omega) (by omega)
  · exact ofNat_cons_lt (by omega) (by omega) (by omega)
  -- four octets, against four
  · refine ofNat_cons_lt (by omega) (by omega) fun _ => ?_
    refine ofNat_cons_lt (by omega) (by omega) fun _ => ?_
    refine ofNat_cons_lt (by omega) (by omega) fun _ => ?_
    exact ofNat_cons_lt (by omega) (by omega) (by omega)

/-- **A text that comes before another does so octet by octet.** -/
theorem encode_lt_encode {s t : String} (h : s < t) : encode s < encode t := by
  have hl : s.toList < t.toList := String.lt_iff.1 h
  rw [encode, encode]
  generalize s.toList = cs at hl
  generalize t.toList = ds at hl
  -- along the characters that the two have in common
  induction hl with
  | @nil d ds =>
      rw [List.flatMap_nil, List.flatMap_cons]
      have hne : String.utf8EncodeChar d ≠ [] := String.utf8EncodeChar_ne_nil
      obtain ⟨b, bs, hb⟩ := List.exists_cons_of_ne_nil hne
      rw [hb]
      exact List.nil_lt_cons b _
  | rel hcd => exact encodeChar_append_lt hcd _ _
  | cons _ ih => exact List.append_left_lt ih

end NetworkAgent.Utf8
