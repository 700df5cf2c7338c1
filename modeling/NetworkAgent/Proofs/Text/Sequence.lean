import NetworkAgent.Proofs.Json.Reading
import NetworkAgent.Text.Utf8

/-! # Well-formed sequences of octets

A character is encoded as one to four octets. Which sequences of octets encode one can be told from the octets alone:
the first tells how many there are, the second keeps to narrower bounds behind some of them, and the others only
continue the character.

* **`Utf8.Start`** — how two octets begin a character; by `Utf8.start_iff` these are the bounds that are read.
* **`Utf8.Sequence`** — a well-formed sequence, with the number that it spells. By `Utf8.sequence_encodeChar` and
  `Utf8.Sequence.encodeChar_eq` well-formed sequences are what characters are encoded as.
* **`Utf8.reads_readChar`** — what reading a character comes to: a well-formed sequence is read, or as much is passed
  over as one could begin with. -/

namespace NetworkAgent.Utf8

open Message (Bytes)

variable {b s : UInt8} {n width : Nat} {bs tail rest : Bytes}

/-! ## Well-formed sequences -/

/-- The octets that others follow, by their numbers. -/
theorem lead_eq (b : UInt8) :
    lead b =
      if 0xC2 ≤ b.toNat ∧ b.toNat ≤ 0xDF then some (2, 0x80, 0xBF)
      else if b.toNat = 0xE0 then some (3, 0xA0, 0xBF)
      else if b.toNat = 0xED then some (3, 0x80, 0x9F)
      else if 0xE1 ≤ b.toNat ∧ b.toNat ≤ 0xEF then some (3, 0x80, 0xBF)
      else if b.toNat = 0xF0 then some (4, 0x90, 0xBF)
      else if 0xF1 ≤ b.toNat ∧ b.toNat ≤ 0xF3 then some (4, 0x80, 0xBF)
      else if b.toNat = 0xF4 then some (4, 0x80, 0x8F)
      else none := by
  simp only [lead, Bool.and_eq_true, decide_eq_true_eq, beq_iff_eq, UInt8.le_iff_toNat_le, ← UInt8.toNat_inj]
  rfl

/-- The range of the octets that continue a character. -/
theorem isContinuation_iff : isContinuation b = true ↔ 0x80 ≤ b.toNat ∧ b.toNat ≤ 0xBF := by
  rw [isContinuation, Bool.and_eq_true, decide_eq_true_eq, decide_eq_true_eq, UInt8.le_iff_toNat_le,
    UInt8.le_iff_toNat_le]
  rfl

/-- **How the first two octets of several begin a character**: the first tells how many there are, and the second must
keep out overlong forms, surrogates, and what lies above the last code point. -/
structure Start (width : Nat) (b s : UInt8) : Prop where
  /-- The first octet tells the width. -/
  range : (width = 2 ∧ 0xC2 ≤ b.toNat ∧ b.toNat ≤ 0xDF) ∨ (width = 3 ∧ 0xE0 ≤ b.toNat ∧ b.toNat ≤ 0xEF) ∨
    (width = 4 ∧ 0xF0 ≤ b.toNat ∧ b.toNat ≤ 0xF4)
  /-- The second continues it. -/
  continues : 0x80 ≤ s.toNat ∧ s.toNat ≤ 0xBF
  /-- No form of three octets is overlong. -/
  overlong_three : b.toNat = 0xE0 → 0xA0 ≤ s.toNat
  /-- No form of four octets is overlong. -/
  overlong_four : b.toNat = 0xF0 → 0x90 ≤ s.toNat
  /-- No surrogate is spelled. -/
  surrogate : b.toNat = 0xED → s.toNat ≤ 0x9F
  /-- Nothing above the last code point is spelled. -/
  last : b.toNat = 0xF4 → s.toNat ≤ 0x8F

/-- **The bounds of the second octet** keep to that. -/
theorem start_iff : (∃ low high, lead b = some (width, low, high) ∧ low ≤ s ∧ s ≤ high) ↔ Start width b s := by
  constructor
  · rintro ⟨low, high, hlead, hlow, hhigh⟩
    rw [lead_eq] at hlead
    rw [UInt8.le_iff_toNat_le] at hlow hhigh
    repeat' split at hlead
    all_goals cases hlead
    all_goals simp only [UInt8.reduceToNat] at hlow hhigh
    all_goals constructor <;> omega
  · rintro ⟨hrange, hs, hthree, hfour, hsurrogate, hlast⟩
    simp only [lead_eq, UInt8.le_iff_toNat_le]
    repeat' split
    all_goals try omega
    all_goals
      refine ⟨_, _, congrArg some (Prod.ext ?_ rfl), ?_, ?_⟩
      all_goals simp only [UInt8.reduceToNat]
      all_goals omega

/-- **A well-formed sequence of octets**, with the number that its bits spell. -/
inductive Sequence (n : Nat) : Bytes → Prop where
  /-- one octet -/
  | one {b : UInt8} (hb : b.toNat < 0x80) (hn : n = b.toNat) : Sequence n [b]
  /-- two octets -/
  | two {b s : UInt8} (hs : Start 2 b s) (hn : n = extend (b.toNat % 32) s) : Sequence n [b, s]
  /-- three octets -/
  | three {b s t : UInt8} (hs : Start 3 b s) (ht : isContinuation t = true)
      (hn : n = extend (extend (b.toNat % 16) s) t) : Sequence n [b, s, t]
  /-- four octets -/
  | four {b s t u : UInt8} (hs : Start 4 b s) (ht : isContinuation t = true) (hu : isContinuation u = true)
      (hn : n = extend (extend (extend (b.toNat % 8) s) t) u) : Sequence n [b, s, t, u]

/-- **A character is encoded as a well-formed sequence**, which spells its number. -/
theorem sequence_encodeChar (c : Char) : Sequence c.toNat (String.utf8EncodeChar c) := by
  have hvalid : c.val.toNat < 0xD800 ∨ (0xDFFF < c.val.toNat ∧ c.val.toNat < 0x110000) := c.valid
  have hofNat (m : Nat) (hm : m < 256) : (UInt8.ofNat m).toNat = m := Nat.mod_eq_of_lt hm
  change Sequence c.val.toNat _
  simp only [String.utf8EncodeChar]
  generalize c.val.toNat = v at hvalid
  split
  · next h =>
    have hv := hofNat v (by omega)
    exact .one (by omega) hv.symm
  · split
    · next h =>
      have hfirst := hofNat (v / 64 % 32 + 192) (by omega)
      have hsecond := hofNat (v % 64 + 128) (by omega)
      refine .two ?_ ?_
      · constructor <;> omega
      · rw [extend]; omega
    · split
      · next h =>
        have hfirst := hofNat (v / 4096 % 16 + 224) (by omega)
        have hsecond := hofNat (v / 64 % 64 + 128) (by omega)
        have hthird := hofNat (v % 64 + 128) (by omega)
        refine .three ?_ ?_ ?_
        · constructor <;> omega
        · rw [isContinuation_iff]
          omega
        · simp only [extend]; omega
      · next h =>
        have hfirst := hofNat (v / 262144 % 8 + 240) (by omega)
        have hsecond := hofNat (v / 4096 % 64 + 128) (by omega)
        have hthird := hofNat (v / 64 % 64 + 128) (by omega)
        have hfourth := hofNat (v % 64 + 128) (by omega)
        refine .four ?_ ?_ ?_ ?_
        · constructor <;> omega
        · rw [isContinuation_iff]
          omega
        · rw [isContinuation_iff]
          omega
        · simp only [extend]; omega

/-- **A well-formed sequence encodes the character of its number.** -/
theorem Sequence.encodeChar_eq (h : Sequence n bs) :
    (Char.ofNat n).toNat = n ∧ String.utf8EncodeChar (Char.ofNat n) = bs := by
  have hoctet {m : Nat} {b : UInt8} (hm : m = b.toNat) : UInt8.ofNat m = b := hm ▸ UInt8.ofNat_toNat
  have hencode (hvalid : n.isValidChar) (henc : (if n ≤ 127 then [UInt8.ofNat n]
      else if n ≤ 2047 then [UInt8.ofNat (n / 64 % 32 + 192), UInt8.ofNat (n % 64 + 128)]
      else if n ≤ 65535 then
        [UInt8.ofNat (n / 4096 % 16 + 224), UInt8.ofNat (n / 64 % 64 + 128), UInt8.ofNat (n % 64 + 128)]
      else [UInt8.ofNat (n / 262144 % 8 + 240), UInt8.ofNat (n / 4096 % 64 + 128),
        UInt8.ofNat (n / 64 % 64 + 128), UInt8.ofNat (n % 64 + 128)]) = bs) :
      (Char.ofNat n).toNat = n ∧ String.utf8EncodeChar (Char.ofNat n) = bs := by
    have hn : (Char.ofNat n).toNat = n := Json.toNat_ofNat hvalid
    have hval : (Char.ofNat n).val.toNat = n := hn
    refine ⟨hn, ?_⟩
    simp only [String.utf8EncodeChar, hval]
    exact henc
  cases h with
  | @one b hb hn =>
      refine hencode (Or.inl (by omega)) ?_
      rw [if_pos (by omega), hoctet hn]
  | @two b s hs hn =>
      obtain ⟨hrange, hcontinues, -, -, -, -⟩ := hs
      rw [extend] at hn
      refine hencode (Or.inl (by omega)) ?_
      rw [if_neg (by omega), if_pos (by omega), hoctet (b := b) (by omega), hoctet (b := s) (by omega)]
  | @three b s t hs ht hn =>
      obtain ⟨hrange, hcontinues, hthree, -, hsurrogate, -⟩ := hs
      rw [isContinuation_iff] at ht
      simp only [extend] at hn
      refine hencode (by rw [Nat.isValidChar]; omega) ?_
      rw [if_neg (by omega), if_neg (by omega), if_pos (by omega), hoctet (b := b) (by omega),
        hoctet (b := s) (by omega), hoctet (b := t) (by omega)]
  | @four b s t u hs ht hu hn =>
      obtain ⟨hrange, hcontinues, -, hfour, -, hlast⟩ := hs
      rw [isContinuation_iff] at ht hu
      simp only [extend] at hn
      refine hencode (by rw [Nat.isValidChar]; omega) ?_
      rw [if_neg (by omega), if_neg (by omega), if_neg (by omega), hoctet (b := b) (by omega),
        hoctet (b := s) (by omega), hoctet (b := t) (by omega), hoctet (b := u) (by omega)]

/-! ## Reading one character -/

/-- The first of several octets is none alone. -/
theorem Start.not_lt (h : Start width b s) : ¬b < 0x80 := by
  rw [UInt8.lt_iff_toNat_lt]
  change ¬b.toNat < 0x80
  have := h.range
  omega

/-- **A well-formed sequence is read**, whatever follows it. -/
theorem Sequence.readChar_eq (h : Sequence n (b :: tail)) (rest : Bytes) :
    readChar b (tail ++ rest) = (some (Char.ofNat n), tail.length) := by
  cases h with
  | one hb hn =>
      rw [readChar, if_pos (UInt8.lt_iff_toNat_lt.2 hb), hn]
      rfl
  | two hs hn =>
      obtain ⟨low, high, hlead, hlow, hhigh⟩ := start_iff.2 hs
      rw [readChar, if_neg hs.not_lt, hlead]
      simp [hlow, hhigh, hn]
  | three hs ht hn =>
      obtain ⟨low, high, hlead, hlow, hhigh⟩ := start_iff.2 hs
      rw [readChar, if_neg hs.not_lt, hlead]
      simp [hlow, hhigh, ht, hn]
  | four hs ht hu hn =>
      obtain ⟨low, high, hlead, hlow, hhigh⟩ := start_iff.2 hs
      rw [readChar, if_neg hs.not_lt, hlead]
      simp [hlow, hhigh, ht, hu, hn]

/-- What a well-formed sequence and other octets begin with alike. -/
theorem Sequence.common (h : Sequence n (b :: tail)) {p : Bytes} (hp : p <+: tail) (hr : p <+: rest) :
    p = [] ∨ ∃ width s q r, p = s :: q ∧ rest = s :: r ∧ Start width b s ∧ q <+: r ∧
      ∀ x ∈ q, isContinuation x = true := by
  have hstart {width : Nat} {s : UInt8} {more : Bytes} (hs : Start width b s)
      (hmore : ∀ x ∈ more, isContinuation x = true) (hp : p <+: s :: more) :
      p = [] ∨ ∃ width s q r, p = s :: q ∧ rest = s :: r ∧ Start width b s ∧ q <+: r ∧
        ∀ x ∈ q, isContinuation x = true := by
    rcases List.prefix_cons_iff.1 hp with rfl | ⟨q, rfl, hq⟩
    · exact Or.inl rfl
    · obtain ⟨more', rfl⟩ := hr
      exact Or.inr ⟨width, s, q, q ++ more', rfl, rfl, hs, List.prefix_append q more',
        fun x hx => hmore x (hq.subset hx)⟩
  cases h with
  | one => exact Or.inl (List.prefix_nil.1 hp)
  | two hs => exact hstart hs (List.forall_mem_nil _) hp
  | three hs ht => exact hstart hs (List.forall_mem_singleton.2 ht) hp
  | four hs ht hu => exact hstart hs (List.forall_mem_cons.2 ⟨ht, List.forall_mem_singleton.2 hu⟩) hp

/-- Where an octet does not continue a character, no well-formed sequence goes on. -/
theorem Sequence.length_le (h : Sequence n (b :: tail)) {p good more : Bytes} (hp : p <+: tail)
    (hr : p <+: s :: (good ++ more)) (hmore : ∀ x ∈ more.head?, isContinuation x = false) :
    p.length ≤ good.length + 1 := by
  rcases h.common hp hr with rfl | ⟨_, _, q, r, rfl, hs, -, hq, hcontinues⟩
  · exact Nat.zero_le _
  · cases hs
    rcases List.prefix_or_prefix_of_prefix hq (List.prefix_append good more) with hle | ⟨q, rfl⟩
    · exact Nat.succ_le_succ hle.length_le
    · cases q with
      | nil => simp
      | cons x q =>
          -- what goes on there continues a character
          obtain ⟨r, hr⟩ := (List.prefix_append_right_inj good).1 hq
          have hx : isContinuation x = true := hcontinues x (by simp)
          rw [hmore x (by rw [← hr]; rfl)] at hx
          cases hx

/-- **What reading a character can come to.** -/
inductive Reads (b : UInt8) (rest : Bytes) : Option Char × Nat → Prop where
  /-- a well-formed sequence is read -/
  | read {n : Nat} {tail more : Bytes} (h : Sequence n (b :: tail)) (hrest : rest = tail ++ more) :
      Reads b rest (some (Char.ofNat n), tail.length)
  /-- there is none, and as much is passed over as one could begin with -/
  | fault {k : Nat} (hle : k ≤ rest.length)
      (hbegins : 0 < k → ∃ n tail, Sequence n (b :: tail) ∧ rest.take k <+: tail)
      (hmost : ∀ n tail p, Sequence n (b :: tail) → p <+: tail → p <+: rest → p.length ≤ k) : Reads b rest (none, k)

/-- A well-formed sequence is what is read. -/
theorem Sequence.reads (h : Sequence n (b :: tail)) (rest : Bytes) :
    Reads b (tail ++ rest) (readChar b (tail ++ rest)) := by
  rw [h.readChar_eq]
  exact .read h rfl

/-- What follows the first octet is passed over up to where no character goes on. -/
theorem reads_fault {good fill : Bytes} (h : Sequence n (b :: s :: (good ++ fill))) (more : Bytes)
    (hmore : ∀ x ∈ more.head?, isContinuation x = false) :
    Reads b (s :: (good ++ more)) (none, good.length + 1) := by
  refine .fault (by simp) (fun _ => ⟨n, _, h, ?_⟩) fun m tail p hm hp hr => hm.length_le hp hr hmore
  rw [List.take_succ_cons, List.take_left]
  exact List.prefix_append (s :: good) fill

/-- Nothing is passed over but the first octet, if it begins no character with what follows it. -/
theorem reads_of_not_start (hb : ¬b < 0x80) (h : ∀ width, ∀ s ∈ rest.head?, ¬Start width b s) :
    Reads b rest (readChar b rest) := by
  have hread : readChar b rest = (none, 0) := by
    rw [readChar, if_neg hb]
    cases hlead : lead b with
    | none => rfl
    | some bounds =>
        obtain ⟨width, low, high⟩ := bounds
        cases rest with
        | nil => rfl
        | cons s rest =>
            have hs : ¬(low ≤ s ∧ s ≤ high) := fun hs => h width s rfl (start_iff.1 ⟨low, high, hlead, hs⟩)
            simpa using fun hlow hhigh => absurd ⟨hlow, hhigh⟩ hs
  rw [hread]
  refine .fault (Nat.zero_le _) nofun fun n tail p hn hp hr => ?_
  rcases hn.common hp hr with rfl | ⟨width, s, q, r, rfl, rfl, hs, -, -⟩
  · exact Nat.le_refl _
  · exact absurd hs (h width s rfl)

/-- What is read if the first two octets begin a character of three. -/
theorem reads_of_start_three (hs : Start 3 b s) (rest : Bytes) : Reads b (s :: rest) (readChar b (s :: rest)) := by
  obtain ⟨low, high, hlead, hlow, hhigh⟩ := start_iff.2 hs
  have hn : Sequence _ (b :: s :: ([] ++ [0x80])) := .three hs rfl rfl
  cases rest with
  | nil =>
      have hread : readChar b [s] = (none, 1) := by simp [readChar, hs.not_lt, hlead, hlow, hhigh]
      rw [hread]
      exact reads_fault hn [] nofun
  | cons t rest =>
      cases ht : isContinuation t with
      | true => exact (Sequence.three hs ht rfl).reads rest
      | false =>
          have hread : readChar b (s :: t :: rest) = (none, 1) := by
            simp [readChar, hs.not_lt, hlead, hlow, hhigh, ht]
          rw [hread]
          exact reads_fault hn (t :: rest) (by simpa using ht)

/-- What is read if they begin a character of four. -/
theorem reads_of_start_four (hs : Start 4 b s) (rest : Bytes) : Reads b (s :: rest) (readChar b (s :: rest)) := by
  obtain ⟨low, high, hlead, hlow, hhigh⟩ := start_iff.2 hs
  -- wherever it stops, octets that continue it would make it whole
  have hn : Sequence _ (b :: s :: ([] ++ [0x80, 0x80])) := .four hs rfl rfl rfl
  rcases rest with _ | ⟨t, rest⟩
  · have hread : readChar b [s] = (none, 1) := by simp [readChar, hs.not_lt, hlead, hlow, hhigh]
    rw [hread]
    exact reads_fault hn [] nofun
  cases ht : isContinuation t with
  | false =>
      have hread : readChar b (s :: t :: rest) = (none, 1) := by
        simp [readChar, hs.not_lt, hlead, hlow, hhigh, ht]
      rw [hread]
      exact reads_fault hn (t :: rest) (by simpa using ht)
  | true =>
      have hn : Sequence _ (b :: s :: ([t] ++ [0x80])) := .four hs ht rfl rfl
      rcases rest with _ | ⟨u, rest⟩
      · have hread : readChar b [s, t] = (none, 2) := by simp [readChar, hs.not_lt, hlead, hlow, hhigh, ht]
        rw [hread]
        exact reads_fault hn [] nofun
      cases hu : isContinuation u with
      | false =>
          have hread : readChar b (s :: t :: u :: rest) = (none, 2) := by
            simp [readChar, hs.not_lt, hlead, hlow, hhigh, ht, hu]
          rw [hread]
          exact reads_fault hn (u :: rest) (by simpa using hu)
      | true => exact (Sequence.four hs ht hu rfl).reads rest

/-- **Reading a character comes to one of these.** -/
theorem reads_readChar (b : UInt8) (rest : Bytes) : Reads b rest (readChar b rest) := by
  by_cases hb : b < 0x80
  · exact (Sequence.one (UInt8.lt_iff_toNat_lt.1 hb) rfl).reads rest
  by_cases hstart : ∃ width, ∃ s ∈ rest.head?, Start width b s
  · obtain ⟨width, s, hs, hstart⟩ := hstart
    obtain ⟨rest, rfl⟩ := List.head?_eq_some_iff.1 hs
    rcases hstart.range with ⟨rfl, -⟩ | ⟨rfl, -⟩ | ⟨rfl, -⟩
    · exact (Sequence.two hstart rfl).reads rest
    · exact reads_of_start_three hstart rest
    · exact reads_of_start_four hstart rest
  · exact reads_of_not_start hb fun width s hs h => hstart ⟨width, s, hs, h⟩

end NetworkAgent.Utf8
