import NetworkAgent.Address.Ip
import NetworkAgent.Proofs.Text.Numeral

/-! # Reading addresses

The texts of an address, said without the readers, and what the readers make of them: the octets of the address in
network order.

* **`Ip.IsV4`** and **`Ip.IsV6`** — the texts of an address, with the octets that they stand for. An IPv6 address is
  made of groups, in a `Run` or in two `Part`s around two colons.
* `Ip.readQuad_eq_some_iff`, `Ip.readGroup_eq_some_iff` — dotted quads and groups are read to the end of their digits.
* `Ip.readGroups_cases` and `Ip.readGroups_append` — only runs are read, and each of them to its `Boundary`.
* **`Ip.ofChars?_iff`** — an address is read if and only if it is written as one. -/

namespace NetworkAgent.Ip

open Message (Bytes)
open Json (Stops stops_cons stops_nil takeWhile_dropWhile_iff)

variable {s t r : List Char} {a b c d : UInt8}

/-! ## The grammar -/

/-- The text of an octet: its decimal numeral without superfluous zeros. -/
def octetText (a : UInt8) : List Char := Nat.toDigits 10 a.toNat

/-- A dotted quad. -/
def quad (a b c d : UInt8) : List Char :=
  octetText a ++ '.' :: (octetText b ++ '.' :: (octetText c ++ '.' :: octetText d))

/-- A group: one to four hexadecimal digits that spell two octets. -/
structure IsGroup (a b : UInt8) (t : List Char) : Prop where
  /-- The digits spell the octets. -/
  numeral : Numeral 16 (a.toNat * 256 + b.toNat) t
  /-- There are no more than four. -/
  length_le : t.length ≤ 4

/-- **A run of groups**, with colons between them, and the octets that it stands for. A dotted quad may stand for the
last four of them. -/
inductive Run : Bool → Bytes → List Char → Prop where
  /-- one group -/
  | group {a b : UInt8} {t : List Char} (h : IsGroup a b t) : Run false [a, b] t
  /-- a dotted quad -/
  | quad (a b c d : UInt8) : Run true [a, b, c, d] (quad a b c d)
  /-- a group in front of others -/
  | cons {a b : UInt8} {s t : List Char} {dotted : Bool} {os : Bytes} (h : IsGroup a b s) (ht : Run dotted os t) :
      Run dotted (a :: b :: os) (s ++ ':' :: t)

/-- A run of groups, or none. -/
inductive Part : Bool → Bytes → List Char → Prop where
  /-- there is none -/
  | none : Part false [] []
  /-- there is one -/
  | run {dotted : Bool} {os : Bytes} {t : List Char} (h : Run dotted os t) : Part dotted os t

/-- **The text of an IPv6 address**, with the octets that it stands for: eight groups, or fewer around two colons, which
stand for one or more groups of zeros. -/
inductive IsV6 : Bytes → List Char → Prop where
  /-- all groups are written -/
  | full {os : Bytes} {t : List Char} {dotted : Bool} (h : Run dotted os t) (hlength : os.length = 16) : IsV6 os t
  /-- groups of zeros are left out -/
  | compressed {front back : Bytes} {s t : List Char} {dotted : Bool} {zeros : Nat} (hs : Part false front s)
      (ht : Part dotted back t) (hzeros : 1 ≤ zeros) (hlength : front.length + 2 * zeros + back.length = 16) :
      IsV6 (front ++ (List.replicate (2 * zeros) 0 ++ back)) (s ++ ':' :: ':' :: t)

/-- **The text of an IPv4 address**, with the octets that it stands for. -/
inductive IsV4 : Bytes → List Char → Prop where
  /-- a dotted quad -/
  | quad (a b c d : UInt8) : IsV4 [a, b, c, d] (quad a b c d)

/-! ## Dotted quads -/

/-- A given character is read. -/
theorem readChar_eq_some_iff {c : Char} : readChar c s = some r ↔ s = c :: r := by
  cases s with
  | nil => exact iff_of_false nofun nofun
  | cons d s =>
      rw [readChar, Option.ite_none_right_eq_some, Option.some_inj, List.cons.injEq, eq_comm (a := c)]

/-- **An octet is read to the end of its digits.** -/
theorem readOctet_eq_some_iff : readOctet s = some (a, r) ↔ s = octetText a ++ r ∧ Stops Char.isDigit r := by
  constructor
  · intro h
    simp only [readOctet, Option.ite_none_right_eq_some, Option.some_inj, Prod.mk.injEq] at h
    obtain ⟨⟨hne, -, hle, hzero⟩, rfl, rfl⟩ := h
    obtain ⟨hs, hdigits, hr⟩ := (takeWhile_dropWhile_iff (p := Char.isDigit) (s := s)).1 ⟨rfl, rfl⟩
    have hwhole : Json.IsWhole (s.takeWhile Char.isDigit) :=
      ⟨⟨hne, hdigits⟩, fun h0 => hzero.resolve_right fun h1 => h1 h0⟩
    have hvalue : (UInt8.ofNat (Nat.ofDigitChars 10 (s.takeWhile Char.isDigit) 0)).toNat
        = Nat.ofDigitChars 10 (s.takeWhile Char.isDigit) 0 := Nat.mod_eq_of_lt (Nat.lt_succ_of_le hle)
    rw [octetText, hvalue, hwhole.toDigits]
    exact ⟨hs, hr⟩
  · rintro ⟨hs, hr⟩
    have hwhole : Json.IsWhole (octetText a) := Json.isWhole_toDigits a.toNat
    have hlength : (octetText a).length ≤ 3 :=
      (Nat.length_toDigits_le_iff (by decide) (by decide)).2 (Nat.lt_trans a.toNat_lt (by decide))
    have hvalue : Nat.ofDigitChars 10 (octetText a) 0 = a.toNat := Nat.ofDigitChars_toDigits (by decide) (by decide)
    have hzero : (octetText a).length = 1 ∨ (octetText a).head? ≠ some '0' := or_iff_not_imp_right.2 fun h =>
      hwhole.zero (Decidable.not_not.1 h)
    obtain ⟨htake, hdrop⟩ := takeWhile_dropWhile_iff.2 ⟨hs, hwhole.digits, hr⟩
    rw [readOctet, htake, hdrop, hvalue]
    rw [if_pos ⟨hwhole.ne_nil, hlength, Nat.le_of_lt_succ a.toNat_lt, hzero⟩, UInt8.ofNat_toNat]

/-- **A dotted quad is read to the end of its digits.** -/
theorem readQuad_eq_some_iff :
    readQuad s = some ((a, b, c, d), r) ↔ s = quad a b c d ++ r ∧ Stops Char.isDigit r := by
  have hdot (u : List Char) : Stops Char.isDigit ('.' :: u) := stops_cons.2 rfl
  simp only [readQuad, Option.bind_eq_bind, Option.bind_eq_some_iff, Prod.exists, readOctet_eq_some_iff,
    readChar_eq_some_iff, Option.pure_def, Option.some_inj, Prod.mk.injEq, quad, List.append_assoc, List.cons_append]
  constructor
  · rintro ⟨_, _, ⟨rfl, -⟩, _, rfl, _, _, ⟨rfl, -⟩, _, rfl, _, _, ⟨rfl, -⟩, _, rfl, _, _, ⟨rfl, hr⟩,
      ⟨rfl, rfl, rfl, rfl⟩, rfl⟩
    exact ⟨rfl, hr⟩
  · rintro ⟨rfl, hr⟩
    exact ⟨a, _, ⟨rfl, hdot _⟩, _, rfl, b, _, ⟨rfl, hdot _⟩, _, rfl, c, _, ⟨rfl, hdot _⟩, _, rfl, d, r, ⟨rfl, hr⟩,
      ⟨rfl, rfl, rfl, rfl⟩, rfl⟩

/-! ## Groups -/

/-- The octets of a group are those that it was made of. -/
theorem groupOctets_pair (a b : UInt8) : groupOctets (pair a b) = [a, b] := by
  have hlow : b.toNat < 256 := b.toNat_lt
  have hhigh : a.toNat < 256 := a.toNat_lt
  have hvalue : (pair a b).toNat = a.toNat * 256 + b.toNat := Nat.mod_eq_of_lt (by omega)
  have hdiv : (a.toNat * 256 + b.toNat) / 256 = a.toNat := by omega
  have hmod : (a.toNat * 256 + b.toNat) % 256 = b.toNat := by omega
  rw [groupOctets, hvalue, hdiv, hmod, UInt8.ofNat_toNat, UInt8.ofNat_toNat]

/-- Every number of sixteen bits is that of two octets. -/
theorem exists_octets {n : Nat} (h : n < 65536) : ∃ a b : UInt8, n = a.toNat * 256 + b.toNat := by
  refine ⟨UInt8.ofNat (n / 256), UInt8.ofNat (n % 256), ?_⟩
  have hhigh : (UInt8.ofNat (n / 256)).toNat = n / 256 := Nat.mod_eq_of_lt (by omega)
  have hlow : (UInt8.ofNat (n % 256)).toNat = n % 256 := Nat.mod_eq_of_lt (by omega)
  rw [hhigh, hlow]
  omega

/-- **A group is read to the end of its digits.** -/
theorem readGroup_eq_some_iff {g : UInt16} :
    readGroup s = some (g, r) ↔
      ∃ a b t, g = pair a b ∧ IsGroup a b t ∧ s = t ++ r ∧ Stops Hex.isDigit r := by
  constructor
  · intro h
    simp only [readGroup, Option.ite_none_right_eq_some, Option.map_eq_some_iff, Prod.mk.injEq] at h
    obtain ⟨⟨hne, hle⟩, n, hn, rfl, rfl⟩ := h
    obtain ⟨hs, -, hr⟩ := (takeWhile_dropWhile_iff (p := Hex.isDigit) (s := s)).1 ⟨rfl, rfl⟩
    have hnumeral : Numeral 16 n (s.takeWhile Hex.isDigit) := Hex.numeral_iff.2 ⟨hne, hn⟩
    have hlt : n < 65536 := Nat.lt_of_lt_of_le hnumeral.lt_pow (Nat.pow_le_pow_right (by decide) hle)
    obtain ⟨a, b, rfl⟩ := exists_octets hlt
    exact ⟨a, b, _, rfl, ⟨hnumeral, hle⟩, hs, hr⟩
  · rintro ⟨a, b, t, rfl, ht, hs, hr⟩
    obtain ⟨hne, hvalue⟩ := Hex.numeral_iff.1 ht.numeral
    obtain ⟨htake, hdrop⟩ := takeWhile_dropWhile_iff.2 ⟨hs, Hex.isDigit_of_mem ht.numeral, hr⟩
    rw [readGroup, htake, hdrop, hvalue]
    exact if_pos ⟨hne, ht.length_le⟩

/-- What does not follow a group within a run: a hexadecimal digit or a point. -/
def isGroupChar (c : Char) : Bool := Hex.isDigit c || c == '.'

/-- Where a group ends, its digits do. -/
theorem stops_hexDigit (hr : Stops isGroupChar r) : Stops Hex.isDigit r :=
  hr.mono fun c hc => by simp only [isGroupChar, hc, Bool.true_or]

/-- **No dotted quad begins with a group.** -/
theorem readQuad_eq_none (ht : ∀ c ∈ t, Hex.isDigit c = true) (hr : Stops isGroupChar r) :
    readQuad (t ++ r) = none := by
  rw [Option.eq_none_iff_forall_not_mem]
  rintro ⟨⟨a, b, c, d⟩, u⟩ hread
  obtain ⟨hs, -⟩ := readQuad_eq_some_iff.1 hread
  have hoctet : ∀ c ∈ octetText a, Hex.isDigit c = true := fun c hc =>
    Decimal.isHexDigit_of_isDigit ((Json.isWhole_toDigits a.toNat).digits c hc)
  rw [quad, List.append_assoc, List.cons_append] at hs
  -- both texts go on behind the same digits
  have hgroup := (takeWhile_dropWhile_iff.2 ⟨rfl, ht, stops_hexDigit hr⟩).2
  have hpoint := (takeWhile_dropWhile_iff.2 ⟨hs, hoctet, stops_cons.2 (by decide)⟩).2
  rw [← hgroup, hpoint] at hr
  exact absurd (stops_cons.1 hr) (by decide)

/-- No group begins where one ends. -/
theorem readGroup_eq_none (hr : Stops isGroupChar r) : readGroup r = none := by
  rw [Option.eq_none_iff_forall_not_mem]
  rintro ⟨g, u⟩ hread
  obtain ⟨a, b, t, -, ht, rfl, -⟩ := readGroup_eq_some_iff.1 hread
  obtain ⟨c, t, rfl⟩ := List.exists_cons_of_ne_nil ht.numeral.ne_nil
  have hdigit : Hex.isDigit c = true := Hex.isDigit_of_mem ht.numeral c (.head _)
  rw [stops_cons.1 (stops_hexDigit hr)] at hdigit
  cases hdigit

/-! ## Runs of groups -/

/-- A run follows a colon, unless it is the first. -/
def led (first : Bool) (t : List Char) : List Char := if first then t else ':' :: t

/-- What follows a run follows its colon too. -/
theorem led_append (first : Bool) (t r : List Char) : led first (t ++ r) = led first t ++ r := by
  cases first <;> rfl

/-- What can follow a run of groups: nothing, or two colons. -/
def Boundary (r : List Char) : Prop := r = [] ∨ ∃ u, r = ':' :: ':' :: u

/-- The colon in front of a run is read. -/
theorem lead_eq_some_iff {first : Bool} :
    (if first then some s else readChar ':' s) = some t ↔ s = led first t := by
  cases first with
  | false => exact readChar_eq_some_iff
  | true => exact Option.some_inj

/-- **Nothing but runs of groups is read.** -/
theorem readGroups_cases (limit : Nat) (first : Bool) (s : List Char) :
    readGroups limit first s = ⟨[], false, s⟩ ∨
      ∃ gs dotted t r, readGroups limit first s = ⟨gs, dotted, r⟩ ∧ Run dotted (gs.flatMap groupOctets) t ∧
        gs.length ≤ limit ∧ s = led first t ++ r := by
  induction limit generalizing first s with
  | zero => exact Or.inl rfl
  | succ limit ih =>
      rw [readGroups]
      split
      · exact Or.inl rfl
      · next t hlead =>
        obtain rfl := lead_eq_some_iff.1 hlead
        split
        · next a b c d r hquad =>
          obtain ⟨hlimit, hread⟩ : limit ≠ 0 ∧ readQuad t = some ((a, b, c, d), r) := by
            simpa using hquad
          obtain ⟨rfl, -⟩ := readQuad_eq_some_iff.1 hread
          refine Or.inr ⟨_, _, quad a b c d, r, rfl, ?_, ?_, led_append _ _ _⟩
          · simp only [List.flatMap_cons, List.flatMap_nil, groupOctets_pair]
            exact .quad a b c d
          · show 2 ≤ limit + 1
            omega
        · split
          · exact Or.inl rfl
          · next g r hread =>
            obtain ⟨a, b, t, rfl, ht, rfl, -⟩ := readGroup_eq_some_iff.1 hread
            right
            rcases ih false r with hmore | ⟨gs, dotted, u, r, hmore, hu, hlength, rfl⟩
            · refine ⟨[pair a b], false, t, r, by rw [hmore], ?_, Nat.le_add_left 1 limit, led_append _ _ _⟩
              simp only [List.flatMap_cons, List.flatMap_nil, groupOctets_pair]
              exact .group ht
            · refine ⟨pair a b :: gs, dotted, t ++ ':' :: u, r, by rw [hmore], ?_, Nat.succ_le_succ hlength, ?_⟩
              · rw [List.flatMap_cons, groupOctets_pair]
                exact .cons ht hu
              · rw [← led_append false, ← led_append first, List.append_assoc]
                rfl

/-- A group is read in front of others. -/
theorem readGroups_group (ht : IsGroup a b t) (hr : Stops isGroupChar r) (limit : Nat) (first : Bool) :
    readGroups (limit + 1) first (led first (t ++ r))
      = ⟨pair a b :: (readGroups limit false r).values, (readGroups limit false r).dotted,
          (readGroups limit false r).rest⟩ := by
  have hgroup : readGroup (t ++ r) = some (pair a b, r) :=
    readGroup_eq_some_iff.2 ⟨a, b, t, rfl, ht, rfl, stops_hexDigit hr⟩
  rw [readGroups, lead_eq_some_iff.2 rfl]
  simp only [readQuad_eq_none (Hex.isDigit_of_mem ht.numeral) hr, ite_self, hgroup]

/-- A dotted quad is read, which ends a run. -/
theorem readGroups_quad (a b c d : UInt8) (hr : Stops Char.isDigit r) {limit : Nat} (hlimit : 2 ≤ limit)
    (first : Bool) :
    readGroups limit first (led first (quad a b c d ++ r)) = ⟨[pair a b, pair c d], true, r⟩ := by
  obtain ⟨limit, rfl⟩ := Nat.exists_eq_add_of_le' hlimit
  rw [readGroups, lead_eq_some_iff.2 rfl]
  simp only [readQuad_eq_some_iff.2 ⟨rfl, hr⟩, Nat.add_one_ne_zero, ↓reduceIte]

/-- Nothing is read where no group begins. -/
theorem readGroups_eq_nil (limit : Nat) {first : Bool} (hs : ∀ t, s = led first t → Stops isGroupChar t) :
    readGroups limit first s = ⟨[], false, s⟩ := by
  cases limit with
  | zero => rfl
  | succ limit =>
      rw [readGroups]
      split
      · rfl
      · next t hlead =>
        have ht : Stops isGroupChar t := hs t (lead_eq_some_iff.1 hlead)
        have hquad : readQuad t = none := readQuad_eq_none (t := []) (List.forall_mem_nil _) ht
        simp only [hquad, ite_self, readGroup_eq_none ht]

/-- A run ends where no group goes on. -/
theorem Boundary.stops (hr : Boundary r) : Stops isGroupChar r := by
  rcases hr with rfl | ⟨u, rfl⟩
  · exact stops_nil _
  · exact stops_cons.2 (by decide)

/-- Nothing is read where a run has come to its end. -/
theorem Boundary.readGroups_eq (hr : Boundary r) (limit : Nat) (first : Bool) :
    readGroups limit first r = ⟨[], false, r⟩ := by
  refine readGroups_eq_nil limit fun t ht => ?_
  cases first with
  | true =>
      obtain rfl : r = t := ht
      exact hr.stops
  | false =>
      -- one colon is not enough for a group to go on behind it
      rcases hr with rfl | ⟨u, rfl⟩
      · cases ht
      · cases ht
        exact stops_cons.2 (by decide)

/-- **A run of groups is read to its end.** -/
theorem readGroups_append {dotted : Bool} {os : Bytes} (h : Run dotted os t) (hr : Boundary r) {limit : Nat}
    (hlimit : os.length ≤ 2 * limit) (first : Bool) :
    ∃ gs, readGroups limit first (led first (t ++ r)) = ⟨gs, dotted, r⟩ ∧ gs.flatMap groupOctets = os := by
  induction h generalizing limit first with
  | @group a b t h =>
      rw [List.length_cons, List.length_singleton] at hlimit
      obtain ⟨limit, rfl⟩ := Nat.exists_eq_add_of_le' (show 1 ≤ limit by omega)
      refine ⟨[pair a b], ?_, groupOctets_pair a b⟩
      rw [readGroups_group h hr.stops, hr.readGroups_eq]
  | quad a b c d =>
      have hdigit : Stops Char.isDigit r := (stops_hexDigit hr.stops).mono fun _ => Decimal.isHexDigit_of_isDigit
      refine ⟨_, readGroups_quad a b c d hdigit ?_ first, ?_⟩
      · change 4 ≤ 2 * limit at hlimit
        omega
      · simp only [List.flatMap_cons, List.flatMap_nil, groupOctets_pair]
        rfl
  | @cons a b s t dotted os h ht ih =>
      rw [List.length_cons, List.length_cons] at hlimit
      obtain ⟨limit, rfl⟩ := Nat.exists_eq_add_of_le' (show 1 ≤ limit by omega)
      obtain ⟨gs, hread, hos⟩ := ih (show os.length ≤ 2 * limit by omega) false
      refine ⟨pair a b :: gs, ?_, by rw [List.flatMap_cons, groupOctets_pair, hos]; rfl⟩
      have hcolon : Stops isGroupChar (led false (t ++ r)) := stops_cons.2 (by decide)
      have happend : s ++ ':' :: t ++ r = s ++ led false (t ++ r) := by rw [List.append_assoc]; rfl
      rw [happend, readGroups_group h hcolon, hread]

/-! ## Parts -/

/-- **Nothing but a part is read.** -/
theorem exists_of_readGroups {limit : Nat} {gs : List UInt16} {dotted : Bool}
    (h : readGroups limit true s = ⟨gs, dotted, r⟩) :
    ∃ t, Part dotted (gs.flatMap groupOctets) t ∧ gs.length ≤ limit ∧ s = t ++ r := by
  rcases readGroups_cases limit true s with hnil | ⟨fs, d, t, u, hrun, ht, hlength, hs⟩
  · cases hnil.symm.trans h
    exact ⟨[], .none, Nat.zero_le _, rfl⟩
  · cases hrun.symm.trans h
    exact ⟨t, .run ht, hlength, hs⟩

/-- **A part is read to its end.** -/
theorem readGroups_part {dotted : Bool} {os : Bytes} (h : Part dotted os t) (hr : Boundary r) {limit : Nat}
    (hlimit : os.length ≤ 2 * limit) :
    ∃ gs, readGroups limit true (t ++ r) = ⟨gs, dotted, r⟩ ∧ gs.flatMap groupOctets = os := by
  cases h with
  | none => exact ⟨[], hr.readGroups_eq limit true, rfl⟩
  | run h => exact readGroups_append h hr hlimit true

/-- A group has two octets. -/
theorem length_flatMap_groupOctets (gs : List UInt16) : (gs.flatMap groupOctets).length = 2 * gs.length := by
  induction gs with
  | nil => rfl
  | cons g gs ih =>
      rw [List.flatMap_cons, List.length_append, ih, List.length_cons]
      show 2 + 2 * gs.length = 2 * (gs.length + 1)
      omega

/-- The octets of groups of zeros are zeros. -/
theorem flatMap_groupOctets_replicate (n : Nat) :
    (List.replicate n (0 : UInt16)).flatMap groupOctets = List.replicate (2 * n) 0 := by
  induction n with
  | zero => rfl
  | succ n ih =>
      rw [List.replicate_succ, List.flatMap_cons, ih]
      rfl

/-- So are those of groups of zeros between others. -/
theorem flatMap_groupOctets_fill (fs bs : List UInt16) (n : Nat) :
    (fs ++ List.replicate n 0 ++ bs).flatMap groupOctets
      = fs.flatMap groupOctets ++ (List.replicate (2 * n) 0 ++ bs.flatMap groupOctets) := by
  rw [List.flatMap_append, List.flatMap_append, flatMap_groupOctets_replicate, List.append_assoc]

/-! ## Addresses -/

/-- **Nothing but IPv6 addresses is read**, each with its octets. -/
theorem isV6_of_readGroups8 {gs : List UInt16} (h : readGroups8 s = some (gs, [])) :
    IsV6 (gs.flatMap groupOctets) s := by
  rw [readGroups8] at h
  generalize hfront : readGroups 8 true s = front at h
  obtain ⟨fs, dotted, r⟩ := front
  obtain ⟨t, ht, hfs, rfl⟩ := exists_of_readGroups hfront
  simp only at h
  split at h
  · next hall =>
    cases h
    have hlength : (gs.flatMap groupOctets).length = 16 := by rw [length_flatMap_groupOctets, hall]
    rw [List.append_nil]
    generalize gs.flatMap groupOctets = os at ht hlength ⊢
    cases ht with
    | none => cases hlength
    | run ht => exact .full ht hlength
  · next hall =>
    split at h
    · cases h
    · next hdotted =>
      obtain rfl := Bool.eq_false_iff.2 hdotted
      simp only [Option.bind_eq_bind, Option.bind_eq_some_iff, readChar_eq_some_iff, Option.pure_def,
        Option.some_inj, Prod.mk.injEq] at h
      obtain ⟨_, rfl, u, rfl, rfl, hrest⟩ := h
      generalize hback : readGroups (7 - fs.length) true u = back at hrest ⊢
      obtain ⟨bs, dotted, r⟩ := back
      obtain rfl : r = [] := hrest
      obtain ⟨v, hv, hbs, rfl⟩ := exists_of_readGroups hback
      -- the groups that are left out are those that are missing to eight
      change IsV6 ((fs ++ List.replicate (8 - fs.length - bs.length) 0 ++ bs).flatMap groupOctets) _
      rw [flatMap_groupOctets_fill, List.append_nil]
      refine .compressed ht hv (by omega) ?_
      rw [length_flatMap_groupOctets, length_flatMap_groupOctets]
      omega

/-- **Every IPv6 address is read**, with its octets. -/
theorem IsV6.exists_readGroups8 {os : Bytes} (h : IsV6 os s) :
    ∃ gs, readGroups8 s = some (gs, []) ∧ gs.flatMap groupOctets = os := by
  cases h with
  | @full _ _ dotted h hlength =>
      obtain ⟨gs, hread, hos⟩ := readGroups_part (.run h) (.inl rfl) (show os.length ≤ 2 * 8 by omega)
      rw [List.append_nil] at hread
      have hall : gs.length = 8 := by
        have := length_flatMap_groupOctets gs
        rw [hos, hlength] at this
        omega
      refine ⟨gs, ?_, hos⟩
      rw [readGroups8, hread]
      exact if_pos hall
  | @compressed front back s t dotted zeros hs ht hzeros hlength =>
      obtain ⟨fs, hfront, hfs⟩ :=
        readGroups_part hs (.inr ⟨t, rfl⟩) (show front.length ≤ 2 * 8 by omega)
      have hfl := length_flatMap_groupOctets fs
      rw [hfs] at hfl
      obtain ⟨bs, hback, hbs⟩ :=
        readGroups_part ht (.inl rfl) (show back.length ≤ 2 * (7 - fs.length) by omega)
      have hbl := length_flatMap_groupOctets bs
      rw [hbs] at hbl
      rw [List.append_nil] at hback
      have hmissing : 8 - fs.length - bs.length = zeros := by omega
      refine ⟨fs ++ List.replicate zeros 0 ++ bs, ?_, ?_⟩
      · rw [readGroups8, hfront]
        simp only [Bool.false_eq_true, ↓reduceIte]
        rw [if_neg (by omega)]
        simp only [readChar_eq_some_iff.2 rfl, Option.bind_eq_bind, Option.bind_some, hback, hmissing,
          Option.pure_def]
      · rw [flatMap_groupOctets_fill, hfs, hbs]

/-- No IPv6 address begins with a dotted quad. -/
theorem IsV6.readQuad_eq_none {os : Bytes} (h : IsV6 os t) : readQuad t = none := by
  have hcolon (u : List Char) : Stops isGroupChar (':' :: u) := stops_cons.2 (by decide)
  have hgroup {a b : UInt8} {s : List Char} (hs : IsGroup a b s) (u : List Char) : readQuad (s ++ ':' :: u) = none :=
    Ip.readQuad_eq_none (Hex.isDigit_of_mem hs.numeral) (hcolon u)
  cases h with
  | full h hlength =>
      -- there is more than one group, and no dotted quad alone
      cases h with
      | group h => cases hlength
      | quad a b c d => cases hlength
      | cons hs ht => exact hgroup hs _
  | compressed hs ht hzeros hlength =>
      cases hs with
      | none => exact Ip.readQuad_eq_none (t := []) (List.forall_mem_nil _) (hcolon _)
      | run hs =>
          cases hs with
          | group hs => exact hgroup hs _
          | cons hs ht =>
              rw [List.append_assoc]
              exact hgroup hs _

/-- **An address is read if and only if it is written as one**, with its octets and the width of its family. -/
theorem ofChars?_iff {os : Bytes} {width : Nat} :
    (∃ ip, ofChars? t = some ip ∧ ip.octets = os ∧ ip.bits = width) ↔
      (IsV4 os t ∧ width = 32) ∨ (IsV6 os t ∧ width = 128) := by
  constructor
  · rintro ⟨ip, h, rfl, rfl⟩
    rw [ofChars?] at h
    split at h
    · next a b c d r hquad =>
      obtain ⟨rfl, -⟩ := readQuad_eq_some_iff.1 hquad
      simp only [Option.ite_none_right_eq_some, List.isEmpty_iff, Option.some_inj] at h
      obtain ⟨rfl, rfl⟩ := h
      rw [List.append_nil]
      exact Or.inl ⟨.quad a b c d, rfl⟩
    · split at h
      · next gs r hgroups =>
        simp only [Option.ite_none_right_eq_some, List.isEmpty_iff, Option.some_inj] at h
        obtain ⟨rfl, rfl⟩ := h
        exact Or.inr ⟨isV6_of_readGroups8 hgroups, rfl⟩
      · cases h
  · rintro (⟨⟨a, b, c, d⟩, rfl⟩ | ⟨h, rfl⟩)
    · have hquad : readQuad (quad a b c d) = some ((a, b, c, d), []) :=
        readQuad_eq_some_iff.2 ⟨(List.append_nil _).symm, stops_nil _⟩
      refine ⟨.v4 a b c d, ?_, rfl, rfl⟩
      rw [ofChars?, hquad]
      rfl
    · obtain ⟨gs, hgroups, hos⟩ := h.exists_readGroups8
      refine ⟨.v6 gs, ?_, hos, rfl⟩
      rw [ofChars?, h.readQuad_eq_none, hgroups]
      rfl

end NetworkAgent.Ip
