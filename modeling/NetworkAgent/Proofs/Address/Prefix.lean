import Mathlib.Data.List.Induction
import NetworkAgent.Programming
import NetworkAgent.Proofs.Address.Reading

/-! # Destinations as they are written

An address is a number of 32 or of 128 bits, and is sent as its octets in network order. Each of its texts is read as
these octets, and nothing else is read, neither in the destination of a route nor in a next hop.

* **`Address`** — an address as its bits, with its `Address.octets` and its texts, `Address.Written`.
* **`Prefix.Written`** — a prefix as it is written; by `Prefix.ofChars?_eq_some_iff` nothing else is read as one.
* **`Route.destination_iff_written`** — what is accepted, what it is sent as, and how all else is reported. -/

namespace NetworkAgent

open Message (Bytes)

/-! ## Octets in network order -/

/-- The lowest octets of a number in network order, the highest of them first. -/
def networkOctets : Nat → Nat → Bytes
  | 0, _ => []
  | k + 1, n => networkOctets k (n / 256) ++ [UInt8.ofNat (n % 256)]

/-- There are as many as are asked for. -/
@[simp] theorem length_networkOctets (k n : Nat) : (networkOctets k n).length = k := by
  induction k generalizing n with
  | zero => rfl
  | succ k ih => rw [networkOctets, List.length_append, ih, List.length_singleton]

/-- Octets are those of a number. -/
theorem exists_networkOctets_eq (os : Bytes) : ∃ n < 256 ^ os.length, networkOctets os.length n = os := by
  induction os using List.reverseRecOn with
  | nil => exact ⟨0, Nat.zero_lt_one, rfl⟩
  | append_singleton os a ih =>
      obtain ⟨n, hn, hos⟩ := ih
      have ha : a.toNat < 256 := a.toNat_lt
      have hlength : (os ++ [a]).length = os.length + 1 := by rw [List.length_append, List.length_singleton]
      refine ⟨n * 256 + a.toNat, ?_, ?_⟩
      · rw [hlength, Nat.pow_succ]
        omega
      · have hdiv : (n * 256 + a.toNat) / 256 = n := by omega
        have hmod : (n * 256 + a.toNat) % 256 = a.toNat := by omega
        rw [hlength, networkOctets, hdiv, hmod, hos, UInt8.ofNat_toNat]

/-- Numbers with the same octets are the same, if these are all that they have. -/
theorem eq_of_networkOctets_eq {k n m : Nat} (hn : n < 256 ^ k) (hm : m < 256 ^ k)
    (h : networkOctets k n = networkOctets k m) : n = m := by
  induction k generalizing n m with
  | zero => 
      rw [Nat.pow_zero] at hn hm
      omega
  | succ k ih =>
      rw [Nat.pow_succ] at hn hm
      obtain ⟨hhigh, hlow⟩ := List.append_inj' h rfl
      have hdiv : n / 256 = m / 256 := ih (by omega) (by omega) hhigh
      have hmod : n % 256 % 256 = m % 256 % 256 := congrArg UInt8.toNat (List.singleton_inj.1 hlow)
      omega

/-- Octets are those of some bits. -/
theorem exists_bits_networkOctets_eq {os : Bytes} {k w : Nat} (hlength : os.length = k) (hw : 256 ^ k = 2 ^ w) :
    ∃ bits : BitVec w, networkOctets k bits.toNat = os := by
  obtain ⟨n, hn, hos⟩ := exists_networkOctets_eq os
  rw [hlength] at hn hos
  refine ⟨BitVec.ofNat w n, ?_⟩
  rw [BitVec.toNat_ofNat, Nat.mod_eq_of_lt (hw ▸ hn), hos]

/-! ## Addresses -/

/-- **An address of either family**, as its bits. -/
inductive Address where
  /-- an IPv4 address -/
  | v4 (bits : BitVec 32)
  /-- an IPv6 address -/
  | v6 (bits : BitVec 128)
  deriving DecidableEq

namespace Address

/-- How many bits it has. -/
def width : Address → Nat
  | .v4 _ => 32
  | .v6 _ => 128

/-- No address has more than an IPv6 address. -/
theorem width_le (a : Address) : a.width ≤ 128 := by
  cases a with
  | v4 bits => exact (by decide : 32 ≤ 128)
  | v6 bits => exact Nat.le_refl 128

/-- Its octets in network order. -/
def octets : Address → Bytes
  | .v4 bits => networkOctets 4 bits.toNat
  | .v6 bits => networkOctets 16 bits.toNat

/-- **The texts of an address.** -/
def Written : Address → List Char → Prop
  | .v4 bits, t => Ip.IsV4 (networkOctets 4 bits.toNat) t
  | .v6 bits, t => Ip.IsV6 (networkOctets 16 bits.toNat) t

/-- Every pair of octets is written as a group. -/
theorem exists_isGroup (a b : UInt8) : ∃ t, Ip.IsGroup a b t := by
  have ha : a.toNat < 256 := a.toNat_lt
  have hb : b.toNat < 256 := b.toNat_lt
  have hlt : a.toNat * 256 + b.toNat < 16 ^ 4 := by omega
  exact ⟨_, numeral_toDigits (by decide) (by decide) _, (Nat.length_toDigits_le_iff (by decide) (by decide)).2 hlt⟩

/-- Octets are written as groups, if there is an even number of them. -/
theorem exists_run (k : Nat) (os : Bytes) (h : os.length = 2 * (k + 1)) : ∃ t, Ip.Run false os t := by
  induction k generalizing os with
  | zero =>
      obtain _ | ⟨a, _ | ⟨b, _ | ⟨c, os⟩⟩⟩ := os
      · cases h
      · cases h
      · obtain ⟨t, ht⟩ := exists_isGroup a b
        exact ⟨t, .group ht⟩
      · cases h
  | succ k ih =>
      obtain _ | ⟨a, _ | ⟨b, os⟩⟩ := os
      · cases h
      · cases h
      · obtain ⟨s, hs⟩ := exists_isGroup a b
        obtain ⟨t, ht⟩ := ih os (Nat.add_right_cancel (m := 2) h)
        exact ⟨s ++ ':' :: t, .cons hs ht⟩

/-- **Every address has a text.** -/
theorem exists_written (a : Address) : ∃ t, a.Written t := by
  cases a with
  | v4 bits => exact ⟨_, .quad _ _ _ _⟩
  | v6 bits =>
      obtain ⟨t, ht⟩ := exists_run 7 (networkOctets 16 bits.toNat) (length_networkOctets 16 _)
      exact ⟨t, .full ht (length_networkOctets 16 _)⟩

/-- An address is known by its octets. -/
theorem octets_inj {a b : Address} : a.octets = b.octets ↔ a = b := by
  refine ⟨fun h => ?_, fun h => h ▸ rfl⟩
  cases a with
  | v4 n =>
      cases b with
      | v4 m => exact congrArg Address.v4 (BitVec.eq_of_toNat_eq (eq_of_networkOctets_eq n.isLt m.isLt h))
      | v6 m => exact absurd (congrArg List.length h) (by simp [octets])
  | v6 n =>
      cases b with
      | v4 m => exact absurd (congrArg List.length h) (by simp [octets])
      | v6 m => exact congrArg Address.v6 (BitVec.eq_of_toNat_eq (eq_of_networkOctets_eq n.isLt m.isLt h))

end Address

/-- An IPv6 address has sixteen octets. -/
theorem Ip.IsV6.length_eq {os : Bytes} {t : List Char} (h : IsV6 os t) : os.length = 16 := by
  cases h with
  | full _ hlength => exact hlength
  | compressed _ _ _ hlength =>
      rw [List.length_append, List.length_append, List.length_replicate]
      omega

/-- **An address is read if and only if it is written as one.** -/
theorem Ip.ofChars?_iff_written {t : List Char} {os : Bytes} {width : Nat} :
    (∃ ip, ofChars? t = some ip ∧ ip.octets = os ∧ ip.bits = width) ↔
      ∃ a : Address, a.Written t ∧ a.octets = os ∧ a.width = width := by
  rw [ofChars?_iff]
  constructor
  · rintro (⟨h, rfl⟩ | ⟨h, rfl⟩)
    · have hlength : os.length = 4 := by
        cases h
        rfl
      obtain ⟨bits, rfl⟩ := exists_bits_networkOctets_eq (w := 32) hlength (by decide)
      exact ⟨.v4 bits, h, rfl, rfl⟩
    · obtain ⟨bits, rfl⟩ := exists_bits_networkOctets_eq (w := 128) h.length_eq (by decide)
      exact ⟨.v6 bits, h, rfl, rfl⟩
  · rintro ⟨bits | bits, h, rfl, rfl⟩
    · exact Or.inl ⟨h, rfl⟩
    · exact Or.inr ⟨h, rfl⟩

/-! ## Prefixes -/

namespace Prefix

/-- **A prefix as it is written**: an address, the first slash, and the length, which is that of the family at most. -/
structure Written (a : Address) (n : Nat) (address length : List Char) : Prop where
  /-- The slash is the first. -/
  slash : '/' ∉ address
  /-- What stands in front of it is the address. -/
  address : a.Written address
  /-- What stands behind it is the length. -/
  length : Decimal.Signed n length
  /-- One bit is the least. -/
  pos : 1 ≤ n
  /-- All of them are the most. -/
  le : n ≤ a.width

/-- A text is cut at its first slash. -/
theorem cut_eq_some_iff {s t l : List Char} : cut s = some (t, l) ↔ '/' ∉ t ∧ s = t ++ '/' :: l := by
  induction s generalizing t with
  | nil => exact iff_of_false nofun fun h => by simp at h
  | cons c s ih =>
      rw [cut]
      split
      · next hc =>
        subst hc
        constructor
        · intro h
          cases h
          exact ⟨List.not_mem_nil, rfl⟩
        · rintro ⟨hslash, hs⟩
          -- a slash in front is the first
          cases t with
          | nil =>
              cases hs
              rfl
          | cons d t =>
              cases hs
              exact absurd (.head _) hslash
      · next hc =>
        simp only [Option.map_eq_some_iff, Prod.exists, Prod.mk.injEq]
        constructor
        · rintro ⟨u, m, h, rfl, rfl⟩
          obtain ⟨hslash, rfl⟩ := ih.1 h
          exact ⟨fun h => (List.mem_cons.1 h).elim (fun h => hc h.symm) hslash, rfl⟩
        · rintro ⟨hslash, hs⟩
          cases t with
          | nil =>
              cases hs
              exact absurd rfl hc
          | cons d t =>
              cases hs
              exact ⟨t, l, ih.2 ⟨fun h => hslash (.tail _ h), rfl⟩, rfl, rfl⟩

/-- **A prefix is read if and only if it is written as one.** -/
theorem ofChars?_eq_some_iff {s : List Char} {p : Message.IpPrefix} :
    ofChars? s = some p ↔
      ∃ a n t l, Written a n t l ∧ s = t ++ '/' :: l ∧ p = ⟨some ⟨a.octets⟩, UInt32.ofNat n⟩ := by
  constructor
  · intro h
    simp only [ofChars?, Option.bind_eq_bind, Option.bind_eq_some_iff, Prod.exists, cut_eq_some_iff,
      Decimal.readBelow_eq_some_iff] at h
    obtain ⟨t, l, ⟨hslash, rfl⟩, ip, hip, n, ⟨hn, -⟩, h⟩ := h
    obtain ⟨a, ha, hoctets, hwidth⟩ := Ip.ofChars?_iff_written.1 ⟨ip, hip, rfl, rfl⟩
    split at h
    · cases h
    · next hrange =>
      cases h
      refine ⟨a, n, t, l, ⟨hslash, ha, hn, by omega, by omega⟩, rfl, ?_⟩
      rw [hoctets]
      rfl
  · rintro ⟨a, n, t, l, h, rfl, rfl⟩
    obtain ⟨ip, hip, hoctets, hwidth⟩ := Ip.ofChars?_iff_written.2 ⟨a, h.address, rfl, rfl⟩
    have hle : n ≤ 128 := Nat.le_trans h.le a.width_le
    have hlt : n < UInt32.size := Nat.lt_of_le_of_lt hle (by decide)
    have hrange : ¬(n = 0 ∨ n > ip.bits) := by
      have := h.pos
      have := h.le
      omega
    rw [ofChars?, cut_eq_some_iff.2 ⟨h.slash, rfl⟩]
    simp only [Option.bind_eq_bind, Option.bind_some, hip, Decimal.readBelow_eq_some_iff.2 ⟨h.length, hlt⟩,
      if_neg hrange]
    rw [Ip.toMessage, hoctets]
    rfl

end Prefix

/-! ## Destinations and next hops -/

/-- **A destination is accepted if and only if it is a prefix as it is written.** -/
theorem Route.destination_eq_ok_iff {s : String} {p : Message.IpPrefix} :
    destination s = .ok p ↔ ∃ a n t l, Prefix.Written a n t l ∧ s.toList = t ++ '/' :: l ∧
      p = ⟨some ⟨a.octets⟩, UInt32.ofNat n⟩ := by
  rw [← Prefix.ofChars?_eq_some_iff, destination, Prefix.ofString?]
  cases Prefix.ofChars? s.toList with
  | none => exact iff_of_false nofun nofun
  | some q => rw [Except.ok.injEq, Option.some_inj]

/-- What is refused as a destination is reported as it is. -/
theorem Route.destination_eq_error_iff {s : String} {e : Error} :
    destination s = .error e ↔
      e = .route (.invalidPrefix s) ∧ ¬∃ a n t l, Prefix.Written a n t l ∧ s.toList = t ++ '/' :: l := by
  have haccepted : (∃ a n t l, Prefix.Written a n t l ∧ s.toList = t ++ '/' :: l) ↔ ∃ p, destination s = .ok p := by
    simp only [destination_eq_ok_iff]
    constructor
    · rintro ⟨a, n, t, l, h, hs⟩
      exact ⟨_, a, n, t, l, h, hs, rfl⟩
    · rintro ⟨_, a, n, t, l, h, hs, -⟩
      exact ⟨a, n, t, l, h, hs⟩
  rw [haccepted, destination]
  split
  · exact iff_of_false nofun fun h => h.2 ⟨_, rfl⟩
  · rw [Except.error.injEq, eq_comm]
    exact (and_iff_left nofun).symm

/-- **A next hop is built if and only if its address is written as one.** -/
theorem NextHop.make_eq_ok_iff {s : String} {labels : List UInt32} {resolveTo resolution : Int32}
    {h : Message.NextHop} :
    make s labels resolveTo resolution = .ok h ↔
      ∃ a : Address, a.Written s.toList ∧ h = ⟨some ⟨a.octets⟩, labels, resolveTo, resolution⟩ := by
  rw [make, Ip.ofString?]
  constructor
  · intro hmake
    split at hmake
    · next ip hip =>
      cases hmake
      obtain ⟨a, ha, hoctets, -⟩ := Ip.ofChars?_iff_written.1 ⟨ip, hip, rfl, rfl⟩
      exact ⟨a, ha, by rw [hoctets]; rfl⟩
    · cases hmake
  · rintro ⟨a, ha, rfl⟩
    obtain ⟨ip, hip, hoctets, -⟩ := Ip.ofChars?_iff_written.2 ⟨a, ha, rfl, rfl⟩
    rw [hip, ← hoctets]
    rfl

/-- **What is accepted as the destination of a route, and as the address of a next hop.** A destination is accepted just
if it is a prefix as it is written, with the octets of its address in network order, host bits included, and with its
length, and else reported as it is. A next hop has the octets of its address too. Every address has a text, and octets
are those of one address only. -/
theorem Route.destination_iff_written (s : String) :
    (∀ p, destination s = .ok p ↔ ∃ a n t l, Prefix.Written a n t l ∧ s.toList = t ++ '/' :: l ∧
        p = ⟨some ⟨a.octets⟩, UInt32.ofNat n⟩) ∧
      (∀ e, destination s = .error e ↔ e = .route (.invalidPrefix s) ∧
        ¬∃ a n t l, Prefix.Written a n t l ∧ s.toList = t ++ '/' :: l) ∧
      (∀ networkInstance group preference metric r, make networkInstance s group preference metric = .ok r ↔
        ∃ a n t l, Prefix.Written a n t l ∧ s.toList = t ++ '/' :: l ∧
          r = ⟨⟨networkInstance, some ⟨some ⟨a.octets⟩, UInt32.ofNat n⟩⟩, ⟨preference, metric, group⟩⟩) ∧
      (∀ labels resolveTo resolution h, NextHop.make s labels resolveTo resolution = .ok h ↔
        ∃ a : Address, a.Written s.toList ∧ h = ⟨some ⟨a.octets⟩, labels, resolveTo, resolution⟩) ∧
      ∀ a : Address, (∃ t, a.Written t) ∧ ∀ b : Address, b.octets = a.octets ↔ b = a := by
  refine ⟨fun p => destination_eq_ok_iff, fun e => destination_eq_error_iff,
    fun networkInstance group preference metric r => ?_,
    fun labels resolveTo resolution h => NextHop.make_eq_ok_iff,
    fun a => ⟨a.exists_written, fun b => Address.octets_inj⟩⟩
  rw [make]
  constructor
  · intro h
    cases hp : destination s with
    | error e =>
        rw [hp] at h
        cases h
    | ok p =>
        rw [hp] at h
        cases h
        obtain ⟨a, n, t, l, hw, hs, rfl⟩ := destination_eq_ok_iff.1 hp
        exact ⟨a, n, t, l, hw, hs, rfl⟩
  · rintro ⟨a, n, t, l, hw, hs, rfl⟩
    rw [destination_eq_ok_iff.2 ⟨a, n, t, l, hw, hs, rfl⟩]
    rfl

example : Route.destination "2001:db8::1.2.3.4/+064"
    = .ok ⟨some ⟨[0x20, 0x01, 0x0d, 0xb8, 0, 0, 0, 0, 0, 0, 0, 0, 1, 2, 3, 4]⟩, 64⟩ := by
  decide

end NetworkAgent
