import Mathlib.Algebra.Group.Nat.Defs
import Mathlib.Data.List.Induction
import NetworkAgent.Decimal.Read
import NetworkAgent.Proofs.Json.Reading

/-! # Numerals

A numeral of a base is a run of digits, in either case, with any zeros in front. It is read digit by digit, from the
highest.

* **`Numeral`** — numerals with the numbers that they spell, one more digit behind those before.
* **`Hex.numeral_iff`** and **`Decimal.numeral_iff`** — hexadecimal and decimal digits are read as what they spell.
* **`Decimal.readBelow_eq_some_iff`** — which texts are read as a number below a bound. -/

namespace NetworkAgent

/-- **A numeral**: digits of a base, at least one, with the number that they spell. -/
inductive Numeral (base : Nat) : Nat → List Char → Prop where
  /-- a digit -/
  | digit {k : Nat} {c : Char} (hk : k < base) (hc : c.toLower = Nat.digitChar k) : Numeral base k [c]
  /-- one more digit behind a numeral -/
  | snoc {n k : Nat} {t : List Char} {c : Char} (h : Numeral base n t) (hk : k < base)
      (hc : c.toLower = Nat.digitChar k) : Numeral base (base * n + k) (t ++ [c])

/-- A numeral has a digit. -/
theorem Numeral.ne_nil {base n : Nat} {t : List Char} (h : Numeral base n t) : t ≠ [] := by
  cases h with
  | digit => exact List.cons_ne_nil _ _
  | snoc => exact List.append_ne_nil_of_right_ne_nil _ (List.cons_ne_nil _ _)

/-- Each of its characters is a digit. -/
theorem Numeral.digits {base n : Nat} {t : List Char} (h : Numeral base n t) :
    ∀ c ∈ t, ∃ k < base, c.toLower = Nat.digitChar k := by
  induction h with
  | digit hk hc => exact List.forall_mem_singleton.2 ⟨_, hk, hc⟩
  | snoc _ hk hc ih => exact List.forall_mem_append.2 ⟨ih, List.forall_mem_singleton.2 ⟨_, hk, hc⟩⟩

/-- What so many digits spell. -/
theorem Numeral.lt_pow {base n : Nat} {t : List Char} (h : Numeral base n t) : n < base ^ t.length := by
  induction h with
  | digit hk hc => rwa [List.length_singleton, Nat.pow_one]
  | @snoc n k t c _ hk hc ih =>
      rw [List.length_append, List.length_singleton, Nat.pow_succ]
      calc
        base * n + k < base * n + base := Nat.add_lt_add_left hk _
        _ = base * (n + 1) := (Nat.mul_succ base n).symm
        _ ≤ base * base ^ t.length := Nat.mul_le_mul_left base ih
        _ = base ^ t.length * base := Nat.mul_comm _ _

/-- Every number has a numeral. -/
theorem numeral_toDigits {base : Nat} (hbase : 1 < base) (hsixteen : base ≤ 16) (n : Nat) :
    Numeral base n (Nat.toDigits base n) := by
  have hlower : ∀ k < 16, (Nat.digitChar k).toLower = Nat.digitChar k := by decide
  induction n using Nat.strongRecOn with
  | ind n ih =>
      rcases Nat.lt_or_ge n base with hlt | hge
      · rw [Nat.toDigits_of_lt_base hlt]
        exact .digit hlt (hlower n (Nat.lt_of_lt_of_le hlt hsixteen))
      · have hmod : n % base < base := Nat.mod_lt n (by omega)
        have hdigits : Numeral base (base * (n / base) + n % base) (Nat.toDigits base n) := by
          rw [Nat.toDigits_of_base_le hbase hge]
          exact .snoc (ih _ (Nat.div_lt_self (by omega) hbase)) hmod
            (hlower _ (Nat.lt_of_lt_of_le hmod hsixteen))
        rwa [Nat.div_add_mod] at hdigits

/-! ## Hexadecimal digits -/

/-- A character beyond ASCII is the same in lower case. -/
theorem toLower_of_le_toNat {c : Char} (h : 128 ≤ c.toNat) : c.toLower = c := by
  refine dif_neg ?_
  rintro ⟨-, hle⟩
  have hz : c.toNat ≤ 90 := hle
  omega

namespace Hex

/-- The hexadecimal digits are those of base sixteen. -/
theorem digit?_eq_some_iff {c : Char} {k : Nat} : digit? c = some k ↔ k < 16 ∧ c.toLower = Nat.digitChar k := by
  have hiff (hk : k < 16) : digit? c = some k ↔ c.toLower = Nat.digitChar k := by
    rcases Nat.lt_or_ge c.toNat 128 with hlow | hhigh
    · -- of the ASCII characters each is looked at
      have hall : ∀ m < 128, ∀ k < 16,
          digit? (Char.ofNat m) = some k ↔ (Char.ofNat m).toLower = Nat.digitChar k := by
        decide +kernel
      rw [← Char.ofNat_toNat c]
      exact hall _ hlow k hk
    · have hdigit : (Nat.digitChar k).toNat < 128 := (by decide : ∀ k < 16, (Nat.digitChar k).toNat < 128) k hk
      have hle {x y : Char} : x ≤ y ↔ x.toNat ≤ y.toNat := Iff.rfl
      refine iff_of_false ?_ fun h => ?_
      · simp only [digit?, hle, Char.reduceToNat]
        rw [if_neg (by omega), if_neg (by omega), if_neg (by omega)]
        nofun
      · rw [← h, toLower_of_le_toNat hhigh] at hdigit
        omega
  exact ⟨fun h => ⟨Json.digit?_lt h, (hiff (Json.digit?_lt h)).1 h⟩, fun ⟨hk, h⟩ => (hiff hk).2 h⟩

/-- The characters of a hexadecimal numeral are hexadecimal digits. -/
theorem isDigit_of_mem {n : Nat} {t : List Char} (h : Numeral 16 n t) : ∀ c ∈ t, isDigit c = true := by
  intro c hc
  obtain ⟨k, hk, hlower⟩ := h.digits c hc
  rw [isDigit, digit?_eq_some_iff.2 ⟨hk, hlower⟩, Option.isSome_some]

/-- Digits are read one behind the other. -/
theorem toNat?_concat (t : List Char) (c : Char) :
    toNat? (t ++ [c]) = (toNat? t).bind fun n => (digit? c).map (n * 16 + ·) := by
  rw [toNat?, List.foldlM_append]
  simp [toNat?]

/-- **Hexadecimal digits are read as what they spell.** -/
theorem numeral_iff {n : Nat} {t : List Char} : Numeral 16 n t ↔ t ≠ [] ∧ toNat? t = some n := by
  constructor
  · intro h
    refine ⟨h.ne_nil, ?_⟩
    induction h with
    | digit hk hc => simp [toNat?, digit?_eq_some_iff.2 ⟨hk, hc⟩]
    | snoc _ hk hc ih =>
        rw [toNat?_concat, ih, Option.bind_some, digit?_eq_some_iff.2 ⟨hk, hc⟩, Option.map_some, Nat.mul_comm]
  · rintro ⟨hne, h⟩
    induction t using List.reverseRecOn generalizing n with
    | nil => exact absurd rfl hne
    | append_singleton t c ih =>
        rw [toNat?_concat] at h
        obtain ⟨m, hm, h⟩ := Option.bind_eq_some_iff.1 h
        obtain ⟨k, hdigit, rfl⟩ := Option.map_eq_some_iff.1 h
        obtain ⟨hk, hc⟩ := digit?_eq_some_iff.1 hdigit
        rcases eq_or_ne t [] with rfl | ht
        · cases hm
          rw [Nat.zero_mul, Nat.zero_add]
          exact .digit hk hc
        · rw [Nat.mul_comm]
          exact .snoc (ih ht hm) hk hc

end Hex

/-! ## Decimal digits -/

namespace Decimal

/-- The range of the decimal digits. -/
theorem isDigit_iff_range {c : Char} : c.isDigit = true ↔ '0' ≤ c ∧ c ≤ '9' := by
  rw [Char.isDigit, Bool.and_eq_true, decide_eq_true_eq, decide_eq_true_eq]
  rfl

/-- They are hexadecimal digits of the same value. -/
theorem digit?_of_isDigit {c : Char} (hc : c.isDigit = true) : Hex.digit? c = some (c.toNat - '0'.toNat) :=
  if_pos (isDigit_iff_range.1 hc)

/-- They are hexadecimal digits. -/
theorem isHexDigit_of_isDigit {c : Char} (hc : c.isDigit = true) : Hex.isDigit c = true := by
  rw [Hex.isDigit, digit?_of_isDigit hc, Option.isSome_some]

/-- The decimal digits are those of base ten. -/
theorem isDigit_iff {c : Char} {k : Nat} :
    c.isDigit = true ∧ c.toNat - '0'.toNat = k ↔ k < 10 ∧ c.toLower = Nat.digitChar k := by
  have hle {x y : Char} : x ≤ y ↔ x.toNat ≤ y.toNat := Iff.rfl
  constructor
  · rintro ⟨hc, rfl⟩
    exact ⟨(Json.digitChar_of_isDigit hc).1, (Hex.digit?_eq_some_iff.1 (digit?_of_isDigit hc)).2⟩
  · rintro ⟨hk, hc⟩
    have hread : Hex.digit? c = some k := Hex.digit?_eq_some_iff.2 ⟨by omega, hc⟩
    simp only [Hex.digit?] at hread
    split at hread
    · next h => exact ⟨isDigit_iff_range.2 h, Option.some.inj hread⟩
    · -- the letters are worth ten and more
      simp only [hle, Char.reduceToNat] at hread
      split at hread
      · cases hread
        omega
      · split at hread <;> cases hread
        omega

/-- **Decimal digits are read as what they spell.** -/
theorem numeral_iff {n : Nat} {t : List Char} : Numeral 10 n t ↔ Json.IsDigits t ∧ Nat.ofDigitChars 10 t 0 = n := by
  have hconcat (t : List Char) (c : Char) :
      Nat.ofDigitChars 10 (t ++ [c]) 0 = 10 * Nat.ofDigitChars 10 t 0 + (c.toNat - '0'.toNat) := by
    rw [Nat.ofDigitChars_append, Nat.ofDigitChars_cons, Nat.ofDigitChars_nil]
  constructor
  · intro h
    refine ⟨⟨h.ne_nil, ?_⟩, ?_⟩
    · induction h with
      | digit hk hc => exact List.forall_mem_singleton.2 (isDigit_iff.2 ⟨hk, hc⟩).1
      | snoc _ hk hc ih =>
          exact List.forall_mem_append.2 ⟨ih, List.forall_mem_singleton.2 (isDigit_iff.2 ⟨hk, hc⟩).1⟩
    · induction h with
      | digit hk hc => exact (hconcat [] _).trans ((Nat.zero_add _).trans (isDigit_iff.2 ⟨hk, hc⟩).2)
      | snoc _ hk hc ih => rw [hconcat, ih, (isDigit_iff.2 ⟨hk, hc⟩).2]
  · rintro ⟨⟨hne, hdigits⟩, rfl⟩
    induction t using List.reverseRecOn with
    | nil => exact absurd rfl hne
    | append_singleton t c ih =>
        obtain ⟨ht, hc⟩ := List.forall_mem_append.1 hdigits
        obtain ⟨hk, hlower⟩ := isDigit_iff.1 ⟨hc c (List.mem_singleton_self c), rfl⟩
        rw [hconcat]
        rcases eq_or_ne t [] with rfl | hnil
        · rw [Nat.ofDigitChars_nil, Nat.mul_zero, Nat.zero_add]
          exact .digit hk hlower
        · exact .snoc (ih hnil ht) hk hlower

/-- A numeral with a plus sign in front, if any. -/
def Signed (n : Nat) (s : List Char) : Prop := Numeral 10 n s ∨ ∃ t, s = '+' :: t ∧ Numeral 10 n t

/-- **Which texts are read as a number below a bound.** -/
theorem readBelow_eq_some_iff {bound n : Nat} {s : List Char} :
    readBelow bound s = some n ↔ Signed n s ∧ n < bound := by
  have hread (t : List Char) :
      (if (!t.isEmpty && t.all Char.isDigit && decide (Nat.ofDigitChars 10 t 0 < bound)) = true
          then some (Nat.ofDigitChars 10 t 0) else none) = some n ↔ Numeral 10 n t ∧ n < bound := by
    have hdigits : (!t.isEmpty && t.all Char.isDigit) = true ↔ Json.IsDigits t := by
      rw [Bool.and_eq_true, Bool.not_eq_true', List.isEmpty_eq_false_iff, List.all_eq_true]
      exact ⟨fun h => ⟨h.1, h.2⟩, fun h => ⟨h.ne_nil, h.digits⟩⟩
    rw [Option.ite_none_right_eq_some, Bool.and_eq_true, hdigits, decide_eq_true_eq, Option.some_inj, numeral_iff]
    constructor
    · rintro ⟨⟨ht, hlt⟩, rfl⟩
      exact ⟨⟨ht, rfl⟩, hlt⟩
    · rintro ⟨⟨ht, rfl⟩, hlt⟩
      exact ⟨⟨ht, hlt⟩, rfl⟩
  rw [readBelow.eq_def]
  split
  · next t =>
    -- a plus sign is no digit, so only what follows it can be the numeral
    have hnot : ¬Numeral 10 n ('+' :: t) := fun h => nomatch (numeral_iff.1 h).1.digits '+' (.head _)
    have hsigned : Signed n ('+' :: t) ↔ Numeral 10 n t := by
      refine ⟨fun h => ?_, fun h => .inr ⟨t, rfl, h⟩⟩
      obtain ⟨_, ⟨⟩, h⟩ := h.resolve_left hnot
      exact h
    rw [hread, hsigned]
  · next hplus =>
    have hsigned : Signed n s ↔ Numeral 10 n s :=
      ⟨fun h => h.resolve_right fun ⟨t, ht, _⟩ => hplus t ht, .inl⟩
    rw [hread, hsigned]

end Decimal

end NetworkAgent
