import NetworkAgent.Management
import NetworkAgent.Proofs.Text.Repair

/-! # Reading undoes writing

A text is written to a node as its octets, and is read again from the value that comes first in an answer. What comes
later has no part in it.

* **`Leads`** — the value of the first update of the first notification.
* `firstJson_eq_some_iff` — which text is read: what the octets that lead are repaired to.
* **`firstJson_iff_repaired`** — what is read of a text, what of any octets, and when nothing is read. -/

namespace NetworkAgent.Management

open Message.Gnmi
open Message (Bytes)

variable {r : GetResponse}

/-- **A value that comes first in an answer**: in the first update of the first notification. -/
def Leads (typed : TypedValue) (r : GetResponse) : Prop :=
  ∃ n ns u us, r.notifications = n :: ns ∧ n.updates = u :: us ∧ u.value = some typed

/-- No other value comes first. -/
theorem Leads.unique {v w : TypedValue} (hv : Leads v r) (hw : Leads w r) : v = w := by
  obtain ⟨n, ns, u, us, hn, hu, hv⟩ := hv
  obtain ⟨m, ms, x, xs, hm, hx, hw⟩ := hw
  cases hn.symm.trans hm
  cases hu.symm.trans hx
  exact Option.some.inj (hv.symm.trans hw)

/-- **What is read is what the octets that come first are repaired to**, if they are a JSON text. -/
theorem firstJson_eq_some_iff {text : String} :
    firstJson r = some text ↔ ∃ bytes, Leads ⟨some (.jsonIetf bytes)⟩ r ∧ Utf8.Repaired bytes text.toList := by
  simp only [firstJson, Option.bind_eq_bind, Option.bind_eq_some_iff, List.head?_eq_some_iff]
  constructor
  · rintro ⟨n, ⟨ns, hn⟩, u, ⟨us, hu⟩, ⟨_⟩, hv, value, rfl, h⟩
    split at h
    · next bytes =>
      cases h
      refine ⟨bytes, ⟨n, ns, u, us, hn, hu, hv⟩, ?_⟩
      rw [String.toList_ofList]
      exact Utf8.repaired_decode bytes
    · cases h
  · rintro ⟨bytes, ⟨n, ns, u, us, hn, hu, hv⟩, h⟩
    refine ⟨n, ⟨ns, hn⟩, u, ⟨us, hu⟩, _, hv, _, rfl, ?_⟩
    show some (String.ofList (Utf8.decode bytes)) = some text
    rw [Utf8.decode_eq_iff.2 h, String.ofList_toList]

/-- **Nothing is read just if something is missing** on the way to the JSON text that comes first. -/
theorem firstJson_eq_none_iff :
    firstJson r = none ↔
      r.notifications = [] ∨ ∃ n ns, r.notifications = n :: ns ∧
        (n.updates = [] ∨ ∃ u us, n.updates = u :: us ∧
          (u.value = none ∨ ∃ typed, u.value = some typed ∧
            (typed.value = none ∨ ∃ v, typed.value = some v ∧ ∀ bytes, v ≠ .jsonIetf bytes))) := by
  obtain ⟨_ | ⟨n, ns⟩⟩ := r
  · exact iff_of_true rfl (Or.inl rfl)
  · obtain ⟨timestamp, base, _ | ⟨u, us⟩, deletes, atomic⟩ := n
    · exact iff_of_true rfl (Or.inr ⟨_, _, rfl, Or.inl rfl⟩)
    · cases hu : u.value with
      | none => simp [firstJson, hu]
      | some typed =>
          obtain ⟨_ | v⟩ := typed
          · simp [firstJson, hu]
          · cases v <;> simp [firstJson, hu]

/-- **What is read of an answer.** A text is read again if its octets come first, whatever comes later; of any octets
that come first the text is read that they are repaired to; and nothing is read just if there is no notification, or no
update in the first, or the first of them has no value, or one that is no JSON text. -/
theorem firstJson_iff_repaired (r : GetResponse) :
    (∀ s, Leads (jsonValue s) r → firstJson r = some s) ∧
      (∀ bytes, Leads ⟨some (.jsonIetf bytes)⟩ r →
        ∀ text, firstJson r = some text ↔ Utf8.Repaired bytes text.toList) ∧
      (firstJson r = none ↔
        r.notifications = [] ∨ ∃ n ns, r.notifications = n :: ns ∧
          (n.updates = [] ∨ ∃ u us, n.updates = u :: us ∧
            (u.value = none ∨ ∃ typed, u.value = some typed ∧
              (typed.value = none ∨ ∃ v, typed.value = some v ∧ ∀ bytes, v ≠ .jsonIetf bytes)))) := by
  have hread (bytes : Bytes) (h : Leads ⟨some (.jsonIetf bytes)⟩ r) (text : String) :
      firstJson r = some text ↔ Utf8.Repaired bytes text.toList := by
    rw [firstJson_eq_some_iff]
    constructor
    · rintro ⟨others, hothers, htext⟩
      cases h.unique hothers
      exact htext
    · exact fun htext => ⟨bytes, h, htext⟩
  refine ⟨fun s h => ?_, hread, firstJson_eq_none_iff⟩
  rw [hread (Utf8.encode s) h, ← Utf8.decode_eq_iff]
  exact Utf8.decode_encode s

/-- An answer in which part of a character comes first, and a text later. -/
def truncated : GetResponse :=
  ⟨[{ updates := [{ value := some ⟨some (.jsonIetf [0x61, 0xE2, 0x82, 0x62])⟩ },
    { value := some (jsonValue "later") }] }]⟩

/-- Of that answer what comes first is read, with one replacement character in it. -/
theorem firstJson_iff_repaired_truncated :
    Leads ⟨some (.jsonIetf [0x61, 0xE2, 0x82, 0x62])⟩ truncated ∧ firstJson truncated = some "a\uFFFDb" := by
  have hleads : Leads ⟨some (.jsonIetf [0x61, 0xE2, 0x82, 0x62])⟩ truncated := ⟨_, _, _, _, rfl, rfl, rfl⟩
  have hdecode : Utf8.decode [0x61, 0xE2, 0x82, 0x62] = "a\uFFFDb".toList := by
    have ha : Utf8.readChar 0x61 [0xE2, 0x82, 0x62] = (some 'a', 0) := rfl
    have hpart : Utf8.readChar 0xE2 [0x82, 0x62] = (none, 1) := rfl
    have hb : Utf8.readChar 0x62 [] = (some 'b', 0) := rfl
    rw [Utf8.decode_cons, ha, List.drop_zero, Utf8.decode_cons, hpart, List.drop_one, List.tail_cons,
      Utf8.decode_cons, hb, List.drop_zero, Utf8.decode_nil]
    rfl
  exact ⟨hleads, ((firstJson_iff_repaired truncated).2.1 _ hleads _).2 (Utf8.decode_eq_iff.1 hdecode)⟩

end NetworkAgent.Management
