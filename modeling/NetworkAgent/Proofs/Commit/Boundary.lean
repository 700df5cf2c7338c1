import NetworkAgent.Proofs.Commit.Tracking

/-! # Where the two modes see the end of a commit

An aggregating tracker tells the marker by the path without keys, and a delta that is streamed tells it by the
path with keys. This file says when the two come to the same.

* `JsPath.toXPath_ne_commitEnd` — no path is translated into that of the marker, so a delta has this path only
  if its notification has it.
* **`Tracker.isMarker_eq_isCommitEnd_iff`** — the modes agree about a notification just in case both of its paths
  are that of the marker, or neither is.
* `Tracker.not_agree_crossed` — two notifications about which they do not. -/

namespace NetworkAgent

open Message

/-- **No path is translated into that of the marker.** -/
theorem JsPath.toXPath_ne_commitEnd (path : String) : toXPath path ≠ commitEnd := by
  intro h
  have hl : respell .name path.toList = ".commit.end".toList := by
    rw [← String.toList_ofList (l := respell .name path.toList)]
    exact congrArg String.toList h
  apply head?_respell_name_ne path.toList
  rw [hl]
  rfl

/-- A delta closes a commit if its notification has a key with the marker's path, list keys included. -/
theorem Delta.isCommitEnd_ofNotification (n : ConfigNotification) :
    (ofNotification n).isCommitEnd = true ↔ ∃ k, n.key = some k ∧ k.jsPathWithKeys = commitEnd := by
  -- a path that is translated is not that of the marker afterwards
  have h : (ofNotification n).isCommitEnd = true ↔ (n.key.getD {}).jsPathWithKeys = commitEnd := by
    by_cases hp : (n.key.getD {}).jsPathWithKeys = commitEnd
    · rw [ofNotification, if_pos hp, isCommitEnd, beq_iff_eq]
    · rw [ofNotification, if_neg hp, isCommitEnd, beq_iff_eq]
      exact iff_of_false (JsPath.toXPath_ne_commitEnd _) hp
  rw [h]
  cases n.key with
  | none =>
      constructor
      · intro he
        exact absurd he (by decide)
      · rintro ⟨k, hk, -⟩
        cases hk
  | some key =>
      constructor
      · intro he
        exact ⟨key, rfl, he⟩
      · rintro ⟨k, hk, he⟩
        cases hk
        exact he

namespace Tracker

/-- **The modes agree about a notification** — an aggregating tracker takes it for a marker just in case the
delta of it closes a commit — if and only if its two paths are both that of the marker or both another, where it
has paths at all. -/
theorem isMarker_eq_isCommitEnd_iff (n : ConfigNotification) :
    isMarker n = (Delta.ofNotification n).isCommitEnd ↔
      ∀ k, n.key = some k → (k.jsPath = commitEnd ↔ k.jsPathWithKeys = commitEnd) := by
  rw [Bool.eq_iff_iff, isMarker_iff, Delta.isCommitEnd_ofNotification]
  constructor
  · intro h k hk
    constructor
    · intro hp
      -- a notification has one key at most
      obtain ⟨k', hk', hp'⟩ := h.1 ⟨k, hk, hp⟩
      cases hk.symm.trans hk'
      exact hp'
    · intro hp
      obtain ⟨k', hk', hp'⟩ := h.2 ⟨k, hk, hp⟩
      cases hk.symm.trans hk'
      exact hp'
  · intro h
    constructor
    · rintro ⟨k, hk, hp⟩
      exact ⟨k, hk, (h k hk).1 hp⟩
    · rintro ⟨k, hk, hp⟩
      exact ⟨k, hk, (h k hk).2 hp⟩

/-- A notification with the marker's path in one of its places for a path, and another path in the other. -/
def crossed (path withKeys : String) : ConfigNotification :=
  { key := some { jsPath := path, jsPathWithKeys := withKeys }
    data := some { json := "\x7b\"commit_seq\":8\x7d" } }

/-- Of two such notifications, the one closes a commit for a consumer of deltas only, the other only for an
aggregating tracker. -/
theorem not_agree_crossed :
    (Delta.ofNotification (crossed ".greeter" ".commit.end")).isCommitEnd = true ∧
      (new .aggregate "/greeter").handle (crossed ".greeter" ".commit.end") (.ok none)
        = (new .aggregate "/greeter", []) ∧
      (Delta.ofNotification (crossed ".commit.end" ".greeter")).isCommitEnd = false ∧
      (new .aggregate "/greeter").handle (crossed ".commit.end" ".greeter") (.ok none)
        = (new .aggregate "/greeter",
            [.call (.getConfig "/greeter"), .store none, .snapshot ⟨some 8, none⟩]) := by
  decide +kernel

end Tracker

end NetworkAgent
