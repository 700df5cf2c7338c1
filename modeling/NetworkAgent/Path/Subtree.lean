/-!
# Subtrees

Whether one XPath addresses a node at or below another one, read off the texts: the path is the
root itself, or goes on after it with a further element or with a predicate.
-/

namespace NetworkAgent.XPath

/-- What is left of `text` after `start`, if it starts with it. -/
def rest? : List Char → List Char → Option (List Char)
  | [], text => some text
  | _ :: _, [] => none
  | c :: start, d :: text => if c = d then rest? start text else none

/-- What is left after a start is what has to be put behind it. -/
theorem rest?_eq_some_iff {start text rest : List Char} :
    rest? start text = some rest ↔ text = start ++ rest := by
  induction start generalizing text with
  | nil => simp [rest?]
  | cons c start ih =>
    cases text with
    | nil => simp [rest?]
    | cons d text =>
      rw [rest?]
      split
      · next h => simp [h, ih]
      · next h => simp [Ne.symm h]

/-- Whether the characters of a path continue those of a root with an element or a predicate. -/
def continuesBelow (path root : List Char) : Bool :=
  match rest? root path with
  | some (c :: _) => c == '/' || c == '['
  | _ => false

/-- Whether `path` is `root` or a node below it. -/
def isAtOrBelow (path root : String) : Bool :=
  path == root || continuesBelow path.toList root.toList

/-- A path continues below a root if a `/` or a `[` follows the root in it. -/
theorem continuesBelow_iff {path root : List Char} :
    continuesBelow path root = true ↔
      ∃ c rest, path = root ++ c :: rest ∧ (c = '/' ∨ c = '[') := by
  rw [continuesBelow]
  split
  · next c rest h =>
    rw [rest?_eq_some_iff] at h
    simp [h]
  · next h =>
    simp only [Bool.false_eq_true, false_iff]
    rintro ⟨c, rest, hp, -⟩
    exact h c rest (rest?_eq_some_iff.2 hp)

/-- A node is at a root or below it if its path is the root's, or goes on after it with a `/` or a `[`. -/
theorem isAtOrBelow_iff {path root : String} :
    isAtOrBelow path root = true ↔
      path = root ∨ ∃ c rest, path.toList = root.toList ++ c :: rest ∧ (c = '/' ∨ c = '[') := by
  simp [isAtOrBelow, continuesBelow_iff]

/-- Every node is at itself. -/
@[simp] theorem isAtOrBelow_self (path : String) : isAtOrBelow path path = true := by
  simp [isAtOrBelow]

end NetworkAgent.XPath
