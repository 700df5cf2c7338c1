import NetworkAgent.Path.Subtree

/-!
# The ledger of pushed state

A session remembers the XPaths whose state the daemon has taken and not yet dropped. The paths are kept in
strictly increasing order, character by character, which is the order in which all of them are deleted.

* `Ledger.mem_insert`, `Ledger.mem_erase` and `Ledger.mem_eraseSubtree` say which paths are tracked after each
  operation, and `Ledger.mem_drop` which after the daemon dropped a path.
-/

namespace NetworkAgent

/-- The tracked paths. -/
structure Ledger where
  /-- The paths, in order. -/
  paths : List String
  /-- Each path comes before those that follow it. -/
  increasing : paths.Pairwise (· < ·)
  deriving DecidableEq, Repr

namespace Ledger

/-- The ledger without any path. -/
def empty : Ledger := ⟨[], .nil⟩

instance : Inhabited Ledger := ⟨empty⟩

/-! ## Membership -/

instance : Membership String Ledger := ⟨fun l path => path ∈ l.paths⟩

/-- A path is tracked if it is among the paths. -/
theorem mem_iff {path : String} {l : Ledger} : path ∈ l ↔ path ∈ l.paths := Iff.rfl

instance (path : String) (l : Ledger) : Decidable (path ∈ l) := inferInstanceAs (Decidable (path ∈ l.paths))

/-- The empty ledger tracks nothing. -/
@[simp] theorem not_mem_empty (path : String) : path ∉ empty := List.not_mem_nil

/-! ## Order -/

/-- Puts a path into an increasing list, if it is not there. -/
def place (path : String) : List String → List String
  | [] => [path]
  | p :: rest =>
    if path = p then p :: rest
    else if path < p then path :: p :: rest
    else p :: place path rest

/-- Only the path that is put into a list is new in it. -/
theorem mem_place {path q : String} {ps : List String} : q ∈ place path ps ↔ q = path ∨ q ∈ ps := by
  induction ps with
  | nil => simp [place]
  | cons p rest ih =>
    rw [place]
    split
    · next h => simp [h]
    · split
      · simp
      · rw [List.mem_cons, ih, List.mem_cons]
        exact or_left_comm

/-- A path is put where it belongs in the order. -/
theorem pairwise_place (path : String) {ps : List String} (h : ps.Pairwise (· < ·)) :
    (place path ps).Pairwise (· < ·) := by
  induction ps with
  | nil => simp [place]
  | cons p rest ih =>
    obtain ⟨hp, hrest⟩ := List.pairwise_cons.1 h
    rw [place]
    split
    · exact h
    · next hne =>
      split
      · next hlt =>
        refine List.pairwise_cons.2 ⟨fun q hq => ?_, h⟩
        rcases List.mem_cons.1 hq with rfl | hq
        · exact hlt
        · exact String.lt_trans hlt (hp q hq)
      · next hle =>
        refine List.pairwise_cons.2 ⟨fun q hq => ?_, ih hrest⟩
        rcases mem_place.1 hq with rfl | hq
        · exact Decidable.not_not.1 fun hnlt =>
            hne (String.le_antisymm (String.not_lt.1 hnlt) (String.not_lt.1 hle))
        · exact hp q hq

/-! ## Operations -/

/-- Tracks a path. -/
def insert (path : String) (l : Ledger) : Ledger := ⟨place path l.paths, pairwise_place path l.increasing⟩

/-- After a path is tracked, it and those before are. -/
@[simp] theorem mem_insert {path q : String} {l : Ledger} : q ∈ l.insert path ↔ q = path ∨ q ∈ l := mem_place

/-- Keeps the paths of a kind. -/
def filter (keep : String → Bool) (l : Ledger) : Ledger := ⟨l.paths.filter keep, l.increasing.filter keep⟩

/-- Of the tracked paths those of the kind are kept. -/
@[simp] theorem mem_filter {keep : String → Bool} {q : String} {l : Ledger} :
    q ∈ l.filter keep ↔ q ∈ l ∧ keep q = true := List.mem_filter

/-- Stops tracking a path. -/
def erase (path : String) (l : Ledger) : Ledger := l.filter (· != path)

/-- One path is gone, and no other. -/
@[simp] theorem mem_erase {path q : String} {l : Ledger} : q ∈ l.erase path ↔ q ∈ l ∧ q ≠ path := by
  simp [erase]

/-- Stops tracking a path and everything below it. -/
def eraseSubtree (root : String) (l : Ledger) : Ledger := l.filter fun p => !XPath.isAtOrBelow p root

/-- The root and what is below it are gone, and nothing else. -/
@[simp] theorem mem_eraseSubtree {root q : String} {l : Ledger} :
    q ∈ l.eraseSubtree root ↔ q ∈ l ∧ XPath.isAtOrBelow q root = false := by
  simp [eraseSubtree]

/-- Records that the daemon dropped a path: with the root container of the application goes its subtree. -/
def drop (appRoot path : String) (l : Ledger) : Ledger :=
  if path = appRoot then l.eraseSubtree path else l.erase path

/-- What is tracked after the daemon dropped a path. -/
theorem mem_drop {appRoot path q : String} {l : Ledger} :
    q ∈ l.drop appRoot path ↔
      q ∈ l ∧ if path = appRoot then XPath.isAtOrBelow q path = false else q ≠ path := by
  rw [drop]
  split <;> simp

end Ledger

end NetworkAgent
