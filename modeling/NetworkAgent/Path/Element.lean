/-!
# The elements of an XPath

A structured path is a list of **elements**, each a node name with the keys that single out one entry
of a list. `elements` reads an XPath in three steps: it cuts the text at every `/` outside a
predicate (`segments`), reads the name and the predicates of each segment (`Segment.read`), and
gathers the segments into elements (`gather`). A segment without a name contributes no element; the keys
of its predicates stay in force for the next named one. A predicate that is never closed is dropped.
-/

namespace NetworkAgent.XPath

/-- List keys with their values, in strictly increasing order of the keys. -/
abbrev Keys := List (String × String)

/-- Gives `key` the value `value`, in place of any value that it had. -/
def Keys.insert (key value : String) : Keys → Keys
  | [] => [(key, value)]
  | (k, v) :: rest =>
    if key = k then (key, value) :: rest
    else if key < k then (key, value) :: (k, v) :: rest
    else (k, v) :: Keys.insert key value rest

/-- The first key wins. -/
theorem lookup_cons_ite (q k v : String) (keys : Keys) :
    List.lookup q ((k, v) :: keys) = if q = k then some v else keys.lookup q := by
  by_cases h : q = k
  · subst h; simp
  · have hb : (q == k) = false := by simpa using h
    rw [List.lookup_cons, hb]
    simp [h]

/-- A key has the value that it was given last; other keys keep theirs. -/
theorem Keys.lookup_insert (key value q : String) (keys : Keys) :
    (Keys.insert key value keys).lookup q = if q = key then some value else keys.lookup q := by
  induction keys with
  | nil => exact lookup_cons_ite q key value []
  | cons entry rest ih =>
    obtain ⟨k, v⟩ := entry
    rw [Keys.insert]
    split
    · next h =>
      subst h
      simp only [lookup_cons_ite]
      split <;> rfl
    · next h =>
      split
      · simp [lookup_cons_ite]
      · rw [lookup_cons_ite, ih, lookup_cons_ite]
        by_cases hq : q = key
        · subst hq; simp [h]
        · simp [hq]

/-- One element of a path: a node name with the keys of one list entry. -/
structure Element where
  /-- The node name. -/
  name : String
  /-- The keys that single out a list entry. -/
  keys : Keys
  deriving DecidableEq, Repr, Inhabited

/-- What stands between two separators: the text outside predicates and the predicates in order. -/
structure Segment where
  /-- The characters outside predicates. -/
  name : List Char
  /-- The closed predicates, each split at its first `=`. -/
  predicates : List (List Char × List Char)
  deriving DecidableEq, Repr

/-- Puts a character in front of the first segment of a cut text. -/
def consFirst (c : Char) : List (List Char) → List (List Char)
  | [] => [[c]]
  | s :: rest => (c :: s) :: rest

/-- Cuts a text at every `/` outside a predicate; `inside` tells whether it starts in one. -/
def segments : Bool → List Char → List (List Char)
  | _, [] => [[]]
  | false, c :: r => if c = '/' then [] :: segments false r else consFirst c (segments (c = '[') r)
  | true, c :: r => consFirst c (segments (c ≠ ']') r)

/-- Splits the inside of a predicate at its first `=`; without one the value is empty. -/
def splitPredicate (inner : List Char) : List Char × List Char :=
  (inner.takeWhile (· ≠ '='), (inner.dropWhile (· ≠ '=')).drop 1)

/-- The part of a text before its first `]` and the part after it, if it has one. -/
def closePredicate : List Char → Option (List Char × List Char)
  | [] => none
  | c :: r => if c = ']' then some ([], r) else (closePredicate r).map fun p => (c :: p.1, p.2)

/-- What follows a predicate is shorter than the text that starts in it. -/
theorem length_of_closePredicate {s inner rest : List Char} (h : closePredicate s = some (inner, rest)) :
    rest.length < s.length := by
  induction s generalizing inner with
  | nil => simp [closePredicate] at h
  | cons c r ih =>
    rw [closePredicate] at h
    split at h
    · simp at h; simp [h.2]
    · cases hr : closePredicate r with
      | none => simp [hr] at h
      | some p =>
        obtain ⟨a, b⟩ := p
        simp [hr] at h
        have := ih (h.2 ▸ hr)
        simp only [List.length_cons]; omega

/-- Reads the name and the predicates of one segment. -/
def Segment.read (s : List Char) : Segment :=
  match s with
  | [] => ⟨[], []⟩
  | c :: r =>
    if c = '[' then
      match _h : closePredicate r with
      | none => ⟨[], []⟩
      | some (inner, rest) =>
        let after := Segment.read rest
        ⟨after.name, splitPredicate inner :: after.predicates⟩
    else
      let after := Segment.read r
      ⟨c :: after.name, after.predicates⟩
termination_by s.length
decreasing_by
  · have := length_of_closePredicate (by assumption); simp only [List.length_cons]; omega
  · simp

/-- Adds predicates to the keys in force, a later value of a key replacing an earlier one. -/
def addPredicates (keys : Keys) (predicates : List (List Char × List Char)) : Keys :=
  predicates.foldl (fun ks p => ks.insert (String.ofList p.1) (String.ofList p.2)) keys

/-- Turns segments into elements; the keys of a nameless segment are carried to the next named one. -/
def gather (carried : Keys) : List Segment → List Element
  | [] => []
  | s :: rest =>
    let keys := addPredicates carried s.predicates
    if s.name = [] then gather keys rest else ⟨String.ofList s.name, keys⟩ :: gather [] rest

/-- The elements of an XPath. -/
def elements (path : String) : List Element :=
  gather [] ((segments false path.toList).map Segment.read)

end NetworkAgent.XPath
