import Mathlib.Data.List.Sort
import NetworkAgent.Proofs.Path.Grammar
import NetworkAgent.Path.Element

/-! # Reading the elements of a path

A path that is written element by element is read element by element, and every element that is read, from whatever
text, can be written so that it is read again.

* **`XPath.Written`** — an element as it is written: its name, and what stands inside its brackets. `Written.element`
  is the element that is meant, and **`elements_write`** says that it is read; `elements_spelling_write` says so of
  the segments of the grammar.
* `Keys.Ordered` — lists of keys as `Keys.insert` makes them.
* **`Element.Legible`** — the elements that can be written, by `Element.element_written`; all that are read are such, by
  **`legible_of_mem_elements`**. -/

namespace NetworkAgent.XPath

/-! ## Written elements -/

/-- **An element as it is written.** -/
structure Written where
  /-- The name. -/
  name : List Char
  /-- What stands inside the brackets behind the name. -/
  insides : List (List Char)

namespace Written

/-- A pair of brackets with what stands inside. -/
def bracket (inside : List Char) : List Char := '[' :: (inside ++ [']'])

/-- The text of an element without its separator. -/
def body (w : Written) : List Char := w.name ++ w.insides.flatMap bracket

/-- The text of an element. -/
def text (w : Written) : List Char := '/' :: w.body

/-- The element that is meant. -/
def element (w : Written) : Element :=
  ⟨String.ofList w.name, addPredicates [] (w.insides.map splitPredicate)⟩

/-- **An element is properly written** if it has a name, which starts neither an element nor a predicate, and each of
its brackets is closed by the sign behind it. -/
structure Proper (w : Written) : Prop where
  /-- There is a name. -/
  name_ne : w.name ≠ []
  /-- It starts no other element. -/
  slash_notMem : '/' ∉ w.name
  /-- It starts no predicate. -/
  open_notMem : '[' ∉ w.name
  /-- Nothing inside a bracket closes it. -/
  close_notMem : ∀ inside ∈ w.insides, ']' ∉ inside

instance : DecidablePred Proper := fun w =>
  decidable_of_iff (w.name ≠ [] ∧ '/' ∉ w.name ∧ '[' ∉ w.name ∧ ∀ inside ∈ w.insides, ']' ∉ inside)
    ⟨fun ⟨hn, hs, ho, hc⟩ => ⟨hn, hs, ho, hc⟩, fun ⟨hn, hs, ho, hc⟩ => ⟨hn, hs, ho, hc⟩⟩

/-- The text of a list of elements. -/
def write (ws : List Written) : String := String.ofList (ws.flatMap text)

end Written

/-! ## Cutting a path -/

/-- Puts a text in front of the first segment of a cut text. -/
def prependFirst (start : List Char) (segments : List (List Char)) : List (List Char) := start.foldr consFirst segments

/-- A first segment is there to put a text in front of. -/
theorem prependFirst_cons (start s : List Char) (rest : List (List Char)) :
    prependFirst start (s :: rest) = (start ++ s) :: rest := by
  induction start with
  | nil => rfl
  | cons c start ih =>
      show consFirst c (prependFirst start (s :: rest)) = _
      rw [ih]
      rfl

/-- A name is not cut. -/
theorem segments_name_append {name : List Char} (hs : '/' ∉ name) (ho : '[' ∉ name) (rest : List Char) :
    segments false (name ++ rest) = prependFirst name (segments false rest) := by
  induction name with
  | nil => rfl
  | cons c name ih =>
      obtain ⟨hsc, hs⟩ := List.ne_and_not_mem_of_not_mem_cons hs
      obtain ⟨hoc, ho⟩ := List.ne_and_not_mem_of_not_mem_cons ho
      rw [List.cons_append, segments, if_neg (Ne.symm hsc), decide_eq_false (Ne.symm hoc), ih hs ho]
      rfl

/-- What stands in a bracket is not cut. -/
theorem segments_inside_append {inside : List Char} (hc : ']' ∉ inside) (rest : List Char) :
    segments true (inside ++ ']' :: rest) = prependFirst (inside ++ [']']) (segments false rest) := by
  induction inside with
  | nil => rfl
  | cons c inside ih =>
      obtain ⟨hcc, hc⟩ := List.ne_and_not_mem_of_not_mem_cons hc
      rw [List.cons_append, segments, decide_eq_true (Ne.symm hcc), ih hc]
      rfl

/-- Nor are brackets one after another. -/
theorem segments_brackets_append {insides : List (List Char)} (hc : ∀ inside ∈ insides, ']' ∉ inside)
    (rest : List Char) :
    segments false (insides.flatMap Written.bracket ++ rest)
      = prependFirst (insides.flatMap Written.bracket) (segments false rest) := by
  induction insides with
  | nil => rfl
  | cons inside insides ih =>
      obtain ⟨hin, hc⟩ := List.forall_mem_cons.1 hc
      have hopen : ∀ r, segments false ('[' :: r) = consFirst '[' (segments true r) := fun _ => rfl
      have hi := segments_inside_append hin (insides.flatMap Written.bracket ++ rest)
      simp only [List.flatMap_cons, Written.bracket, List.cons_append, List.append_assoc, List.nil_append]
      rw [hopen, hi, ih hc]
      simp only [prependFirst, List.foldr_cons, List.foldr_append, List.foldr_nil]

/-- **A path that is written element by element is cut between the elements**, and in front of the first. -/
theorem segments_write {ws : List Written} (h : ∀ w ∈ ws, w.Proper) :
    segments false (ws.flatMap Written.text) = [] :: ws.map Written.body := by
  induction ws with
  | nil => rfl
  | cons w ws ih =>
      obtain ⟨hw, hws⟩ := List.forall_mem_cons.1 h
      -- the text is cut in front of the element, and neither in its name nor in its brackets
      have hcut : ∀ r, segments false ('/' :: r) = [] :: segments false r := fun _ => rfl
      rw [List.flatMap_cons, Written.text, List.cons_append, hcut, Written.body, List.append_assoc,
        segments_name_append hw.slash_notMem hw.open_notMem, segments_brackets_append hw.close_notMem, ih hws,
        prependFirst_cons, prependFirst_cons, List.append_nil]
      rfl

/-! ## Reading a segment -/

/-- A name is read. -/
theorem read_name_append {name : List Char} (ho : '[' ∉ name) (rest : List Char) :
    Segment.read (name ++ rest) = ⟨name ++ (Segment.read rest).name, (Segment.read rest).predicates⟩ := by
  induction name with
  | nil => rfl
  | cons c name ih =>
      obtain ⟨hoc, ho⟩ := List.ne_and_not_mem_of_not_mem_cons ho
      rw [List.cons_append, Segment.read, if_neg (Ne.symm hoc), ih ho]
      rfl

/-- A bracket is closed by the first sign that does so. -/
theorem closePredicate_append {inside : List Char} (hc : ']' ∉ inside) (rest : List Char) :
    closePredicate (inside ++ ']' :: rest) = some (inside, rest) := by
  induction inside with
  | nil => rfl
  | cons c inside ih =>
      obtain ⟨hcc, hc⟩ := List.ne_and_not_mem_of_not_mem_cons hc
      rw [List.cons_append, closePredicate, if_neg (Ne.symm hcc), ih hc]
      rfl

/-- Brackets are read one after another. -/
theorem read_brackets {insides : List (List Char)} (hc : ∀ inside ∈ insides, ']' ∉ inside) :
    Segment.read (insides.flatMap Written.bracket) = ⟨[], insides.map splitPredicate⟩ := by
  induction insides with
  | nil =>
      rw [List.flatMap_nil, Segment.read]
      rfl
  | cons inside insides ih =>
      obtain ⟨hin, hc⟩ := List.forall_mem_cons.1 hc
      have hclose := closePredicate_append hin (insides.flatMap Written.bracket)
      rw [List.flatMap_cons, Written.bracket, List.cons_append, List.append_assoc, List.singleton_append,
        Segment.read, if_pos rfl]
      split
      · next h => cases hclose.symm.trans h
      · next h =>
          obtain ⟨rfl, rfl⟩ := Prod.mk.inj (Option.some.inj (hclose.symm.trans h))
          rw [ih hc]
          rfl

/-- **A properly written element is read**: its name, and its predicates split. -/
theorem read_body {w : Written} (h : w.Proper) : Segment.read w.body = ⟨w.name, w.insides.map splitPredicate⟩ := by
  rw [Written.body, read_name_append h.open_notMem, read_brackets h.close_notMem, List.append_nil]

/-- Segments with names are gathered one by one. -/
theorem gather_map {ws : List Written} (h : ∀ w ∈ ws, w.name ≠ []) :
    gather [] (ws.map fun w => ⟨w.name, w.insides.map splitPredicate⟩) = ws.map Written.element := by
  induction ws with
  | nil => rfl
  | cons w ws ih =>
      obtain ⟨hw, hws⟩ := List.forall_mem_cons.1 h
      rw [List.map_cons, gather]
      simp only [if_neg hw, ih hws]
      rfl

/-- **A path that is written element by element is read element by element.** -/
theorem elements_write {ws : List Written} (h : ∀ w ∈ ws, w.Proper) :
    elements (Written.write ws) = ws.map Written.element := by
  have hread : (ws.map Written.body).map Segment.read
      = ws.map fun w => ⟨w.name, w.insides.map splitPredicate⟩ := by
    rw [List.map_map]
    exact List.map_congr_left fun w hw => read_body (h w hw)
  -- the segment in front of the first element has no name, and contributes nothing
  have hempty : Segment.read [] = ⟨[], []⟩ := by rw [Segment.read]
  rw [elements, Written.write, String.toList_ofList, segments_write h, List.map_cons, hread, hempty, gather]
  exact gather_map fun w hw => (h w hw).name_ne

/-! ## Written segments -/

/-- What stands inside a bracket is split at its first equals sign. -/
theorem splitPredicate_append {key : List Char} (h : '=' ∉ key) (value : List Char) :
    splitPredicate (key ++ '=' :: value) = (key, value) := by
  have hkey : ∀ c ∈ key, decide (c ≠ '=') = true := fun c hc => decide_eq_true fun he => h (he ▸ hc)
  rw [splitPredicate, List.takeWhile_append_of_pos hkey, List.dropWhile_append_of_pos hkey]
  simp

namespace Segment

/-- The element that a segment makes by itself. -/
def element (s : Segment) : Element := ⟨String.ofList s.name, addPredicates [] s.predicates⟩

/-- A segment as it is written. -/
def written (s : Segment) : Written := ⟨s.name, s.predicates.map fun p => p.1 ++ '=' :: p.2⟩

/-- Its text is the one that the grammar gives it. -/
theorem text_written (s : Segment) : s.written.text = spelling.segment s := by
  have hbracket (p : List Char × List Char) : Written.bracket (p.1 ++ '=' :: p.2) = spelling.predicate p := by
    simp [Written.bracket, Spelling.predicate, spelling]
  rw [Written.text, Written.body, written, List.flatMap_map, funext hbracket]
  rfl

/-- A segment with a name is properly written if it is admitted. -/
theorem proper_written {s : Segment} (h : Admits s) (hname : s.name ≠ []) : s.written.Proper where
  name_ne := hname
  slash_notMem := h.slash_notMem
  open_notMem := h.open_notMem
  close_notMem := List.forall_mem_map.2 fun p hp => by
    have hp := h.predicates p hp
    simp [hp.close_notMem_key, hp.close_notMem_value]

/-- And its element is meant. -/
theorem element_written {s : Segment} (h : Admits s) : s.written.element = s.element := by
  have hsplit : (s.predicates.map fun p => p.1 ++ '=' :: p.2).map splitPredicate = s.predicates := by
    rw [List.map_map]
    exact (List.map_congr_left fun p hp => splitPredicate_append (h.predicates p hp).equals_notMem p.2).trans
      (List.map_id _)
  rw [Written.element, written, hsplit, element]

end Segment

/-- **Segments with names are read one by one**, each by itself. -/
theorem elements_spelling_write {ss : List Segment} (h : ∀ s ∈ ss, Admits s ∧ s.name ≠ []) :
    elements (spelling.write ss) = ss.map Segment.element := by
  have htext : spelling.write ss = Written.write (ss.map Segment.written) := by
    rw [Spelling.write, Written.write, List.flatMap_map, funext Segment.text_written]
  rw [htext, elements_write (List.forall_mem_map.2 fun s hs => Segment.proper_written (h s hs).1 (h s hs).2),
    List.map_map]
  exact List.map_congr_left fun s hs => Segment.element_written (h s hs).1

/-! ## Ordered keys -/

/-- Where each key stands once, it has the value that stands with it. -/
theorem lookup_eq_some_iff_mem {α β : Type} [BEq α] [LawfulBEq α] {l : List (α × β)} (h : (l.map Prod.fst).Nodup)
    {key : α} {value : β} : l.lookup key = some value ↔ (key, value) ∈ l := by
  rw [List.lookup_eq_some_iff]
  constructor
  · rintro ⟨before, after, rfl, -⟩
    exact List.mem_append_right before List.mem_cons_self
  · intro hmem
    obtain ⟨before, after, rfl⟩ := List.append_of_mem hmem
    refine ⟨before, after, rfl, fun p hp => bne_iff_ne.2 fun he => ?_⟩
    rw [List.map_append, List.nodup_append] at h
    exact h.2.2 p.1 (List.mem_map_of_mem hp) key (List.mem_cons_self) he.symm

/-- Where each key stands once, the order does not count. -/
theorem lookup_eq_of_perm {α β : Type} [BEq α] [LawfulBEq α] {l m : List (α × β)} (h : (l.map Prod.fst).Nodup)
    (hp : l.Perm m) (key : α) : l.lookup key = m.lookup key := by
  have hm : (m.map Prod.fst).Nodup := (hp.map Prod.fst).nodup_iff.1 h
  ext value
  rw [lookup_eq_some_iff_mem h, lookup_eq_some_iff_mem hm, hp.mem_iff]

namespace Keys

/-- **Keys in order**, each of them once. -/
def Ordered (keys : Keys) : Prop := keys.Pairwise fun a b => a.1 < b.1

/-- Only the key that is given a value is new. -/
theorem mem_insert {key value : String} {keys : Keys} {kv : String × String} (h : kv ∈ keys.insert key value) :
    kv = (key, value) ∨ kv ∈ keys := by
  induction keys with
  | nil => exact Or.inl (List.mem_singleton.1 h)
  | cons entry rest ih =>
      obtain ⟨k, v⟩ := entry
      rw [Keys.insert] at h
      split at h
      · rcases List.mem_cons.1 h with h | h
        · exact Or.inl h
        · exact Or.inr (List.mem_cons_of_mem _ h)
      · split at h
        · exact List.mem_cons.1 h
        · rcases List.mem_cons.1 h with h | h
          · exact Or.inr (h ▸ List.mem_cons_self)
          · exact (ih h).imp_right (List.mem_cons_of_mem _)

/-- Keys stay in order when one is given a value. -/
theorem Ordered.insert {keys : Keys} (h : keys.Ordered) (key value : String) : (keys.insert key value).Ordered := by
  induction keys with
  | nil => exact List.pairwise_singleton _ _
  | cons entry rest ih =>
      obtain ⟨k, v⟩ := entry
      obtain ⟨hk, hrest⟩ := List.pairwise_cons.1 h
      rw [Keys.insert]
      split
      · next he => exact List.pairwise_cons.2 ⟨fun kv hkv => he ▸ hk kv hkv, hrest⟩
      · next hne =>
          split
          · next hlt =>
              refine List.pairwise_cons.2 ⟨List.forall_mem_cons.2 ⟨hlt, fun kv hkv => ?_⟩, h⟩
              exact String.lt_trans hlt (hk kv hkv)
          · next hle =>
              refine List.pairwise_cons.2 ⟨fun kv hkv => ?_, ih hrest⟩
              rcases mem_insert hkv with rfl | hkv
              · exact Decidable.not_not.1 fun hnlt =>
                  hne (String.le_antisymm (String.not_lt.1 hnlt) (String.not_lt.1 hle))
              · exact hk kv hkv

/-- Each key is there once. -/
theorem Ordered.nodup {keys : Keys} (h : keys.Ordered) : (keys.map Prod.fst).Nodup :=
  List.pairwise_map.2 (h.imp fun hlt => String.ne_of_lt hlt)

/-- A key of ordered keys has the value that stands with it. -/
theorem Ordered.lookup_of_mem {keys : Keys} (h : keys.Ordered) {kv : String × String} (hkv : kv ∈ keys) :
    keys.lookup kv.1 = some kv.2 :=
  (lookup_eq_some_iff_mem h.nodup).2 hkv

/-- **Ordered keys are told by the values that they give.** -/
theorem Ordered.ext {a b : Keys} (ha : a.Ordered) (hb : b.Ordered) (h : ∀ q, a.lookup q = b.lookup q) : a = b := by
  have : Std.Irrefl fun x y : String × String => x.1 < y.1 := ⟨fun x => String.lt_irrefl x.1⟩
  have : Std.Antisymm fun x y : String × String => x.1 < y.1 :=
    ⟨fun x y hxy hyx => absurd (String.lt_trans hxy hyx) (String.lt_irrefl x.1)⟩
  refine List.Pairwise.eq_of_mem_iff ha hb fun kv => ?_
  rw [← lookup_eq_some_iff_mem ha.nodup, ← lookup_eq_some_iff_mem hb.nodup, h]

/-- A key that comes after another is neither that one nor before it. -/
theorem ne_and_not_lt {k key : String} (h : k < key) : key ≠ k ∧ ¬key < k :=
  ⟨fun he => String.lt_irrefl k (he ▸ h), fun hgt => String.lt_irrefl k (String.lt_trans h hgt)⟩

/-- To give a key the value that it has changes nothing. -/
theorem Ordered.insert_of_mem {keys : Keys} (h : keys.Ordered) {kv : String × String} (hkv : kv ∈ keys) :
    keys.insert kv.1 kv.2 = keys := by
  induction keys with
  | nil => exact absurd hkv List.not_mem_nil
  | cons entry rest ih =>
      obtain ⟨k, v⟩ := entry
      obtain ⟨hk, hrest⟩ := List.pairwise_cons.1 h
      rw [Keys.insert]
      rcases List.mem_cons.1 hkv with rfl | hkv
      · rw [if_pos rfl]
      · obtain ⟨hne, hngt⟩ := ne_and_not_lt (hk kv hkv)
        rw [if_neg hne, if_neg hngt, ih hrest hkv]

/-- A key that comes after all others is put behind them. -/
theorem insert_of_forall_lt {keys : Keys} {key : String} (value : String) (h : ∀ kv ∈ keys, kv.1 < key) :
    keys.insert key value = keys ++ [(key, value)] := by
  induction keys with
  | nil => rfl
  | cons entry rest ih =>
      obtain ⟨k, v⟩ := entry
      obtain ⟨hlt, hrest⟩ := List.forall_mem_cons.1 h
      obtain ⟨hne, hngt⟩ := ne_and_not_lt hlt
      rw [Keys.insert, if_neg hne, if_neg hngt, ih hrest]
      rfl

/-- A key that is given a value leaves some key. -/
theorem insert_ne_nil (keys : Keys) (key value : String) : keys.insert key value ≠ [] := by
  intro h
  have hl := lookup_insert key value key keys
  rw [h, if_pos rfl] at hl
  cases hl

end Keys

/-- Of several predicates the last is added to those before. -/
theorem addPredicates_concat (keys : Keys) (predicates : List (List Char × List Char)) (p : List Char × List Char) :
    addPredicates keys (predicates ++ [p])
      = (addPredicates keys predicates).insert (String.ofList p.1) (String.ofList p.2) :=
  List.foldl_concat _ keys p predicates

/-- Predicates are added one after another. -/
theorem addPredicates_append (keys : Keys) (first second : List (List Char × List Char)) :
    addPredicates keys (first ++ second) = addPredicates (addPredicates keys first) second :=
  List.foldl_append

/-- **A key has the value of its last predicate**, and without one keeps the value that it had. -/
theorem lookup_addPredicates (keys : Keys) (predicates : List (List Char × List Char)) (key : String) :
    (addPredicates keys predicates).lookup key
      = ((predicates.reverse.lookup key.toList).map String.ofList).or (keys.lookup key) := by
  induction predicates using List.reverseRecOn with
  | nil => rfl
  | append_singleton predicates p ih =>
      have hkey : key = String.ofList p.1 ↔ (key.toList == p.1) = true := by
        rw [beq_iff_eq, ← String.toList_inj, String.toList_ofList]
      rw [addPredicates_concat, Keys.lookup_insert, List.reverse_append, List.reverse_singleton, List.singleton_append,
        List.lookup_cons, ih]
      by_cases h : key = String.ofList p.1
      · rw [if_pos h, hkey.1 h]
        rfl
      · rw [if_neg h, Bool.eq_false_of_not_eq_true fun hb => h (hkey.2 hb)]

/-- Predicates leave keys in order. -/
theorem ordered_addPredicates {keys : Keys} (h : keys.Ordered) (predicates : List (List Char × List Char)) :
    (addPredicates keys predicates).Ordered := by
  induction predicates generalizing keys with
  | nil => exact h
  | cons p predicates ih => exact ih (h.insert _ _)

/-- Only predicates leave keys. -/
theorem addPredicates_eq_nil_iff {predicates : List (List Char × List Char)} :
    addPredicates [] predicates = [] ↔ predicates = [] := by
  rcases List.eq_nil_or_concat predicates with rfl | ⟨before, p, rfl⟩
  · exact iff_of_true rfl rfl
  · rw [List.concat_eq_append, addPredicates_concat]
    exact iff_of_false (Keys.insert_ne_nil _ _ _) (List.append_ne_nil_of_right_ne_nil _ (List.cons_ne_nil _ _))

/-- The keys that come of predicates are among these. -/
theorem mem_of_mem_addPredicates {keys : Keys} {predicates : List (List Char × List Char)} {kv : String × String}
    (h : kv ∈ addPredicates keys predicates) :
    kv ∈ keys ∨ ∃ p ∈ predicates, kv = (String.ofList p.1, String.ofList p.2) := by
  induction predicates generalizing keys with
  | nil => exact Or.inl h
  | cons p predicates ih =>
      rcases ih h with h | ⟨q, hq, he⟩
      · rcases Keys.mem_insert h with he | h
        · exact Or.inr ⟨p, List.mem_cons_self, he⟩
        · exact Or.inl h
      · exact Or.inr ⟨q, List.mem_cons_of_mem p hq, he⟩

/-! ## Legible elements -/

/-- **An element that can be written.** -/
structure Element.Legible (e : Element) : Prop where
  /-- It has a name. -/
  name_ne : e.name.toList ≠ []
  /-- The name starts no other element. -/
  slash_notMem : '/' ∉ e.name.toList
  /-- The name starts no predicate. -/
  open_notMem : '[' ∉ e.name.toList
  /-- Its keys are in order. -/
  ordered : e.keys.Ordered
  /-- Keys and values are admitted in predicates. -/
  admits : ∀ kv ∈ e.keys, AdmitsPredicate (kv.1.toList, kv.2.toList)

namespace Element

/-- What stands inside the bracket of a key with a value. -/
def inside (kv : String × String) : List Char := kv.1.toList ++ '=' :: kv.2.toList

/-- An element as it can be written. -/
def written (e : Element) : Written := ⟨e.name.toList, e.keys.map inside⟩

/-- The inside of a bracket is split at the sign between key and value. -/
theorem splitPredicate_inside {kv : String × String} (h : AdmitsPredicate (kv.1.toList, kv.2.toList)) :
    splitPredicate (inside kv) = (kv.1.toList, kv.2.toList) :=
  splitPredicate_append h.equals_notMem kv.2.toList

/-- And nothing in it closes the bracket. -/
theorem close_notMem_inside {kv : String × String} (h : AdmitsPredicate (kv.1.toList, kv.2.toList)) :
    ']' ∉ inside kv := by
  intro hc
  rcases List.mem_append.1 hc with hc | hc
  · exact h.close_notMem_key hc
  · exact h.close_notMem_value ((List.mem_cons.1 hc).resolve_left (by decide))

/-- Keys in order come of the predicates that they are written in. -/
theorem addPredicates_inside {keys : Keys} (h : keys.Ordered)
    (ha : ∀ kv ∈ keys, AdmitsPredicate (kv.1.toList, kv.2.toList)) :
    addPredicates [] ((keys.map inside).map splitPredicate) = keys := by
  -- from the last key, which comes after all others
  induction keys using List.reverseRecOn with
  | nil => rfl
  | append_singleton keys kv ih =>
      obtain ⟨hkeys, -, hlt⟩ := List.pairwise_append.1 h
      obtain ⟨hakeys, hakv⟩ := List.forall_mem_append.1 ha
      have hlast : ∀ q ∈ keys, q.1 < kv.1 := fun q hq => hlt q hq kv (List.mem_singleton_self kv)
      rw [List.map_append, List.map_append, List.map_singleton, List.map_singleton, addPredicates_concat,
        ih hkeys hakeys, splitPredicate_inside (hakv kv (List.mem_singleton_self kv)), String.ofList_toList,
        String.ofList_toList, Keys.insert_of_forall_lt _ hlast]

/-- **An element that can be written is read again.** -/
theorem Legible.element_written {e : Element} (h : e.Legible) : e.written.element = e := by
  rw [Written.element, written, String.ofList_toList, addPredicates_inside h.ordered h.admits]

/-- It is properly written. -/
theorem Legible.proper_written {e : Element} (h : e.Legible) : e.written.Proper where
  name_ne := h.name_ne
  slash_notMem := h.slash_notMem
  open_notMem := h.open_notMem
  close_notMem := List.forall_mem_map.2 fun kv hkv => close_notMem_inside (h.admits kv hkv)

end Element

/-! ## What is read is legible -/

/-- A text without a `/` outside brackets, if it starts inside or outside of one. -/
def Uncut : Bool → List Char → Prop
  | _, [] => True
  | false, c :: r => c ≠ '/' ∧ Uncut (c = '[') r
  | true, c :: r => Uncut (c ≠ ']') r

/-- A cut text has a first segment, which is uncut, and so are the others. -/
theorem segments_uncut (inside : Bool) (text : List Char) :
    ∃ s rest, segments inside text = s :: rest ∧ Uncut inside s ∧ ∀ t ∈ rest, Uncut false t := by
  induction text generalizing inside with
  | nil => exact ⟨[], [], by cases inside <;> rfl, by cases inside <;> trivial, fun _ => nofun⟩
  | cons c r ih =>
      cases inside with
      | true =>
          obtain ⟨s, rest, hs, hfirst, hrest⟩ := ih (c ≠ ']')
          exact ⟨c :: s, rest, by rw [segments, hs]; rfl, hfirst, hrest⟩
      | false =>
          by_cases hc : c = '/'
          · obtain ⟨s, rest, hs, hfirst, hrest⟩ := ih false
            exact ⟨[], s :: rest, by rw [segments, if_pos hc, hs], trivial, List.forall_mem_cons.2 ⟨hfirst, hrest⟩⟩
          · obtain ⟨s, rest, hs, hfirst, hrest⟩ := ih (c = '[')
            exact ⟨c :: s, rest, by rw [segments, if_neg hc, hs]; rfl, ⟨hc, hfirst⟩, hrest⟩

/-- A bracket holds nothing that closes it, and what comes after it is uncut. -/
theorem uncut_of_closePredicate {s inner rest : List Char} (h : closePredicate s = some (inner, rest))
    (hs : Uncut true s) : ']' ∉ inner ∧ Uncut false rest := by
  induction s generalizing inner with
  | nil => cases h
  | cons c r ih =>
      rw [closePredicate] at h
      split at h
      · next hc =>
          cases h
          rw [Uncut, decide_eq_false (fun hne => hne hc)] at hs
          exact ⟨List.not_mem_nil, hs⟩
      · next hc =>
          obtain ⟨⟨a, b⟩, hab, he⟩ := Option.map_eq_some_iff.1 h
          cases he
          rw [Uncut, decide_eq_true hc] at hs
          obtain ⟨ha, hb⟩ := ih hab hs
          exact ⟨List.not_mem_cons_of_ne_of_not_mem (Ne.symm hc) ha, hb⟩

/-- The two sides of a predicate are admitted. -/
theorem admits_splitPredicate {inner : List Char} (h : ']' ∉ inner) : AdmitsPredicate (splitPredicate inner) where
  equals_notMem hc := by
    have hne := List.all_eq_true.1 List.all_takeWhile '=' hc
    simp at hne
  close_notMem_key hc := h (List.takeWhile_subset _ hc)
  close_notMem_value hc := h (List.dropWhile_subset _ (List.drop_subset _ _ hc))

/-- **What is read of an uncut text**: a name that starts nothing else, and predicates that are admitted. -/
theorem admits_read {s : List Char} (h : Uncut false s) : Admits (Segment.read s) := by
  -- along the reading of the segment
  fun_induction Segment.read s with
  | case1 => exact ⟨List.not_mem_nil, List.not_mem_nil, fun _ => nofun⟩
  | case2 => exact ⟨List.not_mem_nil, List.not_mem_nil, fun _ => nofun⟩
  | case3 r inner rest hclose after ih =>
      obtain ⟨hinner, hrest⟩ := uncut_of_closePredicate hclose h.2
      have hafter := ih hrest
      exact ⟨hafter.slash_notMem, hafter.open_notMem,
        List.forall_mem_cons.2 ⟨admits_splitPredicate hinner, hafter.predicates⟩⟩
  | case4 c r hc after ih =>
      obtain ⟨hslash, hr⟩ := h
      rw [decide_eq_false hc] at hr
      have hafter := ih hr
      exact ⟨List.not_mem_cons_of_ne_of_not_mem (Ne.symm hslash) hafter.slash_notMem,
        List.not_mem_cons_of_ne_of_not_mem (Ne.symm hc) hafter.open_notMem, hafter.predicates⟩

/-- Keys that are admitted stay so with predicates that are. -/
theorem admits_addPredicates {keys : Keys} {predicates : List (List Char × List Char)}
    (hkeys : ∀ kv ∈ keys, AdmitsPredicate (kv.1.toList, kv.2.toList)) (h : ∀ p ∈ predicates, AdmitsPredicate p) :
    ∀ kv ∈ addPredicates keys predicates, AdmitsPredicate (kv.1.toList, kv.2.toList) := by
  intro kv hkv
  rcases mem_of_mem_addPredicates hkv with hkv | ⟨p, hp, rfl⟩
  · exact hkeys kv hkv
  · simpa only [String.toList_ofList] using h p hp

/-- **What is gathered of segments that are admitted is legible.** -/
theorem legible_gather {carried : Keys} {segments : List Segment} (hordered : carried.Ordered)
    (hcarried : ∀ kv ∈ carried, AdmitsPredicate (kv.1.toList, kv.2.toList)) (h : ∀ s ∈ segments, Admits s) :
    ∀ e ∈ gather carried segments, e.Legible := by
  induction segments generalizing carried with
  | nil => exact fun _ => nofun
  | cons s rest ih =>
      obtain ⟨hs, hrest⟩ := List.forall_mem_cons.1 h
      have hkeys := ordered_addPredicates hordered s.predicates
      have hadmits := admits_addPredicates hcarried hs.predicates
      rw [gather]
      split
      · exact ih hkeys hadmits hrest
      · next hname =>
          refine List.forall_mem_cons.2 ⟨⟨?_, ?_, ?_, hkeys, hadmits⟩, ih .nil (fun _ => nofun) hrest⟩
          · rwa [String.toList_ofList]
          · rw [String.toList_ofList]
            exact hs.slash_notMem
          · rw [String.toList_ofList]
            exact hs.open_notMem

/-- **Every element that is read can be written**, whatever the text. -/
theorem legible_of_mem_elements {path : String} {e : Element} (h : e ∈ elements path) : e.Legible := by
  obtain ⟨s, rest, hsegments, hs, hrest⟩ := segments_uncut false path.toList
  refine legible_gather .nil (fun _ => nofun) ?_ e h
  rw [hsegments]
  intro t ht
  obtain ⟨u, hu, rfl⟩ := List.mem_map.1 ht
  exact admits_read (List.forall_mem_cons.2 ⟨hs, hrest⟩ u hu)

end NetworkAgent.XPath
