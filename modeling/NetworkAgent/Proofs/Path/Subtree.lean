import Mathlib.Tactic.ByContra
import Mathlib.Tactic.Tauto
import NetworkAgent.Path.Subtree
import NetworkAgent.Proofs.Path.Elements

/-! # Subtrees by text and by element

That a path is at a root or below it can be told from the texts, of which one goes on where the other ends, or from the
elements, of which the root's come first in the path. For all paths that are written element by element the two agree
if and only if the root is written so as well, and without predicates.

* **`IsWithin`** — that a path is at a root or below it, by their elements.
* **`IsPlain`** — the roots that are written as a list of names.
* **`isAtOrBelow_iff_isWithin`** — for a plain root text and elements agree, by induction on the names.
* **`Tells.isPlain`** — for any other root there is a path about which they do not: the root's elements written anew,
  with a predicate more (`Tells.keys_last`, `Tells.keys_before`) or a longer name (`Tells.toList_eq`).
* **`forall_isAtOrBelow_iff`** — both directions. -/

namespace NetworkAgent.XPath

/-! ## Subtrees by element -/

/-- **An element covers another** of the same name that has its keys with their values, and may have further ones. -/
def Element.Covers (e f : Element) : Prop := e.name = f.name ∧ ∀ kv ∈ e.keys, f.keys.lookup kv.1 = some kv.2

/-- **A path is within a root**, by their elements: it starts with the root's, where in place of the last one there may
be one that it covers. -/
def IsWithin : List Element → List Element → Prop
  | [], _ => True
  | _ :: _, [] => False
  | [e], f :: _ => e.Covers f
  | e :: e' :: es, f :: fs => e = f ∧ IsWithin (e' :: es) fs

/-- Behind elements that are the same it depends on the last one. -/
theorem isWithin_concat {before : List Element} {e f : Element} {after : List Element} :
    IsWithin (before ++ [e]) (before ++ f :: after) ↔ e.Covers f := by
  induction before with
  | nil => rfl
  | cons d before ih =>
      cases before with
      | nil => exact and_iff_right rfl
      | cons d' before => exact (and_iff_right rfl).trans ih

/-- An element with keys in order covers itself. -/
theorem Element.Legible.covers_self {e : Element} (h : e.Legible) : e.Covers e :=
  ⟨rfl, fun _ hkv => h.ordered.lookup_of_mem hkv⟩

/-- What can be written is within itself. -/
theorem isWithin_self {es : List Element} (h : ∀ e ∈ es, e.Legible) : IsWithin es es := by
  rcases List.eq_nil_or_concat es with rfl | ⟨before, e, rfl⟩
  · trivial
  · rw [List.concat_eq_append] at h ⊢
    exact isWithin_concat.2 (h e (List.mem_append_right _ (List.mem_singleton_self e))).covers_self

/-! ## Subtrees by text -/

/-- A text that goes on with an element or a predicate, if it goes on at all. -/
def StartsNew : List Char → Prop
  | [] => True
  | c :: _ => c = '/' ∨ c = '['

/-- A path is at a root or below it if its text starts with the root's, and goes on with something new. -/
theorem isAtOrBelow_iff_append {path root : String} :
    isAtOrBelow path root = true ↔ ∃ rest, path.toList = root.toList ++ rest ∧ StartsNew rest := by
  rw [isAtOrBelow_iff]
  constructor
  · rintro (rfl | ⟨c, rest, hpath, hc⟩)
    · exact ⟨[], (List.append_nil _).symm, trivial⟩
    · exact ⟨c :: rest, hpath, hc⟩
  · rintro ⟨rest, hpath, hrest⟩
    cases rest with
    | nil => exact Or.inl (String.toList_injective (hpath.trans (List.append_nil _)))
    | cons c rest => exact Or.inr ⟨c, rest, hpath, hrest⟩

/-- The text of elements starts with something new. -/
theorem startsNew_write (ws : List Written) : StartsNew (ws.flatMap Written.text) := by
  cases ws with
  | nil => trivial
  | cons w ws => exact Or.inl rfl

/-- So do predicates with the text of elements behind them. -/
theorem startsNew_brackets_append (insides : List (List Char)) {text : List Char} (h : StartsNew text) :
    StartsNew (insides.flatMap Written.bracket ++ text) := by
  cases insides with
  | nil => exact h
  | cons inside insides => exact Or.inr rfl

/-- What starts with something new may go on in any way. -/
theorem StartsNew.append {rest : List Char} (h : StartsNew rest) (hne : rest ≠ []) (more : List Char) :
    StartsNew (rest ++ more) := by
  cases rest with
  | nil => exact absurd rfl hne
  | cons c rest => exact h

/-- **Where a name ends** something new starts: names with something new behind them are told apart. -/
theorem name_append_inj {a b r s : List Char} (ha : '/' ∉ a ∧ '[' ∉ a) (hb : '/' ∉ b ∧ '[' ∉ b) (hr : StartsNew r)
    (hs : StartsNew s) : a ++ r = b ++ s ↔ a = b ∧ r = s := by
  refine ⟨fun h => ?_, fun ⟨hab, hrs⟩ => by rw [hab, hrs]⟩
  have hnew {c : Char} {n t : List Char} (hn : '/' ∉ c :: n ∧ '[' ∉ c :: n) : ¬StartsNew (c :: t) := by
    rintro (rfl | rfl)
    · exact hn.1 List.mem_cons_self
    · exact hn.2 List.mem_cons_self
  induction a generalizing b with
  | nil =>
      cases b with
      | nil => exact ⟨rfl, h⟩
      | cons d b =>
          rw [List.nil_append, List.cons_append] at h
          exact absurd (h ▸ hr) (hnew hb)
  | cons c a ih =>
      cases b with
      | nil =>
          rw [List.nil_append, List.cons_append] at h
          exact absurd (h ▸ hs) (hnew ha)
      | cons d b =>
          obtain ⟨rfl, htexts⟩ := List.cons.inj h
          have htail {n : List Char} (hn : '/' ∉ c :: n ∧ '[' ∉ c :: n) : '/' ∉ n ∧ '[' ∉ n :=
            hn.imp List.not_mem_of_not_mem_cons List.not_mem_of_not_mem_cons
          obtain ⟨rfl, hrs⟩ := ih (htail ha) (htail hb) htexts
          exact ⟨rfl, hrs⟩

/-! ## Plain roots -/

/-- A path that is written element by element. -/
def IsWritten (path : String) : Prop := ∃ ws, (∀ w ∈ ws, w.Proper) ∧ Written.write ws = path

/-- **A root is plain** if it is written as a list of names, each with a `/` in front of it. -/
def IsPlain (root : String) : Prop := ∃ ws, (∀ w ∈ ws, w.Proper ∧ w.insides = []) ∧ Written.write ws = root

/-- A plain root is written element by element. -/
theorem IsPlain.isWritten {root : String} : IsPlain root → IsWritten root :=
  fun ⟨ws, hws, hroot⟩ => ⟨ws, fun w hw => (hws w hw).1, hroot⟩

section plain

variable {p w : Written}

/-- A name alone covers what has that name. -/
theorem covers_element_iff (hp : p.insides = []) : p.element.Covers w.element ↔ p.name = w.name := by
  rw [Element.Covers, Written.element, Written.element, hp]
  exact (and_iff_left fun _ hkv => absurd hkv List.not_mem_nil).trans String.ofList_inj

/-- A name alone is an element without predicates. -/
theorem element_eq_iff (hp : p.insides = []) : p.element = w.element ↔ p.name = w.name ∧ w.insides = [] := by
  have hkeys : addPredicates [] (w.insides.map splitPredicate) = [] ↔ w.insides = [] :=
    addPredicates_eq_nil_iff.trans List.map_eq_nil_iff
  rw [Written.element, Written.element, hp, Element.mk.injEq, String.ofList_inj]
  exact and_congr_right fun _ => eq_comm.trans hkeys

/-- Two texts that start with elements are told apart element by element. -/
theorem text_append_inj {r s : List Char} (hp : p.Proper) (hw : w.Proper) (hplain : p.insides = [])
    (hr : StartsNew r) (hs : StartsNew s) :
    w.text ++ r = p.text ++ s ↔ p.name = w.name ∧ w.insides.flatMap Written.bracket ++ r = s := by
  rw [Written.text, Written.text, Written.body, Written.body, hplain, List.flatMap_nil, List.append_nil,
    List.cons_append, List.cons_append, List.cons_inj_right, List.append_assoc,
    name_append_inj ⟨hw.slash_notMem, hw.open_notMem⟩ ⟨hp.slash_notMem, hp.open_notMem⟩
      (startsNew_brackets_append w.insides hr) hs, eq_comm (a := w.name)]

/-- No predicate starts where an element does. -/
theorem brackets_append_eq_iff {r : List Char} (ps : List Written) (s : List Char) :
    w.insides.flatMap Written.bracket ++ r = (p :: ps).flatMap Written.text ++ s
      ↔ w.insides = [] ∧ r = (p :: ps).flatMap Written.text ++ s := by
  cases hw : w.insides with
  | nil => exact (and_iff_right rfl).symm
  | cons inside insides =>
      refine iff_of_false (fun h => ?_) fun h => nomatch h.1
      have hsign : '[' = '/' := (List.cons.inj h).1
      exact absurd hsign (by decide)

/-- **Below a plain root**, element by element. -/
theorem startsNew_append_iff {ps ws : List Written} (hps : ∀ p ∈ ps, p.Proper ∧ p.insides = [])
    (hws : ∀ w ∈ ws, w.Proper) :
    (∃ rest, ws.flatMap Written.text = ps.flatMap Written.text ++ rest ∧ StartsNew rest)
      ↔ IsWithin (ps.map Written.element) (ws.map Written.element) := by
  induction ps generalizing ws with
  | nil => exact iff_of_true ⟨_, rfl, startsNew_write ws⟩ trivial
  | cons p ps ih =>
      obtain ⟨⟨hp, hplain⟩, hps⟩ := List.forall_mem_cons.1 hps
      cases ws with
      | nil => exact iff_of_false (fun ⟨_, h, _⟩ => nomatch h) id
      | cons w ws =>
          obtain ⟨hw, hws⟩ := List.forall_mem_cons.1 hws
          have hcut (rest : List Char) (hrest : StartsNew (ps.flatMap Written.text ++ rest)) :
              (w :: ws).flatMap Written.text = (p :: ps).flatMap Written.text ++ rest
                ↔ p.name = w.name ∧ w.insides.flatMap Written.bracket ++ ws.flatMap Written.text
                    = ps.flatMap Written.text ++ rest := by
            rw [List.flatMap_cons, List.flatMap_cons, List.append_assoc]
            exact text_append_inj hp hw hplain (startsNew_write ws) hrest
          cases ps with
          | nil =>
              -- after the last name anything new may come
              refine Iff.trans ⟨?_, fun hname => ?_⟩ (covers_element_iff hplain).symm
              · rintro ⟨rest, h, hrest⟩
                exact ((hcut rest hrest).1 h).1
              · have hnew := startsNew_brackets_append w.insides (startsNew_write ws)
                exact ⟨_, (hcut _ hnew).2 ⟨hname, rfl⟩, hnew⟩
          | cons p' ps =>
              have hnew (rest : List Char) : StartsNew ((p' :: ps).flatMap Written.text ++ rest) := Or.inl rfl
              simp only [hcut _ (hnew _), brackets_append_eq_iff]
              rw [List.map_cons, List.map_cons, List.map_cons, IsWithin, element_eq_iff hplain, ← List.map_cons,
                ← ih hps hws]
              tauto

end plain

/-- **For a plain root text and elements agree.** -/
theorem isAtOrBelow_iff_isWithin {path root : String} (hroot : IsPlain root) (hpath : IsWritten path) :
    isAtOrBelow path root = true ↔ IsWithin (elements root) (elements path) := by
  obtain ⟨ps, hps, rfl⟩ := hroot
  obtain ⟨ws, hws, rfl⟩ := hpath
  rw [isAtOrBelow_iff_append, elements_write hws, elements_write fun p hp => (hps p hp).1, Written.write, Written.write,
    String.toList_ofList, String.toList_ofList]
  exact startsNew_append_iff hps hws

/-! ## Other roots -/

namespace Written

/-- An element with one more predicate. -/
def withBracket (w : Written) (inside : List Char) : Written := { w with insides := w.insides ++ [inside] }

/-- The predicate is written behind the others. -/
theorem text_withBracket (w : Written) (inside : List Char) :
    (w.withBracket inside).text = w.text ++ bracket inside := by
  rw [text, text, body, body, withBracket, List.flatMap_append, List.flatMap_singleton, List.cons_append,
    List.append_assoc]

end Written

namespace Element.Legible

variable {e : Element}

/-- With one more predicate it is properly written. -/
theorem proper_withBracket (h : e.Legible) (kv : String × String) (ha : AdmitsPredicate (kv.1.toList, kv.2.toList)) :
    (e.written.withBracket (inside kv)).Proper := by
  refine ⟨h.name_ne, h.slash_notMem, h.open_notMem, List.forall_mem_append.2 ⟨h.proper_written.close_notMem, ?_⟩⟩
  exact List.forall_mem_singleton.2 (close_notMem_inside ha)

/-- The predicate gives its key a value. -/
theorem element_withBracket (h : e.Legible) (kv : String × String) (ha : AdmitsPredicate (kv.1.toList, kv.2.toList)) :
    (e.written.withBracket (inside kv)).element = ⟨e.name, e.keys.insert kv.1 kv.2⟩ := by
  rw [Written.element, Written.withBracket, List.map_append, List.map_singleton, addPredicates_concat,
    splitPredicate_inside ha, written, addPredicates_inside h.ordered h.admits, String.ofList_toList,
    String.ofList_toList, String.ofList_toList]

end Element.Legible

/-- **Elements tell what is below a root** if text and elements agree about every path. -/
def Tells (es : List Element) (root : String) : Prop :=
  ∀ ws : List Written, (∀ w ∈ ws, w.Proper) →
    ((∃ rest, ws.flatMap Written.text = root.toList ++ rest ∧ StartsNew rest) ↔ IsWithin es (ws.map Written.element))

/-- The text of elements. -/
def textOf (es : List Element) : List Char := (es.map Element.written).flatMap Written.text

/-- It is written one after another. -/
theorem textOf_append (es fs : List Element) : textOf (es ++ fs) = textOf es ++ textOf fs := by
  rw [textOf, List.map_append, List.flatMap_append]
  rfl

/-- Elements that can be written are properly written. -/
theorem proper_map_written {es : List Element} (h : ∀ e ∈ es, e.Legible) : ∀ w ∈ es.map Element.written, w.Proper :=
  List.forall_mem_map.2 fun e he => (h e he).proper_written

/-- And they are meant. -/
theorem map_element_written {es : List Element} (h : ∀ e ∈ es, e.Legible) :
    (es.map Element.written).map Written.element = es := by
  rw [List.map_map]
  exact (List.map_congr_left fun e he => (h e he).element_written).trans (List.map_id es)

namespace Tells

variable {root : String} {before : List Element} {e : Element}

/-- The root's text starts that of its elements. -/
theorem exists_rest {es : List Element} (h : Tells es root) (hes : ∀ e ∈ es, e.Legible) :
    ∃ rest, textOf es = root.toList ++ rest ∧ StartsNew rest := by
  refine (h _ (proper_map_written hes)).2 ?_
  rw [map_element_written hes]
  exact isWithin_self hes

/-- What the text of the elements goes on with changes no more than the last element, and that one is covered. -/
theorem covers_of_text {w : Written} (h : Tells (before ++ [e]) root) (hes : ∀ d ∈ before ++ [e], d.Legible)
    (hw : w.Proper) {rest more : List Char} (htext : textOf (before ++ [e]) = root.toList ++ rest)
    (hmore : w.text = e.written.text ++ more) (hnew : StartsNew (rest ++ more)) : e.Covers w.element := by
  have hbefore : ∀ d ∈ before, d.Legible := fun d hd => hes d (List.mem_append_left _ hd)
  have hproper : ∀ v ∈ before.map Element.written ++ [w], v.Proper :=
    List.forall_mem_append.2 ⟨proper_map_written hbefore, List.forall_mem_singleton.2 hw⟩
  have hlonger : (before.map Element.written ++ [w]).flatMap Written.text = root.toList ++ (rest ++ more) := by
    have hlast : textOf [e] = e.written.text := List.append_nil _
    rw [textOf_append, hlast] at htext
    rw [List.flatMap_append, List.flatMap_singleton, hmore, ← List.append_assoc, ← textOf, htext, List.append_assoc]
  have hwithin := (h _ hproper).1 ⟨rest ++ more, hlonger, hnew⟩
  rw [List.map_append, map_element_written hbefore] at hwithin
  exact isWithin_concat.1 hwithin

/-- **The last element has no keys**, since its text could go on with a predicate that gives one of them another
value. -/
theorem keys_last (h : Tells (before ++ [e]) root) (hes : ∀ d ∈ before ++ [e], d.Legible) : e.keys = [] := by
  obtain ⟨rest, htext, hrest⟩ := h.exists_rest hes
  have he : e.Legible := hes e (List.mem_append_right _ (List.mem_singleton_self e))
  refine List.eq_nil_iff_forall_not_mem.2 fun kv hkv => ?_
  -- of two values of a key the later one counts
  obtain ⟨other, hclose, hother⟩ : ∃ other : String, ']' ∉ other.toList ∧ kv.2 ≠ other := by
    by_cases hv : kv.2 = ""
    · exact ⟨"x", by decide, fun hx => absurd (hv.symm.trans hx) (by decide)⟩
    · exact ⟨"", by decide, hv⟩
  have ha : AdmitsPredicate (kv.1.toList, other.toList) :=
    ⟨(he.admits kv hkv).equals_notMem, (he.admits kv hkv).close_notMem_key, hclose⟩
  have hnew : StartsNew (rest ++ Written.bracket (Element.inside (kv.1, other))) := by
    by_cases hnil : rest = []
    · rw [hnil]
      exact Or.inr rfl
    · exact hrest.append hnil _
  have hcovers := h.covers_of_text hes (he.proper_withBracket (kv.1, other) ha) htext (Written.text_withBracket _ _)
    hnew
  rw [he.element_withBracket (kv.1, other) ha] at hcovers
  have hlookup := hcovers.2 kv hkv
  rw [Keys.lookup_insert, if_pos rfl] at hlookup
  exact hother (Option.some.inj hlookup).symm

/-- **The root is the text of its elements**, since otherwise the last name could go on. -/
theorem toList_eq (h : Tells (before ++ [e]) root) (hes : ∀ d ∈ before ++ [e], d.Legible) :
    root.toList = textOf (before ++ [e]) := by
  obtain ⟨rest, htext, hrest⟩ := h.exists_rest hes
  have he : e.Legible := hes e (List.mem_append_right _ (List.mem_singleton_self e))
  by_contra hne
  have hnil : rest ≠ [] := fun hnil => hne (by rw [htext, hnil, List.append_nil])
  have hlonger : Written.Proper ⟨e.name.toList ++ ['x'], []⟩ :=
    ⟨List.append_ne_nil_of_left_ne_nil he.name_ne _, by simpa using he.slash_notMem, by simpa using he.open_notMem,
      fun _ => nofun⟩
  have hmore : Written.text ⟨e.name.toList ++ ['x'], []⟩ = e.written.text ++ ['x'] := by
    rw [Written.text, Written.text, Written.body, Written.body, Element.written, h.keys_last hes]
    simp
  have hcovers := h.covers_of_text hes hlonger htext hmore (hrest.append hnil _)
  have hname : e.name.toList = e.name.toList ++ ['x'] := by
    conv_lhs => rw [hcovers.1]
    exact String.toList_ofList
  simpa using congrArg List.length hname

/-- **Nor do the other elements have keys**, since one of their predicates could be written twice. -/
theorem keys_before (h : Tells (before ++ [e]) root) (hes : ∀ d ∈ before ++ [e], d.Legible) :
    ∀ d ∈ before, d.keys = [] := by
  intro d hd
  refine List.eq_nil_iff_forall_not_mem.2 fun kv hkv => ?_
  obtain ⟨a, b, rfl⟩ := List.append_of_mem hd
  have hroot := h.toList_eq hes
  rw [List.append_assoc, List.cons_append] at h hes hroot
  obtain ⟨ha, hlater⟩ := List.forall_mem_append.1 hes
  obtain ⟨hdl, hb⟩ := List.forall_mem_cons.1 hlater
  have hkey := hdl.admits kv hkv
  -- the same elements, with the key and its value once more
  let again : List Written :=
    a.map Element.written ++ d.written.withBracket (Element.inside kv) :: (b ++ [e]).map Element.written
  have hproper : ∀ w ∈ again, w.Proper := List.forall_mem_append.2
    ⟨proper_map_written ha, List.forall_mem_cons.2 ⟨hdl.proper_withBracket kv hkey, proper_map_written hb⟩⟩
  have hsame : again.map Written.element = a ++ d :: (b ++ [e]) := by
    rw [List.map_append, List.map_cons, map_element_written ha, map_element_written hb, hdl.element_withBracket kv hkey,
      hdl.ordered.insert_of_mem hkv]
  have hwithin : IsWithin (a ++ d :: (b ++ [e])) (again.map Written.element) := by
    rw [hsame]
    exact isWithin_self hes
  obtain ⟨rest, htext, -⟩ := (h again hproper).2 hwithin
  have hcons : textOf (d :: (b ++ [e])) = d.written.text ++ textOf (b ++ [e]) := rfl
  rw [hroot, textOf_append, hcons, List.flatMap_append, List.flatMap_cons, Written.text_withBracket, ← textOf, ← textOf,
    List.append_assoc, List.append_assoc, List.append_assoc, List.append_cancel_left_eq,
    List.append_cancel_left_eq] at htext
  -- a bracket would stand where the next element starts
  cases b with
  | nil => exact absurd (List.cons.inj htext).1 (by decide)
  | cons f b => exact absurd (List.cons.inj htext).1 (by decide)

/-- **A root is plain** if its elements tell what is below it. -/
theorem isPlain {es : List Element} (h : Tells es root) (hes : ∀ e ∈ es, e.Legible) : IsPlain root := by
  rcases List.eq_nil_or_concat es with rfl | ⟨before, e, rfl⟩
  · obtain ⟨rest, htext, -⟩ := h.exists_rest hes
    have hroot : root.toList = [] := (List.append_eq_nil_iff.1 htext.symm).1
    exact ⟨[], fun _ => nofun, String.toList_injective hroot.symm⟩
  · rw [List.concat_eq_append] at h hes
    refine ⟨(before ++ [e]).map Element.written, List.forall_mem_map.2 fun d hd => ⟨(hes d hd).proper_written, ?_⟩, ?_⟩
    · have hkeys : d.keys = [] := by
        rcases List.mem_append.1 hd with hd | hd
        · exact h.keys_before hes d hd
        · rw [List.mem_singleton.1 hd]
          exact h.keys_last hes
      rw [Element.written, hkeys]
      rfl
    · exact String.toList_injective ((String.toList_ofList).trans (h.toList_eq hes).symm)

end Tells

/-- **Text and elements agree about what is below a root**, for all paths that are written element by element, if and
only if the root is plain. -/
theorem forall_isAtOrBelow_iff {root : String} :
    (∀ path, IsWritten path → (isAtOrBelow path root = true ↔ IsWithin (elements root) (elements path)))
      ↔ IsPlain root := by
  refine ⟨fun h => ?_, fun hroot path hpath => isAtOrBelow_iff_isWithin hroot hpath⟩
  have htells : Tells (elements root) root := by
    intro ws hws
    have hagree := h (Written.write ws) ⟨ws, hws, rfl⟩
    rwa [isAtOrBelow_iff_append, Written.write, String.toList_ofList, ← Written.write, elements_write hws] at hagree
  exact htells.isPlain fun e => legible_of_mem_elements

end NetworkAgent.XPath
