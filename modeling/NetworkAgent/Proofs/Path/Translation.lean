import NetworkAgent.Proofs.Path.Grammar

/-! # The translations respect the grammar

A translation reads a path region by region: over a name, over a key and over a value it copies what it reads,
up to the respelling of names, and at the sign that ends the region it goes on in the next one. From the
regions come the predicates, the segments, and the whole path.

* **`Spelling.Reads`** — a translation that reads the segments of one spelling and writes them in another;
  `Spelling.Reads.write` carries this to whole paths.
* `XPath.respell_name_append`, `XPath.respell_key_append`, `XPath.respell_value_append` — the regions of an
  XPath; `JsPath.respell_name_append`, `JsPath.respell_key_append`, `JsPath.respell_quoted_append` those of a
  JSPath.
* **`translate_write`** — both translations on the whole grammar: each writes the segments that it reads, with
  their names respelled, in the other notation. -/

namespace NetworkAgent

open XPath (Segment)

/-! ## Reading part by part -/

/-- What can be read part by part is read so over a whole list of parts. -/
theorem read_flatMap_append {α : Type} {read : List Char → List Char} {parts written : α → List Char}
    {as : List α} (h : ∀ a ∈ as, ∀ rest, read (parts a ++ rest) = written a ++ read rest)
    (rest : List Char) : read (as.flatMap parts ++ rest) = as.flatMap written ++ read rest := by
  induction as with
  | nil => rfl
  | cons a as ih =>
      have ha := h a List.mem_cons_self
      have has := ih fun b hb => h b (List.mem_cons_of_mem a hb)
      rw [List.flatMap_cons, List.flatMap_cons, List.append_assoc, List.append_assoc, ha, has]

/-- **A translation reads a segment of one spelling and writes it in another**, its name respelled by `f`: it does
so with the separator, with the name, and with each predicate. -/
structure Spelling.Reads (n m : Spelling) (read : List Char → List Char) (f : Char → Char)
    (s : Segment) : Prop where
  /-- The separator is turned into the other one. -/
  separator : ∀ rest, read (n.separator :: rest) = m.separator :: read rest
  /-- The name is respelled. -/
  name : ∀ rest, read (s.name ++ rest) = s.name.map f ++ read rest
  /-- Each predicate keeps its key and its value. -/
  predicate : ∀ p ∈ s.predicates, ∀ rest, read (n.predicate p ++ rest) = m.predicate p ++ read rest

namespace Spelling.Reads

variable {n m : Spelling} {read : List Char → List Char} {f : Char → Char}

/-- Then it does so with the segment. -/
theorem segment {s : Segment} (h : n.Reads m read f s) (rest : List Char) :
    read (n.segment s ++ rest) = m.segment (s.rename f) ++ read rest := by
  have hp := read_flatMap_append h.predicate rest
  have hn := h.name (s.predicates.flatMap n.predicate ++ rest)
  rw [Spelling.segment, List.cons_append, List.append_assoc, h.separator, hn, hp, ← List.append_assoc]
  rfl

/-- It does so with a whole path, and goes on behind it. -/
theorem write_append {ss : List Segment} (h : ∀ s ∈ ss, n.Reads m read f s) (rest : List Char) :
    read ((n.write ss).toList ++ rest) = (m.write (ss.map (·.rename f))).toList ++ read rest := by
  rw [Spelling.write, Spelling.write, String.toList_ofList, String.toList_ofList, List.flatMap_map,
    read_flatMap_append (fun s hs => (h s hs).segment) rest]

/-- **What reads the segments of a path writes the whole of it.** -/
theorem write {ss : List Segment} (h : ∀ s ∈ ss, n.Reads m read f s) (hnil : read [] = []) :
    String.ofList (read (n.write ss).toList) = m.write (ss.map (·.rename f)) := by
  have hs := write_append h []
  rw [List.append_nil, hnil, List.append_nil] at hs
  rw [hs, String.ofList_toList]

end Spelling.Reads

/-! ## XPaths -/

namespace XPath

/-- A name is copied with underscores for its dashes. -/
theorem respell_name_append {name : List Char} (hs : '/' ∉ name) (ho : '[' ∉ name)
    (rest : List Char) :
    respell .name (name ++ rest) = name.map underscored ++ respell .name rest := by
  induction name with
  | nil => rfl
  | cons c name ih =>
      obtain ⟨hsc, hs⟩ := List.ne_and_not_mem_of_not_mem_cons hs
      obtain ⟨hoc, ho⟩ := List.ne_and_not_mem_of_not_mem_cons ho
      rw [List.cons_append, respell, if_neg (Ne.symm hoc), if_neg (Ne.symm hsc), ih hs ho,
        List.map_cons, List.cons_append, underscored]
      split <;> rfl

/-- A key is copied up to the equals sign behind it. -/
theorem respell_key_append {key : List Char} (he : '=' ∉ key) (hc : ']' ∉ key) (rest : List Char) :
    respell .key (key ++ '=' :: rest) = key ++ '=' :: '=' :: '"' :: respell .value rest := by
  induction key with
  | nil => rfl
  | cons c key ih =>
      obtain ⟨hec, he⟩ := List.ne_and_not_mem_of_not_mem_cons he
      obtain ⟨hcc, hc⟩ := List.ne_and_not_mem_of_not_mem_cons hc
      rw [List.cons_append, respell, if_neg (Ne.symm hcc), if_neg (Ne.symm hec), ih he hc,
        List.cons_append]

/-- A value is copied up to the bracket behind it. -/
theorem respell_value_append {value : List Char} (hc : ']' ∉ value) (rest : List Char) :
    respell .value (value ++ ']' :: rest) = value ++ '"' :: '}' :: respell .name rest := by
  induction value with
  | nil => rfl
  | cons c value ih =>
      obtain ⟨hcc, hc⟩ := List.ne_and_not_mem_of_not_mem_cons hc
      rw [List.cons_append, respell, if_neg (Ne.symm hcc), ih hc, List.cons_append]

/-- A predicate is written in the other notation. -/
theorem respell_predicate_append {p : List Char × List Char} (h : AdmitsPredicate p)
    (rest : List Char) :
    respell .name (spelling.predicate p ++ rest)
      = JsPath.spelling.predicate p ++ respell .name rest := by
  obtain ⟨key, value⟩ := p
  have hk := respell_key_append h.equals_notMem h.close_notMem_key (value ++ ']' :: rest)
  have hv := respell_value_append h.close_notMem_value rest
  have ho : ∀ r, respell .name ('[' :: r) = '{' :: '.' :: respell .key r := fun _ => rfl
  simp only [Spelling.predicate, spelling, JsPath.spelling, List.cons_append, List.append_assoc,
    List.nil_append]
  rw [ho, hk, hv]

/-- The segments that an XPath admits are read. -/
theorem reads {s : Segment} (h : Admits s) :
    spelling.Reads JsPath.spelling (respell .name) underscored s where
  separator _ := rfl
  name := respell_name_append h.slash_notMem h.open_notMem
  predicate p hp := respell_predicate_append (h.predicates p hp)

end XPath

/-! ## JSPaths -/

namespace JsPath

/-- A name is copied with dashes for its underscores. -/
theorem respell_name_append {name : List Char} (hd : '.' ∉ name) (ho : '{' ∉ name)
    (rest : List Char) : respell .name (name ++ rest) = name.map dashed ++ respell .name rest := by
  induction name with
  | nil => rfl
  | cons c name ih =>
      obtain ⟨hdc, hd⟩ := List.ne_and_not_mem_of_not_mem_cons hd
      obtain ⟨hoc, ho⟩ := List.ne_and_not_mem_of_not_mem_cons ho
      -- the character opens no predicate, whatever comes after the name
      have hc := respell_name_cons (r := name ++ rest) fun hb => absurd hb.symm hoc
      rw [List.cons_append, hc, if_neg (Ne.symm hdc), ih hd ho, List.map_cons, List.cons_append, dashed]

/-- A key is copied up to the equals signs behind it. -/
theorem respell_key_append {key : List Char} (he : '=' ∉ key) (hc : '}' ∉ key) (rest : List Char) :
    respell .key (key ++ '=' :: '=' :: '"' :: rest) = key ++ '=' :: respell .quoted rest := by
  induction key with
  | nil => rfl
  | cons c key ih =>
      obtain ⟨hec, he⟩ := List.ne_and_not_mem_of_not_mem_cons he
      obtain ⟨hcc, hc⟩ := List.ne_and_not_mem_of_not_mem_cons hc
      rw [List.cons_append, respell, if_neg (Ne.symm hcc), ih he hc, List.cons_append]
      -- neither of the tokens that start with an equals sign starts here
      · intro r hb
        exact absurd hb.symm hec
      · intro r hb
        exact absurd hb.symm hec

/-- A value is copied up to the quote and the brace behind it. -/
theorem respell_quoted_append {value : List Char} (hc : ¬['"', '}'] <:+: value) (rest : List Char) :
    respell .quoted (value ++ '"' :: '}' :: rest) = value ++ ']' :: respell .name rest := by
  induction value with
  | nil => rfl
  | cons c value ih =>
      have hv : ¬['"', '}'] <:+: value := by
        intro h
        exact hc (h.trans (List.suffix_cons c value).isInfix)
      rw [List.cons_append, respell, ih hv, List.cons_append]
      -- a quote that a brace follows is that behind the value, not one inside
      intro r hq hr
      cases value with
      | nil => cases hr
      | cons d value =>
          obtain ⟨rfl, -⟩ := List.cons.inj hr
          exact hc ⟨[], value, by rw [hq]; rfl⟩

/-- A predicate is written in the other notation. -/
theorem respell_predicate_append {p : List Char × List Char} (h : AdmitsPredicate p)
    (rest : List Char) :
    respell .name (spelling.predicate p ++ rest)
      = XPath.spelling.predicate p ++ respell .name rest := by
  obtain ⟨key, value⟩ := p
  have hk := respell_key_append h.equals_notMem h.close_notMem (value ++ '"' :: '}' :: rest)
  have hv := respell_quoted_append h.close_notInfix rest
  have ho : ∀ r, respell .name ('{' :: '.' :: r) = '[' :: respell .key r := fun _ => rfl
  simp only [Spelling.predicate, spelling, XPath.spelling, List.cons_append, List.append_assoc,
    List.nil_append]
  rw [ho, hk, hv]

/-- The segments that a JSPath admits are read. -/
theorem reads {s : Segment} (h : Admits s) :
    spelling.Reads XPath.spelling (respell .name) dashed s where
  separator _ := rfl
  name := respell_name_append h.dot_notMem h.open_notMem
  predicate p hp := respell_predicate_append (h.predicates p hp)

end JsPath

/-! ## Whole paths -/

/-- **The translations respect the grammar.** From a path whose segments its notation admits, each of them
writes the same segments in the other notation, with underscores for the dashes of the names or the other way
round; keys and values come through character for character. -/
theorem translate_write (ss : List Segment) :
    ((∀ s ∈ ss, XPath.Admits s) →
        XPath.toJsPath (XPath.spelling.write ss)
          = JsPath.spelling.write (ss.map (·.rename underscored))) ∧
      ((∀ s ∈ ss, JsPath.Admits s) →
        JsPath.toXPath (JsPath.spelling.write ss)
          = XPath.spelling.write (ss.map (·.rename dashed))) := by
  constructor
  · intro h
    exact Spelling.Reads.write (fun s hs => XPath.reads (h s hs)) (XPath.respell_nil .name)
  · intro h
    exact Spelling.Reads.write (fun s hs => JsPath.reads (h s hs)) (JsPath.respell_nil .name)

/-- Segments with signs of both notations in their keys and values; one value is empty, and one is a quote. -/
def knotted : List Segment :=
  [⟨"a-b_c".toList, [("k-l_m".toList, "/.-_[='\x7b\x7d".toList), ("n".toList, [])]⟩,
    ⟨"d".toList, [("o".toList, "\"".toList)]⟩]

/-- The translations of `knotted` respell its first name and nothing else. -/
theorem translate_write_knotted :
    XPath.toJsPath "/a-b_c[k-l_m=/.-_[='\x7b\x7d][n=]/d[o=\"]"
        = ".a_b_c\x7b.k-l_m==\"/.-_[='\x7b\x7d\"\x7d\x7b.n==\"\"\x7d.d\x7b.o==\"\"\"\x7d" ∧
      JsPath.toXPath
          ".a-b_c\x7b.k-l_m==\"/.-_[='\x7b\x7d\"\x7d\x7b.n==\"\"\x7d.d\x7b.o==\"\"\"\x7d"
        = "/a-b-c[k-l_m=/.-_[='\x7b\x7d][n=]/d[o=\"]" := by
  obtain ⟨hx, hj⟩ := translate_write knotted
  have hx := hx (by decide +kernel)
  have hj := hj (by decide +kernel)
  constructor
  · calc XPath.toJsPath _ = XPath.toJsPath (XPath.spelling.write knotted) :=
          congrArg _ (by decide +kernel)
      _ = JsPath.spelling.write (knotted.map (·.rename underscored)) := hx
      _ = _ := by decide +kernel
  · calc JsPath.toXPath _ = JsPath.toXPath (JsPath.spelling.write knotted) :=
          congrArg _ (by decide +kernel)
      _ = XPath.spelling.write (knotted.map (·.rename dashed)) := hj
      _ = _ := by decide +kernel

end NetworkAgent
