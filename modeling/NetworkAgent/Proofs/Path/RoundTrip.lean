import NetworkAgent.Proofs.Path.Translation
import NetworkAgent.Proofs.Session.Turns

/-! # There and back between the notations

Each translation respells what the other one has written. This file says which paths come back as they were, in
both directions: a path does unless some part of it holds a sign that ends the part in the other notation, or a
sign that no name has there.

* **`Turns`** — a reading turns a piece of text into another one just in case something holds, whatever comes
  after the piece; `Turns.append` and `Turns.flatMap` put pieces together.
* **`Spelling.Inverts`** — a translation that turns the text of a segment back into the segment's own text in the
  other notation just in case the segment's parts are good; `Spelling.Inverts.write` carries this to whole paths.
* `JsPath.turns_name`, `JsPath.turns_key`, `JsPath.turns_value`, and their counterparts for XPaths — the regions.
* **`JsPath.toXPath_toJsPath_eq_iff`** — the paths of the application that come back from the daemon's notation.
* **`XPath.toJsPath_toXPath_eq_iff`** — the paths of the daemon that come back from the application's, and with
  them the nodes that an application can name back to the daemon. -/

namespace NetworkAgent

open Message

open XPath (Segment)

/-! ## Pieces of text -/

/-- **A reading turns a piece of text into another one** just in case `P`. It starts in `read` and goes on in
`next` behind the piece, whatever follows there. -/
def Turns (read next : List Char → List Char) (text written : List Char) (P : Prop) : Prop :=
  ∀ rest goal, read (text ++ rest) = written ++ goal ↔ P ∧ next rest = goal

namespace Turns

variable {read next last : List Char → List Char} {text written text' written' : List Char} {P Q : Prop}

/-- The condition may be said in other words. -/
theorem congr (h : Turns read next text written P) (hPQ : P ↔ Q) : Turns read next text written Q := by
  intro rest goal
  rw [h rest goal, hPQ]

/-- A piece that is always written in the same way is turned into that. -/
theorem always (h : ∀ rest, read (text ++ rest) = written ++ next rest) : Turns read next text written True := by
  intro rest goal
  rw [h rest, List.append_cancel_left_eq, true_and]

/-- **Two pieces one after the other.** -/
theorem append (h : Turns read next text written P) (h' : Turns next last text' written' Q) :
    Turns read last (text ++ text') (written ++ written') (P ∧ Q) := by
  intro rest goal
  rw [List.append_assoc, List.append_assoc, h, h', and_assoc]

/-- **A character** that is written as itself if `P`, and else starts with another one. -/
theorem char {a c : Char} (hgood : P → ∀ rest, read (a :: rest) = c :: next rest)
    (hbad : ¬P → ∀ rest, (read (a :: rest)).head? ≠ some c) : Turns read next [a] [c] P := by
  intro rest goal
  by_cases hP : P
  · have hr := hgood hP rest
    rw [List.singleton_append, List.singleton_append, hr, List.cons_eq_cons]
    exact ⟨fun h => ⟨hP, h.2⟩, fun h => ⟨rfl, h.2⟩⟩
  · have hr := hbad hP rest
    refine ⟨fun h => ?_, fun h => absurd h.1 hP⟩
    rw [List.singleton_append, List.singleton_append] at h
    exact absurd (congrArg List.head? h) hr

/-- **A list of pieces**, each of which is read from the same region. -/
theorem flatMap {α : Type} {parts written : α → List Char} {good : α → Prop} {as : List α}
    (h : ∀ a ∈ as, Turns read read (parts a) (written a) (good a)) :
    Turns read read (as.flatMap parts) (as.flatMap written) (∀ a ∈ as, good a) := by
  induction as with
  | nil =>
      intro rest goal
      exact ⟨fun h => ⟨nofun, h⟩, fun h => h.2⟩
  | cons a as ih =>
      have ha := h a List.mem_cons_self
      have has := ih fun b hb => h b (List.mem_cons_of_mem a hb)
      exact (ha.append has).congr List.forall_mem_cons.symm

/-- Characters that are read one by one, from another spelling of each. -/
theorem map {f : Char → Char} {good : Char → Prop} {cs : List Char}
    (h : ∀ c ∈ cs, Turns read read [f c] [c] (good c)) :
    Turns read read (cs.map f) cs (∀ c ∈ cs, good c) := by
  have hcs := flatMap h
  rwa [← List.map_eq_flatMap, ← List.map_eq_flatMap, List.map_id'] at hcs

/-- Characters that are read one by one as they are. -/
theorem chars {good : Char → Prop} {cs : List Char} (h : ∀ c ∈ cs, Turns read read [c] [c] (good c)) :
    Turns read read cs cs (∀ c ∈ cs, good c) := by
  have hcs := map (f := id) h
  rwa [List.map_id] at hcs

end Turns

/-! ## Segments -/

/-- **A translation inverts a segment**: of the segment with its name respelled by `f`, written in one spelling, it
makes the segment itself in the other, just in case the name and the predicates are good. -/
structure Spelling.Inverts (n m : Spelling) (read : List Char → List Char) (f : Char → Char)
    (name : List Char → Prop) (predicate : List Char × List Char → Prop) (s : Segment) : Prop where
  /-- The separator is always turned into the other one. -/
  separator : Turns read read [n.separator] [m.separator] True
  /-- The name is turned back if it is good. -/
  name : Turns read read (s.name.map f) s.name (name s.name)
  /-- So are the predicates. -/
  predicate : ∀ p ∈ s.predicates, Turns read read (n.predicate p) (m.predicate p) (predicate p)

namespace Spelling.Inverts

variable {n m : Spelling} {read : List Char → List Char} {f : Char → Char} {name : List Char → Prop}
  {predicate : List Char × List Char → Prop}

/-- Then the segment is turned back if its parts are good. -/
theorem segment {s : Segment} (h : n.Inverts m read f name predicate s) :
    Turns read read (n.segment (s.rename f)) (m.segment s)
      (name s.name ∧ ∀ p ∈ s.predicates, predicate p) :=
  (h.separator.append (h.name.append (Turns.flatMap h.predicate))).congr (iff_of_eq (true_and _))

/-- **A path is turned back if all its segments are good.** -/
theorem write {ss : List Segment} (h : ∀ s ∈ ss, n.Inverts m read f name predicate s)
    (hnil : read [] = []) :
    String.ofList (read (n.write (ss.map (·.rename f))).toList) = m.write ss ↔
      ∀ s ∈ ss, name s.name ∧ ∀ p ∈ s.predicates, predicate p := by
  have hs := Turns.flatMap (fun s hs => (h s hs).segment) [] []
  rw [List.append_nil, List.append_nil, hnil] at hs
  rw [Spelling.write, Spelling.write, String.toList_ofList, List.flatMap_map, String.ofList_inj, hs]
  exact and_iff_left rfl

end Spelling.Inverts

/-! ## From the application's notation and back -/

namespace JsPath

/-- A character of a name comes back unless it is a separator, or stands for a dash, in the other notation. -/
theorem turns_underscored {c : Char} (ho : c ≠ '{') :
    Turns (respell .name) (respell .name) [underscored c] [c] (c ≠ '.' ∧ c ≠ '_') := by
  by_cases hc : c = '-'
  · subst hc
    have hdash : Turns (respell .name) (respell .name) [underscored '-'] ['-'] True :=
      Turns.always fun _ => rfl
    exact hdash.congr (iff_of_true trivial (by decide))
  · have hu : underscored c = c := if_neg hc
    have hr := fun rest => respell_name_cons (r := rest) fun hb => absurd hb ho
    rw [hu]
    apply Turns.char
    · rintro ⟨hdot, hunderscore⟩ rest
      rw [hr, if_neg hdot, if_neg hunderscore]
    · intro hbad rest
      rw [hr, List.head?_cons]
      by_cases hdot : c = '.'
      · subst hdot
        decide
      · obtain rfl : c = '_' := Decidable.not_not.1 fun hunderscore => hbad ⟨hdot, hunderscore⟩
        decide

/-- A name comes back unless it holds such a character. -/
theorem turns_name {name : List Char} (ho : '{' ∉ name) :
    Turns (respell .name) (respell .name) (name.map underscored) name ('.' ∉ name ∧ '_' ∉ name) := by
  have h : ∀ c ∈ name, Turns (respell .name) (respell .name) [underscored c] [c] (c ≠ '.' ∧ c ≠ '_') :=
    fun c hc => turns_underscored fun hb => ho (hb ▸ hc)
  exact (Turns.map h).congr (forall₂_and.trans (and_congr List.forall_mem_ne' List.forall_mem_ne'))

/-- In a key, a character that does not end it is copied unless it closes the predicate. -/
theorem respell_key_cons {c : Char} (he : c ≠ '=') (rest : List Char) :
    respell .key (c :: rest) = if c = '}' then ']' :: respell .name rest else c :: respell .key rest := by
  rw [respell]
  · intro r hc
    exact absurd hc he
  · intro r hc
    exact absurd hc he

/-- A key comes back unless it holds the sign that closes a predicate of a JSPath. -/
theorem turns_key {key : List Char} (he : '=' ∉ key) :
    Turns (respell .key) (respell .key) key key ('}' ∉ key) := by
  have h : ∀ c ∈ key, Turns (respell .key) (respell .key) [c] [c] (c ≠ '}') := by
    intro c hc
    have hr := respell_key_cons (c := c) fun hb => he (hb ▸ hc)
    apply Turns.char
    · intro hgood rest
      rw [hr, if_neg hgood]
    · intro hbad rest
      obtain rfl : c = '}' := Decidable.not_not.1 hbad
      rw [hr, if_pos rfl, List.head?_cons]
      decide
  exact (Turns.chars h).congr List.forall_mem_ne'

/-- In a value, a character is copied unless it is the first of the two signs that close it. -/
theorem respell_quoted_cons {c : Char} {rest : List Char} (h : ¬(c = '"' ∧ rest.head? = some '}')) :
    respell .quoted (c :: rest) = c :: respell .quoted rest := by
  rw [respell]
  intro r hc hr
  exact h ⟨hc, by rw [hr, List.head?_cons]⟩

/-- A value comes back unless it holds the two signs that close it in a JSPath. -/
theorem turns_value (value : List Char) :
    Turns (respell .quoted) (respell .name) (value ++ ['"', '}']) (value ++ [']'])
      (¬['"', '}'] <:+: value) := by
  induction value with
  | nil =>
      have hclose : Turns (respell .quoted) (respell .name) ['"', '}'] [']'] True :=
        Turns.always fun _ => rfl
      exact hclose.congr (iff_of_true trivial (by decide))
  | cons c value ih =>
      intro rest goal
      rw [List.infix_cons_iff, List.cons_prefix_cons]
      by_cases hc : c = '"' ∧ value.head? = some '}'
      · -- the value is closed too early
        obtain ⟨rfl, hv⟩ := hc
        obtain ⟨after, rfl⟩ := List.head?_eq_some_iff.1 hv
        refine iff_of_false (fun h => ?_) (fun h => h.1 (Or.inl ⟨rfl, after, rfl⟩))
        exact absurd (List.cons.inj h).1 (by decide)
      · -- what closes the value behind it starts with a quote, which closes nothing by itself
        have hhead : ¬(c = '"' ∧ (value ++ ['"', '}'] ++ rest).head? = some '}') := by
          rintro ⟨rfl, hv⟩
          cases value with
          | nil => exact absurd (Option.some.inj hv) (by decide)
          | cons d value => exact hc ⟨rfl, hv⟩
        have hprefix : ¬('"' = c ∧ ['}'] <+: value) := by
          rintro ⟨rfl, after, rfl⟩
          exact hc ⟨rfl, rfl⟩
        rw [List.cons_append, List.cons_append, List.cons_append, List.cons_append,
          respell_quoted_cons hhead, List.cons_eq_cons, ih, or_iff_right hprefix, and_iff_right rfl]

/-- A predicate comes back unless its key or its value is closed by its own text. -/
theorem turns_predicate {p : List Char × List Char} (he : '=' ∉ p.1) :
    Turns (respell .name) (respell .name) (spelling.predicate p) (XPath.spelling.predicate p)
      ('}' ∉ p.1 ∧ ¬['"', '}'] <:+: p.2) := by
  have hopen : Turns (respell .name) (respell .key) spelling.opening XPath.spelling.opening True :=
    Turns.always fun _ => rfl
  have hequals : Turns (respell .key) (respell .quoted) spelling.equals XPath.spelling.equals True :=
    Turns.always fun _ => rfl
  have h := hopen.append ((turns_key he).append (hequals.append (turns_value p.2)))
  exact h.congr (by rw [true_and, true_and])

end JsPath

namespace XPath

/-- **A segment of an XPath that comes back** from the daemon's notation. -/
structure Returns (s : Segment) : Prop where
  /-- The name holds no sign that is a separator in the other notation. -/
  dot_notMem : '.' ∉ s.name
  /-- Nor does it hold one that stands for a dash there. -/
  underscore_notMem : '_' ∉ s.name
  /-- No key closes its predicate there. -/
  close_notMem : ∀ p ∈ s.predicates, '}' ∉ p.1
  /-- Nor does a value. -/
  close_notInfix : ∀ p ∈ s.predicates, ¬['"', '}'] <:+: p.2

/-- A segment comes back if its name and its predicates do. -/
theorem returns_iff {s : Segment} :
    Returns s ↔ ('.' ∉ s.name ∧ '_' ∉ s.name) ∧
      ∀ p ∈ s.predicates, '}' ∉ p.1 ∧ ¬['"', '}'] <:+: p.2 := by
  constructor
  · intro h
    exact ⟨⟨h.dot_notMem, h.underscore_notMem⟩,
      fun p hp => ⟨h.close_notMem p hp, h.close_notInfix p hp⟩⟩
  · rintro ⟨⟨hd, hu⟩, hp⟩
    exact ⟨hd, hu, fun p h => (hp p h).1, fun p h => (hp p h).2⟩

instance : DecidablePred Returns := fun _ => decidable_of_iff _ returns_iff.symm

end XPath

/-- **A path of the application comes back from the daemon's notation if and only if all its segments do.** -/
theorem JsPath.toXPath_toJsPath_eq_iff (ss : List Segment) (h : ∀ s ∈ ss, XPath.Admits s)
    (ho : ∀ s ∈ ss, '{' ∉ s.name) :
    toXPath (XPath.toJsPath (XPath.spelling.write ss)) = XPath.spelling.write ss ↔
      ∀ s ∈ ss, XPath.Returns s := by
  have hjs : XPath.toJsPath (XPath.spelling.write ss) = spelling.write (ss.map (·.rename underscored)) :=
    Spelling.Reads.write (fun s hs => XPath.reads (h s hs)) (XPath.respell_nil .name)
  have hi : ∀ s ∈ ss, spelling.Inverts XPath.spelling (respell .name) underscored
      (fun name => '.' ∉ name ∧ '_' ∉ name) (fun p => '}' ∉ p.1 ∧ ¬['"', '}'] <:+: p.2) s :=
    fun s hs => {
      separator := Turns.always fun _ => rfl
      name := turns_name (ho s hs)
      predicate := fun p hp => turns_predicate ((h s hs).predicates p hp).equals_notMem }
  rw [hjs, toXPath, Spelling.Inverts.write hi (respell_nil .name)]
  exact forall₂_congr fun s _ => XPath.returns_iff.symm

/-- Segments that come back, with signs of both notations in the keys and values; one value is empty, and one is a
quote. -/
def twined : List Segment :=
  [⟨"a-b".toList, [("k-l_m.n".toList, "/.-_[=\x7b\x7d".toList), ("n".toList, [])]⟩,
    ⟨"c".toList, [("o".toList, "\"".toList)]⟩]

/-- A segment whose value closes its predicate in the other notation. -/
def quoted : List Segment := [⟨"a".toList, [("k".toList, "x\"\x7dy".toList)]⟩]

/-- The one path comes back as it was, the other does not. -/
theorem JsPath.toXPath_toJsPath_twined :
    XPath.spelling.write twined = "/a-b[k-l_m.n=/.-_[=\x7b\x7d][n=]/c[o=\"]" ∧
      toXPath (XPath.toJsPath (XPath.spelling.write twined)) = XPath.spelling.write twined ∧
      XPath.spelling.write quoted = "/a[k=x\"\x7dy]" ∧
      toXPath (XPath.toJsPath (XPath.spelling.write quoted)) ≠ XPath.spelling.write quoted := by
  have htwined := toXPath_toJsPath_eq_iff twined (by decide +kernel) (by decide +kernel)
  have hquoted := toXPath_toJsPath_eq_iff quoted (by decide +kernel) (by decide +kernel)
  refine ⟨by decide +kernel, htwined.2 (by decide +kernel), by decide +kernel, fun h => ?_⟩
  exact absurd (hquoted.1 h) (by decide +kernel)

/-! ## From the daemon's notation and back -/

namespace XPath

/-- A character of a name comes back unless it is a dash. -/
theorem turns_dashed {c : Char} (hs : c ≠ '/') (ho : c ≠ '[') :
    Turns (respell .name) (respell .name) [dashed c] [c] (c ≠ '-') := by
  by_cases hc : c = '_'
  · subst hc
    have hunderscore : Turns (respell .name) (respell .name) [dashed '_'] ['_'] True :=
      Turns.always fun _ => rfl
    exact hunderscore.congr (iff_of_true trivial (by decide))
  · have hd : dashed c = c := if_neg hc
    have hslash : '/' ∉ [c] := by simpa using hs.symm
    have hbracket : '[' ∉ [c] := by simpa using ho.symm
    have hr : ∀ rest, respell .name (c :: rest) = underscored c :: respell .name rest :=
      fun rest => respell_name_append hslash hbracket rest
    rw [hd]
    apply Turns.char
    · intro hdash rest
      rw [hr, underscored, if_neg hdash]
    · intro hbad rest
      obtain rfl : c = '-' := Decidable.not_not.1 hbad
      rw [hr, List.head?_cons]
      decide

/-- A name comes back unless it holds a dash. -/
theorem turns_name {name : List Char} (hs : '/' ∉ name) (ho : '[' ∉ name) :
    Turns (respell .name) (respell .name) (name.map dashed) name ('-' ∉ name) := by
  have h : ∀ c ∈ name, Turns (respell .name) (respell .name) [dashed c] [c] (c ≠ '-') :=
    fun c hc => turns_dashed (fun hb => hs (hb ▸ hc)) (fun hb => ho (hb ▸ hc))
  exact (Turns.map h).congr List.forall_mem_ne'

/-- In a key, a character that does not end it is copied unless it closes the predicate. -/
theorem turns_key {key : List Char} (he : '=' ∉ key) :
    Turns (respell .key) (respell .key) key key (']' ∉ key) := by
  have h : ∀ c ∈ key, Turns (respell .key) (respell .key) [c] [c] (c ≠ ']') := by
    intro c hc
    have hce : c ≠ '=' := fun hb => he (hb ▸ hc)
    apply Turns.char
    · intro hgood rest
      rw [respell, if_neg hgood, if_neg hce]
    · intro hbad rest
      obtain rfl : c = ']' := Decidable.not_not.1 hbad
      rw [respell, if_pos rfl, List.head?_cons]
      decide
  exact (Turns.chars h).congr List.forall_mem_ne'

/-- A value comes back unless it holds the sign that closes a predicate of an XPath. -/
theorem turns_value (value : List Char) :
    Turns (respell .value) (respell .value) value value (']' ∉ value) := by
  have h : ∀ c ∈ value, Turns (respell .value) (respell .value) [c] [c] (c ≠ ']') := by
    intro c hc
    apply Turns.char
    · intro hgood rest
      rw [respell, if_neg hgood]
    · intro hbad rest
      obtain rfl : c = ']' := Decidable.not_not.1 hbad
      rw [respell, if_pos rfl, List.head?_cons]
      decide
  exact (Turns.chars h).congr List.forall_mem_ne'

/-- A predicate comes back unless its key or its value closes it. -/
theorem turns_predicate {p : List Char × List Char} (he : '=' ∉ p.1) :
    Turns (respell .name) (respell .name) (spelling.predicate p) (JsPath.spelling.predicate p)
      (']' ∉ p.1 ∧ ']' ∉ p.2) := by
  have hopen : Turns (respell .name) (respell .key) spelling.opening JsPath.spelling.opening True :=
    Turns.always fun _ => rfl
  have hequals : Turns (respell .key) (respell .value) spelling.equals JsPath.spelling.equals True :=
    Turns.always fun _ => rfl
  have hclose : Turns (respell .value) (respell .name) spelling.closing JsPath.spelling.closing True :=
    Turns.always fun _ => rfl
  have h := hopen.append ((turns_key he).append (hequals.append ((turns_value p.2).append hclose)))
  exact h.congr (by rw [true_and, true_and, and_true])

end XPath

/-- A JSPath has an empty XPath only if it is empty itself. -/
theorem JsPath.toXPath_eq_empty_iff {path : String} : toXPath path = "" ↔ path = "" := by
  rw [toXPath, String.ofList_eq_empty_iff, ← String.toList_eq_nil_iff]
  cases path.toList with
  | nil => exact Iff.rfl
  | cons c r =>
      refine iff_of_false (fun h => ?_) (List.cons_ne_nil c r)
      by_cases hc : c = '{' ∧ ∃ r', r = '.' :: r'
      · obtain ⟨rfl, r', rfl⟩ := hc
        cases h
      · rw [respell_name_cons fun hb r' hr => hc ⟨hb, r', hr⟩] at h
        cases h

/-- **A segment of a JSPath that comes back** from the application's notation. -/
structure JsPath.Returns (s : Segment) : Prop where
  /-- The name holds no dash, which would come back as an underscore. -/
  dash_notMem : '-' ∉ s.name
  /-- No key closes its predicate in the other notation. -/
  close_notMem_key : ∀ p ∈ s.predicates, ']' ∉ p.1
  /-- Nor does a value. -/
  close_notMem_value : ∀ p ∈ s.predicates, ']' ∉ p.2

/-- A segment comes back if its name and its predicates do. -/
theorem JsPath.returns_iff {s : Segment} :
    Returns s ↔ '-' ∉ s.name ∧ ∀ p ∈ s.predicates, ']' ∉ p.1 ∧ ']' ∉ p.2 := by
  constructor
  · intro h
    exact ⟨h.dash_notMem, fun p hp => ⟨h.close_notMem_key p hp, h.close_notMem_value p hp⟩⟩
  · rintro ⟨hd, hp⟩
    exact ⟨hd, fun p h => (hp p h).1, fun p h => (hp p h).2⟩

instance : DecidablePred JsPath.Returns := fun _ => decidable_of_iff _ JsPath.returns_iff.symm

/-- A path of the daemon comes back from the application's notation if and only if all its segments do. -/
theorem XPath.toJsPath_toXPath_write {ss : List Segment} (h : ∀ s ∈ ss, JsPath.Admits s)
    (hx : ∀ s ∈ ss, '/' ∉ s.name ∧ '[' ∉ s.name) :
    toJsPath (JsPath.toXPath (JsPath.spelling.write ss)) = JsPath.spelling.write ss ↔
      ∀ s ∈ ss, JsPath.Returns s := by
  have hxp : JsPath.toXPath (JsPath.spelling.write ss) = spelling.write (ss.map (·.rename dashed)) :=
    Spelling.Reads.write (fun s hs => JsPath.reads (h s hs)) (JsPath.respell_nil .name)
  have hi : ∀ s ∈ ss, spelling.Inverts JsPath.spelling (respell .name) dashed
      ('-' ∉ ·) (fun p => ']' ∉ p.1 ∧ ']' ∉ p.2) s :=
    fun s hs => {
      separator := Turns.always fun _ => rfl
      name := turns_name (hx s hs).1 (hx s hs).2
      predicate := fun p hp => turns_predicate ((h s hs).predicates p hp).equals_notMem }
  rw [hxp, toJsPath, Spelling.Inverts.write hi (respell_nil .name)]
  exact forall₂_congr fun s _ => JsPath.returns_iff.symm

/-! ## What an application hands back -/

/-- The node that a JSPath names to a session: the empty one names the root container, as an empty XPath does. -/
def Session.named (w : Session) (jsPath : String) : String :=
  if jsPath.isEmpty then XPath.toJsPath w.appRoot else jsPath

/-- An update names the node of a JSPath, given its XPath, if and only if the JSPath comes back. -/
theorem Session.toJsPath_statePath_eq_named_iff (w : Session) (jsPath : String) :
    XPath.toJsPath (w.statePath (JsPath.toXPath jsPath)) = w.named jsPath ↔
      XPath.toJsPath (JsPath.toXPath jsPath) = jsPath := by
  rw [statePath, named]
  by_cases hj : jsPath = ""
  · subst hj
    exact iff_of_true rfl rfl
  · have hx : JsPath.toXPath jsPath ≠ "" := fun h => hj (JsPath.toXPath_eq_empty_iff.1 h)
    rw [if_neg (fun h => hx (String.isEmpty_iff.1 h)), if_neg (fun h => hj (String.isEmpty_iff.1 h))]

/-- A delta has the XPath of its notification's path, unless that is the marker's. -/
theorem Delta.path_ofNotification {n : ConfigNotification} {k : ConfigKey} (hk : n.key = some k)
    (hm : k.jsPathWithKeys ≠ commitEnd) : (ofNotification n).path = JsPath.toXPath k.jsPathWithKeys := by
  rw [ofNotification, hk]
  exact congrArg path (if_neg hm)

/-- **A path of the daemon comes back from the application's notation if and only if all its segments do.** So does
the path of a change that the daemon notified, unless it is the marker's: an acknowledgement, and an update of state,
that an application gives the path of the change goes out with the path of the notification just in that case. -/
theorem XPath.toJsPath_toXPath_eq_iff (ss : List Segment) (h : ∀ s ∈ ss, JsPath.Admits s)
    (hx : ∀ s ∈ ss, '/' ∉ s.name ∧ '[' ∉ s.name) :
    (toJsPath (JsPath.toXPath (JsPath.spelling.write ss)) = JsPath.spelling.write ss ↔
        ∀ s ∈ ss, JsPath.Returns s) ∧
      ∀ (n : ConfigNotification) (k : ConfigKey), n.key = some k →
        k.jsPathWithKeys = JsPath.spelling.write ss → k.jsPathWithKeys ≠ commitEnd →
        (∀ v : Verdict, (⟨(Delta.ofNotification n).path, v⟩ : Acknowledgement).toMessage
              = ⟨k.jsPathWithKeys, v⟩ ↔
            ∀ s ∈ ss, JsPath.Returns s) ∧
          ∀ (w : Session) (json : String), w.connected = true →
            (w.begin (.updateState (Delta.ofNotification n).path json)
                = (w, .waiting (.telemetryAddOrUpdate [⟨w.named k.jsPathWithKeys, json⟩])
                    (.updating (w.statePath (Delta.ofNotification n).path) json)) ↔
              ∀ s ∈ ss, JsPath.Returns s) := by
  have hback := toJsPath_toXPath_write h hx
  refine ⟨hback, fun n k hk hp hm => ?_⟩
  rw [Delta.path_ofNotification hk hm]
  rw [← hp] at hback
  rw [← hback]
  constructor
  · intro v
    rw [Acknowledgement.toMessage, AcknowledgeInfo.mk.injEq, and_iff_left rfl]
  · intro w json hc
    rw [← w.toJsPath_statePath_eq_named_iff, w.begin_updateState hc, Session.updateCall]
    simp only [Prod.mk.injEq, Stage.waiting.injEq, Request.telemetryAddOrUpdate.injEq, List.cons.injEq,
      TelemetryInfo.mk.injEq, and_true, true_and]

/-- A notification of the node with a path. -/
def changeOf (jsPath : String) : ConfigNotification := { key := some { jsPathWithKeys := jsPath } }

/-- An agent that has been started. -/
def greeter : Session := { plan := { name := "greeter" }, connected := true }

/-- A port, with signs of both notations in the value of a key. -/
def port : List Segment :=
  [⟨"sub_net".toList, [("name".toList, "ethernet-1/1.\x7d_=".toList)]⟩, ⟨"port".toList, []⟩]

/-- A list entry with a bracket in the value of its key. -/
def bracketed : List Segment := [⟨"list".toList, [("name".toList, "a]b".toList)]⟩]

/-- The port is named back to the daemon as it was; the state of the entry goes to another node. -/
theorem XPath.toJsPath_toXPath_port :
    JsPath.spelling.write port = ".sub_net\x7b.name==\"ethernet-1/1.\x7d_=\"\x7d.port" ∧
      toJsPath (JsPath.toXPath (JsPath.spelling.write port)) = JsPath.spelling.write port ∧
      (⟨(Delta.ofNotification (changeOf (JsPath.spelling.write port))).path, .output "up"⟩ :
          Acknowledgement).toMessage
        = ⟨JsPath.spelling.write port, .output "up"⟩ ∧
      JsPath.spelling.write bracketed = ".list\x7b.name==\"a]b\"\x7d" ∧
      ¬greeter.begin (.updateState
            (Delta.ofNotification (changeOf (JsPath.spelling.write bracketed))).path "")
        = (greeter, .waiting (.telemetryAddOrUpdate [⟨JsPath.spelling.write bracketed, ""⟩])
            (.updating (greeter.statePath
              (Delta.ofNotification (changeOf (JsPath.spelling.write bracketed))).path) "")) := by
  obtain ⟨hpath, hport⟩ := toJsPath_toXPath_eq_iff port (by decide +kernel) (by decide +kernel)
  obtain ⟨-, hentry⟩ := toJsPath_toXPath_eq_iff bracketed (by decide +kernel) (by decide +kernel)
  have hreturns : ∀ s ∈ port, JsPath.Returns s := by decide +kernel
  have hstays : ¬∀ s ∈ bracketed, JsPath.Returns s := by decide +kernel
  refine ⟨by decide +kernel, hpath.2 hreturns, ?_, by decide +kernel, ?_⟩
  · exact ((hport (changeOf (JsPath.spelling.write port)) { jsPathWithKeys := JsPath.spelling.write port }
      rfl rfl (by decide +kernel)).1 (.output "up")).2 hreturns
  · have hnamed : greeter.named (JsPath.spelling.write bracketed) = JsPath.spelling.write bracketed := by
      decide +kernel
    have hupdate := (hentry (changeOf (JsPath.spelling.write bracketed))
      { jsPathWithKeys := JsPath.spelling.write bracketed } rfl rfl (by decide +kernel)).2 greeter "" rfl
    rw [hnamed] at hupdate
    exact fun h => hstays (hupdate.1 h)

end NetworkAgent
