import NetworkAgent.Proofs.Path.Elements

/-! # Paths behind one another

A path is read segment by segment, so two paths with a `/` between them ought to be read as the one and then the other.
They are if nothing is left over of the first: the predicates of a segment without a name are kept for the next name,
and that may stand in the second path.

* `endsInside` — whether a text ends in a predicate. `segments_append_separator` cuts two texts at the `/` between them
  if the first does not.
* **`pending`** — the predicates that no element has got yet. `gather_append` says that it is all that goes on from one
  path to the other.
* `element_append_eq_iff` — predicates in front leave no trace if and only if all their keys are given again.
* **`elements_append_separator_iff`** — when paths are read one after the other, and when each element has the keys of
  its own segment alone. -/

namespace NetworkAgent.XPath

/-! ## Cutting -/

/-- Whether a text ends in a predicate, if it starts inside or outside of one. -/
def endsInside : Bool → List Char → Bool
  | inside, [] => inside
  | false, c :: r => endsInside (c = '[') r
  | true, c :: r => endsInside (c ≠ ']') r

/-- There is always a segment. -/
theorem segments_ne_nil (inside : Bool) (text : List Char) : segments inside text ≠ [] := by
  obtain ⟨s, rest, h, -⟩ := segments_uncut inside text
  rw [h]
  exact List.cons_ne_nil s rest

/-- A character in front goes into the first segment. -/
theorem consFirst_append (c : Char) {l : List (List Char)} (h : l ≠ []) (m : List (List Char)) :
    consFirst c (l ++ m) = consFirst c l ++ m := by
  cases l with
  | nil => exact absurd rfl h
  | cons s l => rfl

/-- **A text that ends outside predicates is cut off at the separator behind it.** -/
theorem segments_append_separator {inside : Bool} {p : List Char} (h : endsInside inside p = false) (q : List Char) :
    segments inside (p ++ '/' :: q) = segments inside p ++ segments false q := by
  induction p generalizing inside with
  | nil =>
      obtain rfl : inside = false := h
      rfl
  | cons c p ih =>
      rw [List.cons_append]
      cases inside with
      | true => rw [segments, ih h, consFirst_append c (segments_ne_nil _ p), segments]
      | false =>
          by_cases hc : c = '/'
          · subst hc
            have hcut : ∀ r, segments false ('/' :: r) = [] :: segments false r := fun _ => rfl
            have hp : endsInside false p = false := h
            rw [hcut, hcut, ih hp, List.cons_append]
          · rw [segments, if_neg hc, ih h, consFirst_append c (segments_ne_nil _ p), segments, if_neg hc]

/-! ## What is left over -/

/-- **The predicates that no element has got yet** behind some segments, `held` being those in front of them: a segment
without a name adds its own, and a name takes them all. -/
def pending (held : List (List Char × List Char)) : List Segment → List (List Char × List Char)
  | [] => held
  | s :: rest => pending (if s.name = [] then held ++ s.predicates else []) rest

/-- An element that has a key. -/
def Element.HasKey (e : Element) (key : List Char) : Prop := (e.keys.lookup (String.ofList key)).isSome

instance (e : Element) (key : List Char) : Decidable (e.HasKey key) :=
  inferInstanceAs (Decidable ((e.keys.lookup (String.ofList key)).isSome = true))

/-- An element has a key if a predicate gives it. -/
theorem hasKey_iff {name : String} {predicates : List (List Char × List Char)} {key : List Char} :
    (⟨name, addPredicates [] predicates⟩ : Element).HasKey key ↔ ∃ p ∈ predicates, p.1 = key := by
  rw [Element.HasKey, lookup_addPredicates, String.toList_ofList, List.lookup_nil, Option.or_none, Option.isSome_map,
    List.lookup_isSome_iff]
  simp only [List.mem_reverse, beq_iff_eq, eq_comm (a := key)]

/-- **Predicates in front of those of an element leave no trace** if and only if the element has all their keys. -/
theorem element_append_eq_iff {name : String} {held predicates : List (List Char × List Char)} :
    (⟨name, addPredicates [] (held ++ predicates)⟩ : Element) = ⟨name, addPredicates [] predicates⟩
      ↔ ∀ p ∈ held, (⟨name, addPredicates [] predicates⟩ : Element).HasKey p.1 := by
  constructor
  · intro h p hp
    rw [← h]
    exact hasKey_iff.2 ⟨p, List.mem_append_left predicates hp, rfl⟩
  · intro h
    refine congrArg (Element.mk name) ?_
    refine Keys.Ordered.ext (ordered_addPredicates .nil _) (ordered_addPredicates .nil _) fun key => ?_
    rw [lookup_addPredicates, lookup_addPredicates, List.reverse_append, List.lookup_append]
    cases hlater : predicates.reverse.lookup key.toList with
    | some value => rfl
    | none =>
        -- a key that is not given again was not given in front either
        have hearlier : held.reverse.lookup key.toList = none := by
          rw [List.lookup_eq_none_iff] at hlater ⊢
          intro p hp
          rw [bne_iff_ne]
          intro hkey
          obtain ⟨q, hq, hqp⟩ := hasKey_iff.1 (h p (List.mem_reverse.1 hp))
          have hne := hlater q (List.mem_reverse.2 hq)
          rw [hqp, bne_iff_ne] at hne
          exact hne hkey
        rw [hearlier]
        rfl

/-- **All that goes on from some segments to those behind them** are the predicates that no element has got. -/
theorem gather_append (held : List (List Char × List Char)) (l m : List Segment) :
    gather (addPredicates [] held) (l ++ m)
      = gather (addPredicates [] held) l ++ gather (addPredicates [] (pending held l)) m := by
  induction l generalizing held with
  | nil => rfl
  | cons s l ih =>
      rw [List.cons_append, gather, gather, pending]
      by_cases hs : s.name = []
      · simp only [if_pos hs]
        rw [← addPredicates_append, ih]
      · have hnone : ([] : Keys) = addPredicates [] [] := rfl
        simp only [if_neg hs]
        rw [hnone, ih, ← hnone, List.cons_append]

/-- Predicates in front of segments leave no trace if and only if the first element has all their keys from others,
which may stand in front of it as well. -/
theorem gather_append_held_iff {held own : List (List Char × List Char)} {l : List Segment} :
    gather (addPredicates [] (held ++ own)) l = gather (addPredicates [] own) l
      ↔ ∀ e, (gather (addPredicates [] own) l).head? = some e → ∀ p ∈ held, e.HasKey p.1 := by
  -- up to the first name, whose element has the keys of all predicates on the way
  induction l generalizing own with
  | nil => exact iff_of_true rfl fun e => nofun
  | cons s l ih =>
      rw [gather, gather]
      by_cases hs : s.name = []
      · simp only [if_pos hs]
        rw [← addPredicates_append, ← addPredicates_append, List.append_assoc]
        exact ih
      · simp only [if_neg hs]
        rw [← addPredicates_append, ← addPredicates_append, List.append_assoc, List.cons_eq_cons, and_iff_left rfl,
          element_append_eq_iff]
        simp only [List.head?_cons, Option.some.injEq, forall_eq']

/-- What holds at each place of a list holds at its first place and at those behind. -/
theorem forall_eq_append_cons_iff {α : Type} {a : α} {l : List α} {holds : List α → α → Prop} :
    (∀ before x after, a :: l = before ++ x :: after → holds before x)
      ↔ holds [] a ∧ ∀ before x after, l = before ++ x :: after → holds (a :: before) x := by
  constructor
  · intro h
    refine ⟨h [] a l rfl, fun before x after hl => h (a :: before) x after ?_⟩
    rw [hl, List.cons_append]
  · rintro ⟨ha, hl⟩ before x after h
    cases before with
    | nil =>
        obtain ⟨rfl, -⟩ := List.cons.inj h
        exact ha
    | cons b before =>
        obtain ⟨rfl, htail⟩ := List.cons.inj h
        exact hl before x after htail

/-- **Each element has the keys of its own segment** if and only if no name is given a key by segments in front of it
that its own segment does not give it as well. -/
theorem gather_eq_map_element_iff {held : List (List Char × List Char)} {l : List Segment} :
    gather (addPredicates [] held) l = (l.filter (·.name ≠ [])).map Segment.element
      ↔ ∀ before s after, l = before ++ s :: after → s.name ≠ [] →
          ∀ p ∈ pending held before, s.element.HasKey p.1 := by
  induction l generalizing held with
  | nil => exact iff_of_true rfl fun before s after h => absurd h.symm (by simp)
  | cons s l ih =>
      rw [gather, forall_eq_append_cons_iff]
      by_cases hs : s.name = []
      · simp only [if_pos hs, pending]
        rw [← addPredicates_append, List.filter_cons_of_neg (by simpa using hs), ih]
        exact (and_iff_right fun hne => absurd hs hne).symm
      · have hnone : ([] : Keys) = addPredicates [] [] := rfl
        simp only [if_neg hs, pending]
        rw [List.filter_cons_of_pos (by simpa using hs), List.map_cons, List.cons_eq_cons, hnone, ih, ← hnone,
          ← addPredicates_append, Segment.element, element_append_eq_iff]
        exact and_congr_left fun _ => (imp_iff_right hs).symm

/-! ## Paths -/

/-- The segments of a path. -/
def parts (path : String) : List Segment := (segments false path.toList).map Segment.read

/-- A path that ends outside predicates has its segments before those behind the separator. -/
theorem parts_append_separator {p : String} (h : endsInside false p.toList = false) (q : String) :
    parts (p ++ "/" ++ q) = parts p ++ parts q := by
  have htext : (p ++ "/" ++ q).toList = p.toList ++ '/' :: q.toList := by simp
  rw [parts, htext, segments_append_separator h, List.map_append, ← parts, ← parts]

/-- The elements of a path come of its segments. -/
theorem elements_eq_gather (path : String) : elements path = gather (addPredicates [] []) (parts path) := rfl

/-- **Paths behind one another.** Let a path end outside predicates. With a `/` and another path behind it, it is read
as the one and then the other if and only if the first element of the other has all the keys that are left over of the
path. So it is for all paths behind it if and only if nothing is left over. In any case a further `/` changes nothing.
And in every path each element has the keys of its own segment if and only if no segment with a name lacks a key that is
left over where it starts. -/
theorem elements_append_separator_iff (p : String) :
    (endsInside false p.toList = false →
        (∀ q, elements (p ++ "/" ++ q) = elements p ++ elements q ↔
            ∀ e, (elements q).head? = some e → ∀ kv ∈ pending [] (parts p), e.HasKey kv.1) ∧
          ((∀ q, elements (p ++ "/" ++ q) = elements p ++ elements q) ↔ pending [] (parts p) = []) ∧
          ∀ q, elements (p ++ "//" ++ q) = elements (p ++ "/" ++ q)) ∧
      (elements p = ((parts p).filter (·.name ≠ [])).map Segment.element ↔
        ∀ before s after, parts p = before ++ s :: after → s.name ≠ [] →
          ∀ kv ∈ pending [] before, s.element.HasKey kv.1) := by
  refine ⟨fun h => ?_, by rw [elements_eq_gather]; exact gather_eq_map_element_iff⟩
  have hjoin (q : String) : elements (p ++ "/" ++ q)
      = elements p ++ gather (addPredicates [] (pending [] (parts p) ++ [])) (parts q) := by
    rw [elements_eq_gather, parts_append_separator h, gather_append, List.append_nil, ← elements_eq_gather]
  have hiff (q : String) : elements (p ++ "/" ++ q) = elements p ++ elements q ↔
      ∀ e, (elements q).head? = some e → ∀ kv ∈ pending [] (parts p), e.HasKey kv.1 := by
    rw [hjoin, List.append_cancel_left_eq]
    exact gather_append_held_iff
  refine ⟨hiff, ⟨fun hall => ?_, fun hnone q => (hiff q).2 fun e _ kv hkv => ?_⟩, fun q => ?_⟩
  · -- a name alone has no keys
    have hx : (elements "x").head? = some ⟨"x", []⟩ := by decide +kernel
    refine List.eq_nil_iff_forall_not_mem.2 fun kv hkv => ?_
    have hkey := (hiff "x").1 (hall "x") _ hx kv hkv
    exact absurd hkey (by simp [Element.HasKey])
  · rw [hnone] at hkv
    exact absurd hkv List.not_mem_nil
  · have htext : p ++ "//" ++ q = p ++ "/" ++ ("" ++ "/" ++ q) := by
      apply String.toList_injective
      simp
    have hempty : parts "" = [⟨[], []⟩] := by decide +kernel
    have hq : parts ("" ++ "/" ++ q) = ⟨[], []⟩ :: parts q := by
      rw [parts_append_separator rfl, hempty, List.singleton_append]
    rw [htext, hjoin, hjoin, hq, gather]
    rfl

/-- A path whose last segment has a predicate and no name, so that its key is left over. -/
def stray : String := "/a[i=/]/[k=v]"

/-- Behind it a name with the key is read as by itself, and a name without the key is not. -/
theorem elements_append_separator_stray :
    endsInside false stray.toList = false ∧
      elements (stray ++ "/" ++ "b[k=w]") = elements stray ++ elements "b[k=w]" ∧
      elements (stray ++ "/" ++ "b") ≠ elements stray ++ elements "b" := by
  have hclosed : endsInside false stray.toList = false := by decide +kernel
  have hleft : pending [] (parts stray) = [(['k'], ['v'])] := by decide +kernel
  obtain ⟨hiff, -⟩ := (elements_append_separator_iff stray).1 hclosed
  refine ⟨hclosed, (hiff "b[k=w]").2 fun e he kv hkv => ?_, fun h => ?_⟩
  · have hfirst : (elements "b[k=w]").head? = some ⟨"b", [("k", "w")]⟩ := by decide +kernel
    obtain rfl : (⟨"b", [("k", "w")]⟩ : Element) = e := Option.some.inj (hfirst.symm.trans he)
    obtain rfl : kv = (['k'], ['v']) := by simpa [hleft] using hkv
    decide
  · have hfirst : (elements "b").head? = some ⟨"b", []⟩ := by decide +kernel
    have hkey := (hiff "b").1 h _ hfirst (['k'], ['v']) (by simp [hleft])
    exact absurd hkey (by decide)

/-- A predicate in front of every name becomes a key of the first one, which has none of its own. So two paths are not
always read one after the other. -/
theorem elements_nameless :
    endsInside false "[k=v]".toList = false ∧ elements ("[k=v]" ++ "/" ++ "a") = [⟨"a", [("k", "v")]⟩] ∧
      elements "[k=v]" ++ elements "a" = [⟨"a", []⟩] ∧
      ¬∀ p q : String, endsInside false p.toList = false → elements (p ++ "/" ++ q) = elements p ++ elements q := by
  have hclosed : endsInside false "[k=v]".toList = false := by decide
  have hjoined : elements ("[k=v]" ++ "/" ++ "a") = [⟨"a", [("k", "v")]⟩] := by decide +kernel
  have hapart : elements "[k=v]" ++ elements "a" = [⟨"a", []⟩] := by decide +kernel
  refine ⟨hclosed, hjoined, hapart, fun h => ?_⟩
  have hsame := hjoined.symm.trans ((h "[k=v]" "a" hclosed).trans hapart)
  exact absurd hsame (by decide)

end NetworkAgent.XPath
