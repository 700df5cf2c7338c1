import NetworkAgent.Management
import NetworkAgent.Proofs.Path.Elements

/-! # Requests address what is written

An application writes the path of a node and gets a request with the structured form of it. What a written segment
means is said here without the reader: a name, and for each key the value that it was given last.

* **`XPath.Segment.Means`** — an element that is what a segment means. `Segment.means_iff` finds it, and there is no
  other, since the keys of an element are in order.
* `Reordered` — a segment with its predicates in another order.
* **`requests_write_iff`** — what is read of a written path, and what the four kinds of request carry. -/

namespace NetworkAgent

namespace XPath

/-! ## What a segment means -/

/-- **An element is what a segment means**: it has the name, and each key has the value of its last predicate. -/
structure Segment.Means (s : Segment) (e : Element) : Prop where
  /-- The name is the segment's. -/
  name : e.name.toList = s.name
  /-- Each key is there once, at its place. -/
  ordered : e.keys.Ordered
  /-- A key has the value of the last predicate that gives it one, and is not there without such a predicate. -/
  lookup : ∀ key : String, (e.keys.lookup key).map String.toList = s.predicates.reverse.lookup key.toList

/-- What a segment means is its element. -/
theorem Segment.means_iff {s : Segment} {e : Element} : s.Means e ↔ s.element = e := by
  have hlookup (key : String) :
      s.element.keys.lookup key = (s.predicates.reverse.lookup key.toList).map String.ofList := by
    rw [Segment.element, lookup_addPredicates, List.lookup_nil, Option.or_none]
  constructor
  · rintro ⟨hname, hordered, hvalues⟩
    obtain ⟨name, keys⟩ := e
    have hname : String.ofList s.name = name := String.toList_injective (String.toList_ofList.trans hname.symm)
    have hkeys : s.element.keys = keys := by
      refine Keys.Ordered.ext (ordered_addPredicates .nil _) hordered fun key => ?_
      rw [hlookup, ← hvalues key, Option.map_map]
      simp [Function.comp_def]
    rw [← hname, ← hkeys]
    rfl
  · rintro rfl
    refine ⟨String.toList_ofList, ordered_addPredicates .nil _, fun key => ?_⟩
    rw [hlookup, Option.map_map]
    simp [Function.comp_def]

/-- What segments mean are their elements. -/
theorem forall₂_means_iff {ss : List Segment} {es : List Element} :
    List.Forall₂ Segment.Means ss es ↔ ss.map Segment.element = es := by
  have hmeans : Segment.Means = fun s e => s.element = e := funext₂ fun s e => propext Segment.means_iff
  rw [hmeans, ← List.forall₂_map_left_iff (R := Eq), List.forall₂_eq_eq_eq]

/-! ## The order of predicates -/

/-- **A segment with its predicates in another order**, where each key is given once. -/
structure Reordered (s t : Segment) : Prop where
  /-- The names are the same. -/
  name : s.name = t.name
  /-- No key is given twice. -/
  nodup : (s.predicates.map Prod.fst).Nodup
  /-- The predicates are the same, in some order. -/
  perm : s.predicates.Perm t.predicates

/-- The element is the same. -/
theorem Reordered.element_eq {s t : Segment} (h : Reordered s t) : s.element = t.element := by
  refine Segment.means_iff.1 ⟨?_, ordered_addPredicates .nil _, fun key => ?_⟩
  · exact String.toList_ofList.trans h.name.symm
  · have hnodup : (s.predicates.reverse.map Prod.fst).Nodup := by
      rw [List.map_reverse, List.nodup_reverse]
      exact h.nodup
    have hperm : s.predicates.reverse.Perm t.predicates.reverse :=
      (List.reverse_perm _).trans (h.perm.trans (List.reverse_perm _).symm)
    rw [lookup_eq_of_perm hnodup hperm]
    exact (Segment.means_iff.2 rfl : t.Means t.element).lookup key

/-- A segment with its predicates in another order is admitted. -/
theorem Reordered.admits {s t : Segment} (h : Reordered s t) (hs : Admits s) : Admits t where
  slash_notMem := h.name ▸ hs.slash_notMem
  open_notMem := h.name ▸ hs.open_notMem
  predicates p hp := hs.predicates p (h.perm.mem_iff.2 hp)

/-- A segment with predicates in another order stands for one. -/
theorem exists_reordered_of_mem {ss ts : List Segment} (h : List.Forall₂ Reordered ss ts) {t : Segment} (ht : t ∈ ts) :
    ∃ s ∈ ss, Reordered s t := by
  induction h with
  | nil => exact absurd ht List.not_mem_nil
  | @cons s u ss ts hsu _ ih =>
      rcases List.mem_cons.1 ht with rfl | ht
      · exact ⟨s, List.mem_cons_self, hsu⟩
      · obtain ⟨r, hr, hrt⟩ := ih ht
        exact ⟨r, List.mem_cons_of_mem s hr, hrt⟩

end XPath

namespace Management

open Message.Gnmi
open XPath (Segment spelling)

/-! ## Requests -/

/-- The structured path with some elements. -/
def pathTo (es : List XPath.Element) : Path := { elems := es.map fun e => ⟨e.name, e.keys⟩ }

/-- The structured form of an XPath has its elements. -/
theorem path_eq_pathTo (xpath : String) : path xpath = pathTo (XPath.elements xpath) := rfl

/-- **Requests address what is written.** Of segments with names that the grammar admits, exactly what they mean is
read, one by one, and it does not change if predicates of different keys change places. The requests that read, merge
into, replace and delete the node of their text carry just these elements, and fail only for want of a value. -/
theorem requests_write_iff (ss : List Segment) (h : ∀ s ∈ ss, XPath.Admits s ∧ s.name ≠ []) :
    (∀ es, XPath.elements (spelling.write ss) = es ↔ List.Forall₂ Segment.Means ss es) ∧
      (∀ ts, List.Forall₂ XPath.Reordered ss ts →
        XPath.elements (spelling.write ts) = XPath.elements (spelling.write ss)) ∧
      ∀ es, List.Forall₂ Segment.Means ss es →
        (∀ dataType encoding, getRequest (spelling.write ss) dataType encoding
          = { paths := [pathTo es], dataType := dataType, encoding := encoding }) ∧
        (∀ value, updateRequest (spelling.write ss) value
          = if value.value.isNone then .error (.network .emptyValue)
            else .ok { updates := [{ path := some (pathTo es), value := some value }] }) ∧
        (∀ value, replaceRequest (spelling.write ss) value
          = if value.value.isNone then .error (.network .emptyValue)
            else .ok { replaces := [{ path := some (pathTo es), value := some value }] }) ∧
        deleteRequest (spelling.write ss) = { deletes := [pathTo es] } := by
  have hread : XPath.elements (spelling.write ss) = ss.map Segment.element := XPath.elements_spelling_write h
  refine ⟨fun es => ?_, fun ts hts => ?_, fun es hes => ?_⟩
  · rw [hread, XPath.forall₂_means_iff]
  · have hsame : ss.map Segment.element = ts.map Segment.element := by
      rw [← List.forall₂_eq_eq_eq, List.forall₂_map_left_iff, List.forall₂_map_right_iff]
      exact hts.imp fun s t hst => hst.element_eq
    have hadmitted : ∀ t ∈ ts, XPath.Admits t ∧ t.name ≠ [] := by
      intro t ht
      obtain ⟨s, hs, hst⟩ := XPath.exists_reordered_of_mem hts ht
      exact ⟨hst.admits (h s hs).1, hst.name ▸ (h s hs).2⟩
    rw [XPath.elements_spelling_write hadmitted, hread, hsame]
  · obtain rfl := XPath.forall₂_means_iff.1 hes
    have hpath : path (spelling.write ss) = pathTo (ss.map Segment.element) := by rw [path_eq_pathTo, hread]
    refine ⟨fun dataType encoding => ?_, fun value => ?_, fun value => ?_, ?_⟩
    · rw [getRequest, hpath]
    · rw [updateRequest, pathUpdate, hpath]
      split <;> rfl
    · rw [replaceRequest, pathUpdate, hpath]
      split <;> rfl
    · rw [deleteRequest, hpath]

/-- A path with separators in its values, in which a key is given twice. -/
def repeated : List Segment :=
  [⟨"port".toList, [("name".toList, "ethernet-1/1".toList), ("vrf".toList, "[k=\"".toList),
      ("name".toList, "lag/1".toList)]⟩,
    ⟨"leaf".toList, []⟩]

/-- The name that is given last is asked for, and the order of the keys does not show. -/
theorem requests_write_repeated :
    spelling.write repeated = "/port[name=ethernet-1/1][vrf=[k=\"][name=lag/1]/leaf" ∧
      XPath.elements (spelling.write repeated) = [⟨"port", [("name", "lag/1"), ("vrf", "[k=\"")]⟩, ⟨"leaf", []⟩] ∧
      deleteRequest (spelling.write repeated)
        = { deletes := [{ elems := [⟨"port", [("name", "lag/1"), ("vrf", "[k=\"")]⟩, ⟨"leaf", []⟩] }] } ∧
      updateRequest (spelling.write repeated) {} = .error (.network .emptyValue) := by
  obtain ⟨hread, -, hrequests⟩ := requests_write_iff repeated (by decide +kernel)
  have helements : XPath.elements (spelling.write repeated)
      = [⟨"port", [("name", "lag/1"), ("vrf", "[k=\"")]⟩, ⟨"leaf", []⟩] := by decide +kernel
  obtain ⟨-, hupdate, -, hdelete⟩ := hrequests _ ((hread _).1 helements)
  exact ⟨by decide +kernel, helements, hdelete, hupdate {}⟩

end Management

end NetworkAgent
