import NetworkAgent.Proofs.Path.RoundTrip
import NetworkAgent.Proofs.Path.Subtree

/-! # Subtrees in both notations

An agent tells from the texts of two XPaths whether one addresses a node at or below the other. The daemon has the
JSPaths of the two, and goes by these in the same way: the one starts with the other, and goes on with an element or a
predicate. For paths that have a counterpart in the other notation the two come to the same.

* **`Paired`** — the segments that come back from the other notation; `Paired.admits_rename` says that their
  counterparts are segments there.
* `respell_write_append` and `respell_counterpart_append` — a text that starts with a path is translated from the path
  on, in both directions.
* **`isAtOrBelow_write_iff`** — the two subtree relations are the same. -/

namespace NetworkAgent

/-! ## Counterparts -/

namespace XPath

/-- **A segment with a counterpart in the other notation**: it is admitted here, and what it is turned into is admitted
there and comes back. -/
structure Paired (s : Segment) : Prop where
  /-- It is admitted. -/
  admits : Admits s
  /-- Its name starts no predicate in the other notation. -/
  brace_notMem : '{' ∉ s.name
  /-- It comes back. -/
  returns : Returns s

instance : DecidablePred Paired := fun s =>
  decidable_of_iff (Admits s ∧ '{' ∉ s.name ∧ Returns s)
    ⟨fun ⟨ha, hb, hr⟩ => ⟨ha, hb, hr⟩, fun ⟨ha, hb, hr⟩ => ⟨ha, hb, hr⟩⟩

/-- A sign that is no underscore is in a name with underscores for dashes only if it was there before. -/
theorem notMem_map_underscored {c : Char} {name : List Char} (hc : c ≠ '_') (h : c ∉ name) :
    c ∉ name.map underscored := by
  intro hmem
  obtain ⟨d, hd, hdc⟩ := List.mem_map.1 hmem
  by_cases hdash : d = '-'
  · rw [underscored, if_pos hdash] at hdc
    exact hc hdc.symm
  · rw [underscored, if_neg hdash] at hdc
    exact h (hdc ▸ hd)

/-- A name without underscores is the one that has dashes for those of its counterpart. -/
theorem map_dashed_map_underscored {name : List Char} (h : '_' ∉ name) : (name.map underscored).map dashed = name := by
  rw [List.map_map]
  refine (List.map_congr_left fun c hc => ?_).trans (List.map_id name)
  by_cases hdash : c = '-'
  · subst hdash
    rfl
  · have hunderscore : c ≠ '_' := fun he => h (he ▸ hc)
    rw [Function.comp_apply, underscored, if_neg hdash, dashed, if_neg hunderscore, id]

namespace Paired

variable {s : Segment}

/-- The counterpart is admitted in the other notation. -/
theorem admits_rename (h : Paired s) : JsPath.Admits (s.rename underscored) where
  dot_notMem := notMem_map_underscored (by decide) h.returns.dot_notMem
  open_notMem := notMem_map_underscored (by decide) h.brace_notMem
  predicates p hp :=
    ⟨(h.admits.predicates p hp).equals_notMem, h.returns.close_notMem p hp, h.returns.close_notInfix p hp⟩

/-- It is the counterpart of the segment alone. -/
theorem rename_rename (h : Paired s) : (s.rename underscored).rename dashed = s := by
  rw [Segment.rename, Segment.rename, map_dashed_map_underscored h.returns.underscore_notMem]

end Paired

/-- A text that starts with a path is translated from the path on. -/
theorem respell_write_append {ss : List Segment} (h : ∀ s ∈ ss, Paired s) (rest : List Char) :
    respell .name ((spelling.write ss).toList ++ rest)
      = (toJsPath (spelling.write ss)).toList ++ respell .name rest := by
  have hreads : ∀ s ∈ ss, spelling.Reads JsPath.spelling (respell .name) underscored s :=
    fun s hs => reads (h s hs).admits
  rw [Spelling.Reads.write_append hreads, toJsPath, Spelling.Reads.write hreads (respell_nil .name)]

/-- So is a text that starts with the counterpart of a path. -/
theorem respell_counterpart_append {ss : List Segment} (h : ∀ s ∈ ss, Paired s) (rest : List Char) :
    JsPath.respell .name ((toJsPath (spelling.write ss)).toList ++ rest)
      = (spelling.write ss).toList ++ JsPath.respell .name rest := by
  have hcounterpart : toJsPath (spelling.write ss) = JsPath.spelling.write (ss.map (·.rename underscored)) :=
    Spelling.Reads.write (fun s hs => reads (h s hs).admits) (respell_nil .name)
  have hback : (ss.map (·.rename underscored)).map (·.rename dashed) = ss := by
    rw [List.map_map]
    exact (List.map_congr_left fun s hs => (h s hs).rename_rename).trans (List.map_id ss)
  have hreads : ∀ t ∈ ss.map (·.rename underscored),
      JsPath.spelling.Reads spelling (JsPath.respell .name) dashed t :=
    List.forall_mem_map.2 fun s hs => JsPath.reads (h s hs).admits_rename
  rw [hcounterpart, Spelling.Reads.write_append hreads, hback]

/-- The counterpart of a path comes back as the path. -/
theorem respell_counterpart {ss : List Segment} (h : ∀ s ∈ ss, Paired s) :
    JsPath.respell .name (toJsPath (spelling.write ss)).toList = (spelling.write ss).toList := by
  have hall := respell_counterpart_append h []
  rwa [List.append_nil, JsPath.respell_nil, List.append_nil] at hall

/-! ## What goes on behind a path -/

/-- What starts something new is turned into what does so in the other notation. -/
theorem StartsNew.respell {rest : List Char} (h : StartsNew rest) :
    rest = [] ∨ ['.'] <+: XPath.respell .name rest ∨ ['{', '.'] <+: XPath.respell .name rest := by
  cases rest with
  | nil => exact Or.inl rfl
  | cons c rest =>
      rcases h with rfl | rfl
      · exact Or.inr (Or.inl ⟨XPath.respell .name rest, rfl⟩)
      · exact Or.inr (Or.inr ⟨XPath.respell .key rest, rfl⟩)

/-- And the other way round. -/
theorem startsNew_respell {rest : List Char} (h : ['.'] <+: rest ∨ ['{', '.'] <+: rest) :
    StartsNew (JsPath.respell .name rest) := by
  rcases h with ⟨after, rfl⟩ | ⟨after, rfl⟩
  · exact Or.inl rfl
  · exact Or.inr rfl

/-- **The subtree relation of the two notations is the same.** For paths whose segments have counterparts, the one is
at the other or below it if and only if its JSPath is that of the other, or goes on after it with an element or a
predicate. -/
theorem isAtOrBelow_write_iff (ps rs : List Segment) (hp : ∀ s ∈ ps, Paired s) (hr : ∀ s ∈ rs, Paired s) :
    isAtOrBelow (spelling.write ps) (spelling.write rs) = true ↔
      toJsPath (spelling.write ps) = toJsPath (spelling.write rs) ∨
        ∃ rest, (toJsPath (spelling.write ps)).toList = (toJsPath (spelling.write rs)).toList ++ rest ∧
          (['.'] <+: rest ∨ ['{', '.'] <+: rest) := by
  rw [isAtOrBelow_iff_append]
  constructor
  · rintro ⟨rest, htext, hnew⟩
    have hcounterpart : (toJsPath (spelling.write ps)).toList
        = (toJsPath (spelling.write rs)).toList ++ respell .name rest := by
      rw [← respell_write_append hr, ← htext, toJsPath, String.toList_ofList]
    rcases hnew.respell with rfl | hnew
    · left
      rw [respell_nil, List.append_nil] at hcounterpart
      exact String.toList_injective hcounterpart
    · exact Or.inr ⟨_, hcounterpart, hnew⟩
  · -- translated back, the two texts are the paths themselves
    rintro (hsame | ⟨rest, htext, hnew⟩)
    · refine ⟨[], ?_, trivial⟩
      rw [List.append_nil, ← respell_counterpart hp, hsame, respell_counterpart hr]
    · refine ⟨JsPath.respell .name rest, ?_, startsNew_respell hnew⟩
      rw [← respell_counterpart hp, htext, respell_counterpart_append hr]

/-- A list entry, with signs of both notations in the value of its key. -/
def entry : List Segment := [⟨"acl-list".toList, [("name".toList, "a/b.\x7b_[".toList)]⟩]

/-- A leaf of the entry is below it in both notations; a list with a longer name is not below the list. -/
theorem isAtOrBelow_write_entry :
    spelling.write entry = "/acl-list[name=a/b.\x7b_[]" ∧
      isAtOrBelow "/acl-list[name=a/b.\x7b_[]/leaf" "/acl-list[name=a/b.\x7b_[]" = true ∧
      isAtOrBelow "/acl-lists" "/acl-list" = false ∧
      ¬∃ rest, (toJsPath "/acl-lists").toList = (toJsPath "/acl-list").toList ++ rest ∧
          (['.'] <+: rest ∨ ['{', '.'] <+: rest) := by
  have hleaf := isAtOrBelow_write_iff (entry ++ [⟨"leaf".toList, []⟩]) entry (by decide +kernel) (by decide +kernel)
  have hlists := isAtOrBelow_write_iff [⟨"acl-lists".toList, []⟩] [⟨"acl-list".toList, []⟩] (by decide +kernel)
    (by decide +kernel)
  have hbelow : (toJsPath (spelling.write (entry ++ [⟨"leaf".toList, []⟩]))).toList
      = (toJsPath (spelling.write entry)).toList ++ ".leaf".toList := by decide +kernel
  have hapart : isAtOrBelow "/acl-lists" "/acl-list" = false := by decide +kernel
  refine ⟨by decide +kernel, hleaf.2 (Or.inr ⟨_, hbelow, Or.inl (by decide)⟩), hapart, fun h => ?_⟩
  exact absurd (hlists.2 (Or.inr h)) (by rw [Bool.not_eq_true]; exact hapart)

end XPath

end NetworkAgent
