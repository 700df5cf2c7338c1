import NetworkAgent.Proofs.Settings.Keys

/-! # Ways down a tree of settings

A way down a tree goes by the names of branches. What a key does to what stands at the end of a way depends on where
the key lies: off the way, on it, or below its end.

* **`Tree.at?`** — what stands at the end of a way.
* **`Place.Misses`**, **`Place.numbers`**, `Place.misses_or` — a key is off a way, goes by the number of an element
  where the way goes by a name, or is on the way or below its end.
* `Tree.at?_mergeAt_of_misses`, `Tree.at?_mergeAt_of_eq`, `Tree.at?_mergeAt_empty`,
  `Tree.exists_at?_mergeAt_of_below` — what a key does in each of these cases. -/

namespace NetworkAgent

/-! ## The end of a way -/

namespace Tree

/-- **What stands at the end of a way** down a tree, which the names of its branches give. -/
def at? : Tree → List String → Option Tree
  | t, [] => some t
  | t, name :: names => (t.branch? name).bind fun u => u.at? names

/-- What is no table replaces what it is laid over. -/
theorem merge_of_not_isTable {t : Tree} (h : t.isTable = false) (base : Option Tree) : t.merge base = t := by
  cases t with
  | table => cases h
  | _ => simp [merge]

/-- A table without branches leaves alone what it is laid over. -/
theorem merge_empty (base : Option Tree) : (table []).merge base = base.getD (.table []) := by
  rw [merge, mergeBranches]

end Tree

/-! ## Keys and ways -/

namespace Place

/-- **A place off a way**: the two part at some point, by the names of two branches. -/
def Misses : Place → List String → Prop
  | .branch n :: place, name :: names => Tree.lowerCase n ≠ name ∨ Misses place names
  | _, _ => False

/-- Whether a place goes by the number of an element where a way goes by the name of a branch. -/
def numbers : Place → List String → Bool
  | .element _ :: _, _ :: _ => true
  | .branch n :: place, name :: names => Tree.lowerCase n == name && numbers place names
  | _, _ => false

/-- **How a place can lie to a way**: off it, on it, or below its end, unless it goes by number. -/
theorem misses_or (place : Place) (names : List String) (h : place.numbers names = false) :
    place.Misses names ∨ place.lower <+: names.map .branch ∨
      ∃ step rest, place.lower = names.map .branch ++ step :: rest := by
  induction place, names using numbers.induct with
  | case1 => cases h
  | case2 n place name names ih =>
      by_cases hn : Tree.lowerCase n = name
      · subst hn
        have hplace : numbers place names = false := by simpa [numbers] using h
        rcases ih hplace with hmiss | hon | ⟨step, rest, hbelow⟩
        · exact .inl (.inr hmiss)
        · exact .inr (.inl (List.cons_prefix_cons.2 ⟨rfl, hon⟩))
        · exact .inr (.inr ⟨step, rest, congrArg (_ :: ·) hbelow⟩)
      · exact .inl (.inl hn)
  | case3 place names hne hne' =>
      cases names with
      | nil =>
          cases place with
          | nil => exact .inr (.inl List.nil_prefix)
          | cons step place => exact .inr (.inr ⟨_, _, rfl⟩)
      | cons name names =>
          cases place with
          | nil => exact .inr (.inl List.nil_prefix)
          | cons step place =>
              cases step with
              | branch n => exact (hne' _ _ _ _ rfl rfl).elim
              | element i => exact (hne _ _ _ _ rfl rfl).elim

/-- A place that goes by number on a way does so on any longer one. -/
theorem numbers_append {place : Place} {names : List String} (h : place.numbers names = true)
    (more : List String) : place.numbers (names ++ more) = true := by
  induction place, names using numbers.induct with
  | case1 => rfl
  | case2 n place name names ih =>
      rw [numbers, Bool.and_eq_true] at h
      rw [List.cons_append, numbers, h.1, ih h.2, Bool.and_self]
  | case3 place names hne hne' =>
      rw [numbers] at h
      · cases h
      · exact hne
      · exact hne'

/-- A place that names an element of what is at the end of a way goes by number on a way that leads further. -/
theorem numbers_of_lower {place rest : Place} {names : List String} {index : Int}
    (h : place.lower = names.map .branch ++ .element index :: rest) (name : String) :
    place.numbers (names ++ [name]) = true := by
  induction names generalizing place with
  | nil =>
      cases place with
      | nil => cases h
      | cons step place =>
          cases step with
          | branch => cases h
          | element => rfl
  | cons first names ih =>
      cases place with
      | nil => cases h
      | cons step place =>
          cases step with
          | element => cases h
          | branch n =>
              obtain ⟨hstep, hplace⟩ := List.cons.inj h
              cases hstep
              rw [List.cons_append, numbers, beq_self_eq_true, Bool.true_and]
              exact ih hplace

/-- What lies on a way is no element of a list. -/
theorem isElement_of_lower {place : Place} {names : List String} (h : place.lower <+: names.map .branch) :
    place.isElement = false := by
  induction place generalizing names with
  | nil => rfl
  | cons step place ih =>
      cases names with
      | nil => cases List.prefix_nil.1 h
      | cons name names =>
          obtain ⟨hstep, hplace⟩ := List.cons_prefix_cons.1 h
          cases step with
          | element => cases hstep
          | branch n => exact ih hplace

end Place

namespace Tree

variable {t u : Tree} {place : Place} {names : List String} {base : Option Tree}

/-- What stands at the end of a way of two parts. -/
theorem at?_append (t : Tree) (names more : List String) :
    t.at? (names ++ more) = (t.at? names).bind fun u => u.at? more := by
  induction names generalizing t with
  | nil => rfl
  | cons name names ih =>
      rw [List.cons_append, at?, at?, Option.bind_assoc]
      congr 1
      funext u
      exact ih u

/-- What stands at the end of a way once a branch has been put into what was there. -/
theorem at?_table_putBranch (n : String) (w : Tree) (base : Option Tree) (name : String) (names : List String) :
    (table (putBranch n w (base.getD .nothing).branches)).at? (name :: names)
      = if name = n then w.at? names else base.bind fun b => b.at? (name :: names) := by
  rw [at?, branch?_table, lookup_putBranch]
  split
  · exact Option.bind_some ..
  · cases base <;> rfl

/-- What is laid at a branch or below it makes a table of what stands above it. -/
theorem isTable_of_mergeAt_branch {n : String} (hu : t.mergeAt (.branch n :: place) base = some u) :
    u.isTable = true := by
  rw [mergeAt_branch] at hu
  obtain ⟨w, -, rfl⟩ := Option.map_eq_some_iff.1 hu
  rfl

/-- What is laid at an element or below it makes a list of what stands above it. -/
theorem isList_of_mergeAt_element {index : Int} (hu : t.mergeAt (.element index :: place) base = some u) :
    u.isList = true := by
  rw [mergeAt_element] at hu
  obtain ⟨position, -, hu⟩ := Option.bind_eq_some_iff.1 hu
  obtain ⟨w, -, rfl⟩ := Option.map_eq_some_iff.1 hu
  rfl

/-- **What is laid off a way leaves alone what stands at its end.** -/
theorem at?_mergeAt_of_misses (h : place.Misses names) (hu : t.mergeAt place base = some u) :
    u.at? names = base.bind fun b => b.at? names := by
  induction place, names using Place.Misses.induct generalizing base u with
  | case1 n place name names ih =>
      rw [mergeAt_branch] at hu
      obtain ⟨w, hw, rfl⟩ := Option.map_eq_some_iff.1 hu
      rw [at?_table_putBranch]
      split
      · next hname =>
        rw [ih (h.resolve_left fun hne => hne hname.symm) hw, Option.bind_assoc, hname]
        rfl
      · rfl
  | case2 place names hne =>
      rw [Place.Misses] at h
      · exact h.elim
      · exact hne

/-- **What is laid at the end of a way** is laid over what stands there. -/
theorem at?_mergeAt_of_eq (h : place.lower = names.map .branch) (hu : t.mergeAt place base = some u) :
    u.at? names = some (t.merge (base.bind fun b => b.at? names)) := by
  induction place generalizing names base u with
  | nil =>
      obtain rfl : names = [] := List.map_eq_nil_iff.1 h.symm
      cases hu
      cases base <;> rfl
  | cons step place ih =>
      obtain ⟨name, names, rfl, hstep, hplace⟩ := List.map_eq_cons_iff.1 h.symm
      cases step with
      | element => cases hstep
      | branch n =>
          cases hstep
          rw [mergeAt_branch] at hu
          obtain ⟨w, hw, rfl⟩ := Option.map_eq_some_iff.1 hu
          rw [at?_table_putBranch, if_pos rfl, ih hplace.symm hw, Option.bind_assoc]
          rfl

/-- **A table without branches** that is laid on a way leaves alone what stands at the end, if anything does. -/
theorem at?_mergeAt_empty (h : place.lower <+: names.map .branch)
    (hu : (table []).mergeAt place base = some u) :
    u.at? names = (base.bind fun b => b.at? names) ∨
      (base.bind fun b => b.at? names) = none ∧ u.at? names = some (.table []) := by
  obtain ⟨rest, hrest⟩ := h
  obtain ⟨above, more, rfl, habove, -⟩ := List.append_eq_map_iff.1 hrest
  have hat : u.at? (above ++ more) = ((base.bind fun b => b.at? above).getD (.table [])).at? more := by
    rw [at?_append, at?_mergeAt_of_eq habove.symm hu, merge_empty, Option.bind_some]
  have hbase : (base.bind fun b => b.at? (above ++ more))
      = (base.bind fun b => b.at? above).bind fun b => b.at? more := by
    simp only [at?_append, Option.bind_assoc]
  rw [hat, hbase]
  cases base.bind fun b => b.at? above with
  | some b => exact .inl rfl
  | none =>
      cases more with
      | nil => exact .inr ⟨rfl, rfl⟩
      | cons => exact .inl rfl

/-- **What is laid below the end of a way** makes a table or a list of what stands there. -/
theorem exists_at?_mergeAt_of_below {step : Place.Step} {rest : Place}
    (h : place.lower = names.map .branch ++ step :: rest) (hu : t.mergeAt place base = some u) :
    ∃ w, u.at? names = some w ∧
      (w.isTable = true ∧ (∃ n, step = .branch n) ∨ w.isList = true ∧ ∃ i, step = .element i) := by
  induction names generalizing place base u with
  | nil =>
      cases place with
      | nil => cases h
      | cons first place =>
          cases first with
          | branch n =>
              cases h
              exact ⟨u, rfl, .inl ⟨isTable_of_mergeAt_branch hu, _, rfl⟩⟩
          | element index =>
              cases h
              exact ⟨u, rfl, .inr ⟨isList_of_mergeAt_element hu, _, rfl⟩⟩
  | cons name names ih =>
      cases place with
      | nil => cases h
      | cons first place =>
          cases first with
          | element => cases h
          | branch n =>
              obtain ⟨hfirst, hplace⟩ := List.cons.inj h
              cases hfirst
              rw [mergeAt_branch] at hu
              obtain ⟨w, hw, rfl⟩ := Option.map_eq_some_iff.1 hu
              rw [at?_table_putBranch, if_pos rfl]
              exact ih hplace hw

end Tree

end NetworkAgent
