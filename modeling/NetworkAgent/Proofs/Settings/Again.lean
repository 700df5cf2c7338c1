import NetworkAgent.Proofs.Settings.Fields

/-! # Laying the same sources again

Settings that came of some sources are written and the same sources are laid over them again. The two trees that the
sources are laid over differ in fields only, and so do the results: at the end of any way both have the same, or both a
table, or both a field as it was written. A field that was not replaced is the one that was read, so that the same is
read again.

* **`Settings.AlikeAt`**, **`Settings.Alike`** — trees that differ in what is written of fields only.
* **`Settings.Alike.mergeAt`**, **`Settings.Alike.lay`** — they still do after a key, and after a source.
* **`Settings.Alike.ofTree`** — what is read of the first is read of the second if it was written there. -/

namespace NetworkAgent.Settings

/-! ## Trees that differ in fields only -/

/-- **What stands at the end of a way in two trees** that differ in fields only: the same, two tables, or a field of `b`
and of `s`. -/
inductive AlikeAt (b s : Settings) (names : List String) : Option Tree → Option Tree → Prop
  | same (x : Option Tree) : AlikeAt b s names x x
  | tables (bs cs : List (String × Tree)) : AlikeAt b s names (some (.table bs)) (some (.table cs))
  | field (f : Field) (h : f.path = names) : AlikeAt b s names (some (f.leaf b)) (some (f.leaf s))

/-- **What stands at the end of a way, and all below it**, in two trees that differ in fields only. -/
def Alike (b s : Settings) (above : List String) (x y : Option Tree) : Prop :=
  ∀ names, AlikeAt b s (above ++ names) (x.bind fun t => t.at? names) (y.bind fun t => t.at? names)

namespace Alike

variable {b s : Settings} {above : List String} {x y : Option Tree}

/-- What is the same differs in no field. -/
theorem refl (x : Option Tree) : Alike b s above x x := fun _ => .same _

/-- What stands at the end of the way itself. -/
theorem top (h : Alike b s above x y) : AlikeAt b s above x y := by
  have htop := h []
  rwa [List.append_nil, show (fun t : Tree => t.at? []) = some from rfl, Option.bind_fun_some, Option.bind_fun_some]
    at htop

/-- The branches of a name differ in fields only. -/
theorem branch (h : Alike b s above x y) (name : String) :
    Alike b s (above ++ [name]) (x.bind fun t => t.branch? name) (y.bind fun t => t.branch? name) := by
  intro names
  have hbranch := h (name :: names)
  rw [List.append_assoc, Option.bind_assoc, Option.bind_assoc]
  exact hbranch

/-- A field as it is written has no elements. -/
theorem elements_leaf (s : Settings) (f : Field) : (f.leaf s).elements = [] := by
  rw [Field.leaf]
  split <;> rfl

/-- The elements are the same. -/
theorem elements_eq (h : Alike b s above x y) : (x.getD .nothing).elements = (y.getD .nothing).elements := by
  cases h.top with
  | same => rfl
  | tables => rfl
  | field f =>
      rw [Option.getD_some, Option.getD_some, elements_leaf, elements_leaf]

/-! ## Laying over both -/

/-- **A key that is laid over both leaves them differing in fields only.** -/
theorem mergeAt {t u : Tree} {place : Place} (ht : place.isElement = true ∨ t = .table [] ∨ t.isTable = false)
    (h : Alike b s above x y) (hu : t.mergeAt place x = some u) :
    ∃ w, t.mergeAt place y = some w ∧ Alike b s above (some u) (some w) := by
  induction place generalizing above x y u with
  | nil =>
      refine ⟨t.merge y, rfl, ?_⟩
      cases hu
      rcases ht with helement | rfl | hvalue
      · cases helement
      · rw [Tree.merge_empty, Tree.merge_empty]
        cases h.top with
        | same x => exact refl _
        | tables => exact h
        | field => exact h
      · rw [Tree.merge_of_not_isTable hvalue, Tree.merge_of_not_isTable hvalue]
        exact refl _
  | cons step place ih =>
      cases step with
      | branch n =>
          rw [Tree.mergeAt_branch] at hu
          obtain ⟨v, hv, rfl⟩ := Option.map_eq_some_iff.1 hu
          obtain ⟨w, hw, halike⟩ := ih ht (h.branch (Tree.lowerCase n)) hv
          refine ⟨_, by rw [Tree.mergeAt_branch, hw, Option.map_some], fun names => ?_⟩
          cases names with
          | nil => exact .tables _ _
          | cons name names =>
              rw [Option.bind_some, Option.bind_some, Tree.at?_table_putBranch, Tree.at?_table_putBranch]
              by_cases hname : name = Tree.lowerCase n
              · rw [if_pos hname, if_pos hname, hname]
                simpa using halike names
              · rw [if_neg hname, if_neg hname]
                exact h (name :: names)
      | element index =>
          -- there are no fields in a list, so it is the same element of the same list
          have hsame : t.mergeAt (.element index :: place) y = t.mergeAt (.element index :: place) x := by
            rw [Tree.mergeAt_element, Tree.mergeAt_element, h.elements_eq]
          exact ⟨u, hsame.trans hu, refl _⟩

/-- **A source that is laid over both leaves them differing in fields only.** -/
theorem lay {layer : Layer} {t t' u : Tree} (h : Alike b s [] (some t) (some t')) (hu : layer.lay t = some u) :
    ∃ u', layer.lay t' = some u' ∧ Alike b s [] (some u) (some u') := by
  have hkeys (ks : Layer) (hks : ∀ k ∈ ks, k ∈ layer.keys) (v v' : Tree) (hv : Alike b s [] (some v) (some v'))
      (hu : ks.lay v = some u) : ∃ u', ks.lay v' = some u' ∧ Alike b s [] (some u) (some u') := by
    induction ks generalizing v v' with
    | nil =>
        cases hu
        exact ⟨v', rfl, hv⟩
    | cons k ks ih =>
        obtain ⟨w, hw, hu⟩ := Option.bind_eq_some_iff.1 hu
        obtain ⟨w', hw', halike⟩ := hv.mergeAt (Layer.mem_keys (hks k List.mem_cons_self)).2 hw
        rw [Layer.lay_cons, hw', Option.bind_some]
        exact ih (fun l hl => hks l (List.mem_cons_of_mem k hl)) w w' halike hu
  rw [← Layer.lay_keys] at hu ⊢
  exact hkeys layer.keys (fun _ => id) t t' h hu

end Alike

/-- **Settings as they are written differ in fields only.** -/
theorem alike_written (b s : Settings) : Alike b s [] (some b.written) (some s.written) := by
  intro names
  rw [List.nil_append, Option.bind_some, Option.bind_some]
  rcases names with _ | ⟨g, names⟩
  · exact .tables _ _
  rw [Tree.at?, Tree.at?, branch?_written, branch?_written]
  cases hg : groups.find? (g == ·) with
  | none => exact .same _
  | some g' =>
      obtain rfl : g = g' := beq_iff_eq.1 (List.find?_some hg)
      rw [Option.map_some, Option.map_some, Option.bind_some, Option.bind_some]
      rcases names with _ | ⟨name, names⟩
      · exact .tables _ _
      rw [Tree.at?, Tree.at?, Tree.branch?_table, Tree.branch?_table, Tree.lookup_map, Tree.lookup_map]
      cases hf : (Field.all.filter (·.group = g)).find? fun f => name == f.name with
      | none => exact .same _
      | some f =>
          have hgroup : f.group = g := of_decide_eq_true (List.mem_filter.1 (List.mem_of_find?_eq_some hf)).2
          have hname : name = f.name := by simpa using List.find?_some hf
          rw [Option.map_some, Option.map_some, Option.bind_some, Option.bind_some]
          rcases names with _ | ⟨more, names⟩
          · exact .field f (by rw [Field.path, hgroup, hname])
          · rw [Tree.at?, Tree.at?, Field.branch?_leaf, Field.branch?_leaf]
            exact .same _

/-! ## Reading of both -/

/-- No two fields are at the end of the same way. -/
theorem Field.eq_of_path_eq {f g : Field} (h : f.path = g.path) : f = g := by
  have hall : ∀ f ∈ Field.all, ∀ g ∈ Field.all, f.path = g.path → f = g := by decide
  exact hall f f.mem_all g g.mem_all h

/-- **What is read of a tree is read of one that differs from it in fields only**, if they are written there as they were
read. -/
theorem Alike.ofTree {b s : Settings} {t t' : Tree} (h : Alike b s [] (some t) (some t'))
    (hs : ofTree t = some s) : ofTree t' = some s := by
  rw [ofTree_eq_some_iff] at hs ⊢
  intro f
  have hread := hs f
  have hgroup := h.branch f.group
  rw [Option.bind_some, Option.bind_some] at hgroup
  rw [Field.read?] at hread ⊢
  generalize t.branch? f.group = x at hread hgroup
  generalize t'.branch? f.group = y at hgroup ⊢
  cases hgroup.top with
  | same => exact hread
  | field f' hf' => exact absurd (congrArg List.length hf') (by simp [Field.path])
  | tables bs cs =>
      have hfield := (hgroup.branch f.name).top
      rw [Option.bind_some, Option.bind_some, Tree.branch?_table, Tree.branch?_table] at hfield
      rw [Option.getD_some, Field.readGroup?_table] at hread ⊢
      generalize bs.lookup f.name = v at hread hfield
      generalize cs.lookup f.name = w at hfield ⊢
      cases hfield with
      | same => exact hread
      | tables below _ =>
          have hconvert : f.convert? (.table below) = none := f.convert?_eq_none (.inl rfl)
          cases hread.symm.trans hconvert
      | field f' hf' =>
          obtain rfl := Field.eq_of_path_eq hf'
          exact f'.convert?_leaf s

end NetworkAgent.Settings
