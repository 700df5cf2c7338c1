import Mathlib.Data.List.Infix
import NetworkAgent.Settings.Layer

/-! # Laying a source key by key

A source gives trees at places. Its **keys** are the places that it gives values to one by one, and it comes to the
same to lay the source as a whole or its keys one after another.

* **`Tree.keys`**, **`Layer.keys`** — the keys of a tree at a place, and of a source, with their values.
* `Tree.mergeAt_table_cons` — a table is laid branch by branch, at any place but that of an element.
* **`Layer.lay_keys`** — a source may be laid key by key. -/

namespace NetworkAgent

namespace Tree

/-! ## Branches and elements -/

/-- What a table holds once a branch has been put into it. -/
theorem lookup_putBranch (name m : String) (t : Tree) (bs : List (String × Tree)) :
    (putBranch name t bs).lookup m = if m = name then some t else bs.lookup m := by
  have hcons (n : String) (u : Tree) (rest : List (String × Tree)) :
      List.lookup m ((n, u) :: rest) = if m = n then some u else rest.lookup m := by
    by_cases h : m = n
    · rw [if_pos h, List.lookup_cons, beq_iff_eq.2 h]
    · rw [if_neg h, List.lookup_cons, beq_eq_false_iff_ne.2 h]
  induction bs with
  | nil => rw [putBranch, hcons]
  | cons b bs ih =>
      obtain ⟨n, u⟩ := b
      by_cases hn : n = name
      · subst hn
        rw [putBranch, if_pos rfl, hcons, hcons]
        split <;> rfl
      · rw [putBranch, if_neg hn, hcons, hcons, ih]
        by_cases h : m = n
        · rw [if_pos h, if_pos h, if_neg (h ▸ hn)]
        · rw [if_neg h, if_neg h]

/-- The branch of a name in a table whose branches are made from a list. -/
theorem lookup_map {α : Type} (l : List α) (name : α → String) (t : α → Tree) (m : String) :
    (l.map fun a => (name a, t a)).lookup m = (l.find? fun a => m == name a).map t := by
  induction l with
  | nil => rfl
  | cons a l ih =>
      rw [List.map_cons, List.lookup_cons, List.find?_cons, ih]
      cases m == name a <;> rfl

/-- Of two branches of one name that are put one after another the second counts. -/
theorem putBranch_putBranch (name : String) (t u : Tree) (bs : List (String × Tree)) :
    putBranch name u (putBranch name t bs) = putBranch name u bs := by
  induction bs with
  | nil => simp [putBranch]
  | cons b bs ih =>
      obtain ⟨n, v⟩ := b
      by_cases hn : n = name
      · simp [putBranch, hn]
      · simp [putBranch, hn, ih]

/-- The branches of a table by name. -/
theorem branch?_table (bs : List (String × Tree)) (name : String) : (table bs).branch? name = bs.lookup name := rfl

/-- The elements of a list. -/
theorem elements_list (ts : List Tree) : (list ts).elements = ts := rfl

/-- How long a list is once an element has been put into it. -/
theorem length_putElement (position : Nat) (t : Tree) (ts : List Tree) :
    (putElement position t ts).length = max ts.length (position + 1) := by
  rw [putElement, List.length_set, List.length_append, List.length_replicate]
  omega

/-- An element that has been put into a list is there. -/
theorem getElem?_putElement (position : Nat) (t : Tree) (ts : List Tree) :
    (putElement position t ts)[position]? = some t := by
  rw [putElement, List.getElem?_set_self]
  rw [List.length_append, List.length_replicate]
  omega

/-- Of two elements that are put at one position the second counts. -/
theorem putElement_putElement (position : Nat) (t u : Tree) (ts : List Tree) :
    putElement position u (putElement position t ts) = putElement position u ts := by
  have hroom : position + 1 - (putElement position t ts).length = 0 := by
    rw [length_putElement]
    omega
  rw [putElement, hroom, List.replicate_zero, List.append_nil, putElement, List.set_set, putElement]

/-- A number means the same position once there is an element at it. -/
theorem position?_putElement {index : Int} {position : Nat} {ts : List Tree} (t : Tree)
    (h : position? ts.length index = some position) :
    position? (putElement position t ts).length index = some position := by
  rw [length_putElement]
  simp only [position?] at h ⊢
  split_ifs at h ⊢ <;> simp_all <;> omega

/-- What is laid at a branch or below it. -/
theorem mergeAt_branch (t : Tree) (name : String) (place : Place) (base : Option Tree) :
    t.mergeAt (.branch name :: place) base
      = (t.mergeAt place (base.bind fun b => b.branch? (lowerCase name))).map
          fun u => .table (putBranch (lowerCase name) u (base.getD .nothing).branches) := by
  cases base <;> rfl

/-- What is laid at an element of a list or below it. -/
theorem mergeAt_element (t : Tree) (index : Int) (place : Place) (base : Option Tree) :
    t.mergeAt (.element index :: place) base
      = (position? (base.getD .nothing).elements.length index).bind fun position =>
          (if place.isEmpty then some t else t.mergeAt place (base.getD .nothing).elements[position]?).map
            fun u => .list (putElement position u (base.getD .nothing).elements) := by
  rw [mergeAt]
  congr 1
  funext position
  split
  · rfl
  · exact Option.map_eq_bind.symm

end Tree

/-! ## Keys -/

namespace Place

/-- Whether a place is that of an element of a list. -/
def isElement : Place → Bool
  | [] => false
  | .element _ :: place => place.isEmpty || isElement place
  | .branch _ :: place => isElement place

/-- A place without regard to case. -/
def lower (place : Place) : Place :=
  place.map fun
    | .branch name => .branch (Tree.lowerCase name)
    | .element index => .element index

/-- The place that a text stands for is never the top itself. -/
theorem ofText_ne_nil (s : String) : ofText s ≠ [] := by
  rw [ofText]
  cases h : (s.toList.splitOn '.').mapM part? with
  | none => exact List.cons_ne_nil _ _
  | some parts =>
    cases hs : s.toList.splitOn '.' with
    | nil => exact absurd hs (List.splitOn_ne_nil _ _)
    | cons part more =>
        rw [hs, List.mapM_cons] at h
        obtain ⟨place, hpart, h⟩ := Option.bind_eq_some_iff.1 h
        obtain ⟨places, -, h⟩ := Option.bind_eq_some_iff.1 h
        cases h
        have : place ≠ [] := by
          rw [part?] at hpart
          split at hpart
          · cases hpart
          · split at hpart
            · cases hpart
            · obtain ⟨_, _, rfl⟩ := Option.map_eq_some_iff.1 hpart
              exact List.cons_ne_nil _ _
        simp [this]

/-- A branch of a list's element is no element. -/
theorem isElement_concat_branch (place : Place) (name : String) :
    Place.isElement (place ++ [.branch name]) = false := by
  induction place with
  | nil => rfl
  | cons step place ih =>
      cases step with
      | branch _ => exact ih
      | element _ => simpa [isElement] using ih

end Place

namespace Layer

/-- A source is laid value by value. -/
theorem lay_cons (place : Place) (t : Tree) (layer : Layer) (base : Tree) :
    lay ((place, t) :: layer) base = (t.mergeAt place (some base)).bind (lay layer) := rfl

/-- A source with one value. -/
theorem lay_singleton (place : Place) (t : Tree) (base : Tree) :
    lay [(place, t)] base = t.mergeAt place (some base) :=
  Option.bind_fun_some _

/-- Two sources are laid one after the other. -/
theorem lay_append (layer upper : Layer) (base : Tree) :
    lay (layer ++ upper) base = (lay layer base).bind (lay upper) :=
  List.foldlM_append

end Layer

namespace Tree

mutual

/-- **The keys of a tree** that stands at a place: the places in it, each with the value that the tree gives there. A
table without branches is a value, too. -/
def keys (place : Place) : Tree → Layer
  | .table bs => if bs.isEmpty then [(place, .table [])] else keysOfBranches place bs
  | t => [(place, t)]

/-- The keys of the branches of a table. -/
def keysOfBranches (place : Place) : List (String × Tree) → Layer
  | [] => []
  | (name, t) :: rest => t.keys (place ++ [.branch name]) ++ keysOfBranches place rest

end

/-- Whether a tree is a table. -/
def isTable : Tree → Bool
  | .table _ => true
  | _ => false

/-- Whether a tree is a list. -/
def isList : Tree → Bool
  | .list _ => true
  | _ => false

/-- What is no table is given as a whole. -/
theorem keys_of_not_isTable {t : Tree} (h : t.isTable = false) (place : Place) : t.keys place = [(place, t)] := by
  cases t with
  | table => cases h
  | _ => rw [keys]; nofun

mutual

/-- The keys of a tree are at its place or below, and none of them has a table with branches. -/
theorem mem_keys : (t : Tree) → {place : Place} → {k : Place × Tree} → k ∈ t.keys place →
    place <+: k.1 ∧ (k.2 = .table [] ∨ k.2.isTable = false)
  | .table [], place, k, h => by
      rw [keys, if_pos List.isEmpty_nil, List.mem_singleton] at h
      subst h
      exact ⟨List.prefix_rfl, .inl rfl⟩
  | .table (b :: bs), place, k, h => by
      rw [keys, if_neg (by simp)] at h
      exact mem_keysOfBranches (b :: bs) h
  | .nothing, _, _, h | .boolean _, _, _, h | .integer _, _, _, h | .real _, _, _, h | .text _, _, _, h
  | .list _, _, _, h => by
      rw [keys_of_not_isTable rfl] at h
      cases List.mem_singleton.1 h
      exact ⟨List.prefix_rfl, .inr rfl⟩

/-- So are the keys of branches. -/
theorem mem_keysOfBranches : (bs : List (String × Tree)) → {place : Place} → {k : Place × Tree} →
    k ∈ keysOfBranches place bs → place <+: k.1 ∧ (k.2 = .table [] ∨ k.2.isTable = false)
  | [], _, _, h => by cases h
  | (name, t) :: rest, place, k, h => by
      rw [keysOfBranches, List.mem_append] at h
      rcases h with h | h
      · obtain ⟨hplace, hvalue⟩ := mem_keys t h
        exact ⟨(List.prefix_append _ _).trans hplace, hvalue⟩
      · exact mem_keysOfBranches rest h

end

/-- **A table is laid branch by branch.** -/
theorem mergeAt_table_cons (name : String) (t : Tree) (rest : List (String × Tree)) {place : Place}
    (h : place.isElement = false) (base : Option Tree) :
    mergeAt (.table ((name, t) :: rest)) place base
      = (mergeAt t (place ++ [.branch name]) base).bind fun u =>
          if rest.isEmpty then some u else mergeAt (.table rest) place (some u) := by
  induction place generalizing base with
  | nil => cases base <;> cases rest <;> simp [mergeAt, merge, mergeBranches, branch?, branches]
  | cons step place ih =>
      cases step with
      | branch n =>
          rw [List.cons_append, mergeAt_branch, mergeAt_branch, ih h, Option.map_bind, Option.bind_map]
          congr 1
          funext u
          cases rest with
          | nil => rfl
          | cons b rest =>
              simp [mergeAt_branch, branch?_table, lookup_putBranch, branches, putBranch_putBranch]
      | element index =>
          have hplace : place.isEmpty = false ∧ Place.isElement place = false := by
            simpa [Place.isElement] using h
          have hlonger : (place ++ [Place.Step.branch name]).isEmpty = false := by simp
          rw [List.cons_append, mergeAt_element, mergeAt_element, hplace.1, hlonger]
          simp only [Bool.false_eq_true, if_false, ih hplace.2]
          generalize (base.getD nothing).elements = ts
          cases hposition : position? ts.length index with
          | none => rfl
          | some position =>
              rw [Option.bind_some, Option.bind_some, Option.map_bind, Option.bind_map]
              congr 1
              funext u
              cases rest with
              | nil => rfl
              | cons b rest =>
                  -- the element is where it was before, and it holds what the first branch left
                  simp [mergeAt_element, hplace.1, elements_list, position?_putElement u hposition,
                    getElem?_putElement, putElement_putElement]

mutual

/-- A tree may be laid key by key. -/
theorem lay_keys : (t : Tree) → {place : Place} → place.isElement = false → (base : Tree) →
    Layer.lay (t.keys place) base = t.mergeAt place (some base)
  | .table [], _, _, _ => by
      rw [keys, if_pos List.isEmpty_nil, Layer.lay_singleton]
  | .table (b :: bs), _, h, base => by
      rw [keys, if_neg (by simp)]
      exact lay_keysOfBranches (b :: bs) h rfl base
  | .nothing, _, _, _ | .boolean _, _, _, _ | .integer _, _, _, _ | .real _, _, _, _ | .text _, _, _, _
  | .list _, _, _, _ => by
      rw [keys_of_not_isTable rfl, Layer.lay_singleton]

/-- The branches of a table may be laid key by key. -/
theorem lay_keysOfBranches : (bs : List (String × Tree)) → {place : Place} → place.isElement = false →
    bs.isEmpty = false → (base : Tree) →
    Layer.lay (keysOfBranches place bs) base = mergeAt (.table bs) place (some base)
  | (name, t) :: rest, place, h, _, base => by
      rw [keysOfBranches, Layer.lay_append, lay_keys t (Place.isElement_concat_branch place name) base,
        mergeAt_table_cons name t rest h]
      congr 1
      funext u
      cases hrest : rest.isEmpty with
      | true =>
          rw [List.isEmpty_iff.1 hrest]
          rfl
      | false => exact lay_keysOfBranches rest h hrest u

end

end Tree

namespace Layer

/-- **The keys of a source**: the places that it gives values to, with the values. An element of a list is given as a
whole. -/
def keys (layer : Layer) : Layer := layer.flatMap fun e => if e.1.isElement then [e] else e.2.keys e.1

/-- The keys of a source are where it gives trees, or below; but for elements none has a table with branches. -/
theorem mem_keys {layer : Layer} {k : Place × Tree} (h : k ∈ layer.keys) :
    (∃ e ∈ layer, e.1 <+: k.1) ∧ (k.1.isElement = true ∨ k.2 = .table [] ∨ k.2.isTable = false) := by
  obtain ⟨e, he, hk⟩ := List.mem_flatMap.1 h
  cases helement : e.1.isElement with
  | true =>
      rw [helement, if_pos rfl] at hk
      cases List.mem_singleton.1 hk
      exact ⟨⟨_, he, List.prefix_rfl⟩, .inl helement⟩
  | false =>
      rw [helement, if_neg Bool.false_ne_true] at hk
      obtain ⟨hplace, hvalue⟩ := e.2.mem_keys hk
      exact ⟨⟨_, he, hplace⟩, .inr hvalue⟩

/-- **A source may be laid key by key.** -/
theorem lay_keys (layer : Layer) (base : Tree) : layer.keys.lay base = layer.lay base := by
  induction layer generalizing base with
  | nil => rfl
  | cons e layer ih =>
      obtain ⟨place, t⟩ := e
      have hentry : lay (if Place.isElement place then [(place, t)] else t.keys place) base
          = t.mergeAt place (some base) := by
        cases h : Place.isElement place with
        | true => exact lay_singleton place t base
        | false => exact t.lay_keys h base
      rw [keys, List.flatMap_cons, lay_append, hentry, lay_cons]
      congr 1
      funext u
      exact ih u

/-- A property that each value of a source keeps is kept by the source. -/
theorem lay_invariant {P : Tree → Prop} {layer : Layer} {t u : Tree}
    (hstep : ∀ k ∈ layer, ∀ v w, P v → k.2.mergeAt k.1 (some v) = some w → P w) (ht : P t)
    (hu : layer.lay t = some u) : P u := by
  induction layer generalizing t with
  | nil =>
      cases hu
      exact ht
  | cons k layer ih =>
      obtain ⟨v, hv, hu⟩ := Option.bind_eq_some_iff.1 hu
      exact ih (fun l hl => hstep l (List.mem_cons_of_mem k hl)) (hstep k List.mem_cons_self t v ht hv) hu

end Layer

end NetworkAgent
