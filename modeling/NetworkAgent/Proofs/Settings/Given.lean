import Mathlib.Data.List.Pairwise
import NetworkAgent.Proofs.Settings.Fields

/-! # What a source gives

A source gives values by its keys. Where no two of them can be taken for one another, nor one names what is below the
value of another, it does not matter in which order they are laid: what the source gives at the end of a way stands
there afterwards, and where it gives nothing it leaves alone what stood there, or spoils it.

* **`Layer.given?`** — the value that a source gives at the end of a way.
* **`Layer.Apart`**, **`Layer.Unambiguous`** — no two keys for one place, none below the value of another.
* `Layer.given?_ofEnvironment` — what the environment gives to a field is in the variable that is named for it.
* **`Layer.WritesList`** — a group is written as a list, as a whole or by the number of an element.
* **`Layer.at?_of_given?`**, **`Layer.at?_of_not_given?`** — what stands at the end of a way after a source was laid.
* **`Layer.WritesByName`** — a source that does not meddle with the group of a field, and what it does to the field. -/

namespace NetworkAgent

namespace Layer

open Settings (Field)

/-! ## Sources and their keys -/

/-- **The value that a source gives at the end of a way.** A table without branches is none. -/
def given? (layer : Layer) (names : List String) : Option Tree :=
  (layer.keys.find? fun k => !k.2.isTable && k.1.lower == names.map .branch).map (·.2)

/-- **Keys that are apart**: without regard to case, neither names a place at or below the value of the other. -/
def Apart (k l : Place × Tree) : Prop :=
  (k.2.isTable = false → ¬k.1.lower <+: l.1.lower) ∧ (l.2.isTable = false → ¬l.1.lower <+: k.1.lower)

instance : Std.Symm Apart := ⟨fun _ _ => And.symm⟩

instance (k l : Place × Tree) : Decidable (Apart k l) := inferInstanceAs (Decidable (_ ∧ _))

/-- **An unambiguous source**: its keys are apart from each other. -/
def Unambiguous (layer : Layer) : Prop := layer.keys.Pairwise Apart

instance (layer : Layer) : Decidable layer.Unambiguous := inferInstanceAs (Decidable (List.Pairwise _ _))

/-- **A source that writes the group of a field as a list**, as a whole or by the number of an element. -/
def WritesList (layer : Layer) (f : Field) : Prop :=
  (layer.given? [f.group]).any Tree.isList = true ∨ ∃ k ∈ layer.keys, k.1.numbers f.path = true

instance (layer : Layer) (f : Field) : Decidable (layer.WritesList f) := inferInstanceAs (Decidable (_ ∨ _))

/-- A source that gives nothing at the top itself. -/
def IsRooted (layer : Layer) : Prop := ∀ e ∈ layer, e.1 ≠ []

variable {layer : Layer} {names : List String} {t u v : Tree}

/-- What a source gives is the value of one of its keys. -/
theorem exists_of_given? (h : layer.given? names = some v) :
    ∃ k ∈ layer.keys, k.1.lower = names.map .branch ∧ k.2 = v ∧ v.isTable = false := by
  obtain ⟨k, hk, rfl⟩ := Option.map_eq_some_iff.1 h
  have hfound := List.find?_some hk
  rw [Bool.and_eq_true, Bool.not_eq_true', beq_iff_eq] at hfound
  exact ⟨k, List.mem_of_find?_eq_some hk, hfound.2, rfl, hfound.1⟩

/-- Where a source gives nothing its keys have tables only. -/
theorem isTable_of_given?_eq_none (h : layer.given? names = none) {k : Place × Tree} (hk : k ∈ layer.keys)
    (hplace : k.1.lower = names.map .branch) : k.2.isTable = true := by
  have hnot := List.find?_eq_none.1 (Option.map_eq_none_iff.1 h) k hk
  rw [hplace, beq_self_eq_true, Bool.and_true, Bool.not_eq_true', Bool.not_eq_false] at hnot
  exact hnot

/-- A key with a table that lies on a way has no branches. -/
theorem eq_empty_of_isTable {k : Place × Tree} (hk : k ∈ layer.keys) (hplace : k.1.lower <+: names.map .branch)
    (htable : k.2.isTable = true) : k.2 = .table [] := by
  rcases (mem_keys hk).2 with helement | hempty | hvalue
  · rw [Place.isElement_of_lower hplace] at helement
    cases helement
  · exact hempty
  · rw [htable] at hvalue
    cases hvalue

/-- What an unambiguous source has at one of its keys is what it gives there. -/
theorem given?_of_mem (hkeys : layer.Unambiguous) {k : Place × Tree} (hk : k ∈ layer.keys)
    (hplace : k.1.lower = names.map .branch) (hvalue : k.2.isTable = false) : layer.given? names = some k.2 := by
  obtain ⟨v, hv⟩ : ∃ v, layer.given? names = some v := by
    rw [← Option.ne_none_iff_exists']
    intro hnone
    cases hvalue.symm.trans (isTable_of_given?_eq_none hnone hk hplace)
  obtain ⟨l, hl, hsame, rfl, -⟩ := exists_of_given? hv
  suffices hkl : k = l by rw [hkl, hv]
  by_contra hne
  have hapart := hkeys.forall hk hl hne
  exact hapart.1 hvalue (hplace.trans hsame.symm ▸ List.prefix_rfl)

/-- The keys of a rooted source are not at the top. -/
theorem IsRooted.lower_ne_nil (h : layer.IsRooted) {k : Place × Tree} (hk : k ∈ layer.keys) : k.1.lower ≠ [] := by
  obtain ⟨⟨e, he, hplace⟩, -⟩ := mem_keys hk
  intro hnil
  rw [List.map_eq_nil_iff.1 hnil] at hplace
  exact h e he (List.prefix_nil.1 hplace)

/-! ## Where sources come from -/

/-- What is written as a text is not at the top. -/
theorem isRooted_of_ofText (h : ∀ e ∈ layer, ∃ text, e.1 = Place.ofText text) : layer.IsRooted := by
  intro e he
  obtain ⟨text, htext⟩ := h e he
  rw [htext]
  exact Place.ofText_ne_nil text

/-- The environment is rooted. -/
theorem isRooted_ofEnvironment (environment : List (String × String)) : (ofEnvironment environment).IsRooted := by
  refine isRooted_of_ofText fun e he => ?_
  obtain ⟨v, -, hv⟩ := List.mem_filterMap.1 he
  rw [ofVariable] at hv
  split at hv
  · cases hv
  · obtain ⟨rest, -, rfl⟩ := Option.map_eq_some_iff.1 hv
    exact ⟨_, rfl⟩

/-- A file is rooted. -/
theorem isRooted_of_fileLayer {file : SettingsFile} (h : Settings.fileLayer file = some layer) : layer.IsRooted := by
  refine isRooted_of_ofText fun e he => ?_
  cases file with
  | absent =>
      cases h
      cases he
  | missing => cases h
  | present text =>
      obtain ⟨t, -, ht⟩ := Option.bind_eq_some_iff.1 h
      cases t with
      | table bs =>
          cases ht
          obtain ⟨b, -, rfl⟩ := List.mem_map.1 he
          exact ⟨_, rfl⟩
      | _ => cases ht

/-- **The variable of a field** is named for its group and its name, in letters of any case. -/
theorem ofVariable_field (f : Field) {name value : String}
    (hname : Tree.lowerCase name = "ndk__" ++ f.group ++ "__" ++ f.name) (hvalue : value ≠ "") :
    ofVariable name value = some (f.path.map .branch, ofText value) := by
  have hplaces : ∀ f ∈ Field.all,
      (afterStart? variableStart ("ndk__" ++ f.group ++ "__" ++ f.name).toList).map
        (fun rest => Place.ofText (String.ofList (dotted rest))) = some (f.path.map .branch) := by decide +kernel
  obtain ⟨rest, hrest, hplace⟩ := Option.map_eq_some_iff.1 (hplaces f f.mem_all)
  rw [ofVariable, if_neg (by simpa using hvalue), hname, hrest, Option.map_some, hplace]

/-- No variable stands for a table. -/
theorem isTable_ofText (value : String) : (ofText value).isTable = false := by
  simp only [ofText]
  split_ifs
  · rfl
  · rfl
  · split
    · rfl
    · split <;> rfl

/-- **What the environment gives to a field** is what its variable says, if that is not empty. -/
theorem given?_ofEnvironment {environment : List (String × String)} (f : Field)
    (hkeys : (ofEnvironment environment).Unambiguous) {name value : String} (hmem : (name, value) ∈ environment)
    (hname : Tree.lowerCase name = "ndk__" ++ f.group ++ "__" ++ f.name) (hvalue : value ≠ "") :
    (ofEnvironment environment).given? f.path = some (ofText value) := by
  have hentry : (f.path.map .branch, ofText value) ∈ ofEnvironment environment :=
    List.mem_filterMap.2 ⟨_, hmem, ofVariable_field f hname hvalue⟩
  refine given?_of_mem (k := (f.path.map .branch, ofText value)) hkeys ?_ (by cases f <;> rfl) (isTable_ofText value)
  refine List.mem_flatMap.2 ⟨_, hentry, ?_⟩
  rw [if_neg (by cases f <;> nofun), Tree.keys_of_not_isTable (isTable_ofText value)]
  exact List.mem_singleton_self _

/-! ## What stands at the end of a way afterwards -/

/-- **What an unambiguous source gives at the end of a way stands there afterwards.** -/
theorem at?_of_given? (hkeys : layer.Unambiguous) (hnames : ∀ k ∈ layer.keys, k.1.numbers names = false)
    (hgiven : layer.given? names = some v) (hu : layer.lay t = some u) : u.at? names = some v := by
  obtain ⟨k, hk, hplace, rfl, hvalue⟩ := exists_of_given? hgiven
  obtain ⟨before, after, hsplit⟩ := List.append_of_mem hk
  rw [Unambiguous, hsplit, List.pairwise_append, List.pairwise_cons] at hkeys
  rw [← lay_keys, hsplit, lay_append] at hu
  obtain ⟨w, -, hu⟩ := Option.bind_eq_some_iff.1 hu
  obtain ⟨x, hx, hu⟩ := Option.bind_eq_some_iff.1 hu
  have hmem (l : Place × Tree) (hl : l ∈ after) : l ∈ layer.keys :=
    hsplit ▸ List.mem_append_right before (List.mem_cons_of_mem k hl)
  have hx : x.at? names = some k.2 := by
    rw [Tree.at?_mergeAt_of_eq hplace hx, Tree.merge_of_not_isTable hvalue]
  -- none of the keys behind it does anything to the end of the way
  refine lay_invariant (P := fun y => y.at? names = some k.2) (fun l hl y z hy hz => ?_) hx hu
  obtain ⟨hbelow, habove⟩ := hkeys.2.1.1 l hl
  rcases Place.misses_or l.1 names (hnames l (hmem l hl)) with hmiss | hon | ⟨step, rest, hrest⟩
  · rw [Tree.at?_mergeAt_of_misses hmiss hz]
    exact hy
  · have htable : l.2.isTable = true := by
      by_contra hvalue
      exact habove (Bool.not_eq_true _ ▸ hvalue) (hplace ▸ hon)
    rw [eq_empty_of_isTable (hmem l hl) hon htable] at hz
    rcases Tree.at?_mergeAt_empty hon hz with hsame | ⟨hnone, -⟩
    · rw [hsame]
      exact hy
    · cases hy.symm.trans hnone
  · exact (hbelow hvalue (hplace ▸ hrest ▸ List.prefix_append _ _)).elim

/-- **Where a source gives nothing on a way or at its end, it leaves alone what stands there**, or makes a table of it, or
a list if a key names an element of it. -/
theorem at?_of_not_given? (hnames : ∀ k ∈ layer.keys, k.1.numbers names = false)
    (hnone : ∀ k ∈ layer.keys, k.1.lower <+: names.map .branch → k.2.isTable = true) (hu : layer.lay t = some u) :
    u.at? names = t.at? names ∨ ∃ w, u.at? names = some w ∧ (w.isTable = true ∨ w.isList = true ∧
      ∃ k ∈ layer.keys, ∃ index rest, k.1.lower = names.map .branch ++ .element index :: rest) := by
  rw [← lay_keys] at hu
  refine lay_invariant (P := fun y => y.at? names = t.at? names ∨
    ∃ w, y.at? names = some w ∧ (w.isTable = true ∨ w.isList = true ∧
      ∃ k ∈ layer.keys, ∃ index rest, k.1.lower = names.map .branch ++ .element index :: rest))
    (fun k hk y z hy hz => ?_) (.inl rfl) hu
  rcases Place.misses_or k.1 names (hnames k hk) with hmiss | hon | ⟨step, rest, hrest⟩
  · rw [Tree.at?_mergeAt_of_misses hmiss hz]
    exact hy
  · rw [eq_empty_of_isTable hk hon (hnone k hk hon)] at hz
    rcases Tree.at?_mergeAt_empty hon hz with hsame | ⟨-, hempty⟩
    · rw [hsame]
      exact hy
    · exact .inr ⟨_, hempty, .inl rfl⟩
  · obtain ⟨w, hw, ⟨htable, -⟩ | ⟨hlist, index, rfl⟩⟩ := Tree.exists_at?_mergeAt_of_below hrest hz
    · exact .inr ⟨w, hw, .inl htable⟩
    · exact .inr ⟨w, hw, .inr ⟨hlist, k, hk, index, rest, hrest⟩⟩

/-! ## Fields afterwards -/

variable {f : Field}

/-- **A source that writes the group of a field by names**: it is unambiguous, it gives nothing at the top itself, and it
does not write the group as a list. -/
structure WritesByName (layer : Layer) (f : Field) : Prop where
  unambiguous : layer.Unambiguous
  rooted : layer.IsRooted
  noList : ¬layer.WritesList f

namespace WritesByName

/-- No key goes by number on the way to the field. -/
theorem numbers_eq_false (h : layer.WritesByName f) {k : Place × Tree} (hk : k ∈ layer.keys) :
    k.1.numbers f.path = false := by
  by_contra hnumbers
  exact h.noList (.inr ⟨k, hk, Bool.not_eq_false _ ▸ hnumbers⟩)

/-- No key goes by number on the way to its group. -/
theorem numbers_group_eq_false (h : layer.WritesByName f) {k : Place × Tree} (hk : k ∈ layer.keys) :
    k.1.numbers [f.group] = false := by
  by_contra hnumbers
  have hpath := Place.numbers_append (Bool.not_eq_false _ ▸ hnumbers) [f.name]
  rw [List.singleton_append, ← Field.path, h.numbers_eq_false hk] at hpath
  cases hpath

/-- On the way to the group the keys are at the group. -/
theorem lower_eq_group (h : layer.WritesByName f) {k : Place × Tree} (hk : k ∈ layer.keys)
    (hon : k.1.lower <+: [f.group].map .branch) : k.1.lower = [f.group].map .branch := by
  simp only [List.map_cons, List.map_nil, List.prefix_cons_iff, List.prefix_nil] at hon ⊢
  rcases hon with hnil | ⟨_, hlower, rfl⟩
  · exact (h.rooted.lower_ne_nil hk hnil).elim
  · exact hlower

/-- On the way to the field the keys are at its group or at the field itself. -/
theorem lower_eq_path (h : layer.WritesByName f) {k : Place × Tree} (hk : k ∈ layer.keys)
    (hon : k.1.lower <+: f.path.map .branch) :
    k.1.lower = [f.group].map .branch ∨ k.1.lower = f.path.map .branch := by
  simp only [Field.path, List.map_cons, List.map_nil, List.prefix_cons_iff, List.prefix_nil] at hon ⊢
  rcases hon with hnil | ⟨_, hlower, rfl | ⟨_, rfl, rfl⟩⟩
  · exact (h.rooted.lower_ne_nil hk hnil).elim
  · exact .inl hlower
  · exact .inr hlower

/-- **A group that is no list does not become one.** -/
theorem isList_eq_false (h : layer.WritesByName f) (ht : ∀ w, t.at? [f.group] = some w → w.isList = false)
    (hu : layer.lay t = some u) : ∀ w, u.at? [f.group] = some w → w.isList = false := by
  intro w hw
  cases hgiven : layer.given? [f.group] with
  | some v =>
      obtain rfl : v = w :=
        Option.some.inj ((at?_of_given? h.unambiguous (fun _ => h.numbers_group_eq_false) hgiven hu).symm.trans hw)
      cases v with
      | list ts => exact (h.noList (.inl (by rw [hgiven]; rfl))).elim
      | _ => rfl
  | none =>
      rcases at?_of_not_given? (fun _ => h.numbers_group_eq_false)
        (fun k hk hon => isTable_of_given?_eq_none hgiven hk (h.lower_eq_group hk hon)) hu
        with hsame | ⟨x, hx, htable | ⟨-, k, hk, index, rest, hrest⟩⟩
      · exact ht w (hsame ▸ hw)
      · obtain rfl : x = w := Option.some.inj (hx.symm.trans hw)
        cases x with
        | table => rfl
        | _ => cases htable
      · exact (h.noList (.inr ⟨k, hk, Place.numbers_of_lower hrest f.name⟩)).elim

/-- **A value that is given to the group** takes the place of all its fields. -/
theorem at?_group (h : layer.WritesByName f) (hgiven : layer.given? [f.group] = some v)
    (hu : layer.lay t = some u) : u.at? [f.group] = some v ∧ v.isTable = false ∧ u.at? f.path = none := by
  have hat := at?_of_given? h.unambiguous (fun _ => h.numbers_group_eq_false) hgiven hu
  obtain ⟨-, -, -, -, hvalue⟩ := exists_of_given? hgiven
  refine ⟨hat, hvalue, ?_⟩
  rw [show f.path = [f.group] ++ [f.name] from rfl, Tree.at?_append, hat, Option.bind_some]
  cases v with
  | table => cases hvalue
  | _ => rfl

/-- **A value that is given to the field** stands there. -/
theorem at?_path (h : layer.WritesByName f) (hgiven : layer.given? f.path = some v) (hu : layer.lay t = some u) :
    u.at? f.path = some v :=
  at?_of_given? h.unambiguous (fun _ => h.numbers_eq_false) hgiven hu

/-- **Where no value is given to the field or to its group**, what stands there is left alone, or spoilt. -/
theorem at?_path_of_none (h : layer.WritesByName f) (hgroup : layer.given? [f.group] = none)
    (hfield : layer.given? f.path = none) (hu : layer.lay t = some u) :
    u.at? f.path = t.at? f.path ∨ ∃ w, u.at? f.path = some w ∧ (w.isTable = true ∨ w.isList = true) := by
  refine (at?_of_not_given? (fun _ => h.numbers_eq_false) (fun k hk hon => ?_) hu).imp_right
    fun ⟨w, hw, hkind⟩ => ⟨w, hw, hkind.imp_right And.left⟩
  rcases h.lower_eq_path hk hon with hlower | hlower
  · exact isTable_of_given?_eq_none hgroup hk hlower
  · exact isTable_of_given?_eq_none hfield hk hlower

end WritesByName

end Layer

end NetworkAgent
