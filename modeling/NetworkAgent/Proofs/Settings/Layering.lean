import NetworkAgent.Proofs.Settings.Again
import NetworkAgent.Proofs.Settings.Given

/-! # Which source has the last word

Settings are loaded in two passes. The first lays a file and the environment over the defaults, the second a further
file and the environment over what came of the first. A field has the value of the highest source that gives it one,
although the settings in between were read and written again, unless a source meddles with its group as a whole.

* **`Settings.sources`** — the sources, from the highest; `Settings.Field.highest?` — what they make of a field.
* `Settings.Field.highest?_of_lay` — a field after one pass; `Settings.layered_again` — a pass that is taken again.
* **`Settings.fields_of_override`** — a field after both, and the second pass taken again. -/

namespace NetworkAgent.Settings

/-! ## One pass -/

/-- **When a pass succeeds, and with what.** -/
theorem layered_eq_ok_iff {b s : Settings} {file : SettingsFile} {environment : List (String × String)} :
    layered b file environment = .ok s ↔
      b.Fits ∧ ∃ layer t u, fileLayer file = some layer ∧ layer.lay b.written = some t ∧
        (Layer.ofEnvironment environment).lay t = some u ∧ ofTree u = some s := by
  have hor {α β : Type} (e : SettingsError) (o : Option α) (k : α → Except SettingsError β) (y : β) :
      ((orError e o >>= k) = .ok y) ↔ ∃ a, o = some a ∧ k a = .ok y := by
    cases o with
    | none => exact iff_of_false nofun (fun ⟨_, h, _⟩ => nomatch h)
    | some a => exact ⟨fun h => ⟨a, rfl, h⟩, fun ⟨_, h, hk⟩ => by cases h; exact hk⟩
  have hread (o : Option Settings) : orError .unreadable o = .ok s ↔ o = some s := by
    cases o <;> simp [orError]
  simp only [layered, hor, hread, toTree_eq_some_iff, and_assoc, exists_and_left, exists_eq_left']

/-- A pass over settings that cannot be written fails. -/
theorem layered_eq_error {b : Settings} (h : ¬b.Fits) (file : SettingsFile) (environment : List (String × String)) :
    layered b file environment = .error .unreadable := by
  have hnone : b.toTree = none := by
    rw [Option.eq_none_iff_forall_not_mem]
    exact fun t ht => h ((toTree_eq_some_iff b t).1 ht).1
  rw [layered, hnone]
  rfl

/-- **A field whose group is no list** is read from where it stands, or has its default where nothing does. -/
theorem Field.convert?_of_read? {t : Tree} {f : Field} {x : Value} (hread : f.read? t = some x)
    (hlist : ∀ w, t.at? [f.group] = some w → w.isList = false) :
    (∀ w, t.at? [f.group] = some w → w.isTable = true) ∧
      (t.at? f.path).elim (some (f.get {})) f.convert? = some x := by
  have hgroup : t.at? [f.group] = t.branch? f.group := Option.bind_fun_some _
  have hfield : t.at? f.path = (t.branch? f.group).bind fun u => u.branch? f.name := by
    rw [Field.path, Tree.at?]
    congr 1
    funext u
    exact Option.bind_fun_some _
  rw [hgroup] at hlist ⊢
  rw [hfield]
  rw [Field.read?] at hread
  generalize t.branch? f.group = y at hread hlist ⊢
  cases y with
  | none =>
      refine ⟨fun w hw => ?_, hread⟩
      cases hw
  | some u =>
      cases u with
      | table bs =>
          refine ⟨fun w hw => ?_, hread⟩
          cases hw
          rfl
      | list ts => cases hlist _ rfl
      | _ => cases hread

/-- **What sources make of a field**: the value that the highest of them gives to it, by the type of the field, or what it
was otherwise. The sources are listed from the highest. -/
def Field.highest? (f : Field) (sources : List Layer) (otherwise : Value) : Option Value :=
  (sources.findSome? fun layer => layer.given? f.path).elim (some otherwise) f.convert?

/-- What two sources make of a field. -/
theorem Field.highest?_pair (f : Field) (upper lower : Layer) (otherwise : Value) :
    f.highest? [upper, lower] otherwise =
      ((upper.given? f.path).or (lower.given? f.path)).elim (some otherwise) f.convert? := by
  rw [highest?, List.findSome?_cons, List.findSome?_cons, List.findSome?_nil]
  cases upper.given? f.path <;> cases lower.given? f.path <;> rfl

/-- A lowest source that gives nothing to a field may be left out. -/
theorem Field.highest?_of_given?_eq_none {f : Field} {upper lower : Layer} {otherwise : Value}
    (h : lower.given? f.path = none) : f.highest? [upper, lower] otherwise = f.highest? [upper] otherwise := by
  rw [highest?, highest?, List.findSome?_cons, List.findSome?_cons, h]
  rfl

/-- **Two passes come to one** with all sources, the one that is laid in both above the others. -/
theorem Field.highest?_twice {f : Field} {upper middle lower : Layer} {x y z : Value}
    (hfirst : f.highest? [upper, lower] x = some y) (hsecond : f.highest? [upper, middle] y = some z) :
    f.highest? [upper, middle, lower] x = some z := by
  simp only [highest?, List.findSome?_cons, List.findSome?_nil] at hfirst hsecond ⊢
  cases hupper : upper.given? f.path with
  | some v =>
      rw [hupper] at hsecond
      exact hsecond
  | none =>
      rw [hupper] at hfirst hsecond
      cases hmiddle : middle.given? f.path with
      | some v =>
          rw [hmiddle] at hsecond
          exact hsecond
      | none =>
          rw [hmiddle] at hsecond
          exact hfirst.trans hsecond

variable {f : Field} {b : Settings} {lower upper : Layer} {t u : Tree} {x : Value}

/-- **What a pass makes of a field.** A lower source that gives a value to the group itself sets the field back to its
default. -/
theorem Field.highest?_of_lay (hlower : lower.WritesByName f) (hupper : upper.WritesByName f)
    (ht : lower.lay b.written = some t) (hu : upper.lay t = some u) (hread : f.read? u = some x) :
    f.highest? [upper, lower] (if (lower.given? [f.group]).isSome then f.get {} else f.get b) = some x := by
  rw [Field.highest?_pair]
  have hwritten : ∀ w, b.written.at? [f.group] = some w → w.isList = false := by
    cases f <;> (rintro w ⟨⟩; rfl)
  obtain ⟨htable, hvalue⟩ :=
    Field.convert?_of_read? hread (hupper.isList_eq_false (hlower.isList_eq_false hwritten ht) hu)
  -- neither a table nor a list is read as a field, so none has come to stand there
  have hspoilt (w : Tree) (hw : w.isTable = true ∨ w.isList = true) : u.at? f.path ≠ some w := by
    intro h
    rw [h] at hvalue
    cases hvalue.symm.trans (f.convert?_eq_none hw)
  cases hupperField : upper.given? f.path with
  | some v =>
      rw [hupper.at?_path hupperField hu] at hvalue
      exact hvalue
  | none =>
      -- a value in the place of the group would not have been read, and nothing is laid over the upper source
      have hupperGroup : upper.given? [f.group] = none := by
        by_contra hgiven
        obtain ⟨v, hv⟩ := Option.ne_none_iff_exists'.1 hgiven
        obtain ⟨hat, hnot, -⟩ := hupper.at?_group hv hu
        cases (htable v hat).symm.trans hnot
      have hsame : u.at? f.path = t.at? f.path :=
        (hupper.at?_path_of_none hupperGroup hupperField hu).resolve_right
          fun ⟨w, hw, hkind⟩ => hspoilt w hkind hw
      rw [Option.none_or]
      cases hlowerField : lower.given? f.path with
      | some v =>
          rw [hsame, hlower.at?_path hlowerField ht] at hvalue
          exact hvalue
      | none =>
          cases hlowerGroup : lower.given? [f.group] with
          | some v =>
              -- what the field was is gone with its group
              rw [hsame, (hlower.at?_group hlowerGroup ht).2.2] at hvalue
              exact hvalue
          | none =>
              rcases hlower.at?_path_of_none hlowerGroup hlowerField ht with hkept | ⟨w, hw, hkind⟩
              · rw [hsame, hkept, at?_written] at hvalue
                exact (f.convert?_leaf b).symm.trans hvalue
              · exact (hspoilt w hkind (hsame.trans hw)).elim

/-- **A pass that is taken again**, over what it came to, comes to the same if that can be written. -/
theorem layered_again {b s : Settings} {file : SettingsFile} {environment : List (String × String)}
    (h : layered b file environment = .ok s) (hfits : s.Fits) : layered s file environment = .ok s := by
  rw [layered_eq_ok_iff] at h ⊢
  obtain ⟨-, layer, t, u, hlayer, ht, hu, hread⟩ := h
  -- both sources are laid over `b` as it is written and over `s`, which differs from it in fields only
  obtain ⟨t', ht', halike⟩ := (alike_written b s).lay ht
  obtain ⟨u', hu', halike⟩ := halike.lay hu
  exact ⟨hfits, layer, t', u', hlayer, ht', hu', halike.ofTree hread⟩

/-! ## Both passes -/

/-- **The sources of settings**, from the highest: the environment, the file laid over what was loaded, and the file that
was loaded. -/
def sources (file : SettingsFile) (overrides : String) (environment : List (String × String)) : List Layer :=
  [Layer.ofEnvironment environment, (fileLayer (.present overrides)).getD [], (fileLayer file).getD []]

/-- Settings are loaded by a pass over the defaults; it is not the environment that names the file. -/
theorem layered_of_load {file : SettingsFile} {environment : List (String × String)} {s : Settings}
    (h : load file environment = .ok s) : layered {} file environment = .ok s := by
  rw [load] at h
  cases file with
  | absent =>
      rw [SettingsFile.orNamed] at h
      split at h
      · obtain ⟨-, layer, -, -, hmissing, -⟩ := layered_eq_ok_iff.1 h
        cases hmissing
      · exact h
  | missing => exact h
  | present text => exact h

/-- **A field after both passes, and the second pass taken again.** A field whose group no source writes as a list has the
value of the highest source that gives it one, or else its default; but if the second file gives a value to the group
itself, then what the first file said is lost. What the environment gives to a field is in the variable that is named
`NDK__GROUP__NAME` for it, in letters of either case, if that is not empty. Laid again, the second file changes nothing
if what came of it can be written, and else it cannot be laid. -/
theorem fields_of_override {file : SettingsFile} {overrides : String} {environment : List (String × String)}
    {base s : Settings} (hkeys : ∀ layer ∈ sources file overrides environment, layer.Unambiguous)
    (hload : load file environment = .ok base)
    (hoverride : override base (.present overrides) environment = .ok s) :
    (∀ f : Field, (∀ layer ∈ sources file overrides environment, ¬layer.WritesList f) →
      f.highest?
        (if (((fileLayer (.present overrides)).getD []).given? [f.group]).isSome then
          [Layer.ofEnvironment environment]
        else sources file overrides environment)
        (f.get {}) = some (f.get s)) ∧
    (∀ (f : Field) (name value : String), (name, value) ∈ environment →
      Tree.lowerCase name = "ndk__" ++ f.group ++ "__" ++ f.name → value ≠ "" →
      (Layer.ofEnvironment environment).given? f.path = some (Layer.ofText value)) ∧
    (s.Fits → override s (.present overrides) environment = .ok s) ∧
    (¬s.Fits → override s (.present overrides) environment = .error .unreadable) := by
  have hvariables : (Layer.ofEnvironment environment).Unambiguous := hkeys _ List.mem_cons_self
  refine ⟨fun f hlist => ?_, fun f _ _ => Layer.given?_ofEnvironment f hvariables, layered_again hoverride,
    fun h => layered_eq_error h _ environment⟩
  obtain ⟨-, first, t, u, hfirst, ht, hu, hbase⟩ := layered_eq_ok_iff.1 (layered_of_load hload)
  obtain ⟨-, second, v, w, hsecond, hv, hw, hs⟩ := layered_eq_ok_iff.1 hoverride
  simp only [sources, hfirst, hsecond, Option.getD_some, List.forall_mem_cons] at hkeys hlist ⊢
  have henvironment : (Layer.ofEnvironment environment).WritesByName f :=
    ⟨hkeys.1, Layer.isRooted_ofEnvironment environment, hlist.1⟩
  have hmiddle : second.WritesByName f := ⟨hkeys.2.1, Layer.isRooted_of_fileLayer hsecond, hlist.2.1⟩
  have hlower : first.WritesByName f := ⟨hkeys.2.2.1, Layer.isRooted_of_fileLayer hfirst, hlist.2.2.1⟩
  have hpass := Field.highest?_of_lay hmiddle henvironment hv hw ((ofTree_eq_some_iff w s).1 hs f)
  cases hgroup : second.given? [f.group] with
  | some x =>
      -- beside the value of the group the second file cannot have one of the field
      have hfield : second.given? f.path = none := by
        by_contra hgiven
        obtain ⟨y, hy⟩ := Option.ne_none_iff_exists'.1 hgiven
        cases (hmiddle.at?_path hy hv).symm.trans (hmiddle.at?_group hgroup hv).2.2
      rw [hgroup, Field.highest?_of_given?_eq_none hfield] at hpass
      exact hpass
  | none =>
      -- what the first pass made of the field is what the second found
      have hearlier := Field.highest?_of_lay hlower henvironment ht hu ((ofTree_eq_some_iff u base).1 hbase f)
      rw [ite_self] at hearlier
      rw [hgroup] at hpass
      exact Field.highest?_twice hearlier hpass

/-- A file to load. -/
def loadedText : String :=
  "[ndk]\naddress = 'http://10.0.0.1:50053'\n[gnmi]\nusername = 'loaded'\npassword = 'loaded'\n"

/-- A file to lay over it. -/
def overridingText : String :=
  "[GNMI]\nusername = 'overriding'\npassword = 'overriding'\n[retry]\ninterval_in_ms = '100'\n"

/-- An environment that gives one field a value; the other variable is empty. -/
def namingEnvironment : List (String × String) :=
  [("NDK__GNMI__Username", "operator"), ("NDK__NDK__ADDRESS", "")]

/-- What is loaded of the file and the environment. -/
def loadedSettings : Settings :=
  { daemon := { address := "http://10.0.0.1:50053" }, management := { username := "operator", password := "loaded" } }

/-- What comes of it under the other file. -/
def overriddenSettings : Settings :=
  { daemon := { address := "http://10.0.0.1:50053" }
    management := { username := "operator", password := "overriding" }
    retry := { interval := 100 } }

/-- Three sources that give values to some fields each, and to one of them all. -/
theorem fields_of_override_three :
    (∀ layer ∈ sources (.present loadedText) overridingText namingEnvironment, layer.Unambiguous) ∧
    load (.present loadedText) namingEnvironment = .ok loadedSettings ∧
    override loadedSettings (.present overridingText) namingEnvironment = .ok overriddenSettings ∧
    (∀ f : Field, f.highest? (sources (.present loadedText) overridingText namingEnvironment) (f.get {}) =
      some (f.get overriddenSettings)) ∧
    (Layer.ofEnvironment namingEnvironment).given? ["gnmi", "username"] = some (Layer.ofText "operator") ∧
    override overriddenSettings (.present overridingText) namingEnvironment = .ok overriddenSettings := by
  have hkeys : ∀ layer ∈ sources (.present loadedText) overridingText namingEnvironment, layer.Unambiguous := by
    decide +kernel
  have hload : load (.present loadedText) namingEnvironment = .ok loadedSettings := by decide +kernel
  have hoverride : override loadedSettings (.present overridingText) namingEnvironment = .ok overriddenSettings := by
    decide +kernel
  have hnames : ∀ f ∈ Field.all,
      (∀ layer ∈ sources (.present loadedText) overridingText namingEnvironment, ¬layer.WritesList f) ∧
      (((fileLayer (.present overridingText)).getD []).given? [f.group]).isSome = false := by decide +kernel
  obtain ⟨hfields, hvariable, hagain, -⟩ := fields_of_override hkeys hload hoverride
  have hname : Tree.lowerCase "NDK__GNMI__Username" = "ndk__" ++ Field.username.group ++ "__" ++ Field.username.name := by
    decide +kernel
  have hgiven := hvariable .username "NDK__GNMI__Username" "operator" List.mem_cons_self hname (by decide)
  refine ⟨hkeys, hload, hoverride, fun f => ?_, hgiven, hagain fun f n hn => ?_⟩
  · obtain ⟨hlist, hgroup⟩ := hnames f f.mem_all
    have hfield := hfields f hlist
    rw [hgroup] at hfield
    exact hfield
  · cases f <;> cases hn <;> decide

/-- **What goes wrong otherwise**: a field that only the first file gives is lost with its group, a field is set by its
position in a list, and a number is read that cannot be written again. -/
theorem fields_of_override_limits :
    ((∀ layer ∈ sources (.present "[ndk]\nconnect_timeout_in_ms = 7\n") "ndk = 5\n"
          [("NDK__NDK__ADDRESS", "http://127.0.0.1:50054")], layer.Unambiguous) ∧
      load (.present "[ndk]\nconnect_timeout_in_ms = 7\n") [("NDK__NDK__ADDRESS", "http://127.0.0.1:50054")] =
        .ok { daemon := { address := "http://127.0.0.1:50054", connectTimeout := 7 } } ∧
      override { daemon := { address := "http://127.0.0.1:50054", connectTimeout := 7 } } (.present "ndk = 5\n")
          [("NDK__NDK__ADDRESS", "http://127.0.0.1:50054")] =
        .ok { daemon := { address := "http://127.0.0.1:50054", connectTimeout := 2000 } } ∧
      Field.daemonConnectTimeout.highest? (sources (.present "[ndk]\nconnect_timeout_in_ms = 7\n") "ndk = 5\n"
          [("NDK__NDK__ADDRESS", "http://127.0.0.1:50054")]) (.number 2000) = some (.number 7)) ∧
    ((∀ layer ∈ sources (.present "ndk = ['x']\n") "" [], layer.Unambiguous) ∧
      load (.present "ndk = ['x']\n") [] = .ok { daemon := { address := "x" } } ∧
      override { daemon := { address := "x" } } (.present "") [] = .ok { daemon := { address := "x" } } ∧
      Field.daemonAddress.highest? (sources (.present "ndk = ['x']\n") "" []) (.text "http://127.0.0.1:50053") =
        some (.text "http://127.0.0.1:50053")) ∧
    ((∀ layer ∈ sources .absent "[retry]\ninterval_in_ms = '18446744073709551615'\n" [], layer.Unambiguous) ∧
      load .absent [] = .ok {} ∧
      override {} (.present "[retry]\ninterval_in_ms = '18446744073709551615'\n") [] =
        .ok { retry := { interval := 18446744073709551615 } } ∧
      override { retry := { interval := 18446744073709551615 } }
          (.present "[retry]\ninterval_in_ms = '18446744073709551615'\n") [] = .error .unreadable) := by
  decide +kernel

end NetworkAgent.Settings
