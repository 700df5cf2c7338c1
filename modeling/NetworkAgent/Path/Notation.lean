/-!
# The two notations for a node

An application addresses a node of the configuration tree by an **XPath**,
`/network-instance[name=default]/protocols`. The daemon addresses the same node by a **JSPath**,
`.network_instance{.name=="default"}.protocols`. Both are read in one pass, and each pass keeps
track of the *region* of the text that it is in: an element name, the key of a predicate, or its value.

* `XPath.toJsPath` turns the first notation into the second, `JsPath.toXPath` the second into the first.
* Keys and values of predicates are copied character for character; only the separators between
  elements and the dashes of element names are respelled.
* `commitEnd` is the JSPath of the notification that closes a commit.
-/

namespace NetworkAgent

/-- JSPath of the notification that closes a configuration commit. -/
def commitEnd : String := ".commit.end"

namespace XPath

/-- Where in an XPath a character stands. -/
inductive Region where
  /-- outside every predicate -/
  | name
  /-- after `[`, before the first `=` -/
  | key
  /-- after the first `=` of a predicate -/
  | value
  deriving DecidableEq, Repr

/-- Respells the rest of an XPath, read from the given region, as a JSPath. -/
def respell : Region → List Char → List Char
  | _, [] => []
  | .name, c :: r =>
    if c = '[' then '{' :: '.' :: respell .key r
    else if c = '/' then '.' :: respell .name r
    else if c = '-' then '_' :: respell .name r
    else c :: respell .name r
  | .key, c :: r =>
    if c = ']' then '"' :: '}' :: respell .name r
    else if c = '=' then '=' :: '=' :: '"' :: respell .value r
    else c :: respell .key r
  | .value, c :: r =>
    if c = ']' then '"' :: '}' :: respell .name r
    else c :: respell .value r

/-- The JSPath of the node that an XPath addresses: `/` becomes `.`, a dash in a name becomes `_`,
and the predicate `[k=v]` is written with a dotted key and a quoted value. -/
def toJsPath (path : String) : String := String.ofList (respell .name path.toList)

/-- Nothing is respelled as nothing, in whatever region. -/
@[simp] theorem respell_nil (g : Region) : respell g [] = [] := by cases g <;> rfl

end XPath

namespace JsPath

/-- Where in a JSPath a character stands. -/
inductive Region where
  /-- outside every predicate -/
  | name
  /-- after the opening of a predicate, before its `==` -/
  | key
  /-- in a value that opened with a quote, and so ends at a quote before the closing brace -/
  | quoted
  /-- in a value without quotes, which ends at the closing brace -/
  | bare
  deriving DecidableEq, Repr

/-- Respells the rest of a JSPath, read from the given region, as an XPath. A token of two or three
characters that is cut off by the end of the text stands for itself. -/
def respell : Region → List Char → List Char
  | _, [] => []
  | .name, '{' :: '.' :: r => '[' :: respell .key r
  | .name, c :: r =>
    if c = '.' then '/' :: respell .name r
    else if c = '_' then '-' :: respell .name r
    else c :: respell .name r
  | .key, '=' :: '=' :: '"' :: r => '=' :: respell .quoted r
  | .key, '=' :: '=' :: r => '=' :: respell .bare r
  | .key, c :: r => if c = '}' then ']' :: respell .name r else c :: respell .key r
  | .quoted, '"' :: '}' :: r => ']' :: respell .name r
  | .quoted, c :: r => c :: respell .quoted r
  | .bare, c :: r => if c = '}' then ']' :: respell .name r else c :: respell .bare r

/-- The XPath of the node that a JSPath addresses: the inverse spelling of `XPath.toJsPath`. -/
def toXPath (path : String) : String := String.ofList (respell .name path.toList)

/-- Nothing is respelled as nothing, in whatever region. -/
@[simp] theorem respell_nil (g : Region) : respell g [] = [] := by cases g <;> rfl

/-- Outside predicates, a character that does not open one is respelled by itself. -/
theorem respell_name_cons {c : Char} {r : List Char} (h : c = '{' → ∀ r', r ≠ '.' :: r') :
    respell .name (c :: r)
      = (if c = '.' then '/' else if c = '_' then '-' else c) :: respell .name r := by
  rw [respell]
  · split
    · rfl
    · split <;> rfl
  · intro r' hc hr
    exact h hc r' hr

/-- What is respelled from the start never starts with a dot. -/
theorem head?_respell_name_ne (s : List Char) : (respell .name s).head? ≠ some '.' := by
  cases s with
  | nil => nofun
  | cons c r =>
    by_cases h : c = '{' ∧ ∃ r', r = '.' :: r'
    · obtain ⟨rfl, r', rfl⟩ := h
      nofun
    · rw [respell_name_cons fun hc r' hr => h ⟨hc, r', hr⟩, List.head?_cons]
      intro hd
      by_cases hc : c = '.'
      · rw [if_pos hc] at hd
        exact absurd hd (by decide)
      · rw [if_neg hc] at hd
        split at hd
        · exact absurd hd (by decide)
        · exact hc (Option.some.inj hd)

end JsPath

end NetworkAgent
