import AssetPublish.FileSystem.Walk

/-!
# Spelled paths and their components

A path is handed to the system as a text, which cuts it into components again.  For a path in its
normal spelling this gives back the components of the path, so that following the text of a path is
following its components.

There are two ways of cutting a text here.  A `Path` drops components that are empty or a single
dot; the system drops empty ones only, keeps one for a slash at the end, and treats dots when it
meets them.  On normal spellings the two agree.

## What is here

* `Text.fields_joined` — joining and cutting, on texts.
* `segments_joined`, `Path.append_fields` — a relative spelling has the components that it was
  joined from.
* `Path.steps_text`, `Path.startOf_text` — the components and the start that the system sees.
* `Text.size_joined_append`, `Path.null_mem_text_iff` — the length of a spelling and the zero
  character in it.
* `Path.place` — the place that a path spells if no link is met on the way.
-/

set_option autoImplicit false

namespace AssetPublish

/-! ## Joined texts

Joining with a separator and cutting at it are inverse to each other on fields that do not hold the
separator. -/

namespace Text

/-- Fields that do not hold the separator are found again after they were joined. -/
theorem fields_joined {sep : Char} {parts : List String} (hne : parts ≠ [])
    (h : ∀ part ∈ parts, sep ∉ part.toList) : fields sep (joined sep parts) = parts := by
  rw [fields, joined, String.toList_ofList,
    splitChars_joinChars (by simpa using hne) (by simpa using h)]
  simp

/-- Cutting a text at a separator and cutting both parts is cutting the whole. -/
theorem splitChars_append (sep : Char) (a b : List Char) :
    splitChars sep (a ++ sep :: b) = splitChars sep a ++ splitChars sep b := by
  induction a with
  | nil => simp [splitChars]
  | cons c a ih =>
    by_cases hc : c = sep
    · subst hc
      rw [List.cons_append, splitChars, if_pos rfl, ih, splitChars, if_pos rfl, List.cons_append]
    · obtain ⟨field, others, ha, hcons⟩ := splitChars_cons_of_ne hc a
      rw [List.cons_append, splitChars, if_neg hc, ih, ha, hcons, List.cons_append, List.cons_append]

/-- A text that goes on behind a slash has the fields of both parts. -/
theorem fields_append (a b : String) :
    fields '/' (a ++ "/" ++ b) = fields '/' a ++ fields '/' b := by
  have hslash : "/".toList = ['/'] := by decide
  rw [fields, String.toList_append, String.toList_append, hslash, List.append_assoc,
    List.singleton_append, splitChars_append, List.map_append, fields, fields]

theorem fields_cons_sep (sep : Char) (cs : List Char) :
    fields sep (String.ofList (sep :: cs)) = "" :: fields sep (String.ofList cs) := by
  simp [fields, splitChars]

theorem joinChars_append {sep : Char} {a b : List (List Char)} (ha : a ≠ []) (hb : b ≠ []) :
    joinChars sep (a ++ b) = joinChars sep a ++ sep :: joinChars sep b := by
  induction a with
  | nil => exact absurd rfl ha
  | cons first rest ih =>
    cases rest with
    | nil =>
      cases b with
      | nil => exact absurd rfl hb
      | cons next more => rw [List.singleton_append, joinChars, joinChars]
    | cons second rest =>
      rw [List.cons_append, List.cons_append, joinChars, ← List.cons_append, ih (by simp),
        joinChars, List.append_assoc, List.cons_append]

/-- Joining adds no characters but the separator, and leaves none out. -/
theorem mem_joinChars {sep c : Char} {parts : List (List Char)} (h : c ∈ joinChars sep parts) :
    c = sep ∨ ∃ part ∈ parts, c ∈ part := by
  induction parts with
  | nil => simp [joinChars] at h
  | cons first rest ih =>
    cases rest with
    | nil => exact Or.inr ⟨first, List.mem_cons_self, h⟩
    | cons second rest =>
      rw [joinChars, List.mem_append, List.mem_cons] at h
      rcases h with h | rfl | h
      · exact Or.inr ⟨first, List.mem_cons_self, h⟩
      · exact Or.inl rfl
      · rcases ih h with h | ⟨part, hpart, hc⟩
        · exact Or.inl h
        · exact Or.inr ⟨part, List.mem_cons_of_mem _ hpart, hc⟩

theorem mem_joinChars_of_mem {sep c : Char} {parts : List (List Char)} {part : List Char}
    (hpart : part ∈ parts) (hc : c ∈ part) : c ∈ joinChars sep parts := by
  induction parts with
  | nil => simp at hpart
  | cons first rest ih =>
    cases rest with
    | nil => rw [List.mem_singleton] at hpart; subst hpart; exact hc
    | cons second rest =>
      rw [joinChars, List.mem_append, List.mem_cons]
      rcases List.mem_cons.1 hpart with rfl | hpart
      · exact Or.inl hc
      · exact Or.inr (Or.inr (ih hpart))

theorem head?_joinChars {sep : Char} {first : List Char} {rest : List (List Char)}
    (h : first ≠ []) : (joinChars sep (first :: rest)).head? = first.head? := by
  cases rest with
  | nil => rfl
  | cons second rest =>
    rw [joinChars, List.head?_append]
    obtain ⟨c, cs, hcons⟩ := List.exists_cons_of_ne_nil h
    rw [hcons]
    rfl

/-- The length of a joined text, with one byte for the separator in between. -/
theorem size_joined_append {a b : List String} (ha : a ≠ []) (hb : b ≠ []) :
    (joined '/' (a ++ b)).utf8ByteSize
      = (joined '/' a).utf8ByteSize + 1 + (joined '/' b).utf8ByteSize := by
  have hslash : ∀ cs : List Char, (String.ofList ('/' :: cs)).utf8ByteSize
      = 1 + (String.ofList cs).utf8ByteSize := by
    intro cs
    have hone : (String.ofList ['/']).utf8ByteSize = 1 := by decide
    rw [← List.singleton_append, String.ofList_append, String.utf8ByteSize_append, hone]
  rw [joined, joined, joined, List.map_append,
    joinChars_append (by simpa using ha) (by simpa using hb), String.ofList_append,
    String.utf8ByteSize_append, hslash, Nat.add_assoc]

end Text

/-! ## Components of a spelling

The slashes in front of a spelling tell where it starts, and what stands between the others are the
components. -/

theorem IsName.slash_not_mem {name : String} (h : IsName name) : '/' ∉ name.toList := h.2.2

theorem IsName.toList_ne_nil {name : String} (h : IsName name) : name.toList ≠ [] :=
  fun hnil => h.1 (String.toList_eq_nil_iff.1 hnil)

theorem IsFileName.isName {name : String} (h : IsFileName name) : IsName name := h.1

/-- Where a text joined from names starts: not with a slash. -/
theorem head?_toList_joined {names : List String} (h : ∀ name ∈ names, IsName name) :
    (Text.joined '/' names).toList.head? ≠ some '/' := by
  rw [Text.joined, String.toList_ofList]
  cases names with
  | nil => simp [Text.joinChars]
  | cons first rest =>
    have hfirst := h first List.mem_cons_self
    rw [List.map_cons, Text.head?_joinChars hfirst.toList_ne_nil]
    exact fun hhead => hfirst.slash_not_mem (List.mem_of_mem_head? (by rw [hhead]; rfl))

theorem Anchor.ofChars_of_head? {cs : List Char} (h : cs.head? ≠ some '/') :
    Anchor.ofChars cs = .relative := by
  unfold Anchor.ofChars
  split
  · simp at h
  · simp at h
  · simp at h
  · rfl

theorem Anchor.ofChars_rooted {cs : List Char} (h : cs.head? ≠ some '/') :
    Anchor.ofChars ('/' :: cs) = .root := by
  unfold Anchor.ofChars
  split
  · rename_i heq; simp_all
  · rename_i heq; simp_all
  · rfl
  · rename_i hnot; exact absurd rfl (hnot cs)

theorem Path.names_append (a b : List String) :
    Path.names (a ++ b) = Path.names a ++ Path.names b :=
  List.filter_append ..

theorem Path.ofText_parts (text : String) :
    (Path.ofText text).parts = Path.names (Text.fields '/' text) :=
  rfl

/-- A text behind a slash spells a path from the root. -/
theorem ofText_rooted {text : String} (h : text.toList.head? ≠ some '/') :
    (Path.ofText ("/" ++ text)).anchor = .root ∧
      (Path.ofText ("/" ++ text)).parts = Path.names (Text.fields '/' text) := by
  have hslash : "/".toList = ['/'] := by decide
  refine ⟨?_, ?_⟩
  · rw [Path.ofText, String.toList_append, hslash, List.singleton_append]
    exact Anchor.ofChars_rooted h
  · have hempty : "/" ++ text = "" ++ "/" ++ text := by rw [String.empty_append]
    have hfields : Text.fields '/' ("/" ++ text) = "" :: Text.fields '/' text := by
      rw [hempty, Text.fields_append]
      rfl
    rw [Path.ofText_parts, hfields]
    rfl

/-- A text joined from names spells the relative path with these components. -/
theorem Path.names_fields_joined {names : List String} (h : ∀ name ∈ names, IsName name) :
    Path.names (Text.fields '/' (Text.joined '/' names)) = names := by
  by_cases hne : names = []
  · subst hne; rfl
  · rw [Text.fields_joined hne fun name hname => (h name hname).slash_not_mem]
    exact Path.names_eq_self h

/-- Names that are joined and cut again are the same names. -/
theorem segments_joined {names : List String} (h : ∀ name ∈ names, IsName name) :
    segments (Text.joined '/' names) = names := by
  have hanchor : (Path.ofText (Text.joined '/' names)).anchor = .relative :=
    Anchor.ofChars_of_head? (head?_toList_joined h)
  rw [segments]
  simp only [hanchor]
  exact Path.names_fields_joined h

namespace Path

/-- Going on by a relative spelling is going on by its names. -/
theorem append_fields {names : List String} (h : ∀ name ∈ names, IsName name) (path : Path) :
    path.append (Text.fields '/' (Text.joined '/' names)) = path.append names := by
  ext1
  · rfl
  · rw [append_parts, append_parts, names_fields_joined h, names_eq_self h]

theorem append_append {a b : List String} (path : Path) :
    (path.append a).append b = path.append (a ++ b) := by
  ext1
  · rfl
  · simp [names]

@[simp] theorem append_nil (path : Path) : path.append [] = path := by
  ext1
  · rfl
  · simp [names]

theorem text_eq_spelling {path : Path} (h : path.parts ≠ []) : path.text = path.spelling := by
  rw [text, if_neg fun hand => h hand.2]

theorem text_of_relative {path : Path} (hanchor : path.anchor = .relative) (h : path.parts ≠ []) :
    path.text = Text.joined '/' path.parts := by
  rw [text_eq_spelling h, spelling, hanchor, Anchor.text, String.empty_append]

/-- A spelling has the components of the path, behind an empty one for each slash in front. -/
theorem fields_spelling {path : Path} (h : path.parts ≠ []) :
    ∃ front : List String, (∀ part ∈ front, part = "") ∧
      Text.fields '/' path.spelling = front ++ path.parts := by
  have hfields : Text.fields '/' (Text.joined '/' path.parts) = path.parts :=
    Text.fields_joined h fun part hpart => (path.isName part hpart).slash_not_mem
  have hslash : ∀ text : String, Text.fields '/' ("/" ++ text) = "" :: Text.fields '/' text := by
    intro text
    have hcons := Text.fields_cons_sep '/' text.toList
    rw [String.ofList_toList] at hcons
    rw [← hcons]
    congr 1
    rw [← String.toList_inj]
    simp
  rw [spelling]
  cases path.anchor with
  | relative => exact ⟨[], by simp, by rw [Anchor.text, String.empty_append, hfields]; rfl⟩
  | root => exact ⟨[""], by simp, by rw [Anchor.text, hslash, hfields]; rfl⟩
  | doubleRoot =>
    refine ⟨["", ""], by simp, ?_⟩
    rw [Anchor.text, show "//" = "/" ++ "/" from rfl, String.append_assoc, hslash, hslash, hfields]
    rfl

/-- The components of a path without any are a dot, or what slashes leave. -/
theorem fields_text_of_nil {path : Path} (h : path.parts = []) :
    ∀ part ∈ Text.fields '/' path.text, part = "" ∨ part = "." := by
  rw [text, spelling, h]
  cases path.anchor with
  | relative => decide
  | root => decide
  | doubleRoot => decide

/-- The components that the system sees are those of the path. -/
theorem steps_text {path : Path} (h : path.parts ≠ []) : steps path.text = path.parts := by
  obtain ⟨front, hfront, hfields⟩ := fields_spelling h
  have hfrontKept : front.filter (fun part => part ≠ "") = [] :=
    List.filter_eq_nil_iff.2 fun part hpart => by simp [hfront part hpart]
  have hkept : path.parts.filter (fun part => part ≠ "") = path.parts :=
    List.filter_eq_self.2 fun part hpart => by simpa using (path.isName part hpart).1
  have hlast : (front ++ path.parts).getLast? ≠ some "" := by
    rw [List.getLast?_append, List.getLast?_eq_some_getLast h]
    intro hlast
    exact (path.isName _ (List.getLast_mem h)).1 (by simpa using hlast)
  rw [steps, text_eq_spelling h, hfields]
  simp only [List.filter_append, hfrontKept, hkept, List.nil_append]
  rw [if_neg fun hand => hlast hand.1]

/-- The same without anchor and components: nothing is left of the slashes, and the dot stays. -/
theorem steps_text_of_nil {path : Path} (h : path.parts = []) :
    steps path.text = if path.anchor = .relative then ["."] else [] := by
  rw [text, spelling, h]
  cases path.anchor with
  | relative => rfl
  | root => rfl
  | doubleRoot => rfl

/-- Where following a path starts. -/
def start (caller : Caller) (path : Path) : Location :=
  if path.anchor = .relative then caller.workingDirectory else []

/-- The place that a path spells if no link is met on the way.  Two dots are taken as a name here,
so for a path that steps up this is no place of the tree; the statements that use it are about paths
of proper names. -/
def place (caller : Caller) (path : Path) : Location := path.parts.reverse ++ path.start caller

@[simp] theorem start_append (caller : Caller) (path : Path) (parts : List String) :
    (path.append parts).start caller = path.start caller := rfl

/-- A spelling starts with a slash just if the path does not start at the working directory. -/
theorem isAbsolute_text (path : Path) : isAbsolute path.text = decide (path.anchor ≠ .relative) := by
  rw [isAbsolute, text, spelling]
  cases hanchor : path.anchor with
  | relative =>
    by_cases hparts : path.parts = []
    · simp [hparts]
    · have hhead := head?_toList_joined path.isName
      simpa [hparts, Anchor.text] using hhead
  | root => simp [Anchor.text]
  | doubleRoot => simp [Anchor.text]

theorem startOf_text (caller : Caller) (path : Path) :
    FileSystem.startOf caller path.text = path.start caller := by
  rw [FileSystem.startOf, isAbsolute_text, start]
  by_cases h : path.anchor = .relative <;> simp [h]

/-! ## The zero character and the length

Both are asked of a spelling by the system, and are told here by the components. -/

theorem null_not_mem_anchor (anchor : Anchor) : '\x00' ∉ anchor.text.toList := by
  cases anchor <;> decide

/-- The zero character is in a spelling if it is in a component. -/
theorem null_mem_text_iff {path : Path} :
    '\x00' ∈ path.text.toList ↔ ∃ part ∈ path.parts, '\x00' ∈ part.toList := by
  by_cases h : path.parts = []
  · rw [text, spelling, h]
    cases path.anchor <;> simp [Anchor.text, Text.joined, Text.joinChars]
  · rw [text_eq_spelling h, spelling, String.toList_append, List.mem_append, Text.joined,
      String.toList_ofList]
    constructor
    · rintro (hanchor | hjoined)
      · exact absurd hanchor (null_not_mem_anchor _)
      · rcases Text.mem_joinChars hjoined with hsep | ⟨chars, hchars, hmem⟩
        · exact absurd hsep (by decide)
        · obtain ⟨part, hpart, rfl⟩ := List.mem_map.1 hchars
          exact ⟨part, hpart, hmem⟩
    · rintro ⟨part, hpart, hmem⟩
      exact Or.inr (Text.mem_joinChars_of_mem (List.mem_map_of_mem hpart) hmem)

end Path
end AssetPublish
