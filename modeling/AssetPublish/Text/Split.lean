/-!
# Fields of a separated text

Cutting always leaves at least one field, and an empty one for each separator that has nothing on
its side.  So joining is an inverse without exceptions in one direction, and in the other it needs
fields that do not hold the separator.  Paths, patterns and printed lines are all cut in this way.

## What is here

* `splitChars sep cs` and `joinChars sep fields` — cutting a list of characters at every
  occurrence of a separator, and putting the fields together again.
* `joinChars_splitChars` — nothing is lost by cutting.
* `splitChars_joinChars` — fields without the separator are found again.
* `fields`, `joined` — the two on texts.
* `strip` — a text without the separators at its two ends.
-/

set_option autoImplicit false

namespace AssetPublish
namespace Text

/-- The fields of `cs` between occurrences of `sep`, in order; empty fields are kept. -/
def splitChars (sep : Char) : List Char → List (List Char)
  | [] => [[]]
  | c :: rest =>
    if c = sep then [] :: splitChars sep rest
    else match splitChars sep rest with
      | [] => [[c]]
      | field :: others => (c :: field) :: others

/-- The fields with one `sep` between neighbours. -/
def joinChars (sep : Char) : List (List Char) → List Char
  | [] => []
  | [field] => field
  | field :: next :: others => field ++ sep :: joinChars sep (next :: others)

/-- The fields of a text between occurrences of `sep`. -/
def fields (sep : Char) (text : String) : List String :=
  (splitChars sep text.toList).map String.ofList

/-- The texts with one `sep` between neighbours. -/
def joined (sep : Char) (parts : List String) : String :=
  String.ofList (joinChars sep (parts.map String.toList))

/-- A list without the occurrences of `sep` at its two ends. -/
def stripChars (sep : Char) (cs : List Char) : List Char :=
  ((cs.dropWhile (· == sep)).reverse.dropWhile (· == sep)).reverse

/-- A text without the occurrences of `sep` at its two ends. -/
def strip (sep : Char) (text : String) : String := String.ofList (stripChars sep text.toList)

/-! ## Cutting and joining are inverse -/

theorem splitChars_ne_nil (sep : Char) (cs : List Char) : splitChars sep cs ≠ [] := by
  cases cs with
  | nil => simp [splitChars]
  | cons c rest =>
    rw [splitChars]
    split
    · simp
    · split <;> simp

theorem splitChars_cons_of_ne {sep c : Char} (h : c ≠ sep) (rest : List Char) :
    ∃ field others, splitChars sep rest = field :: others ∧
      splitChars sep (c :: rest) = (c :: field) :: others := by
  cases hs : splitChars sep rest with
  | nil => exact absurd hs (splitChars_ne_nil sep rest)
  | cons field others => exact ⟨field, others, rfl, by simp [splitChars, h, hs]⟩

/-- Cutting and joining again gives the text back. -/
theorem joinChars_splitChars (sep : Char) (cs : List Char) :
    joinChars sep (splitChars sep cs) = cs := by
  induction cs with
  | nil => rfl
  | cons c rest ih =>
    by_cases h : c = sep
    · subst h
      rw [splitChars, if_pos rfl]
      cases hs : splitChars c rest with
      | nil => exact absurd hs (splitChars_ne_nil c rest)
      | cons field others => rw [joinChars, ← hs, ih]; rfl
    · obtain ⟨field, others, hs, hc⟩ := splitChars_cons_of_ne h rest
      rw [hc]
      rw [hs] at ih
      cases others with
      | nil => simpa [joinChars] using ih
      | cons next more => simpa [joinChars] using ih

/-- No field holds the separator. -/
theorem not_mem_of_mem_splitChars {sep : Char} {cs field : List Char}
    (h : field ∈ splitChars sep cs) : sep ∉ field := by
  induction cs generalizing field with
  | nil => simp only [splitChars, List.mem_singleton] at h; subst h; simp
  | cons c rest ih =>
    by_cases hc : c = sep
    · subst hc
      rw [splitChars, if_pos rfl, List.mem_cons] at h
      rcases h with rfl | h
      · simp
      · exact ih h
    · obtain ⟨first, others, hs, hcons⟩ := splitChars_cons_of_ne hc rest
      rw [hcons, List.mem_cons] at h
      rcases h with rfl | h
      · have hfirst : sep ∉ first := ih (by rw [hs]; exact List.mem_cons_self)
        simp [hfirst, Ne.symm hc]
      · exact ih (by rw [hs]; exact List.mem_cons_of_mem _ h)

/-- The characters of a field are those of the text. -/
theorem mem_of_mem_splitChars {sep c : Char} {cs field : List Char}
    (h : field ∈ splitChars sep cs) (hmem : c ∈ field) : c ∈ cs := by
  induction cs generalizing field with
  | nil => simp only [splitChars, List.mem_singleton] at h; subst h; simp at hmem
  | cons first rest ih =>
    by_cases hfirst : first = sep
    · rw [splitChars, if_pos hfirst, List.mem_cons] at h
      rcases h with rfl | h
      · simp at hmem
      · exact List.mem_cons_of_mem _ (ih h hmem)
    · obtain ⟨begun, others, hs, hcons⟩ := splitChars_cons_of_ne hfirst rest
      rw [hcons, List.mem_cons] at h
      rcases h with rfl | h
      · rcases List.mem_cons.1 hmem with rfl | hmem
        · exact List.mem_cons_self
        · exact List.mem_cons_of_mem _ (ih (by rw [hs]; exact List.mem_cons_self) hmem)
      · exact List.mem_cons_of_mem _ (ih (by rw [hs]; exact List.mem_cons_of_mem _ h) hmem)

theorem splitChars_of_not_mem {sep : Char} {cs : List Char} (h : sep ∉ cs) :
    splitChars sep cs = [cs] := by
  induction cs with
  | nil => rfl
  | cons c rest ih =>
    rw [List.mem_cons, not_or] at h
    rw [splitChars, if_neg (Ne.symm h.1), ih h.2]

theorem splitChars_append_sep {sep : Char} {field : List Char} (h : sep ∉ field)
    (rest : List Char) : splitChars sep (field ++ sep :: rest) = field :: splitChars sep rest := by
  induction field with
  | nil => simp [splitChars]
  | cons c field ih =>
    rw [List.mem_cons, not_or] at h
    rw [List.cons_append, splitChars, if_neg (Ne.symm h.1), ih h.2]

/-- Joining fields that do not hold the separator and cutting again gives the fields back. -/
theorem splitChars_joinChars {sep : Char} {parts : List (List Char)} (hne : parts ≠ [])
    (h : ∀ field ∈ parts, sep ∉ field) : splitChars sep (joinChars sep parts) = parts := by
  induction parts with
  | nil => exact absurd rfl hne
  | cons field others ih =>
    have hfield : sep ∉ field := h field List.mem_cons_self
    cases others with
    | nil => exact splitChars_of_not_mem hfield
    | cons next more =>
      rw [joinChars, splitChars_append_sep hfield,
        ih (by simp) (fun part hpart => h part (List.mem_cons_of_mem _ hpart))]

end Text
end AssetPublish
