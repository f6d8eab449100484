import AssetPublish.Proofs.Reporting
import Mathlib.Data.List.Basic

/-!
# Codes of pictographs

A message asks for a pictograph by its name between two colons, whether or not its author meant to.
Where a text holds no such code all its characters are kept.  Where it holds one, the code is lost:
no pictograph has a colon in it, so that a text has two colons fewer for each code that is replaced,
and no later step of printing brings one back.

Colons are counted, and not positions compared, since a pictograph may be longer or shorter than its
name and everything behind it moves.  The number of colons is a measure that all later steps of
printing respect: filling up tabs, leaving out control characters and cutting lines never add one.
So a text that is printed with as many colons as it has cannot have lost a code, and a text that is
printed as it is has none.

## What is here

* `codes` — the names between colons, as they are looked up from the left to the right.
* `isPictured`, `Codeless` — the names that have a pictograph, and the texts without any of them.
* `not_mem_pictographLines` — no colon stands in the table of pictographs.
* `count_withPictographs` — the colons that a text loses.
* `withPictographs_of_codeless`, `codeless_of_messageText` — the texts that are left alone.
* `count_lines_le` — cutting a text into printed lines adds no colon.
-/

set_option autoImplicit false

namespace AssetPublish
namespace Console

variable {cs name after : List Char} {c : Char}

/-! ## Names between colons

The search goes from the left to the right, and what it finds is fixed by the text alone, not by the
table. -/

/-- A name ends at the next colon, and has no blank in it. -/
theorem eq_of_nameAhead? (h : nameAhead? cs = some (name, after)) :
    cs = name ++ ':' :: after ∧ ∀ c ∈ name, c ≠ ':' ∧ Text.isBlank c = false := by
  induction cs generalizing name with
  | nil => simp [nameAhead?] at h
  | cons c rest ih =>
    rw [nameAhead?] at h
    split_ifs at h with hcolon hblank
    · obtain ⟨rfl, rfl⟩ : [] = name ∧ rest = after := by simpa using h
      exact ⟨by rw [hcolon, List.nil_append], by simp⟩
    · obtain ⟨⟨inner, behind⟩, hinner, heq⟩ := Option.map_eq_some_iff.1 h
      obtain ⟨rfl, rfl⟩ : c :: inner = name ∧ behind = after := by simpa using heq
      obtain ⟨hrest, hname⟩ := ih hinner
      refine ⟨by rw [hrest, List.cons_append], fun d hd => ?_⟩
      rcases List.mem_cons.1 hd with rfl | hd
      · exact ⟨hcolon, by simpa using hblank⟩
      · exact hname d hd

/-- The names between colons, as they are looked up from the left to the right: a colon that ends a
name does not begin the next one.  This follows the search of the console and not the positions of
all colons: in `a:b:c:d` there is one name and not two. -/
def codes (cs : List Char) : List (List Char) :=
  match cs with
  | [] => []
  | c :: rest =>
    if c = ':' then
      match _h : nameAhead? rest with
      | some (name, after) => name :: codes after
      | none => codes rest
    else codes rest
termination_by cs.length
decreasing_by
  all_goals simp only [List.length_cons]
  all_goals first
    | omega
    | exact Nat.lt_succ_of_lt (nameAhead?_length _h)

/-- Whether a name has a pictograph. -/
def isPictured (name : List Char) : Bool :=
  (pictographs.lookup ((splitVariant name).1.map smallLetter)).isSome

/-- A text in which no name between colons has a pictograph.  It can be decided for a given text by
going through its names. -/
def Codeless (text : String) : Prop := ∀ name ∈ codes text.toList, isPictured name = false

/-- A name that is looked up stands between two colons of the text, without blanks. -/
theorem exists_eq_of_mem_codes (h : name ∈ codes cs) :
    (∃ front behind, cs = front ++ ':' :: (name ++ ':' :: behind)) ∧
      ∀ c ∈ name, c ≠ ':' ∧ Text.isBlank c = false := by
  fun_induction codes cs with
  | case1 => simp at h
  | case2 rest first after hfirst ih =>
    obtain ⟨hrest, hname⟩ := eq_of_nameAhead? hfirst
    rcases List.mem_cons.1 h with rfl | h
    · exact ⟨⟨[], after, by rw [hrest, List.nil_append]⟩, hname⟩
    · obtain ⟨⟨front, behind, heq⟩, hname'⟩ := ih h
      exact ⟨⟨':' :: (first ++ ':' :: front), behind, by simp [hrest, heq]⟩, hname'⟩
  | case3 rest hnone ih =>
    obtain ⟨⟨front, behind, heq⟩, hname⟩ := ih h
    exact ⟨⟨':' :: front, behind, by rw [heq, List.cons_append]⟩, hname⟩
  | case4 c rest hcolon ih =>
    obtain ⟨⟨front, behind, heq⟩, hname⟩ := ih h
    exact ⟨⟨c :: front, behind, by rw [heq, List.cons_append]⟩, hname⟩

/-! ## The table

That no pictograph has a colon is what makes the count work, and it is a fact about the table as it
is. -/

theorem map_ofList_cons {css : List (List Char)} {rest : List String}
    (h : css.map String.ofList = rest) :
    (cs :: css).map String.ofList = String.ofList cs :: rest := by
  rw [List.map_cons, h]

set_option maxRecDepth 8000 in
/-- The lines of the table, spelled out. -/
theorem exists_spelled : ∃ css : List (List Char), css.map String.ofList = pictographLines ∧
    (css.all fun cs => cs.all (· != ':')) = true := by
  simp only [pictographLines]
  apply Exists.intro
  constructor
  · repeat apply map_ofList_cons
    exact List.map_nil
  · decide +kernel

/-- **No colon stands in the table.**  The table is a list of lines that hold names and pictographs
side by side, so that this is a question about the characters of each line. -/
theorem not_mem_pictographLines {line : String} (h : line ∈ pictographLines) :
    ':' ∉ line.toList := by
  obtain ⟨css, hcss, hall⟩ := exists_spelled
  rw [← hcss, List.mem_map] at h
  obtain ⟨cs, hmem, rfl⟩ := h
  rw [String.toList_ofList]
  intro hcolon
  have hne := List.all_eq_true.1 (List.all_eq_true.1 hall cs hmem) ':' hcolon
  simp at hne

theorem mem_of_mem_inPairs {α : Type} {pair : α × α} {xs : List α} (h : pair ∈ inPairs xs) :
    pair.1 ∈ xs ∧ pair.2 ∈ xs := by
  fun_induction inPairs xs with
  | case1 first second rest ih =>
    rcases List.mem_cons.1 h with rfl | h
    · simp
    · obtain ⟨hfirst, hsecond⟩ := ih h
      simp [hfirst, hsecond]
  | case2 => simp at h

theorem not_mem_of_lookup {pictured : List Char} (h : pictographs.lookup name = some pictured) :
    ':' ∉ pictured := by
  obtain ⟨front, behind, heq, -⟩ := List.lookup_eq_some_iff.1 h
  have hmem : (name, pictured) ∈ pictographs := by rw [heq]; simp
  obtain ⟨line, hline, hpair⟩ := List.mem_flatMap.1 hmem
  intro hcolon
  exact not_mem_pictographLines hline
    (Text.mem_of_mem_splitChars (mem_of_mem_inPairs hpair).2 hcolon)

/-- A form is asked for by a character that is not a colon. -/
theorem not_mem_selector (name : List Char) : ':' ∉ (splitVariant name).2 := by
  rw [splitVariant]
  split
  · rename_i ending selector hfind
    have hmem := List.mem_of_find?_eq_some hfind
    have hall : variants.all (fun variant => variant.2 != ':') = true := by decide
    have hne := List.all_eq_true.1 hall _ hmem
    simp only [List.mem_singleton]
    rintro rfl
    simp at hne
  · exact List.not_mem_nil

/-! ## What is replaced -/

theorem pictograph_of_lookup {pictured : List Char}
    (h : pictographs.lookup ((splitVariant name).1.map smallLetter) = some pictured) :
    pictograph name = pictured ++ (splitVariant name).2 := by
  unfold pictograph
  generalize splitVariant name = variant at *
  obtain ⟨base, selector⟩ := variant
  dsimp only at *
  rw [h]

/-- A name that has no pictograph stands for itself, with its colons. -/
theorem pictograph_of_not_isPictured (h : isPictured name = false) :
    pictograph name = ':' :: name ++ [':'] := by
  rw [isPictured] at h
  unfold pictograph
  generalize splitVariant name = variant at *
  obtain ⟨base, selector⟩ := variant
  dsimp only at *
  cases hfound : pictographs.lookup (base.map smallLetter) with
  | none => rfl
  | some pictured =>
    rw [hfound] at h
    cases h

/-- A pictograph has no colon. -/
theorem not_mem_pictograph_of_isPictured (h : isPictured name = true) : ':' ∉ pictograph name := by
  rw [isPictured] at h
  obtain ⟨pictured, hpictured⟩ := Option.isSome_iff_exists.1 h
  rw [pictograph_of_lookup hpictured, List.mem_append, not_or]
  exact ⟨not_mem_of_lookup hpictured, not_mem_selector name⟩

/-- The colons of what stands for a name. -/
theorem count_pictograph (hname : name.count ':' = 0) :
    (pictograph name).count ':' + 2 * (if isPictured name then 1 else 0) = 2 := by
  cases hpictured : isPictured name with
  | true => rw [List.count_eq_zero.2 (not_mem_pictograph_of_isPictured hpictured), if_pos rfl]
  | false => simp [pictograph_of_not_isPictured hpictured, hname]

theorem withPictographs_of_nameAhead? {rest : List Char} (h : nameAhead? rest = some (name, after)) :
    withPictographs (':' :: rest) = pictograph name ++ withPictographs after := by
  rw [withPictographs, if_pos rfl]
  split
  · rename_i heq
    obtain ⟨rfl, rfl⟩ : _ = name ∧ _ = after := by simpa using heq.symm.trans h
    rfl
  · rename_i heq
    simp [h] at heq

theorem withPictographs_of_nameAhead?_none {rest : List Char} (h : nameAhead? rest = none) :
    withPictographs (':' :: rest) = ':' :: withPictographs rest := by
  rw [withPictographs, if_pos rfl]
  split
  · rename_i heq
    simp [h] at heq
  · rfl

theorem withPictographs_append {front : List Char} (h : ':' ∉ front) (cs : List Char) :
    withPictographs (front ++ cs) = front ++ withPictographs cs := by
  induction front with
  | nil => rfl
  | cons c front ih =>
    rw [List.mem_cons, not_or] at h
    rw [List.cons_append, withPictographs_cons (Ne.symm h.1), ih h.2, List.cons_append]

/-- **A text loses two colons for each code that is replaced**, and no other.  By induction along
the search; a name without a pictograph stays with its colons, and the search goes on behind it. -/
theorem count_withPictographs (cs : List Char) :
    (withPictographs cs).count ':' + 2 * (codes cs).countP isPictured = cs.count ':' := by
  fun_induction codes cs with
  | case1 => rw [withPictographs]; rfl
  | case2 rest name after hahead ih =>
    obtain ⟨hrest, hname⟩ := eq_of_nameAhead? hahead
    have hcount : name.count ':' = 0 := List.count_eq_zero.2 fun hmem => (hname _ hmem).1 rfl
    have hpictograph := count_pictograph hcount
    rw [withPictographs_of_nameAhead? hahead, List.count_append, List.countP_cons, hrest,
      List.count_cons_self, List.count_append, List.count_cons_self, hcount]
    omega
  | case3 rest hnone ih =>
    rw [withPictographs_of_nameAhead?_none hnone, List.count_cons_self, List.count_cons_self]
    omega
  | case4 c rest hcolon ih =>
    rw [withPictographs_cons hcolon, List.count_cons_of_ne hcolon, List.count_cons_of_ne hcolon]
    exact ih

theorem codeless_of_countP {text : String} (h : (codes text.toList).countP isPictured = 0) :
    Codeless text :=
  fun name hname => by simpa using List.countP_eq_zero.1 h name hname

/-- A text needs two colons to ask for a pictograph. -/
theorem codeless_of_count_lt {text : String} (h : text.toList.count ':' < 2) : Codeless text := by
  have htotal := count_withPictographs text.toList
  exact codeless_of_countP (by omega)

/-- A text without codes keeps its characters. -/
theorem withPictographs_of_codeless (h : ∀ name ∈ codes cs, isPictured name = false) :
    withPictographs cs = cs := by
  fun_induction codes cs with
  | case1 => rw [withPictographs]
  | case2 rest name after hahead ih =>
    obtain ⟨hname, hafter⟩ := List.forall_mem_cons.1 h
    rw [withPictographs_of_nameAhead? hahead, pictograph_of_not_isPictured hname, ih hafter,
      (eq_of_nameAhead? hahead).1]
    simp
  | case3 rest hnone ih => rw [withPictographs_of_nameAhead?_none hnone, ih h]
  | case4 c rest hcolon ih => rw [withPictographs_cons hcolon, ih h]

/-! ## Printed lines

The later steps of printing only leave out characters, or add spaces and line ends. -/

/-- Fields that are shortened one by one hold no more of a character together. -/
theorem count_joinChars_map_le {sep : Char} {shorten : List Char → List Char}
    (h : ∀ field, (shorten field).count c ≤ field.count c) (parts : List (List Char)) :
    (Text.joinChars sep (parts.map shorten)).count c ≤ (Text.joinChars sep parts).count c := by
  fun_induction Text.joinChars sep parts with
  | case1 => exact Nat.le_refl _
  | case2 field => exact h field
  | case3 field next others ih =>
    have hfield := h field
    rw [List.map_cons] at ih
    rw [List.map_cons, List.map_cons, Text.joinChars, List.count_append, List.count_append,
      List.count_cons, List.count_cons]
    omega

theorem count_expandTabs (column : Nat) (line : List Char) :
    (expandTabs column line).count ':' = line.count ':' := by
  induction line generalizing column with
  | nil => rfl
  | cons c rest ih =>
    rw [expandTabs]
    split_ifs with htab
    · rw [htab, List.count_append, ih, List.count_replicate, List.count_cons_of_ne (by decide)]
      simp
    · rw [List.count_cons, List.count_cons, ih]

/-- Cutting a text into printed lines adds no colon. -/
theorem count_lines_le (width : Nat) (cs : List Char) :
    (Text.joinChars '\n' (lines width cs)).count ':' ≤ cs.count ':' := by
  have hline : ∀ line : List Char,
      (trimLine width (expandTabs 0 line)).count ':' ≤ line.count ':' := fun line =>
    calc (trimLine width (expandTabs 0 line)).count ':'
        ≤ (expandTabs 0 line).count ':' := (List.take_sublist _ _).count_le _
      _ = line.count ':' := count_expandTabs 0 line
  calc (Text.joinChars '\n' (lines width cs)).count ':'
      ≤ (Text.joinChars '\n' (Text.splitChars '\n' cs)).count ':' :=
        count_joinChars_map_le hline _
    _ = cs.count ':' := by rw [Text.joinChars_splitChars]

/-- **A text that is printed as it is has no codes.**  It has as many colons before as after, and
none that is lost comes back. -/
theorem codeless_of_messageText {text : String} (h : messageText text = text ++ "\n") :
    Codeless text := by
  have hchars : Text.joinChars '\n' (lines width (withoutControls (withPictographs text.toList)))
      = text.toList := by
    have hlist := congrArg String.toList h
    rw [messageText, String.toList_ofList, String.toList_append] at hlist
    exact List.append_cancel_right hlist
  have hcount : text.toList.count ':' ≤ (withPictographs text.toList).count ':' :=
    calc text.toList.count ':'
        ≤ (withoutControls (withPictographs text.toList)).count ':' := by
          conv_lhs => rw [← hchars]
          exact count_lines_le _ _
      _ ≤ (withPictographs text.toList).count ':' := List.filter_sublist.count_le _
  have htotal := count_withPictographs text.toList
  exact codeless_of_countP (by omega)

end Console
end AssetPublish
