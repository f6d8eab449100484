/-!
# Texts in order

Sets of names are kept as lists in increasing order of code points without repetition, so that
equal sets are equal lists.

## What is here

* `insertSorted`, `sorted` — the insertion of one text, and the ordered list of some texts.
* `mem_sorted` — no text is lost and none is added.
* `sorted_pairwise` — the result is strictly increasing.
* `eq_of_increasing`, `sorted_eq_of_mem_iff` — the same texts make the same ordered list.
-/

set_option autoImplicit false

namespace AssetPublish
namespace Text

/-- A text put in its place in an increasing list; one that is there already is not repeated. -/
def insertSorted (text : String) : List String → List String
  | [] => [text]
  | first :: rest =>
    if text < first then text :: first :: rest
    else if text = first then first :: rest
    else first :: insertSorted text rest

/-- The texts of a list in increasing order, each once. -/
def sorted : List String → List String
  | [] => []
  | text :: rest => insertSorted text (sorted rest)

theorem mem_insertSorted {text other : String} {texts : List String} :
    other ∈ insertSorted text texts ↔ other = text ∨ other ∈ texts := by
  induction texts with
  | nil => simp [insertSorted]
  | cons first rest ih =>
    rw [insertSorted]
    split
    · simp
    · split
      · rename_i h; subst h; simp
      · rw [List.mem_cons, ih, List.mem_cons]; exact or_left_comm

/-- The ordered list has the same texts. -/
@[simp] theorem mem_sorted {text : String} {texts : List String} :
    text ∈ sorted texts ↔ text ∈ texts := by
  induction texts with
  | nil => simp [sorted]
  | cons first rest ih => rw [sorted, mem_insertSorted, ih, List.mem_cons]

theorem insertSorted_pairwise {text : String} {texts : List String}
    (h : texts.Pairwise (· < ·)) : (insertSorted text texts).Pairwise (· < ·) := by
  induction texts with
  | nil => simp [insertSorted]
  | cons first rest ih =>
    rw [List.pairwise_cons] at h
    rw [insertSorted]
    split
    · rename_i hlt
      refine List.pairwise_cons.2 ⟨fun other hother => ?_, List.pairwise_cons.2 h⟩
      rcases List.mem_cons.1 hother with rfl | hother
      · exact hlt
      · exact String.lt_trans hlt (h.1 other hother)
    · split
      · exact List.pairwise_cons.2 h
      · rename_i hnlt hne
        refine List.pairwise_cons.2 ⟨fun other hother => ?_, ih h.2⟩
        rcases mem_insertSorted.1 hother with rfl | hother
        · exact String.not_le.1 fun hle => hne (String.le_antisymm hle (String.not_lt.1 hnlt))
        · exact h.1 other hother

/-- The ordered list is strictly increasing. -/
theorem sorted_pairwise (texts : List String) : (sorted texts).Pairwise (· < ·) := by
  induction texts with
  | nil => exact List.Pairwise.nil
  | cons first rest ih => exact insertSorted_pairwise ih

theorem nodup_of_increasing {texts : List String} (h : texts.Pairwise (· < ·)) : texts.Nodup :=
  List.nodup_iff_pairwise_ne.2 (h.imp fun hlt => String.ne_of_lt hlt)

/-- An increasing list is determined by its members. -/
theorem eq_of_increasing {texts others : List String} (h : texts.Pairwise (· < ·))
    (h' : others.Pairwise (· < ·)) (hmem : ∀ text, text ∈ texts ↔ text ∈ others) :
    texts = others := by
  have hperm : texts.Perm others :=
    (List.perm_ext_iff_of_nodup (nodup_of_increasing h) (nodup_of_increasing h')).2 hmem
  exact hperm.eq_of_pairwise (fun _ _ _ _ hlt hgt => absurd hgt (String.lt_asymm hlt)) h h'

/-- **The same texts are listed in the same order**, however they come. -/
theorem sorted_eq_of_mem_iff {texts others : List String}
    (h : ∀ text, text ∈ texts ↔ text ∈ others) : sorted texts = sorted others :=
  eq_of_increasing (sorted_pairwise _) (sorted_pairwise _) fun text => by
    rw [mem_sorted, mem_sorted, h text]

end Text
end AssetPublish
