import AssetPublish.Proofs.Procedure
import AssetPublish.Run.Report

/-!
# Reports that can be given

A size is reported as a machine number, which has an upper end, and a table is printed as marked-up
text, which may close what it has not opened.  Neither breaks a run off: sizes far beyond those of
any tree have a text, and no text of a summary holds the bracket that a tag starts with.  Messages
are printed whatever they hold.

A report that could not be given would end a run whose work is done, or half done.  So whoever
claims that a run comes to its end has to exclude it, and the bound on sizes is what such a claim
supposes: no tree holds two to the thousandth bytes.  Below the bound the quotient by 1024 is an
ordinary machine number, and its text holds nothing that a table could take for a tag.

## What is here

* `sizeBound`, `size?_of_lt` — sizes below the bound have a text.
* `plainText?_of_bracketFree` — a text without an opening bracket can be shown.
* `summary_of_lt` — the summary of a run that has copied fewer bytes than the bound is given.
* `exists_messageText_error` — an error is printed with the word for it in front.
-/

set_option autoImplicit false

namespace AssetPublish

/-! ## Sizes

What has to be shown is that a quotient is in the range of machine numbers, since one that is not
has no text.  For this the place of its first digit is enough, and nothing has to be known of how it
is rounded beyond one unit. -/

namespace Number

/-- Rounding adds no more than one. -/
theorem roundRatio_le (num den : Nat) : roundRatio num den ≤ num / den + 1 := by
  unfold roundRatio
  dsimp only
  split
  · omega
  · split
    · exact Nat.le_refl _
    · split <;> omega

/-- A bound on the mantissa keeps a number in the range of machine numbers. -/
theorem isHuge_eq_false {b : Binary} (h : b.mantissa < Nat.pow 2 (1024 - b.exponent).toNat) :
    b.isHuge = false := by
  rw [Binary.isHuge]
  by_cases hzero : b.mantissa = 0
  · simp [hzero]
  · have hlog := (Nat.log2_lt hzero).2 h
    simp only [Bool.and_eq_false_imp, decide_eq_false_iff_not]
    intro _
    omega

/-- Moving the point after rounding does not lead out of the range either. -/
theorem isHuge_normal {b : Binary} (h : b.mantissa < Nat.pow 2 (1024 - b.exponent).toNat) :
    b.normal.isHuge = false := by
  rw [Binary.normal]
  split
  · rename_i hfull
    refine isHuge_eq_false ?_
    simp only
    have hlt : 53 < (1024 - b.exponent).toNat := by
      rw [hfull, Nat.pow_eq] at h
      exact (Nat.pow_lt_pow_iff_right (by decide)).1 h
    rw [Nat.pow_eq]
    exact Nat.pow_lt_pow_right (by decide) (by omega)
  · exact isHuge_eq_false h

/-- The first digit of a quotient is not above that of what is divided. -/
theorem ratioLog2_le (num den : Nat) : ratioLog2 num den ≤ num.log2 := by
  rw [ratioLog2]
  split <;> omega

/-- Numbers of at most 1000 digits stay in the range of machine numbers when they are divided. -/
theorem isHuge_nearest {num den : Nat} (hden : 0 < den) (h : num.log2 < 1000) :
    (nearest num den).isHuge = false := by
  rw [nearest]
  split
  · rfl
  · rename_i hzero
    have hratio := ratioLog2_le num den
    generalize hexponent : max (ratioLog2 num den - 52) (-1074) = exponent
    have hle : exponent < 1000 := by omega
    refine isHuge_normal ?_
    rw [nearestAt]
    simp only [Nat.pow_eq]
    have hscaled : num * 2 ^ (-exponent).toNat / (den * 2 ^ exponent.toNat)
        < 2 ^ (1000 - exponent).toNat := by
      rw [Nat.div_lt_iff_lt_mul (Nat.mul_pos hden (Nat.two_pow_pos _))]
      calc num * 2 ^ (-exponent).toNat
          < 2 ^ (num.log2 + 1) * 2 ^ (-exponent).toNat :=
            Nat.mul_lt_mul_of_pos_right Nat.lt_log2_self (Nat.two_pow_pos _)
        _ = 2 ^ (num.log2 + 1 + (-exponent).toNat) := (Nat.pow_add _ _ _).symm
        _ ≤ 2 ^ ((1000 - exponent).toNat + exponent.toNat) :=
            Nat.pow_le_pow_right (by decide) (by omega)
        _ = 2 ^ (1000 - exponent).toNat * 2 ^ exponent.toNat := Nat.pow_add _ _ _
        _ ≤ 2 ^ (1000 - exponent).toNat * (den * 2 ^ exponent.toNat) :=
            Nat.mul_le_mul_left _ (Nat.le_mul_of_pos_left _ hden)
    calc roundRatio (num * 2 ^ (-exponent).toNat) (den * 2 ^ exponent.toNat)
        ≤ num * 2 ^ (-exponent).toNat / (den * 2 ^ exponent.toNat) + 1 := roundRatio_le _ _
      _ ≤ 2 ^ (1000 - exponent).toNat := hscaled
      _ < 2 ^ (1024 - exponent).toNat := Nat.pow_lt_pow_right (by decide) (by omega)

end Number

/-- A bound on sizes that no tree comes near to.  Machine numbers end at two to the 1024th; the
bound leaves room for rounding and is a power of two that is easy to compare with. -/
def sizeBound : Nat := Nat.pow 2 1000

theorem sizeBound_pos : 0 < sizeBound := by decide +kernel

theorem log2_lt_of_lt {n bound digits : Nat} (hbound : bound = Nat.pow 2 digits)
    (hdigits : 0 < digits) (h : n < bound) : n.log2 < digits := by
  by_cases hzero : n = 0
  · rwa [hzero, Nat.log2_zero]
  · rw [hbound] at h
    exact (Nat.log2_lt hzero).2 h

theorem log2_lt_of_lt_sizeBound {n : Nat} (h : n < sizeBound) : n.log2 < 1000 :=
  @log2_lt_of_lt n sizeBound 1000 (by decide +kernel) (by decide) h

/-- A text without the bracket that a tag starts with.  Text without it is shown as it is by the
printer of tables, whatever else it holds. -/
def BracketFree (text : String) : Prop := '[' ∉ text.toList

instance (text : String) : Decidable (BracketFree text) := by unfold BracketFree; infer_instance

theorem BracketFree.append {a b : String} (ha : BracketFree a) (hb : BracketFree b) :
    BracketFree (a ++ b) := by
  simp only [BracketFree, String.toList_append, List.mem_append, not_or]
  exact ⟨ha, hb⟩

theorem bracketFree_nat (n : Nat) : BracketFree (toString n) := by
  intro h
  rw [Nat.toString_eq_repr, Nat.toList_repr] at h
  have hdigit := Nat.isDigit_of_mem_toDigits (by decide) (by decide) h
  exact absurd hdigit (by decide)

theorem bracketFree_int (n : Int) : BracketFree (toString n) := by
  cases n with
  | ofNat n => exact bracketFree_nat n
  | negSucc n => exact (show BracketFree "-" by decide).append (bracketFree_nat (n + 1))

theorem bracketFree_symbol (unit : SizeUnit) : BracketFree unit.symbol := by
  cases unit <;> decide

/-- The text of a size has digits, a point, a space and letters. -/
theorem bracketFree_sizeText (size : ByteSize) : BracketFree size.text := by
  cases size with
  | exact bytes => exact (bracketFree_int bytes).append (by decide)
  | rounded tenths unit =>
    exact ((((bracketFree_nat _).append (by decide)).append (bracketFree_nat _)).append
      (by decide)).append (bracketFree_symbol unit)

/-- **Sizes below the bound have a text**, and it can be part of a table. -/
theorem size?_of_lt {bytes : Int} (h : bytes < sizeBound) :
    ∃ text, Report.size? bytes = .ok text ∧ BracketFree text := by
  rw [Report.size?, sizeText?, ByteSize.ofBytes?]
  split
  · rename_i text heq
    refine ⟨text, rfl, ?_⟩
    obtain ⟨size, -, rfl⟩ := Option.map_eq_some_iff.1 heq
    exact bracketFree_sizeText size
  · rename_i heq
    have hpos := sizeBound_pos
    have hlog : bytes.toNat.log2 < 1000 := log2_lt_of_lt_sizeBound (by omega)
    split at heq
    · simp at heq
    · simp [Number.isHuge_nearest (show 0 < 1024 by decide) hlog] at heq

/-! ## Tables

A text in a table is cut into plain pieces and tags, and it cannot be shown if a tag closes what has
not been opened.  Without an opening bracket there is one plain piece. -/

namespace Console

/-- A tag begins with an opening bracket. -/
theorem tagBehind?_of_not_mem {cs : List Char} (h : '[' ∉ cs) (count : Nat) :
    tagBehind? count cs = none := by
  rw [tagBehind?]
  split
  · rename_i rest heq
    have hmem : '[' ∈ cs.drop count := by rw [heq]; exact List.mem_cons_self
    exact absurd (List.mem_of_mem_drop hmem) h
  · rfl

/-- A text without an opening bracket is a plain piece, if anything. -/
theorem piecesFrom_of_not_mem {cs : List Char} (h : '[' ∉ cs) (place : Nat) (before : List Char) :
    ∀ piece ∈ piecesFrom place before cs, ∃ plain, piece = .plain plain := by
  induction cs generalizing place before with
  | nil =>
    intro piece hpiece
    rw [piecesFrom] at hpiece
    split at hpiece
    · simp at hpiece
    · exact ⟨_, List.mem_singleton.1 hpiece⟩
  | cons c rest ih =>
    rw [piecesFrom]
    split
    · rename_i heq
      rw [tagBehind?_of_not_mem h] at heq
      simp at heq
    · exact ih (fun hmem => h (List.mem_cons_of_mem _ hmem)) _ _

/-- Plain pieces can be shown. -/
theorem exists_styledFrom {pieces : List Piece}
    (h : ∀ piece ∈ pieces, ∃ plain, piece = .plain plain) (shown : Nat) (opened : List OpenStyle) :
    ∃ styled, styledFrom shown opened pieces = .ok styled := by
  induction pieces generalizing shown with
  | nil => exact ⟨_, rfl⟩
  | cons piece rest ih =>
    obtain ⟨plain, rfl⟩ := h piece List.mem_cons_self
    obtain ⟨styled, hstyled⟩ := ih (fun other hother => h other (List.mem_cons_of_mem _ hother))
      (shown + (Piece.plain plain).shown.length)
    exact ⟨_, by rw [styledFrom, hstyled]; rfl⟩

theorem styled?_of_bracketFree {text : String} (h : BracketFree text) :
    ∃ styled, styled? text = .ok styled :=
  exists_styledFrom (piecesFrom_of_not_mem h 0 []) 0 []

/-- **A text without an opening bracket can be shown.** -/
theorem plainText?_of_bracketFree {text : String} (h : BracketFree text) :
    ∃ cs, plainText? text = .ok cs := by
  obtain ⟨styled, hstyled⟩ := styled?_of_bracketFree h
  exact ⟨styled.text, by rw [plainText?, hstyled]; rfl⟩

theorem mapM_plainText? {rows : List (String × String)} (column : String × String → String)
    (h : ∀ row ∈ rows, BracketFree (column row)) :
    ∃ texts, (rows.mapM fun row => plainText? (column row)) = .ok texts := by
  induction rows with
  | nil => exact ⟨[], rfl⟩
  | cons row rest ih =>
    obtain ⟨text, htext⟩ := plainText?_of_bracketFree (h row List.mem_cons_self)
    obtain ⟨texts, htexts⟩ := ih fun other hother => h other (List.mem_cons_of_mem _ hother)
    exact ⟨text :: texts, by rw [List.mapM_cons, htext, htexts]; rfl⟩

/-- A table without opening brackets can be printed. -/
theorem Table.text?_of_bracketFree {title : String} {rows : List (String × String)}
    (htitle : BracketFree title)
    (hrows : ∀ row ∈ rows, BracketFree row.1 ∧ BracketFree row.2) :
    ∃ text, (Table.mk (.text title) rows).text? = .ok text := by
  obtain ⟨labels, hlabels⟩ := mapM_plainText? Prod.fst fun row hrow => (hrows row hrow).1
  obtain ⟨values, hvalues⟩ := mapM_plainText? Prod.snd fun row hrow => (hrows row hrow).2
  obtain ⟨styled, hstyled⟩ := styled?_of_bracketFree htitle
  have hshown : ∀ width, ∃ cs, Table.title? width (.text title) = .ok cs := by
    intro width
    rw [Table.title?]
    split
    · exact ⟨[], rfl⟩
    · exact ⟨_, by rw [hstyled]; rfl⟩
  obtain ⟨cs, hcs⟩ := hshown
    ((columnWidths labels values).1 + (columnWidths labels values).2)
  exact ⟨_, by rw [Table.text?, hlabels, hvalues]; simp [hcs]; rfl⟩

end Console

/-! ## The summary

The rows hold numbers, sizes and fixed words. -/

namespace Report

theorem bracketFree_optionalRow {label unit : String} (n : Nat) (hlabel : BracketFree label)
    (hunit : BracketFree unit) :
    ∀ row ∈ optionalRow label unit (.int n), BracketFree row.1 ∧ BracketFree row.2 := by
  intro row hrow
  rw [optionalRow] at hrow
  split at hrow
  · rw [List.mem_singleton] at hrow
    subst hrow
    exact ⟨hlabel, (bracketFree_int n).append hunit⟩
  · simp at hrow

/-- The rows of the summary of a run can be printed. -/
theorem rows?_of_lt {tally : Tally} (h : tally.bytes < sizeBound) :
    ∃ rows, rows? tally.toFields = .ok rows ∧
      ∀ row ∈ rows, BracketFree row.1 ∧ BracketFree row.2 := by
  obtain ⟨size, hsize, hfree⟩ := size?_of_lt h
  have hbytes : sizeOf? (.int tally.bytes) = .ok size := hsize
  have hrows : rows? tally.toFields = (do
      let size ← sizeOf? (.int tally.bytes)
      return [("Directories", toString (tally.directories : Int)),
          ("Files", toString (tally.files : Int)), ("Total size", size)] ++
        optionalRow "Symlinks" "" (.int tally.symlinks) ++
        optionalRow "FIFOs" "" (.int tally.fifos) ++
        optionalRow "Excluded" " path(s)" (.int tally.excluded)) := rfl
  rw [hrows, hbytes]
  refine ⟨_, rfl, ?_⟩
  intro row hrow
  simp only [List.mem_append, List.mem_cons, List.not_mem_nil, or_false] at hrow
  rcases hrow with (((rfl | rfl | rfl) | hrow) | hrow) | hrow
  · exact ⟨show BracketFree "Directories" by decide, bracketFree_int _⟩
  · exact ⟨show BracketFree "Files" by decide, bracketFree_int _⟩
  · exact ⟨show BracketFree "Total size" by decide, hfree⟩
  · exact bracketFree_optionalRow _ (by decide) (by decide) row hrow
  · exact bracketFree_optionalRow _ (by decide) (by decide) row hrow
  · exact bracketFree_optionalRow _ (by decide) (by decide) row hrow

/-- **The summary of a run that has copied fewer bytes than the bound is given.** -/
theorem summary_of_lt (voice : Voice) {tally : Tally} (h : tally.bytes < sizeBound) :
    (summary voice tally.toValue).2 = .ok () := by
  obtain ⟨rows, hrows, hfree⟩ := rows?_of_lt h
  have hclosing : ∃ title word, closing? tally.toValue = .ok (⟨.text title, rows⟩, word) ∧
      BracketFree title := by
    have heq : closing? tally.toValue = (do
        let rows ← rows? tally.toFields
        if tally.dryRun then
          return (⟨.text "Dry-run plan", rows⟩, "Dry-run finished. No changes were made.")
        else return (⟨.text "Copied", rows⟩, "DONE!")) := rfl
    rw [heq, hrows]
    cases tally.dryRun with
    | true => exact ⟨_, _, rfl, by decide⟩
    | false => exact ⟨_, _, rfl, by decide⟩
  obtain ⟨title, word, hclosing, htitle⟩ := hclosing
  obtain ⟨text, htext⟩ := Console.Table.text?_of_bracketFree htitle hfree
  have htable : ∃ printed, voice.table ⟨.text title, rows⟩ = .ok printed := by
    rw [Voice.table]
    split
    · exact ⟨_, rfl⟩
    · exact ⟨_, by rw [htext]; rfl⟩
  obtain ⟨printed, hprinted⟩ := htable
  rw [summary]
  split
  · rfl
  · simp [hclosing, hprinted]

end Report
/-! ## Messages

The word in front of an error is short, holds neither tabs nor line ends, and has its colon followed
by a space.  Each step of printing leaves such a beginning as it is, whatever comes
behind it. -/

namespace Console

theorem withPictographs_cons {c : Char} (h : c ≠ ':') (cs : List Char) :
    withPictographs (c :: cs) = c :: withPictographs cs := by
  rw [withPictographs, if_neg h]

/-- A colon before a blank begins no name. -/
theorem withPictographs_colon (cs : List Char) :
    withPictographs (':' :: ' ' :: cs) = ':' :: ' ' :: withPictographs cs := by
  have hnone : nameAhead? (' ' :: cs) = none := by
    rw [nameAhead?, if_neg (by decide), if_pos (by decide +kernel)]
  rw [withPictographs, if_pos rfl]
  split
  · rename_i heq
    rw [hnone] at heq
    simp at heq
  · rw [withPictographs_cons (by decide)]

/-- Without tabs in front, the front stays as it is; only the column from which the rest is counted
depends on it. -/
theorem expandTabs_append {front : List Char} (h : '\t' ∉ front) (column : Nat) (cs : List Char) :
    ∃ next, expandTabs column (front ++ cs) = front ++ expandTabs next cs := by
  induction front generalizing column with
  | nil => exact ⟨column, rfl⟩
  | cons c front ih =>
    rw [List.mem_cons, not_or] at h
    obtain ⟨next, hnext⟩ := ih h.2 (column + Text.cells c)
    refine ⟨next, ?_⟩
    rw [List.cons_append, expandTabs, if_neg (Ne.symm h.1), hnext, List.cons_append]

/-- What stands before the first separator is the beginning of the first field. -/
theorem exists_splitChars_append {sep : Char} {front : List Char} (h : sep ∉ front)
    (cs : List Char) :
    ∃ first others, Text.splitChars sep (front ++ cs) = (front ++ first) :: others := by
  induction front with
  | nil =>
    cases hsplit : Text.splitChars sep cs with
    | nil => exact absurd hsplit (Text.splitChars_ne_nil _ _)
    | cons first others => exact ⟨first, others, hsplit⟩
  | cons c front ih =>
    rw [List.mem_cons, not_or] at h
    obtain ⟨first, others, hrest⟩ := ih h.2
    obtain ⟨field, more, hsplit, hcons⟩ := Text.splitChars_cons_of_ne (Ne.symm h.1) (front ++ cs)
    obtain ⟨rfl, rfl⟩ := List.cons.inj (hrest.symm.trans hsplit)
    exact ⟨first, others, hcons⟩

/-- The beginning of a line is not cut. -/
theorem prefix_trimLine {width : Nat} {front : List Char} (h : front.length ≤ width)
    (cs : List Char) : front <+: trimLine width (front ++ cs) := by
  rw [trimLine]
  refine List.prefix_take_iff.2 ⟨List.prefix_append _ _, ?_⟩
  rw [List.length_append]
  omega

/-- The beginning of a text is printed as it is, if it is short, and without tabs and line ends. -/
theorem prefix_lines {width : Nat} {front : List Char} (htab : '\t' ∉ front) (hline : '\n' ∉ front)
    (hlength : front.length ≤ width) (cs : List Char) :
    front <+: Text.joinChars '\n' (lines width (front ++ cs)) := by
  obtain ⟨first, others, hsplit⟩ := exists_splitChars_append hline cs
  obtain ⟨next, hnext⟩ := expandTabs_append htab 0 first
  have hfirst := prefix_trimLine hlength (expandTabs next first)
  rw [lines, hsplit, List.map_cons, hnext]
  cases others with
  | nil => simpa [Text.joinChars] using hfirst
  | cons other rest => exact hfirst.trans (List.prefix_append _ _)

/-- **An error is printed with the word for it in front.** -/
theorem exists_messageText_error (message : String) :
    ∃ rest, messageText ("Error: " ++ message) = "Error: " ++ rest := by
  have hfront : withoutControls (withPictographs ("Error: ".toList ++ message.toList))
      = "Error: ".toList ++ withoutControls (withPictographs message.toList) := by
    simp only [String.reduceToList, List.cons_append, List.nil_append]
    rw [withPictographs_cons (by decide), withPictographs_cons (by decide),
      withPictographs_cons (by decide), withPictographs_cons (by decide),
      withPictographs_cons (by decide), withPictographs_colon]
    rfl
  obtain ⟨rest, hrest⟩ := prefix_lines (show '\t' ∉ "Error: ".toList by decide) (by decide)
    (show _ ≤ width by decide) (withoutControls (withPictographs message.toList))
  refine ⟨String.ofList (rest ++ ['\n']), ?_⟩
  rw [messageText, String.toList_append, hfront, ← hrest, List.append_assoc, String.ofList_append,
    String.ofList_toList]

end Console
end AssetPublish
