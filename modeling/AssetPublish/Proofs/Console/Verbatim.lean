import AssetPublish.Console.Voice
import AssetPublish.Proofs.Reporting
import AssetPublish.Proofs.Value.Reading
import Mathlib.Data.List.Chain

/-!
# Documents on the console

The console rewrites what it prints: names between colons become pictographs, some control
characters are left out, tabs are filled up, and blanks at the end of a long line are cut.  The JSON
text of a document gives it nothing to rewrite but the names between colons, as control characters
are escaped and no line ends with a blank.  Where no text in the document holds a colon there are no
such names either: all other colons stand behind the names of fields, with a space after them.

`Neat` is a local condition: it speaks of single characters, of neighbours and of the two ends.
This makes it easy to put together, and a document is put together from many small pieces.  The ends
are asked for so that two pieces next to each other make no new pair that is not allowed.  Whether a
line ends with a blank, or a name stands between two colons, is then never asked of the whole text.

The parameter `spaced` says whether colons have to be followed by spaces.  With it, the conclusion
is that the text is printed as it is.  Without it, the same lemmas still give all that does not
concern pictographs, and this is used for the documents that do ask for one.

## What is here

* `Neat` — characters that are printed as they are; `Neat.append`, `Neat.space` — put together.
* `messageText_of_withPictographs`, `messageText_of_neat` — what such characters print.
* `neat_toJsonAt` — the JSON texts of documents are such.
* `Value.Plain`, `out_document` — the documents without colons in their texts, and what is printed
  for them.
-/

set_option autoImplicit false

namespace AssetPublish
namespace Console

variable {spaced : Prop} {cs front behind gap : List Char} {c : Char}

/-! ## Characters that are printed as they are -/

/-- Two neighbours in a text that is printed as it is: there is no blank at the end of a line and,
where the colons are `spaced`, a space behind a colon.  A blank before a line end is cut if the line
is long, and a colon with no space behind it can begin a name. -/
def Beside (spaced : Prop) (a b : Char) : Prop :=
  (spaced → a = ':' → b = ' ') ∧ (b = '\n' → Text.isBlank a = false)

/-- Some characters that are printed as they are, also with other such characters around them.
Where the colons are not `spaced` there may be names between them.  Nothing is asked of what stands
around them, but that it is such a text again. -/
structure Neat (spaced : Prop) (cs : List Char) : Prop where
  plain : ∀ c ∈ cs, c ∉ droppedControls ∧ c ≠ '\t'
  chain : cs.IsChain (Beside spaced)
  opens : ∀ c ∈ cs.head?, c ≠ '\n'
  closes : ∀ c ∈ cs.getLast?, (spaced → c ≠ ':') ∧ Text.isBlank c = false

/-- A character that may stand at an end may stand before anything. -/
theorem beside_of_closes {a : Char} (h : (spaced → a ≠ ':') ∧ Text.isBlank a = false) (b : Char) :
    Beside spaced a b :=
  ⟨fun hspaced hcolon => absurd hcolon (h.1 hspaced), fun _ => h.2⟩

/-- One after the other. -/
theorem Neat.append (hfront : Neat spaced front) (hbehind : Neat spaced behind) :
    Neat spaced (front ++ behind) where
  plain c hmem := (List.mem_append.1 hmem).elim (hfront.plain c) (hbehind.plain c)
  chain := List.isChain_append.2 ⟨hfront.chain, hbehind.chain, fun a ha b _ =>
    beside_of_closes (hfront.closes a ha) b⟩
  opens := by
    cases front with
    | nil => exact hbehind.opens
    | cons c rest => exact hfront.opens
  closes := by
    cases behind with
    | nil => rw [List.append_nil]; exact hfront.closes
    | cons c rest => rw [List.getLast?_append_cons]; exact hbehind.closes

/-- What stands between two pieces: spaces, also on a new line, or a colon and a space.  A piece of
space is not neat by itself, since it ends with a blank; between two pieces that are neat it does no
harm. -/
inductive Spacing : List Char → Prop
  | spaces (count : Nat) : Spacing (List.replicate count ' ')
  | line (count : Nat) : Spacing ('\n' :: List.replicate count ' ')
  | colon : Spacing [':', ' ']

theorem Spacing.mem (h : Spacing gap) (hmem : c ∈ gap) : c = ' ' ∨ c = '\n' ∨ c = ':' := by
  cases h with
  | spaces count => exact .inl (List.eq_of_mem_replicate hmem)
  | line count =>
    rcases List.mem_cons.1 hmem with rfl | hmem
    · exact .inr (.inl rfl)
    · exact .inl (List.eq_of_mem_replicate hmem)
  | colon =>
    rcases List.mem_cons.1 hmem with rfl | hmem
    · exact .inr (.inr rfl)
    · exact .inl (List.mem_singleton.1 hmem)

theorem Spacing.chain (h : Spacing gap) : gap.IsChain (Beside spaced) := by
  have hspaces : ∀ count, (List.replicate count ' ').IsChain (Beside spaced) := fun count =>
    List.isChain_replicate_of_rel count ⟨fun _ => by decide, by decide⟩
  cases h with
  | spaces count => exact hspaces count
  | line count =>
    refine List.isChain_cons.2 ⟨fun b hb => ?_, hspaces count⟩
    rw [List.eq_of_mem_replicate (List.mem_of_mem_head? hb)]
    exact ⟨fun _ => by decide, by decide⟩
  | colon => exact List.isChain_pair.2 ⟨fun _ _ => rfl, by decide⟩

theorem Spacing.last_ne (h : Spacing gap) : ∀ c ∈ gap.getLast?, c ≠ ':' := by
  intro c hc
  cases h with
  | colon =>
    obtain rfl : ' ' = c := by simpa using hc
    decide
  | spaces count =>
    rw [List.eq_of_mem_replicate (List.mem_of_getLast? hc)]
    decide
  | line count =>
    rcases List.mem_cons.1 (List.mem_of_getLast? hc) with rfl | hmem
    · decide
    · rw [List.eq_of_mem_replicate hmem]
      decide

/-- One after the other with some space between them. -/
theorem Neat.space (hfront : Neat spaced front) (hne : front ≠ []) (hgap : Spacing gap)
    (hbehind : Neat spaced behind) (hne' : behind ≠ []) :
    Neat spaced (front ++ (gap ++ behind)) := by
  have hrest : (gap ++ behind).IsChain (Beside spaced) :=
    List.isChain_append.2 ⟨hgap.chain, hbehind.chain, fun a ha b hb =>
      ⟨fun _ h => absurd h (hgap.last_ne a ha), fun h => absurd h (hbehind.opens b hb)⟩⟩
  refine ⟨fun c hmem => ?_, ?_, ?_, ?_⟩
  · rcases List.mem_append.1 hmem with hmem | hmem
    · exact hfront.plain c hmem
    rcases List.mem_append.1 hmem with hmem | hmem
    · rcases hgap.mem hmem with rfl | rfl | rfl <;> decide
    · exact hbehind.plain c hmem
  · exact List.isChain_append.2 ⟨hfront.chain, hrest, fun a ha b _ =>
      beside_of_closes (hfront.closes a ha) b⟩
  · obtain ⟨c, rest, rfl⟩ := List.exists_cons_of_ne_nil hne
    exact hfront.opens
  · obtain ⟨c, rest, rfl⟩ := List.exists_cons_of_ne_nil hne'
    rw [← List.append_assoc, List.getLast?_append_cons]
    exact hbehind.closes

/-! ## What is printed for them

The steps of printing are taken one after the other: pictographs, control characters, tabs, and
lines. -/

/-- Where there is a space behind each colon no name is found between two of them. -/
theorem withPictographs_of_chain (hchain : cs.IsChain (Beside True))
    (hcloses : ∀ c ∈ cs.getLast?, c ≠ ':') : withPictographs cs = cs := by
  induction cs with
  | nil => rw [withPictographs]
  | cons c rest ih =>
    cases rest with
    | nil =>
      rw [withPictographs_cons (hcloses c rfl), withPictographs]
    | cons next others =>
      obtain ⟨hbeside, hrest⟩ := List.isChain_cons_cons.1 hchain
      have hothers : withPictographs (next :: others) = next :: others :=
        ih hrest (by rwa [List.getLast?_cons_cons] at hcloses)
      by_cases hcolon : c = ':'
      · obtain rfl := hcolon
        obtain rfl := hbeside.1 trivial rfl
        rw [withPictographs_cons (by decide), List.cons_inj_right] at hothers
        rw [withPictographs_colon, hothers]
      · rw [withPictographs_cons hcolon, hothers]

/-- No line ends with a blank. -/
theorem not_isBlank_of_mem_splitChars (hchain : cs.IsChain (Beside spaced))
    (hcloses : ∀ c ∈ cs.getLast?, Text.isBlank c = false) {line : List Char}
    (hline : line ∈ Text.splitChars '\n' cs) : ∀ c ∈ line.getLast?, Text.isBlank c = false := by
  induction cs generalizing line with
  | nil =>
    rw [Text.splitChars, List.mem_singleton] at hline
    rw [hline]
    exact fun c hc => absurd hc (by simp)
  | cons c rest ih =>
    have hlater : ∀ line ∈ Text.splitChars '\n' rest, ∀ c ∈ line.getLast?,
        Text.isBlank c = false := by
      intro line hline
      refine ih (List.isChain_cons.1 hchain).2 (fun last hlast => hcloses last ?_) hline
      rw [List.getLast?_cons, Option.mem_some_iff]
      rw [Option.mem_def.1 hlast]
      rfl
    by_cases hend : c = '\n'
    · rw [Text.splitChars, if_pos hend, List.mem_cons] at hline
      rcases hline with rfl | hline
      · exact fun c hc => absurd hc (by simp)
      · exact hlater line hline
    obtain ⟨field, others, hrest, hcons⟩ := Text.splitChars_cons_of_ne hend rest
    rw [hcons, List.mem_cons] at hline
    rcases hline with rfl | hline
    · cases field with
      | cons next more =>
        rw [List.getLast?_cons_cons]
        exact hlater _ (hrest ▸ List.mem_cons_self)
      | nil =>
        -- The line is one character long, so that the text or the line ends behind it.
        rintro _ ⟨⟩
        cases rest with
        | nil => exact hcloses c rfl
        | cons next more =>
          obtain ⟨hbeside, -⟩ := List.isChain_cons_cons.1 hchain
          refine hbeside.2 ?_
          by_contra hnext
          obtain ⟨field, others', -, hmore⟩ := Text.splitChars_cons_of_ne hnext more
          rw [hmore] at hrest
          simp at hrest
    · exact hlater line (hrest ▸ List.mem_cons_of_mem _ hline)

/-- Without a blank at the end there is nothing to cut. -/
theorem trailingBlanks_eq_zero {line : List Char}
    (h : ∀ c ∈ line.getLast?, Text.isBlank c = false) : Text.trailingBlanks line = 0 := by
  rw [Text.trailingBlanks, List.length_eq_zero_iff]
  cases hreverse : line.reverse with
  | nil => rfl
  | cons c rest =>
    have hlast : c ∈ line.getLast? := by
      rw [← List.head?_reverse, hreverse]
      rfl
    rw [List.takeWhile_cons_of_neg (by simp [h c hlast])]

theorem trimLine_of_not_isBlank {width : Nat} {line : List Char}
    (h : ∀ c ∈ line.getLast?, Text.isBlank c = false) : trimLine width line = line := by
  rw [trimLine, trailingBlanks_eq_zero h, Nat.zero_min, Nat.sub_zero, List.take_length]

theorem expandTabs_of_not_mem {column : Nat} {line : List Char} (h : '\t' ∉ line) :
    expandTabs column line = line := by
  obtain ⟨next, hnext⟩ := expandTabs_append h column []
  rwa [List.append_nil, expandTabs, List.append_nil] at hnext

/-- **Such characters are printed as they are**, with a line end behind them, once the pictographs
stand in the text.  Each step of printing finds nothing to do. -/
theorem messageText_of_withPictographs {text shown : String} (h : Neat spaced shown.toList)
    (hpictographs : withPictographs text.toList = shown.toList) :
    messageText text = shown ++ "\n" := by
  have hcontrols : withoutControls shown.toList = shown.toList :=
    List.filter_eq_self.2 fun c hmem => by simpa using (h.plain c hmem).1
  have hlines : lines width shown.toList = Text.splitChars '\n' shown.toList := by
    rw [lines]
    refine (List.map_congr_left fun line hline => ?_).trans (List.map_id _)
    have htab : '\t' ∉ line := fun hmem =>
      (h.plain _ (Text.mem_of_mem_splitChars hline hmem)).2 rfl
    rw [expandTabs_of_not_mem htab, trimLine_of_not_isBlank
      (not_isBlank_of_mem_splitChars h.chain (fun c hc => (h.closes c hc).2) hline), id]
  rw [messageText]
  simp only [hpictographs, hcontrols, hlines, Text.joinChars_splitChars]
  rw [String.ofList_append, String.ofList_toList]

/-- Where the colons are spaced none are. -/
theorem messageText_of_neat {text : String} (h : Neat True text.toList) :
    messageText text = text ++ "\n" :=
  messageText_of_withPictographs h <|
    withPictographs_of_chain h.chain fun c hc => (h.closes c hc).1 trivial

/-! ## Documents

The pieces are numbers, words, brackets and texts in quotation marks; all other characters are
escaped. -/

/-- Printed ASCII characters, without the colon where the colons are `spaced`.  All that a document
is written with is of this kind, apart from its spaces, its line ends and the colons behind the
names of fields. -/
def Ordinary (spaced : Prop) (c : Char) : Prop :=
  (0x20 ≤ c.toNat ∧ c.toNat < 0x7F) ∧ (spaced → c ≠ ':')

theorem Ordinary.not_isBlank {c : Char} (h : Ordinary spaced c) (hspace : c ≠ ' ') :
    Text.isBlank c = false := by
  have hcode : c.toNat ≠ 0x20 := fun hcode => hspace (by rw [← Char.ofNat_toNat c, hcode])
  obtain ⟨⟨hlow, hhigh⟩, -⟩ := h
  rw [← Bool.not_eq_true, Text.isBlank, Text.inRanges_iff]
  rintro ⟨range, hmem, hrange⟩
  simp only [Text.blankRanges, List.mem_toArray, List.mem_cons, List.not_mem_nil, or_false] at hmem
  rcases hmem with rfl | rfl | rfl | rfl | rfl | rfl | rfl | rfl | rfl | rfl <;> omega

theorem ordinary_of_ne (h : (0x20 ≤ c.toNat ∧ c.toNat < 0x7F) ∧ c ≠ ':') : Ordinary spaced c :=
  ⟨h.1, fun _ => h.2⟩

theorem Ordinary.ne_of_lt {control : Char} (h : Ordinary spaced c)
    (hcontrol : control.toNat < 0x20) : c ≠ control := by
  rintro rfl
  exact absurd hcontrol (Nat.not_lt.2 h.1.1)

/-- Ordinary characters are printed as they are, unless there is a space at their end. -/
theorem neat_of_ordinary (h : ∀ c ∈ cs, Ordinary spaced c) (hlast : ∀ c ∈ cs.getLast?, c ≠ ' ') :
    Neat spaced cs where
  plain c hmem := by
    refine ⟨fun hdropped => ?_, (h c hmem).ne_of_lt (by decide)⟩
    have hall : droppedControls.all (fun c => c.toNat < 0x20) = true := by decide
    have hcontrol : c.toNat < 0x20 := of_decide_eq_true (List.all_eq_true.1 hall c hdropped)
    have hlow := (h c hmem).1.1
    omega
  chain := by
    refine (List.pairwise_of_forall_mem_list fun a ha b hb => ?_).isChain
    exact ⟨fun hspaced hcolon => absurd hcolon ((h a ha).2 hspaced),
      fun hend => absurd hend ((h b hb).ne_of_lt (by decide))⟩
  opens c hc := (h c (List.mem_of_mem_head? hc)).ne_of_lt (by decide)
  closes c hc :=
    ⟨(h c (List.mem_of_getLast? hc)).2,
      (h c (List.mem_of_getLast? hc)).not_isBlank (hlast c hc)⟩

/-- Digits are printed as they are. -/
theorem ordinary_of_isDigit (h : c.isDigit = true) : Ordinary spaced c ∧ c ≠ ' ' := by
  refine ⟨ordinary_of_ne ⟨?_, ?_⟩, ?_⟩
  · simp only [Char.isDigit, Bool.and_eq_true, decide_eq_true_eq] at h
    have hlow : 48 ≤ c.toNat := UInt32.le_iff_toNat_le.1 h.1
    have hhigh : c.toNat ≤ 57 := UInt32.le_iff_toNat_le.1 h.2
    omega
  · rintro rfl
    exact absurd h (by decide)
  · rintro rfl
    exact absurd h (by decide)

/-- Whole numbers are made of digits, and perhaps a minus. -/
theorem ordinary_of_mem_toString (n : Int) (hmem : c ∈ (toString n).toList) :
    Ordinary spaced c ∧ c ≠ ' ' := by
  have hnat : ∀ m : Nat, c ∈ m.repr.toList → Ordinary spaced c ∧ c ≠ ' ' := by
    intro m hc
    rw [Nat.toList_repr] at hc
    exact ordinary_of_isDigit (Value.Reader.isDigit_of_mem_toDigits hc)
  cases n with
  | ofNat m => exact hnat m hmem
  | negSucc m =>
    have hall : c ∈ ("-" ++ (m + 1).repr).toList := hmem
    rw [String.toList_append, List.mem_append] at hall
    rcases hall with hminus | hdigits
    · obtain rfl : c = '-' := by simpa using hminus
      exact ⟨ordinary_of_ne (by decide), by decide⟩
    · exact hnat _ hdigits

/-- What is written for machine numbers. -/
theorem ordinary_of_mark (h : c ∈ ['.', 'e', '+', '-'] ∨
    c ∈ ['I', 'n', 'f', 'i', 'n', 'i', 't', 'y']) : Ordinary spaced c ∧ c ≠ ' ' := by
  have hall : ∀ mark ∈ ['.', 'e', '+', '-'] ++ ['I', 'n', 'f', 'i', 'n', 'i', 't', 'y'],
      Ordinary spaced mark ∧ mark ≠ ' ' := by
    simp [Ordinary]
  exact hall c (List.mem_append.2 h)

theorem ordinary_hexChars (width n : Nat) : ∀ c ∈ Text.hexChars width n, Ordinary spaced c := by
  induction width generalizing n with
  | zero => simp [Text.hexChars]
  | succ width ih =>
    intro c hmem
    rw [Text.hexChars, List.mem_append, List.mem_singleton] at hmem
    rcases hmem with hmem | rfl
    · exact ih _ c hmem
    · have hall : ∀ digit < 16, (0x20 ≤ (Text.hexDigit digit).toNat ∧
          (Text.hexDigit digit).toNat < 0x7F) ∧ Text.hexDigit digit ≠ ':' := by decide
      exact ordinary_of_ne (hall _ (Nat.mod_lt _ (by decide)))

/-- What stands in a JSON string for a character, other than a colon where the colons are
spaced. -/
theorem ordinary_of_mem_escapedChar {d : Char} (hcolon : spaced → c ≠ ':')
    (hmem : d ∈ Value.escapedChar c) : Ordinary spaced d := by
  have hback : Ordinary spaced '\\' := ordinary_of_ne (by decide)
  have hletters : ∀ letter ∈ ['"', '\\', 'n', 'r', 't', 'b', 'f'], Ordinary spaced letter := by
    simp [Ordinary]
  have hunit : ∀ n, d ∈ '\\' :: 'u' :: Text.hexChars 4 n → Ordinary spaced d := by
    intro n hd
    rcases List.mem_cons.1 hd with rfl | hd
    · exact hback
    rcases List.mem_cons.1 hd with rfl | hd
    · exact ordinary_of_ne (by decide)
    exact ordinary_hexChars 4 n d hd
  have hletter : ∀ letter ∈ ['"', '\\', 'n', 'r', 't', 'b', 'f'], d ∈ ['\\', letter] →
      Ordinary spaced d := by
    intro letter hmem hd
    rcases List.mem_cons.1 hd with rfl | hd
    · exact hback
    · rw [List.mem_singleton.1 hd]
      exact hletters letter hmem
  rw [Value.escapedChar] at hmem
  split_ifs at hmem with hquote hline hreturn htab hbackspace hfeed hprinted hsmall
  · rcases hquote with rfl | rfl <;> exact hletter _ (by decide) hmem
  · exact hletter _ (by decide) hmem
  · exact hletter _ (by decide) hmem
  · exact hletter _ (by decide) hmem
  · exact hletter _ (by decide) hmem
  · exact hletter _ (by decide) hmem
  · obtain rfl := List.mem_singleton.1 hmem
    exact ⟨hprinted, hcolon⟩
  · exact hunit _ hmem
  · exact (List.mem_append.1 hmem).elim (hunit _) (hunit _)

/-- The JSON text of a text, one without colons where the colons are spaced. -/
theorem neat_jsonText {text : String} (h : spaced → ':' ∉ text.toList) :
    Neat spaced (Value.jsonText text).toList := by
  have hquote : Ordinary spaced '"' := ordinary_of_ne (by decide)
  have hchars : (Value.jsonText text).toList
      = ('"' :: text.toList.flatMap Value.escapedChar) ++ ['"'] := by
    rw [Value.jsonText, String.toList_ofList]
  rw [hchars]
  refine neat_of_ordinary (fun d hd => ?_) fun d hd => ?_
  · rcases List.mem_append.1 hd with hd | hd
    · rcases List.mem_cons.1 hd with rfl | hd
      · exact hquote
      · obtain ⟨c, hc, hd⟩ := List.mem_flatMap.1 hd
        exact ordinary_of_mem_escapedChar (fun hspaced hcolon => h hspaced (hcolon ▸ hc)) hd
    · rw [List.mem_singleton.1 hd]
      exact hquote
  · rw [List.getLast?_append_cons] at hd
    obtain rfl : '"' = d := by simpa using hd
    decide

end Console

/-! ## Whole documents

Pieces are joined with commas and broken into lines, and the pieces of a record begin with the name
of a field. -/

namespace Value

mutual

/-- A document without machine numbers, and without colons in its texts.  The statistics of a run
are such documents, whatever they count. -/
def Plain : Value → Prop
  | real _ => False
  | text s => ':' ∉ s.toList
  | list items => PlainItems items
  | record fields => PlainFields fields
  | _ => True

/-- Items that are all such documents. -/
def PlainItems : List Value → Prop
  | [] => True
  | item :: rest => item.Plain ∧ PlainItems rest

/-- Fields whose names hold no colon and whose values are all such documents. -/
def PlainFields : List (String × Value) → Prop
  | [] => True
  | (key, value) :: rest => ':' ∉ key.toList ∧ value.Plain ∧ PlainFields rest

end

end Value

namespace Console

open Value

variable {spaced : Prop}

theorem spacing_breakText (layout : Layout) (depth : Nat) :
    Spacing (layout.breakText depth).toList := by
  cases layout with
  | oneLine => exact .spaces 0
  | indented step =>
    have hchars : ((Layout.indented step).breakText depth).toList
        = '\n' :: List.replicate (step * depth) ' ' := by
      simp [Layout.breakText, String.toList_append, String.toList_ofList]
    rw [hchars]
    exact .line _

/-- What the layout puts between two items is space. -/
theorem spacing_behindComma (layout : Layout) (depth : Nat) :
    Spacing (Reader.behindComma layout depth).toList := by
  cases layout with
  | oneLine =>
    rw [show (Reader.behindComma .oneLine depth).toList = [' '] by simp [Reader.behindComma]]
    exact .spaces 1
  | indented step => exact spacing_breakText (.indented step) depth

/-- Texts that are printed as they are, and not empty. -/
def NeatTexts (spaced : Prop) (items : List String) : Prop :=
  ∀ item ∈ items, Neat spaced item.toList ∧ item.toList ≠ []

theorem neatTexts_cons {item : String} {rest : List String} :
    NeatTexts spaced (item :: rest) ↔ NeatTexts spaced [item] ∧ NeatTexts spaced rest := by
  simp [NeatTexts]

theorem neat_comma : Neat spaced [','] := by
  refine neat_of_ordinary ?_ ?_ <;> simp [Ordinary]

/-- Items that are neat are neat with separators between them. -/
theorem neat_intercalate (layout : Layout) (depth : Nat) {items : List String} (hne : items ≠ [])
    (h : NeatTexts spaced items) : Neat spaced ((layout.separator depth).intercalate items).toList ∧
      ((layout.separator depth).intercalate items).toList ≠ [] := by
  induction items with
  | nil => exact absurd rfl hne
  | cons first others ih =>
    obtain ⟨hfirst, hothers⟩ := neatTexts_cons.1 h
    obtain ⟨hneat, hfilled⟩ := hfirst first List.mem_cons_self
    cases others with
    | nil =>
      rw [String.intercalate_singleton]
      exact ⟨hneat, hfilled⟩
    | cons next more =>
      obtain ⟨hlater, hlater'⟩ := ih (by simp) hothers
      rw [Reader.toList_intercalate_cons_cons]
      refine ⟨hneat.append ?_, by simp⟩
      exact neat_comma.space (by simp) (spacing_behindComma layout depth) hlater hlater'

/-- A group adds brackets, and space within them; an empty one is its brackets alone. -/
theorem neat_group (layout : Layout) (depth : Nat) {opening closing : String} {items : List String}
    (hopening : NeatTexts spaced [opening]) (hclosing : NeatTexts spaced [closing])
    (h : NeatTexts spaced items) : NeatTexts spaced [layout.group depth opening closing items] := by
  intro text htext
  obtain rfl := List.mem_singleton.1 htext
  obtain ⟨hopen, hopen'⟩ := hopening opening List.mem_cons_self
  obtain ⟨hclose, hclose'⟩ := hclosing closing List.mem_cons_self
  by_cases hempty : items = []
  · have hgroup : layout.group depth opening closing items = opening ++ closing := by
      rw [Layout.group, if_pos (by simpa using hempty)]
    rw [hgroup, String.toList_append]
    exact ⟨hopen.append hclose, by simp [hopen']⟩
  · obtain ⟨hitems, hitems'⟩ := neat_intercalate layout (depth + 1) hempty h
    have hinside := hitems.space hitems' (spacing_breakText layout depth) hclose hclose'
    rw [Reader.toList_group hempty]
    exact ⟨hopen.space hopen' (spacing_breakText layout (depth + 1)) hinside
      (List.append_ne_nil_of_left_ne_nil hitems' _), List.append_ne_nil_of_left_ne_nil hopen' _⟩

/-- A text of ordinary characters without spaces. -/
theorem neatTexts_of_ordinary {text : String} (hne : text.toList ≠ [])
    (h : ∀ c ∈ text.toList, Ordinary spaced c ∧ c ≠ ' ') : NeatTexts spaced [text] := by
  intro item hitem
  obtain rfl := List.mem_singleton.1 hitem
  exact ⟨neat_of_ordinary (fun c hc => (h c hc).1)
    fun c hc => (h c (List.mem_of_getLast? hc)).2, hne⟩

/-- The words and brackets of documents. -/
theorem neatTexts_word : ∀ word ∈ ["null", "true", "false", "[", "]", "\x7b", "\x7d"],
    NeatTexts spaced [word] := by
  have hall : ∀ word ∈ ["null", "true", "false", "[", "]", "\x7b", "\x7d"],
      word.toList ≠ [] ∧ ∀ c ∈ word.toList, Ordinary spaced c ∧ c ≠ ' ' := by
    simp [Ordinary]
  exact fun word hword => neatTexts_of_ordinary (hall word hword).1 (hall word hword).2

theorem neatTexts_real (r : Real) : NeatTexts spaced [r.text "Infinity"] := by
  obtain ⟨word, hchars, hne, hword⟩ := Reader.exists_word r
  refine neatTexts_of_ordinary (by simp [hchars, hne]) fun c hc => ?_
  rw [hchars, List.mem_append] at hc
  rcases hc with hsign | hc
  · split at hsign
    · exact ordinary_of_mark (.inl (by simp [List.mem_singleton.1 hsign]))
    · exact absurd hsign List.not_mem_nil
  · exact (hword c hc).elim ordinary_of_isDigit ordinary_of_mark

theorem neatTexts_jsonText {text : String} (h : spaced → ':' ∉ text.toList) :
    NeatTexts spaced [Value.jsonText text] := by
  intro item hitem
  obtain rfl := List.mem_singleton.1 hitem
  exact ⟨neat_jsonText h, by simp [Value.jsonText]⟩

mutual

/-- **The JSON text of a document** is neat, with spaced colons if the document is plain.  By
recursion on the document, together with the lists of items and of fields. -/
theorem neat_toJsonAt (layout : Layout) (depth : Nat) :
    (value : Value) → (spaced → value.Plain) → NeatTexts spaced [value.toJsonAt layout depth]
  | .null, _ => neatTexts_word "null" (by simp)
  | .bool true, _ => neatTexts_word "true" (by simp)
  | .bool false, _ => neatTexts_word "false" (by simp)
  | .int n, _ => by
    obtain ⟨c, rest, hchars, -⟩ := Reader.exists_toString n
    refine neatTexts_of_ordinary ?_ fun c => ordinary_of_mem_toString n
    rw [toJsonAt, hchars]
    exact List.cons_ne_nil c rest
  | .real r, _ => neatTexts_real r
  | .text s, hplain => neatTexts_jsonText hplain
  | .list items, hplain =>
    neat_group layout depth (neatTexts_word "[" (by simp)) (neatTexts_word "]" (by simp))
      (neat_jsonItems layout (depth + 1) items hplain)
  | .record fields, hplain =>
    neat_group layout depth (neatTexts_word "\x7b" (by simp)) (neatTexts_word "\x7d" (by simp))
      (neat_jsonFields layout (depth + 1) fields hplain)

/-- The items of a list. -/
theorem neat_jsonItems (layout : Layout) (depth : Nat) :
    (items : List Value) → (spaced → PlainItems items) →
      NeatTexts spaced (jsonItems layout depth items)
  | [], _ => by simp [jsonItems, NeatTexts]
  | item :: rest, hplain =>
    neatTexts_cons.2 ⟨neat_toJsonAt layout depth item fun hspaced => (hplain hspaced).1,
      neat_jsonItems layout depth rest fun hspaced => (hplain hspaced).2⟩

/-- The fields of a record. -/
theorem neat_jsonFields (layout : Layout) (depth : Nat) :
    (fields : List (String × Value)) → (spaced → PlainFields fields) →
      NeatTexts spaced (jsonFields layout depth fields)
  | [], _ => by simp [jsonFields, NeatTexts]
  | (key, value) :: rest, hplain => by
    have hkey : spaced → ':' ∉ key.toList := fun hspaced => (hplain hspaced).1
    have hvalue : spaced → value.Plain := fun hspaced => (hplain hspaced).2.1
    have hrest : spaced → PlainFields rest := fun hspaced => (hplain hspaced).2.2
    refine neatTexts_cons.2 ⟨fun item hitem => ?_, neat_jsonFields layout depth rest hrest⟩
    obtain rfl := List.mem_singleton.1 hitem
    obtain ⟨hname, hname'⟩ := neatTexts_jsonText hkey _ List.mem_cons_self
    obtain ⟨hneat, hfilled⟩ := neat_toJsonAt layout depth value hvalue _ List.mem_cons_self
    rw [String.toList_append, String.toList_append, List.append_assoc]
    exact ⟨hname.space hname' .colon hneat hfilled, by simp [hname']⟩

end

/-- The JSON text of a document is printed as it is, where no pictographs are asked for. -/
theorem messageText_toJson (layout : Layout) {value : Value}
    (hpictographs : withPictographs (value.toJson layout).toList = (value.toJson layout).toList) :
    messageText (value.toJson layout) = value.toJson layout ++ "\n" :=
  messageText_of_withPictographs
    (neat_toJsonAt layout 0 value False.elim _ List.mem_cons_self).1 hpictographs

/-- **A plain document is printed as its JSON text**, with a line end behind it.  So what is printed
can be read back as the document. -/
theorem out_document (voice : Voice) {value : Value} (h : value.Plain) :
    (voice.document value).out = value.toJson (.indented 2) ++ "\n" :=
  messageText_of_neat
    (neat_toJsonAt (.indented 2) 0 value (fun _ => h) _ List.mem_cons_self).1

end Console
end AssetPublish
