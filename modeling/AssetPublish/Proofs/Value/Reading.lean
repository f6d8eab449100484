import AssetPublish.Proofs.Value.Numerals
import AssetPublish.Value.Json

/-!
# Reading documents back

The JSON text of a document denotes the document, whichever way it is laid out, except for two
things: infinite machine numbers have no text in JSON, and of fields with the same name only one is
read back.

The reader takes what it has read off the front of the text and hands on the rest, so that the
statement about a document is one with any text behind it.  All that is asked of this text is that
it does not go on with a number, since digits behind `12` would make another number of it, while
every other document says by itself where it ends.  Blanks in front are part of the statement as
well, because the layout puts them there.

The recursion of the reader is bounded by a number that must be larger than the text is long.  The
proof is by recursion on the document, with its lists of items and of fields, and at each step the
text gets shorter by at least its brackets.

## What is here

* `Value.Exact` — a document with finite numbers only, and with distinct names in every record.
* `readText_escaped` — texts are read back.
* `readValue_toJsonAt`, `readItems_jsonItems`, `readFields_jsonFields` — so are documents with
  anything behind them that ends a number.
* `ofJson?_toJson` — a whole text denotes its document.
-/

set_option autoImplicit false

namespace AssetPublish
namespace Value

/-! ## Documents -/

mutual

/-- A document with finite numbers only, and with distinct names in every record.  Both conditions
are on what stands in the document, and nothing is asked of its texts: whatever they hold is escaped
and read back. -/
def Exact : Value → Prop
  | real r => r.IsFinite
  | list items => ExactItems items
  | record fields => (fields.map Prod.fst).Nodup ∧ ExactFields fields
  | _ => True

/-- Items that are all such documents. -/
def ExactItems : List Value → Prop
  | [] => True
  | item :: rest => item.Exact ∧ ExactItems rest

/-- Fields whose values are all such documents. -/
def ExactFields : List (String × Value) → Prop
  | [] => True
  | (_, value) :: rest => value.Exact ∧ ExactFields rest

end

namespace Reader

variable {c : Char} {cs gap gap' tail : List Char} {layout : Layout} {depth fuel n : Nat}

/-! ## Texts

Everything outside of printable ASCII is escaped, so that there is one way to read back for plain
characters, one for short escapes, and one for units. -/

/-- Four hexadecimal digits denote the number that they were made from. -/
theorem exists_hexChars (h : n < 0x10000) :
    ∃ a b c d, Text.hexChars 4 n = [a, b, c, d] ∧ unit? a b c d = some n := by
  refine ⟨_, _, _, _, rfl, ?_⟩
  simp only [unit?, hexValue?_hexDigit (Nat.mod_lt _ (by decide : 0 < 16)), Option.bind_eq_bind,
    Option.bind_some, Option.pure_def, Option.some.injEq]
  omega

/-- An escaped unit is half of a pair, or the character itself. -/
theorem readChar_unit (h : n < 0x10000) (cs : List Char) :
    readChar ('\\' :: 'u' :: Text.hexChars 4 n ++ cs) =
      match (unitAhead? cs).bind (pairChar? n) with
      | some paired => some (paired, cs.drop 6)
      | none => some (unitChar n, cs) := by
  obtain ⟨a, b, c, d, hchars, hunit⟩ := exists_hexChars h
  simp only [hchars, List.cons_append, List.nil_append]
  rw [readChar, hunit]
  rfl

/-- A character that needs no escape is read as it is. -/
theorem readChar_cons (hescape : c ≠ '\\') (hcontrol : 0x20 ≤ c.toNat) (cs : List Char) :
    readChar (c :: cs) = some (c, cs) := by
  rw [readChar]
  · rw [if_neg (Nat.not_lt.2 hcontrol)]
  · exact fun _ _ _ _ _ h => absurd h hescape
  · exact fun _ _ h => absurd h hescape

/-- No character is half of a pair. -/
theorem pairChar?_toNat (c : Char) (low : Nat) : pairChar? c.toNat low = none := by
  have hvalid : c.toNat < 0xD800 ∨ 0xDFFF < c.toNat ∧ c.toNat < 0x110000 := c.valid
  rw [pairChar?, if_neg (by omega)]

theorem unitChar_toNat (c : Char) : unitChar c.toNat = c := by
  have hvalid : c.toNat < 0xD800 ∨ 0xDFFF < c.toNat ∧ c.toNat < 0x110000 := c.valid
  rw [unitChar, if_neg (by omega), Char.ofNat_toNat]

/-- The two units of a character beyond `U+FFFF` form a pair. -/
theorem pairChar?_units (h : 0x10000 ≤ c.toNat) :
    pairChar? (0xD800 + (c.toNat - 0x10000) / 0x400) (0xDC00 + (c.toNat - 0x10000) % 0x400)
      = some c := by
  have hvalid : c.toNat < 0xD800 ∨ 0xDFFF < c.toNat ∧ c.toNat < 0x110000 := c.valid
  rw [pairChar?, if_pos (by omega),
    show 0x10000 + (0xD800 + (c.toNat - 0x10000) / 0x400 - 0xD800) * 0x400
      + (0xDC00 + (c.toNat - 0x10000) % 0x400 - 0xDC00) = c.toNat by omega, Char.ofNat_toNat]

/-- An escaped unit is seen from in front, and takes six characters. -/
theorem unitAhead?_hexChars (h : n < 0x10000) (cs : List Char) :
    unitAhead? ('\\' :: 'u' :: Text.hexChars 4 n ++ cs) = some n ∧
      ('\\' :: 'u' :: Text.hexChars 4 n ++ cs).drop 6 = cs := by
  obtain ⟨a, b, c, d, hchars, hunit⟩ := exists_hexChars h
  rw [hchars]
  exact ⟨hunit, rfl⟩

/-- **One character** is read back, however it is written.  A character beyond `U+FFFF` is written
as two units, and the reader has to see both of them before it knows the character. -/
theorem readChar_escapedChar (c : Char) (cs : List Char) :
    readChar (escapedChar c ++ cs) = some (c, cs) := by
  have hvalid : c.toNat < 0xD800 ∨ 0xDFFF < c.toNat ∧ c.toNat < 0x110000 := c.valid
  rw [escapedChar]
  split_ifs with hquote hline hreturn htab hback hfeed hprinted hunit
  · rcases hquote with rfl | rfl <;> rfl
  · rw [hline]; rfl
  · rw [hreturn]; rfl
  · rw [htab]; rfl
  · rw [hback]; rfl
  · rw [hfeed]; rfl
  · exact readChar_cons (fun h => hquote (.inr h)) hprinted.1 cs
  · rw [readChar_unit hunit]
    cases unitAhead? cs with
    | none => simp [unitChar_toNat]
    | some low => simp [pairChar?_toNat, unitChar_toNat]
  · obtain ⟨hlow, hbehind⟩ := unitAhead?_hexChars
      (show 0xDC00 + (c.toNat - 0x10000) % 0x400 < 0x10000 by omega) cs
    dsimp only
    rw [List.append_assoc, readChar_unit (by omega), hlow, Option.bind_some,
      pairChar?_units (by omega), hbehind]

/-- No character is written with a quote in front. -/
theorem exists_escapedChar (c : Char) :
    ∃ first rest, escapedChar c = first :: rest ∧ first ≠ '"' := by
  rw [escapedChar]
  split_ifs with hquote
  all_goals first
    | exact ⟨_, _, rfl, by decide⟩
    | exact ⟨_, _, rfl, fun h => hquote (.inl h)⟩

/-- **A text** is read back up to its closing quote.  Quotes inside are escaped, so that the first
quote that is not is the closing one. -/
theorem readText_escaped (cs tail : List Char) :
    readText (cs.flatMap escapedChar ++ '"' :: tail) = some (cs, tail) := by
  induction cs with
  | nil =>
    rw [readText]
    rfl
  | cons c rest ih =>
    have hquote : (escapedChar c ++ (rest.flatMap escapedChar ++ '"' :: tail)).head?
        ≠ some '"' := by
      obtain ⟨first, others, hfirst, hne⟩ := exists_escapedChar c
      simpa [hfirst] using hne
    rw [List.flatMap_cons, List.append_assoc, readText, if_neg hquote]
    split
    · rename_i heq
      rw [readChar_escapedChar] at heq
      obtain ⟨rfl, rfl⟩ := Prod.mk.inj (Option.some.inj heq)
      rw [ih]
      rfl
    · rename_i heq
      rw [readChar_escapedChar] at heq
      simp at heq

/-! ## Blanks

A layout on one line puts a space behind a comma; an indented one puts a line end and spaces there.
-/

/-- Blanks as they stand between the tokens of a document.  The layout uses spaces and line ends
only, though the reader skips tabs as well. -/
def Gap (gap : List Char) : Prop := ∀ c ∈ gap, c = ' ' ∨ c = '\n'

/-- What is not skipped: a character that is no blank, in front.  Every token starts in this way, so
that skipping blanks ends where the token begins. -/
def Solid (cs : List Char) : Prop :=
  ∀ c ∈ cs.head?, c ≠ ' ' ∧ c ≠ '\n' ∧ c ≠ '\t' ∧ c ≠ '\r'

theorem gap_breakText (layout : Layout) (depth : Nat) : Gap (layout.breakText depth).toList := by
  cases layout with
  | oneLine => simp [Layout.breakText, Gap]
  | indented step =>
    intro c hmem
    simp only [Layout.breakText, String.toList_append, String.toList_ofList,
      List.mem_append] at hmem
    rcases hmem with hmem | hmem
    · exact .inr (by simpa using hmem)
    · exact .inl (List.eq_of_mem_replicate hmem)

/-- What stands behind the comma between two items. -/
def behindComma (layout : Layout) (depth : Nat) : String :=
  match layout with
  | .oneLine => " "
  | .indented _ => layout.breakText depth

/-- Between two items there is a comma, and something that is skipped. -/
theorem separator_eq (layout : Layout) (depth : Nat) :
    layout.separator depth = "," ++ behindComma layout depth := by
  cases layout with
  | oneLine => rfl
  | indented step => rfl

theorem gap_behindComma (layout : Layout) (depth : Nat) :
    Gap (behindComma layout depth).toList := by
  cases layout with
  | oneLine => simp [behindComma, Gap]
  | indented step => exact gap_breakText (.indented step) depth

theorem skipBlanks_append (hgap : Gap gap) (hsolid : Solid cs) : skipBlanks (gap ++ cs) = cs := by
  have hblanks : ∀ c ∈ gap, (c = ' ' || c = '\n' || c = '\t' || c = '\r') = true := by
    intro c hmem
    rcases hgap c hmem with rfl | rfl <;> rfl
  rw [skipBlanks, List.dropWhile_append_of_pos hblanks]
  cases cs with
  | nil => rfl
  | cons c rest =>
    obtain ⟨hspace, hline, htab, hreturn⟩ := hsolid c rfl
    rw [List.dropWhile_cons_of_neg (by simp [hspace, hline, htab, hreturn])]

theorem skipBlanks_of_gap (hgap : Gap gap) : skipBlanks gap = [] := by
  have hskip := skipBlanks_append hgap (show Solid [] by simp [Solid])
  rwa [List.append_nil] at hskip

/-! ## Documents -/

theorem solid_cons {c : Char} (h : c ≠ ' ' ∧ c ≠ '\n' ∧ c ≠ '\t' ∧ c ≠ '\r') (cs : List Char) :
    Solid (c :: cs) := by
  rintro _ ⟨⟩
  exact h

/-- Blanks in front of a value are skipped before anything is decided. -/
theorem readValue_of_gap (fuel : Nat) (hgap : Gap gap) (hsolid : Solid cs) :
    readValue (fuel + 1) (gap ++ cs) = readValue (fuel + 1) cs := by
  have hself : skipBlanks cs = cs := skipBlanks_append (show Gap [] by simp [Gap]) hsolid
  rw [readValue, readValue, skipBlanks_append hgap hsolid, hself]

theorem readWord_eq_none {c : Char} (hn : c ≠ 'n') (ht : c ≠ 't') (hf : c ≠ 'f') (cs : List Char) :
    readWord (c :: cs) = none := by
  unfold readWord
  split <;> first | rfl | simp_all

/-- The first character of a number. -/
def StartsNumber (c : Char) : Prop := c.isDigit = true ∨ c = '-'

theorem StartsNumber.ne {c other : Char} (h : StartsNumber c)
    (hother : other.isDigit = false ∧ other ≠ '-') : c ≠ other := by
  rintro rfl
  rcases h with h | h
  · rw [hother.1] at h
    cases h
  · exact hother.2 h

/-- A number starts with no blank. -/
theorem StartsNumber.solid {c : Char} (h : StartsNumber c) (cs : List Char) : Solid (c :: cs) :=
  solid_cons ⟨h.ne (by decide), h.ne (by decide), h.ne (by decide), h.ne (by decide)⟩ cs

/-- What starts as a number is one. -/
theorem readValue_of_startsNumber {c : Char} (h : StartsNumber c) (fuel : Nat) (cs : List Char) :
    readValue (fuel + 1) (c :: cs) = readNumber (c :: cs) := by
  have hskip : skipBlanks (c :: cs) = c :: cs :=
    skipBlanks_append (show Gap [] by simp [Gap]) (h.solid cs)
  rw [readValue, hskip]
  split
  · rename_i heq
    exact absurd (List.cons.inj heq).1 (h.ne (by decide))
  · rename_i heq
    exact absurd (List.cons.inj heq).1 (h.ne (by decide))
  · rename_i heq
    exact absurd (List.cons.inj heq).1 (h.ne (by decide))
  · rw [readWord_eq_none (h.ne (by decide)) (h.ne (by decide)) (h.ne (by decide)), Option.none_or]

/-- The text of an integer starts with a digit or a minus. -/
theorem exists_toString (n : Int) :
    ∃ first rest, (toString n).toList = first :: rest ∧ StartsNumber first := by
  cases n with
  | ofNat m =>
    obtain ⟨first, rest, hfirst, hdigit⟩ := exists_firstDigit m
    exact ⟨first, rest, (Nat.toList_repr : (m.repr).toList = _).trans hfirst, .inl hdigit⟩
  | negSucc m =>
    refine ⟨'-', (m + 1).repr.toList, ?_, .inr rfl⟩
    show ("-" ++ (m + 1).repr).toList = _
    rw [String.toList_append]
    rfl

theorem readValue_null (fuel : Nat) (tail : List Char) :
    readValue (fuel + 1) ("null".toList ++ tail) = some (null, tail) := by
  rfl

theorem readValue_bool (fuel : Nat) (b : Bool) (tail : List Char) :
    readValue (fuel + 1) ((if b then "true" else "false").toList ++ tail)
      = some (bool b, tail) := by
  cases b <;> rfl

theorem readValue_text (fuel : Nat) (s : String) (tail : List Char) :
    readValue (fuel + 1) ((jsonText s).toList ++ tail) = some (text s, tail) := by
  have hchars : (jsonText s).toList ++ tail
      = '"' :: (s.toList.flatMap escapedChar ++ '"' :: tail) := by
    simp [jsonText, String.toList_ofList]
  rw [hchars, readValue,
    show skipBlanks ('"' :: (s.toList.flatMap escapedChar ++ '"' :: tail))
      = '"' :: (s.toList.flatMap escapedChar ++ '"' :: tail) from rfl]
  simp only [readText_escaped, Option.map_some, String.ofList_toList]

theorem readValue_int (fuel : Nat) (n : Int) (htail : Delimited tail) :
    readValue (fuel + 1) ((toString n).toList ++ tail) = some (int n, tail) := by
  obtain ⟨first, rest, hchars, hfirst⟩ := exists_toString n
  rw [← readNumber_toString n htail, hchars]
  exact readValue_of_startsNumber hfirst fuel _

theorem readValue_real (fuel : Nat) {r : Real} (h : r.IsFinite) (htail : Delimited tail) :
    readValue (fuel + 1) ((r.text "Infinity").toList ++ tail) = some (real r, tail) := by
  obtain ⟨first, rest, hchars, hfirst⟩ := exists_text h "Infinity"
  rw [← readNumber_text h "Infinity" htail, hchars]
  exact readValue_of_startsNumber hfirst fuel _

/-- The text of a group starts with its opening bracket. -/
theorem exists_group (layout : Layout) (depth : Nat) (opening closing : String)
    (items : List String) : ∃ rest,
      (layout.group depth opening closing items).toList = opening.toList ++ rest := by
  rw [Layout.group]
  split
  · exact ⟨_, String.toList_append⟩
  · simp only [String.toList_append, List.append_assoc]
    exact ⟨_, rfl⟩

/-- A document starts with a character that is neither a blank nor a closing bracket. -/
theorem exists_toJsonAt (layout : Layout) (depth : Nat) {value : Value} (h : value.Exact) :
    ∃ first rest, (value.toJsonAt layout depth).toList = first :: rest ∧
      (∀ cs, Solid (first :: cs)) ∧ first ≠ ']' := by
  cases value with
  | null => exact ⟨'n', _, by rw [toJsonAt]; rfl, solid_cons (by decide), by decide⟩
  | bool b =>
    cases b with
    | false => exact ⟨'f', _, by rw [toJsonAt]; rfl, solid_cons (by decide), by decide⟩
    | true => exact ⟨'t', _, by rw [toJsonAt]; rfl, solid_cons (by decide), by decide⟩
  | int n =>
    obtain ⟨first, rest, hchars, hfirst⟩ := exists_toString n
    exact ⟨first, rest, by rw [toJsonAt, hchars], hfirst.solid, hfirst.ne (by decide)⟩
  | real r =>
    obtain ⟨first, rest, hchars, hfirst⟩ := exists_text h "Infinity"
    have hstarts : StartsNumber first := hfirst
    exact ⟨first, rest, by rw [toJsonAt, hchars], hstarts.solid, hstarts.ne (by decide)⟩
  | text s =>
    exact ⟨'"', _, by rw [toJsonAt, jsonText, String.toList_ofList, List.cons_append],
      solid_cons (by decide), by decide⟩
  | list items =>
    obtain ⟨rest, hrest⟩ := exists_group layout depth "[" "]" (jsonItems layout (depth + 1) items)
    exact ⟨'[', rest, by rw [toJsonAt, hrest]; rfl, solid_cons (by decide), by decide⟩
  | record fields =>
    obtain ⟨rest, hrest⟩ :=
      exists_group layout depth "\x7b" "\x7d" (jsonFields layout (depth + 1) fields)
    exact ⟨'\x7b', rest, by rw [toJsonAt, hrest]; rfl, solid_cons (by decide), by decide⟩

/-- The text of a group that is not empty. -/
theorem toList_group {items : List String} (h : items ≠ []) (layout : Layout) (depth : Nat)
    (opening closing : String) :
    (layout.group depth opening closing items).toList
      = opening.toList ++ ((layout.breakText (depth + 1)).toList ++
        (((layout.separator (depth + 1)).intercalate items).toList ++
          ((layout.breakText depth).toList ++ closing.toList))) := by
  rw [Layout.group, if_neg (by simpa using h)]
  simp only [String.toList_append, List.append_assoc]

theorem delimited_cons {c : Char} (h : c.isDigit = false ∧ c ≠ '.' ∧ c ≠ 'e' ∧ c ≠ 'E')
    (cs : List Char) : Delimited (c :: cs) := by
  rintro _ ⟨⟩
  exact h

/-- Blanks may stand between a number and what ends it. -/
theorem Delimited.gap_append (h : Delimited tail) (hgap : Gap gap) : Delimited (gap ++ tail) := by
  cases gap with
  | nil => exact h
  | cons c rest =>
    rcases hgap c List.mem_cons_self with rfl | rfl <;> exact delimited_cons (by decide) _

/-- A list with items is read from its first one on. -/
theorem readValue_list {items : List Value} (hgap : Gap gap) (hsolid : Solid (c :: cs))
    (hc : c ≠ ']') (hread : readItems fuel (c :: cs) = some (items, tail)) :
    readValue (fuel + 1) ('[' :: (gap ++ c :: cs)) = some (list items, tail) := by
  rw [readValue, show skipBlanks ('[' :: (gap ++ c :: cs)) = '[' :: (gap ++ c :: cs) from rfl]
  simp only [skipBlanks_append hgap hsolid]
  split
  · rename_i heq
    exact absurd (List.cons.inj heq).1 hc
  · rw [hread]
    rfl

/-- A record with fields is read from its first one on. -/
theorem readValue_record {fields : List (String × Value)} (hgap : Gap gap)
    (hread : readFields fuel [] ('"' :: cs) = some (fields, tail)) :
    readValue (fuel + 1) ('\x7b' :: (gap ++ '"' :: cs)) = some (record fields, tail) := by
  rw [readValue, show skipBlanks ('\x7b' :: (gap ++ '"' :: cs)) = '\x7b' :: (gap ++ '"' :: cs)
    from rfl]
  have hsolid : Solid ('"' :: cs) := solid_cons (by decide) cs
  simp only [skipBlanks_append hgap hsolid]
  show (readFields fuel [] ('"' :: cs)).map _ = _
  rw [hread]
  rfl

/-- The last item of a list. -/
theorem readItems_last {item : Value} (hgap : Gap gap)
    (hread : readValue fuel cs = some (item, gap ++ ']' :: tail)) :
    readItems (fuel + 1) cs = some ([item], tail) := by
  have hsolid : Solid (']' :: tail) := solid_cons (by decide) tail
  rw [readItems, hread]
  simp only [Option.bind_eq_bind, Option.bind_some, skipBlanks_append hgap hsolid]
  rfl

/-- An item of a list with others behind it. -/
theorem readItems_more {item : Value} {items : List Value} {behind : List Char}
    (hread : readValue fuel cs = some (item, ',' :: behind))
    (hmore : readItems fuel behind = some (items, tail)) :
    readItems (fuel + 1) cs = some (item :: items, tail) := by
  rw [readItems, hread]
  simp only [Option.bind_eq_bind, Option.bind_some,
    show skipBlanks (',' :: behind) = ',' :: behind from rfl, hmore]
  rfl

/-! ## Fields

A field with a name that is there already takes the place of the other, which is why names must be
distinct. -/

/-- A field with a new name comes last. -/
theorem putField_of_not_mem {name : String} {value : Value} {fields : List (String × Value)}
    (h : name ∉ fields.map Prod.fst) : putField name value fields = fields ++ [(name, value)] := by
  induction fields with
  | nil => rfl
  | cons field rest ih =>
    rw [List.map_cons, List.mem_cons, not_or] at h
    rw [putField, if_neg (Ne.symm h.1), ih h.2, List.cons_append]

/-- The name of a field and the value behind it. -/
theorem readFields_name {key : String} {value : Value} {before : List (String × Value)}
    {behind : List Char} (hgap : Gap gap)
    (hread : readValue fuel (' ' :: cs) = some (value, behind)) :
    readFields (fuel + 1) before (gap ++ ((jsonText key ++ ": ").toList ++ cs)) =
      match skipBlanks behind with
      | '\x7d' :: rest => some (putField key value before, rest)
      | ',' :: rest => readFields fuel (putField key value before) rest
      | _ => none := by
  have hchars : (jsonText key ++ ": ").toList ++ cs
      = '"' :: (key.toList.flatMap escapedChar ++ '"' :: ':' :: ' ' :: cs) := by
    simp [jsonText, String.toList_ofList]
  have hsolid : Solid ('"' :: (key.toList.flatMap escapedChar ++ '"' :: ':' :: ' ' :: cs)) :=
    solid_cons (by decide) _
  rw [hchars, readFields, skipBlanks_append hgap hsolid]
  simp only [readText_escaped, Option.bind_eq_bind, Option.bind_some,
    show skipBlanks (':' :: ' ' :: cs) = ':' :: ' ' :: cs from rfl, hread, String.ofList_toList]
  rfl

/-- The last field of a record. -/
theorem readFields_last {key : String} {value : Value} {before : List (String × Value)}
    (hgap : Gap gap) (hgap' : Gap gap')
    (hread : readValue fuel (' ' :: cs) = some (value, gap' ++ '\x7d' :: tail)) :
    readFields (fuel + 1) before (gap ++ ((jsonText key ++ ": ").toList ++ cs))
      = some (putField key value before, tail) := by
  have hsolid : Solid ('\x7d' :: tail) := solid_cons (by decide) tail
  rw [readFields_name hgap hread, skipBlanks_append hgap' hsolid]
  rfl

/-- A field of a record with others behind it. -/
theorem readFields_more {key : String} {value : Value} {before : List (String × Value)}
    {behind : List Char} (hgap : Gap gap)
    (hread : readValue fuel (' ' :: cs) = some (value, ',' :: behind)) :
    readFields (fuel + 1) before (gap ++ ((jsonText key ++ ": ").toList ++ cs))
      = readFields fuel (putField key value before) behind := by
  rw [readFields_name hgap hread, show skipBlanks (',' :: behind) = ',' :: behind from rfl]
  rfl

/-! ## Whole documents

What has been shown for single items and fields is put together along the lists that hold them. -/

/-- Two texts and more with what stands between them. -/
theorem toList_intercalate_cons_cons (layout : Layout) (depth : Nat) (first next : String)
    (others : List String) :
    ((layout.separator depth).intercalate (first :: next :: others)).toList = first.toList ++
      ',' :: ((behindComma layout depth).toList ++
        ((layout.separator depth).intercalate (next :: others)).toList) := by
  rw [String.intercalate_cons_cons, String.toList_append, String.toList_append, separator_eq,
    String.toList_append, List.append_assoc, List.append_assoc]
  rfl

theorem exists_intercalate (separator first : String) (others : List String) :
    ∃ behind, (separator.intercalate (first :: others)).toList = first.toList ++ behind := by
  cases others with
  | nil => exact ⟨[], by rw [String.intercalate_singleton, List.append_nil]⟩
  | cons next more =>
    exact ⟨_, by rw [String.intercalate_cons_cons, String.toList_append, String.toList_append,
      List.append_assoc]⟩

/-- A group is longer than what stands between its brackets. -/
theorem length_group {items : List String} (h : items ≠ []) (layout : Layout) (depth : Nat)
    {opening closing : String} (hopening : 0 < opening.toList.length)
    (hclosing : 0 < closing.toList.length) :
    ((layout.separator (depth + 1)).intercalate items).toList.length + 1
      < (layout.group depth opening closing items).toList.length := by
  rw [toList_group h]
  simp only [List.length_append]
  omega

/-- A list whose items are read back is read back. -/
theorem readValue_of_items {layout : Layout} {item : Value} {rest : List Value}
    (hexact : item.Exact)
    (hread : readItems fuel (((layout.separator (depth + 1)).intercalate
        (jsonItems layout (depth + 1) (item :: rest))).toList ++
          ((layout.breakText depth).toList ++ ']' :: tail)) = some (item :: rest, tail)) :
    readValue (fuel + 1) (((list (item :: rest)).toJsonAt layout depth).toList ++ tail)
      = some (list (item :: rest), tail) := by
  obtain ⟨first, others, hchars, hsolid, hclosing⟩ := exists_toJsonAt layout (depth + 1) hexact
  obtain ⟨behind, hbehind⟩ := exists_intercalate (layout.separator (depth + 1))
    (item.toJsonAt layout (depth + 1)) (jsonItems layout (depth + 1) rest)
  rw [toJsonAt, toList_group (by simp [jsonItems])]
  rw [jsonItems, hbehind, hchars] at hread ⊢
  simp only [List.append_assoc, List.cons_append] at hread ⊢
  exact readValue_list (gap_breakText layout (depth + 1)) (hsolid _) hclosing hread

/-- A record whose fields are read back is read back. -/
theorem readValue_of_fields {layout : Layout} {key : String} {value : Value}
    {rest : List (String × Value)}
    (hread : readFields fuel [] (((layout.separator (depth + 1)).intercalate
        (jsonFields layout (depth + 1) ((key, value) :: rest))).toList ++
          ((layout.breakText depth).toList ++ '\x7d' :: tail))
      = some ((key, value) :: rest, tail)) :
    readValue (fuel + 1) (((record ((key, value) :: rest)).toJsonAt layout depth).toList ++ tail)
      = some (record ((key, value) :: rest), tail) := by
  obtain ⟨behind, hbehind⟩ := exists_intercalate (layout.separator (depth + 1))
    (jsonText key ++ ": " ++ value.toJsonAt layout (depth + 1))
    (jsonFields layout (depth + 1) rest)
  rw [toJsonAt, toList_group (by simp [jsonFields])]
  rw [jsonFields, hbehind] at hread ⊢
  simp only [jsonText, String.toList_append, String.toList_ofList, List.append_assoc,
    List.cons_append] at hread ⊢
  exact readValue_record (gap_breakText layout (depth + 1)) hread

section Documents

variable (layout : Layout)

mutual

/-- **A document is read back**, with blanks in front and whatever ends a number behind it.  The
bound on the recursion is asked for in terms of the text, since this is how the reader is called. -/
theorem readValue_toJsonAt : (value : Value) → value.Exact → ∀ (depth fuel : Nat)
    (gap tail : List Char), Gap gap → Delimited tail →
    (value.toJsonAt layout depth).toList.length < fuel →
    readValue fuel (gap ++ ((value.toJsonAt layout depth).toList ++ tail)) = some (value, tail)
  | value, hexact, depth, 0, gap, tail, hgap, htail, hfuel => absurd hfuel (Nat.not_lt_zero _)
  | value, hexact, depth, fuel + 1, gap, tail, hgap, htail, hfuel => by
    obtain ⟨first, others, hchars, hsolid, -⟩ := exists_toJsonAt layout depth hexact
    have hstart : Solid ((value.toJsonAt layout depth).toList ++ tail) := by
      rw [hchars]
      exact hsolid _
    rw [readValue_of_gap fuel hgap hstart]
    cases value with
    | null => rw [toJsonAt]; exact readValue_null fuel tail
    | bool b => rw [toJsonAt]; exact readValue_bool fuel b tail
    | int n => rw [toJsonAt]; exact readValue_int fuel n htail
    | real r => rw [toJsonAt]; exact readValue_real fuel hexact htail
    | text s => rw [toJsonAt]; exact readValue_text fuel s tail
    | list items =>
      cases items with
      | nil =>
        have hnone : (toJsonAt layout depth (list [])).toList = ['[', ']'] := by
          simp [toJsonAt, jsonItems, Layout.group]
        rw [hnone]
        rfl
      | cons item rest =>
        have hlength := length_group (show jsonItems layout (depth + 1) (item :: rest) ≠ [] by
          simp [jsonItems]) layout depth (show 0 < "[".toList.length by decide)
            (show 0 < "]".toList.length by decide)
        rw [toJsonAt] at hfuel
        exact readValue_of_items hexact.1 (readItems_jsonItems (item :: rest) hexact (by simp)
          (depth + 1) fuel [] _ tail (by simp [Gap]) (gap_breakText layout depth) (by omega))
    | record fields =>
      cases fields with
      | nil =>
        have hnone : (toJsonAt layout depth (record [])).toList = ['\x7b', '\x7d'] := by
          simp [toJsonAt, jsonFields, Layout.group]
        rw [hnone]
        rfl
      | cons field rest =>
        have hlength := length_group (show jsonFields layout (depth + 1) (field :: rest) ≠ [] by
          simp [jsonFields]) layout depth (show 0 < "\x7b".toList.length by decide)
            (show 0 < "\x7d".toList.length by decide)
        rw [toJsonAt] at hfuel
        exact readValue_of_fields (readFields_jsonFields (field :: rest) hexact.2 (by simp) []
          hexact.1 (depth + 1) fuel [] _ tail (by simp [Gap]) (gap_breakText layout depth)
            (by omega))

/-- The items of a list are read back, up to the closing bracket. -/
theorem readItems_jsonItems : (items : List Value) → ExactItems items → items ≠ [] →
    ∀ (depth fuel : Nat) (gap gap' tail : List Char), Gap gap → Gap gap' →
    ((layout.separator depth).intercalate (jsonItems layout depth items)).toList.length + 1 < fuel →
    readItems fuel (gap ++ (((layout.separator depth).intercalate
        (jsonItems layout depth items)).toList ++ (gap' ++ ']' :: tail))) = some (items, tail)
  | [], hexact, hne => absurd rfl hne
  | item :: rest, hexact, hne => by
    rintro depth (_ | fuel) gap gap' tail hgap hgap' hfuel
    · exact absurd hfuel (Nat.not_lt_zero _)
    cases rest with
    | nil =>
      rw [jsonItems, jsonItems, String.intercalate_singleton] at hfuel ⊢
      have hend : Delimited (gap' ++ ']' :: tail) :=
        (delimited_cons (by decide) tail).gap_append hgap'
      exact readItems_last hgap'
        (readValue_toJsonAt item hexact.1 depth fuel gap _ hgap hend (by omega))
    | cons next more =>
      rw [jsonItems, jsonItems, toList_intercalate_cons_cons] at hfuel ⊢
      rw [List.length_append, List.length_cons, List.length_append] at hfuel
      have hmore := readItems_jsonItems (next :: more) hexact.2 (by simp) depth fuel _ gap' tail
        (gap_behindComma layout depth) hgap' (by rw [jsonItems]; omega)
      rw [jsonItems] at hmore
      simp only [List.append_assoc, List.cons_append] at hmore ⊢
      refine readItems_more ?_ hmore
      exact readValue_toJsonAt item hexact.1 depth fuel gap _ hgap (delimited_cons (by decide) _)
        (by omega)

/-- The fields of a record are read back, up to the closing brace. -/
theorem readFields_jsonFields : (fields : List (String × Value)) → ExactFields fields →
    fields ≠ [] → ∀ (before : List (String × Value)), ((before ++ fields).map Prod.fst).Nodup →
    ∀ (depth fuel : Nat) (gap gap' tail : List Char), Gap gap → Gap gap' →
    ((layout.separator depth).intercalate (jsonFields layout depth fields)).toList.length < fuel →
    readFields fuel before (gap ++ (((layout.separator depth).intercalate
        (jsonFields layout depth fields)).toList ++ (gap' ++ '\x7d' :: tail)))
      = some (before ++ fields, tail)
  | [], hexact, hne => absurd rfl hne
  | (key, value) :: rest, hexact, hne => by
    rintro before hnames depth (_ | fuel) gap gap' tail hgap hgap' hfuel
    · exact absurd hfuel (Nat.not_lt_zero _)
    have hput : putField key value before = before ++ [(key, value)] := by
      refine putField_of_not_mem fun hmem => ?_
      rw [List.map_append, List.map_cons, List.nodup_append] at hnames
      exact hnames.2.2 key hmem key List.mem_cons_self rfl
    have hspace : Gap [' '] := by simp [Gap]
    have hkey : 0 < (jsonText key ++ ": ").toList.length := by simp
    cases rest with
    | nil =>
      rw [jsonFields, jsonFields, String.intercalate_singleton, String.toList_append] at hfuel ⊢
      rw [List.length_append] at hfuel
      have hend : Delimited (gap' ++ '\x7d' :: tail) :=
        (delimited_cons (by decide) tail).gap_append hgap'
      rw [List.append_assoc, ← hput]
      exact readFields_last hgap hgap'
        (readValue_toJsonAt value hexact.1 depth fuel [' '] _ hspace hend (by omega))
    | cons next more =>
      rw [jsonFields, jsonFields, toList_intercalate_cons_cons, String.toList_append] at hfuel ⊢
      simp only [List.length_append, List.length_cons] at hfuel
      have hmore := readFields_jsonFields (next :: more) hexact.2 (by simp)
        (before ++ [(key, value)]) (by simpa using hnames) depth fuel _ gap' tail
        (gap_behindComma layout depth) hgap' (by rw [jsonFields]; omega)
      rw [jsonFields, ← hput] at hmore
      simp only [List.append_assoc, List.cons_append] at hmore ⊢
      refine (readFields_more hgap ?_).trans (hmore.trans (by rw [hput]; simp))
      exact readValue_toJsonAt value hexact.1 depth fuel [' '] _ hspace
        (delimited_cons (by decide) _) (by omega)

end

end Documents

end Reader

open Reader

/-- **The text of a document denotes the document**, with any blanks behind it.  This is the
converse of writing it, for both layouts at once. -/
theorem ofJson?_toJson (layout : Layout) {value : Value} (h : value.Exact) {blanks : String}
    (hblanks : Gap blanks.toList) : ofJson? (value.toJson layout ++ blanks) = some value := by
  have hend : Delimited blanks.toList := by
    have hnone : Delimited [] := by simp [Delimited]
    simpa using hnone.gap_append hblanks
  have hfuel : (value.toJsonAt layout 0).toList.length
      ≤ (value.toJson layout ++ blanks).toList.length := by
    rw [toJson, String.toList_append, List.length_append]
    exact Nat.le_add_right _ _
  have hread := readValue_toJsonAt layout value h 0
    ((value.toJson layout ++ blanks).toList.length + 1) [] blanks.toList (by simp [Gap]) hend (Nat.lt_succ_of_le hfuel)
  rw [ofJson?, String.toList_append] at *
  rw [toJson] at *
  simp only [List.nil_append] at hread
  rw [hread]
  simp [skipBlanks_of_gap hblanks]

end Value
end AssetPublish
