import AssetPublish.Proofs.Console.Codes
import AssetPublish.Proofs.Console.Verbatim

/-!
# Output that is not altered

Names of files and targets of links come from the tree, and the console must print them as they
are.  It does so for every text on one line that ends with no blank, unless the text asks for a
pictograph: names between colons are looked up in all that is printed, in the lines for steps and in
documents as well, so that a path such as `x:a:y` is not printed as it is.

Each statement is an equivalence, so that the texts that are altered are known as well.  Two things
can happen to a text on one line: a name between colons is replaced, or blanks at its end are cut
where they lie beyond the width.  The line for a step ends with a blank in one case only, that of a
link that leads to an empty text.  The condition that remains is therefore on the codes alone.

## What is here

* `Level`, `Flat` — texts without control characters, and those that end with no blank as well.
* `messageText_eq_iff` — the texts of which a message shows all characters.
* `Report.level_line`, `Report.fits_line_iff` — the line for a step is such a text.
* `output_unaltered_iff` — messages, lines for steps, and documents.
-/

set_option autoImplicit false

namespace AssetPublish
namespace Console

variable {text front back : String}

/-! ## Texts on one line -/

/-- A text without control characters: it has neither tabs nor line ends.  Control characters are
dropped or filled up by the console, whatever the text asks for, so that nothing could be said about
a text that has them. -/
def Level (text : String) : Prop := ∀ c ∈ text.toList, 0x20 ≤ c.toNat

instance (text : String) : Decidable (Level text) := List.decidableBAll _ _

/-- A text without control characters and without blanks at its end. -/
structure Flat (text : String) : Prop where
  level : Level text
  closed : ∀ c ∈ text.toList.getLast?, Text.isBlank c = false

/-- A text that has no blanks at its end which lie beyond the width of the console.  Blanks within
the width are kept, so that not every blank at the end is lost. -/
def Fits (text : String) : Prop :=
  Text.trailingBlanks text.toList = 0 ∨ text.length ≤ width

theorem Level.append (hfront : Level front) (hback : Level back) : Level (front ++ back) := by
  intro c hc
  rw [String.toList_append] at hc
  exact (List.mem_append.1 hc).elim (hfront c) (hback c)

theorem Level.not_mem {control : Char} (h : Level text) (hcontrol : control.toNat < 0x20) :
    control ∉ text.toList :=
  fun hmem => absurd (h control hmem) (Nat.not_le.2 hcontrol)

theorem Level.withoutControls (h : Level text) : withoutControls text.toList = text.toList := by
  refine List.filter_eq_self.2 fun c hmem => ?_
  have hall : droppedControls.all (fun c => c.toNat < 0x20) = true := by decide
  by_contra hdropped
  have hcontrol := List.all_eq_true.1 hall c (by simpa using hdropped)
  exact h.not_mem (of_decide_eq_true hcontrol) hmem

/-- A text without control characters is one line. -/
theorem Level.lines (h : Level text) (width : Nat) :
    lines width text.toList = [trimLine width text.toList] := by
  rw [Console.lines, Text.splitChars_of_not_mem (h.not_mem (by decide)), List.map_singleton,
    expandTabs_of_not_mem (h.not_mem (by decide))]

theorem flat_of_getLast? {last : Char} (hlevel : Level text)
    (hlast : text.toList.getLast? = some last) (hblank : Text.isBlank last = false) : Flat text :=
  ⟨hlevel, fun c hc => by rwa [Option.some.inj (hc.symm.trans hlast)]⟩

theorem Flat.fits (h : Flat text) : Fits text := .inl (trailingBlanks_eq_zero h.closed)

theorem trimLine_eq_self_iff : trimLine width text.toList = text.toList ↔ Fits text := by
  have hle := Text.trailingBlanks_le text.toList
  rw [trimLine, List.take_eq_self_iff, Fits, ← String.length_toList]
  omega

/-- What a message shows once the pictographs stand in the text. -/
theorem messageText_of_level {shown : String} (h : Level shown)
    (hpictographs : withPictographs text.toList = shown.toList) :
    messageText text = String.ofList (trimLine width shown.toList) ++ "\n" := by
  rw [messageText, hpictographs, h.withoutControls, h.lines]
  exact String.ofList_append

/-- **A message shows all characters of a text** without control characters just when it asks for no
pictograph and its end lies within the width of the console.  The two conditions are independent,
since no name between colons has a blank in it. -/
theorem messageText_eq_iff (h : Level text) :
    messageText text = text ++ "\n" ↔ Codeless text ∧ Fits text := by
  have hshown : Codeless text →
      messageText text = String.ofList (trimLine width text.toList) ++ "\n" :=
    fun hcodeless => messageText_of_level h (withPictographs_of_codeless hcodeless)
  have hcancel : String.ofList (trimLine width text.toList) ++ "\n" = text ++ "\n" ↔
      trimLine width text.toList = text.toList := by
    rw [← String.toList_inj, String.toList_append, String.toList_append, String.toList_ofList]
    exact ⟨List.append_cancel_right, fun heq => by rw [heq]⟩
  constructor
  · intro heq
    have hcodeless := codeless_of_messageText heq
    exact ⟨hcodeless, trimLine_eq_self_iff.1 (hcancel.1 ((hshown hcodeless).symm.trans heq))⟩
  · rintro ⟨hcodeless, hfits⟩
    exact (hshown hcodeless).trans (hcancel.2 (trimLine_eq_self_iff.2 hfits))

/-! ## Messages -/

theorem inform_of_not_silent {voice : Voice} (h : voice.silent = false) (text : String) :
    voice.inform text = { out := messageText text } := by
  rw [Voice.inform, Voice.informValue, if_neg (by rw [h]; exact Bool.false_ne_true), valueText]

theorem inform_eq_iff {voice : Voice} (hvoice : voice.silent = false) (h : Level text) :
    voice.inform text = { out := text ++ "\n" } ↔ Codeless text ∧ Fits text := by
  rw [inform_of_not_silent hvoice, Printed.mk.injEq, messageText_eq_iff h]
  exact and_iff_left rfl

/-! ## Lines for steps

A line is put together from fixed words, the paths of the step, the target of a link, and a size. -/

/-- A text with one without blanks at its end behind it has blanks at its end only where that one
is empty. -/
theorem fits_append (hback : Flat back) (hlength : back = "" → front.length ≤ width) :
    Fits (front ++ back) := by
  by_cases hempty : back = ""
  · right
    rw [hempty, String.append_empty]
    exact hlength hempty
  · left
    refine trailingBlanks_eq_zero fun c hc => hback.closed c ?_
    rw [String.toList_append, List.getLast?_append] at hc
    cases hlast : back.toList.getLast? with
    | none =>
      rw [List.getLast?_eq_none_iff] at hlast
      exact absurd (String.toList_inj.1 (hlast.trans rfl)) hempty
    | some last =>
      rw [hlast] at hc
      exact hc

theorem trailingBlanks_append_blank
    (hblank : ∃ c ∈ back.toList.getLast?, Text.isBlank c = true) :
    Text.trailingBlanks (front ++ back).toList ≠ 0 := by
  obtain ⟨c, hlast, hblank⟩ := hblank
  obtain ⟨rest, hrest⟩ := List.getLast?_eq_some_iff.1 hlast
  rw [String.toList_append, hrest, ← List.append_assoc, Text.trailingBlanks, List.reverse_append,
    List.reverse_singleton, List.singleton_append, List.takeWhile_cons_of_pos hblank]
  exact Nat.succ_ne_zero _

end Console

open Console

namespace Report

theorem level_toString (n : Int) : Level (toString n) := by
  intro c hc
  have hordinary : Ordinary False c ∧ c ≠ ' ' := ordinary_of_mem_toString n hc
  exact hordinary.1.1.1

theorem level_sizeText (size : ByteSize) : Level size.text := by
  have hnat : ∀ n : Nat, Level (toString n) := fun n => level_toString n
  cases size with
  | exact bytes => exact (level_toString bytes).append (by decide)
  | rounded tenths unit =>
    have hsymbol : Level unit.symbol := by cases unit <;> decide
    exact ((((hnat _).append (by decide)).append (hnat _)).append (by decide)).append hsymbol

theorem level_size? {bytes : Int} {size : String} (h : size? bytes = .ok size) : Level size := by
  rw [size?] at h
  split at h
  · rename_i text htext
    obtain rfl : text = size := Except.ok.inj h
    obtain ⟨shown, -, rfl⟩ := Option.map_eq_some_iff.1 htext
    exact level_sizeText shown
  · exact absurd h (by simp)

variable {dryRun : Bool} {operation : Operation} {size link : String}

/-- The line for a step has no control characters if the texts that it shows have none. -/
theorem level_line (htarget : Level operation.target.text) (hpath : Level operation.relativePath)
    (hsize : Level size) (hlink : Level link) : Level (line dryRun operation size link) := by
  have hverb : ∀ would did : String, Level would → Level did →
      Level (if dryRun then would else did) := by
    intro would did hwould hdid
    split
    · exact hwould
    · exact hdid
  rw [line]
  split
  · exact ((hverb _ _ (by decide) (by decide)).append (by decide)).append htarget
  · exact ((hverb _ _ (by decide) (by decide)).append (by decide)).append htarget
  · exact (((hverb _ _ (by decide) (by decide)).append (by decide)).append hpath).append (by decide)
  · exact (((((hverb _ _ (by decide) (by decide)).append (by decide)).append hpath).append
      (by decide)).append hsize).append (by decide)
  · exact ((((hverb _ _ (by decide) (by decide)).append (by decide)).append hpath).append
      (by decide)).append hlink
  · exact ((hverb _ _ (by decide) (by decide)).append (by decide)).append hpath

/-- The line for a step ends with no blank, but for that of a link without a target. -/
theorem fits_line_iff (htarget : Flat operation.target.text) (hpath : Flat operation.relativePath)
    (hlink : Flat link) : Fits (line dryRun operation size link) ↔
      (operation.kind = .copySymlink → link = "" →
        (line dryRun operation size link).length ≤ width) := by
  have hmark : ∀ mark ∈ ["/", ")"], Flat mark ∧ mark ≠ "" := by
    have hslash : Flat "/" := flat_of_getLast? (by decide) rfl (by decide +kernel)
    have hbracket : Flat ")" := flat_of_getLast? (by decide) rfl (by decide +kernel)
    simp [hslash, hbracket]
  have hshort : ∀ would did word : String, would.length + word.length ≤ width →
      did.length + word.length ≤ width → ((if dryRun then would else did) ++ word).length ≤ width := by
    intro would did word hwould hdid
    rw [String.length_append]
    split
    · exact hwould
    · exact hdid
  cases hkind : operation.kind with
  | copySymlink =>
    simp only [line, hkind, true_implies]
    refine ⟨fun hfits hempty => hfits.resolve_left ?_, fun hlength => fits_append hlink ?_⟩
    · rw [hempty, String.append_empty]
      exact trailingBlanks_append_blank ⟨' ', rfl, by decide +kernel⟩
    · intro hempty
      have hle := hlength hempty
      rwa [hempty, String.append_empty] at hle
  | removeDestination =>
    simp only [line, hkind]
    exact iff_of_true (fits_append htarget fun _ => hshort _ _ _ (by decide) (by decide)) (by simp)
  | createDestination =>
    simp only [line, hkind]
    exact iff_of_true (fits_append htarget fun _ => hshort _ _ _ (by decide) (by decide)) (by simp)
  | createDirectory =>
    simp only [line, hkind]
    obtain ⟨hflat, hne⟩ := hmark "/" (by simp)
    exact iff_of_true (fits_append hflat fun hempty => absurd hempty hne) (by simp)
  | copyFile =>
    simp only [line, hkind]
    obtain ⟨hflat, hne⟩ := hmark ")" (by simp)
    exact iff_of_true (fits_append hflat fun hempty => absurd hempty hne) (by simp)
  | copyFifo =>
    simp only [line, hkind]
    exact iff_of_true (fits_append hpath fun _ => hshort _ _ _ (by decide) (by decide)) (by simp)

/-- A step all of whose texts have neither control characters nor blanks at their ends.  The text of
a link is asked for only if the step reads one. -/
structure FlatStep (fs : FileSystem) (caller : Caller) (operation : Operation) : Prop where
  target : Flat operation.target.text
  path : Flat operation.relativePath
  link : ∀ link, linkText? fs caller operation = .ok link → Flat link

variable {fs : FileSystem} {caller : Caller}

theorem exists_line {text : String} (h : describe? fs caller dryRun operation = .ok text) :
    ∃ link size, linkText? fs caller operation = .ok link ∧ size? operation.size = .ok size ∧
      text = line dryRun operation size link := by
  rw [describe?] at h
  cases hlink : linkText? fs caller operation with
  | error fault =>
    rw [hlink] at h
    cases h
  | ok link =>
    cases hsize : size? operation.size with
    | error fault =>
      rw [hlink, hsize] at h
      cases h
    | ok size =>
      rw [hlink, hsize] at h
      exact ⟨link, size, rfl, rfl, (Except.ok.inj h).symm⟩

/-- **The line for a step** is printed as it is described just when it asks for no pictograph, a
long line for a link without a target apart.  It is compared with the description of the step, which
is what the report hands to the console. -/
theorem step_eq_iff {voice : Voice} (hvoice : voice.silent = false)
    (h : FlatStep fs caller operation) :
    step voice fs caller dryRun operation = (describe? fs caller dryRun operation).map
        (fun text => { out := text ++ "\n" }) ↔
      ∀ text, describe? fs caller dryRun operation = .ok text → Codeless text ∧
        (operation.kind = .copySymlink → linkText? fs caller operation = .ok "" →
          text.length ≤ width) := by
  have hquiet : voice.quiet = false := by
    rw [Voice.silent, Bool.or_eq_false_iff] at hvoice
    exact hvoice.1
  rw [step, hquiet, if_neg Bool.false_ne_true]
  cases hdescribe : describe? fs caller dryRun operation with
  | error fault => exact iff_of_true rfl fun text htext => nomatch htext
  | ok text =>
    obtain ⟨link, size, hlink, hsize, rfl⟩ := exists_line hdescribe
    have hflat := h.link link hlink
    have hlevel : Level (line dryRun operation size link) :=
      level_line h.target.level h.path.level (level_size? hsize) hflat.level
    have hempty : linkText? fs caller operation = .ok "" ↔ link = "" := by
      rw [hlink, Except.ok.injEq]
    rw [Except.map, Except.map, Except.ok.injEq, inform_eq_iff hvoice hlevel,
      fits_line_iff h.target h.path hflat]
    simp only [Except.ok.injEq, forall_eq', hempty]

end Report

/-! ## Documents -/

namespace Console

/-- **A document is printed as its JSON text** just when that asks for no pictograph.  No condition
on the end is needed, since a document ends with a bracket, a quotation mark, a digit or a word. -/
theorem document_eq_iff (voice : Voice) (value : Value) :
    voice.document value = { out := value.toJson (.indented 2) ++ "\n" } ↔
      Codeless (value.toJson (.indented 2)) := by
  rw [Voice.document, Printed.mk.injEq, and_iff_left rfl]
  refine ⟨codeless_of_messageText, fun h => ?_⟩
  exact messageText_toJson _ (withPictographs_of_codeless h)

/-- A plain document asks for no pictograph. -/
theorem codeless_toJson {value : Value} (h : value.Plain) :
    Codeless (value.toJson (.indented 2)) :=
  codeless_of_messageText (out_document {} h)

/-- A document that asks for no pictograph is read back from what is printed. -/
theorem ofJson?_document (voice : Voice) {value : Value} (hexact : value.Exact)
    (hcodeless : Codeless (value.toJson (.indented 2))) :
    Value.ofJson? (voice.document value).out = some value := by
  rw [(document_eq_iff voice value).2 hcodeless]
  exact Value.ofJson?_toJson _ hexact (by simp [Value.Reader.Gap])

end Console

/-- **Output is unaltered just where it asks for no pictographs**: a message of one line that does
not end with a blank is printed as it is, the line for a step as it is described, and a document as
its JSON text, from which it is read back.  The line for a link without a target ends with a blank,
so that its length matters too.  The three kinds of output take the same way through the console,
and so have the same condition. -/
theorem output_unaltered_iff (voice : Voice) :
    (voice.silent = false →
      (∀ text, Flat text →
        (voice.inform text = { out := text ++ "\n" } ↔ Codeless text)) ∧
      ∀ fs caller dryRun operation, Report.FlatStep fs caller operation →
        (Report.step voice fs caller dryRun operation =
            (Report.describe? fs caller dryRun operation).map
              (fun text => { out := text ++ "\n" }) ↔
          ∀ text, Report.describe? fs caller dryRun operation = .ok text → Codeless text ∧
            (operation.kind = .copySymlink → Report.linkText? fs caller operation = .ok "" →
              text.length ≤ width))) ∧
    ∀ value : Value,
      (voice.document value = { out := value.toJson (.indented 2) ++ "\n" } ↔
        Codeless (value.toJson (.indented 2))) ∧
      (value.Exact → Codeless (value.toJson (.indented 2)) →
        Value.ofJson? (voice.document value).out = some value) := by
  refine ⟨fun hvoice => ⟨fun text htext => ?_, fun fs caller dryRun operation hstep => ?_⟩,
    fun value => ⟨document_eq_iff voice value, ofJson?_document voice⟩⟩
  · rw [inform_eq_iff hvoice htext.level]
    exact and_iff_left htext.fits
  · exact Report.step_eq_iff hvoice hstep

/-- A step that copies a file with brackets in its name.  Brackets would be markup if the console
were told to look for it. -/
def bracketStep : Operation where
  kind := .copyFile
  target := .ofText "out/a [1].png"
  relativePath := "a [1].png"

/-- Brackets are printed as they are, in a message, in the line for a step and in a document. -/
theorem output_unaltered_iff_brackets :
    (({} : Voice).silent = false ∧ Flat "copying [assets]" ∧
      Report.FlatStep .empty ⟨[], true⟩ bracketStep ∧
      (Value.record [("[files]", .int 2)]).Exact) ∧
    ({} : Voice).inform "copying [assets]" = { out := "copying [assets]\n" } ∧
    Report.step {} .empty ⟨[], true⟩ true bracketStep =
      .ok { out := "Would copy: a [1].png (0 B)\n" } ∧
    Value.ofJson? (({} : Voice).document (.record [("[files]", .int 2)])).out =
      some (.record [("[files]", .int 2)]) := by
  have hvoice : ({} : Voice).silent = false := rfl
  have htext : Flat "copying [assets]" := flat_of_getLast? (by decide) rfl (by decide +kernel)
  have hdescribe : Report.describe? .empty ⟨[], true⟩ true bracketStep
      = .ok "Would copy: a [1].png (0 B)" := by rfl
  have hstep : Report.FlatStep .empty ⟨[], true⟩ bracketStep := by
    refine ⟨flat_of_getLast? (by decide +kernel) rfl (by decide +kernel),
      flat_of_getLast? (by decide +kernel) rfl (by decide +kernel), ?_⟩
    rintro _ ⟨⟩
    exact ⟨by decide, by simp⟩
  have hexact : (Value.record [("[files]", .int 2)]).Exact := by
    simp [Value.Exact, Value.ExactFields]
  obtain ⟨hmessages, hdocuments⟩ := output_unaltered_iff {}
  obtain ⟨hinform, hreport⟩ := hmessages hvoice
  refine ⟨⟨hvoice, htext, hstep, hexact⟩, ?_, ?_, ?_⟩
  · exact (hinform _ htext).2 (codeless_of_count_lt (by decide +kernel))
  · rw [(hreport _ _ _ _ hstep).2, hdescribe]
    · rfl
    · intro text htext
      obtain rfl := Except.ok.inj (hdescribe.symm.trans htext)
      exact ⟨codeless_of_count_lt (by decide +kernel), fun hkind => nomatch hkind⟩
  · exact (hdocuments _).2 hexact (codeless_toJson (by simp [Value.Plain, Value.PlainFields]))

/-! ## A name between colons

A single letter can be such a name, and nothing keeps it out of the name of a file. -/

namespace Console

/-- The pictograph for `a` stands in the second line of the table. -/
theorem lookup_a : pictographs.lookup ['a'] = some ['🅰'] := by
  obtain ⟨first, second, rest, hlines, hfirst, hsecond⟩ : ∃ first second rest,
      pictographLines = String.ofList first :: String.ofList second :: rest ∧
      (inPairs (Text.splitChars ' ' first)).lookup ['a'] = none ∧
      (inPairs (Text.splitChars ' ' second)).lookup ['a'] = some ['🅰'] :=
    ⟨_, _, _, rfl, by decide +kernel, by decide +kernel⟩
  rw [pictographs, hlines, List.flatMap_cons, List.flatMap_cons, String.toList_ofList,
    String.toList_ofList, List.lookup_append, hfirst, List.lookup_append, hsecond]
  rfl

theorem pictograph_a : pictograph ['a'] = ['🅰'] := by
  have hbase : (splitVariant ['a']).1.map smallLetter = ['a'] := by decide +kernel
  have hselector : (splitVariant ['a']).2 = [] := by decide +kernel
  have hlookup : pictographs.lookup ((splitVariant ['a']).1.map smallLetter) = some ['🅰'] := by
    rw [hbase, lookup_a]
  rw [pictograph_of_lookup hlookup, hselector, List.append_nil]

/-- It is shown wherever a text asks for it. -/
theorem messageText_a {text shown : String} (front back : List Char) (h : Flat shown)
    (hcolon : ':' ∉ front ∧ ':' ∉ back) (htext : text.toList = front ++ ':' :: 'a' :: ':' :: back)
    (hshown : shown.toList = front ++ '🅰' :: back) : messageText text = shown ++ "\n" := by
  have hahead : nameAhead? ('a' :: ':' :: back) = some (['a'], back) := by
    rw [nameAhead?, if_neg (by decide), if_neg (by decide +kernel), nameAhead?, if_pos rfl]
    rfl
  have hbehind := withPictographs_append hcolon.2 []
  rw [List.append_nil, withPictographs, List.append_nil] at hbehind
  have hpictographs : withPictographs text.toList = shown.toList := by
    rw [htext, withPictographs_append hcolon.1, withPictographs_of_nameAhead? hahead,
      pictograph_a, hbehind, hshown, List.singleton_append]
  rw [messageText_of_level h.level hpictographs, trimLine_eq_self_iff.2 h.fits,
    String.ofList_toList]

end Console

theorem ofJson?_a : Value.ofJson? "\"🅰\"\n" = some (.text "🅰") := by
  have hchars : "\"🅰\"\n".toList = ['"', '🅰', '"', '\n'] := by decide +kernel
  have htext : Value.Reader.readText ['🅰', '"', '\n'] = some (['🅰'], ['\n']) := by
    decide +kernel
  have hvalue : Value.Reader.readValue 5 ['"', '🅰', '"', '\n']
      = (Value.Reader.readText ['🅰', '"', '\n']).map
        fun read => (.text (String.ofList read.1), read.2) := rfl
  rw [htext] at hvalue
  rw [Value.ofJson?, hchars, List.length_cons, List.length_cons, List.length_cons,
    List.length_singleton, hvalue]
  rfl

/-- A name between colons is not printed as it is, in a message or in a document. -/
theorem not_unaltered_name :
    (({} : Voice).silent = false ∧ Flat "x:a:y" ∧ (Value.text ":a:").Exact) ∧
    ({} : Voice).inform "x:a:y" = { out := "x🅰y\n" } ∧
    Value.ofJson? (({} : Voice).document (.text ":a:")).out = some (.text "🅰") ∧
    ({} : Voice).inform "x:a:y" ≠ { out := "x:a:y\n" } ∧
    Value.ofJson? (({} : Voice).document (.text ":a:")).out ≠ some (.text ":a:") := by
  have hvoice : ({} : Voice).silent = false := rfl
  have htext : Flat "x:a:y" := flat_of_getLast? (by decide) rfl (by decide +kernel)
  have hinform : ({} : Voice).inform "x:a:y" = { out := "x🅰y\n" } := by
    have hshown : Flat "x🅰y" := flat_of_getLast? (by decide) rfl (by decide +kernel)
    rw [inform_of_not_silent hvoice, messageText_a ['x'] ['y'] hshown]
    · rfl
    · decide
    · decide +kernel
    · decide +kernel
  have hdocument : Value.ofJson? (({} : Voice).document (.text ":a:")).out
      = some (.text "🅰") := by
    have hjson : (Value.text ":a:").toJson (.indented 2) = "\":a:\"" := by decide +kernel
    have hshown : Flat "\"🅰\"" := flat_of_getLast? (by decide) rfl (by decide +kernel)
    rw [Voice.document, hjson, messageText_a ['"'] ['"'] hshown]
    · exact ofJson?_a
    · decide
    · decide +kernel
    · decide +kernel
  refine ⟨⟨hvoice, htext, trivial⟩, hinform, hdocument, ?_, ?_⟩
  · rw [hinform]
    decide +kernel
  · rw [hdocument]
    simp

end AssetPublish
