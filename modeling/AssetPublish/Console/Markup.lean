import AssetPublish.Console.Message
import AssetPublish.Console.Style

/-!
# Marked-up text

Texts of tables are marked up: a tag between brackets switches a style on, one with a slash behind
the opening bracket switches it off again, and a backslash takes the special meaning from a bracket.
On this console styles do not show, so a text is what remains without its tags; but tags that close
nothing are faults.

## What is here

* `Piece`, `pieces` — a text as plain pieces and tags, with the place of each tag.
* `Stretch`, `Styled` — a text without its tags, and the parts of it that have a style.
* `MarkupFault`, `afterTag` — the tags closed one after the other.
* `styled?`, `plainText?` — what remains of a marked-up text; `text_styledFrom`: the characters do
  not depend on the styles.
-/

set_option autoImplicit false

namespace AssetPublish
namespace Console

/-! ## Pieces -/

/-- A piece of a marked-up text: characters that are shown, or a tag with its place, counted in
characters from the start. -/
inductive Piece
  | plain (cs : List Char)
  | tag (place : Nat) (cs : List Char)
deriving DecidableEq, Repr

/-- The characters that a tag can start with: small letters and three marks. -/
def isTagStart (c : Char) : Bool := ('a' ≤ c && c ≤ 'z') || c == '#' || c == '/' || c == '@'

/-- A tag whose opening bracket has been read, and the rest behind it.  A tag holds no further
opening bracket. -/
def tagAhead? (cs : List Char) : Option (List Char × List Char) :=
  match cs with
  | [] => none
  | c :: rest =>
    let inner := rest.takeWhile fun c => c ≠ ']' && c ≠ '['
    match isTagStart c, rest.drop inner.length with
    | true, ']' :: after => some (c :: inner, after)
    | _, _ => none

theorem tagAhead?_length {cs tag after : List Char} (h : tagAhead? cs = some (tag, after)) :
    after.length < cs.length := by
  unfold tagAhead? at h
  split at h
  · simp at h
  · rename_i c rest
    dsimp only at h
    split at h
    · rename_i tail _ heq
      simp only [Option.some.injEq, Prod.mk.injEq] at h
      have hlen := congrArg List.length heq
      simp only [List.length_drop, List.length_cons] at hlen
      rw [← h.2, List.length_cons]
      omega
    · simp at h

/-- The number of backslashes at the front. -/
def backslashes (cs : List Char) : Nat := (cs.takeWhile (· = '\\')).length

/-- The tag behind `count` backslashes. -/
def tagBehind? (count : Nat) (cs : List Char) : Option (List Char × List Char) :=
  match cs.drop count with
  | '[' :: rest => tagAhead? rest
  | _ => none

theorem tagBehind?_length {count : Nat} {cs tag after : List Char}
    (h : tagBehind? count cs = some (tag, after)) : after.length < cs.length := by
  unfold tagBehind? at h
  split at h
  · rename_i rest heq
    have hlen := congrArg List.length heq
    simp only [List.length_drop, List.length_cons] at hlen
    have hafter := tagAhead?_length h
    omega
  · simp at h

/-- The pieces for a tag behind backslashes: each pair of them stands for one, and one that is left
over makes the tag plain. -/
def tagPieces (place count : Nat) (tag : List Char) : List Piece :=
  (if count < 2 then [] else [.plain (List.replicate (count / 2) '\\')]) ++
    [if count % 2 = 1 then .plain ('[' :: tag ++ [']']) else .tag (place + count) tag]

/-- The pieces of a text that starts at a place; `before` has been read and belongs to none yet, its
last character first. -/
def piecesFrom (place : Nat) (before cs : List Char) : List Piece :=
  match cs with
  | [] => if before.isEmpty then [] else [.plain before.reverse]
  | c :: rest =>
    match _h : tagBehind? (backslashes (c :: rest)) (c :: rest) with
    | some (tag, after) =>
      let count := backslashes (c :: rest)
      (if before.isEmpty then [] else [.plain before.reverse]) ++ tagPieces place count tag ++
        piecesFrom (place + count + tag.length + 2) [] after
    | none => piecesFrom (place + 1) (c :: before) rest
termination_by cs.length
decreasing_by
  · exact tagBehind?_length _h
  · exact Nat.lt_succ_self _

/-- The pieces of a text. -/
def pieces (cs : List Char) : List Piece := piecesFrom 0 [] cs

/-- The characters that a plain piece shows: a backslash before an opening bracket is left out. -/
def unescaped : List Char → List Char
  | '\\' :: '[' :: rest => '[' :: unescaped rest
  | c :: rest => c :: unescaped rest
  | [] => []

/-! ## Styled text -/

/-- A part of a text, from one place up to another.  Places are counted from the start of the text;
a part that has been moved to the left may lie before it. -/
structure Stretch where
  start : Int
  stop : Int
deriving DecidableEq, Repr

/-- A stretch moved to the right by some characters. -/
def Stretch.shift (stretch : Stretch) (count : Int) : Stretch :=
  ⟨stretch.start + count, stretch.stop + count⟩

/-- A text and the stretches of it that have a style. -/
structure Styled where
  text : List Char
  stretches : List Stretch
deriving DecidableEq, Repr

/-! ## Tags -/

/-- Why a text cannot be shown. -/
inductive MarkupFault
  /-- A tag at this place closes a style that is not open. -/
  | unmatched (tag : String) (place : Nat)
  /-- A tag at this place closes the last style, but none is open. -/
  | nothingOpen (place : Nat)
deriving DecidableEq, Repr

/-- The wording of a fault. -/
def MarkupFault.message : MarkupFault → String
  | unmatched tag place =>
    "closing tag '[" ++ tag ++ "]' at position " ++ toString place ++
      " doesn't match any open tag"
  | nothingOpen place =>
    "closing tag '[/]' at position " ++ toString place ++ " has nothing to close"

/-- The name of a tag: what stands before the first sign of equality. -/
def tagName (tag : List Char) : List Char := tag.takeWhile (· ≠ '=')

/-- A style that is open, and the number of characters that were shown before it. -/
structure OpenStyle where
  name : String
  start : Nat
deriving DecidableEq, Repr

/-- The styles that are open after a tag, the last opened first, and the stretch that it closes
where `shown` characters stand before it.  A closing tag without a name closes the last style,
another one the last of that name. -/
def afterTag (shown : Nat) (opened : List OpenStyle) (place : Nat) (tag : List Char) :
    Except MarkupFault (List OpenStyle × List Stretch) :=
  match tagName tag with
  | '/' :: name =>
    let name := Text.trimBlanks name
    if name.isEmpty then
      match opened with
      | [] => .error (.nothingOpen place)
      | style :: rest => .ok (rest, [⟨style.start, shown⟩])
    else
      let named := fun style : OpenStyle => style.name = Style.normal name
      match opened.find? named with
      | none => .error (.unmatched (String.ofList tag) place)
      | some style => .ok (opened.eraseP named, [⟨style.start, shown⟩])
  | name => .ok (⟨Style.normal name, shown⟩ :: opened, [])

/-! ## What remains -/

/-- The characters that a piece shows; names of pictographs do not reach across tags. -/
def Piece.shown : Piece → List Char
  | plain cs => withoutControls (withPictographs (unescaped cs))
  | tag .. => []

/-- The styled text of some pieces behind `shown` characters.  Styles that are left open reach to
the end. -/
def styledFrom (shown : Nat) (opened : List OpenStyle) : List Piece → Except MarkupFault Styled
  | [] => .ok ⟨[], opened.map fun style => ⟨style.start, shown⟩⟩
  | .plain cs :: rest => do
    let front := (Piece.plain cs).shown
    let styled ← styledFrom (shown + front.length) opened rest
    return { styled with text := front ++ styled.text }
  | .tag place tag :: rest => do
    let (opened, closed) ← afterTag shown opened place tag
    let styled ← styledFrom shown opened rest
    return { styled with stretches := closed ++ styled.stretches }

/-- The characters of a styled text are those of its pieces. -/
theorem text_styledFrom {shown : Nat} {opened : List OpenStyle} {pieces : List Piece}
    {styled : Styled} (h : styledFrom shown opened pieces = .ok styled) :
    styled.text = pieces.flatMap Piece.shown := by
  induction pieces generalizing shown opened styled with
  | nil =>
    simp only [styledFrom, Except.ok.injEq] at h
    subst h
    rfl
  | cons piece rest ih =>
    cases piece with
    | plain cs =>
      rw [styledFrom] at h
      cases hrest : styledFrom (shown + (Piece.plain cs).shown.length) opened rest with
      | error fault => simp [hrest, bind, Except.bind] at h
      | ok tail =>
        simp only [hrest, bind, Except.bind, pure, Except.pure, Except.ok.injEq] at h
        subst h
        simp [ih hrest]
    | tag place tag =>
      rw [styledFrom] at h
      cases htag : afterTag shown opened place tag with
      | error fault => simp [htag, bind, Except.bind] at h
      | ok after =>
        cases hrest : styledFrom shown after.1 rest with
        | error fault => simp [htag, hrest, bind, Except.bind] at h
        | ok tail =>
          simp only [htag, hrest, bind, Except.bind, pure, Except.pure, Except.ok.injEq] at h
          subst h
          simp [ih hrest, Piece.shown]

/-- The styled text that remains of a marked-up text. -/
def styled? (text : String) : Except MarkupFault Styled := styledFrom 0 [] (pieces text.toList)

/-- The text that remains of a marked-up text. -/
def plainText? (text : String) : Except MarkupFault (List Char) := (styled? text).map Styled.text

end Console
end AssetPublish
