import AssetPublish.Text.Blank
import AssetPublish.Text.Split

/-!
# Styles by name

A style is asked for by words: attributes, which may be negated, a colour, a colour behind the
text, and a link.  Two such texts ask for the same style if their normal forms are equal.

## What is here

* `isColor` — the words for colours.
* `Style`, `Style.ofWords?` — the style that some words ask for.
* `Style.normal` — the normal form of a text that may or may not ask for a style.
-/

set_option autoImplicit false

namespace AssetPublish
namespace Console

/-! ## Colours -/

/-- The colours that have a name. -/
def colorNames : List String :=
  ["black", "red", "green", "yellow", "blue", "magenta", "cyan", "white", "bright_black",
   "bright_red", "bright_green", "bright_yellow", "bright_blue", "bright_magenta", "bright_cyan",
   "bright_white", "grey0", "gray0", "navy_blue", "dark_blue", "blue3", "blue1", "dark_green",
   "deep_sky_blue4", "dodger_blue3", "dodger_blue2", "green4", "spring_green4", "turquoise4",
   "deep_sky_blue3", "dodger_blue1", "green3", "spring_green3", "dark_cyan", "light_sea_green",
   "deep_sky_blue2", "deep_sky_blue1", "spring_green2", "cyan3", "dark_turquoise", "turquoise2",
   "green1", "spring_green1", "medium_spring_green", "cyan2", "cyan1", "dark_red", "deep_pink4",
   "purple4", "purple3", "blue_violet", "orange4", "grey37", "gray37", "medium_purple4",
   "slate_blue3", "royal_blue1", "chartreuse4", "dark_sea_green4", "pale_turquoise4", "steel_blue",
   "steel_blue3", "cornflower_blue", "chartreuse3", "cadet_blue", "sky_blue3", "steel_blue1",
   "pale_green3", "sea_green3", "aquamarine3", "medium_turquoise", "chartreuse2", "sea_green2",
   "sea_green1", "aquamarine1", "dark_slate_gray2", "dark_magenta", "dark_violet", "purple",
   "light_pink4", "plum4", "medium_purple3", "slate_blue1", "yellow4", "wheat4", "grey53",
   "gray53", "light_slate_grey", "light_slate_gray", "medium_purple", "light_slate_blue",
   "dark_olive_green3", "dark_sea_green", "light_sky_blue3", "sky_blue2", "dark_sea_green3",
   "dark_slate_gray3", "sky_blue1", "chartreuse1", "light_green", "pale_green1",
   "dark_slate_gray1", "red3", "medium_violet_red", "magenta3", "dark_orange3", "indian_red",
   "hot_pink3", "medium_orchid3", "medium_orchid", "medium_purple2", "dark_goldenrod",
   "light_salmon3", "rosy_brown", "grey63", "gray63", "medium_purple1", "gold3", "dark_khaki",
   "navajo_white3", "grey69", "gray69", "light_steel_blue3", "light_steel_blue", "yellow3",
   "dark_sea_green2", "light_cyan3", "light_sky_blue1", "green_yellow", "dark_olive_green2",
   "dark_sea_green1", "pale_turquoise1", "deep_pink3", "magenta2", "hot_pink2", "orchid",
   "medium_orchid1", "orange3", "light_pink3", "pink3", "plum3", "violet", "light_goldenrod3",
   "tan", "misty_rose3", "thistle3", "plum2", "khaki3", "light_goldenrod2", "light_yellow3",
   "grey84", "gray84", "light_steel_blue1", "yellow2", "dark_olive_green1", "honeydew2",
   "light_cyan1", "red1", "deep_pink2", "deep_pink1", "magenta1", "orange_red1", "indian_red1",
   "hot_pink", "dark_orange", "salmon1", "light_coral", "pale_violet_red1", "orchid2", "orchid1",
   "orange1", "sandy_brown", "light_salmon1", "light_pink1", "pink1", "plum1", "gold1",
   "navajo_white1", "misty_rose1", "thistle1", "yellow1", "light_goldenrod1", "khaki1", "wheat1",
   "cornsilk1", "grey100", "gray100", "grey3", "gray3", "grey7", "gray7", "grey11", "gray11",
   "grey15", "gray15", "grey19", "gray19", "grey23", "gray23", "grey27", "gray27", "grey30",
   "gray30", "grey35", "gray35", "grey39", "gray39", "grey42", "gray42", "grey46", "gray46",
   "grey50", "gray50", "grey54", "gray54", "grey58", "gray58", "grey62", "gray62", "grey66",
   "gray66", "grey70", "gray70", "grey74", "gray74", "grey78", "gray78", "grey82", "gray82",
   "grey85", "gray85", "grey89", "gray89", "grey93", "gray93"]

/-- Whether `cs` are the decimal digits of a number up to 255. -/
def isColorPart (cs : List Char) : Bool :=
  !cs.isEmpty && cs.all Char.isDigit && cs.foldl (fun n c => n * 10 + (c.toNat - 48)) 0 ≤ 255

/-- Whether `c` is a hexadecimal digit in lower case. -/
def isHexDigit (c : Char) : Bool := c.isDigit || ('a' ≤ c && c ≤ 'f')

/-- What stands between a word with an opening bracket and the closing bracket at the end. -/
def bracketed? (word : String) (cs : List Char) : Option (List Char) :=
  let opening := word.toList ++ ['(']
  if opening.isPrefixOf cs && cs.getLast? = some ')' then
    some ((cs.drop opening.length).dropLast)
  else none

/-- Whether a word in lower case is a colour: a name, a number of the palette, or three parts,
hexadecimal or decimal. -/
def isColor (word : String) : Bool :=
  let cs := word.toList
  word = "default" || colorNames.contains word ||
    (cs.length = 7 && cs.head? = some '#' && cs.tail.all isHexDigit) ||
    (bracketed? "color" cs).any (fun number => number.length ≤ 3 && isColorPart number) ||
    (bracketed? "rgb" cs).any fun parts =>
      let parts := Text.splitChars ',' parts
      parts.length = 3 && parts.all isColorPart

/-! ## Styles -/

/-- The attributes in the order in which they are written, with the short words for some. -/
def features : List (String × Option String) :=
  [("bold", some "b"), ("dim", some "d"), ("italic", some "i"), ("underline", some "u"),
   ("blink", none), ("blink2", none), ("reverse", some "r"), ("conceal", some "c"),
   ("strike", some "s"), ("underline2", some "uu"), ("frame", none), ("encircle", none),
   ("overline", some "o")]

/-- The attribute that a word stands for. -/
def feature? (word : String) : Option String :=
  (features.find? fun known => known.1 = word || known.2 = some word).map Prod.fst

/-- A style: the attributes that are switched on or off, two colours and a link. -/
structure Style where
  switches : List (String × Bool) := []
  color : Option String := none
  background : Option String := none
  link : Option String := none
deriving DecidableEq, Repr

namespace Style

/-- The style with an attribute switched; the last switch of an attribute counts. -/
def switch (style : Style) (feature : String) (on : Bool) : Style :=
  { style with switches := (feature, on) :: style.switches }

/-- The style that words ask for, besides what is asked for already. -/
def ofWords? (style : Style) : List String → Option Style
  | [] => some style
  | [word] =>
    let word := word.toLower
    match feature? word with
    | some feature => some (style.switch feature true)
    | none => if isColor word then some { style with color := some word } else none
  | word :: next :: rest =>
    let word := word.toLower
    if word = "on" then
      let color := next.toLower
      if isColor color then ofWords? { style with background := some color } rest else none
    else if word = "not" then
      match feature? next with
      | some feature => ofWords? (style.switch feature false) rest
      | none => none
    else if word = "link" then ofWords? { style with link := some next } rest
    else
      match feature? word with
      | some feature => ofWords? (style.switch feature true) (next :: rest)
      | none =>
        if isColor word then ofWords? { style with color := some word } (next :: rest) else none

/-- The words that ask for a style in their fixed order. -/
def words (style : Style) : List String :=
  (features.flatMap fun known =>
    match style.switches.lookup known.1 with
    | some true => [known.1]
    | some false => ["not", known.1]
    | none => []) ++
  style.color.toList ++
  (style.background.elim [] fun color => ["on", color]) ++
  (style.link.elim [] fun link => ["link", link])

/-- The text that asks for a style; the style that changes nothing has a word of its own. -/
def text (style : Style) : String :=
  match style.words with
  | [] => "none"
  | words => " ".intercalate words

/-- The normal form of a text: that of the style which it asks for, or the text itself without
blanks around it and in lower case if it asks for none. -/
def normal (cs : List Char) : String :=
  let words := (Text.words cs).map String.ofList
  if words = ["none"] then "none"
  else
    match ofWords? {} words with
    | some style => style.text
    | none => (String.ofList (Text.trimBlanks cs)).toLower

end Style
end Console
end AssetPublish
