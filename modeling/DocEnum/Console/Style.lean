import DocEnum.Text.Blank
import DocEnum.Text.Lower
import DocEnum.Value.Numeral

/-!
# Console styles

A style is written as words: attributes, which `not` takes back, a color, a background after `on`,
and the target of a link after `link`. Attributes have short names, and words count in any case.

**Normal form.** `normalize` writes a style in one way, so that a tag can be closed by another
spelling of its name. What is no style is its own normal form, in small letters.
-/

namespace DocEnum.Console

structure Style where
  /-- The attributes that are set, the last setting of each first. -/
  attributes : List (Text × Bool)
  color : Option Text
  background : Option Text
  link : Option Text

namespace Style

/-- Why words are no style. -/
inductive Fault where
  | unknown
  /-- A part of a color is no number. -/
  | number (fault : Value.Fault)

/-! ## Colors -/

def colorNames : List Text := Text.fields Text.isBlank
  "black red green yellow blue magenta cyan white bright_black bright_red bright_green
  bright_yellow bright_blue bright_magenta bright_cyan bright_white grey0 gray0 navy_blue
  dark_blue blue3 blue1 dark_green deep_sky_blue4 dodger_blue3 dodger_blue2 green4 spring_green4
  turquoise4 deep_sky_blue3 dodger_blue1 green3 spring_green3 dark_cyan light_sea_green
  deep_sky_blue2 deep_sky_blue1 spring_green2 cyan3 dark_turquoise turquoise2 green1
  spring_green1 medium_spring_green cyan2 cyan1 dark_red deep_pink4 purple4 purple3 blue_violet
  orange4 grey37 gray37 medium_purple4 slate_blue3 royal_blue1 chartreuse4 dark_sea_green4
  pale_turquoise4 steel_blue steel_blue3 cornflower_blue chartreuse3 cadet_blue sky_blue3
  steel_blue1 pale_green3 sea_green3 aquamarine3 medium_turquoise chartreuse2 sea_green2
  sea_green1 aquamarine1 dark_slate_gray2 dark_magenta dark_violet purple light_pink4 plum4
  medium_purple3 slate_blue1 yellow4 wheat4 grey53 gray53 light_slate_grey light_slate_gray
  medium_purple light_slate_blue dark_olive_green3 dark_sea_green light_sky_blue3 sky_blue2
  dark_sea_green3 dark_slate_gray3 sky_blue1 chartreuse1 light_green pale_green1
  dark_slate_gray1 red3 medium_violet_red magenta3 dark_orange3 indian_red hot_pink3
  medium_orchid3 medium_orchid medium_purple2 dark_goldenrod light_salmon3 rosy_brown grey63
  gray63 medium_purple1 gold3 dark_khaki navajo_white3 grey69 gray69 light_steel_blue3
  light_steel_blue yellow3 dark_sea_green2 light_cyan3 light_sky_blue1 green_yellow
  dark_olive_green2 dark_sea_green1 pale_turquoise1 deep_pink3 magenta2 hot_pink2 orchid
  medium_orchid1 orange3 light_pink3 pink3 plum3 violet light_goldenrod3 tan misty_rose3
  thistle3 plum2 khaki3 light_goldenrod2 light_yellow3 grey84 gray84 light_steel_blue1 yellow2
  dark_olive_green1 honeydew2 light_cyan1 red1 deep_pink2 deep_pink1 magenta1 orange_red1
  indian_red1 hot_pink dark_orange salmon1 light_coral pale_violet_red1 orchid2 orchid1 orange1
  sandy_brown light_salmon1 light_pink1 pink1 plum1 gold1 navajo_white1 misty_rose1 thistle1
  yellow1 light_goldenrod1 khaki1 wheat1 cornsilk1 grey100 gray100 grey3 gray3 grey7 gray7
  grey11 gray11 grey15 gray15 grey19 gray19 grey23 gray23 grey27 gray27 grey30 gray30 grey35
  gray35 grey39 gray39 grey42 gray42 grey46 gray46 grey50 gray50 grey54 gray54 grey58 gray58
  grey62 gray62 grey66 gray66 grey70 gray70 grey74 gray74 grey78 gray78 grey82 gray82 grey85
  gray85 grey89 gray89 grey93 gray93"

/-- The inside of a text between a beginning and a closing bracket. -/
def inside? (beginning t : Text) : Option Text :=
  (Text.dropBeginning? beginning t).bind (Text.dropEnding? [')'])

/-- Whether a text is six hexadecimal digits in small letters after a number sign. -/
def isHexColor (t : Text) : Bool :=
  match t with
  | '#' :: digits =>
    digits.length == 6 && digits.all fun c => c.isDigit || ('a' ≤ c && c ≤ 'f')
  | _ => false

/-- Whether a text is the number of a color. -/
def isNumberedColor (t : Text) : Bool :=
  (inside? "color(" t).any fun digits =>
    !digits.isEmpty && digits.length ≤ 3 && digits.all CodePoint.isDigit && Text.toNat digits ≤ 255

/-- The parts of a color that is mixed of others. -/
def mixedParts? (t : Text) : Option (List Text) :=
  let isPart (c : CodePoint) : Bool := (Text.decimalDigit? c).isSome || Text.isBlank c || c == ','
  match inside? "rgb(" t with
  | some parts =>
    if parts.isEmpty || !parts.all isPart then none else some (Text.splitOn (· == .char ',') parts)
  | none => none

def colorOf (word : Text) : Except Fault Text := do
  let name := Text.lower word
  if name = ("default" : Text) || colorNames.contains name || isHexColor name ||
      isNumberedColor name then
    return name
  match mixedParts? name with
  | some [red, green, blue] => do
    let red ← (Numeral.integer 10 red).mapError .number
    let green ← (Numeral.integer 10 green).mapError .number
    let blue ← (Numeral.integer 10 blue).mapError .number
    if red ≤ 255 && green ≤ 255 && blue ≤ 255 then return name else throw .unknown
  | _ => throw .unknown

/-! ## Words -/

/-- The attributes in the order in which they are written. -/
def attributeNames : List Text := [
  "bold", "dim", "italic", "underline", "blink", "blink2", "reverse", "conceal", "strike",
  "underline2", "frame", "encircle", "overline"]

/-- The short names of attributes. -/
def shortNames : List (Text × Text) := [
  ("b", "bold"), ("d", "dim"), ("i", "italic"), ("u", "underline"), ("r", "reverse"),
  ("c", "conceal"), ("s", "strike"), ("uu", "underline2"), ("o", "overline")]

def attribute? (word : Text) : Option Text :=
  if attributeNames.contains word then some word else shortNames.lookup word

def set (style : Style) (trait : Text) (on : Bool) : Style :=
  { style with attributes := (trait, on) :: style.attributes }

/-- The style that words add to a style. -/
def addWords (style : Style) : List Text → Except Fault Style
  | [] => .ok style
  | word :: rest =>
    let name := Text.lower word
    if name = ("on" : Text) then
      match rest with
      | [] => .error .unknown
      | word :: rest =>
        match colorOf word with
        | .error fault => .error fault
        | .ok name => addWords { style with background := some name } rest
    else if name = ("not" : Text) then
      match rest with
      | [] => .error .unknown
      | word :: rest =>
        match attribute? word with
        | none => .error .unknown
        | some trait => addWords (style.set trait false) rest
    else if name = ("link" : Text) then
      match rest with
      | [] => .error .unknown
      | word :: rest => addWords { style with link := some word } rest
    else match attribute? name with
      | some trait => addWords (style.set trait true) rest
      | none =>
        match colorOf name with
        | .error fault => .error fault
        | .ok name => addWords { style with color := some name } rest

def plain : Style := ⟨[], none, none, none⟩

def parse (t : Text) : Except Fault Style :=
  if Text.strip t = ("none" : Text) then .ok plain
  else addWords plain (Text.fields Text.isBlank t)

/-! ## Normal form -/

def words (style : Style) : List Text :=
  let attributes := attributeNames.filterMap fun name =>
    (style.attributes.lookup name).map fun on => if on then name else "not " ++ name
  attributes ++ style.color.toList ++ (style.background.map (("on " : Text) ++ ·)).toList ++
    (style.link.map (("link " : Text) ++ ·)).toList

def text (style : Style) : Text :=
  match style.words with
  | [] => "none"
  | words => Text.joinWith " " words

/-- The one way to write the style that a text describes. -/
def normalize (t : Text) : Except Value.Fault Text :=
  match parse t with
  | .ok style => .ok style.text
  | .error .unknown => .ok (Text.lower (Text.strip t))
  | .error (.number fault) => .error fault

end Style

end DocEnum.Console
