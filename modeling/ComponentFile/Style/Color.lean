import ComponentFile.Style.Calculation
import ComponentFile.Style.Value

/-!
# Colours

A colour is written by a name, in digits, or as a function of the shares of red, green and blue, of
a hue, or of the axes of a colour space.  All but the last are mixed from red, green and blue with
256 steps each, and printed in the shortest form: by a short name, with one digit for each part, or
with two.

* `Rgba` — a mixed colour; `Rgba.ofDigits?`, `Rgba.text` — from and to digits.
* `Color` — any colour; `Color.ofFunction?`, `Color.read?` — reading one; `Color.value` — its text.
-/

namespace ComponentFile.Style

/-! ## Mixed colours -/

/-- A colour mixed from red, green and blue and how opaque it is, each below 256. -/
structure Rgba where
  red : Nat
  green : Nat
  blue : Nat
  alpha : Nat
deriving DecidableEq, Repr

/-- The colours whose names are shorter than their digits. -/
def shortNames : List (String × Nat) :=
  [("navy", 0x000080), ("green", 0x008000), ("teal", 0x008080), ("indigo", 0x4B0082),
   ("maroon", 0x800000), ("purple", 0x800080), ("olive", 0x808000), ("gray", 0x808080),
   ("sienna", 0xA0522D), ("brown", 0xA52A2A), ("silver", 0xC0C0C0), ("peru", 0xCD853F),
   ("tan", 0xD2B48C), ("orchid", 0xDA70D6), ("plum", 0xDDA0DD), ("violet", 0xEE82EE),
   ("khaki", 0xF0E68C), ("azure", 0xF0FFFF), ("wheat", 0xF5DEB3), ("beige", 0xF5F5DC),
   ("salmon", 0xFA8072), ("linen", 0xFAF0E6), ("red", 0xFF0000), ("tomato", 0xFF6347),
   ("coral", 0xFF7F50), ("orange", 0xFFA500), ("pink", 0xFFC0CB), ("gold", 0xFFD700),
   ("bisque", 0xFFE4C4), ("snow", 0xFFFAFA), ("ivory", 0xFFFFF0)]

/-- The other colours that have a name. -/
def longNames : List (String × Nat) :=
  [("black", 0x000000), ("darkblue", 0x00008B), ("mediumblue", 0x0000CD), ("blue", 0x0000FF),
   ("darkgreen", 0x006400), ("darkcyan", 0x008B8B), ("deepskyblue", 0x00BFFF),
   ("darkturquoise", 0x00CED1), ("mediumspringgreen", 0x00FA9A), ("lime", 0x00FF00),
   ("springgreen", 0x00FF7F), ("aqua", 0x00FFFF), ("cyan", 0x00FFFF), ("midnightblue", 0x191970),
   ("dodgerblue", 0x1E90FF), ("lightseagreen", 0x20B2AA), ("forestgreen", 0x228B22),
   ("seagreen", 0x2E8B57), ("darkslategray", 0x2F4F4F), ("darkslategrey", 0x2F4F4F),
   ("limegreen", 0x32CD32), ("mediumseagreen", 0x3CB371), ("turquoise", 0x40E0D0),
   ("royalblue", 0x4169E1), ("steelblue", 0x4682B4), ("darkslateblue", 0x483D8B),
   ("mediumturquoise", 0x48D1CC), ("darkolivegreen", 0x556B2F), ("cadetblue", 0x5F9EA0),
   ("cornflowerblue", 0x6495ED), ("rebeccapurple", 0x663399), ("mediumaquamarine", 0x66CDAA),
   ("dimgray", 0x696969), ("dimgrey", 0x696969), ("slateblue", 0x6A5ACD), ("olivedrab", 0x6B8E23),
   ("slategray", 0x708090), ("slategrey", 0x708090), ("lightslategray", 0x778899),
   ("lightslategrey", 0x778899), ("mediumslateblue", 0x7B68EE), ("lawngreen", 0x7CFC00),
   ("chartreuse", 0x7FFF00), ("aquamarine", 0x7FFFD4), ("grey", 0x808080), ("skyblue", 0x87CEEB),
   ("lightskyblue", 0x87CEFA), ("blueviolet", 0x8A2BE2), ("darkred", 0x8B0000),
   ("darkmagenta", 0x8B008B), ("saddlebrown", 0x8B4513), ("darkseagreen", 0x8FBC8F),
   ("lightgreen", 0x90EE90), ("mediumpurple", 0x9370DB), ("darkviolet", 0x9400D3),
   ("palegreen", 0x98FB98), ("darkorchid", 0x9932CC), ("yellowgreen", 0x9ACD32),
   ("darkgray", 0xA9A9A9), ("darkgrey", 0xA9A9A9), ("lightblue", 0xADD8E6),
   ("greenyellow", 0xADFF2F), ("paleturquoise", 0xAFEEEE), ("lightsteelblue", 0xB0C4DE),
   ("powderblue", 0xB0E0E6), ("firebrick", 0xB22222), ("darkgoldenrod", 0xB8860B),
   ("mediumorchid", 0xBA55D3), ("rosybrown", 0xBC8F8F), ("darkkhaki", 0xBDB76B),
   ("mediumvioletred", 0xC71585), ("indianred", 0xCD5C5C), ("chocolate", 0xD2691E),
   ("lightgray", 0xD3D3D3), ("lightgrey", 0xD3D3D3), ("thistle", 0xD8BFD8),
   ("goldenrod", 0xDAA520), ("palevioletred", 0xDB7093), ("crimson", 0xDC143C),
   ("gainsboro", 0xDCDCDC), ("burlywood", 0xDEB887), ("lightcyan", 0xE0FFFF),
   ("lavender", 0xE6E6FA), ("darksalmon", 0xE9967A), ("palegoldenrod", 0xEEE8AA),
   ("lightcoral", 0xF08080), ("aliceblue", 0xF0F8FF), ("honeydew", 0xF0FFF0),
   ("sandybrown", 0xF4A460), ("whitesmoke", 0xF5F5F5), ("mintcream", 0xF5FFFA),
   ("ghostwhite", 0xF8F8FF), ("antiquewhite", 0xFAEBD7), ("lightgoldenrodyellow", 0xFAFAD2),
   ("oldlace", 0xFDF5E6), ("fuchsia", 0xFF00FF), ("magenta", 0xFF00FF), ("deeppink", 0xFF1493),
   ("orangered", 0xFF4500), ("hotpink", 0xFF69B4), ("darkorange", 0xFF8C00),
   ("lightsalmon", 0xFFA07A), ("lightpink", 0xFFB6C1), ("peachpuff", 0xFFDAB9),
   ("navajowhite", 0xFFDEAD), ("moccasin", 0xFFE4B5), ("mistyrose", 0xFFE4E1),
   ("blanchedalmond", 0xFFEBCD), ("papayawhip", 0xFFEFD5), ("lavenderblush", 0xFFF0F5),
   ("seashell", 0xFFF5EE), ("cornsilk", 0xFFF8DC), ("lemonchiffon", 0xFFFACD),
   ("floralwhite", 0xFFFAF0), ("yellow", 0xFFFF00), ("lightyellow", 0xFFFFE0),
   ("white", 0xFFFFFF)]

/-- The step of 256 that is nearest to a share. -/
def stepOfShare (share : Rat) : Nat := min 255 (share * 255 + 1 / 2).floor.toNat

namespace Rgba

/-- The opaque colour of a code with two digits for each part. -/
def ofCode (code : Nat) : Rgba := ⟨code / 65536 % 256, code / 256 % 256, code % 256, 255⟩

/-- The colour mixed from shares. -/
def ofShares (red green blue alpha : Rat) : Rgba :=
  ⟨stepOfShare red, stepOfShare green, stepOfShare blue, stepOfShare alpha⟩

/-- The colour that digits stand for. -/
def ofDigits? (text : String) : Option Rgba :=
  if text.toList.all isHexDigit then
    match text.toList.map hexDigitValue with
    | [r, g, b] => some ⟨17 * r, 17 * g, 17 * b, 255⟩
    | [r, g, b, a] => some ⟨17 * r, 17 * g, 17 * b, 17 * a⟩
    | [r, r', g, g', b, b'] => some ⟨16 * r + r', 16 * g + g', 16 * b + b', 255⟩
    | [r, r', g, g', b, b', a, a'] =>
      some ⟨16 * r + r', 16 * g + g', 16 * b + b', 16 * a + a'⟩
    | _ => none
  else none

/-- The parts that are written; a full alpha is left out. -/
def written (color : Rgba) : List Nat :=
  [color.red, color.green, color.blue] ++ if color.alpha = 255 then [] else [color.alpha]

/-- The digits of a colour, one for each part where that is enough. -/
def digits (color : Rgba) : List Char :=
  let parts := color.written
  if parts.all fun part => part / 16 == part % 16 then
    parts.flatMap fun part => Nat.toDigits 16 (part % 16)
  else parts.flatMap fun part => Nat.toDigits 16 (part / 16) ++ Nat.toDigits 16 (part % 16)

/-- The short name of a colour. -/
def shortName? (color : Rgba) : Option String :=
  (shortNames.find? fun (_, code) => ofCode code == color).map Prod.fst

/-- The shortest text of a colour. -/
def text (color : Rgba) : String := color.shortName?.getD (String.ofList ('#' :: color.digits))

end Rgba

/-! ## Hues -/

/-- The share of a part of a colour at a third of the circle, between its least and its greatest
share. -/
def shareAtHue (low high thirds : Rat) : Rat :=
  let thirds := if thirds < 0 then thirds + 3 else if thirds > 3 then thirds - 3 else thirds
  if thirds * 2 < 1 then low + (high - low) * thirds * 2
  else if thirds * 2 < 3 then high
  else if thirds < 2 then low + (high - low) * (2 - thirds) * 2
  else low

/-- The shares of red, green and blue of a hue in degrees. -/
def sharesOfHue (hue saturation lightness : Rat) : Rat × Rat × Rat :=
  let turns := hue / 360
  let thirds := (turns - turns.floor) * 3
  let high :=
    if lightness * 2 ≤ 1 then lightness * (saturation + 1)
    else lightness + saturation - lightness * saturation
  let low := lightness * 2 - high
  (shareAtHue low high (thirds + 1), shareAtHue low high thirds, shareAtHue low high (thirds - 1))

/-- The shares of red, green and blue of a hue that is mixed with white and black. -/
def sharesOfMixture (hue white black : Rat) : Rat × Rat × Rat :=
  if white + black ≥ 1 then
    let gray := white / (white + black)
    (gray, gray, gray)
  else
    let (red, green, blue) := sharesOfHue hue 1 (1 / 2)
    let mix (share : Rat) : Rat := share * (1 - white - black) + white
    (mix red, mix green, mix blue)

/-! ## All colours -/

/-- Where a colour lies on the axes of a colour space; a place may be missing. -/
structure Axes where
  /-- The text in front of the first place. -/
  front : String
  /-- Whether the first place is printed as a percentage. -/
  hasLightness : Bool
  places : List (Option Rat)
  alpha : Option Rat
deriving DecidableEq

/-- A colour. -/
inductive Color where
  | mixed (color : Rgba)
  /-- A colour that depends on the element or on the system. -/
  | named (name : String)
  | located (axes : Axes)
  /-- A colour for light and one for dark surroundings. -/
  | lightDark (light dark : Color)

namespace Color

/-- Colours that the system chooses. -/
def systemNames : List String :=
  ["accentcolor", "accentcolortext", "activetext", "buttonborder", "buttonface", "buttontext",
   "canvas", "canvastext", "field", "fieldtext", "graytext", "highlight", "highlighttext",
   "linktext", "mark", "marktext", "selecteditem", "selecteditemtext", "visitedtext",
   "activeborder", "activecaption", "appworkspace", "background", "buttonhighlight",
   "buttonshadow", "captiontext", "inactiveborder", "inactivecaption", "inactivecaptiontext",
   "infobackground", "infotext", "menu", "menutext", "scrollbar", "threeddarkshadow", "threedface",
   "threedhighlight", "threedlightshadow", "threedshadow", "window", "windowframe", "windowtext"]

/-- The colour of a name in lower case. -/
def ofName? (lowered : String) : Option Color :=
  match shortNames.lookup lowered <|> longNames.lookup lowered with
  | some code => some (.mixed (.ofCode code))
  | none =>
    if lowered == "currentcolor" then some (.named "currentColor")
    else if lowered == "transparent" then some (.mixed ⟨0, 0, 0, 0⟩)
    else if systemNames.contains lowered then some (.named lowered)
    else none

/-- A place on an axis; one that is missing has a word of its own. -/
def placeText (place : Option Rat) : String :=
  (place.map fun q => (Measure.ofRat q).short).getD "none"

/-- The text of a colour on the axes of a colour space. -/
def axesValue (axes : Axes) : Value :=
  let texts := match axes.hasLightness, axes.places with
    | true, some lightness :: rest =>
      percentageText (.ofRat lightness) :: rest.map placeText
    | _, places => places.map placeText
  .text (axes.front ++ Layout.join " " texts) ::
    (if axes.alpha = some 1 then [] else [.stroke, .text (placeText axes.alpha)]) ++ [.text ")"]

/-- The text of a colour. -/
def value : Color → Value
  | mixed color => .ofText color.text
  | named name => .ofText name
  | located axes => axesValue axes
  | lightDark light dark =>
    .text "light-dark(" :: light.value ++ .comma :: dark.value ++ [.text ")"]

end Color

/-! ## Reading colours -/

/-- The number of degrees in an angle; a number without a unit counts degrees. -/
def Quantity.degrees? (q : Quantity) : Option Rat :=
  match q.unit with
  | "" | "deg" => some q.size.value
  | "rad" => some (degreesOfRadians q.size).value
  | "grad" => some (q.size.value * 9 / 10)
  | "turn" => some (q.size.value * 360)
  | _ => none

/-- A fraction moved between two others. -/
def clampRat (low high q : Rat) : Rat := if q < low then low else if high < q then high else q

/-- A fraction, or zero for one below it. -/
def atLeastZero (q : Rat) : Rat := if q < 0 then 0 else q

/-- Reads a place on an axis: the word for a missing one, a number, or a percentage of a whole. -/
def readPlace? (whole : Rat) (input : Pieces) : Option (Option Rat × Pieces) :=
  match input.afterWord? "none" with
  | some rest => some (none, rest)
  | none => do
    let (q, rest) ← Quantity.read? input
    if q.isNumber then return (some q.size.value, rest)
    else if q.unit == "%" then return (some (q.size.value * whole), rest)
    else none

/-- Reads a hue in degrees. -/
def readHue? (input : Pieces) : Option (Rat × Pieces) :=
  match input.afterWord? "none" with
  | some rest => some (0, rest)
  | none => do
    let (q, rest) ← Quantity.read? input
    return (← q.degrees?, rest)

/-- The pieces behind a comma, if it comes first. -/
def Pieces.afterComma? (input : Pieces) : Option Pieces :=
  match input.next? with
  | some (piece, rest) => if piece.isComma then some rest else none
  | none => none

/-- The pieces behind a stroke, if it comes first. -/
def Pieces.afterStroke? (input : Pieces) : Option Pieces :=
  match input.next? with
  | some (piece, rest) => if piece.isDelim '/' then some rest else none
  | none => none

/-- Reads how opaque a colour is up to the end; behind a comma in the old notation and behind a
stroke in the new one, and fully opaque where nothing is said. -/
def readAlpha? (isOld : Bool) (input : Pieces) : Option (Option Rat) :=
  if input.isDone then some (some 1)
  else do
    let behind ← if isOld then input.afterComma? else input.afterStroke?
    let (alpha, rest) ← readPlace? 1 behind
    if rest.isDone then return alpha.map (clampRat 0 1) else none

/-- Three parts of a colour, whether they are in the old notation, and what follows. -/
structure ThreeParts where
  first : Rat
  second : Rat
  third : Rat
  isOld : Bool
  rest : Pieces

/-- Reads the shares of red, green and blue, each a percentage or one of 256 steps. -/
def readShares? (input : Pieces) : Option ThreeParts := do
  let share (isOld : Bool) (unit : Option String) (input : Pieces) :
      Option (Rat × String × Pieces) :=
    match if isOld then none else input.afterWord? "none" with
    | some rest => some (0, "", rest)
    | none => do
      let (q, rest) ← Quantity.read? input
      if unit.any (· != q.unit) then none
      else if q.isNumber then
        return (clampRat 0 1 (mkRat (q.size.value + 1 / 2).floor 255), q.unit, rest)
      else if q.unit == "%" then return (clampRat 0 1 q.size.value, q.unit, rest)
      else none
  let (first, unit, rest) ← share false none input
  match rest.afterComma? with
  | some rest =>
    let (second, _, rest) ← share true (some unit) rest
    let (third, _, rest) ← share true (some unit) (← rest.afterComma?)
    return ⟨first, second, third, true, rest⟩
  | none =>
    let (second, _, rest) ← share false none rest
    let (third, _, rest) ← share false none rest
    return ⟨first, second, third, false, rest⟩

/-- Reads a hue and two shares. -/
def readHueShares? (allowsOld : Bool) (input : Pieces) : Option ThreeParts := do
  let share (isOld : Bool) (input : Pieces) : Option (Rat × Pieces) :=
    match if isOld then none else input.afterWord? "none" with
    | some rest => some (0, rest)
    | none => do
      let (q, rest) ← Quantity.read? input
      if q.unit == "%" then return (clampRat 0 1 q.size.value, rest)
      else if q.isNumber && !isOld then return (clampRat 0 1 (q.size.value / 100), rest)
      else none
  let (hue, rest) ← readHue? input
  match if allowsOld then rest.afterComma? else none with
  | some rest =>
    let (second, rest) ← share true rest
    let (third, rest) ← share true (← rest.afterComma?)
    return ⟨hue, second, third, true, rest⟩
  | none =>
    let (second, rest) ← share false rest
    let (third, rest) ← share false rest
    return ⟨hue, second, third, false, rest⟩

/-- A mixed colour from three shares and what is said about its alpha. -/
def mixedColor? (shares : Rat × Rat × Rat) (isOld : Bool) (rest : Pieces) : Option Color := do
  let alpha ← readAlpha? isOld rest
  let (red, green, blue) := shares
  return .mixed (.ofShares red green blue (alpha.getD 0))

/-- The colour spaces with an axis of lightness: the greatest lightness, the whole of the other two
places, and whether the last is a hue. -/
def lightnessSpaces : List (String × Rat × Rat × Bool) :=
  [("lab", 100, 125, false), ("lch", 100, 150, true), ("oklab", 1, 4 / 10, false),
   ("oklch", 1, 4 / 10, true)]

/-- Reads a colour on the axes of a space with lightness. -/
def readLightness? (name : String) (light whole : Rat) (hasHue : Bool) (input : Pieces) :
    Option Color := do
  let (first, rest) ← readPlace? light input
  let (second, rest) ← readPlace? whole rest
  let (third, rest) ←
    if hasHue && (rest.afterWord? "none").isNone then do
      let (hue, rest) ← readHue? rest
      pure (some hue, rest)
    else readPlace? whole rest
  let alpha ← readAlpha? false rest
  let first := first.map fun q => atLeastZero q / light
  let second := if hasHue then second.map atLeastZero else second
  return .located ⟨name ++ "(", true, [first, second, third], alpha⟩

/-- The colour spaces that have a name only. -/
def namedSpaces : List String :=
  ["srgb", "srgb-linear", "display-p3", "a98-rgb", "prophoto-rgb", "rec2020", "xyz-d50",
   "xyz-d65"]

/-- Reads a colour in a space with a name. -/
def readNamedSpace? (input : Pieces) : Option Color := do
  let (piece, rest) ← input.next?
  let name := (← piece.ident?).toLower
  let space := if name == "xyz" then "xyz-d65" else name
  let (first, rest) ← readPlace? 1 rest
  let (second, rest) ← readPlace? 1 rest
  let (third, rest) ← readPlace? 1 rest
  let alpha ← readAlpha? false rest
  let written := if space == "xyz-d65" then "xyz" else space
  if namedSpaces.contains space then
    return .located ⟨"color(" ++ written ++ " ", false, [first, second, third], alpha⟩
  else none

namespace Color

/-- The colour that a function of a name in lower case gives for some arguments, unless these are
colours themselves. -/
def ofPlainFunction? (lowered : String) (arguments : Pieces) : Option Color :=
  match lowered with
  | "rgb" | "rgba" => do
    let shares ← readShares? arguments
    mixedColor? (shares.first, shares.second, shares.third) shares.isOld shares.rest
  | "hsl" | "hsla" => do
    let parts ← readHueShares? true arguments
    mixedColor? (sharesOfHue parts.first parts.second parts.third) parts.isOld parts.rest
  | "hwb" => do
    let parts ← readHueShares? false arguments
    mixedColor? (sharesOfMixture parts.first parts.second parts.third) false parts.rest
  | "color" => readNamedSpace? arguments
  | _ => do
    let (light, whole, hasHue) ← lightnessSpaces.lookup lowered
    readLightness? lowered light whole hasHue arguments

/-- The colour that stands first, with functions of colours at most `limit` deep. -/
def readIn? : (limit : Nat) → Pieces → Option (Color × Pieces)
  | 0, _ => none
  | limit + 1, input => do
    let (piece, rest) ← input.next?
    match piece with
    | .block ⟨.function name, _, _, _⟩ body stop _ =>
      if name.toLower == "light-dark" then
        let (light, behind) ← readIn? limit ⟨body, stop⟩
        let (dark, last) ← readIn? limit (← behind.afterComma?)
        if last.isDone then return (.lightDark light dark, rest) else none
      else return (← ofPlainFunction? name.toLower ⟨body, stop⟩, rest)
    | .block .. => none
    | .token lexeme =>
      match lexeme.token with
      | .hash name _ => return (.mixed (← Rgba.ofDigits? name), rest)
      | .ident name => return (← ofName? name.toLower, rest)
      | _ => none

/-- Reads the colour that stands first. -/
def read? (input : Pieces) : Option (Color × Pieces) := readIn? (totalSize input.pieces + 1) input

end Color

end ComponentFile.Style
