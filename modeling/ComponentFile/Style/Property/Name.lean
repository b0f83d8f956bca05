import ComponentFile.Style.Identifier

/-!
# Names of properties

A property that is known is recognised in any case and printed in lower case.  Browsers know some
properties by a name with a vendor's mark in front.

* `Vendor` — the vendors; `knownProperties`, `vendorsOf` — the names that are known.
* `Property` — a property; `Property.ofName`, `Property.text` — from and to its name.
-/

namespace ComponentFile.Style

/-! ## Vendors -/

/-- The vendors whose marks stand in front of names. -/
inductive Vendor where
  | webkit
  | moz
  | ms
  | o
deriving DecidableEq, Repr

namespace Vendor

/-- The vendors in the order in which their names are listed. -/
def all : List Vendor := [webkit, moz, ms, o]

/-- The mark of a vendor. -/
def mark : Vendor → String
  | webkit => "-webkit-"
  | moz => "-moz-"
  | ms => "-ms-"
  | o => "-o-"

/-- Splits the mark of a vendor off a name in lower case. -/
def split (lowered : String) : Option Vendor × String :=
  match all.find? fun vendor => lowered.startsWith vendor.mark with
  | some vendor => (some vendor, (lowered.drop vendor.mark.length).toString)
  | none => (none, lowered)

end Vendor

/-! ## Tables -/

/-- The four sides of a box. -/
def boxSides : List String := ["top", "right", "bottom", "left"]

/-- The sides of a box in the direction of the text. -/
def flowSides : List String :=
  ["block", "block-start", "block-end", "inline", "inline-start", "inline-end"]

/-- The names for all sides of a box, each followed by one of some endings. -/
def sided (front : String) (ends : List String) : List String :=
  (boxSides ++ flowSides).flatMap fun side => ends.map fun ending => front ++ side ++ ending

/-- The four corners of a box. -/
def cornerRadii : List String :=
  ["border-top-left-radius", "border-top-right-radius", "border-bottom-left-radius",
   "border-bottom-right-radius"]

/-- Properties of boxes, their borders and their places. -/
def boxProperties : List String :=
  ["display", "visibility", "width", "height", "min-width", "min-height", "max-width",
   "max-height", "block-size", "inline-size", "min-block-size", "min-inline-size",
   "max-block-size", "max-inline-size", "box-sizing", "aspect-ratio", "overflow", "overflow-x",
   "overflow-y", "position", "top", "right", "bottom", "left", "inset", "inset-block",
   "inset-block-start", "inset-block-end", "inset-inline", "inset-inline-start",
   "inset-inline-end", "box-shadow", "box-decoration-break", "z-index", "resize", "outline",
   "outline-color", "outline-style", "outline-width", "container", "container-name",
   "container-type", "view-transition-name", "view-transition-class", "view-transition-group",
   "border", "border-color", "border-style", "border-width", "border-radius",
   "border-start-start-radius", "border-start-end-radius", "border-end-start-radius",
   "border-end-end-radius", "border-spacing", "border-image", "border-image-source",
   "border-image-slice", "border-image-width", "border-image-outset", "border-image-repeat",
   "margin", "padding", "scroll-margin", "scroll-padding"] ++ cornerRadii ++
    sided "border-" ["", "-color", "-style", "-width"] ++ sided "margin-" [""] ++
    sided "padding-" [""] ++ sided "scroll-margin-" [""] ++ sided "scroll-padding-" [""]

/-- Properties of flexible boxes and grids. -/
def layoutProperties : List String :=
  ["flex", "flex-direction", "flex-wrap", "flex-flow", "flex-grow", "flex-shrink", "flex-basis",
   "order", "align-content", "align-items", "align-self", "justify-content", "justify-items",
   "justify-self", "place-content", "place-items", "place-self", "gap", "row-gap", "column-gap",
   "grid", "grid-template", "grid-template-columns", "grid-template-rows", "grid-template-areas",
   "grid-auto-columns", "grid-auto-rows", "grid-auto-flow", "grid-area", "grid-row",
   "grid-row-start", "grid-row-end", "grid-column", "grid-column-start", "grid-column-end"]

/-- Properties of text and fonts. -/
def textProperties : List String :=
  ["font", "font-family", "font-size", "font-stretch", "font-style", "font-variant-caps",
   "font-weight", "font-palette", "line-height", "vertical-align", "text-align",
   "text-align-last", "text-decoration", "text-decoration-color", "text-decoration-line",
   "text-decoration-skip-ink", "text-decoration-style", "text-decoration-thickness",
   "text-emphasis", "text-emphasis-color", "text-emphasis-position", "text-emphasis-style",
   "text-indent", "text-justify", "text-overflow", "text-shadow", "text-size-adjust",
   "text-transform", "white-space", "tab-size", "word-break", "word-spacing", "word-wrap",
   "line-break", "hyphens", "overflow-wrap", "letter-spacing", "direction", "unicode-bidi",
   "list-style", "list-style-image", "list-style-position", "list-style-type", "marker-side"]

/-- Properties of motion. -/
def motionProperties : List String :=
  ["transition", "transition-delay", "transition-duration", "transition-property",
   "transition-timing-function", "transition-behavior", "animation", "animation-composition",
   "animation-delay",
   "animation-direction", "animation-duration", "animation-fill-mode",
   "animation-iteration-count", "animation-name", "animation-play-state", "animation-range",
   "animation-range-end", "animation-range-start", "animation-timeline",
   "animation-timing-function", "transform", "transform-box", "transform-origin",
   "transform-style", "backface-visibility", "perspective", "perspective-origin", "translate",
   "rotate", "scale"]

/-- Properties of colours and pictures. -/
def paintProperties : List String :=
  ["color", "opacity", "background", "background-attachment", "background-clip",
   "background-color", "background-image", "background-origin", "background-position",
   "background-position-x", "background-position-y", "background-repeat", "background-size",
   "cursor", "caret", "caret-color", "caret-shape", "user-select",
   "accent-color", "appearance", "fill", "fill-opacity", "fill-rule", "stroke",
   "stroke-dasharray", "stroke-dashoffset", "stroke-linecap", "stroke-linejoin",
   "stroke-miterlimit", "stroke-opacity", "stroke-width", "marker", "marker-end", "marker-mid",
   "marker-start", "color-interpolation", "color-interpolation-filters", "color-rendering",
   "shape-rendering", "text-rendering", "image-rendering", "clip-path", "clip-rule", "mask",
   "mask-border", "mask-border-mode", "mask-border-outset", "mask-border-repeat",
   "mask-border-slice", "mask-border-source", "mask-border-width", "mask-clip", "mask-composite",
   "mask-image", "mask-mode", "mask-origin", "mask-position", "mask-repeat", "mask-size",
   "mask-type", "filter", "backdrop-filter", "color-scheme", "print-color-adjust", "all"]

/-- The properties that are known without a vendor's mark. -/
def knownProperties : List String :=
  boxProperties ++ layoutProperties ++ textProperties ++ motionProperties ++ paintProperties

/-- The vendors by whose names properties are known; most of these are known without a mark too. -/
def vendorTable : List (List Vendor × List String) :=
  [([.webkit, .moz],
    ["background-clip", "box-shadow", "box-sizing", "border-radius", "transform-style",
     "backface-visibility", "perspective", "perspective-origin", "text-decoration",
     "text-decoration-line", "text-decoration-style", "text-decoration-color", "box-orient",
     "box-direction", "box-ordinal-group", "box-align", "box-flex", "box-pack",
     "box-lines"] ++ cornerRadii),
   ([.o], ["text-overflow"]),
   ([.moz], ["text-align-last"]),
   ([.moz, .o], ["tab-size"]),
   ([.webkit, .moz, .o],
    ["border-image", "animation", "animation-delay", "animation-direction",
     "animation-duration", "animation-fill-mode", "animation-iteration-count", "animation-name",
     "animation-play-state", "animation-timing-function"]),
   ([.webkit, .ms], ["flex", "flex-direction", "flex-wrap", "flex-flow"]),
   ([.webkit],
    ["flex-grow", "flex-shrink", "flex-basis", "order", "align-content", "align-items",
     "align-self", "justify-content", "box-flex-group", "text-decoration-skip-ink",
     "text-emphasis", "text-emphasis-color", "text-emphasis-position", "text-emphasis-style",
     "box-decoration-break", "clip-path", "mask", "mask-clip", "mask-composite", "mask-image",
     "mask-origin", "mask-position", "mask-repeat", "mask-size", "mask-source-type",
     "mask-box-image", "mask-box-image-outset", "mask-box-image-repeat", "mask-box-image-slice",
     "mask-box-image-source", "mask-box-image-width", "filter", "backdrop-filter",
     "print-color-adjust"]),
   ([.webkit, .moz, .ms],
    ["transition", "transition-delay", "transition-duration", "transition-property",
     "transition-timing-function", "hyphens", "text-size-adjust", "user-select", "appearance"]),
   ([.webkit, .moz, .ms, .o], ["transform", "transform-origin"]),
   ([.ms],
    ["flex-pack", "flex-order", "flex-align", "flex-item-align", "flex-line-pack",
     "flex-positive", "flex-negative", "flex-preferred-size"])]

/-- Whether a property is known by a vendor's name. -/
def Vendor.knows (vendor : Vendor) (base : String) : Bool :=
  vendorTable.any fun (vendors, names) => vendors.contains vendor && names.contains base

/-! ## Properties -/

/-- A property. -/
inductive Property where
  /-- One that is known, with the vendor whose mark stands in front of its name. -/
  | known (vendor : Option Vendor) (base : String)
  /-- One to which the sheet itself gives a meaning. -/
  | custom (name : String)
  | unknown (name : String)
deriving DecidableEq, Repr

namespace Property

/-- The property of a name. -/
def ofName (name : String) : Property :=
  match Vendor.split name.toLower with
  | (some vendor, base) => if vendor.knows base then known (some vendor) base else other name
  | (none, base) => if knownProperties.contains base then known none base else other name
where
  /-- A property that is not known. -/
  other (name : String) : Property :=
    if name.startsWith "--" then custom name else unknown name

/-- The vendor whose mark stands in front of a name. -/
def vendor? : Property → Option Vendor
  | known vendor _ => vendor
  | _ => none

/-- The property without a vendor's mark. -/
def plain : Property → Property
  | known _ base => known none base
  | property => property

/-- The name of a property as it is printed. -/
def text : Property → String
  | known vendor base => (vendor.map Vendor.mark).getD "" ++ base
  | custom name => writeIdentifier name
  | unknown name => writeIdentifier name

/-- Whether the sheet itself gives a property its meaning. -/
def isCustom : Property → Bool
  | custom _ => true
  | _ => false

end Property

end ComponentFile.Style
