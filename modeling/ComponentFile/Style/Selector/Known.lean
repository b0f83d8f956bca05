import ComponentFile.Style.Selector

/-!
# Known pseudo-classes and pseudo-elements

Names that have a meaning are matched in any case and printed in lower case; all others are kept
as they are written.

* `knownPseudoClasses`, `structuralPseudoClasses`, `knownPseudoElements` — the names.
* `pseudoClassText`, `pseudoElementText` — how they are printed.
* `Position.ofFunction?` — the functions that count positions among siblings.
-/

namespace ComponentFile.Style

/-- Pseudo-classes whose names are printed in lower case. -/
def knownPseudoClasses : List String :=
  ["hover", "active", "focus", "focus-visible", "focus-within", "current", "past", "future",
   "playing", "paused", "seeking", "buffering", "stalled", "muted", "volume-locked", "fullscreen",
   "-webkit-full-screen", "-moz-full-screen", "-ms-fullscreen", "open", "closed", "modal",
   "picture-in-picture", "popover-open", "defined", "any-link", "-webkit-any-link",
   "-moz-any-link", "link", "local-link", "target", "target-within", "visited", "enabled",
   "disabled", "read-only", "-moz-read-only", "read-write", "-moz-read-write",
   "placeholder-shown", "-moz-placeholder", "-ms-input-placeholder", "default", "checked",
   "indeterminate", "blank", "valid", "invalid", "in-range", "out-of-range", "required",
   "optional", "user-valid", "user-invalid", "autofill", "-webkit-autofill", "-o-autofill",
   "active-view-transition"]

/-- The name that a known pseudo-class is printed with: two are known by an older name. -/
def pseudoClassText (lowered : String) : String :=
  match lowered with
  | "-moz-placeholder" => "-moz-placeholder-shown"
  | "-ms-input-placeholder" => "-ms-placeholder-shown"
  | _ => lowered

/-- The name that a known pseudo-element is printed with: one is known by two names. -/
def pseudoElementText (lowered : String) : String :=
  if lowered == "-ms-input-placeholder" then "-moz-placeholder" else lowered

/-- Pseudo-classes that only parts of scroll bars have. -/
def scrollBarClasses : List String :=
  ["horizontal", "vertical", "decrement", "increment", "start", "end", "double-button",
   "single-button", "no-button", "corner-present", "window-inactive"]

/-- Other pseudo-classes that parts of scroll bars have too. -/
def scrollBarStates : List String := ["enabled", "disabled", "hover", "active"]

/-- Pseudo-classes that depend on the place of an element in its document. -/
def structuralPseudoClasses : List String :=
  ["first-child", "last-child", "only-child", "root", "empty", "scope", "host", "first-of-type",
   "last-of-type", "only-of-type"]

/-- Pseudo-classes that tell what a user does with an element. -/
def userActions : List String := ["hover", "active", "focus", "focus-visible", "focus-within"]

/-- Parts of scroll bars. -/
def scrollBarParts : List String :=
  ["-webkit-scrollbar", "-webkit-scrollbar-button", "-webkit-scrollbar-track",
   "-webkit-scrollbar-track-piece", "-webkit-scrollbar-thumb", "-webkit-scrollbar-corner",
   "-webkit-resizer"]

/-- Pseudo-elements that are known; only these start a compound of their own. -/
def knownPseudoElements : List String :=
  ["before", "after", "first-line", "first-letter", "details-content", "target-text",
   "search-text", "spelling-error", "grammar-error", "cue", "cue-region", "selection",
   "-moz-selection", "placeholder", "-webkit-input-placeholder", "-moz-placeholder",
   "-ms-input-placeholder", "marker", "backdrop", "-webkit-backdrop", "file-selector-button",
   "-webkit-file-upload-button", "-ms-browse", "view-transition", "picker-icon", "checkmark"] ++
    scrollBarParts

/-- Pseudo-elements of a change of views, which take arguments. -/
def viewTransitions : List String :=
  ["view-transition-group", "view-transition-image-pair", "view-transition-old",
   "view-transition-new"]

/-- Pseudo-elements that the content of a slot may have. -/
def slottedPseudoElements : List String :=
  ["before", "after", "marker", "placeholder", "-webkit-input-placeholder", "-moz-placeholder",
   "-ms-input-placeholder", "file-selector-button", "-webkit-file-upload-button", "-ms-browse"]

/-- The pseudo-elements that may be written with one colon, and are. -/
def singleColon : List String := ["before", "after", "first-line", "first-letter"]

/-- The kind of positions that a function counts. -/
def Position.ofFunction? (name : String) : Option Position :=
  [child, lastChild, ofType, lastOfType, column, lastColumn].find?
    fun position => position.function == name

/-- Functions of selectors in which a selector that cannot be read is left out. -/
def forgivingFunctions : List String := ["is", "where", "-webkit-any", "-moz-any"]

/-- Whether the positions that a function counts may be those among certain elements only. -/
def Position.countsMatches : Position → Bool
  | child | lastChild => true
  | ofType | lastOfType | column | lastColumn => false

end ComponentFile.Style
