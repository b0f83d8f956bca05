import ComponentFile.Script.Place

/-!
# Printing scripts

The text of a script: a statement a line, indented by tabs.  Objects of more than one member and
arrays of more than two items have a line for each; shorter ones stand on one line.  Strings are in
double quotes, and brackets stand only where a value would be read otherwise without them.

* `importedText`, `renamed` — what is imported and exported.
* `argumentLayout` — the arguments of a call, with the comments at them.
* `Expr.layout`, `Member.layout`, `Statement.layout` — the parts of a script.
* `render` — the whole.
-/

namespace ComponentFile.Script

/-! ## Imports and exports -/

/-- The text of the name of something exported. -/
def ExportName.render : ExportName → String
  | .name text => text
  | .string value => quote value

/-- A name, and the name it gets if that is another one. -/
def renamed (name shown : ExportName) : String :=
  let isSame : Bool := match name, shown with
    | .name a, .name b => a == b
    | .string a, .name b => a == letters b
    | .name a, .string b => letters a == b
    | .string a, .string b => a == b
  if isSame then name.render else name.render ++ " as " ++ shown.render

/-- Names in curly brackets. -/
def braced (texts : List String) : String :=
  if texts.isEmpty then "\x7b\x7d" else "\x7b " ++ String.intercalate ", " texts ++ " \x7d"

/-- The single exports that an import binds. -/
def namedTexts (names : List Imported) : List String :=
  names.filterMap fun
    | .named name bound => some (renamed name (.name bound))
    | _ => none

/-- What an import binds: the default export, all exports and single ones. -/
def importedText (names : List Imported) : String :=
  let whole := names.filterMap fun
    | .default bound => some bound
    | .all bound => some ("* as " ++ bound)
    | .named _ _ => none
  let single := namedTexts names
  let last := if single.isEmpty && !names.isEmpty then [] else [braced single]
  String.intercalate ", " (whole ++ last)

/-! ## Parts of trees -/

/-- Whether an item is left out. -/
def Item.isHole : Item → Bool
  | .hole => true
  | _ => false

/-- Whether a slot takes nothing. -/
def Slot.isHole : Slot → Bool
  | .hole => true
  | _ => false

/-- The comments at an item. -/
def Item.comments : Item → List Comment
  | .commented comments _ | .remark comments => comments
  | _ => []

/-- Whether an item is nothing but comments. -/
def Item.isRemark : Item → Bool
  | .remark _ => true
  | _ => false

/-- Whether comments stand at any argument, so that each has a line of its own. -/
def areSpread (arguments : List Item) : Bool := arguments.any fun item => !item.comments.isEmpty

/-- How deep arguments stand. -/
def argumentDepth (depth : Nat) (arguments : List Item) : Nat :=
  if areSpread arguments then depth + 1 else depth

/-- Arguments with a line for each, and for each comment at them; behind the first one each
argument follows a comma. -/
def spreadArguments (depth : Nat) (isFirst : Bool) : List (Item × Layout) → Layout
  | [] => []
  | (item, layout) :: rest =>
    let isRemark := item.isRemark
    ink (if isFirst || isRemark then "" else ",") ++ argumentComments depth item.comments ++
      (if isRemark then [] else newLine depth ++ layout) ++ spreadArguments depth false rest

/-- Arguments in brackets, the layouts of which are given. -/
def argumentLayout (depth : Nat) (arguments : List Item) (layouts : List Layout) : Layout :=
  if areSpread arguments then
    ink "(" ++ spreadArguments (depth + 1) true (arguments.zip layouts) ++ newLine depth ++ ink ")"
  else roundBrackets layouts

/-- Whether a part of an object is bound to its own name, which is then written once. -/
def isShortField : Key → Slot → Bool
  | .name text, .one (.name bound) _ => text == bound
  | _, _ => false

/-- Whether a value is an object. -/
def Expr.isObject : Expr → Bool
  | .object _ _ => true
  | _ => false

/-- The comments in front of a member of a class. -/
def Member.comments : Member → List Comment
  | .commented comments _ => comments
  | _ => []

/-- Whether a member of a class is a field. -/
def Member.isField : Member → Bool
  | .field _ _ => true
  | .static member | .commented _ member => member.isField
  | _ => false

/-- What stands in front of the class that a class extends. -/
def classHead (name : Option String) : String := "class" ++ (name.map (" " ++ ·)).getD ""

/-- A template with its texts and the layouts of the values between them. -/
def templateLayout (texts : List String) (values : List Layout) : Layout :=
  ink "\x60" ++ pieces texts values ++ ink "\x60"
where
  /-- The texts and values, one after another. -/
  pieces : List String → List Layout → Layout
    | text :: texts, value :: values =>
      ink (guardScriptEnd text ++ "$\x7b") ++ value ++ ink "\x7d" ++ pieces texts values
    | texts, _ => ink (String.join (texts.map guardScriptEnd))

/-- What is printed in front of a call that has no effect but its value. -/
def pureMark : String := "/* @__PURE__ */ "

/-- What stands in front of the parameters of a function. -/
def FunctionKind.head (kind : FunctionKind) (name : Option String) : String :=
  (if kind.isAsync then "async " else "") ++ "function" ++
    (if kind.isGenerator then "* " else if name.isSome then " " else "") ++ name.getD ""

/-- What stands in front of the key of a method. -/
def FunctionKind.mark (kind : FunctionKind) : String :=
  (if kind.isAsync then "async " else "") ++ if kind.isGenerator then "*" else ""

/-- The string that a statement is. -/
def Statement.string? : Statement → Option (List Letter)
  | .expression (.string value) => some value
  | .commented _ statement => statement.string?
  | _ => none

/-- The layout of a directive, a line. -/
def Directive.layout (depth : Nat) (directive : Directive) : Layout :=
  commentLayout depth directive.comments ++ [.indent depth] ++
    ink (quoteDirective directive.raw) ++ statementEnd

/-- The word of a jump. -/
def Jump.word : Jump → String
  | .break => "break"
  | .continue => "continue"

/-- The words in front of a declaration that is exported. -/
def Exporting.words : Exporting → String
  | .no => ""
  | .named => "export "
  | .default => "export default "

/-- The word in front of a method. -/
def MethodKind.word : MethodKind → String
  | .plain => ""
  | .getter => "get "
  | .setter => "set "

/-! ## Trees -/

mutual

/-- The layout of a value in a place. -/
def Expr.layout (place : Place) : Expr → Layout
  | .name text | .word text => ink text
  | .string value => ink (quote value)
  | .number value => ink value.render
  | .regex value => ink ("/" ++ value.text ++ "/" ++ value.flags)
  | .template none texts values => templateLayout texts (valueLayouts place.depth values)
  | .template (some tag) texts values =>
    tag.layout { Place.of place.depth .postfixed with lead := place.lead } ++
      templateLayout texts (valueLayouts place.depth values)
  | .array items =>
    arrayLayout place.depth (itemLayouts (innerDepth place.depth 2 items.length) items)
      (items.getLast?.any Item.isHole)
  | .object comments members =>
    let opening := if comments.isEmpty then [] else
      commentLayout place.depth comments ++ [.indent place.depth]
    bracket (!comments.isEmpty || place.lead = .statement || place.lead = .arrow)
      (opening ++ objectLayout place.depth
        (memberLayouts (innerDepth place.depth 1 members.length) members))
  | .call callee isOptional isPure arguments =>
    let isBracketed : Bool := Strength.construction.rank ≤ place.rank || place.forbidsCalls ||
      (isPure && Strength.postfixed.rank ≤ place.rank)
    bracket isBracketed
      (ink (if isPure then pureMark else "") ++
        callee.layout { Place.of place.depth .postfixed with lead := place.lead } ++
        ink (if isOptional then "?." else "") ++ argumentLayout place.depth arguments
          (itemLayouts (argumentDepth place.depth arguments) arguments))
  | .construct callee isPure arguments =>
    bracket (isPure && Strength.postfixed.rank ≤ place.rank)
      (ink ((if isPure then pureMark else "") ++ "new ") ++
        callee.layout { Place.of place.depth .construction with forbidsCalls := true } ++
        argumentLayout place.depth arguments
          (itemLayouts (argumentDepth place.depth arguments) arguments))
  | .field inner isOptional name =>
    inner.layout place.inner ++
      ink ((if isOptional then "?." else if inner.joinsDot then " ." else ".") ++ name)
  | .index inner isOptional key =>
    inner.layout place.inner ++ ink (if isOptional then "?.[" else "[") ++
      key.layout (.of place.depth .lowest) ++ ink "]"
  | .unary operator operand =>
    let isWord := operator.toList.all Char.isAlpha
    bracket (Strength.unary.rank ≤ place.rank)
      (ink (operator ++ if isWord || joinsOperator operator operand then " " else "") ++
        operand.layout (.of place.depth .power))
  | .update operator true operand =>
    bracket (Strength.unary.rank ≤ place.rank)
      (ink operator ++ operand.layout (.of place.depth .unary))
  | .update operator false operand =>
    bracket (Strength.postfixed.rank ≤ place.rank)
      (operand.layout { Place.of place.depth .postfixed with lead := place.lead } ++ ink operator)
  | .binary operator left right =>
    let own := ((operatorStrength? operator).getD .lowest).rank
    let (leftRank, rightRank) := sideRanks operator left right
    let isBracketed : Bool := own ≤ place.rank || (operator == "in" && place.forbidsIn)
    let place := place.unlessIn isBracketed
    bracket isBracketed
      (left.layout (place.first leftRank) ++ ink (" " ++ operator ++ " ") ++
        right.layout (place.later rightRank))
  | .conditional test yes no =>
    let isBracketed : Bool := Strength.conditional.rank ≤ place.rank
    let place := place.unlessIn isBracketed
    bracket isBracketed
      (test.layout (place.first Strength.conditional.rank) ++ ink " ? " ++
        yes.layout (.of place.depth .comma) ++ ink " : " ++
        no.layout (place.later Strength.comma.rank))
  | .assign operator target value =>
    let isBracketed : Bool := Strength.assign.rank ≤ place.rank ||
      (target.isObject && (place.lead = .statement || place.lead = .arrow))
    let place := place.unlessIn isBracketed
    bracket isBracketed
      (target.targetLayout place ++ ink (" " ++ operator ++ " ") ++
        value.layout (place.later Strength.comma.rank))
  | .sequence values =>
    let isBracketed : Bool := Strength.comma.rank ≤ place.rank
    bracket isBracketed (listLayout (sequenceLayouts (place.unlessIn isBracketed) values))
  | .yield isDelegated none => ink (if isDelegated then "yield*" else "yield")
  | .yield isDelegated (some value) =>
    bracket (Strength.assign.rank ≤ place.rank)
      (ink (if isDelegated then "yield* " else "yield ") ++ value.layout (.of place.depth .comma))
  | .function kind name parameters body =>
    bracket (place.lead = .statement || place.lead = .default)
      (ink (kind.head name) ++ roundBrackets (slotLayouts place.depth parameters) ++ ink " " ++
        body.layout place.depth)
  | .arrow isAsync parameters body =>
    bracket (Strength.assign.rank ≤ place.rank)
      (ink (if isAsync then "async " else "") ++
        roundBrackets (slotLayouts place.depth parameters) ++ ink " => " ++
        body.layout place.depth)
  | .arrowTo isAsync parameters value =>
    bracket (Strength.assign.rank ≤ place.rank)
      (ink (if isAsync then "async " else "") ++
        roundBrackets (slotLayouts place.depth parameters) ++ ink " => " ++
        value.layout { Place.of place.depth .comma with lead := .arrow })
  | .classValue name none members =>
    bracket (place.lead = .statement || place.lead = .default)
      (ink (classHead name) ++ ink " " ++
        blockLayout place.depth (classMemberLayouts (place.depth + 1) members))
  | .classValue name (some parent) members =>
    bracket (place.lead = .statement || place.lead = .default)
      (ink (classHead name ++ " extends ") ++ parent.layout (.of place.depth .postfixed) ++
        ink " " ++ blockLayout place.depth (classMemberLayouts (place.depth + 1) members))
  | .group value => ink "(" ++ value.layout (.of place.depth .lowest) ++ ink ")"

/-- The layout of what is given a value. -/
def Expr.targetLayout (place : Place) : Expr → Layout
  | .array items =>
    boundArrayLayout (targetItemLayouts place.depth items) (items.getLast?.any Item.isHole)
  | .object _ members =>
    ink "\x7b" ++ listLayout (targetMemberLayouts place.depth members) ++ ink "\x7d"
  | .assign _ target value =>
    target.targetLayout (.of place.depth .postfixed) ++ ink " = " ++
      value.layout (.of place.depth .comma)
  | .name text => ink text
  | .field inner isOptional name =>
    inner.layout { Place.of place.depth .postfixed with lead := place.lead } ++
      ink ((if isOptional then "?." else if inner.joinsDot then " ." else ".") ++ name)
  | .index inner isOptional key =>
    inner.layout { Place.of place.depth .postfixed with lead := place.lead } ++
      ink (if isOptional then "?.[" else "[") ++ key.layout (.of place.depth .lowest) ++ ink "]"
  | _ => []

/-- The layouts of items that are given values. -/
def targetItemLayouts (depth : Nat) : List Item → List Layout
  | [] => []
  | .value value :: rest =>
    value.targetLayout (.of depth .comma) :: targetItemLayouts depth rest
  | .spread value :: rest =>
    (ink "..." ++ value.targetLayout (.of depth .comma)) :: targetItemLayouts depth rest
  | _ :: rest => [] :: targetItemLayouts depth rest

/-- The layouts of members that are given values. -/
def targetMemberLayouts (depth : Nat) : List Member → List Layout
  | [] => []
  | .property key value :: rest =>
    (key.layout depth ++ ink ": " ++ value.targetLayout (.of depth .comma)) ::
      targetMemberLayouts depth rest
  | .shorthand name :: rest => ink name :: targetMemberLayouts depth rest
  | .spread value :: rest =>
    (ink "..." ++ value.targetLayout (.of depth .comma)) :: targetMemberLayouts depth rest
  | _ :: rest => targetMemberLayouts depth rest

/-- The layouts of values in a template. -/
def valueLayouts (depth : Nat) : List Expr → List Layout
  | [] => []
  | value :: rest => value.layout (.of depth .lowest) :: valueLayouts depth rest

/-- The layouts of values in a row, the first of which may stand at the start of something. -/
def sequenceLayouts (place : Place) : List Expr → List Layout
  | [] => []
  | value :: rest =>
    value.layout (place.first Strength.lowest.rank) ::
      sequenceLayouts { place with lead := .none } rest

/-- The layouts of items. -/
def itemLayouts (depth : Nat) : List Item → List Layout
  | [] => []
  | item :: rest => item.layout depth :: itemLayouts depth rest

/-- The layout of an item without the comments at it. -/
def Item.layout (depth : Nat) : Item → Layout
  | .value value => value.layout (.of depth .comma)
  | .spread value => ink "..." ++ value.layout (.of depth .comma)
  | .hole | .remark _ => []
  | .commented _ item => item.layout depth

/-- The layout of a member; a key that names its own value is written once, unless it is the key of
the prototype. -/
def Member.layout (depth : Nat) : Member → Layout
  | .property (.name text) (.name value) =>
    ink (if text = value && text != "__proto__" then text else text ++ ": " ++ value)
  | .property key value => key.layout depth ++ ink ": " ++ value.layout (.of depth .comma)
  | .shorthand name => ink name
  | .method kind run key parameters body =>
    ink (kind.word ++ run.mark) ++ key.layout depth ++
      roundBrackets (slotLayouts depth parameters) ++ ink " " ++ body.layout depth
  | .spread value => ink "..." ++ value.layout (.of depth .comma)
  | .field key none => key.layout depth
  | .field key (some value) =>
    key.layout depth ++ ink " = " ++ value.layout (.of depth .comma)
  | .setup body => blockLayout depth (lineLayouts (depth + 1) false body)
  | .static member => ink "static " ++ member.layout depth
  | .commented _ member => member.layout depth

/-- The layouts of members. -/
def memberLayouts (depth : Nat) : List Member → List Layout
  | [] => []
  | member :: rest => member.layout depth :: memberLayouts depth rest

/-- The layout of a key; an infinite number is computed. -/
def Key.layout (depth : Nat) : Key → Layout
  | .name text => ink text
  | .string value => ink (quote value)
  | .number .infinite => ink ("[" ++ Numeral.infinite.render ++ "]")
  | .number value => ink value.render
  | .computed value => ink "[" ++ value.layout (.of depth .comma) ++ ink "]"

/-- The layout of what is bound. -/
def Pattern.layout (depth : Nat) : Pattern → Layout
  | .name text => ink text
  | .object [] => ink "\x7b\x7d"
  | .object fields => ink "\x7b " ++ listLayout (slotLayouts depth fields) ++ ink " \x7d"
  | .array items =>
    boundArrayLayout (slotLayouts depth items) (items.getLast?.any Slot.isHole)

/-- The layouts of slots. -/
def slotLayouts (depth : Nat) : List Slot → List Layout
  | [] => []
  | slot :: rest => slot.layout depth :: slotLayouts depth rest

/-- The layout of a slot. -/
def Slot.layout (depth : Nat) : Slot → Layout
  | .one pattern none => pattern.layout depth
  | .one pattern (some value) =>
    pattern.layout depth ++ ink " = " ++ value.layout (.of depth .comma)
  | .rest pattern => ink "..." ++ pattern.layout depth
  | .keyed key slot =>
    (if isShortField key slot then [] else key.layout depth ++ ink ": ") ++ slot.layout depth
  | .hole => []

/-- The layout of the inside of a function.  A function with nothing in it but comments on the line
of its brackets stays on that line. -/
def Body.layout (depth : Nat) : Body → Layout
  | .mk directives statements =>
    match directives, statements with
    | [], [.remark comments] =>
      if comments.any fun comment => comment.afterLine || comment.beforeLine then
        blockLayout depth [commentLayout (depth + 1) comments]
      else ink "\x7b" ++ commentLayout depth comments ++ ink "\x7d"
    | _, _ =>
      blockLayout depth (directives.map (·.layout (depth + 1)) ++
        lineLayouts (depth + 1) directives.isEmpty statements)

/-- The layouts of the members of a class, each a line or more. -/
def classMemberLayouts (depth : Nat) : List Member → List Layout
  | [] => []
  | member :: rest =>
    (commentLayout depth member.comments ++ [.indent depth] ++ member.layout depth ++
      (if member.isField then statementEnd else [.newLine])) :: classMemberLayouts depth rest

/-- The layout of a statement. -/
def Statement.layout (depth : Nat) (opening : Opening) : Statement → Layout
  | .empty => opening.layout depth ++ statementEnd
  | .block body =>
    opening.layout depth ++ blockLayout depth (lineLayouts (depth + 1) false body) ++
      if opening = .enclosed then [] else [.newLine]
  | .expression value =>
    opening.layout depth ++ value.layout { Place.of depth .lowest with lead := .statement } ++
      statementEnd
  | .returned none => opening.layout depth ++ ink "return" ++ statementEnd
  | .returned (some value) =>
    opening.layout depth ++ ink "return " ++ value.layout (.of depth .lowest) ++ statementEnd
  | .thrown value =>
    opening.layout depth ++ ink "throw " ++ value.layout (.of depth .lowest) ++ statementEnd
  | .jump jump label =>
    opening.layout depth ++ ink (jump.word ++ (label.map (" " ++ ·)).getD "") ++ statementEnd
  | .labelled label body =>
    opening.layout depth ++ ink (label ++ ":") ++ body.gapBefore ++
      body.layout depth body.openingBehind
  | .debugger => opening.layout depth ++ ink "debugger" ++ statementEnd
  | .choice test yes none =>
    let head := opening.layout depth ++ ink "if (" ++ test.layout (.of depth .lowest) ++ ink ")"
    if yes.endsInOpenChoice then
      head ++ ink " \x7b" ++ [.newLine] ++ yes.layout (depth + 1) .line ++ [.indent depth] ++
        ink "\x7d" ++ [.newLine]
    else head ++ yes.gapBefore ++ yes.layout depth yes.openingBehind
  | .choice test yes (some no) =>
    let head := opening.layout depth ++ ink "if (" ++ test.layout (.of depth .lowest) ++ ink ")"
    let first :=
      if yes.isBlock then ink " " ++ yes.layout depth .enclosed ++ ink " "
      else if yes.endsInOpenChoice then
        ink " \x7b" ++ [.newLine] ++ yes.layout (depth + 1) .line ++ [.indent depth] ++
          ink "\x7d "
      else yes.gapBefore ++ yes.layout depth yes.openingBehind ++ [.indent depth]
    let second :=
      if no.isChoice then ink " " ++ no.layout depth .joined
      else no.gapBefore ++ no.layout depth no.openingBehind
    head ++ first ++ ink "else" ++ second
  | .whileLoop test body =>
    opening.layout depth ++ ink "while (" ++ test.layout (.of depth .lowest) ++ ink ")" ++
      body.gapBefore ++ body.layout depth body.openingBehind
  | .doLoop body test =>
    let first :=
      if body.isBlock then ink " " ++ body.layout depth .enclosed ++ ink " "
      else [.spaceNext] ++ body.layout depth .line ++ [.indent depth]
    opening.layout depth ++ ink "do" ++ first ++ ink "while (" ++
      test.layout (.of depth .lowest) ++ ink ")" ++ statementEnd
  | .forLoop start test step body =>
    opening.layout depth ++ ink "for (" ++ loopStartLayout depth start ++ ink ";" ++
      optionalLayout depth test ++ ink ";" ++ optionalLayout depth step ++ ink ")" ++
      body.gapBefore ++ body.layout depth body.openingBehind
  | .forEach source bound values body =>
    let strength := if source = .keys then Strength.lowest else .comma
    opening.layout depth ++ ink (if source = .awaitedItems then "for await (" else "for (") ++
      bound.headLayout depth true ++ ink (if source = .keys then " in " else " of ") ++
      values.layout (.of depth strength) ++ ink ")" ++ body.gapBefore ++
      body.layout depth body.openingBehind
  | .switch value cases =>
    opening.layout depth ++ ink "switch (" ++ value.layout (.of depth .lowest) ++ ink ") " ++
      blockLayout depth (lineLayouts (depth + 1) false cases) ++ [.newLine]
  | .caseOf test [statement] =>
    opening.layout depth ++ testLayout depth test ++ ink ":" ++ statement.gapBefore ++
      statement.layout depth statement.openingBehind
  | .caseOf test body =>
    opening.layout depth ++ testLayout depth test ++ ink ":" ++ [.newLine] ++
      (lineLayouts (depth + 1) false body).flatten
  | .attempt body bound handler final =>
    opening.layout depth ++ ink "try " ++ blockLayout depth (lineLayouts (depth + 1) false body) ++
      (if handler.isSome then ink " catch " ++ boundLayout depth bound else []) ++
      enclosedLayout depth handler ++ (if final.isSome then ink " finally " else []) ++
      enclosedLayout depth final ++ [.newLine]
  | .declaration binding declared isExported =>
    opening.layout depth ++ ink ((if isExported then "export " else "") ++ binding.word ++ " ") ++
      listLayout (variableLayouts depth false declared) ++ statementEnd
  | .function exporting kind name parameters body =>
    opening.layout depth ++ ink (exporting.words ++ kind.head name) ++
      roundBrackets (slotLayouts depth parameters) ++ ink " " ++ body.layout depth ++
      [.newLine]
  | .classDeclaration exporting name none members =>
    opening.layout depth ++ ink (exporting.words ++ classHead name ++ " ") ++
      blockLayout depth (classMemberLayouts (depth + 1) members) ++ [.newLine]
  | .classDeclaration exporting name (some parent) members =>
    opening.layout depth ++ ink (exporting.words ++ classHead name ++ " extends ") ++
      parent.layout (.of depth .postfixed) ++ ink " " ++
      blockLayout depth (classMemberLayouts (depth + 1) members) ++ [.newLine]
  | .imported none source =>
    opening.layout depth ++ ink ("import " ++ quote source) ++ statementEnd
  | .imported (some names) source =>
    opening.layout depth ++ ink ("import " ++ importedText names ++ " from " ++ quote source) ++
      statementEnd
  | .exportedDefault value =>
    opening.layout depth ++ ink "export default " ++
      value.layout { Place.of depth .comma with lead := .default } ++ statementEnd
  | .exportedNames names source =>
    let origin := (source.map fun source => " from " ++ quote source).getD ""
    opening.layout depth ++
      ink ("export " ++ braced (names.map fun (name, shown) => renamed name shown) ++ origin) ++
      statementEnd
  | .exportedAll name source =>
    let shown := (name.map fun name => " as " ++ name.render).getD ""
    opening.layout depth ++ ink ("export *" ++ shown ++ " from " ++ quote source) ++ statementEnd
  | .typeOnly _ => []
  | .commented comments statement =>
    (if opening = .line then commentLayout depth comments else []) ++
      statement.layout depth opening
  | .remark comments => commentLayout depth comments

/-- The layout of the head of a loop without what follows it; `isTarget` says that each value of the
loop is given to it. -/
def Statement.headLayout (depth : Nat) (isTarget : Bool) : Statement → Layout
  | .declaration binding declared _ =>
    ink (binding.word ++ " ") ++ listLayout (variableLayouts depth true declared)
  | .expression value =>
    if isTarget then value.targetLayout (.of depth .comma)
    else value.layout { Place.of depth .lowest with forbidsIn := true }
  | _ => []

/-- The layout of what is done at the start of a loop. -/
def loopStartLayout (depth : Nat) : Option Statement → Layout
  | none => []
  | some start => start.headLayout depth false

/-- The layout of a value behind a blank, if there is one. -/
def optionalLayout (depth : Nat) : Option Expr → Layout
  | none => []
  | some value => ink " " ++ value.layout (.of depth .lowest)

/-- The layout of the test of a case. -/
def testLayout (depth : Nat) : Option Expr → Layout
  | none => ink "default"
  | some value => ink "case " ++ value.layout (.of depth .lowest)

/-- The layout of what something thrown is bound to. -/
def boundLayout (depth : Nat) : Option Pattern → Layout
  | none => []
  | some bound => ink "(" ++ bound.layout depth ++ ink ") "

/-- The layout of a block on a line that goes on behind it. -/
def enclosedLayout (depth : Nat) : Option Statement → Layout
  | none => []
  | some block => block.layout depth .enclosed

/-- The layouts of the variables of a declaration. -/
def variableLayouts (depth : Nat) (forbidsIn : Bool) : List Slot → List Layout
  | [] => []
  | .one pattern (some value) :: rest =>
    (pattern.layout depth ++ ink " = " ++
      value.layout { Place.of depth .comma with forbidsIn := forbidsIn }) ::
      variableLayouts depth forbidsIn rest
  | slot :: rest => slot.layout depth :: variableLayouts depth forbidsIn rest

/-- The layouts of statements, each a line or more.  A string that would be taken for a directive is
put in brackets at the start of the line. -/
def lineLayouts (depth : Nat) (mayDirect : Bool) : List Statement → List Layout
  | [] => []
  | first :: rest =>
    (match mayDirect, first.string? with
    | true, some value => ink ("(" ++ quote value ++ ")") ++ statementEnd
    | _, _ => first.layout depth .line) :: lineLayouts depth false rest

end

/-- The text of a script. -/
def render : Body → String
  | .mk directives statements =>
    Layout.text (directives.map (·.layout 0) ++
      lineLayouts 0 directives.isEmpty statements).flatten

end ComponentFile.Script
