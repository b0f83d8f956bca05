import ComponentFile.Script.Lookahead

/-!
# Reading scripts

A script is a list of statements.  A statement ends at a semicolon, or without one where a line, a
block or the script ends.  Reading stops at the first fault that leaves no way to go on.

* `expression`, `assignment`, `binaryRest`, `unary`, `operand`, `primary` — values, from the
  weakest to the strongest binding.
* `pattern`, `slot` — what is bound.
* `member`, `classMember`, `functionBody`, `statement` — what values are part of.
* `parse` — a whole script.
-/

namespace ComponentFile.Script

mutual

/-- Reads values separated by commas, of which the last one counts. -/
def expression (dialect : Dialect) : (limit : Nat) → Cursor → Except Fault (Expr × Cursor)
  | 0, cursor => cursor.fail .unexpectedToken
  | limit + 1, cursor => do
    let (first, cursor) ← assignment dialect limit cursor
    let (others, cursor) ← expressionRest dialect limit cursor
    return (if others.isEmpty then first else .sequence (first :: others), cursor)

/-- Reads the values behind commas. -/
def expressionRest (dialect : Dialect) :
    (limit : Nat) → Cursor → Except Fault (List Expr × Cursor)
  | 0, cursor => cursor.fail .unexpectedToken
  | limit + 1, cursor =>
    if cursor.atMark "," then do
      let (value, cursor) ← assignment dialect limit cursor.advance
      let (others, cursor) ← expressionRest dialect limit cursor
      return (value :: others, cursor)
    else .ok ([], cursor)

/-- Reads a value that may be a function in short notation, a choice, or give a variable a value. -/
def assignment (dialect : Dialect) : (limit : Nat) → Cursor → Except Fault (Expr × Cursor)
  | 0, cursor => cursor.fail .unexpectedToken
  | limit + 1, cursor =>
    if cursor.atWord "yield" && cursor.around.yields then yielded dialect limit cursor.advance
    else
      match arrow? dialect limit cursor with
      | some result => result
      | none => do
        let start := cursor.next.start
        let (left, cursor) ← factor dialect limit cursor
        let (left, cursor) ← binaryRest dialect limit left Strength.lowest.rank cursor
        match operatorHere cursor with
        | some (operator, behind) =>
          if assignOperators.contains operator then
            if left.accepts operator then do
              let (value, cursor) ← assignment dialect limit behind
              return (.assign operator left value, cursor)
            else cursor.failAt .noTarget start
          else if operator == "?" then do
            let (yes, cursor) ← behind.withinBrackets fun cursor => assignment dialect limit cursor
            let cursor ← cursor.expect ":"
            let (no, cursor) ← assignment dialect limit cursor
            return (.conditional left yes no, cursor)
          else return (left, cursor)
        | none => return (left, cursor)

/-- Reads what is handed out behind the word for it. -/
def yielded (dialect : Dialect) : (limit : Nat) → Cursor → Except Fault (Expr × Cursor)
  | 0, cursor => cursor.fail .unexpectedToken
  | limit + 1, cursor => do
    let isDelegated := cursor.atMark "*" && !cursor.next.afterLine
    if !isDelegated && yieldsNothing cursor then return (.yield false none, cursor)
    else
      let (value, cursor) ←
        assignment dialect limit (if isDelegated then cursor.advance else cursor)
      return (.yield isDelegated (some value), cursor)

/-- Reads a function in short notation, if one begins here. -/
def arrow? (dialect : Dialect) :
    (limit : Nat) → Cursor → Option (Except Fault (Expr × Cursor))
  | 0, _ => none
  | limit + 1, cursor =>
    let isAsync := cursor.atWord "async" && !cursor.advance.next.afterLine &&
      (cursor.advance.atMark "(" ||
        match cursor.advance.next.token with
        | .name word => !isReserved word && cursor.advance.advance.atMark "=>"
        | _ => false)
    let cursor := if isAsync then cursor.advance else cursor
    let found := match cursor.next.token with
      | .name word =>
        if isReserved word then none
        else some ([Slot.one (.name word) none], cursor.advance)
      | .mark "(" | .mark "<" =>
        match skipTypeParameters dialect limit cursor with
        | .ok opening =>
          if opening.atMark "(" then
            match parameters dialect limit opening.advance with
            | .ok (parameters, cursor) =>
              match skipAnnotation dialect limit cursor with
              | .ok cursor => some (parameters, cursor)
              | .error _ => none
            | .error _ => none
          else none
        | .error _ => none
      | _ => none
    match found with
    | some (parameters, cursor) =>
      if cursor.atMark "=>" && !cursor.next.afterLine then
        some (arrowBody dialect limit isAsync parameters cursor.advance)
      else none
    | none => none

/-- Reads the body of a function in short notation. -/
def arrowBody (dialect : Dialect) : (limit : Nat) → (isAsync : Bool) → List Slot → Cursor →
    Except Fault (Expr × Cursor)
  | 0, _, _, cursor => cursor.fail .unexpectedToken
  | limit + 1, isAsync, parameters, cursor =>
    if cursor.atMark "\x7b" then do
      let (body, cursor) ← cursor.within ⟨isAsync, false, true⟩ fun cursor =>
        functionBody dialect limit cursor.advance
      return (.arrow isAsync parameters body, cursor)
    else do
      let (value, cursor) ← cursor.within ⟨isAsync, false, cursor.around.allowsIn⟩ fun cursor =>
        assignment dialect limit cursor
      return (.arrowTo isAsync parameters value, cursor)

/-- Reads the operators that follow a value and bind more strongly than a rank, with their right
sides.  A type that the value is taken to have is passed over. -/
def binaryRest (dialect : Dialect) :
    (limit : Nat) → (left : Expr) → (rank : Nat) → Cursor → Except Fault (Expr × Cursor)
  | 0, left, _, cursor => .ok (left, cursor)
  | limit + 1, left, rank, cursor =>
    if dialect.hasTypes && (cursor.atWord "as" || cursor.atWord "satisfies") &&
        !cursor.next.afterLine && rank < Strength.comparison.rank then do
      let cursor ←
        if cursor.advance.atWord "const" then pure cursor.advance.advance
        else skipType limit cursor.advance
      binaryRest dialect limit left rank cursor
    else
      match operatorHere cursor with
      | some (operator, behind) =>
        match operatorStrength? operator with
        | some strength =>
          if rank < strength.rank || (strength = .power && rank = strength.rank) then do
            let (right, cursor) ← factor dialect limit behind
            let (right, cursor) ← binaryRest dialect limit right strength.rank cursor
            binaryRest dialect limit (.binary operator left right) rank cursor
          else .ok (left, cursor)
        | none => .ok (left, cursor)
      | none => .ok (left, cursor)

/-- Reads a side of an operator.  A comment in front of it may say that its call has no effect but
its value. -/
def factor (dialect : Dialect) : (limit : Nat) → Cursor → Except Fault (Expr × Cursor)
  | 0, cursor => cursor.fail .unexpectedToken
  | limit + 1, cursor => do
    let isPure := cursor.next.isPure
    let (value, cursor) ← unary dialect limit cursor
    return (if isPure then value.markPure else value, cursor)

/-- Reads a value with the operators in front of it and behind it. -/
def unary (dialect : Dialect) : (limit : Nat) → Cursor → Except Fault (Expr × Cursor)
  | 0, cursor => cursor.fail .unexpectedToken
  | limit + 1, cursor =>
    let operator? := match cursor.next.token with
      | .mark mark => some mark
      | .name word => some word
      | _ => none
    match operator? with
    | some "<" =>
      if dialect = .types then do
        let cursor ← skipType limit cursor.advance
        let cursor ← cursor.expect ">"
        unary dialect limit cursor
      else failAtElement dialect cursor
    | some "await" => awaited dialect limit cursor
    | some operator =>
      if unaryOperators.contains operator then do
        let (value, cursor) ← unary dialect limit cursor.advance
        return (.unary operator value, cursor)
      else if operator == "++" || operator == "--" then do
        let start := cursor.advance.next.start
        let (value, cursor) ← unary dialect limit cursor.advance
        if value.isTarget then return (.update operator true value, cursor)
        else cursor.failAt .noTarget start
      else counted dialect limit cursor
    | none => counted dialect limit cursor

/-- Reads a value that is waited for, or a name that is the word for it. -/
def awaited (dialect : Dialect) : (limit : Nat) → Cursor → Except Fault (Expr × Cursor)
  | 0, cursor => cursor.fail .unexpectedToken
  | limit + 1, cursor => do
    let start := cursor.next.start
    let behind := cursor.advance
    if cursor.around.awaits || mayAwait behind then
      let behind := if cursor.around.awaits then behind else behind.note .misplacedAwait start
      let (value, cursor) ← behind.within { cursor.around with awaits := true } fun cursor =>
        unary dialect limit cursor
      return (.unary "await" value, cursor)
    else counted dialect limit cursor

/-- Reads a value that may be counted up or down behind. -/
def counted (dialect : Dialect) : (limit : Nat) → Cursor → Except Fault (Expr × Cursor)
  | 0, cursor => cursor.fail .unexpectedToken
  | limit + 1, cursor => do
    let start := cursor.next.start
    let (value, cursor) ← operand dialect limit true cursor
    if (cursor.atMark "++" || cursor.atMark "--") && !cursor.next.afterLine then
      if value.isTarget then
        let operator := if cursor.atMark "++" then "++" else "--"
        return (.update operator false value, cursor.advance)
      else cursor.failAt .noTarget start
    else return (value, cursor)

/-- Reads a value with the fields, keys and, if allowed, calls that follow it. -/
def operand (dialect : Dialect) :
    (limit : Nat) → (allowsCalls : Bool) → Cursor → Except Fault (Expr × Cursor)
  | 0, _, cursor => cursor.fail .unexpectedToken
  | limit + 1, allowsCalls, cursor =>
    if cursor.atWord "new" then
      let behind := cursor.advance
      if behind.atMark "." then do
        let cursor ← behind.advance.expectWord "target"
        chain dialect limit allowsCalls (.word "new.target") cursor
      else do
        let (callee, cursor) ← operand dialect limit false behind
        let cursor := skipCallTypes dialect limit cursor
        let (arguments, cursor) ←
          if cursor.atMark "(" then items dialect limit ")" cursor.advance else pure ([], cursor)
        chain dialect limit allowsCalls (.construct callee false arguments) cursor
    else do
      let (value, cursor) ← primary dialect limit cursor
      chain dialect limit allowsCalls value cursor

/-- Reads a value without what follows it. -/
def primary (dialect : Dialect) : (limit : Nat) → Cursor → Except Fault (Expr × Cursor)
  | 0, cursor => cursor.fail .unexpectedToken
  | limit + 1, cursor =>
    match cursor.next.token with
    | .string value _ => .ok (.string value, cursor.advance)
    | .number _ value => .ok (.number value, cursor.advance)
    | .template piece => do
      let ((texts, values), cursor) ←
        templateRest dialect limit true piece (cursor.next.start + 1) cursor.advance
      return (.template none texts values, cursor)
    | .mark "[" => do
      let (items, cursor) ← items dialect limit "]" cursor.advance
      return (.array items, cursor)
    | .mark "\x7b" => do
      let comments := cursor.next.comments
      let (members, cursor) ← cursor.advance.withinBrackets fun cursor =>
        members dialect limit cursor
      return (.object comments members, cursor)
    | .mark "(" =>
      let start := cursor.next.start
      cursor.advance.withinBrackets fun cursor => bracketed dialect limit start cursor
    | .mark "/" | .mark "/=" => do
      let (regex, cursor) ← readRegexHere cursor
      return (.regex regex, cursor)
    | .mark "#" => do
      let (name, cursor) ← readAnyName cursor.advance
      if cursor.atWord "in" then return (.name ("#" ++ name), cursor)
      else cursor.fail .unexpectedToken
    | .mark "<" => failAtElement dialect cursor
    | .escapedWord _ => cursor.fail .escapedWord
    | .name word =>
      if valueWords.contains word then .ok (.word word, cursor.advance)
      else if word == "function" then do
        let (parts, cursor) ← functionRest dialect limit false false cursor.advance
        return (.function parts.1 parts.2.1 parts.2.2.1 parts.2.2.2, cursor)
      else if atAsyncFunction cursor then do
        let (parts, cursor) ← functionRest dialect limit true false cursor.advance.advance
        return (.function parts.1 parts.2.1 parts.2.2.1 parts.2.2.2, cursor)
      else if word == "class" then do
        let ((name, parent, members), cursor) ← classRest dialect limit cursor.advance
        return (.classValue name parent members, cursor)
      else if word == "import" then
        if cursor.advance.atMark "." then do
          let cursor ← cursor.advance.advance.expectWord "meta"
          return (.word "import.meta", cursor)
        else if cursor.advance.atMark "(" then .ok (.word "import", cursor.advance)
        else cursor.fail .unexpectedToken
      else if isReserved word then cursor.fail .unexpectedToken
      else .ok (.name word, (cursor.checkName word).advance)
    | _ => cursor.fail .unexpectedToken

/-- Reads the texts of a template and the values between them; `start` is where the piece that has
been read begins. -/
def templateRest (dialect : Dialect) : (limit : Nat) → (checksEscapes : Bool) →
    TemplatePiece → (start : Nat) → Cursor → Except Fault ((List String × List Expr) × Cursor)
  | 0, _, _, _, cursor => cursor.fail .unexpectedToken
  | limit + 1, checksEscapes, piece, start, cursor => do
    let cursor :=
      if checksEscapes && !piece.isSound then cursor.note .invalidTemplateEscape start else cursor
    if piece.isLast then return (([piece.raw], []), cursor)
    else
      let (value, cursor) ← cursor.withinBrackets fun cursor => expression dialect limit cursor
      let start := cursor.next.stop
      let (next, cursor) ← readTemplateRest cursor
      let ((texts, values), cursor) ← templateRest dialect limit checksEscapes next start cursor
      return ((piece.raw :: texts, value :: values), cursor)

/-- Reads values in round brackets behind the opening one, which stands at an offset.  The brackets
of a function and of a chain that may end early are kept. -/
def bracketed (dialect : Dialect) :
    (limit : Nat) → (start : Nat) → Cursor → Except Fault (Expr × Cursor)
  | 0, _, cursor => cursor.fail .unexpectedToken
  | limit + 1, start, cursor =>
    if cursor.atClose ")" then do
      let cursor ← cursor.expect ")"
      cursor.failAt .emptyBrackets start
    else do
      let (values, cursor) ← bracketedRest dialect limit cursor
      match values with
      | [value] => return (if value.keepsBrackets then .group value else value, cursor)
      | values => return (.sequence values, cursor)

/-- Reads the values in round brackets up to the closing one. -/
def bracketedRest (dialect : Dialect) :
    (limit : Nat) → Cursor → Except Fault (List Expr × Cursor)
  | 0, cursor => cursor.fail .unexpectedToken
  | limit + 1, cursor => do
    let (value, cursor) ← assignment dialect limit cursor
    let comma := cursor.next.start
    let (hasMore, behind) ← readSeparator ")" cursor
    if hasMore then
      let (others, cursor) ← bracketedRest dialect limit behind
      return (value :: others, cursor)
    else if cursor.atMark "," then behind.failAt (.expected ")" ",") comma
    else return ([value], ← behind.expect ")")

/-- Reads the fields, keys and calls that follow a value. -/
def chain (dialect : Dialect) :
    (limit : Nat) → (allowsCalls : Bool) → Expr → Cursor → Except Fault (Expr × Cursor)
  | 0, _, value, cursor => .ok (value, cursor)
  | limit + 1, allowsCalls, value, cursor =>
    let isOptional := cursor.atMark "?."
    let link := if isOptional then cursor.advance else cursor
    let link := if allowsCalls then skipCallTypes dialect limit link else link
    match link.next.token, isOptional with
    | .mark "[", _ => do
      let (key, cursor) ← link.advance.withinBrackets fun cursor => expression dialect limit cursor
      let cursor ← cursor.expect "]"
      chain dialect limit allowsCalls (.index value isOptional key) cursor
    | .mark "(", _ =>
      if allowsCalls then do
        let (arguments, cursor) ← items dialect limit ")" link.advance
        chain dialect limit allowsCalls (.call value isOptional false arguments) cursor
      else .ok (value, cursor)
    | .template piece, _ => do
      let ((texts, values), cursor) ←
        templateRest dialect limit false piece (link.next.start + 1) link.advance
      chain dialect limit allowsCalls (.template (some value) texts values) cursor
    | _, true => do
      let (name, cursor) ← readFieldName link
      chain dialect limit allowsCalls (.field value true name) cursor
    | .mark ".", false => do
      let (name, cursor) ← readFieldName link.advance
      chain dialect limit allowsCalls (.field value false name) cursor
    | .mark "!", false =>
      if dialect.hasTypes && !link.next.afterLine then
        chain dialect limit allowsCalls value link.advance
      else .ok (value, cursor)
    | _, false => .ok (value, cursor)

/-- Reads items up to a closing mark.  Of a call, the comments in front of them and behind the last
one are kept. -/
def items (dialect : Dialect) :
    (limit : Nat) → (closing : String) → Cursor → Except Fault (List Item × Cursor)
  | 0, _, cursor => cursor.fail .unexpectedToken
  | limit + 1, closing, cursor =>
    cursor.withinBrackets fun cursor =>
      if cursor.atClose closing then closeItems closing cursor
      else someItems dialect limit closing cursor

/-- Reads items, one at least, up to a closing mark.  Only an array has items that are left out. -/
def someItems (dialect : Dialect) :
    (limit : Nat) → (closing : String) → Cursor → Except Fault (List Item × Cursor)
  | 0, _, cursor => cursor.fail .unexpectedToken
  | limit + 1, closing, cursor => do
    let comments := if closing == ")" then cursor.next.comments else []
    let cursor := if closing == ")" then cursor.withoutComments else cursor
    let (item, cursor) ←
      if closing == "]" && cursor.atMark "," then pure (Item.hole, cursor)
      else if cursor.atMark "..." then do
        let (value, cursor) ← assignment dialect limit cursor.advance
        pure (Item.spread value, cursor)
      else do
        let (value, cursor) ← assignment dialect limit cursor
        pure (Item.value value, cursor)
    let item := if comments.isEmpty then item else .commented comments item
    let (hasMore, cursor) ← readSeparator closing cursor
    let (others, cursor) ←
      if hasMore then someItems dialect limit closing cursor
      else closeItems closing cursor
    return (item :: others, cursor)

/-- Reads the members of an object up to its end. -/
def members (dialect : Dialect) : (limit : Nat) → Cursor → Except Fault (List Member × Cursor)
  | 0, cursor => cursor.fail .unexpectedToken
  | limit + 1, cursor =>
    if cursor.atClose "\x7d" then do return ([], ← cursor.expect "\x7d")
    else someMembers dialect limit cursor

/-- Reads the members of an object, one at least, up to its end. -/
def someMembers (dialect : Dialect) :
    (limit : Nat) → Cursor → Except Fault (List Member × Cursor)
  | 0, cursor => cursor.fail .unexpectedToken
  | limit + 1, cursor => do
    let (member, cursor) ← member dialect limit cursor
    let (hasMore, cursor) ← readSeparator "\x7d" cursor
    if hasMore then
      let (others, cursor) ← someMembers dialect limit cursor
      return (member :: others, cursor)
    else return ([member], ← cursor.expect "\x7d")

/-- Reads a member: a method, a property, or a name that stands for both key and value. -/
def member (dialect : Dialect) : (limit : Nat) → Cursor → Except Fault (Member × Cursor)
  | 0, cursor => cursor.fail .unexpectedToken
  | limit + 1, cursor =>
    if cursor.atMark "..." then do
      let (value, cursor) ← assignment dialect limit cursor.advance
      return (.spread value, cursor)
    else if atMethodWord "get" cursor then
      method dialect limit .getter ⟨false, false⟩ cursor.advance
    else if atMethodWord "set" cursor then
      method dialect limit .setter ⟨false, false⟩ cursor.advance
    else
      let isAsync := atAsyncMethod cursor
      let (isGenerator, here) := readStar (if isAsync then cursor.advance else cursor)
      if isAsync || isGenerator then method dialect limit .plain ⟨isAsync, isGenerator⟩ here
      else do
        let (key, behind) ← key dialect limit cursor
        if behind.atMark "(" || behind.atMark "<" then
          method dialect limit .plain ⟨false, false⟩ cursor
        else
          match cursor.next.token, behind.atMark ":" with
          | .name text, false =>
            if isReserved text then
              behind.fail (.expected ":" behind.next.token.describe)
            else return (.shorthand text, (cursor.checkName text).advance)
          | _, _ => do
            let behind ← behind.expect ":"
            let (value, cursor) ← assignment dialect limit behind
            return (.property key value, cursor)

/-- Reads a method from its key on. -/
def method (dialect : Dialect) : (limit : Nat) → MethodKind → FunctionKind → Cursor →
    Except Fault (Member × Cursor)
  | 0, _, _, cursor => cursor.fail .unexpectedToken
  | limit + 1, kind, run, cursor => do
    let (key, cursor) ← key dialect limit cursor
    let ((parameters, body), cursor) ← functionParts dialect limit run cursor
    return (.method kind run key parameters body, cursor)

/-- Reads the key of a member. -/
def key (dialect : Dialect) : (limit : Nat) → Cursor → Except Fault (Key × Cursor)
  | 0, cursor => cursor.fail .unexpectedToken
  | limit + 1, cursor =>
    match cursor.next.token with
    | .name text | .escapedWord text => .ok (.name text, cursor.advance)
    | .string value _ => .ok (.string value, cursor.advance)
    | .number _ value => .ok (.number value, cursor.advance)
    | .mark "[" => do
      let (value, cursor) ← cursor.advance.withinBrackets fun cursor =>
        assignment dialect limit cursor
      return (.computed value, ← cursor.expect "]")
    | _ => cursor.fail .unexpectedToken

/-- Reads a function behind its word.  A declaration needs a name. -/
def functionRest (dialect : Dialect) : (limit : Nat) → (isAsync needsName : Bool) → Cursor →
    Except Fault ((FunctionKind × Option String × List Slot × Body) × Cursor)
  | 0, _, _, cursor => cursor.fail .unexpectedToken
  | limit + 1, isAsync, needsName, cursor => do
    let (isGenerator, cursor) := readStar cursor
    let kind : FunctionKind := ⟨isAsync, isGenerator⟩
    let (name, cursor) ← match cursor.next.token with
      | .name _ => do
        let (name, cursor) ← readName cursor
        pure (some name, cursor)
      | _ =>
        let start := cursor.next.start
        pure (none, if needsName then cursor.note .missingFunctionName start else cursor)
    let ((parameters, body), cursor) ← functionParts dialect limit kind cursor
    return ((kind, name, parameters, body), cursor)

/-- Reads the parameters and the body of a function. -/
def functionParts (dialect : Dialect) : (limit : Nat) → FunctionKind → Cursor →
    Except Fault ((List Slot × Body) × Cursor)
  | 0, _, cursor => cursor.fail .unexpectedToken
  | limit + 1, kind, cursor =>
    cursor.within ⟨kind.isAsync, kind.isGenerator, true⟩ fun cursor => do
      let start := cursor.next.start
      let cursor ← skipTypeParameters dialect limit cursor
      let cursor ← cursor.expect "("
      let (parameters, cursor) ← parameters dialect limit cursor
      let cursor ← skipAnnotation dialect limit cursor
      if cursor.atMark "\x7b" then
        let (body, cursor) ← functionBody dialect limit cursor.advance
        return ((parameters, body), cursor)
      else cursor.failAt .missingBody start

/-- Reads the parameters of a function up to their end. -/
def parameters (dialect : Dialect) :
    (limit : Nat) → Cursor → Except Fault (List Slot × Cursor)
  | 0, cursor => cursor.fail .unexpectedToken
  | limit + 1, cursor =>
    if cursor.atClose ")" then do return ([], ← cursor.expect ")")
    else someSlots dialect limit ")" cursor

/-- Reads parameters of a function or items that are bound, one at least, up to their end. -/
def someSlots (dialect : Dialect) : (limit : Nat) → (closing : String) → Cursor →
    Except Fault (List Slot × Cursor)
  | 0, _, cursor => cursor.fail .unexpectedToken
  | limit + 1, closing, cursor => do
    let (first, cursor) ←
      if closing == "]" && cursor.atMark "," then pure (Slot.hole, cursor)
      else slot dialect limit cursor
    let (hasMore, cursor) ← readSeparator closing cursor
    if hasMore then
      let (others, cursor) ← someSlots dialect limit closing cursor
      return (first :: others, cursor)
    else return ([first], ← cursor.expect closing)

/-- Reads a parameter of a function or an item that is bound. -/
def slot (dialect : Dialect) : (limit : Nat) → Cursor → Except Fault (Slot × Cursor)
  | 0, cursor => cursor.fail .unexpectedToken
  | limit + 1, cursor => do
    let takesRest := cursor.atMark "..."
    let cursor := if takesRest then cursor.advance else skipModifiers dialect limit cursor
    let (pattern, cursor) ← pattern dialect limit cursor
    let cursor ← skipAnnotation dialect limit (skipTypeMark dialect "?" cursor)
    if takesRest then return (.rest pattern, cursor)
    else
      let (value, cursor) ← initializer dialect limit cursor
      return (.one pattern value, cursor)

/-- Reads a value behind an equals sign, if there is one. -/
def initializer (dialect : Dialect) :
    (limit : Nat) → Cursor → Except Fault (Option Expr × Cursor)
  | 0, cursor => cursor.fail .unexpectedToken
  | limit + 1, cursor =>
    if cursor.atMark "=" then do
      let (value, cursor) ← assignment dialect limit cursor.advance
      return (some value, cursor)
    else .ok (none, cursor)

/-- Reads what is bound: a name, or names for parts of a value. -/
def pattern (dialect : Dialect) : (limit : Nat) → Cursor → Except Fault (Pattern × Cursor)
  | 0, cursor => cursor.fail .unexpectedToken
  | limit + 1, cursor =>
    cursor.withinBrackets fun cursor => do
      if cursor.atMark "[" then
        let cursor := cursor.advance
        if cursor.atClose "]" then return (.array [], ← cursor.expect "]")
        else
          let (items, cursor) ← someSlots dialect limit "]" cursor
          return (.array items, cursor)
      else if cursor.atMark "\x7b" then
        let cursor := cursor.advance
        if cursor.atClose "\x7d" then return (.object [], ← cursor.expect "\x7d")
        else
          let (fields, cursor) ← patternFields dialect limit cursor
          return (.object fields, cursor)
      else
        let (name, cursor) ← readName cursor
        return (.name name, cursor)

/-- Reads the parts of an object that are bound, one at least, up to their end. -/
def patternFields (dialect : Dialect) :
    (limit : Nat) → Cursor → Except Fault (List Slot × Cursor)
  | 0, cursor => cursor.fail .unexpectedToken
  | limit + 1, cursor => do
    let (field, cursor) ←
      if cursor.atMark "..." then do
        let (pattern, cursor) ← pattern dialect limit cursor.advance
        pure (Slot.rest pattern, cursor)
      else do
        let (key, behind) ← key dialect limit cursor
        if behind.atMark ":" then
          let (item, cursor) ← slot dialect limit behind.advance
          pure (Slot.keyed key item, cursor)
        else
          let (name, cursor) ← readName cursor
          let (value, cursor) ← initializer dialect limit cursor
          pure (Slot.keyed key (.one (.name name) value), cursor)
    let (hasMore, cursor) ← readSeparator "\x7d" cursor
    if hasMore then
      let (others, cursor) ← patternFields dialect limit cursor
      return (field :: others, cursor)
    else return ([field], ← cursor.expect "\x7d")

/-- Reads the body of a function behind its opening bracket; comments behind the last statement stay
there. -/
def functionBody (dialect : Dialect) : (limit : Nat) → Cursor → Except Fault (Body × Cursor)
  | 0, cursor => cursor.fail .unexpectedToken
  | limit + 1, cursor => do
    let (directives, cursor) ← directives dialect limit cursor
    let (statements, comments, cursor) ← block dialect limit cursor
    let remark := if comments.isEmpty then [] else [.remark comments]
    return (.mk directives (statements ++ remark), cursor)

/-- Reads the strings that stand in front of other statements, as they are written. -/
def directives (dialect : Dialect) :
    (limit : Nat) → Cursor → Except Fault (List Directive × Cursor)
  | 0, cursor => .ok ([], cursor)
  | limit + 1, cursor =>
    match cursor.next.token with
    | .string _ raw => do
      let (first, rest) ← statement dialect limit cursor
      match first with
      | .expression (.string _) =>
        let (others, rest) ← directives dialect limit rest
        return (⟨cursor.next.comments, raw⟩ :: others, rest)
      | _ => return ([], cursor)
    | _ => .ok ([], cursor)

/-- Reads the statements of a block up to its end, and the comments behind the last one.  Types
leave nothing. -/
def block (dialect : Dialect) :
    (limit : Nat) → Cursor → Except Fault (List Statement × List Comment × Cursor)
  | 0, cursor => cursor.fail .unexpectedToken
  | limit + 1, cursor =>
    if cursor.atClose "\x7d" then do
      return ([], cursor.next.comments, ← cursor.expect "\x7d")
    else do
      let (first, cursor) ← commented dialect limit cursor
      let (others, comments, cursor) ← block dialect limit cursor
      return (if first.isTypeOnly then others else first :: others, comments, cursor)

/-- Reads a block from its opening bracket on. -/
def bracedBlock (dialect : Dialect) :
    (limit : Nat) → Cursor → Except Fault (List Statement × Cursor)
  | 0, cursor => cursor.fail .unexpectedToken
  | limit + 1, cursor => do
    let cursor ← cursor.expect "\x7b"
    let (body, _, cursor) ← block dialect limit cursor
    return (body, cursor)

/-- Reads a class behind its word: its name, the class that it extends, and its members. -/
def classRest (dialect : Dialect) : (limit : Nat) → Cursor →
    Except Fault ((Option String × Option Expr × List Member) × Cursor)
  | 0, cursor => cursor.fail .unexpectedToken
  | limit + 1, cursor => do
    let (name, cursor) ← match cursor.next.token with
      | .name word =>
        if word == "extends" || (dialect.hasTypes && word == "implements") then
          pure (none, cursor)
        else do
          let (name, cursor) ← readName cursor
          pure (some name, cursor)
      | _ => pure (none, cursor)
    let cursor ← skipTypeParameters dialect limit cursor
    let (parent, cursor) ←
      if cursor.atWord "extends" then do
        let (parent, cursor) ← operand dialect limit true cursor.advance
        let cursor ← skipTypeParameters dialect limit cursor
        pure (some parent, cursor)
      else pure (none, cursor)
    let cursor ←
      if dialect.hasTypes && cursor.atWord "implements" then skipTypes limit cursor.advance
      else pure cursor
    let cursor ← cursor.expect "\x7b"
    let (members, cursor) ← classMembers dialect limit cursor
    return ((name, parent, members), cursor)

/-- Reads the members of a class up to its end. -/
def classMembers (dialect : Dialect) :
    (limit : Nat) → Cursor → Except Fault (List Member × Cursor)
  | 0, cursor => cursor.fail .unexpectedToken
  | limit + 1, cursor =>
    if cursor.atClose "\x7d" then do return ([], ← cursor.expect "\x7d")
    else if cursor.atMark ";" then classMembers dialect limit cursor.advance
    else do
      let comments := cursor.next.comments
      let (member, cursor) ← classMember dialect limit cursor
      let member := if comments.isEmpty then member else .commented comments member
      let (others, cursor) ← classMembers dialect limit cursor
      return (member :: others, cursor)

/-- Reads a member of a class. -/
def classMember (dialect : Dialect) :
    (limit : Nat) → Cursor → Except Fault (Member × Cursor)
  | 0, cursor => cursor.fail .unexpectedToken
  | limit + 1, cursor => do
    let cursor := skipModifiers dialect limit cursor
    let isStatic := cursor.atWord "static" &&
      (beginsKey cursor.advance.next.token || cursor.advance.atMark "*" ||
        cursor.advance.atMark "\x7b")
    let asMember (member : Member) : Member := if isStatic then .static member else member
    let cursor := if isStatic then cursor.advance else cursor
    if isStatic && cursor.atMark "\x7b" then
      let (body, cursor) ← cursor.within ⟨false, false, true⟩ fun cursor =>
        bracedBlock dialect limit cursor
      return (.static (.setup body), cursor)
    else
      let cursor := skipModifiers dialect limit cursor
      let kind :=
        if atMethodWord "get" cursor then MethodKind.getter
        else if atMethodWord "set" cursor then .setter
        else .plain
      let isAsync := atAsyncMethod cursor
      let cursor := if isAsync || kind != .plain then cursor.advance else cursor
      let (isGenerator, cursor) := readStar cursor
      let run : FunctionKind := ⟨isAsync, isGenerator⟩
      let (key, cursor) ← classKey dialect limit cursor
      let cursor := skipTypeMark dialect "!" (skipTypeMark dialect "?" cursor)
      if kind != .plain || isAsync || isGenerator || cursor.atMark "(" || cursor.atMark "<" then
        let ((parameters, body), cursor) ← functionParts dialect limit run cursor
        return (asMember (.method kind run key parameters body), cursor)
      else
        let cursor ← skipAnnotation dialect limit cursor
        let (value, cursor) ← cursor.within ⟨false, false, true⟩ fun cursor =>
          initializer dialect limit cursor
        return (asMember (.field key value), ← endStatement cursor)

/-- Reads the key of a member of a class, which may be private. -/
def classKey (dialect : Dialect) : (limit : Nat) → Cursor → Except Fault (Key × Cursor)
  | 0, cursor => cursor.fail .unexpectedToken
  | limit + 1, cursor =>
    if cursor.atMark "#" then do
      let (name, cursor) ← readFieldName cursor
      return (.name name, cursor)
    else key dialect limit cursor

/-- Reads the variables of a declaration; `needsValues` says that each must be given a value. -/
def declared (dialect : Dialect) : (limit : Nat) → (needsValues isExported : Bool) → Cursor →
    Except Fault (List Slot × Cursor)
  | 0, _, _, cursor => cursor.fail .unexpectedToken
  | limit + 1, needsValues, isExported, cursor => do
    let start := cursor.next.start
    let (pattern, cursor) ← pattern dialect limit cursor
    let cursor := match pattern with
      | .name name => if isExported then cursor.noteExport name start else cursor
      | _ => cursor
    let cursor ← skipAnnotation dialect limit (skipTypeMark dialect "!" cursor)
    let (value, cursor) ← initializer dialect limit cursor
    let cursor :=
      if needsValues && value.isNone then cursor.note .missingInitializer start else cursor
    if cursor.atMark "," then
      let (others, cursor) ← declared dialect limit needsValues isExported cursor.advance
      return (.one pattern value :: others, cursor)
    else return ([.one pattern value], cursor)

/-- Reads a declaration of variables, a function or a class, if one begins here. -/
def declaration? (dialect : Dialect) : (limit : Nat) → (isExported : Bool) → Cursor →
    Except Fault (Option (Statement × Cursor))
  | 0, _, cursor => cursor.fail .unexpectedToken
  | limit + 1, isExported, cursor =>
    let isAsync := atAsyncFunction cursor
    let here := if isAsync then cursor.advance else cursor
    let exporting := if isExported then Exporting.named else .no
    match binding? cursor.next.token with
    | some binding =>
      if isNameLet cursor then .ok none
      else do
        let (declared, cursor) ←
          declared dialect limit (binding = .const) isExported cursor.advance
        return some (.declaration binding declared isExported, ← endStatement cursor)
    | none =>
      if here.atWord "function" then do
        let start := here.advance.next.start
        let (parts, cursor) ← functionRest dialect limit isAsync true here.advance
        let (kind, name, parameters, body) := parts
        let cursor := match name with
          | some text => if isExported then cursor.noteExport text start else cursor
          | none => cursor
        return some (.function exporting kind name parameters body, cursor)
      else if cursor.atWord "class" then do
        let start := cursor.advance.next.start
        let ((name, parent, members), cursor) ← classRest dialect limit cursor.advance
        let cursor := match name with
          | some text => if isExported then cursor.noteExport text start else cursor
          | none => cursor.note .missingClassName start
        return some (.classDeclaration exporting name parent members, cursor)
      else typeDeclaration? dialect limit isExported cursor

/-- Reads a declaration of a type, if one begins here. -/
def typeDeclaration? (dialect : Dialect) : (limit : Nat) → (isExported : Bool) → Cursor →
    Except Fault (Option (Statement × Cursor))
  | 0, _, cursor => cursor.fail .unexpectedToken
  | limit + 1, isExported, cursor =>
    let isNamed := match cursor.advance.next.token with
      | .name word => !isReserved word && !cursor.advance.next.afterLine
      | _ => false
    if !(dialect.hasTypes && isNamed) then .ok none
    else if cursor.atWord "type" then do
      let cursor ← skipTypeParameters dialect limit cursor.advance.advance
      let cursor ← cursor.expect "="
      let cursor ← skipType limit cursor
      return some (.typeOnly isExported, ← endStatement cursor)
    else if cursor.atWord "interface" then do
      let cursor ← skipTypeParameters dialect limit cursor.advance.advance
      let cursor ←
        if cursor.atWord "extends" then skipTypes limit cursor.advance else pure cursor
      let cursor ← cursor.expect "\x7b"
      let cursor ← skipBracket limit ["\x7d"] cursor
      return some (.typeOnly isExported, cursor)
    else .ok none

/-- Reads an export behind its word. -/
def exported (dialect : Dialect) : (limit : Nat) → Cursor → Except Fault (Statement × Cursor)
  | 0, cursor => cursor.fail .unexpectedToken
  | limit + 1, cursor =>
    if cursor.atWord "default" then do
      let cursor := cursor.advance.noteDefault cursor.next.start
      let isAsync := atAsyncFunction cursor
      let here := if isAsync then cursor.advance else cursor
      if here.atWord "function" then
        let (parts, cursor) ← functionRest dialect limit isAsync false here.advance
        let (kind, name, parameters, body) := parts
        return (.function .default kind name parameters body, cursor)
      else if cursor.atWord "class" then
        let ((name, parent, members), cursor) ← classRest dialect limit cursor.advance
        return (.classDeclaration .default name parent members, cursor)
      else
        let (value, cursor) ← assignment dialect limit cursor
        return (.exportedDefault value, ← endStatement cursor)
    else if isTypeLinkage dialect cursor && cursor.advance.atMark "\x7b" then do
      let (_, cursor) ← readExportedNames dialect limit cursor.advance.advance
      return (.typeOnly true, cursor)
    else if cursor.atMark "\x7b" then readExportedNames dialect limit cursor.advance
    else if cursor.atMark "*" then readExportedAll cursor.advance
    else do
      match ← declaration? dialect limit true cursor with
      | some found => return found
      | none => cursor.fail .unexpectedToken

/-- Reads a statement and the comments in front of it. -/
def commented (dialect : Dialect) : (limit : Nat) → Cursor → Except Fault (Statement × Cursor)
  | 0, cursor => cursor.fail .unexpectedToken
  | limit + 1, cursor => do
    let comments := cursor.next.comments
    let (statement, cursor) ← statement dialect limit cursor
    return (if comments.isEmpty then statement else .commented comments statement, cursor)

/-- Reads a statement. -/
def statement (dialect : Dialect) : (limit : Nat) → Cursor → Except Fault (Statement × Cursor)
  | 0, cursor => cursor.fail .unexpectedToken
  | limit + 1, cursor => do
    let behind := cursor.advance
    match cursor.next.token with
    | .mark ";" => return (.empty, behind)
    | .mark "\x7b" =>
      let (body, cursor) ← bracedBlock dialect limit cursor
      return (.block body, cursor)
    | .name "return" =>
      if mayEnd behind then return (.returned none, ← endStatement behind)
      else
        let (value, cursor) ← expression dialect limit behind
        return (.returned (some value), ← endStatement cursor)
    | .name "import" =>
      if behind.atMark "(" || behind.atMark "." then plainStatement dialect limit cursor
      else readImport dialect limit behind
    | .name "export" => exported dialect limit behind
    | .name "if" =>
      let (test, cursor) ← bracketedTest dialect limit behind
      let (yes, cursor) ← commented dialect limit cursor
      if cursor.atWord "else" then
        let (no, cursor) ← commented dialect limit cursor.advance
        return (.choice test yes (some no), cursor)
      else return (.choice test yes none, cursor)
    | .name "while" =>
      let (test, cursor) ← bracketedTest dialect limit behind
      let (body, cursor) ← commented dialect limit cursor
      return (.whileLoop test body, cursor)
    | .name "do" =>
      let (body, cursor) ← commented dialect limit behind
      let cursor ← cursor.expectWord "while"
      let (test, cursor) ← bracketedTest dialect limit cursor
      return (.doLoop body test, if cursor.atMark ";" then cursor.advance else cursor)
    | .name "for" => loop dialect limit behind
    | .name "switch" =>
      let (value, cursor) ← bracketedTest dialect limit behind
      let cursor ← cursor.expect "\x7b"
      let (cases, cursor) ← cases dialect limit cursor
      return (.switch value cases, cursor)
    | .name "try" => attempt dialect limit behind
    | .name "throw" =>
      let (value, cursor) ← expression dialect limit behind
      return (.thrown value, ← endStatement cursor)
    | .name "break" => readJump .break behind
    | .name "continue" => readJump .continue behind
    | .name "debugger" => return (.debugger, ← endStatement behind)
    | .name word =>
      if behind.atMark ":" && !isReserved word then
        let (body, cursor) ← commented dialect limit behind.advance
        return (.labelled word body, cursor)
      else plainStatement dialect limit cursor
    | _ => plainStatement dialect limit cursor

/-- Reads a declaration or a value. -/
def plainStatement (dialect : Dialect) :
    (limit : Nat) → Cursor → Except Fault (Statement × Cursor)
  | 0, cursor => cursor.fail .unexpectedToken
  | limit + 1, cursor => do
    match ← declaration? dialect limit false cursor with
    | some found => return found
    | none =>
      let (value, cursor) ← expression dialect limit cursor
      return (.expression value, ← endStatement cursor)

/-- Reads a value in round brackets. -/
def bracketedTest (dialect : Dialect) : (limit : Nat) → Cursor → Except Fault (Expr × Cursor)
  | 0, cursor => cursor.fail .unexpectedToken
  | limit + 1, cursor => do
    let cursor ← cursor.expect "("
    let (value, cursor) ← expression dialect limit cursor
    return (value, ← cursor.expect ")")

/-- Reads a loop behind the word that begins it. -/
def loop (dialect : Dialect) : (limit : Nat) → Cursor → Except Fault (Statement × Cursor)
  | 0, cursor => cursor.fail .unexpectedToken
  | limit + 1, cursor => do
    let isAwaited := cursor.atWord "await"
    let cursor ← (if isAwaited then cursor.advance else cursor).expect "("
    let (start, cursor) ← cursor.within { cursor.around with allowsIn := false } fun cursor =>
      loopStart dialect limit cursor
    match start with
    | some bound =>
      if cursor.atWord "of" then
        let (values, cursor) ← assignment dialect limit cursor.advance
        let (body, cursor) ← loopBody dialect limit cursor
        return (.forEach (if isAwaited then .awaitedItems else .items) bound values body, cursor)
      else if cursor.atWord "in" then
        let (values, cursor) ← expression dialect limit cursor.advance
        let (body, cursor) ← loopBody dialect limit cursor
        return (.forEach .keys bound values body, cursor)
      else countingLoop dialect limit start cursor
    | none => countingLoop dialect limit start cursor

/-- Reads what stands at the start of a loop, if anything does. -/
def loopStart (dialect : Dialect) :
    (limit : Nat) → Cursor → Except Fault (Option Statement × Cursor)
  | 0, cursor => cursor.fail .unexpectedToken
  | limit + 1, cursor =>
    if cursor.atMark ";" then .ok (none, cursor)
    else
      match binding? cursor.next.token, isNameLet cursor with
      | some binding, false => do
        let (declared, cursor) ← declared dialect limit false false cursor.advance
        return (some (.declaration binding declared false), cursor)
      | _, _ => do
        let (value, cursor) ← expression dialect limit cursor
        return (some (.expression value), cursor)

/-- Reads a loop behind its start. -/
def countingLoop (dialect : Dialect) : (limit : Nat) → Option Statement → Cursor →
    Except Fault (Statement × Cursor)
  | 0, _, cursor => cursor.fail .unexpectedToken
  | limit + 1, start, cursor => do
    let cursor ← cursor.expect ";"
    let (test, cursor) ← optionalValue dialect limit ";" cursor
    let cursor ← cursor.expect ";"
    let (step, cursor) ← optionalValue dialect limit ")" cursor
    let (body, cursor) ← loopBody dialect limit cursor
    return (.forLoop start test step body, cursor)

/-- Reads a value, unless a mark stands here. -/
def optionalValue (dialect : Dialect) : (limit : Nat) → (mark : String) → Cursor →
    Except Fault (Option Expr × Cursor)
  | 0, _, cursor => cursor.fail .unexpectedToken
  | limit + 1, mark, cursor =>
    if cursor.atMark mark then .ok (none, cursor)
    else do
      let (value, cursor) ← expression dialect limit cursor
      return (some value, cursor)

/-- Reads the closing bracket of the head of a loop and its body. -/
def loopBody (dialect : Dialect) : (limit : Nat) → Cursor → Except Fault (Statement × Cursor)
  | 0, cursor => cursor.fail .unexpectedToken
  | limit + 1, cursor => do
    let cursor ← cursor.expect ")"
    commented dialect limit cursor

/-- Reads the cases of a choice between values up to its end. -/
def cases (dialect : Dialect) : (limit : Nat) → Cursor → Except Fault (List Statement × Cursor)
  | 0, cursor => cursor.fail .unexpectedToken
  | limit + 1, cursor =>
    if cursor.atClose "\x7d" then do return ([], ← cursor.expect "\x7d")
    else do
      let (test, cursor) ←
        if cursor.atWord "default" then pure (none, cursor.advance)
        else do
          let cursor ← cursor.expectWord "case"
          let (value, cursor) ← expression dialect limit cursor
          pure (some value, cursor)
      let cursor ← cursor.expect ":"
      let (body, cursor) ← caseBody dialect limit cursor
      let (others, cursor) ← cases dialect limit cursor
      return (.caseOf test body :: others, cursor)

/-- Reads the statements of a case. -/
def caseBody (dialect : Dialect) : (limit : Nat) → Cursor → Except Fault (List Statement × Cursor)
  | 0, cursor => cursor.fail .unexpectedToken
  | limit + 1, cursor =>
    if cursor.atClose "\x7d" || cursor.atWord "case" || cursor.atWord "default" then
      .ok ([], cursor)
    else do
      let (first, cursor) ← commented dialect limit cursor
      let (others, cursor) ← caseBody dialect limit cursor
      return (if first.isTypeOnly then others else first :: others, cursor)

/-- Reads statements that may throw something, and what is done then. -/
def attempt (dialect : Dialect) : (limit : Nat) → Cursor → Except Fault (Statement × Cursor)
  | 0, cursor => cursor.fail .unexpectedToken
  | limit + 1, cursor => do
    let (body, cursor) ← bracedBlock dialect limit cursor
    let stop := cursor.last
    let isHandled := cursor.atWord "catch"
    let cursor := if isHandled then cursor.advance else cursor
    let (bound, cursor) ←
      if isHandled && cursor.atMark "(" then do
        let (bound, cursor) ← pattern dialect limit cursor.advance
        let cursor ← skipAnnotation dialect limit cursor
        pure (some bound, ← cursor.expect ")")
      else pure (none, cursor)
    let (handler, cursor) ← blockIf dialect limit isHandled cursor
    let hasFinal := cursor.atWord "finally"
    let (final, cursor) ←
      blockIf dialect limit hasFinal (if hasFinal then cursor.advance else cursor)
    return (.attempt body bound handler final,
      if isHandled || hasFinal then cursor else cursor.note .missingHandler stop)

/-- Reads a block, if there is one. -/
def blockIf (dialect : Dialect) : (limit : Nat) → (isThere : Bool) → Cursor →
    Except Fault (Option Statement × Cursor)
  | 0, _, cursor => cursor.fail .unexpectedToken
  | limit + 1, isThere, cursor =>
    if isThere then do
      let (body, cursor) ← bracedBlock dialect limit cursor
      return (some (.block body), cursor)
    else .ok (none, cursor)

end

/-- Reads statements up to the end of the script; comments behind the last one stay there. -/
def statements (dialect : Dialect) (depth : Nat) :
    (limit : Nat) → Cursor → Except Fault (List Statement × Cursor)
  | 0, cursor => cursor.fail .unexpectedToken
  | limit + 1, cursor =>
    if cursor.atEnd then
      let comments := cursor.next.comments
      .ok (if comments.isEmpty then [] else [.remark comments], cursor)
    else do
      let (first, cursor) ← commented dialect depth cursor
      let (others, cursor) ← statements dialect depth limit cursor
      return (first :: others, cursor)

/-- Reads a script.  Every step takes a token or goes one function deeper, of which there are fewer
than thirty-two between two tokens. -/
def parse (dialect : Dialect) (text : String) : Except Fault Body := do
  let depth := 32 * (text.length + 2)
  let (directives, cursor) ← directives dialect depth (.ofText text)
  let (statements, cursor) ← statements dialect depth depth cursor
  let repeated := if dialect.hasTypes then none else cursor.exportFault?
  match cursor.noted.or repeated with
  | some fault => .error fault
  | none => return .mk directives statements

end ComponentFile.Script
