import ComponentFile.Script.Tree

/-!
# Names that are used

A script with types may import names only for its types.  Such an import is left out, and if then
neither an import nor an export is left, an empty export shows that the script still is a module.

* `Pattern.binds` — whether a pattern binds a name.
* `Statement.declares`, `Statement.hoists` — whether a statement binds a name in its block, and in
  the function around it.
* `Expr.mentions`, `Statement.mentions` — whether a name is used as a value.
* `Body.withoutTypes` — a script without what only its types need.
-/

namespace ComponentFile.Script

/-! ## Names that are bound -/

mutual

/-- Whether a pattern binds a name. -/
def Pattern.binds (name : String) : Pattern → Bool
  | .name text => text == name
  | .object slots | .array slots => anySlotBinds name slots

/-- Whether a slot binds a name. -/
def Slot.binds (name : String) : Slot → Bool
  | .one pattern _ | .rest pattern => pattern.binds name
  | .keyed _ slot => slot.binds name
  | .hole => false

/-- Whether any slot binds a name. -/
def anySlotBinds (name : String) : List Slot → Bool
  | [] => false
  | slot :: rest => slot.binds name || anySlotBinds name rest

end

/-- Whether a statement binds a name in its block. -/
def Statement.declares (name : String) : Statement → Bool
  | .declaration _ declared _ => anySlotBinds name declared
  | .function _ _ own _ _ | .classDeclaration _ own _ _ => own == some name
  | .commented _ statement => statement.declares name
  | _ => false

/-- Whether a statement is a declaration that binds a name in the function around it. -/
def Statement.isVariable (name : String) : Statement → Bool
  | .declaration binding declared _ => binding = .var && anySlotBinds name declared
  | _ => false

mutual

/-- Whether a statement binds a name in the function around it. -/
def Statement.hoists (name : String) : Statement → Bool
  | .declaration binding declared _ => binding = .var && anySlotBinds name declared
  | .block body => anyHoists name body
  | .choice _ yes none => yes.hoists name
  | .choice _ yes (some no) => yes.hoists name || no.hoists name
  | .labelled _ body | .whileLoop _ body | .doLoop body _ => body.hoists name
  | .forLoop start _ _ body => start.any (·.isVariable name) || body.hoists name
  | .forEach _ bound _ body => bound.isVariable name || body.hoists name
  | .switch _ cases => anyHoists name cases
  | .caseOf _ body => anyHoists name body
  | .attempt body _ handler final =>
    anyHoists name body || givenHoists name handler || givenHoists name final
  | .commented _ statement => statement.hoists name
  | _ => false

/-- Whether any statement binds a name in the function around it. -/
def anyHoists (name : String) : List Statement → Bool
  | [] => false
  | first :: rest => first.hoists name || anyHoists name rest

/-- Whether a statement that may be missing binds a name in the function around it. -/
def givenHoists (name : String) : Option Statement → Bool
  | some statement => statement.hoists name
  | none => false

end

/-- Whether a function binds a name. -/
def bindsName (name : String) (parameters : List Slot) (body : Body) : Bool :=
  anySlotBinds name parameters || body.statements.any (·.declares name) ||
    anyHoists name body.statements

/-! ## Names that are used -/

mutual

/-- Whether a value uses a name. -/
def Expr.mentions (name : String) : Expr → Bool
  | .name text => text == name
  | .word _ | .string _ | .number _ | .regex _ => false
  | .template tag _ values => givenMentions name tag || anyMentions name values
  | .array items => anyItemMentions name items
  | .object _ members => anyMemberMentions name members
  | .call callee _ _ arguments | .construct callee _ arguments =>
    callee.mentions name || anyItemMentions name arguments
  | .field inner _ _ => inner.mentions name
  | .index inner _ key => inner.mentions name || key.mentions name
  | .unary _ operand | .update _ _ operand => operand.mentions name
  | .binary _ left right => left.mentions name || right.mentions name
  | .conditional test yes no => test.mentions name || yes.mentions name || no.mentions name
  | .assign _ target value => target.mentions name || value.mentions name
  | .sequence values => anyMentions name values
  | .yield _ value => givenMentions name value
  | .function _ own parameters body =>
    own != some name && !bindsName name parameters body &&
      (anySlotMentions name parameters || body.mentions name)
  | .arrow _ parameters body =>
    !bindsName name parameters body &&
      (anySlotMentions name parameters || body.mentions name)
  | .arrowTo _ parameters value =>
    !anySlotBinds name parameters && (anySlotMentions name parameters ||
      value.mentions name)
  | .classValue own parent members =>
    own != some name && (givenMentions name parent || anyMemberMentions name members)
  | .group value => value.mentions name

/-- Whether a value that may be missing uses a name. -/
def givenMentions (name : String) : Option Expr → Bool
  | none => false
  | some value => value.mentions name

/-- Whether any value uses a name. -/
def anyMentions (name : String) : List Expr → Bool
  | [] => false
  | value :: rest => value.mentions name || anyMentions name rest

/-- Whether any item uses a name. -/
def anyItemMentions (name : String) : List Item → Bool
  | [] => false
  | item :: rest => item.mentions name || anyItemMentions name rest

/-- Whether an item uses a name. -/
def Item.mentions (name : String) : Item → Bool
  | .value value | .spread value => value.mentions name
  | .hole | .remark _ => false
  | .commented _ item => item.mentions name

/-- Whether any member uses a name. -/
def anyMemberMentions (name : String) : List Member → Bool
  | [] => false
  | member :: rest => member.mentions name || anyMemberMentions name rest

/-- Whether a member uses a name. -/
def Member.mentions (name : String) : Member → Bool
  | .property key value => key.mentions name || value.mentions name
  | .shorthand text => text == name
  | .method _ _ key parameters body =>
    key.mentions name || (!bindsName name parameters body &&
      (anySlotMentions name parameters || body.mentions name))
  | .spread value => value.mentions name
  | .field key value => key.mentions name || givenMentions name value
  | .setup body => !body.any (·.declares name) && anyStatementMentions name body
  | .static member | .commented _ member => member.mentions name

/-- Whether a key uses a name. -/
def Key.mentions (name : String) : Key → Bool
  | .computed value => value.mentions name
  | _ => false

/-- Whether the keys and values of a pattern use a name. -/
def Pattern.mentions (name : String) : Pattern → Bool
  | .name _ => false
  | .object slots | .array slots => anySlotMentions name slots

/-- Whether the keys and values of a slot use a name. -/
def Slot.mentions (name : String) : Slot → Bool
  | .one pattern value => pattern.mentions name || givenMentions name value
  | .rest pattern => pattern.mentions name
  | .keyed key slot => key.mentions name || slot.mentions name
  | .hole => false

/-- Whether the keys and values of slots use a name. -/
def anySlotMentions (name : String) : List Slot → Bool
  | [] => false
  | slot :: rest => slot.mentions name || anySlotMentions name rest

/-- Whether the inside of a function uses a name. -/
def Body.mentions (name : String) : Body → Bool
  | .mk _ statements => anyStatementMentions name statements

/-- Whether a statement uses a name. -/
def Statement.mentions (name : String) : Statement → Bool
  | .expression value | .exportedDefault value | .thrown value => value.mentions name
  | .returned value => givenMentions name value
  | .declaration _ declared _ => anySlotMentions name declared
  | .function _ _ _ parameters body =>
    !bindsName name parameters body &&
      (anySlotMentions name parameters || body.mentions name)
  | .classDeclaration _ own parent members =>
    own != some name && (givenMentions name parent || anyMemberMentions name members)
  | .block body => !body.any (·.declares name) && anyStatementMentions name body
  | .labelled _ body => body.mentions name
  | .choice test yes none => test.mentions name || yes.mentions name
  | .choice test yes (some no) => test.mentions name || yes.mentions name || no.mentions name
  | .whileLoop test body | .doLoop body test => test.mentions name || body.mentions name
  | .forLoop none test step body =>
    givenMentions name test || givenMentions name step || body.mentions name
  | .forLoop (some start) test step body =>
    !start.declares name && (start.mentions name || givenMentions name test ||
      givenMentions name step || body.mentions name)
  | .forEach _ bound values body =>
    !bound.declares name &&
      (bound.mentions name || values.mentions name || body.mentions name)
  | .switch value cases => value.mentions name || anyStatementMentions name cases
  | .caseOf test body => givenMentions name test || anyStatementMentions name body
  | .attempt body bound handler final =>
    (!body.any (·.declares name) && anyStatementMentions name body) ||
      (!bound.any (·.binds name) && (boundMentions name bound || blockMentions name handler)) ||
      blockMentions name final
  | .exportedNames names none => names.any fun (used, _) => used = .name name
  | .commented _ statement => statement.mentions name
  | _ => false

/-- Whether the keys and values of a pattern that may be missing use a name. -/
def boundMentions (name : String) : Option Pattern → Bool
  | none => false
  | some bound => bound.mentions name

/-- Whether a block that may be missing uses a name. -/
def blockMentions (name : String) : Option Statement → Bool
  | none => false
  | some block => block.mentions name

/-- Whether any statement uses a name. -/
def anyStatementMentions (name : String) : List Statement → Bool
  | [] => false
  | first :: rest => first.mentions name || anyStatementMentions name rest

end

/-! ## Scripts without types -/

/-- What becomes of a statement when types are left out. -/
def Statement.withoutTypes (isUsed : String → Bool) : Statement → Option Statement
  | .imported (some []) source => some (.imported none source)
  | .imported (some names) source =>
    match names.filter fun imported => isUsed imported.bound with
    | [] => none
    | kept => some (.imported (some kept) source)
  | .typeOnly _ => none
  | .commented comments statement =>
    (statement.withoutTypes isUsed).map (.commented comments)
  | statement => some statement

/-- Whether a statement makes a script a module. -/
def Statement.isLinkage : Statement → Bool
  | .imported _ _ | .exportedDefault _ | .exportedNames _ _ | .exportedAll _ _ => true
  | .declaration _ _ isExported => isExported
  | .function exporting _ _ _ _ | .classDeclaration exporting _ _ _ => exporting != .no
  | .typeOnly isModule => isModule
  | .commented _ statement => statement.isLinkage
  | _ => false

/-- Whether a statement is nothing but the comments behind the last one. -/
def Statement.isRemark : Statement → Bool
  | .remark _ => true
  | _ => false

/-- A script without what only its types need. -/
def Body.withoutTypes : Body → Body
  | .mk directives statements =>
    let isUsed (name : String) : Bool := anyStatementMentions name statements
    let kept := statements.filterMap (·.withoutTypes isUsed)
    let lost := statements.any fun statement =>
      statement.isLinkage && (statement.withoutTypes isUsed).isNone
    let mark := if lost && !kept.any (·.isLinkage) then [.exportedNames [] none] else []
    .mk directives (kept.filter (!·.isRemark) ++ mark ++ kept.filter (·.isRemark))

end ComponentFile.Script
