import ComponentFile.Script.Token

/-!
# Scripts as trees

Statements and the values in them.  Types leave no trace in the tree, and brackets around values
none unless they change how a value is printed.  Comments are kept where they are printed: in front
of statements, of members of classes, of arguments and of objects, and at the ends of functions and
of arguments.

* `Dialect` — which further notations a script may use.
* `Operator` — operators between two values, with how strongly they bind.
* `Expr`, `Item`, `Member` — values, the items of lists and the members of objects.
* `Pattern`, `Slot` — what is bound.
* `Body`, `Statement` — the insides of functions, and statements.
-/

namespace ComponentFile.Script

/-- Which notations a script may use besides the plain ones: elements, types or both. -/
inductive Dialect where
  | plain
  | elements
  | types
  | typesAndElements
deriving DecidableEq, Repr

namespace Dialect

/-- The dialect that a script says it is written in; an unknown one is plain. -/
def ofLang (lang : Option String) : Dialect :=
  match lang.map String.toLower with
  | some "ts" | some "typescript" => .types
  | some "tsx" => .typesAndElements
  | some "jsx" => .elements
  | _ => .plain

/-- Whether types may be written. -/
def hasTypes : Dialect → Bool
  | types | typesAndElements => true
  | plain | elements => false

end Dialect

/-! ## Strength of operators -/

/-- How strongly parts of a value are bound together; brackets are needed where a value stands in a
place that binds at least as strongly. -/
inductive Strength where
  | lowest
  | comma
  | assign
  | conditional
  | coalesce
  | or
  | and
  | bitOr
  | bitXor
  | bitAnd
  | equality
  | comparison
  | shift
  | sum
  | product
  | power
  | unary
  | postfixed
  | construction
deriving DecidableEq, Repr

namespace Strength

/-- The place in the order of strengths. -/
def rank : Strength → Nat
  | lowest => 0 | comma => 1 | assign => 2 | conditional => 3 | coalesce => 4 | or => 5 | and => 6
  | bitOr => 7 | bitXor => 8 | bitAnd => 9 | equality => 10 | comparison => 11 | shift => 12
  | sum => 13 | product => 14 | power => 15 | unary => 16 | postfixed => 17 | construction => 18

end Strength

/-- How strongly a binary operator binds. -/
def operatorStrength? : String → Option Strength
  | "??" => some .coalesce
  | "||" => some .or
  | "&&" => some .and
  | "|" => some .bitOr
  | "^" => some .bitXor
  | "&" => some .bitAnd
  | "==" | "!=" | "===" | "!==" => some .equality
  | "<" | ">" | "<=" | ">=" | "in" | "instanceof" => some .comparison
  | "<<" | ">>" | ">>>" => some .shift
  | "+" | "-" => some .sum
  | "*" | "/" | "%" => some .product
  | "**" => some .power
  | _ => none

/-- Operators in front of a value. -/
def unaryOperators : List String := ["+", "-", "!", "~", "typeof", "void", "delete"]

/-- Operators that give a variable a value. -/
def assignOperators : List String :=
  ["=", "+=", "-=", "*=", "/=", "%=", "**=", "<<=", ">>=", ">>>=", "&=", "|=", "^=", "&&=", "||=",
   "??="]

/-! ## Trees -/

/-- How a variable is declared. -/
inductive Binding where
  | const
  | let
  | var
deriving DecidableEq, Repr

/-- The word of a kind of declaration. -/
def Binding.word : Binding → String
  | .const => "const"
  | .let => "let"
  | .var => "var"

/-- The name of something that a module exports: a name or a string. -/
inductive ExportName where
  | name (text : String)
  | string (value : List Letter)
deriving DecidableEq, Repr

/-- What an import binds: the default export, all exports, or one export, under a name. -/
inductive Imported where
  | default (bound : String)
  | all (bound : String)
  | named (name : ExportName) (bound : String)
deriving DecidableEq, Repr

/-- The name that an import binds. -/
def Imported.bound : Imported → String
  | .default bound | .all bound | .named _ bound => bound

/-- How a function is run: at once, in steps, or both. -/
structure FunctionKind where
  isAsync : Bool
  isGenerator : Bool
deriving DecidableEq, Repr

/-- Whether a declaration is exported, under its own name or as the default. -/
inductive Exporting where
  | no
  | named
  | default
deriving DecidableEq, Repr

/-- A string in front of statements that directs how they are read: the comments in front of it and
what stands between its quotes. -/
structure Directive where
  comments : List Comment
  raw : String
deriving DecidableEq, Repr

/-- How a method is used: called, or read or written like a property. -/
inductive MethodKind where
  | plain
  | getter
  | setter
deriving DecidableEq, Repr

/-- Where the values come from that a loop goes through. -/
inductive LoopSource where
  /-- The keys of an object. -/
  | keys
  /-- The items of a list. -/
  | items
  /-- Items that are waited for one by one. -/
  | awaitedItems
deriving DecidableEq, Repr

/-- How a loop or a block is left or begun anew. -/
inductive Jump where
  | break
  | continue
deriving DecidableEq, Repr

mutual

/-- A value. -/
inductive Expr where
  | name (text : String)
  /-- A word that is a value by itself. -/
  | word (text : String)
  | string (value : List Letter)
  | number (value : Numeral)
  | regex (value : Regex)
  /-- Texts with values between them, which a function may be put in front of. -/
  | template (tag : Option Expr) (texts : List String) (values : List Expr)
  | array (items : List Item)
  | object (comments : List Comment) (members : List Member)
  | call (callee : Expr) (isOptional isPure : Bool) (arguments : List Item)
  | construct (callee : Expr) (isPure : Bool) (arguments : List Item)
  | field (object : Expr) (isOptional : Bool) (name : String)
  | index (object : Expr) (isOptional : Bool) (key : Expr)
  | unary (operator : String) (operand : Expr)
  /-- Counts a variable up or down, before or after its value is taken. -/
  | update (operator : String) (isBefore : Bool) (operand : Expr)
  | binary (operator : String) (left right : Expr)
  | conditional (test yes no : Expr)
  | assign (operator : String) (target value : Expr)
  | sequence (values : List Expr)
  /-- Hands out a value, or all that another function hands out. -/
  | yield (isDelegated : Bool) (value : Option Expr)
  | function (kind : FunctionKind) (name : Option String) (parameters : List Slot)
      (body : Body)
  | arrow (isAsync : Bool) (parameters : List Slot) (body : Body)
  /-- A function in a short notation whose body is one value. -/
  | arrowTo (isAsync : Bool) (parameters : List Slot) (value : Expr)
  /-- A class, with its name and the class that it extends. -/
  | classValue (name : Option String) (parent : Option Expr) (members : List Member)
  /-- Brackets that stay. -/
  | group (value : Expr)

/-- An item of a list: a value, the items of a value, or nothing. -/
inductive Item where
  | value (value : Expr)
  | spread (value : Expr)
  | hole
  /-- An item with the comments in front of it. -/
  | commented (comments : List Comment) (item : Item)
  /-- Comments behind the last item. -/
  | remark (comments : List Comment)

/-- A member of an object or of a class. -/
inductive Member where
  | property (key : Key) (value : Expr)
  /-- A name that stands for both key and value. -/
  | shorthand (name : String)
  | method (kind : MethodKind) (run : FunctionKind) (key : Key) (parameters : List Slot)
      (body : Body)
  | spread (value : Expr)
  /-- A field of what a class makes, with its value. -/
  | field (key : Key) (value : Option Expr)
  /-- Statements that set up a class. -/
  | setup (body : List Statement)
  /-- A member of a class itself. -/
  | static (member : Member)
  /-- A member of a class with the comments in front of it. -/
  | commented (comments : List Comment) (member : Member)

/-- The key of a member. -/
inductive Key where
  | name (text : String)
  | string (value : List Letter)
  | number (value : Numeral)
  | computed (value : Expr)

/-- What is bound: a name, or names for parts of a value. -/
inductive Pattern where
  | name (text : String)
  | object (fields : List Slot)
  | array (items : List Slot)

/-- What takes a value: a variable that is declared, a parameter of a function, or a part of a
pattern. -/
inductive Slot where
  /-- Takes a value; another one may be given for when there is none. -/
  | one (pattern : Pattern) (value : Option Expr)
  /-- Takes what the slots before it leave. -/
  | rest (pattern : Pattern)
  /-- Takes what an object has under a key. -/
  | keyed (key : Key) (slot : Slot)
  /-- Takes nothing, in the place of an item of a list. -/
  | hole

/-- The inside of a function: strings in front that direct how it is read, and statements. -/
inductive Body where
  | mk (directives : List Directive) (statements : List Statement)

/-- A statement. -/
inductive Statement where
  | empty
  | block (body : List Statement)
  | expression (value : Expr)
  | returned (value : Option Expr)
  | thrown (value : Expr)
  | jump (jump : Jump) (label : Option String)
  | labelled (label : String) (body : Statement)
  | debugger
  | choice (test : Expr) (yes : Statement) (no : Option Statement)
  | whileLoop (test : Expr) (body : Statement)
  | doLoop (body : Statement) (test : Expr)
  /-- A loop with what is done at its start, its test, and what is done after each round. -/
  | forLoop (start : Option Statement) (test step : Option Expr) (body : Statement)
  /-- A loop through values, each of which is bound or given to a variable. -/
  | forEach (source : LoopSource) (bound : Statement) (values : Expr) (body : Statement)
  /-- A choice between the cases of a value. -/
  | switch (value : Expr) (cases : List Statement)
  /-- A case of a choice between values, or the case for all other values. -/
  | caseOf (test : Option Expr) (body : List Statement)
  /-- Statements that may throw something, what it is bound to, what is done then, and what is done
  in any case. -/
  | attempt (body : List Statement) (bound : Option Pattern) (handler final : Option Statement)
  | declaration (binding : Binding) (declared : List Slot) (isExported : Bool)
  | function (exporting : Exporting) (kind : FunctionKind) (name : Option String)
      (parameters : List Slot) (body : Body)
  | classDeclaration (exporting : Exporting) (name : Option String) (parent : Option Expr)
      (members : List Member)
  /-- An import; `none` binds nothing at all, an empty list binds no names. -/
  | imported (names : Option (List Imported)) (source : List Letter)
  | exportedDefault (value : Expr)
  /-- Exports of names under names, of this script or of another module. -/
  | exportedNames (names : List (ExportName × ExportName)) (source : Option (List Letter))
  | exportedAll (name : Option ExportName) (source : List Letter)
  /-- A declaration of a type, which leaves nothing; it may be exported. -/
  | typeOnly (isModule : Bool)
  /-- A statement with the comments in front of it. -/
  | commented (comments : List Comment) (statement : Statement)
  /-- Comments behind the last statement. -/
  | remark (comments : List Comment)

end

/-- Whether a statement is a declaration of a type. -/
def Statement.isTypeOnly : Statement → Bool
  | .typeOnly _ => true
  | .commented _ statement => statement.isTypeOnly
  | _ => false

/-- The strings in front of the statements of a function. -/
def Body.directives : Body → List Directive
  | .mk directives _ => directives

/-- The statements of a function. -/
def Body.statements : Body → List Statement
  | .mk _ statements => statements

end ComponentFile.Script
