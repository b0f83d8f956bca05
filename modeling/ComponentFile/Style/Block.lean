import ComponentFile.Style.Property

/-!
# Blocks of declarations

A rule has a head and ends with a block or a semicolon.  Most blocks hold style rules.  Those that
do not hold declarations, between semicolons, and rules that begin with an at-sign.

* `Ending`, `splitRule` — what a head ends with, and what follows.
* `Entry`, `Pieces.entries` — what a block without style rules holds.
* `readDeclarations` — a block that holds declarations only.
-/

namespace ComponentFile.Style

open ComponentFile (Location)

/-! ## Ends of heads -/

/-- What a head ends with. -/
inductive Ending where
  | block (opener : Lexeme) (body : Pieces)
  | semicolon (place : Location)
  | finish

/-- Splits a rule into its head, what it ends with and what follows. -/
def splitRule (input : Pieces) (endsHead : Piece → Bool) : Pieces × Ending × Pieces :=
  let (head, rest) := input.breakAt endsHead
  match rest.pieces with
  | [] => (head, .finish, rest)
  | .block opener body stop _ :: further => (head, .block opener ⟨body, stop⟩, ⟨further, rest.stop⟩)
  | .token lexeme :: further => (head, .semicolon lexeme.stop, ⟨further, rest.stop⟩)

/-- Splits a rule that begins with an at-sign, behind its name. -/
def splitAtRule (input : Pieces) : Pieces × Ending × Pieces :=
  splitRule input fun piece => piece.isSemicolon || piece.isCurly

/-- A semicolon at a place. -/
def semicolonAt (place : Location) : Lexeme := ⟨.semicolon, [';'], place, place⟩

/-- Fails for a rule that needs a block and has none. -/
def failWithoutBlock {α : Type} (head : Pieces) (ending : Ending) : Except Fault α :=
  match ending with
  | .semicolon place => .error ⟨.unexpected (semicolonAt head.stop), place⟩
  | _ => .error ⟨.unexpected (semicolonAt head.stop), head.stop⟩

/-! ## Blocks without style rules -/

/-- What a block without style rules holds: a declaration with the name of its property, a rule
that begins with an at-sign, or something else. -/
inductive Entry where
  | declaration (property : String) (behind : Pieces)
  | atRule (keyword : String) (head : Pieces) (ending : Ending)
  | other (piece : Piece)

/-- Divides a block without style rules. -/
def entries : (limit : Nat) → Pieces → List Entry
  | 0, _ => []
  | limit + 1, input =>
    match input.pieces.dropWhile fun piece => piece.isGap || piece.isSemicolon with
    | [] => []
    | piece :: rest =>
      let behind : Pieces := ⟨rest, input.stop⟩
      let (here, next) := behind.breakAt Piece.isSemicolon
      match piece.first.token with
      | .ident name => .declaration name here :: entries limit next
      | .atKeyword keyword =>
        let (head, ending, next) := splitAtRule behind
        .atRule keyword head ending :: entries limit next
      | _ => .other piece :: entries limit next

/-- The entries of a block without style rules. -/
def Pieces.entries (input : Pieces) : List Entry := Style.entries (input.pieces.length + 1) input

/-- Reads an entry that has to be a declaration. -/
def Entry.declaration? : Entry → Except Fault (Declaration × Bool)
  | .declaration property behind => Declaration.read property behind
  | .atRule keyword head _ => failAt head (.unknownRule keyword)
  | .other piece => .error ⟨.unexpected piece.first, piece.start⟩

/-- The name and the value of an entry that has to be a declaration. -/
def Entry.field : Entry → Except Fault (String × Pieces)
  | .declaration name behind =>
    match behind.next? with
    | none => failAtEnd behind
    | some (colon, rest) =>
      if colon.isColon then .ok (name, rest) else failAt behind (.unexpected colon.first)
  | .atRule keyword head _ => failAt head (.unknownRule keyword)
  | .other piece => .error ⟨.unexpected piece.first, piece.start⟩

/-- Reads a block that holds declarations only. -/
def readDeclarations (body : Pieces) : Except Fault Declarations :=
  body.entries.foldlM (fun declarations entry => do
    let (declaration, isImportant) ← entry.declaration?
    return declarations.add declaration isImportant) { }

end ComponentFile.Style
