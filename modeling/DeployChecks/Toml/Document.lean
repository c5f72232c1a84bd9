import DeployChecks.Toml.Statement

/-!
# Toml/Document — a document as one table

Statements are carried out in order: a header says in which table the names that follow are
given.  Main definitions: `Document.run?`, `Toml.parse?`.
-/

namespace DeployChecks

namespace Toml

/-- **A document in the making.** -/
structure Document where
  /-- The outermost table. -/
  root : Members
  /-- The path of the table in which names are given. -/
  current : List String

namespace Document

/-- The document without statements. -/
def empty : Document := ⟨[], []⟩

/-- **One statement.** -/
def step? (d : Document) : Statement → Option Document
  | .header path => (within (openTable path.name) path.tables d.root).map fun root =>
    ⟨root, path.tables ++ [path.name]⟩
  | .series path => (within (openSeries path.name) path.tables d.root).map fun root =>
    ⟨root, path.tables ++ [path.name]⟩
  | .assign path v => (within (assign path.name v path.tables) d.current d.root).map fun root =>
    { d with root }

/-- **Statements in order.** -/
def run? (d : Document) : List Statement → Option Document
  | [] => some d
  | s :: rest => (d.step? s).bind fun d => d.run? rest

end Document

/-- Write the ends of lines in one way. -/
def joinLineEnds : List Char → List Char
  | [] => []
  | '\r' :: '\n' :: rest => '\n' :: joinLineEnds rest
  | c :: rest => c :: joinLineEnds rest

/-- Drop the mark of the byte order in front. -/
def dropByteOrderMark : List Char → List Char
  | [] => []
  | c :: rest => if c = Char.ofNat 0xFEFF then rest else c :: rest

/-- **The table that a text describes**; none if the text as a whole stands for a moment. -/
def parse? (s : String) : Option (List (String × Value)) :=
  let cs := joinLineEnds (dropByteOrderMark s.toList)
  let whole := (readStatements? (cs.length + 1) cs).bind fun statements =>
    (Document.empty.run? statements).bind fun d => (Node.table .headed d.root).value.settle?
  match whole with
  | some (.table members) => some members
  | _ => none

end Toml

end DeployChecks
