/-
File paths.

A path is kept as it was written and is only ever cut or lengthened as text; what it leads to is a
question to the disk. Empty components and dots do not count when a path is cut, apart from a dot
at its very beginning, which stands for the directory the path starts from.
-/
import RecordSchema.Text.Pieces

set_option autoImplicit false

namespace RecordSchema

/-- A path as written. -/
structure Path where
  text : String
  deriving Repr, DecidableEq

namespace Path

/-- Whether a path starts at the root and not at the working directory. -/
def isAbsolute (p : Path) : Bool := p.text.toList.head? == some '/'

/-- The path of `q` seen from `p`: an absolute `q` stays as it is, any other is put behind `p`. -/
def join (p q : Path) : Path :=
  if q.isAbsolute then q
  else if p.text.isEmpty || p.text.toList.getLast? == some '/' then ⟨p.text ++ q.text⟩
  else ⟨p.text ++ "/" ++ q.text⟩

/-! ## The last component -/

/-- The start of a path that no component is taken from: the root, or a dot for the directory the
path starts from. -/
def start (p : Path) : List Char :=
  match p.text.toList with
  | '/' :: _ => ['/']
  | ['.'] => ['.']
  | '.' :: '/' :: _ => ['.']
  | _ => []

/-- A piece that names nothing. -/
def isTrivialPiece (piece : List Char) : Bool := piece == [] || piece == ['.']

/-- The pieces behind the start, the last one first, without those at the end that name nothing. -/
def piecesFromEnd (p : Path) : List (List Char) :=
  (Text.pieces '/' (p.text.toList.drop p.start.length)).reverse.dropWhile isTrivialPiece

/-- The path without its last component. The root and the empty path have none to lose. -/
def parent? (p : Path) : Option Path :=
  match p.piecesFromEnd with
  | _ :: before =>
    some ⟨String.ofList
      (p.start ++ Text.joinPieces '/' (before.dropWhile isTrivialPiece).reverse)⟩
  | [] => if p.start = ['.'] then some ⟨""⟩ else none

/-- The directory of a path, empty where the path names nothing else. -/
def parent (p : Path) : Path := p.parent?.getD ⟨""⟩

/-- The name a path ends in. A step to the directory above is not a name. -/
def fileName? (p : Path) : Option String :=
  match p.piecesFromEnd with
  | piece :: _ => if piece = ['.', '.'] then none else some (String.ofList piece)
  | [] => none

/-- The name a path ends in up to its last dot. A dot that begins the name does not end it. -/
def fileStem? (p : Path) : Option String :=
  p.fileName?.map fun name =>
    match name.toList.reverse.dropWhile (· ≠ '.') with
    | _ :: before => if before = [] then name else String.ofList before.reverse
    | [] => name

/-- The directory a file is made in: the working directory has a name of its own, since the empty
path names nothing. -/
def directory (p : Path) : Path := if p.parent.text.isEmpty then ⟨"."⟩ else p.parent

end Path

end RecordSchema
