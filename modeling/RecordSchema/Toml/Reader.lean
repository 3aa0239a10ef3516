/-
Reading TOML.

A text is read line by line: a header opens a table, a key with a value goes into the table that was
opened last. Values may go over several lines inside brackets, braces and tripled quotes.

A carriage return may stand nowhere but before a line feed. That is checked once for the whole text,
so no rule below has to.
-/
import RecordSchema.Json.Reader
import RecordSchema.Toml.Value

set_option autoImplicit false

namespace RecordSchema.Toml

/-! ## Characters -/

/-- The blanks inside a line. -/
def isBlank (c : Char) : Bool := c == ' ' || c == '\t'

/-- The blanks and line ends between the items of a value. -/
def isGap (c : Char) : Bool := isBlank c || c == '\n' || c == '\r'

/-- A character that may stand in a comment, and for itself between quotes. -/
def isPlain (c : Char) : Bool := c == '\t' || (0x20 ≤ c.toNat && c.toNat ≠ 0x7F)

/-- A character of a key that is written without quotes. -/
def isKeyChar (c : Char) : Bool := c.isAlphanum || c == '_' || c == '-'

/-- Whether a carriage return stands anywhere but before a line feed. -/
def hasLoneReturn : List Char → Bool
  | [] => false
  | '\r' :: rest =>
    match rest with
    | '\n' :: _ => hasLoneReturn rest
    | _ => true
  | _ :: rest => hasLoneReturn rest

/-! ## Blanks and comments -/

/-- A text without the blanks at its start. -/
def skipBlanks (cs : List Char) : List Char := cs.dropWhile isBlank

/-- A text without the blanks, line ends and comments at its start. -/
def skipGap (inComment : Bool) : List Char → List Char
  | [] => []
  | c :: rest =>
    if c = '\n' ∨ c = '\r' then skipGap false rest
    else if inComment then
      if isPlain c then skipGap true rest else c :: rest
    else if isBlank c then skipGap false rest
    else if c = '#' then skipGap true rest
    else c :: rest

/-- A text without the comment at its start, if there is one. -/
def skipComment : List Char → List Char
  | '#' :: rest => rest.dropWhile isPlain
  | cs => cs

/-- The next line, if nothing but blanks and a comment is left of this one. -/
def nextLine? (cs : List Char) : Option (List Char) :=
  match skipComment (skipBlanks cs) with
  | [] => some []
  | '\n' :: rest => some rest
  | '\r' :: '\n' :: rest => some rest
  | _ => none

/-! ## Quoted texts -/

/-- The character of a code point in hexadecimal. -/
def ofHex? (digits : List Char) : Option Char := do
  let values ← digits.mapM Json.hexValue?
  let n := values.foldl (fun n digit => 16 * n + digit) 0
  if n.isValidChar then some (Char.ofNat n) else none

/-- The character of an escape of one letter. -/
def unescape? : Char → Option Char
  | 'b' => some '\x08'
  | 't' => some '\t'
  | 'n' => some '\n'
  | 'f' => some '\x0c'
  | 'r' => some '\r'
  | 'e' => some '\x1b'
  | '"' => some '"'
  | '\\' => some '\\'
  | _ => none

/-- A character in front of what was read after it. -/
def before (c : Option Char) (r : Option (List Char × List Char)) :
    Option (List Char × List Char) := do
  let c ← c
  let (cs, rest) ← r
  return (c :: cs, rest)

/-- Reads to the double quote that closes a text of one line. -/
def readQuoted : List Char → Option (List Char × List Char)
  | [] => none
  | '"' :: rest => some ([], rest)
  | '\\' :: 'x' :: a :: b :: rest => before (ofHex? [a, b]) (readQuoted rest)
  | '\\' :: 'u' :: a :: b :: c :: d :: rest => before (ofHex? [a, b, c, d]) (readQuoted rest)
  | '\\' :: 'U' :: a :: b :: c :: d :: e :: f :: g :: h :: rest =>
    before (ofHex? [a, b, c, d, e, f, g, h]) (readQuoted rest)
  | '\\' :: c :: rest => before (unescape? c) (readQuoted rest)
  | c :: rest => if isPlain c ∧ c ≠ '\\' then before (some c) (readQuoted rest) else none

/-- Whether only blanks are left of a line. -/
def endsLine (cs : List Char) : Bool :=
  match skipBlanks cs with
  | c :: _ => c == '\n' || c == '\r'
  | [] => false

/-- Reads to the tripled double quote that closes a text of several lines. Up to two quotes may
stand right before it. A backslash at the end of a line leaves out everything up to the next
character that shows, which is what `skipping` is for. -/
def readQuotedLines (skipping : Bool) : List Char → Option (List Char × List Char)
  | [] => none
  | '"' :: '"' :: '"' :: '"' :: '"' :: rest => some (['"', '"'], rest)
  | '"' :: '"' :: '"' :: '"' :: rest => some (['"'], rest)
  | '"' :: '"' :: '"' :: rest => some ([], rest)
  | '\\' :: 'x' :: a :: b :: rest => before (ofHex? [a, b]) (readQuotedLines false rest)
  | '\\' :: 'u' :: a :: b :: c :: d :: rest =>
    before (ofHex? [a, b, c, d]) (readQuotedLines false rest)
  | '\\' :: 'U' :: a :: b :: c :: d :: e :: f :: g :: h :: rest =>
    before (ofHex? [a, b, c, d, e, f, g, h]) (readQuotedLines false rest)
  | '\\' :: c :: rest =>
    if isGap c then
      if endsLine (c :: rest) then readQuotedLines true rest else none
    else before (unescape? c) (readQuotedLines false rest)
  | c :: rest =>
    if skipping ∧ isGap c then readQuotedLines true rest
    else if (isPlain c ∨ isGap c) ∧ c ≠ '\\' then before (some c) (readQuotedLines false rest)
    else none

/-- Reads to the single quote that closes a verbatim text of one line. -/
def readVerbatim : List Char → Option (List Char × List Char)
  | [] => none
  | '\x27' :: rest => some ([], rest)
  | c :: rest => if isPlain c then before (some c) (readVerbatim rest) else none

/-- Reads to the tripled single quote that closes a verbatim text of several lines. Up to two quotes
may stand right before it. -/
def readVerbatimLines : List Char → Option (List Char × List Char)
  | [] => none
  | '\x27' :: '\x27' :: '\x27' :: '\x27' :: '\x27' :: rest => some (['\x27', '\x27'], rest)
  | '\x27' :: '\x27' :: '\x27' :: '\x27' :: rest => some (['\x27'], rest)
  | '\x27' :: '\x27' :: '\x27' :: rest => some ([], rest)
  | c :: rest => if isPlain c ∨ isGap c then before (some c) (readVerbatimLines rest) else none

/-- A text without the line end right at its start, which a text of several lines does not count. -/
def skipFirstLineEnd : List Char → List Char
  | '\n' :: rest => rest
  | '\r' :: '\n' :: rest => rest
  | cs => cs

/-- Reads a quoted text of any kind. -/
def readText? : List Char → Option (List Char × List Char)
  | '"' :: '"' :: '"' :: rest => readQuotedLines false (skipFirstLineEnd rest)
  | '"' :: rest => readQuoted rest
  | '\x27' :: '\x27' :: '\x27' :: rest => readVerbatimLines (skipFirstLineEnd rest)
  | '\x27' :: rest => readVerbatim rest
  | _ => none

/-! ## Keys -/

/-- Reads one step of a key. -/
def readKeyStep : List Char → Option (String × List Char)
  | '"' :: rest => (readQuoted rest).map fun r => (String.ofList r.1, r.2)
  | '\x27' :: rest => (readVerbatim rest).map fun r => (String.ofList r.1, r.2)
  | cs =>
    match cs.takeWhile isKeyChar with
    | [] => none
    | key => some (String.ofList key, cs.dropWhile isKeyChar)

/-- Reads a key, whose steps have dots between them, and the blanks after it. -/
def readKey (fuel : Nat) (cs : List Char) : Option (List String × List Char) :=
  match fuel with
  | 0 => none
  | fuel + 1 => do
    let (step, rest) ← readKeyStep cs
    match skipBlanks rest with
    | '.' :: rest =>
      let (steps, rest) ← readKey fuel (skipBlanks rest)
      return (step :: steps, rest)
    | rest => return ([step], rest)

/-! ## Values -/

mutual

/-- Reads a value. -/
def readValue (fuel : Nat) (cs : List Char) : Option (Toml × List Char) :=
  match fuel with
  | 0 => none
  | fuel + 1 =>
    match cs with
    | '[' :: rest => do
      let (items, rest) ← readItems fuel rest
      return (.list items, rest)
    | '\x7b' :: rest => do
      let (fields, rest) ← readFields fuel [] rest
      return (.table .closed fields, rest)
    | cs => do
      let (content, rest) ← readText? cs
      return (.text (String.ofList content), rest)

/-- Reads the items of a list and the closing bracket. The last item may have a comma too. -/
def readItems (fuel : Nat) (cs : List Char) : Option (List Toml × List Char) :=
  match fuel with
  | 0 => none
  | fuel + 1 =>
    match skipGap false cs with
    | ']' :: rest => some ([], rest)
    | cs => do
      let (item, rest) ← readValue fuel cs
      match skipGap false rest with
      | ',' :: rest =>
        let (items, rest) ← readItems fuel rest
        return (item :: items, rest)
      | ']' :: rest => return ([item], rest)
      | _ => none

/-- Reads the fields of a table between braces and the closing brace, after the ones before them.
The last field may have a comma too. -/
def readFields (fuel : Nat) (fields : Fields) (cs : List Char) : Option (Fields × List Char) :=
  match fuel with
  | 0 => none
  | fuel + 1 =>
    match skipGap false cs with
    | '\x7d' :: rest => some (fields, rest)
    | cs => do
      let (key, rest) ← readKey fuel cs
      match rest with
      | '=' :: rest =>
        let (value, rest) ← readValue fuel (skipBlanks rest)
        let fields ← fields.put value key
        match skipGap false rest with
        | ',' :: rest => readFields fuel fields rest
        | '\x7d' :: rest => return (fields, rest)
        | _ => none
      | _ => none

end

/-! ## Lines -/

/-- Reads the line of a header, after its bracket. -/
def readHeader (fuel : Nat) (cs : List Char) : Option (List String × List Char) := do
  let (header, rest) ← readKey fuel (skipBlanks cs)
  match rest with
  | ']' :: rest => return (header, ← nextLine? rest)
  | _ => none

/-- Reads a line, or the lines, of a key with its value. -/
def readAssignment (fuel : Nat) (cs : List Char) : Option (List String × Toml × List Char) := do
  let (key, rest) ← readKey fuel cs
  match rest with
  | '=' :: rest =>
    let (value, rest) ← readValue fuel (skipBlanks rest)
    return (key, value, ← nextLine? rest)
  | _ => none

/-- Reads lines after the ones that gave `fields`, the last header of which was `header`. -/
def readLines (fuel : Nat) (header : List String) (fields : Fields) (cs : List Char) :
    Option Fields :=
  match fuel with
  | 0 => none
  | fuel + 1 =>
    match skipBlanks cs with
    | [] => some fields
    | '[' :: rest => do
      let (header, rest) ← readHeader fuel rest
      let fields ← fields.addHeader header
      readLines fuel header fields rest
    | c :: rest =>
      if c = '#' ∨ c = '\n' ∨ c = '\r' then do
        let rest ← nextLine? (c :: rest)
        readLines fuel header fields rest
      else do
        let (key, value, rest) ← readAssignment fuel (c :: rest)
        let fields ← fields.within (Fields.put value key) header
        readLines fuel header fields rest

/-- A text without the mark of its byte order. -/
def skipMark : List Char → List Char
  | '\ufeff' :: rest => rest
  | cs => cs

/-- The fields of a whole text. -/
def read? (s : String) : Option Fields :=
  let cs := skipMark s.toList
  if hasLoneReturn cs then none else readLines (2 * cs.length + 2) [] [] cs

end RecordSchema.Toml
