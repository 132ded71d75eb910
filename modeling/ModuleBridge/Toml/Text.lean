import ModuleBridge.Toml.Number

/-!
# Text in TOML

Blanks, line ends and comments, the four kinds of strings, and keys.  A line end
inside a string of several lines is a line feed, however it is written.
-/

namespace ModuleBridge.Toml

/-- Blanks inside a line. -/
def isSpace (letter : Char) : Bool :=
  letter == ' ' || letter == '\t'

/-- What follows blanks. -/
def skipSpace (rest : List Char) : List Char :=
  rest.dropWhile isSpace

/-- What follows a line end. -/
def newline? : List Char → Option (List Char)
  | '\n' :: rest => some rest
  | '\r' :: '\n' :: rest => some rest
  | _ => none

/-- The characters that may stand in a line. -/
def isPlain (letter : Char) : Bool :=
  letter == '\t' || (0x20 ≤ letter.toNat && letter.toNat ≤ 0x7E) || 0x80 ≤ letter.toNat

/-- What follows a comment, where there is one. -/
def skipComment : List Char → List Char
  | '#' :: rest => rest.dropWhile isPlain
  | rest => rest

/-- What follows the end of a line: blanks, perhaps a comment, and a line end or the end. -/
def lineEnd? (rest : List Char) : Option (List Char) :=
  match skipComment (skipSpace rest) with
  | [] => some []
  | behind => newline? behind

/-- What follows blanks, line ends and comments; every comment needs a line end. -/
def skipLines : Nat → List Char → Option (List Char)
  | 0, rest => some rest
  | bound + 1, rest =>
    match skipSpace rest with
    | '#' :: comment => (newline? (comment.dropWhile isPlain)).bind (skipLines bound)
    | behind =>
      match newline? behind with
      | some after => skipLines bound after
      | none => some behind

/-- The characters of an escape behind its backslash, and what follows them. -/
def readEscape : List Char → Option (Char × List Char)
  | 'b' :: rest => some ('\x08', rest)
  | 't' :: rest => some ('\t', rest)
  | 'n' :: rest => some ('\n', rest)
  | 'f' :: rest => some ('\x0c', rest)
  | 'r' :: rest => some ('\r', rest)
  | '"' :: rest => some ('"', rest)
  | '\\' :: rest => some ('\\', rest)
  | 'u' :: rest => numbered 4 rest
  | 'U' :: rest => numbered 8 rest
  | _ => none
where
  /-- A character by its number in hexadecimal digits. -/
  numbered (count : Nat) (rest : List Char) : Option (Char × List Char) :=
    let digits := rest.take count
    if digits.length = count then
      (Text.hexScalar? digits).map fun point => (Char.ofNat point, rest.drop count)
    else
      none

/-- The rest of a string in double quotes. -/
def readBasic : Nat → List Char → Option (List Char × List Char)
  | 0, _ => none
  | bound + 1, rest =>
    match rest with
    | '"' :: after => some ([], after)
    | '\\' :: behind => do
      let (letter, further) ← readEscape behind
      let (text, after) ← readBasic bound further
      some (letter :: text, after)
    | letter :: behind =>
      if isPlain letter then
        (readBasic bound behind).map fun (text, after) => (letter :: text, after)
      else
        none
    | [] => none

/-- The rest of a string in single quotes. -/
def readLiteral (rest : List Char) : Option (List Char × List Char) :=
  let text := rest.takeWhile fun letter => isPlain letter && letter != '\''
  match rest.drop text.length with
  | '\'' :: after => some (text, after)
  | _ => none

/-- The number of quotes that a text begins with. -/
def quoteRun (quote : Char) (rest : List Char) : Nat :=
  (rest.takeWhile (· == quote)).length

/--
The rest of a string of several lines.  Three to five quotes end it, and those
beyond three belong to the text; escapes count only where `escapes` says so.
-/
def readLong (quote : Char) (escapes : Bool) : Nat → List Char → Option (List Char × List Char)
  | 0, _ => none
  | bound + 1, rest =>
    match rest with
    | [] => none
    | letter :: behind =>
      if letter = quote then
        let run := quoteRun quote rest
        if run < 3 then
          (readLong quote escapes bound behind).map fun (text, after) => (letter :: text, after)
        else if run ≤ 5 then
          some (List.replicate (run - 3) quote, rest.drop run)
        else
          none
      else if letter = '\\' ∧ escapes then
        match newline? (skipSpace behind) with
        | some below =>
          readLong quote escapes bound (below.dropWhile fun c => isSpace c || c == '\n' || c == '\r')
        | none => do
          let (escaped, further) ← readEscape behind
          let (text, after) ← readLong quote escapes bound further
          some (escaped :: text, after)
      else
        match newline? rest with
        | some below =>
          (readLong quote escapes bound below).map fun (text, after) => ('\n' :: text, after)
        | none =>
          if isPlain letter then
            (readLong quote escapes bound behind).map fun (text, after) => (letter :: text, after)
          else
            none

/-- A line end right behind the opening quotes does not count. -/
def skipFirstLineEnd (rest : List Char) : List Char :=
  (newline? rest).getD rest

/-- A string of any kind. -/
def readString : List Char → Option (String × List Char)
  | '"' :: '"' :: '"' :: rest =>
    (readLong '"' true (rest.length + 1) (skipFirstLineEnd rest)).map fun (text, after) =>
      (String.ofList text, after)
  | '\'' :: '\'' :: '\'' :: rest =>
    (readLong '\'' false (rest.length + 1) (skipFirstLineEnd rest)).map fun (text, after) =>
      (String.ofList text, after)
  | '"' :: rest =>
    (readBasic (rest.length + 1) rest).map fun (text, after) => (String.ofList text, after)
  | '\'' :: rest => (readLiteral rest).map fun (text, after) => (String.ofList text, after)
  | _ => none

/-- The characters of a key without quotes. -/
def isBare (letter : Char) : Bool :=
  letter.isAlphanum || letter == '-' || letter == '_'

/-- One key. -/
def readSimpleKey (rest : List Char) : Option (String × List Char) :=
  match rest with
  | '"' :: behind =>
    (readBasic (behind.length + 1) behind).map fun (text, after) => (String.ofList text, after)
  | '\'' :: behind => (readLiteral behind).map fun (text, after) => (String.ofList text, after)
  | _ =>
    let name := rest.takeWhile isBare
    if name.isEmpty then none else some (String.ofList name, rest.drop name.length)

/-- Keys joined by dots, with blanks around each. -/
def readKeys : Nat → List Char → Option (List String × List Char)
  | 0, _ => none
  | bound + 1, rest => do
    let (key, behind) ← readSimpleKey (skipSpace rest)
    match skipSpace behind with
    | '.' :: further =>
      let (keys, after) ← readKeys bound further
      some (key :: keys, after)
    | after => some ([key], after)

/-- Tables and arrays may nest this deep, and so may joined keys. -/
def depthLimit : Nat := 80

/-- The path of a value or table: fewer keys than the nesting limit. -/
def readPath (rest : List Char) : Option (List String × List Char) :=
  (readKeys (rest.length + 1) rest).filter fun found => found.1.length < depthLimit

end ModuleBridge.Toml
