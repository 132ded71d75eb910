import ModuleBridge.Pattern.Node
import ModuleBridge.Text.Cut
import ModuleBridge.Text.Hex

/-!
# Reading patterns

A pattern is read from left to right.  Flags apply from where they are set to
the end of the group around them, so every character class and condition is
settled when it is read.  A malformed pattern is refused as a whole.

Nesting is bounded: a sequence, a choice, a group, a repetition and every layer
of a bracketed class count one level each.
-/

namespace ModuleBridge.Pattern

/-- The flags in force. -/
structure Mode where
  ignoreCase : Bool
  multiLine : Bool
  dotAll : Bool
  anyLineEnd : Bool
  unicode : Bool
  /-- Blanks and comments between the parts of a pattern are skipped. -/
  spaced : Bool
  deriving DecidableEq, Repr, Inhabited

namespace Mode

/-- The flags at the start of a pattern. -/
def initial (ignoreCase : Bool) : Mode :=
  ⟨ignoreCase, false, false, false, true, false⟩

/-- The highest member of a character set. -/
def top (mode : Mode) : Nat :=
  if mode.unicode then 0x10FFFF else 0xFF

/-- The flags with one of them switched; there is none for an unknown letter. -/
def switch? (mode : Mode) (flag : Char) (on : Bool) : Option Mode :=
  match flag with
  | 'i' => some { mode with ignoreCase := on }
  | 'm' => some { mode with multiLine := on }
  | 's' => some { mode with dotAll := on }
  | 'R' => some { mode with anyLineEnd := on }
  | 'U' => some mode
  | 'u' => some { mode with unicode := on }
  | 'x' => some { mode with spaced := on }
  | _ => none

/-- A set with both cases of its members, where case is ignored. -/
def settleCase (mode : Mode) (set : CharSet) : CharSet :=
  if mode.ignoreCase then set.fold mode.unicode else set

/-- A set that can stand for characters: without Unicode it holds ASCII only. -/
def admit? (mode : Mode) (set : CharSet) : Option CharSet :=
  if mode.unicode || set.isWithin 0x7F then some set else none

/-- A set, or the characters outside it. -/
def negateIf (mode : Mode) (negated : Bool) (set : CharSet) : CharSet :=
  if negated then set.complement mode.top else set

end Mode

/-- Skips blanks and comments; the flag tells that a comment has begun. -/
def skipSpaced : Bool → List Char → List Char
  | _, [] => []
  | true, letter :: rest => skipSpaced (letter != '\n') rest
  | false, letter :: rest =>
    if Text.isBlank letter then skipSpaced false rest
    else if letter = '#' then skipSpaced true rest
    else letter :: rest

/-- What follows blanks and comments, where these are skipped. -/
def skip (mode : Mode) (rest : List Char) : List Char :=
  if mode.spaced then skipSpaced false rest else rest

/-- The character behind the first one; one comment mark between them is skipped as well. -/
def peek? (mode : Mode) (rest : List Char) : Option Char :=
  if mode.spaced then
    match (rest.drop 1).dropWhile Text.isBlank with
    | '#' :: behind => (behind.dropWhile Text.isBlank).head?
    | found => found.head?
  else
    (rest.drop 1).head?

/-- What an escape or a single character stands for. -/
inductive Primitive where
  /-- A character; `byte` tells that it was written as two hexadecimal digits. -/
  | letter (point : Nat) (byte : Bool)
  | look (condition : Look)
  | set (set : CharSet)
  deriving DecidableEq, Repr, Inhabited

/-! ### Escapes -/

/-- The characters that mean something unless they are escaped. -/
def isMeta (letter : Char) : Bool :=
  "\\.+*?()|[]\x7b\x7d^$#&-~".toList.contains letter

/-- The characters that may stand behind a backslash for themselves. -/
def isEscapable (letter : Char) : Bool :=
  isMeta letter ||
    (letter.toNat < 0x80 && !letter.isAlphanum && letter != '<' && letter != '>')

/-- The characters up to a closing brace, and what follows it. -/
def readBraced (mode : Mode) : Nat → List Char → Option (List Char × List Char)
  | 0, _ => none
  | bound + 1, rest =>
    match skip mode rest with
    | [] => none
    | '}' :: behind => some ([], behind)
    | letter :: behind =>
      (readBraced mode bound behind).map fun (inner, after) => (letter :: inner, after)

/-- A fixed number of characters, and what follows them. -/
def readCount (mode : Mode) : Nat → List Char → Option (List Char × List Char)
  | 0, rest => some ([], rest)
  | count + 1, rest =>
    match skip mode rest with
    | [] => none
    | letter :: behind =>
      (readCount mode count behind).map fun (inner, after) => (letter :: inner, after)

/-- A character by its number: `digits` digits, or any number of them between braces. -/
def readHex (mode : Mode) (digits : Nat) (rest : List Char) : Option (Primitive × List Char) := do
  match skip mode rest with
  | '{' :: behind =>
    let (inner, after) ← readBraced mode (behind.length + 1) behind
    some (.letter (← Text.hexScalar? inner) false, after)
  | behind =>
    let (inner, after) ← readCount mode digits behind
    some (.letter (← Text.hexScalar? inner) (digits == 2), after)

/-- A Unicode property: its name between braces, or one character. -/
def readProperty (mode : Mode) (negated : Bool) (rest : List Char) :
    Option (Primitive × List Char) := do
  match skip mode rest with
  | '{' :: behind =>
    let (inner, after) ← readBraced mode (behind.length + 1) behind
    let (unequal, set) ← Class.named? inner
    if mode.unicode then
      some (.set (mode.negateIf (negated != unequal) (mode.settleCase set)), after)
    else
      none
  | _ => none

/-- The letters and hyphens of the name of a word edge. -/
def isEdgeLetter (letter : Char) : Bool :=
  letter.isAlpha || letter == '-'

/-- A word edge by its name. -/
def edge? (name : List Char) : Option WordEdge :=
  match String.ofList name with
  | "start" => some .start
  | "end" => some .stop
  | "start-half" => some .startHalf
  | "end-half" => some .stopHalf
  | _ => none

/-- What `\b` stands for: a named word edge where a name follows in braces, else a boundary. -/
def readBoundary (mode : Mode) (rest : List Char) : Option (Primitive × List Char) :=
  match rest with
  | '{' :: behind =>
    match skip mode behind with
    | [] => none
    | first :: _ =>
      if isEdgeLetter first then do
        let (inner, after) ← readBraced mode (behind.length + 1) behind
        some (.look (.word mode.unicode (← edge? inner)), after)
      else
        some (.look (.word mode.unicode .boundary), rest)
  | _ => some (.look (.word mode.unicode .boundary), rest)

/-- A set that an escape names; outside it, where the escape is a capital letter. -/
def escapedSet (mode : Mode) (negated : Bool) (set : CharSet) (rest : List Char) :
    Option (Primitive × List Char) :=
  (mode.admit? (mode.negateIf negated set)).map fun admitted => (.set admitted, rest)

/-- What follows a backslash. -/
def readEscape (mode : Mode) : List Char → Option (Primitive × List Char)
  | [] => none
  | letter :: rest =>
    let plain := fun (point : Nat) => some (Primitive.letter point false, rest)
    match letter with
    | 'x' => readHex mode 2 rest
    | 'u' => readHex mode 4 rest
    | 'U' => readHex mode 8 rest
    | 'p' => readProperty mode false rest
    | 'P' => readProperty mode true rest
    | 'd' => escapedSet mode false (Class.digit mode.unicode) rest
    | 'D' => escapedSet mode true (Class.digit mode.unicode) rest
    | 's' => escapedSet mode false (Class.space mode.unicode) rest
    | 'S' => escapedSet mode true (Class.space mode.unicode) rest
    | 'w' => escapedSet mode false (Class.word mode.unicode) rest
    | 'W' => escapedSet mode true (Class.word mode.unicode) rest
    | 'a' => plain 0x7
    | 'f' => plain 0xC
    | 't' => plain 0x9
    | 'n' => plain 0xA
    | 'r' => plain 0xD
    | 'v' => plain 0xB
    | 'A' => some (.look .textStart, rest)
    | 'z' => some (.look .textStop, rest)
    | 'b' => readBoundary mode rest
    | 'B' => some (.look (.word mode.unicode .inside), rest)
    | '<' => some (.look (.word mode.unicode .start), rest)
    | '>' => some (.look (.word mode.unicode .stop), rest)
    | other => if isEscapable other then plain other.toNat else none

/-! ### Bracketed classes -/

/-- How two sets are combined inside brackets. -/
inductive SetOperator where
  | intersection
  | difference
  | symmetricDifference
  deriving DecidableEq, Repr, Inhabited

/-- A set with the levels it nests. -/
structure Nested where
  set : CharSet
  depth : Nat
  deriving DecidableEq, Repr, Inhabited

/-- The items of one union, the latest first. -/
abbrev Items := List Nested

/-- The union of items; more than one of them are a level of their own. -/
def Items.union : Items → Nested
  | [] => ⟨.empty, 0⟩
  | [item] => item
  | items =>
    ⟨CharSet.ofRanges (items.flatMap fun item => item.set.ranges),
      (items.map Nested.depth).foldl max 0 + 1⟩

/-- What stands to the left of an operator that waits for its right side. -/
structure Waiting where
  operator : SetOperator
  left : Nested
  deriving DecidableEq, Repr, Inhabited

/-- Combines what waits with its right side. -/
def combine (mode : Mode) : Option Waiting → Nested → Nested
  | none, right => right
  | some waiting, right =>
    let near := mode.settleCase waiting.left.set
    let far := mode.settleCase right.set
    let set := match waiting.operator with
      | .intersection => near.intersect mode.top far
      | .difference => near.subtract mode.top far
      | .symmetricDifference => near.symmetricDifference mode.top far
    ⟨set, max waiting.left.depth right.depth + 1⟩

/-- The code point of a character in a class; without Unicode it is a byte. -/
def classPoint? (mode : Mode) (point : Nat) (byte : Bool) : Option Nat :=
  if mode.unicode || point < 0x80 || byte then some point else none

/-- The set of one item of a class. -/
def itemSet? (mode : Mode) : Primitive → Option CharSet
  | .letter point byte => (classPoint? mode point byte).map CharSet.single
  | .set set => some set
  | .look _ => none

/-- One item of a class: an escape or a character. -/
def readItem (mode : Mode) : List Char → Option (Primitive × List Char)
  | [] => none
  | '\\' :: rest => readEscape mode rest
  | letter :: rest => some (.letter letter.toNat false, rest)

/-- An item, or a range between two characters. -/
def readRange (mode : Mode) (rest : List Char) : Option (Nested × List Char) := do
  let (first, behind) ← readItem mode rest
  let behind := skip mode behind
  let follower ← behind.head?
  if follower ≠ '-' ∨ peek? mode behind = some ']' ∨ peek? mode behind = some '-' then
    some (⟨← itemSet? mode first, 0⟩, behind)
  else
    let (last, after) ← readItem mode (skip mode (behind.drop 1))
    match first, last with
    | .letter low lowByte, .letter high highByte =>
      let low ← classPoint? mode low lowByte
      let high ← classPoint? mode high highByte
      if low ≤ high then some (⟨⟨[(low, high)]⟩, 0⟩, after) else none
    | _, _ => none

/-- An ASCII class such as `[:alpha:]`, behind its opening bracket; there may be none. -/
def readAscii? (mode : Mode) (rest : List Char) : Option (Nested × List Char) := do
  let inner ← Text.dropLead? [':'] rest
  let (negated, body) := match inner with
    | '^' :: body => (true, body)
    | body => (false, body)
  let (name, after) ← Text.cut? ':' body
  let behind ← Text.dropLead? [']'] after
  let set ← Class.ascii? (String.ofList name)
  some (⟨mode.negateIf negated set, 0⟩, behind)

/-- The hyphens at the start of a class stand for themselves. -/
def readHyphens (mode : Mode) : Nat → List Char → Items → Option (Items × List Char)
  | 0, _, _ => none
  | bound + 1, rest, items =>
    match rest with
    | [] => none
    | '-' :: behind => readHyphens mode bound (skip mode behind) (⟨.single 0x2D, 0⟩ :: items)
    | _ => some (items, rest)

/-- The start of a class behind its bracket: whether it is negated, and its first items. -/
def readOpening (mode : Mode) (rest : List Char) : Option (Bool × Items × List Char) := do
  let inner := skip mode rest
  let (negated, body) := match inner with
    | '^' :: body => (true, skip mode body)
    | body => (false, body)
  let (items, behind) ← readHyphens mode (body.length + 1) body []
  match items, behind with
  | [], ']' :: after =>
    if (skip mode after).isEmpty then none else some (negated, [⟨.single 0x5D, 0⟩], skip mode after)
  | _, _ => some (negated, items, behind)

/-- An operator between two sets. -/
def operator? : List Char → Option (SetOperator × List Char)
  | '&' :: '&' :: rest => some (.intersection, rest)
  | '-' :: '-' :: rest => some (.difference, rest)
  | '~' :: '~' :: rest => some (.symmetricDifference, rest)
  | _ => none

/-- A finished class: its case is settled before it is negated. -/
def closeClass (mode : Mode) (negated : Bool) (inner : Nested) : Option Nested := do
  let set ← mode.admit? (mode.negateIf negated (mode.settleCase inner.set))
  some ⟨set, inner.depth + 1⟩

/-- The rest of a class; `bound` limits the number of its parts. -/
def readClassParts (mode : Mode) :
    Nat → Bool → Option Waiting → Items → List Char → Option (Nested × List Char)
  | 0, _, _, _, _ => none
  | bound + 1, negated, waiting?, items, rest =>
    match skip mode rest with
    | [] => none
    | ']' :: behind =>
      (closeClass mode negated (combine mode waiting? items.union)).map fun set => (set, behind)
    | '[' :: behind =>
      match readAscii? mode behind with
      | some (item, after) => readClassParts mode bound negated waiting? (item :: items) after
      | none => do
        let (innerNegated, first, inner) ← readOpening mode behind
        let (item, after) ← readClassParts mode bound innerNegated none first inner
        readClassParts mode bound negated waiting? (item :: items) after
    | found =>
      match operator? found with
      | some (operator, behind) =>
        readClassParts mode bound negated
          (some ⟨operator, combine mode waiting? items.union⟩) [] behind
      | none => do
        let (item, after) ← readRange mode found
        readClassParts mode bound negated waiting? (item :: items) after

/-- A class behind its opening bracket. -/
def readClass (mode : Mode) (rest : List Char) : Option (Nested × List Char) := do
  let (negated, items, inner) ← readOpening mode rest
  readClassParts mode (rest.length + 1) negated none items inner

/-! ### Repetitions -/

/-- The largest count that can be written. -/
def countLimit : Nat := 4294967295

/-- The digits of a count, and what follows them. -/
def readDigits (mode : Mode) : Nat → List Char → List Char × List Char
  | 0, rest => ([], rest)
  | bound + 1, rest =>
    match rest with
    | letter :: behind =>
      if letter.isDigit then
        let (digits, after) := readDigits mode bound (skip mode behind)
        (letter :: digits, after)
      else
        ([], rest)
    | [] => ([], [])

/-- A count, which blanks may surround, where there is one; none is read beyond the limit. -/
def readNumber (mode : Mode) (rest : List Char) : Option (Option Nat × List Char) :=
  let (digits, after) := readDigits mode (rest.length + 1) (rest.dropWhile Text.isBlank)
  let behind := after.dropWhile Text.isBlank
  if digits.isEmpty then
    some (none, behind)
  else
    let value := digits.foldl (fun total digit => total * 10 + (digit.toNat - 0x30)) 0
    if value ≤ countLimit then some (some value, behind) else none

/-- The bounds of a counted repetition behind its opening brace. -/
def readBounds (mode : Mode) (rest : List Char) :
    Option ((Nat × Option Nat) × List Char) := do
  let rest := skip mode rest
  let (least?, behind) ← readNumber mode rest
  match behind with
  | ',' :: more =>
    match skip mode more with
    | '}' :: after => some ((← least?, none), after)
    | more => do
      let least ← least?
      let (most?, last) ← readNumber mode more
      let most ← most?
      match last with
      | '}' :: after => if least ≤ most then some ((least, some most), after) else none
      | _ => none
  | '}' :: after => do
    let least ← least?
    some ((least, some least), after)
  | _ => none

/-- A question mark behind a repetition only says which match is preferred. -/
def dropLazy : List Char → List Char
  | '?' :: rest => rest
  | rest => rest

/-! ### Groups -/

/-- The first character of a group name. -/
def isNameStart (letter : Char) : Bool :=
  letter == '_' || Class.isAlphabetic letter.toNat

/-- A further character of a group name. -/
def isNameLetter (letter : Char) : Bool :=
  letter == '_' || letter == '.' || letter == '[' || letter == ']' ||
    Class.isAlphanumeric letter.toNat

/-- A group name up to its closing angle bracket. -/
def readName (rest : List Char) : Option (String × List Char) := do
  let (name, after) ← Text.cut? '>' rest
  match name with
  | [] => none
  | first :: others =>
    if isNameStart first && others.all isNameLetter then some (String.ofList name, after) else none

/-- Flag letters up to the colon or bracket that ends them, and what follows them. -/
def readFlags : List Char → List Char → Option (List Char × List Char)
  | _, [] => none
  | seen, letter :: rest =>
    if letter = ':' ∨ letter = ')' then
      some (seen.reverse, letter :: rest)
    else if seen.contains letter then
      none
    else
      readFlags (letter :: seen) rest

/-- Switches flags on, and off behind a hyphen. -/
def applyFlags : Bool → Mode → List Char → Option Mode
  | _, mode, [] => some mode
  | on, mode, letter :: rest =>
    if letter = '-' then
      applyFlags false mode rest
    else
      (mode.switch? letter on).bind fun switched => applyFlags on switched rest

/-- What an opening bracket begins. -/
inductive Opening where
  /-- A group, with its name where it has one, and the flags inside it. -/
  | group (name? : Option String) (mode : Mode)
  /-- Flags for the rest of the group around them. -/
  | flags (mode : Mode)
  deriving DecidableEq, Repr, Inhabited

/-- Whether a look-around begins here; these are not supported. -/
def isLookAround (rest : List Char) : Bool :=
  [['?', '='], ['?', '!'], ['?', '<', '='], ['?', '<', '!']].any fun lead =>
    lead.isPrefixOf rest

/-- Reads what follows an opening bracket. -/
def readGroup (mode : Mode) (rest : List Char) : Option (Opening × List Char) := do
  let rest := skip mode rest
  if isLookAround rest then
    none
  match rest with
  | '?' :: 'P' :: '<' :: behind =>
    let (name, after) ← readName behind
    some (.group (some name) mode, after)
  | '?' :: '<' :: behind =>
    let (name, after) ← readName behind
    some (.group (some name) mode, after)
  | '?' :: behind =>
    let (flags, after) ← readFlags [] behind
    if flags.getLast? = some '-' then
      none
    let inner ← applyFlags true mode flags
    match after with
    | ':' :: body => some (.group none inner, body)
    | ')' :: body => if flags.isEmpty then none else some (.flags inner, body)
    | _ => none
  | _ => some (.group none mode, rest)

/-! ### Whole patterns -/

/-- A part of a sequence: a pattern, the levels it nests, and whether it can be repeated. -/
structure Part where
  node : Node
  depth : Nat
  repeatable : Bool
  deriving DecidableEq, Repr, Inhabited

/-- The sequence of parts that stand in reverse order. -/
def sequence : List Part → Part
  | [] => ⟨.empty, 0, true⟩
  | [part] => part
  | parts =>
    ⟨parts.foldl (fun node part => .follow part.node node) .empty,
      (parts.map Part.depth).foldl max 0 + 1, true⟩

/-- The choice between branches that stand in reverse order; the latest is always there. -/
def choice (latest : Part) : List Part → Part
  | [] => latest
  | branches =>
    ⟨branches.foldl (fun node part => .either part.node node) latest.node,
      (branches.map Part.depth).foldl max latest.depth + 1, true⟩

/-- An open group: its finished branches, its latest branch, and the flags around it. -/
structure Level where
  branches : List Part
  parts : List Part
  outer : Mode
  deriving DecidableEq, Repr, Inhabited

/-- What a level holds. -/
def Level.close (level : Level) : Part :=
  choice (sequence level.parts) level.branches

/-- What has been read of a pattern. -/
structure Progress where
  mode : Mode
  level : Level
  /-- The levels around the present one, the nearest first. -/
  outer : List Level
  names : List String
  deriving DecidableEq, Repr, Inhabited

namespace Progress

/-- Adds a part to the latest branch. -/
def push (progress : Progress) (part : Part) : Progress :=
  { progress with level := { progress.level with parts := part :: progress.level.parts } }

/-- Repeats the latest part; there must be one, and it must not be a mere switch of flags. -/
def repeatLast? (progress : Progress) (least : Nat) (most? : Option Nat) : Option Progress :=
  match progress.level.parts with
  | part :: others =>
    if part.repeatable then
      let part := ⟨.repeated least most? part.node, part.depth + 1, true⟩
      some { progress with level := { progress.level with parts := part :: others } }
    else
      none
  | [] => none

/-- Begins a further branch. -/
def branch (progress : Progress) : Progress :=
  let level := progress.level
  { progress with level := { level with branches := sequence level.parts :: level.branches,
                                        parts := [] } }

/-- Begins a group; a name must be new. -/
def opened? (progress : Progress) : Opening → Option Progress
  | .flags mode => some ({ progress with mode := mode }.push ⟨.empty, 0, false⟩)
  | .group name? mode =>
    if name?.any progress.names.contains then
      none
    else
      some ⟨mode, ⟨[], [], progress.mode⟩, progress.level :: progress.outer,
        name?.toList ++ progress.names⟩

/-- Ends a group; one must be open. -/
def closed? (progress : Progress) : Option Progress :=
  match progress.outer with
  | [] => none
  | level :: outer =>
    let inner := progress.level.close
    some ({ progress with mode := progress.level.outer, level := level, outer := outer }.push
      ⟨inner.node, inner.depth + 1, true⟩)

/-- The part that a primitive stands for. -/
def primitivePart? (mode : Mode) : Primitive → Option Part
  | .look condition => some ⟨.look condition, 0, true⟩
  | .set set => some ⟨.letter set, 0, true⟩
  | .letter point byte =>
    if byte && !mode.unicode && 0x7F < point then
      none
    else if mode.unicode || point < 0x80 then
      some ⟨.letter (mode.settleCase (.single point)), 0, true⟩
    else
      some ⟨.letter (.single point), 0, true⟩

/-- The condition of a line start in a mode. -/
def lineStart (mode : Mode) : Look :=
  if mode.multiLine then (if mode.anyLineEnd then .anyLineStart else .lineStart) else .textStart

/-- The condition of a line end in a mode. -/
def lineStop (mode : Mode) : Look :=
  if mode.multiLine then (if mode.anyLineEnd then .anyLineStop else .lineStop) else .textStop

/-- The characters that a dot stands for. -/
def dotSet (mode : Mode) : CharSet :=
  if mode.dotAll then ⟨[(0, 0x10FFFF)]⟩
  else if mode.anyLineEnd then ⟨[(0, 0x9), (0xB, 0xC), (0xE, 0x10FFFF)]⟩
  else ⟨[(0, 0x9), (0xB, 0x10FFFF)]⟩

/-- Reads one part of a pattern. -/
def step (progress : Progress) (letter : Char) (rest : List Char) :
    Option (Progress × List Char) :=
  let mode := progress.mode
  match letter with
  | '(' => do
    let (opening, after) ← readGroup mode rest
    some (← progress.opened? opening, after)
  | ')' => progress.closed?.map fun next => (next, rest)
  | '|' => some (progress.branch, rest)
  | '[' => do
    let (nested, after) ← readClass mode rest
    some (progress.push ⟨.letter nested.set, nested.depth, true⟩, after)
  | '?' => (progress.repeatLast? 0 (some 1)).map fun next => (next, dropLazy rest)
  | '*' => (progress.repeatLast? 0 none).map fun next => (next, dropLazy rest)
  | '+' => (progress.repeatLast? 1 none).map fun next => (next, dropLazy rest)
  | '{' => do
    let ((least, most?), after) ← readBounds mode rest
    some (← progress.repeatLast? least most?, dropLazy (skip mode after))
  | '\\' => do
    let (primitive, after) ← readEscape mode rest
    some (progress.push (← primitivePart? mode primitive), after)
  | '.' => if mode.unicode then some (progress.push ⟨.letter (dotSet mode), 0, true⟩, rest) else none
  | '^' => some (progress.push ⟨.look (lineStart mode), 0, true⟩, rest)
  | '$' => some (progress.push ⟨.look (lineStop mode), 0, true⟩, rest)
  | other => (primitivePart? mode (.letter other.toNat false)).map fun part =>
    (progress.push part, rest)

/-- Reads parts until the pattern ends; `bound` limits their number. -/
def run : Nat → Progress → List Char → Option Progress
  | 0, _, _ => none
  | bound + 1, progress, rest =>
    match skip progress.mode rest with
    | [] => some progress
    | letter :: behind => (progress.step letter behind).bind fun (next, after) => run bound next after

end Progress

/-- The number of levels that a pattern may nest. -/
def nestLimit : Nat := 250

/-- The number of bytes that the program of a pattern may take. -/
def costLimit : Nat := 10485760

/-- Why a pattern is refused. -/
inductive Refusal where
  | malformed
  | tooLarge
  deriving DecidableEq, Repr, Inhabited

/-- The text of a refusal. -/
def Refusal.message : Refusal → String
  | .malformed => "regex parse error"
  | .tooLarge => "Compiled regex exceeds size limit of 10485760 bytes."

/-- Reads a pattern. -/
def read (ignoreCase : Bool) (text : String) : Except Refusal Node :=
  let letters := text.toList
  let mode := Mode.initial ignoreCase
  match Progress.run (letters.length + 1) ⟨mode, ⟨[], [], mode⟩, [], []⟩ letters with
  | none => .error .malformed
  | some progress =>
    let whole := progress.level.close
    if !progress.outer.isEmpty || nestLimit < whole.depth then
      .error .malformed
    else if costLimit < whole.node.cost then
      .error .tooLarge
    else
      .ok whole.node

/-- Reads several patterns, whose programs may be no larger together than one alone. -/
def readAll (ignoreCase : Bool) (texts : List String) : Except Refusal (List Node) := do
  let nodes ← texts.mapM (read ignoreCase)
  if costLimit < nodes.foldl (fun total node => total + node.cost) 0 then
    .error .tooLarge
  else
    .ok nodes

end ModuleBridge.Pattern
