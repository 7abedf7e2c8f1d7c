import Backfill.Text.Digits

/-!
# Strings and blanks of TOML

Every reader takes a prefix of its input and gives back what it read with the rest, or nothing if
there is no such prefix.
-/

namespace Backfill.Toml

/-- What a reader of a prefix gives back. -/
abbrev Reader (α : Type) := List Char → Option (α × List Char)

/-- Characters that need no escape: the tab, and all but the controls. -/
def isPlain (c : Char) : Bool :=
  c == '\t' || (c.toNat ≥ 0x20 && c.toNat ≠ 0x7f)

def isBlank (c : Char) : Bool :=
  c == ' ' || c == '\t'

def skipBlanks (cs : List Char) : List Char :=
  cs.dropWhile isBlank

/-- The rest of a line: blanks, a comment, and a line break or the end of the text. -/
def lineEnd? (cs : List Char) : Option (List Char) :=
  let rest := match skipBlanks cs with
    | '#' :: comment => comment.dropWhile isPlain
    | rest => rest
  match rest with
  | [] => some []
  | '\n' :: rest => some rest
  | '\r' :: '\n' :: rest => some rest
  | _ => none

/-- Blanks, line breaks and comments, as between the elements of an array. A comment ends with its
line. -/
def skipLines? (inComment : Bool) : List Char → Option (List Char)
  | [] => if inComment then none else some []
  | '\n' :: rest => skipLines? false rest
  | '\r' :: '\n' :: rest => skipLines? false rest
  | c :: rest =>
    if inComment then
      if isPlain c then skipLines? true rest else none
    else if isBlank c then skipLines? false rest
    else if c = '#' then skipLines? true rest
    else some (c :: rest)

/-! ### Escapes -/

/-- What a single character stands for after a backslash. -/
def escaped? : Char → Option Char
  | 'b' => some '\x08'
  | 't' => some '\t'
  | 'n' => some '\n'
  | 'f' => some '\x0c'
  | 'r' => some '\r'
  | '"' => some '"'
  | '\\' => some '\\'
  | _ => none

/-- The number of digits that follow a backslash and the given character. -/
def codeLength? : Char → Option Nat
  | 'u' => some 4
  | 'U' => some 8
  | _ => none

/-- The character of the given number, unless it is none or a surrogate. -/
def char? (n : Nat) : Option Char :=
  if n.isValidChar then some (Char.ofNat n) else none

/-- Where a reader of a string in double quotes stands. -/
inductive Mode where
  /-- Between characters; blanks and line breaks are skipped after an escaped line break. -/
  | plain (skipping : Bool)
  /-- After a backslash. -/
  | escape
  /-- After a backslash and blanks, where only a line break may follow. -/
  | fold
  /-- In the number of a character, of which so many digits and one more are to come. -/
  | code (more value : Nat)
deriving DecidableEq, Repr

/-- A string with one more character in front. -/
def push (c : Char) : Option (List Char × List Char) → Option (List Char × List Char)
  | some (cs, rest) => some (c :: cs, rest)
  | none => none

/-! ### Strings in double quotes -/

/-- The rest of a string in double quotes, up to the closing one. -/
def basicRest? : Mode → Reader (List Char)
  | _, [] => none
  | .plain _, c :: rest =>
    if c = '"' then some ([], rest)
    else if c = '\\' then basicRest? .escape rest
    else if isPlain c then push c (basicRest? (.plain false) rest)
    else none
  | .escape, c :: rest =>
    match escaped? c, codeLength? c with
    | some d, _ => push d (basicRest? (.plain false) rest)
    | none, some n => basicRest? (.code (n - 1) 0) rest
    | none, none => none
  | .code more value, c :: rest =>
    match Text.hexDigit? c with
    | none => none
    | some d =>
      match more with
      | 0 =>
        match char? (16 * value + d) with
        | some e => push e (basicRest? (.plain false) rest)
        | none => none
      | more + 1 => basicRest? (.code more (16 * value + d)) rest
  | .fold, _ :: _ => none

/-- The rest of a string in three double quotes, up to the closing ones. Up to two quotes right
before them belong to the string. -/
def multiBasicRest? : Mode → Reader (List Char)
  | _, [] => none
  | .plain _, '"' :: '"' :: '"' :: rest =>
    match rest with
    | '"' :: '"' :: rest => some (['"', '"'], rest)
    | '"' :: rest => some (['"'], rest)
    | rest => some ([], rest)
  | .plain skipping, '\r' :: '\n' :: rest =>
    if skipping then multiBasicRest? (.plain true) rest
    else push '\n' (multiBasicRest? (.plain false) rest)
  | .plain skipping, c :: rest =>
    if skipping && (isBlank c || c == '\n') then multiBasicRest? (.plain true) rest
    else if c = '\\' then multiBasicRest? .escape rest
    else if isPlain c || c == '\n' then push c (multiBasicRest? (.plain false) rest)
    else none
  | .escape, '\r' :: '\n' :: rest => multiBasicRest? (.plain true) rest
  | .escape, c :: rest =>
    if c = '\n' then multiBasicRest? (.plain true) rest
    else if isBlank c then multiBasicRest? .fold rest
    else
      match escaped? c, codeLength? c with
      | some d, _ => push d (multiBasicRest? (.plain false) rest)
      | none, some n => multiBasicRest? (.code (n - 1) 0) rest
      | none, none => none
  | .fold, '\r' :: '\n' :: rest => multiBasicRest? (.plain true) rest
  | .fold, c :: rest =>
    if c = '\n' then multiBasicRest? (.plain true) rest
    else if isBlank c then multiBasicRest? .fold rest
    else none
  | .code more value, c :: rest =>
    match Text.hexDigit? c with
    | none => none
    | some d =>
      match more with
      | 0 =>
        match char? (16 * value + d) with
        | some e => push e (multiBasicRest? (.plain false) rest)
        | none => none
      | more + 1 => multiBasicRest? (.code more (16 * value + d)) rest

/-! ### Strings in single quotes -/

/-- The rest of a string in single quotes, in which nothing is escaped. -/
def literalRest? : Reader (List Char)
  | [] => none
  | c :: rest =>
    if c = '\x27' then some ([], rest)
    else if isPlain c then push c (literalRest? rest)
    else none

/-- The rest of a string in three single quotes. -/
def multiLiteralRest? : Reader (List Char)
  | [] => none
  | '\x27' :: '\x27' :: '\x27' :: rest =>
    match rest with
    | '\x27' :: '\x27' :: rest => some (['\x27', '\x27'], rest)
    | '\x27' :: rest => some (['\x27'], rest)
    | rest => some ([], rest)
  | '\r' :: '\n' :: rest => push '\n' (multiLiteralRest? rest)
  | c :: rest =>
    if isPlain c || c == '\n' then push c (multiLiteralRest? rest) else none

/-- A line break right after the opening quotes is not part of the string. -/
def dropLineBreak : List Char → List Char
  | '\n' :: rest => rest
  | '\r' :: '\n' :: rest => rest
  | cs => cs

/-- A string in any of the four forms. -/
def string? : Reader (List Char)
  | '"' :: '"' :: '"' :: rest => multiBasicRest? (.plain false) (dropLineBreak rest)
  | '"' :: rest => basicRest? (.plain false) rest
  | '\x27' :: '\x27' :: '\x27' :: rest => multiLiteralRest? (dropLineBreak rest)
  | '\x27' :: rest => literalRest? rest
  | _ => none

/-! ### Keys -/

def isBare (c : Char) : Bool :=
  c.isAlphanum || c == '_' || c == '-'

/-- One part of a key: bare, or a string on one line. -/
def keyPart? : Reader String
  | '"' :: rest => (basicRest? (.plain false) rest).map fun (cs, rest) => (String.ofList cs, rest)
  | '\x27' :: rest => (literalRest? rest).map fun (cs, rest) => (String.ofList cs, rest)
  | cs =>
    let bare := cs.takeWhile isBare
    if bare.isEmpty then none else some (String.ofList bare, cs.dropWhile isBare)

/-- A key of at most so many parts, with points between them and blanks around each. -/
def keyParts? : Nat → Reader (List String)
  | 0, _ => none
  | parts + 1, cs =>
    match keyPart? (skipBlanks cs) with
    | none => none
    | some (part, rest) =>
      match skipBlanks rest with
      | '.' :: rest => (keyParts? parts rest).map fun (more, rest) => (part :: more, rest)
      | rest => some ([part], rest)

/-- How deep values nest, and how many parts a key has, at most. -/
def maxDepth : Nat := 79

/-- A key, as the path to its last part and that part. -/
def key? : Reader (List String × String) := fun cs =>
  match keyParts? maxDepth cs with
  | none => none
  | some (parts, rest) => parts.getLast?.map fun last => ((parts.dropLast, last), rest)

end Backfill.Toml
