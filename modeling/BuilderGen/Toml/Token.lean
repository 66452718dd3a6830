/-!
# BuilderGen.Toml.Token

**Tokens**: a document with its comments dropped, its line breaks recognised and
its quoted texts read. Every other character is a token of its own, so what a
character means is left to the grammar.

Design points:

* `lexFrom` consumes one character (or one fixed group) at a time, and what has
  been read of a comment or a quoted text is in its *mode*. So it recurses on the
  text alone.
* A text that is no document need not have tokens; nothing is said about why.
  Control characters outside quotes are characters like others here, except that a
  carriage return has to belong to a line break.
* Quoted texts come in four forms. A basic text has escapes, a literal one has
  none; either may extend over several lines between three quotes, and then a
  line break right after the opening quotes is dropped.
-/

namespace BuilderGen.Toml

/-- A token. -/
inductive Token
  /-- A character outside quotes and comments that is no line break. -/
  | char (c : Char)
  | newline
  /-- A quoted text; `multiline` if it stood between three quotes. -/
  | quoted (value : String) (multiline : Bool)
  deriving DecidableEq, Repr

/-- Where in the text a character stands. What has been read of a quoted text is
held last character first. -/
inductive Mode
  | plain
  /-- Within a run of characters that neither blanks nor marks interrupt: quotes
  mean nothing there. -/
  | word
  | comment
  | basic (read : List Char)
  | literal (read : List Char)
  /-- In a basic text over several lines. After a backslash at the end of a line,
  blanks and line breaks are skipped: `skipping`. -/
  | multiBasic (read : List Char) (skipping : Bool)
  /-- After a backslash, only blanks have been met, and a line break has to follow. -/
  | lineEnding (read : List Char)
  | multiLiteral (read : List Char)

/-- Whether `c` is a mark or a blank, which stands for itself and ends a word. -/
def isMark (c : Char) : Bool :=
  c == ' ' || c == '\t' || c == '.' || c == ',' || c == '=' || c == '[' || c == ']' ||
    c == '\x7b' || c == '\x7d'

/-- Whether `c` is a control character that may stand in no text or comment. -/
def isForbiddenControl (c : Char) : Bool := (c.toNat < 0x20 && c != '\t') || c.toNat == 0x7F

/-- The value of a hexadecimal digit. -/
def hexValue? (c : Char) : Option Nat :=
  if c.isDigit then some (c.toNat - '0'.toNat)
  else if 'a' ≤ c ∧ c ≤ 'f' then some (c.toNat - 'a'.toNat + 10)
  else if 'A' ≤ c ∧ c ≤ 'F' then some (c.toNat - 'A'.toNat + 10)
  else none

/-- The number that hexadecimal digits stand for. -/
def hexNumber? (digits : List Char) : Option Nat :=
  digits.foldlM (fun n c => (hexValue? c).map (n * 16 + ·)) 0

/-- The character with a hexadecimal number, unless it is none. -/
def escapedByNumber? (digits : List Char) : Option Char := do
  let n ← hexNumber? digits
  if n.isValidChar then some (Char.ofNat n) else none

/-- The character that a backslash and a letter stand for. -/
def escapedByLetter? : Char → Option Char
  | 'b' => some '\x08'
  | 't' => some '\t'
  | 'n' => some '\n'
  | 'f' => some '\x0c'
  | 'r' => some '\r'
  | 'e' => some '\x1b'
  | '"' => some '"'
  | '\\' => some '\\'
  | _ => none

/-- The text that was read last character first. -/
def textRead (read : List Char) : String := String.ofList read.reverse

/-- The tokens of the characters in a mode. -/
def lexFrom : Mode → List Char → Option (List Token)
  -- Outside quotes.
  | .plain, [] => some []
  | .plain, '\r' :: '\n' :: cs => (.newline :: ·) <$> lexFrom .plain cs
  | .plain, '\n' :: cs => (.newline :: ·) <$> lexFrom .plain cs
  | .plain, '#' :: cs => lexFrom .comment cs
  | .plain, '"' :: '"' :: '"' :: '\r' :: '\n' :: cs => lexFrom (.multiBasic [] false) cs
  | .plain, '"' :: '"' :: '"' :: '\n' :: cs => lexFrom (.multiBasic [] false) cs
  | .plain, '"' :: '"' :: '"' :: cs => lexFrom (.multiBasic [] false) cs
  | .plain, '"' :: cs => lexFrom (.basic []) cs
  | .plain, '\'' :: '\'' :: '\'' :: '\r' :: '\n' :: cs => lexFrom (.multiLiteral []) cs
  | .plain, '\'' :: '\'' :: '\'' :: '\n' :: cs => lexFrom (.multiLiteral []) cs
  | .plain, '\'' :: '\'' :: '\'' :: cs => lexFrom (.multiLiteral []) cs
  | .plain, '\'' :: cs => lexFrom (.literal []) cs
  | .plain, c :: cs =>
    if c == '\r' then none
    else (.char c :: ·) <$> lexFrom (if isMark c then .plain else .word) cs
  -- Words last to the next mark, blank, comment or end of a line.
  | .word, [] => some []
  | .word, '\r' :: '\n' :: cs => (.newline :: ·) <$> lexFrom .plain cs
  | .word, '\n' :: cs => (.newline :: ·) <$> lexFrom .plain cs
  | .word, '#' :: cs => lexFrom .comment cs
  | .word, c :: cs =>
    if c == '\r' then none
    else (.char c :: ·) <$> lexFrom (if isMark c then .plain else .word) cs
  -- Comments last to the end of the line.
  | .comment, [] => some []
  | .comment, '\r' :: '\n' :: cs => (.newline :: ·) <$> lexFrom .plain cs
  | .comment, '\n' :: cs => (.newline :: ·) <$> lexFrom .plain cs
  | .comment, c :: cs => if isForbiddenControl c then none else lexFrom .comment cs
  -- Basic texts.
  | .basic _, [] => none
  | .basic read, '"' :: cs => (.quoted (textRead read) false :: ·) <$> lexFrom .plain cs
  | .basic read, '\\' :: 'x' :: a :: b :: cs =>
    (escapedByNumber? [a, b]).bind fun c => lexFrom (.basic (c :: read)) cs
  | .basic read, '\\' :: 'u' :: a :: b :: c :: d :: cs =>
    (escapedByNumber? [a, b, c, d]).bind fun c => lexFrom (.basic (c :: read)) cs
  | .basic read, '\\' :: 'U' :: a :: b :: c :: d :: e :: f :: g :: h :: cs =>
    (escapedByNumber? [a, b, c, d, e, f, g, h]).bind fun c => lexFrom (.basic (c :: read)) cs
  | .basic read, '\\' :: c :: cs =>
    (escapedByLetter? c).bind fun c => lexFrom (.basic (c :: read)) cs
  | .basic read, c :: cs =>
    if isForbiddenControl c || c == '\\' then none else lexFrom (.basic (c :: read)) cs
  -- Literal texts.
  | .literal _, [] => none
  | .literal read, '\'' :: cs => (.quoted (textRead read) false :: ·) <$> lexFrom .plain cs
  | .literal read, c :: cs =>
    if isForbiddenControl c then none else lexFrom (.literal (c :: read)) cs
  -- Basic texts over several lines. Up to two quotes may stand right before the closing ones.
  | .multiBasic _ _, [] => none
  | .multiBasic read _, '"' :: '"' :: '"' :: '"' :: '"' :: cs =>
    (.quoted (textRead ('"' :: '"' :: read)) true :: ·) <$> lexFrom .plain cs
  | .multiBasic read _, '"' :: '"' :: '"' :: '"' :: cs =>
    (.quoted (textRead ('"' :: read)) true :: ·) <$> lexFrom .plain cs
  | .multiBasic read _, '"' :: '"' :: '"' :: cs =>
    (.quoted (textRead read) true :: ·) <$> lexFrom .plain cs
  | .multiBasic read _, '\\' :: 'x' :: a :: b :: cs =>
    (escapedByNumber? [a, b]).bind fun c => lexFrom (.multiBasic (c :: read) false) cs
  | .multiBasic read _, '\\' :: 'u' :: a :: b :: c :: d :: cs =>
    (escapedByNumber? [a, b, c, d]).bind fun c => lexFrom (.multiBasic (c :: read) false) cs
  | .multiBasic read _, '\\' :: 'U' :: a :: b :: c :: d :: e :: f :: g :: h :: cs =>
    (escapedByNumber? [a, b, c, d, e, f, g, h]).bind fun c =>
      lexFrom (.multiBasic (c :: read) false) cs
  | .multiBasic read _, '\\' :: '\r' :: '\n' :: cs => lexFrom (.multiBasic read true) cs
  | .multiBasic read _, '\\' :: c :: cs =>
    if c == '\n' then lexFrom (.multiBasic read true) cs
    else if c == ' ' || c == '\t' then lexFrom (.lineEnding read) cs
    else (escapedByLetter? c).bind fun c => lexFrom (.multiBasic (c :: read) false) cs
  | .multiBasic read skipping, '\r' :: '\n' :: cs =>
    lexFrom (.multiBasic (if skipping then read else '\n' :: '\r' :: read) skipping) cs
  | .multiBasic read skipping, c :: cs =>
    if c == '\n' || c == ' ' || c == '\t' then
      lexFrom (.multiBasic (if skipping then read else c :: read) skipping) cs
    else if isForbiddenControl c || c == '\\' then none
    else lexFrom (.multiBasic (c :: read) false) cs
  -- Between a backslash and the end of its line.
  | .lineEnding _, [] => none
  | .lineEnding read, '\r' :: '\n' :: cs => lexFrom (.multiBasic read true) cs
  | .lineEnding read, c :: cs =>
    if c == '\n' then lexFrom (.multiBasic read true) cs
    else if c == ' ' || c == '\t' then lexFrom (.lineEnding read) cs
    else none
  -- Literal texts over several lines.
  | .multiLiteral _, [] => none
  | .multiLiteral read, '\'' :: '\'' :: '\'' :: '\'' :: '\'' :: cs =>
    (.quoted (textRead ('\'' :: '\'' :: read)) true :: ·) <$> lexFrom .plain cs
  | .multiLiteral read, '\'' :: '\'' :: '\'' :: '\'' :: cs =>
    (.quoted (textRead ('\'' :: read)) true :: ·) <$> lexFrom .plain cs
  | .multiLiteral read, '\'' :: '\'' :: '\'' :: cs =>
    (.quoted (textRead read) true :: ·) <$> lexFrom .plain cs
  | .multiLiteral read, '\r' :: '\n' :: cs => lexFrom (.multiLiteral ('\n' :: '\r' :: read)) cs
  | .multiLiteral read, c :: cs =>
    if isForbiddenControl c && c != '\n' then none else lexFrom (.multiLiteral (c :: read)) cs

/-- The tokens of a document. A byte order mark at the start is skipped. -/
def lex (text : String) : Option (List Token) :=
  match text.toList with
  | '\uFEFF' :: cs => lexFrom .plain cs
  | cs => lexFrom .plain cs

end BuilderGen.Toml
