import BuilderGen.Toml.Scalar
import BuilderGen.Toml.Table

/-!
# BuilderGen.Toml.Statement

**Statements**: the lines a document consists of, read from its tokens. A
statement is a header, a header of a list of tables, or an assignment of a value
to a key.

Design points:

* The reader is a pushdown machine that takes one token at a time (`step`), so a
  document is read by a fold over its tokens, and reading one text after another
  is reading their tokens one after another.
* The stack holds the values that are still open: lists with the items read so
  far, inline tables with the entries read so far, and at the bottom the
  assignment the value is for.
* What is expected next is the machine's `State`. A token that is not expected
  stops the machine; nothing is said about why.
* A scalar without quotes lasts to the next mark, line break or comment, so that a
  date and a time may have a space between them. Only the blanks right before its
  end are not part of it, which is why they are held apart until more follows.
-/

namespace BuilderGen.Toml

/-- A line of a document, or several lines if a value extends over them. -/
inductive Statement
  /-- `[path]`: the assignments that follow are for this table. -/
  | header (path : List String)
  /-- `[[path]]`: the assignments that follow are for one more table of this list. -/
  | itemHeader (path : List String)
  /-- `key = value`. -/
  | assignment (key : List String) (value : Value)

/-- A value that is still open, and what it is for. -/
inductive Frame
  | assignment (key : List String)
  /-- A list and its items so far, last one first. -/
  | list (items : List Value)
  /-- An inline table, its entries so far, and the key whose value is being read. -/
  | table (entries : Entries) (key : List String)

/-- What a key is for. -/
inductive KeyUse
  | assignment
  | member
  | header
  | itemHeader
  deriving DecidableEq

/-- How much of the current part of a dotted key has been read. -/
inductive KeyPart
  /-- Nothing. -/
  | start
  /-- Some characters without quotes, last one first. -/
  | bare (read : List Char)
  /-- All of it. -/
  | complete (part : String)

/-- What the machine expects next. -/
inductive State
  /-- A statement, or an empty line. -/
  | line
  /-- The rest of a header, after one bracket. -/
  | header
  /-- The rest of a dotted key, after the parts `before`. -/
  | key (use : KeyUse) (before : List String) (part : KeyPart)
  /-- The second bracket that closes the header of a list of tables. -/
  | headerEnd (path : List String)
  /-- The equals sign behind the key of an inline table, on another line. -/
  | memberEquals (key : List String)
  /-- The end of the line. -/
  | lineEnd
  /-- A value. -/
  | value
  /-- More of a scalar. What was read of it is held last character first, and so are
  the blanks behind that. -/
  | scalar (read blanks : List Char)
  /-- A comma or the end of a list. -/
  | afterItem
  /-- A key or the end of an inline table. -/
  | member
  /-- A comma or the end of an inline table. -/
  | afterMember

/-- The machine: the statements so far, last one first, the open values, innermost
first, and what is expected next. -/
structure Machine where
  statements : List Statement := []
  stack : List Frame := []
  state : State := .line

/-- How deep lists and inline tables nest. -/
def maxNesting : Nat := 80

/-- How many parts a key has at most. -/
def maxKeyParts : Nat := 80

/-- Whether `c` may stand in a key without quotes. -/
def isBareKeyChar (c : Char) : Bool := c.isAlphanum || c == '_' || c == '-'

/-- Whether `c` is a blank within a line. -/
def isInlineBlank (c : Char) : Bool := c == ' ' || c == '\t'

namespace Machine

/-- Expects something else. -/
def expect (m : Machine) (state : State) : Machine := { m with state }

/-- Completes a statement. -/
def complete (m : Machine) (statement : Statement) : Machine :=
  { statements := statement :: m.statements, stack := [], state := .lineEnd }

/-- Opens a list or an inline table. -/
def openFrame? (m : Machine) (frame : Frame) (state : State) : Option Machine :=
  if m.stack.length ≤ maxNesting then some { m with stack := frame :: m.stack, state } else none

/-- Gives a complete value to the innermost open value. -/
def give? (m : Machine) (value : Value) : Option Machine :=
  match m.stack with
  | .assignment key :: _ => some (m.complete (.assignment key value))
  | .list items :: rest => some { m with stack := .list (value :: items) :: rest, state := .afterItem }
  | .table entries key :: rest =>
    (assign? key value .inline entries).map fun entries =>
      { m with stack := .table entries [] :: rest, state := .afterMember }
  | [] => none

/-- Closes the innermost open value, which has to be a list. -/
def closeList? (m : Machine) : Option Machine :=
  match m.stack with
  | .list items :: rest => { m with stack := rest }.give? (.list items.reverse)
  | _ => none

/-- Closes the innermost open value, which has to be an inline table. -/
def closeTable? (m : Machine) : Option Machine :=
  match m.stack with
  | .table entries _ :: rest => { m with stack := rest }.give? (.table .inline entries)
  | _ => none

/-- Whether the innermost open value stands between brackets or braces, where line
breaks mean nothing. -/
def isEnclosed (m : Machine) : Bool :=
  match m.stack with
  | .list _ :: _ | .table _ _ :: _ => true
  | _ => false

/-- Ends a key at a character. -/
def endKey? (m : Machine) (use : KeyUse) (key : List String) (c : Char) : Option Machine :=
  match use, m.stack with
  | .assignment, _ => if c = '=' then some { m with stack := [.assignment key], state := .value } else none
  | .member, .table entries _ :: rest =>
    if c = '=' then some { m with stack := .table entries key :: rest, state := .value } else none
  | .member, _ => none
  | .header, _ => if c = ']' then some (m.complete (.header key)) else none
  | .itemHeader, _ => if c = ']' then some (m.expect (.headerEnd key)) else none

/-- Goes on to the next part of a dotted key after the parts `before`. -/
def nextPart? (m : Machine) (use : KeyUse) (before : List String) : Option Machine :=
  if before.length < maxKeyParts then some (m.expect (.key use before .start)) else none

/-- Ends a key at a line break, which an inline table allows. -/
def breakKey? (m : Machine) (use : KeyUse) (key : List String) : Option Machine :=
  if use = .member then some (m.expect (.memberEquals key)) else none

/-- Takes a token of a dotted key. -/
def stepKey? (m : Machine) (use : KeyUse) (before : List String) (part : KeyPart) :
    Token → Option Machine
  | .newline =>
    match part with
    | .start => none
    | .bare read => m.breakKey? use (before ++ [textRead read])
    | .complete part => m.breakKey? use (before ++ [part])
  | .quoted value multiline =>
    match part with
    | .start => if multiline then none else some (m.expect (.key use before (.complete value)))
    | _ => none
  | .char c =>
    match part with
    | .start =>
      if isInlineBlank c then some (m.expect (.key use before .start))
      else if isBareKeyChar c then some (m.expect (.key use before (.bare [c])))
      else none
    | .bare read =>
      if isBareKeyChar c then some (m.expect (.key use before (.bare (c :: read))))
      else if isInlineBlank c then some (m.expect (.key use before (.complete (textRead read))))
      else if c = '.' then m.nextPart? use (before ++ [textRead read])
      else m.endKey? use (before ++ [textRead read]) c
    | .complete part =>
      if isInlineBlank c then some (m.expect (.key use before (.complete part)))
      else if c = '.' then m.nextPart? use (before ++ [part])
      else m.endKey? use (before ++ [part]) c

/-- Takes a token after a complete value. -/
def stepAfter? (m : Machine) (token : Token) : Option Machine :=
  match m.state, token with
  | .lineEnd, .newline => some (m.expect .line)
  | .lineEnd, .char c => if isInlineBlank c then some m else none
  | .afterItem, .newline => some m
  | .afterItem, .char c =>
    if isInlineBlank c then some m
    else if c = ',' then some (m.expect .value)
    else if c = ']' then m.closeList?
    else none
  | .afterMember, .newline => some m
  | .afterMember, .char c =>
    if isInlineBlank c then some m
    else if c = ',' then some (m.expect .member)
    else if c = '\x7d' then m.closeTable?
    else none
  | _, _ => none

/-- Ends a scalar and takes the token behind it. -/
def endScalar? (m : Machine) (read : List Char) (token : Token) : Option Machine := do
  let value ← scalar? read.reverse
  let m ← m.give? value
  m.stepAfter? token

/-- Whether `c` is a mark that ends a scalar. -/
def isScalarEnd (c : Char) : Bool :=
  c == ',' || c == '=' || c == '[' || c == ']' || c == '\x7b' || c == '\x7d'

/-- Takes the first token of a value. -/
def stepValue? (m : Machine) : Token → Option Machine
  | .newline => if m.isEnclosed then some m else none
  | .quoted value _ => m.give? (.text value)
  | .char c =>
    if isInlineBlank c then some m
    else if c = '[' then m.openFrame? (.list []) .value
    else if c = '\x7b' then m.openFrame? (.table [] []) .member
    else if c = ']' then m.closeList?
    else if isScalarEnd c then none
    else some (m.expect (.scalar [c] []))

/-- Takes a token. -/
def step (m : Machine) (token : Token) : Option Machine :=
  match m.state with
  | .line =>
    match token with
    | .newline => some m
    | .char '[' => some (m.expect .header)
    | token =>
      if token matches .char ' ' | .char '\t' then some m else m.stepKey? .assignment [] .start token
  | .header =>
    match token with
    | .char '[' => some (m.expect (.key .itemHeader [] .start))
    | token => m.stepKey? .header [] .start token
  | .key use before part => m.stepKey? use before part token
  | .headerEnd path =>
    match token with
    | .char ']' => some (m.complete (.itemHeader path))
    | _ => none
  | .memberEquals key =>
    match token with
    | .newline => some m
    | .char c => if isInlineBlank c then some m else m.endKey? .member key c
    | .quoted _ _ => none
  | .value => m.stepValue? token
  | .scalar read blanks =>
    match token with
    | .char c =>
      if isInlineBlank c then some (m.expect (.scalar read (c :: blanks)))
      else if isScalarEnd c then m.endScalar? read token
      else some (m.expect (.scalar (c :: (blanks ++ read)) []))
    | .newline => m.endScalar? read token
    | .quoted _ _ => none
  | .member =>
    match token with
    | .newline => some m
    | .char '\x7d' => m.closeTable?
    | token =>
      if token matches .char ' ' | .char '\t' then some m else m.stepKey? .member [] .start token
  | .lineEnd | .afterItem | .afterMember => m.stepAfter? token

end Machine

/-- The statements of a document. The end of the document ends its last line. -/
def statements? (tokens : List Token) : Option (List Statement) := do
  let m ← (tokens ++ [Token.newline]).foldlM Machine.step {}
  match m.state with
  | .line => some m.statements.reverse
  | _ => none

end BuilderGen.Toml
