import BuilderGen.CommandLine.Arguments

/-!
# BuilderGen.CommandLine.Reading

**Reading a command line**, word by word.

A value that is given in a word of its own is looked at late: when the next option or
operand is known, or when the words end. So an unknown word is reported before a
value that came earlier and is wrong, and a known option is reported after it.

Behind two dashes that stand alone all words are operands.
-/

namespace BuilderGen

/-- What a word looks like. -/
inductive Word
  /-- Two dashes that stand alone. -/
  | escape
  /-- A parameter by its name, with a value behind an equals sign if there is one. -/
  | long (name : String) (value : Option String)
  /-- Parameters by their letters; a value may follow in the same word. -/
  | short (letters : List Char)
  | plain (text : String)
  deriving DecidableEq, Repr

/-- What a word looks like. One dash alone is plain. -/
def Word.ofText (text : String) : Word :=
  match text.toList with
  | ['-'] => .plain text
  | ['-', '-'] => .escape
  | '-' :: '-' :: rest =>
    match rest.span (· != '=') with
    | (name, []) => .long (String.ofList name) none
    | (name, _ :: value) => .long (String.ofList name) (some (String.ofList value))
  | '-' :: letters => .short letters
  | _ => .plain text

/-- What a value is for. -/
inductive Receiver
  | parameter (p : Parameter)
  | operand (o : Operand)
  deriving DecidableEq, Repr

/-- A value that has not been looked at, or is still to come. -/
structure Pending where
  receiver : Receiver
  value : Option String := none
  deriving DecidableEq, Repr

/-- What has been read of a command line. -/
structure Reading where
  arguments : Arguments := {}
  pending : Option Pending := none
  /-- The operands that can still be given. -/
  operands : List Operand := []
  /-- Whether all words are operands now. -/
  escaped : Bool := false
  deriving DecidableEq, Repr

namespace Reading

/-- Looks at the pending value. -/
def settle (r : Reading) : Except Refusal Reading :=
  match r.pending with
  | none => .ok r
  | some { receiver := _, value := none } => .error .invalidValue
  | some { receiver := .parameter p, value := some value } => do
    return { r with arguments := ← r.arguments.give value p, pending := none }
  | some { receiver := .operand o, value := some value } => do
    return { r with arguments := ← r.arguments.giveOperand value o, pending := none }

/-- Gives a parameter with the value in the same word, or one that takes none. -/
def give (r : Reading) (p : Parameter) (value : String) : Except Refusal Reading := do
  let r ← r.settle
  return { r with arguments := ← r.arguments.give value p }

/-- Waits for the value of a parameter. -/
def await (r : Reading) (p : Parameter) : Except Refusal Reading := do
  let r ← r.settle
  return { r with pending := some { receiver := .parameter p } }

/-- Reads parameters by their letters. The rest of the word behind one that takes a
value is that value; an equals sign before it is dropped. -/
def short (parameters : List Parameter) (r : Reading) : List Char → Except Refusal Reading
  | [] => .ok r
  | c :: rest =>
    match parameters.find? (·.short? == some c) with
    | none => .error .unknownArgument
    | some p =>
      if p.takesValue then
        match rest with
        | [] => r.await p
        | '=' :: value => r.give p (String.ofList value)
        | value => r.give p (String.ofList value)
      else do
        let r ← r.give p ""
        r.short parameters rest

/-- Reads a parameter by its name. -/
def long (parameters : List Parameter) (r : Reading) (name : String) (value : Option String) :
    Except Refusal Reading :=
  match parameters.find? (·.long == name) with
  | none => .error .unknownArgument
  | some p =>
    match p.takesValue, value with
    | true, some value => r.give p value
    | true, none => r.await p
    | false, some _ => .error .surplusValue
    | false, none => r.give p ""

/-- Reads an operand. -/
def operand (r : Reading) (text : String) : Except Refusal Reading :=
  match r.operands with
  | [] => .error .unknownArgument
  | o :: rest => do
    let r ← r.settle
    return { r with operands := rest, pending := some { receiver := .operand o, value := some text } }

/-- Reads a word that is no option: the value that is waited for, or an operand. -/
def plain (r : Reading) (text : String) : Except Refusal Reading :=
  match r.pending with
  | some { receiver, value := none } =>
    .ok { r with pending := some { receiver, value := some text } }
  | _ => r.operand text

/-- Reads a word. -/
def word (parameters : List Parameter) (r : Reading) (text : String) : Except Refusal Reading :=
  if r.escaped then r.operand text
  else
    match Word.ofText text with
    | .escape => .ok { r with escaped := true }
    | .long name value => r.long parameters name value
    | .short letters => r.short parameters letters
    | .plain text => r.plain text

end Reading

/-- Reads the words behind the name of a command. -/
def CommandName.read (name : CommandName) (words : List String) : Except Refusal Command := do
  let r ← words.foldlM (Reading.word name.parameters) { operands := name.operands }
  let r ← r.settle
  r.arguments.command name

namespace Command

/-- The word that asks for help. -/
def helpWord : String := "help"

/-- Whether a word can stand where a command is named. -/
def isNamed (word : String) : Bool := word == helpWord || (CommandName.ofWord? word).isSome

/-- The answer to words behind the one that asks for help: they may name one command. -/
def helpOn : List String → Refusal
  | [] => .help
  | [word] => if isNamed word then .help else .unknownCommand
  | _ => .unknownCommand

/-- Reads a command line, where `r` has been read of the words before the name of the
command. -/
def readFrom (r : Reading) : List String → Except Refusal Command
  | [] => .error (if r.arguments.verbosity = 0 then .empty else .missingCommand)
  | text :: rest =>
    if r.escaped then .error (if isNamed text then .unknownArgument else .unknownCommand)
    else if text = helpWord then .error (helpOn rest)
    else
      match CommandName.ofWord? text, Word.ofText text with
      | some name, _ => name.read rest
      | none, .plain _ => .error .unknownCommand
      | none, _ => do readFrom (← r.word Parameter.general text) rest

/-- The command that a command line names. -/
def read (words : List String) : Except Refusal Command := readFrom {} words

end Command
end BuilderGen
