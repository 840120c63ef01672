import Admission.Text.Split

/-!
# Options of a command line

Arguments are read from the first to the last.  An option of a known name takes its value after an
equals sign or from the next argument, unless that looks like an option itself; it may be given once
only, and a switch takes no value.  The first argument that is neither ends the options: it is the
name of a command, if there are any.  Reading stops at the first fault, or where help is asked for,
whichever comes first.

A value from the next argument is checked late: when the next option comes, or the end.  An argument
that is not expected is a fault before that.

An option that is not given may get its value from the environment.

Of what is said of a fault only the first line is kept.  The hints and the usage that follow are left
out, and so is the help.

## Main results

* `Spec.read_cons_command`: options are read up to the name of a command.
-/

namespace Admission.Cli

open Admission.Text

/-- The variables of the environment. -/
abbrev Environment := String → Option String

/-! ## Faults -/

/-- What is wrong with a command line, or with a value from the environment.  Options are given by
the text that stands for them. -/
inductive Fault where
  /-- An argument that is not expected; of an option, its name alone. -/
  | unexpected (arg : String)
  | repeated (option : String)
  /-- A value for an option that takes none. -/
  | needless (option value : String)
  | noValue (option : String)
  | badValue (option value reason : String)
  /-- Two options that exclude each other, the first given first. -/
  | conflict (option other : String)
  | notProvided
  | unknownCommand (name : String)
  | noCommand (program : String)
  deriving DecidableEq, Repr

/-- What is said of a fault. -/
def Fault.text : Fault → String
  | .unexpected arg => "unexpected argument '" ++ arg ++ "' found"
  | .repeated option => "the argument '" ++ option ++ "' cannot be used multiple times"
  | .needless option value =>
    "unexpected value '" ++ value ++ "' for '" ++ option ++ "' found; no more were expected"
  | .noValue option => "a value is required for '" ++ option ++ "' but none was supplied"
  | .badValue option value reason =>
    "invalid value '" ++ value ++ "' for '" ++ option ++ "': " ++ reason
  | .conflict option other => "the argument '" ++ option ++ "' cannot be used with '" ++ other ++ "'"
  | .notProvided => "the following required arguments were not provided:"
  | .unknownCommand name => "unrecognized subcommand '" ++ name ++ "'"
  | .noCommand program => "'" ++ program ++ "' requires a subcommand but one was not provided"

/-- Why a program does not start its work. -/
inductive Stop where
  /-- It told of itself, as it was asked to. -/
  | told
  /-- It told of itself, as it was given nothing to do. -/
  | idle
  /-- It cannot be used like that. -/
  | usage (fault : Fault)
  deriving DecidableEq, Repr

/-- The exit code of a program that stops. -/
def Stop.exitCode : Stop → Nat
  | .told => 0
  | .idle => 2
  | .usage _ => 2

/-- The line in which a program that stops says what is wrong. -/
def Stop.line? : Stop → Option String
  | .usage fault => some ("error: " ++ fault.text)
  | _ => none

/-! ## Arguments -/

/-- How an argument reads where no value is due. -/
inductive Word where
  /-- `--name` or `--name=value`. -/
  | long (name : String) (value : Option String)
  /-- A dash and letters, of which the first counts. -/
  | short (letter : Char)
  /-- Two dashes, after which nothing is an option. -/
  | terminator
  | plain
  deriving DecidableEq, Repr

/-- How an argument reads. -/
def Word.ofChars : List Char → Word
  | ['-', '-'] => .terminator
  | '-' :: '-' :: cs =>
    let (name, value) := splitFirst '=' cs
    .long (String.ofList name) (value.map String.ofList)
  | '-' :: c :: _ => .short c
  | _ => .plain

/-- How an argument reads. -/
def Word.ofArg (arg : String) : Word := ofChars arg.toList

/-- What an option takes: nothing, or a value, where a reason can speak against one.  A program that
is given an option of the second kind tells of itself, and stops. -/
inductive Arity where
  | switch
  | telling
  | value (objection? : String → Option String)

/-- An option. -/
structure Opt where
  name : String
  letter? : Option Char
  arity : Arity

/-- The text that stands for an option, with a name for its value. -/
def Opt.text (o : Opt) : String :=
  match o.arity with
  | .value _ =>
    let valueName := o.name.toList.map fun c => if c = '-' then '_' else c.toUpper
    "--" ++ o.name ++ " <" ++ String.ofList valueName ++ ">"
  | _ => "--" ++ o.name

/-- The option that asks for help. -/
def helpOpt : Opt := ⟨"help", some 'h', .telling⟩

/-- The option that asks for the version. -/
def versionOpt : Opt := ⟨"version", some 'V', .telling⟩

/-- What a program or one of its commands takes. -/
structure Spec where
  options : List Opt
  /-- The names of its own commands. -/
  commands : List String

/-- The options given, with their values; the last one first. -/
abbrev Given := List (String × String)

/-- What speaks against a value of an option. -/
def Opt.objection? (o : Opt) (value : String) : Option String :=
  match o.arity with
  | .value objection? => objection? value
  | _ => none

/-- Give an option a value, which is of no account if it takes none. -/
def Opt.give (o : Opt) (value : String) (given : Given) : Except Stop Given :=
  if (given.lookup o.name).isSome then .error (.usage (.repeated o.text))
  else
    match o.objection? value with
    | some reason => .error (.usage (.badValue o.text value reason))
    | none => .ok ((o.name, value) :: given)

/-- Where reading is. -/
structure Reading where
  given : Given
  /-- An option that waits for its value, or has one that is not checked yet. -/
  pending : Option (Opt × Option String)

namespace Reading

/-- Nothing is read. -/
def start : Reading := ⟨[], none⟩

/-- Check what is pending. -/
def settle (r : Reading) : Except Stop Given :=
  match r.pending with
  | none => .ok r.given
  | some (o, none) => .error (.usage (.noValue o.text))
  | some (o, some value) => o.give value r.given

/-- An option comes, with the value that is attached to it. -/
def take (r : Reading) (o : Opt) (attached : Option String) : Except Stop Reading :=
  match o.arity, attached with
  | .value _, some value => do return ⟨← o.give value (← r.settle), none⟩
  | .value _, none => do return ⟨← r.settle, some (o, none)⟩
  | .switch, none => do return ⟨← o.give "" (← r.settle), none⟩
  | .telling, none => r.settle >>= fun _ => .error .told
  | _, some value => .error (.usage (.needless o.text value))

end Reading

namespace Spec

/-- What is wrong with an argument that is neither an option nor a value.  The name of a command gets
here only after two dashes. -/
def stray (spec : Spec) (arg : String) : Fault :=
  if spec.commands = [] ∨ arg ∈ spec.commands then .unexpected arg else .unknownCommand arg

/-- Read options; what remains starts with the name of a command. -/
def read (spec : Spec) (r : Reading) : List String → Except Stop (Reading × List String)
  | [] => .ok (r, [])
  | arg :: args =>
    match Word.ofArg arg with
    | .plain =>
      match r.pending with
      | some (o, none) => read spec { r with pending := some (o, some arg) } args
      | _ =>
        if arg ∈ spec.commands then .ok (r, arg :: args) else .error (.usage (spec.stray arg))
    | .terminator =>
      match args.head? with
      | none => .ok (r, [])
      | some next => .error (.usage (spec.stray next))
    | .short letter =>
      match spec.options.find? fun o => o.letter? == some letter with
      | none => .error (.usage (.unexpected ("-" ++ letter.toString)))
      | some o => r.take o none >>= fun r => read spec r args
    | .long name attached =>
      match spec.options.find? fun o => o.name == name with
      | none => .error (.usage (.unexpected ("--" ++ name)))
      | some o => r.take o attached >>= fun r => read spec r args

/-- Options are read up to the name of a command, unless it is the value of one. -/
theorem read_cons_command (spec : Spec) (given : Given) {name : String} (args : List String)
    (hPlain : Word.ofArg name = .plain) (hCommand : name ∈ spec.commands) :
    spec.read ⟨given, none⟩ (name :: args) = .ok (⟨given, none⟩, name :: args) := by
  rw [read.eq_2, hPlain]
  exact if_pos hCommand

end Spec

/-! ## Typed options -/

/-- An option whose values stand for something. -/
structure Param (α : Type) where
  name : String
  /-- The variable of the environment that holds its value. -/
  envName? : Option String
  /-- What a value stands for, or why it stands for nothing. -/
  parse : String → Except String α

namespace Param

variable {α : Type}

/-- What speaks against a value. -/
def objection? (p : Param α) (s : String) : Option String :=
  match p.parse s with
  | .ok _ => none
  | .error reason => some reason

/-- The option itself. -/
def opt (p : Param α) : Opt := ⟨p.name, none, .value p.objection?⟩

/-- What a value stands for. -/
def ofValue (p : Param α) (s : String) : Except Stop α :=
  (p.parse s).mapError fun reason => .usage (.badValue p.opt.text s reason)

/-- The value of an option: as given, or else from the environment. -/
def value (p : Param α) (env : Environment) (given : Given) : Except Stop (Option α) :=
  match given.lookup p.name with
  | some s => (p.ofValue s).map some
  | none =>
    match p.envName?.bind env with
    | some s => (p.ofValue s).map some
    | none => .ok none

/-- The value of an option that must have one. -/
def required (p : Param α) (env : Environment) (given : Given) : Except Stop α := do
  match ← p.value env given with
  | some a => return a
  | none => throw (.usage .notProvided)

end Param

/-- A text, as an option that only the command line gives. -/
def textParam (name : String) : Param String := ⟨name, none, .ok⟩

end Admission.Cli
