/-!
# Arguments

What the words behind the program's name ask for. Options come before the command they belong to
and may be given once; a value stands in the same word behind an equals sign, or in the next word if
that does not look like an option itself.
-/
namespace BuildingEmulation.CommandLine

/-- What the program can be told to do. -/
inductive Command
  | serve
  /-- Run the scenario and write what comes of it to a directory. -/
  | run (output : String)
  | checkMetadata (file : String)
  deriving Repr, DecidableEq

/-- What the program can explain. -/
inductive Topic
  | program
  | serve
  | run
  | checkMetadata
  | help
  deriving Repr, DecidableEq

inductive Invocation
  | execute (config : Option String) (command : Command)
  | explain (topic : Topic)
  | showVersion
  deriving Repr, DecidableEq

/-! ## Words -/

/-- A word on the command line. -/
inductive Argument
  /-- Whatever follows is no option. -/
  | separator
  | long (name : String) (value : Option String)
  | short (flag : Char)
  | word (text : String)
  deriving Repr, DecidableEq

def Argument.ofText (s : String) : Argument :=
  match s.toList with
  | ['-', '-'] => .separator
  | '-' :: '-' :: rest =>
    let name := String.ofList (rest.takeWhile (· ≠ '='))
    match rest.dropWhile (· ≠ '=') with
    | [] => .long name none
    | _ :: value => .long name (some (String.ofList value))
  | '-' :: flag :: _ => .short flag
  | _ => .word s

/-- The value of an option, from its own word or the next one, and the words behind it. -/
def value? : Option String → List String → Option (String × List String)
  | some value, rest => if value.isEmpty then none else some (value, rest)
  | none, value :: rest =>
    match Argument.ofText value with
    | .word text => if text.isEmpty then none else some (text, rest)
    | _ => none
  | none, [] => none

/-! ## Commands -/

/-- Where results go if nothing else is said. -/
def defaultOutput : String := "target/run"

/-- What is asked of the serving command. -/
def parseServe (config : Option String) : List String → Option Invocation
  | [] => some (.execute config .serve)
  | arg :: rest =>
    match Argument.ofText arg with
    | .long "help" none | .short 'h' => some (.explain .serve)
    | .separator => if rest.isEmpty then some (.execute config .serve) else none
    | _ => none

/-- What is asked of the running command, given the output named so far. -/
def parseRun (config output : Option String) : Nat → List String → Option Invocation
  | 0, _ => none
  | _ + 1, [] => some (.execute config (.run (output.getD defaultOutput)))
  | fuel + 1, arg :: rest =>
    match Argument.ofText arg with
    | .long "help" none | .short 'h' => some (.explain .run)
    | .long "output" value => do
      let (value, rest) ← value? value rest
      if output.isSome then none else parseRun config (some value) fuel rest
    | .separator =>
      if rest.isEmpty then some (.execute config (.run (output.getD defaultOutput))) else none
    | _ => none

/-- What is asked of the checking command, given the file named so far and whether options have
come to an end. -/
def parseCheck (config file : Option String) (isPlain : Bool) : List String → Option Invocation
  | [] => file.map fun file => .execute config (.checkMetadata file)
  | arg :: rest =>
    match if isPlain then .word arg else Argument.ofText arg with
    | .long "help" none | .short 'h' => some (.explain .checkMetadata)
    | .separator => parseCheck config file true rest
    | .word text =>
      if text.isEmpty || file.isSome then none else parseCheck config (some text) isPlain rest
    | _ => none

/-- The topic that a request for help names. -/
def parseHelp : List String → Option Topic
  | [] => some .program
  | ["serve"] => some .serve
  | ["run"] => some .run
  | ["check-metadata"] => some .checkMetadata
  | ["help"] => some .help
  | _ => none

/-- What is asked of the program, given the configuration named so far. -/
def parseProgram (config : Option String) : Nat → List String → Option Invocation
  | 0, _ => none
  | _ + 1, [] => some (.execute config .serve)
  | fuel + 1, arg :: rest =>
    match Argument.ofText arg with
    | .long "help" none | .short 'h' => some (.explain .program)
    | .long "version" none | .short 'V' => some .showVersion
    | .long "config" value => do
      let (value, rest) ← value? value rest
      if config.isSome then none else parseProgram (some value) fuel rest
    | .separator => if rest.isEmpty then some (.execute config .serve) else none
    | .word "serve" => parseServe config rest
    | .word "run" => parseRun config none (rest.length + 1) rest
    | .word "check-metadata" => parseCheck config none false rest
    | .word "help" => (parseHelp rest).map .explain
    | _ => none

/-- What arguments ask for, if they are used as they should be. -/
def parse? (args : List String) : Option Invocation := parseProgram none (args.length + 1) args

end BuildingEmulation.CommandLine
