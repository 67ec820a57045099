-- SUMMARY: What the arguments of the program ask for.
/-!
# Command lines

What the arguments of the program ask for. Options are given in long or short form, with their value
attached or as the next argument; flags in short form may stand in one argument, an option behind
them. Arguments are taken from the left, so that an argument that ends the reading hides what comes
after it.
-/

namespace FirmwareGen.Command

/-- What is generated from a configuration. -/
inductive Target
  | modulators | board
  deriving DecidableEq, Repr

inductive Request
  | generate (target : Target) (config outDir : String) (check : Bool)
  | importDesign (design : String) (output : Option String)
  deriving DecidableEq, Repr

structure Invocation where
  verbose : Bool
  request : Request
  deriving DecidableEq, Repr

/-- Where the reading of the arguments leads. -/
inductive Reading
  | invoke (invocation : Invocation)
  | showVersion
  | showHelp
  | misuse
  deriving DecidableEq, Repr

/-! ## Options -/

/-- What an option is for. -/
inductive Purpose
  | verbose | version | help | check | config | outDir | design | output
  deriving DecidableEq, Repr

/-- An option of a command. -/
structure Choosable where
  purpose : Purpose
  long : String
  short : Option Char
  takesValue : Bool
  deriving DecidableEq, Repr

def verboseFlag : Choosable := ⟨.verbose, "verbose", some 'v', false⟩
def versionFlag : Choosable := ⟨.version, "version", some 'V', false⟩
def helpFlag : Choosable := ⟨.help, "help", some 'h', false⟩

/-- The options in front of the name of a command. -/
def topOptions : List Choosable := [verboseFlag, versionFlag, helpFlag]

def generateOptions : List Choosable :=
  [⟨.config, "config", some 'c', true⟩, ⟨.outDir, "out-dir", some 'o', true⟩,
   ⟨.check, "check", none, false⟩, verboseFlag, helpFlag]

def importOptions : List Choosable :=
  [⟨.design, "design", some 'd', true⟩, ⟨.output, "output", some 'o', true⟩, verboseFlag, helpFlag]

/-- The options that have been given, with their values. -/
abbrev Given := List (Purpose × String)

/-- Why reading stops before the last argument. -/
inductive Stop
  | version | help | misuse
  deriving DecidableEq, Repr

/-- Takes note of an option. The flags that show something stop at once; no option is given twice,
    and no value is empty. -/
def note (given : Given) (option : Choosable) (value : String) : Except Stop Given :=
  match option.purpose with
  | .version => .error .version
  | .help => .error .help
  | purpose =>
    if (given.lookup purpose).isSome then .error .misuse
    else if option.takesValue && value == "" then .error .misuse
    else .ok (given ++ [(purpose, value)])

/-- What an argument does: it is taken whole, or its option waits for the next argument. -/
inductive Taken
  | complete (given : Given)
  | waiting (given : Given) (option : Choosable)

/-- Takes an argument in long form, without its hyphens. -/
def takeLong (options : List Choosable) (given : Given) (text : List Char) : Except Stop Taken :=
  let name := String.ofList (text.takeWhile (· != '='))
  let attached := text.dropWhile (· != '=')
  match options.find? (·.long == name) with
  | none => .error .misuse
  | some option =>
    match option.takesValue, attached with
    | false, [] => (note given option "").map .complete
    | false, _ :: _ => .error .misuse
    | true, [] => .ok (.waiting given option)
    | true, _ :: value => (note given option (String.ofList value)).map .complete

/-- Takes the letters of an argument in short form. -/
def takeShort (options : List Choosable) (given : Given) : List Char → Except Stop Taken
  | [] => .ok (.complete given)
  | c :: rest =>
    match options.find? (·.short == some c) with
    | none => .error .misuse
    | some option =>
      if option.takesValue then
        match rest with
        | [] => .ok (.waiting given option)
        | '=' :: value => (note given option (String.ofList value)).map .complete
        | value => (note given option (String.ofList value)).map .complete
      else
        match note given option "" with
        | .error stop => .error stop
        | .ok given => takeShort options given rest

/-- Whether an argument cannot be the value of an option in front of it. -/
def looksLikeOption (argument : String) : Bool :=
  match argument.toList with
  | '-' :: _ :: _ => true
  | _ => false

/-- Takes an argument that starts with a hyphen. -/
def takeArgument (options : List Choosable) (given : Given) (argument : String) :
    Except Stop Taken :=
  match argument.toList with
  | '-' :: '-' :: text => takeLong options given text
  | '-' :: c :: letters => takeShort options given (c :: letters)
  | _ => .error .misuse

/-- Reads the arguments behind the name of a command; an option may wait for its value. Two hyphens
    end the options, and no command takes anything else. -/
def readOptions (options : List Choosable) : Given → Option Choosable → List String →
    Except Stop Given
  | given, none, [] => .ok given
  | _, some _, [] => .error .misuse
  | given, some option, value :: rest =>
    if looksLikeOption value then .error .misuse
    else
      match note given option value with
      | .error stop => .error stop
      | .ok given => readOptions options given none rest
  | given, none, argument :: rest =>
    if argument = "--" then if rest.isEmpty then .ok given else .error .misuse
    else
      match takeArgument options given argument with
      | .error stop => .error stop
      | .ok (.complete given) => readOptions options given none rest
      | .ok (.waiting given option) => readOptions options given (some option) rest

/-! ## Commands -/

def Stop.reading : Stop → Reading
  | .version => .showVersion
  | .help => .showHelp
  | .misuse => .misuse

def isGiven (given : Given) (purpose : Purpose) : Bool := (given.lookup purpose).isSome

/-- The request of a generating command: the configuration must be given, the directory is the
    current one unless it is given. -/
def generateRequest? (target : Target) (given : Given) : Option Request :=
  (given.lookup .config).map fun config =>
    .generate target config ((given.lookup .outDir).getD ".") (isGiven given .check)

def importRequest? (given : Given) : Option Request :=
  (given.lookup .design).map fun design => .importDesign design (given.lookup .output)

/-- Reads the arguments of a command and makes its request. -/
def readRequest (verbose : Bool) (options : List Choosable) (request? : Given → Option Request)
    (arguments : List String) : Reading :=
  match readOptions options [] none arguments with
  | .error stop => stop.reading
  | .ok given =>
    match request? given with
    | none => .misuse
    | some request => .invoke { verbose := verbose || isGiven given .verbose, request }

def commandNames : List String := ["modulators", "peripherals", "import", "help"]

/-- Reads a command by name. -/
def readCommand (verbose : Bool) (name : String) (arguments : List String) : Reading :=
  match name with
  | "modulators" => readRequest verbose generateOptions (generateRequest? .modulators) arguments
  | "peripherals" => readRequest verbose generateOptions (generateRequest? .board) arguments
  | "import" => readRequest verbose importOptions importRequest? arguments
  | "help" =>
    match arguments with
    | [] => .showHelp
    | [command] => if command ∈ commandNames then .showHelp else .misuse
    | _ => .misuse
  | _ => .misuse

/-- Reads the options in front of a command and then the command. -/
def readFrom (given : Given) : List String → Reading
  | [] => .misuse
  | argument :: rest =>
    if looksLikeOption argument then
      match takeArgument topOptions given argument with
      | .error stop => stop.reading
      | .ok (.complete given) => readFrom given rest
      | .ok (.waiting _ _) => .misuse
    else readCommand (isGiven given .verbose) argument rest

/-- What the arguments of the program ask for. -/
def readArguments (arguments : List String) : Reading := readFrom [] arguments

end FirmwareGen.Command
