import BundleLens.Console
import BundleLens.Options

namespace BundleLens

structure Config where
  inputs : List String
  /-- Without a format, the shape of each bundle decides. -/
  format : Option BundleFormat
  entry : Option ModuleId
  chunkGlobal : String
  json : Bool
  output : Option String
  verbose : Bool
  quiet : Bool
  deriving DecidableEq, Inhabited

def Config.options (c : Config) : Options := ⟨c.format, c.entry, c.chunkGlobal⟩

def Config.console (c : Config) (colour : Bool) : Console := ⟨c.verbose, c.json, c.quiet, colour⟩

namespace CommandLine

/-- Why the arguments give no configuration: two of the reasons are requests. -/
inductive Stop where
  | help
  | version
  /-- No input is given. -/
  | missingInput
  /-- A value is lacking or not allowed. -/
  | invalidValue
  | unknownArgument
  /-- An argument that may be given once is given again. -/
  | repeated
  /-- A flag is given a value. -/
  | unexpectedValue
  deriving DecidableEq

inductive Valued where
  | format | entry | chunkGlobal | output
  deriving DecidableEq

inductive Flag where
  | json | verbose | quiet | help | version
  deriving DecidableEq

inductive Name where
  | valued (argument : Valued)
  | flag (argument : Flag)
  deriving DecidableEq

def Name.ofLong? : String → Option Name
  | "format" => some (.valued .format)
  | "entry" => some (.valued .entry)
  | "chunk-global" => some (.valued .chunkGlobal)
  | "output" => some (.valued .output)
  | "json" => some (.flag .json)
  | "verbose" => some (.flag .verbose)
  | "quiet" => some (.flag .quiet)
  | "help" => some (.flag .help)
  | "version" => some (.flag .version)
  | _ => none

def Name.ofShort? : Char → Option Name
  | 'e' => some (.valued .entry)
  | 'o' => some (.valued .output)
  | 'v' => some (.flag .verbose)
  | 'q' => some (.flag .quiet)
  | 'h' => some (.flag .help)
  | 'V' => some (.flag .version)
  | _ => none

/-- What was read last and is not yet stored. Faults in it show only when it is. -/
inductive Pending where
  | nothing
  | value (argument : Valued) (text : Option String)
  | inputs (texts : List String)

structure Progress where
  inputs : List String := []
  format : Option (Option BundleFormat) := none
  entry : Option ModuleId := none
  chunkGlobal : Option String := none
  output : Option String := none
  json : Bool := false
  verbose : Bool := false
  quiet : Bool := false
  pending : Pending := .nothing
  /-- Every argument from here on is an input. -/
  inputsOnly : Bool := false

namespace Progress

/-- The format that a value chooses; one value leaves it open. -/
def format? (text : String) : Option (Option BundleFormat) :=
  if text = "auto" then some none else (BundleFormat.ofName? text).map some

def store (p : Progress) (argument : Valued) (text : String) : Except Stop Progress :=
  match argument with
  | .format =>
    if p.format.isSome then .error .repeated
    else match format? text with
      | some format => .ok { p with format := some format }
      | none => .error .invalidValue
  | .entry => if p.entry.isSome then .error .repeated else .ok { p with entry := some (.ofText text) }
  | .chunkGlobal =>
    if p.chunkGlobal.isSome then .error .repeated else .ok { p with chunkGlobal := some text }
  | .output =>
    if p.output.isSome then .error .repeated
    else if text.isEmpty then .error .invalidValue
    else .ok { p with output := some text }

def settle (p : Progress) : Except Stop Progress :=
  let settled := { p with pending := .nothing }
  match p.pending with
  | .nothing => .ok settled
  | .value _ none => .error .invalidValue
  | .value argument (some text) => settled.store argument text
  | .inputs texts =>
    if texts.any String.isEmpty then .error .invalidValue
    else .ok { settled with inputs := p.inputs ++ texts }

def raise (p : Progress) (flag : Flag) : Except Stop Progress := do
  let p ← p.settle
  match flag with
  | .json => if p.json then throw .repeated else return { p with json := true }
  | .verbose => if p.verbose then throw .repeated else return { p with verbose := true }
  | .quiet => if p.quiet then throw .repeated else return { p with quiet := true }
  | .help => throw .help
  | .version => throw .version

/-- Takes in an argument that takes a value. A value that is attached to it is stored at once. -/
def assign (p : Progress) (argument : Valued) (attached : Option String) :
    Except Stop Progress := do
  let p ← p.settle
  match attached with
  | some text => p.store argument text
  | none => return { p with pending := .value argument none }

def long (p : Progress) (text : String) : Except Stop Progress :=
  let name := text.toList.takeWhile (· != '=')
  let attached := match text.toList.drop name.length with
    | _ :: value => some (String.ofList value)
    | [] => none
  match Name.ofLong? (String.ofList name), attached with
  | none, _ => .error .unknownArgument
  | some (.valued argument), attached => p.assign argument attached
  | some (.flag flag), none => p.raise flag
  | some (.flag _), some _ => .error .unexpectedValue

/-- Takes in an argument with one dash: letters for flags, of which the last may take a value, and
the value. -/
def short (p : Progress) : List Char → Except Stop Progress
  | [] => .ok p
  | c :: r =>
    match Name.ofShort? c with
    | none => .error .unknownArgument
    | some (.flag flag) => do (← p.raise flag).short r
    | some (.valued argument) =>
      match r with
      | [] => p.assign argument none
      | '=' :: value => p.assign argument (some (String.ofList value))
      | value => p.assign argument (some (String.ofList value))

def input (p : Progress) (text : String) : Except Stop Progress :=
  match p.pending with
  | .inputs texts => .ok { p with pending := .inputs (texts ++ [text]) }
  | _ => do return { (← p.settle) with pending := .inputs [text] }

def take (p : Progress) (text : String) : Except Stop Progress :=
  if p.inputsOnly then p.input text
  else match text.toList with
    | ['-', '-'] => .ok { p with inputsOnly := true }
    | '-' :: '-' :: name => p.long (String.ofList name)
    | '-' :: c :: letters => p.short (c :: letters)
    | _ =>
      match p.pending with
      | .value argument none => .ok { p with pending := .value argument (some text) }
      | _ => p.input text

end Progress

/-- The configuration that arguments give. The name of the chunk loader may come from the
environment, which an argument overrides. -/
def parse (arguments : List String) (chunkGlobal : Option String) : Except Stop Config := do
  let p ← arguments.foldlM Progress.take {}
  let p ← p.settle
  if p.inputs.isEmpty then throw .missingInput
  return {
    inputs := p.inputs
    format := p.format.getD none
    entry := p.entry
    chunkGlobal := (p.chunkGlobal.or chunkGlobal).getD (default : Options).chunkGlobal
    json := p.json
    output := p.output
    verbose := p.verbose
    quiet := p.quiet }

end CommandLine

end BundleLens
