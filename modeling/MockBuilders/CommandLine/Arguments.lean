/-! Arguments of the command line: a command and its flags, each of which takes a value. -/
namespace MockBuilders

inductive Flag where
  | config
  | input
  | outFolder
  | output
  deriving DecidableEq, Repr

namespace Flag

def letter : Flag → Char
  | config => 'c'
  | input => 'i'
  | outFolder | output => 'o'

def name : Flag → String
  | config => "config"
  | input => "input"
  | outFolder => "out-dir"
  | output => "output"

/-- What an argument is. -/
inductive Reading where
  /-- No flag. -/
  | plain
  /-- A flag with its value. -/
  | attached (flag : Flag) (value : List Char)
  /-- A flag whose value is the next argument. -/
  | separate (flag : Flag)
  /-- A flag that there is not. -/
  | unknown

/-- Reads an argument: `--name`, `--name=value`, `-x`, `-xvalue` or `-x=value`. -/
def read (flags : List Flag) (arg : String) : Reading :=
  match arg.toList with
  | '-' :: '-' :: cs =>
      match flags.find? fun f => f.name.toList == cs.takeWhile fun c => c != '=' with
      | none => .unknown
      | some f =>
          match cs.dropWhile fun c => c != '=' with
          | [] => .separate f
          | _ :: value => .attached f value
  | '-' :: c :: cs =>
      match flags.find? fun f => f.letter == c with
      | none => .unknown
      | some f =>
          match cs with
          | [] => .separate f
          | '=' :: value => .attached f value
          | value => .attached f value
  | _ => .plain

/-- Whether an argument can be the value of the flag before it. -/
def isValue (arg : String) : Bool := !arg.isEmpty && (arg == "-" || arg.toList.head? != some '-')

/-- Reads flags with their values up to the first argument that is none. -/
def readAll (flags : List Flag) : List String → Option (List (Flag × String) × List String)
  | [] => some ([], [])
  | arg :: rest =>
      match read flags arg with
      | .plain => some ([], arg :: rest)
      | .unknown => if arg = "--" then some ([], arg :: rest) else none
      | .attached f value =>
          if value = [] then none
          else (readAll flags rest).map fun r => ((f, String.ofList value) :: r.1, r.2)
      | .separate f =>
          match rest with
          | [] => none
          | value :: more =>
              if isValue value then (readAll flags more).map fun r => ((f, value) :: r.1, r.2)
              else none

/-- The value of a flag, if it is given; none if it is given twice. -/
def value? (given : List (Flag × String)) (flag : Flag) : Option (Option String) :=
  match given.filter fun p => p.1 = flag with
  | [] => some none
  | [p] => some (some p.2)
  | _ => none

end Flag

inductive Command where
  | generate (input outFolder : String)
  | graph (input output : String)
  deriving DecidableEq, Repr

structure Arguments where
  config : Option String
  command : Command
  deriving DecidableEq, Repr

namespace Arguments

/-- The folder that modules are written to. -/
def standardFolder : String := "."

/-- The file that graphs are written to. -/
def standardOutput : String := "schemas.dot"

/-- Flags after a command, with nothing else but a mark of their end. -/
def flags? (flags : List Flag) (args : List String) : Option (List (Flag × String)) :=
  match Flag.readAll flags args with
  | some (given, []) | some (given, ["--"]) => some given
  | _ => none

/-- Reads a command with its flags. -/
def command? (name : String) (args : List String) : Option (Option String × Command) := do
  if name = "generate" then
    let given ← flags? [.config, .input, .outFolder] args
    let input ← (← Flag.value? given .input)
    let folder ← Flag.value? given .outFolder
    return (← Flag.value? given .config, .generate input (folder.getD standardFolder))
  else if name = "graph" then
    let given ← flags? [.config, .input, .output] args
    let input ← (← Flag.value? given .input)
    let output ← Flag.value? given .output
    return (← Flag.value? given .config, .graph input (output.getD standardOutput))
  else none

/-- Reads a command line; a settings file may be named before the command or after it, where it
counts. -/
def read? (args : List String) : Option Arguments :=
  match Flag.readAll [.config] args with
  | some (given, name :: rest) => do
      let early ← Flag.value? given .config
      let (late, command) ← command? name rest
      return ⟨late.or early, command⟩
  | _ => none

end Arguments

end MockBuilders
