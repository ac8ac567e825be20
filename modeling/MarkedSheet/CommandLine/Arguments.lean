/-!
# Arguments of the command line

The first argument names a command.  The others are its operands and options, in any order: flags
stand alone, options take a value, and after `--` only operands follow.  No option may be given
twice and no value may be empty.
-/

namespace MarkedSheet.CommandLine

/-- What to fill in: the files of the template and the report, and the options. -/
structure Request where
  template : String
  report : String
  history? : Option String
  config? : Option String
  output? : Option String
  deriving DecidableEq, Repr

/-- What the program is asked to do. -/
inductive Command where
  | compile (template : String) (form : Bool)
  | generate (request : Request)
  | codes
  deriving DecidableEq, Repr

/-- Why there is nothing to do. -/
inductive Stop where
  | help
  | refused
  deriving DecidableEq, Repr

/-- An option that takes a value. -/
structure ValueOption where
  name : String
  letter? : Option Char
  deriving DecidableEq, Repr

/-- The arguments that a command takes. -/
structure Shape where
  operands : Nat
  flags : List String
  options : List ValueOption

/-- The arguments read so far. -/
structure Seen where
  operands : List String
  flags : List String
  values : List (String × String)

/-- What an argument is by its own form. -/
inductive Word where
  | operand
  | endOfOptions
  | help
  | flag (name : String)
  | option (name : String) (value? : Option String)
  | unknown
  deriving DecidableEq, Repr

namespace Shape

/-- A word that starts with two hyphens; `value?` is the text after an equals sign. -/
def longWord (shape : Shape) (name : String) (value? : Option String) : Word :=
  if name = "help" ∧ value? = none then .help
  else if name ∈ shape.flags ∧ value? = none then .flag name
  else
    match shape.options.find? fun o => o.name = name with
    | some o => .option o.name value?
    | none => .unknown

/-- The value that stands in one word with the letter of its option. -/
def attached? : List Char → Option String
  | [] => none
  | '=' :: value => some (String.ofList value)
  | value => some (String.ofList value)

/-- A word that starts with one hyphen and a letter. -/
def shortWord (shape : Shape) (letter : Char) (rest : List Char) : Word :=
  if letter = 'h' then .help
  else
    match shape.options.find? fun o => o.letter? = some letter with
    | some o => .option o.name (attached? rest)
    | none => .unknown

def word (shape : Shape) (arg : String) : Word :=
  match arg.toList with
  | ['-', '-'] => .endOfOptions
  | '-' :: '-' :: long =>
      match long.dropWhile fun c => c ≠ '=' with
      | [] => shape.longWord (String.ofList long) none
      | _ :: value =>
          shape.longWord (String.ofList (long.takeWhile fun c => c ≠ '='))
            (some (String.ofList value))
  | '-' :: letter :: rest => shape.shortWord letter rest
  | _ => .operand

def addOperand (shape : Shape) (seen : Seen) (arg : String) : Except Stop Seen :=
  if arg.isEmpty ∨ shape.operands ≤ seen.operands.length then .error .refused
  else .ok { seen with operands := seen.operands ++ [arg] }

def addFlag (seen : Seen) (name : String) : Except Stop Seen :=
  if name ∈ seen.flags then .error .refused
  else .ok { seen with flags := seen.flags ++ [name] }

def addValue (seen : Seen) (name value : String) : Except Stop Seen :=
  if value.isEmpty ∨ (seen.values.lookup name).isSome then .error .refused
  else .ok { seen with values := seen.values ++ [(name, value)] }

/-- The arguments of a command, one after the other. -/
def read (shape : Shape) (seen : Seen) : List String → Except Stop Seen
  | [] => .ok seen
  | arg :: rest =>
      match shape.word arg with
      | .operand => (shape.addOperand seen arg).bind fun seen => shape.read seen rest
      | .endOfOptions => rest.foldlM shape.addOperand seen
      | .help => .error .help
      | .flag name => (addFlag seen name).bind fun seen => shape.read seen rest
      | .option name (some value) =>
          (addValue seen name value).bind fun seen => shape.read seen rest
      | .option name none =>
          -- The value is the next argument, which must not look like an option.
          match rest with
          | [] => .error .refused
          | value :: rest =>
              if shape.word value = .operand then
                (addValue seen name value).bind fun seen => shape.read seen rest
              else
                .error .refused
      | .unknown => .error .refused

/-- All arguments of a command; every operand has to be there. -/
def readAll (shape : Shape) (args : List String) : Except Stop Seen :=
  (shape.read ⟨[], [], []⟩ args).bind fun seen =>
    if seen.operands.length = shape.operands then .ok seen else .error .refused

end Shape

namespace Command

def compileShape : Shape :=
  ⟨1, ["form"], []⟩

def generateShape : Shape :=
  ⟨2, [], [⟨"history", none⟩, ⟨"config", some 'c'⟩, ⟨"output", some 'o'⟩]⟩

def codesShape : Shape :=
  ⟨0, [], []⟩

def compileOf (seen : Seen) : Except Stop Command :=
  match seen.operands with
  | [template] => .ok (.compile template ("form" ∈ seen.flags))
  | _ => .error .refused

def generateOf (seen : Seen) : Except Stop Command :=
  match seen.operands with
  | [template, report] =>
      .ok (.generate ⟨template, report, seen.values.lookup "history",
        seen.values.lookup "config", seen.values.lookup "output"⟩)
  | _ => .error .refused

/-- The words that name commands. -/
def names : List String :=
  ["compile", "generate", "codes", "help"]

/-- The command that the arguments ask for. -/
def ofArguments : List String → Except Stop Command
  | [] => .error .refused
  | "compile" :: args => (compileShape.readAll args).bind compileOf
  | "generate" :: args => (generateShape.readAll args).bind generateOf
  | "codes" :: args => (codesShape.readAll args).map fun _ => .codes
  | "help" :: topics =>
      match topics with
      | [] => .error .help
      | [topic] => .error (if topic ∈ names then .help else .refused)
      | _ => .error .refused
  | arg :: _ => .error (if codesShape.word arg = .help then .help else .refused)

end Command

end MarkedSheet.CommandLine
