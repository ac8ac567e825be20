import MarkedSheet.CommandLine.Arguments
import MarkedSheet.Document.Config
import MarkedSheet.Document.FieldMap
import MarkedSheet.Document.Report
import MarkedSheet.Document.Template
import MarkedSheet.Engine
import MarkedSheet.Registry.Reference
import MarkedSheet.Registry.Standard

/-!
# Runs of the command line

A command reads its files one after the other and stops at the first that cannot be used.  What it
does is the same in all surroundings; beside a host, on files given as a value, it is a function of
them.
-/

namespace MarkedSheet.CommandLine

/-- What a run shows: its exit status and the texts it prints. -/
structure Outcome where
  status : Nat
  stdout : String
  stderr : String
  deriving DecidableEq, Repr

namespace Outcome

/-- A run that ends well and prints a text. -/
def success (stdout : String) : Outcome :=
  ⟨0, stdout, ""⟩

/-- A run that ends with a message. -/
def failure (message : String) : Outcome :=
  ⟨1, "", message ++ "\n"⟩

/-- A run that breaks off. -/
def aborted : Outcome :=
  ⟨101, "", ""⟩

/-- A run whose arguments name nothing to do. -/
def ofStop : Stop → Outcome
  | .help => success ""
  | .refused => ⟨2, "", ""⟩

end Outcome

/-- A kind of file: its name in messages, and how its text is taken. -/
structure FileKind (α : Type) where
  name : String
  unreadable : String
  decode : String → Except String α

namespace FileKind

def template : FileKind Template where
  name := "template"
  unreadable := "failed to read template file: "
  decode := fun text => (Template.ofToml text).mapError Template.LoadError.message

def report : FileKind Report where
  name := "report"
  unreadable := "Failed to read report file: "
  decode := fun text =>
    (Report.ofToml text).mapError fun e => "Failed to parse report TOML: " ++ e.message

def history : FileKind (List Report) where
  name := "history"
  unreadable := "Failed to read report file: "
  decode := fun text =>
    (Report.listOfToml text).mapError fun e => "Failed to parse report TOML: " ++ e.message

def config : FileKind Config where
  name := "config"
  unreadable := "Failed to read config file: "
  decode := fun text =>
    (Config.ofToml text).mapError fun e => "Failed to parse config TOML: " ++ e.message

end FileKind

def formLine (f : FormField) : String :=
  "\t".intercalate
    [f.location, f.name, f.fieldType.label,
      "required=" ++ (if f.required then "true" else "false"),
      "default=" ++ f.default?.getD "", "hint=" ++ f.hint?.getD ""] ++ "\n"

/-- What is printed of a compiled template. -/
def compiledText (m : FieldMap) (form : Bool) : String :=
  if form then String.join (m.formFields.map formLine) else m.toToml

/-- The name of a file without its extension; a point at the start begins no extension. -/
def stem (name : List Char) : List Char :=
  let start := (name.reverse.dropWhile fun c => c ≠ '.').drop 1
  if start.isEmpty then name else start.reverse

/-- The path with another extension, or with none if that is empty.  A path that ends in no name of
a file stays as it is.  A name that is two points without its extension is none either by then, and
gets no other one. -/
def withExtension (path extension : String) : String :=
  let backwards := path.toList.reverse
  let name := (backwards.takeWhile fun c => c ≠ '/').reverse
  let folder := (backwards.dropWhile fun c => c ≠ '/').reverse
  if name = [] ∨ name = ['.'] then path
  else if stem name = ['.'] then String.ofList (folder ++ ['.', '.'])
  else
    String.ofList (folder ++ stem name) ++ (if extension.isEmpty then "" else "." ++ extension)

/-- The end of a run whose request failed; nothing is left to say when it could not be finished. -/
def fillFailure : FillError → Outcome
  | .store reason => .failure ("Error: " ++ reason.message)
  | .misalignedSpan => .aborted
  | .endlessLimit => .aborted

/-- The text of a file, if its bytes are those of one. -/
def textOf (bytes : Bytes) : Except FileError String :=
  match Bytes.text? bytes with
  | some text => .ok text
  | none => .error .notText

/-- The engine for one report and its history; its conversions are left to the surroundings. -/
def engineFor (config : Config) (t : Template) (r : Report) (history : List Report) : Engine :=
  ⟨⟨[t], (History.ofReports history).insert r, [], none⟩, Registry.standard, config, none⟩

section

variable {m : Type → Type} [Monad m] (s : Surroundings m)

/-- Read a file of some kind, or fail with a message. -/
def load {α : Type} (kind : FileKind α) (path : String) : ExceptT Outcome m α := do
  let failed (reason : String) : Outcome :=
    .failure ("Error loading " ++ kind.name ++ " '" ++ path ++ "': " ++ reason)
  match (← s.read path).bind textOf with
  | .error e => throw (failed (kind.unreadable ++ e.message))
  | .ok text =>
      match kind.decode text with
      | .error reason => throw (failed reason)
      | .ok a => return a

def loadOr {α : Type} (kind : FileKind α) (default : α) : Option String → ExceptT Outcome m α
  | some path => load s kind path
  | none => return default

def save (path : String) (bytes : Bytes) : ExceptT Outcome m Unit := do
  match ← s.write path bytes with
  | .error e => throw (.failure ("Error writing '" ++ path ++ "': " ++ e.message))
  | .ok _ => return

/-- Write the filled grid, and beside it the converted document if it has another format.  No path
takes an extension with a slash, and the run breaks off at such a one. -/
def saveAll (path : String) (f : FilledReport) : ExceptT Outcome m Unit := do
  save s path (.ofText f.grid.toToml)
  match f.artifact? with
  | some a =>
      if a.extension = "toml" then return
      else if '/' ∈ a.extension.toList then throw .aborted
      else save s (withExtension path a.extension) a.bytes
  | none => return

/-- Fill a template with a report; the text is what is printed. -/
def fill (request : Request) : ExceptT Outcome m String := do
  let config ← loadOr s FileKind.config Config.standard request.config?
  let template ← load s FileKind.template request.template
  let report ← load s FileKind.report request.report
  let history ← loadOr s FileKind.history [] request.history?
  let engine := engineFor config template report history
  let convert? := config.conversion?.map (Conversion.convert s)
  let answer ← ExceptT.lift (engine.generateBy convert? template.id report.id)
  match answer.1 with
  | .error e => throw (fillFailure e)
  | .ok filled =>
      match request.output? with
      | some path => do
          saveAll s path filled
          return ""
      | none => return filled.grid.toToml

/-- Carry out a command; the text is what is printed. -/
def perform : Command → ExceptT Outcome m String
  | .compile path form => do
      let template ← load s FileKind.template path
      return compiledText (template.fieldMap Registry.standard) form
  | .generate request => fill s request
  | .codes => return Registry.standard.reference

/-- Run the program with its arguments. -/
def run (args : List String) : m Outcome :=
  match Command.ofArguments args with
  | .error stop => pure (Outcome.ofStop stop)
  | .ok command => do
      match ← (perform s command).run with
      | .ok text => return Outcome.success text
      | .error outcome => return outcome

end

/-- Run the program on the files of a tree, beside a host: what it shows, and the files it leaves. -/
def runIn (h : Host) (t : FileTree) (args : List String) : Outcome × FileTree :=
  Id.run ((run (FileTree.surroundings h) args).run t)

end MarkedSheet.CommandLine
