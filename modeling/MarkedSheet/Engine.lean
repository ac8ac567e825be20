import MarkedSheet.Compilation
import MarkedSheet.Conversion
import MarkedSheet.Document.FilledGrid
import MarkedSheet.Generation
import MarkedSheet.Store

/-!
# The engine

The engine compiles the templates of a store, keeps their field maps there, and fills templates with
reports.  A template without a field map is compiled first.  A field map that is kept is used as it
is, even when the template has changed since.  Requests that the store refuses leave it as it was.
A filled grid is handed over for conversion in any way in which conversions are done; an engine that
holds a converter has one of its own.
-/

namespace MarkedSheet

/-- A store with the registry, configuration and converter that its requests use. -/
structure Engine where
  store : Store
  registry : Registry
  config : Config
  converter? : Option Converter

/-- A filled grid, and the artifact made from it when there is a converter. -/
structure FilledReport extends Generation where
  artifact? : Option Artifact
  deriving DecidableEq

/-- Why a report could not be filled in: something is missing, the field map that is kept has a span
that cuts through a character, or the converter has no answer to its time limit. -/
inductive FillError where
  | store (reason : StoreError)
  | misalignedSpan
  | endlessLimit
  deriving DecidableEq, Repr

namespace Engine

/-- The time limit of a converter that the configuration does not describe. -/
def defaultLimit : Duration :=
  .ofSeconds Conversion.defaultTimeoutSeconds

/-- An engine that converts by the program of the configuration, if there is one. -/
def new (converter : Conversion → Converter) (store : Store) (registry : Registry)
    (config : Config) : Engine :=
  ⟨store, registry, config, config.conversion?.map converter⟩

def limit (e : Engine) : Duration :=
  match e.config.conversion? with
  | some c => c.limit
  | none => defaultLimit

def withStore (e : Engine) (store : Store) : Engine :=
  { e with store := store }

/-- Compile a template of the store and keep its field map. -/
def compile (e : Engine) (template : String) : Except StoreError Compilation × Engine :=
  match e.store.template template with
  | .error reason => (.error reason, e)
  | .ok t =>
      let compiled := t.compile e.registry
      match e.store.persist compiled.fieldMap with
      | .error reason => (.error reason, e)
      | .ok store => (.ok compiled, e.withStore store)

/-- The field map kept for a template, or else that of its compilation. -/
def fieldMap (e : Engine) (template : String) : Except StoreError FieldMap × Engine :=
  match e.store.fieldMap? template with
  | some m => (.ok m, e)
  | none => ((e.compile template).1.map Compilation.fieldMap, (e.compile template).2)

/-- The context in which a report is filled in: the reports of the store are its history. -/
def context (e : Engine) (r : Report) : Generation.Context :=
  ⟨e.registry, r, e.store.reports, e.config⟩

def artifactOf (grid : FilledGrid) : Artifact :=
  ⟨.ofText grid.toToml, "toml"⟩

/-- A filled grid with what a conversion left of its artifact. -/
def delivered (g : Generation) (outcome : Converter.Outcome) : FilledReport :=
  { g with
    diagnostics := g.diagnostics ++ outcome.failure?.toList
    artifact? := some outcome.artifact }

section

variable {m : Type → Type} [Monad m]
  (convert? : Option (Artifact → Duration → m (Option (Except ConversionError Artifact))))

/-- Hand a filled grid over for conversion, if there is a way to convert. -/
def deliverBy (e : Engine) (g : Generation) : m (Except FillError FilledReport) :=
  match convert? with
  | none => pure (.ok { g with artifact? := none })
  | some convert => do
      let answer? ← convert (artifactOf g.grid) e.limit
      match answer?.map (Converter.Outcome.ofAnswer (artifactOf g.grid)) with
      | some outcome => pure (.ok (delivered g outcome))
      | none => pure (.error .endlessLimit)

/-- Fill a template by its field map. -/
def fillBy (e : Engine) (t : Template) (r : Report) (map : FieldMap) :
    m (Except FillError FilledReport) :=
  match Generation.run? (e.context r) t map with
  | some g => e.deliverBy convert? g
  | none => pure (.error .misalignedSpan)

/-- Fill a template of the store with a report of the store. -/
def generateBy (e : Engine) (template report : String) :
    m (Except FillError FilledReport × Engine) :=
  match e.store.template template, e.store.report report with
  | .error reason, _ => pure (.error (.store reason), e)
  | .ok _, .error reason => pure (.error (.store reason), e)
  | .ok t, .ok r =>
      match e.fieldMap template with
      | (.error reason, after) => pure (.error (.store reason), after)
      -- A field map that was just compiled is kept before it is put to use.
      | (.ok map, after) => do
          let filled ← after.fillBy convert? t r map
          pure (filled, after)

end

def deliver (e : Engine) (g : Generation) : Except FillError FilledReport :=
  Id.run (e.deliverBy e.converter? g)

def fill (e : Engine) (t : Template) (r : Report) (map : FieldMap) :
    Except FillError FilledReport :=
  Id.run (e.fillBy e.converter? t r map)

/-- Fill a template of the store with a report of the store, converting by the engine's own
converter. -/
def generate (e : Engine) (template report : String) : Except FillError FilledReport × Engine :=
  Id.run (e.generateBy e.converter? template report)

end Engine

end MarkedSheet
