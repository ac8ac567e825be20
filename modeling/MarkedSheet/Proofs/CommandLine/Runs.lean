import MarkedSheet.CommandLine.Run
import MarkedSheet.Proofs.Engine.Conversions

/-!
# Runs on a tree

Filling in reads its files first, which changes none of them, then works on what it has read, hands
the grid over for conversion, and writes at the end if there is a file to write to.
-/

namespace MarkedSheet

/-- The files that the conversion of a grid leaves, if there is one. -/
def Config.filesLeft (config : Config) (h : Host) (t : FileTree) (grid : FilledGrid) : FileTree :=
  match config.conversion? with
  | none => t
  | some c =>
      (StateT.run (c.convert (FileTree.surroundings h) (Engine.artifactOf grid) c.limit) t).2

namespace CommandLine

/-- A step of a run on a tree: it comes to a result, or the run ends there. -/
abbrev Step (α : Type) :=
  ExceptT Outcome (StateM FileTree) α

/-- What the files of a request hold. -/
structure Inputs where
  config : Config
  template : Template
  report : Report
  history : List Report

namespace Inputs

/-- The engine for what was read, with the converter that the configuration describes. -/
def engine (inputs : Inputs) (h : Host) (t : FileTree) : Engine :=
  (engineFor inputs.config inputs.template inputs.report inputs.history).withConverter
    (inputs.config.conversion?.map (Conversion.converter h t))

def filled (inputs : Inputs) (h : Host) (t : FileTree) : Except FillError FilledReport :=
  ((inputs.engine h t).generate inputs.template.id inputs.report.id).1

end Inputs

/-- The document that is saved beside a grid. -/
def companion? (f : FilledReport) : Option Artifact :=
  f.artifact?.filter fun a => a.extension ≠ "toml"

/-- The grid is written, and then what is saved beside it. -/
def Saves (t : FileTree) (path : String) (f : FilledReport) (after : FileTree) : Prop :=
  ∃ middle, t.write path (.ofText f.grid.toToml) = .ok middle ∧
    (companion? f = none ∧ after = middle ∨ ∃ a, companion? f = some a ∧
      '/' ∉ a.extension.toList ∧
        middle.write (withExtension path a.extension) a.bytes = .ok after)

variable {α β : Type} {h : Host} {t after : FileTree} {path : String} {bytes : Bytes}
  {kind : FileKind α}

/-- What a step comes to, and the files that it leaves. -/
def Step.on (step : Step α) (t : FileTree) : Except Outcome α × FileTree :=
  StateT.run (ExceptT.run step) t

/-- The end of a run that cannot use a file. -/
def loadFailure (kind : FileKind α) (path reason : String) : Outcome :=
  .failure ("Error loading " ++ kind.name ++ " '" ++ path ++ "': " ++ reason)

/-- The end of a run that cannot write a file. -/
def saveFailure (path : String) (reason : FileError) : Outcome :=
  .failure ("Error writing '" ++ path ++ "': " ++ reason.message)

/-- What a file of some kind holds, or how the run ends that reads it. -/
def loaded (t : FileTree) (kind : FileKind α) (path : String) : Except Outcome α :=
  match (t.read path).bind textOf with
  | .error e => .error (loadFailure kind path (kind.unreadable ++ e.message))
  | .ok text => (kind.decode text).mapError (loadFailure kind path)

def loadedOr (t : FileTree) (kind : FileKind α) (default : α) : Option String → Except Outcome α
  | some path => loaded t kind path
  | none => .ok default

/-- What the files of a request hold, or how the run ends that reads them. -/
def Request.inputs (t : FileTree) (request : Request) : Except Outcome Inputs := do
  let config ← loadedOr t FileKind.config Config.standard request.config?
  let template ← loaded t FileKind.template request.template
  let report ← loaded t FileKind.report request.report
  let history ← loadedOr t FileKind.history [] request.history?
  return ⟨config, template, report, history⟩

/-- A request to the engine, on a tree beside a host. -/
def Inputs.generated (inputs : Inputs) (h : Host) (t : FileTree) :
    (Except FillError FilledReport × Engine) × FileTree :=
  StateT.run ((engineFor inputs.config inputs.template inputs.report inputs.history).generateBy
    (inputs.config.conversion?.map (Conversion.convert (FileTree.surroundings h)))
    inputs.template.id inputs.report.id) t

/-- The engine fills in, and its conversion alone changes the files. -/
theorem generated_cases (inputs : Inputs) (h : Host) (t : FileTree) :
    (inputs.generated h t).1.1 = inputs.filled h t ∧
      ∀ out, inputs.filled h t = .ok out →
        (inputs.generated h t).2 = inputs.config.filesLeft h t out.grid := by
  have hconverter : Engine.answeringIn (inputs.config.conversion?.map
      (Conversion.convert (FileTree.surroundings h))) t =
        inputs.config.conversion?.map (Conversion.converter h t) := by
    cases inputs.config.conversion? with
    | none => rfl
    | some c => rfl
  obtain ⟨hanswer, hleft⟩ := Engine.run_generateBy
    (inputs.config.conversion?.map (Conversion.convert (FileTree.surroundings h)))
    (engineFor inputs.config inputs.template inputs.report inputs.history)
    inputs.template.id inputs.report.id t
  rw [hconverter] at hanswer hleft
  refine ⟨hanswer, fun out hout => (hleft out hout).trans ?_⟩
  have hconfig : (engineFor inputs.config inputs.template inputs.report inputs.history).config =
      inputs.config := rfl
  rw [Engine.limit, hconfig]
  unfold Config.filesLeft Engine.leftBy
  cases inputs.config.conversion? with
  | none => rfl
  | some c => rfl

namespace Step

theorem on_bind (x : Step α) (f : α → Step β) :
    Step.on (x >>= f) t =
      match (x.on t).1 with
      | .ok a => (f a).on (x.on t).2
      | .error o => (.error o, (x.on t).2) := by
  simp only [on, ExceptT.run_bind, StateT.run_bind]
  rcases StateT.run (ExceptT.run x) t with ⟨a | o, after⟩
  · rfl
  · rfl

theorem on_lift (x : StateM FileTree α) :
    Step.on (liftM x) t = (.ok (StateT.run x t).1, (StateT.run x t).2) :=
  rfl

theorem on_load (h : Host) (t : FileTree) (kind : FileKind α) (path : String) :
    Step.on (load (FileTree.surroundings h) kind path) t = (loaded t kind path, t) := by
  rw [load, on_bind, on_lift, Conversion.run_read, loaded]
  dsimp only
  cases (t.read path).bind textOf with
  | error e => rfl
  | ok text =>
      dsimp only
      cases kind.decode text with
      | error reason => rfl
      | ok a => rfl

theorem on_loadOr (h : Host) (t : FileTree) (kind : FileKind α) (default : α)
    (path? : Option String) :
    Step.on (loadOr (FileTree.surroundings h) kind default path?) t =
      (loadedOr t kind default path?, t) := by
  cases path? with
  | none => rfl
  | some path => exact on_load h t kind path

theorem on_save : Step.on (save (FileTree.surroundings h) path bytes) t =
    match t.write path bytes with
    | .ok after => (.ok (), after)
    | .error e => (.error (saveFailure path e), t) := by
  rw [save, on_bind, on_lift, Conversion.run_write]
  cases t.write path bytes with
  | error e => rfl
  | ok after => rfl

/-- What is done with the answer to a request. -/
def answered (h : Host) (request : Request) : Except FillError FilledReport → Step String
  | .error reason => throw (fillFailure reason)
  | .ok filled =>
      match request.output? with
      | some path => saveAll (FileTree.surroundings h) path filled >>= fun _ => pure ""
      | none => pure filled.grid.toToml

/-- Filling in reads all its files before anything is converted. -/
theorem on_fill_eq (request : Request) :
    Step.on (CommandLine.fill (FileTree.surroundings h) request) t =
      match request.inputs t with
      | .error o => (.error o, t)
      | .ok inputs =>
          (answered h request (inputs.generated h t).1.1).on (inputs.generated h t).2 := by
  -- One file after the other: the first that cannot be used ends the run on the tree as it was.
  rw [CommandLine.fill, Request.inputs, on_bind, on_loadOr]
  cases loadedOr t FileKind.config Config.standard request.config? with
  | error o => rfl
  | ok config =>
      dsimp only
      rw [on_bind, on_load]
      cases loaded t FileKind.template request.template with
      | error o => rfl
      | ok template =>
          dsimp only
          rw [on_bind, on_load]
          cases loaded t FileKind.report request.report with
          | error o => rfl
          | ok report =>
              dsimp only
              rw [on_bind, on_loadOr]
              cases loadedOr t FileKind.history [] request.history? with
              | error o => rfl
              | ok history => rfl

/-- What is saved is written after the conversion, and nothing is without an answer. -/
theorem on_fill (request : Request) :
    Step.on (CommandLine.fill (FileTree.surroundings h) request) t =
      match request.inputs t with
      | .error o => (.error o, t)
      | .ok inputs =>
          match inputs.filled h t with
          | .error reason => (.error (fillFailure reason), (inputs.generated h t).2)
          | .ok filled =>
              match request.output? with
              | some path =>
                  Step.on (saveAll (FileTree.surroundings h) path filled >>= fun _ => pure "")
                    (inputs.config.filesLeft h t filled.grid)
              | none => (.ok filled.grid.toToml, inputs.config.filesLeft h t filled.grid) := by
  rw [on_fill_eq]
  cases request.inputs t with
  | error o => rfl
  | ok inputs =>
      obtain ⟨hanswer, hleft⟩ := generated_cases inputs h t
      dsimp only
      rw [hanswer]
      cases hfilled : inputs.filled h t with
      | error reason => rfl
      | ok filled =>
          rw [hleft filled hfilled, answered]
          cases request.output? with
          | none => rfl
          | some path => rfl

/-- The grid is saved first, and then what is saved beside it. -/
theorem on_saveAll (h : Host) (t : FileTree) (path : String) (f : FilledReport) :
    Step.on (saveAll (FileTree.surroundings h) path f) t =
      match t.write path (.ofText f.grid.toToml) with
      | .error e => (.error (saveFailure path e), t)
      | .ok middle =>
          match companion? f with
          | none => (.ok (), middle)
          | some a =>
              if '/' ∈ a.extension.toList then (.error .aborted, middle)
              else
                Step.on (save (FileTree.surroundings h) (withExtension path a.extension) a.bytes)
                  middle := by
  rw [saveAll, on_bind, on_save, companion?]
  cases t.write path (.ofText f.grid.toToml) with
  | error e => rfl
  | ok middle =>
      dsimp only
      cases f.artifact? with
      | none => rfl
      | some a =>
          by_cases htoml : a.extension = "toml"
          · simp only [htoml, if_true, Option.filter_some, ne_eq, not_true_eq_false, decide_false,
              Bool.false_eq_true, if_false]
            rfl
          · simp only [htoml, if_false, Option.filter_some, ne_eq, not_false_eq_true, decide_true,
              if_true]
            split
            · rfl
            · rfl

theorem on_save_cases (h : Host) (t : FileTree) (path : String) (bytes : Bytes) :
    (∃ after, t.write path bytes = .ok after ∧
        Step.on (save (FileTree.surroundings h) path bytes) t = (.ok (), after)) ∨
      ∃ o, o.status ≠ 0 ∧
        Step.on (save (FileTree.surroundings h) path bytes) t = (.error o, t) := by
  rw [on_save]
  cases t.write path bytes with
  | error e => exact .inr ⟨_, Nat.one_ne_zero, rfl⟩
  | ok after => exact .inl ⟨after, rfl, rfl⟩

/-- All that is to be saved is saved, or the run ends badly. -/
theorem on_saveAll_cases (h : Host) (t : FileTree) (path : String) (f : FilledReport) :
    (∃ after, Saves t path f after ∧
        Step.on (saveAll (FileTree.surroundings h) path f) t = (.ok (), after)) ∨
      ∃ o after, o.status ≠ 0 ∧
        Step.on (saveAll (FileTree.surroundings h) path f) t = (.error o, after) := by
  rw [on_saveAll]
  cases hgrid : t.write path (.ofText f.grid.toToml) with
  | error e => exact .inr ⟨_, t, Nat.one_ne_zero, rfl⟩
  | ok middle =>
      dsimp only
      cases hcompanion : companion? f with
      | none => exact .inl ⟨middle, ⟨middle, hgrid, .inl ⟨hcompanion, rfl⟩⟩, rfl⟩
      | some a =>
          dsimp only
          by_cases hslash : '/' ∈ a.extension.toList
          · rw [if_pos hslash]
            exact .inr ⟨_, middle, by decide, rfl⟩
          · rw [if_neg hslash]
            rcases on_save_cases h middle (withExtension path a.extension) a.bytes with
              ⟨after, hwrite, hsaved⟩ | ⟨o, ho, hfailed⟩
            · exact .inl ⟨after, ⟨middle, hgrid, .inr ⟨a, hcompanion, hslash, hwrite⟩⟩, hsaved⟩
            · exact .inr ⟨o, middle, ho, hfailed⟩

end Step

section Loading

theorem mapError_eq_ok_iff {ε δ : Type} {f : ε → δ} {x : Except ε α} {a : α} :
    x.mapError f = .ok a ↔ x = .ok a := by
  cases x with
  | error e => exact ⟨nofun, nofun⟩
  | ok b =>
      constructor
      · rintro ⟨⟩
        rfl
      · rintro ⟨⟩
        rfl

theorem decode_config_iff {s : String} {c : Config} :
    FileKind.config.decode s = .ok c ↔ Config.ofToml s = .ok c :=
  mapError_eq_ok_iff

theorem decode_template_iff {s : String} {template : Template} :
    FileKind.template.decode s = .ok template ↔ Template.ofToml s = .ok template :=
  mapError_eq_ok_iff

theorem decode_report_iff {s : String} {r : Report} :
    FileKind.report.decode s = .ok r ↔ Report.ofToml s = .ok r :=
  mapError_eq_ok_iff

/-- A file of some kind holds the bytes of a text of that kind. -/
theorem loaded_eq_ok {a : α} {text : String} (hread : t.read path = .ok (.ofText text))
    (hdecode : kind.decode text = .ok a) : loaded t kind path = .ok a := by
  have htext : (t.read path).bind textOf = .ok text := by
    rw [hread]
    change textOf (.ofText text) = .ok text
    rw [textOf, Bytes.text?_ofText]
  rw [loaded, htext]
  exact mapError_eq_ok_iff.2 hdecode

theorem status_of_loaded {o : Outcome} (hfails : loaded t kind path = .error o) : o.status = 1 := by
  rw [loaded] at hfails
  cases htext : (t.read path).bind textOf with
  | error e =>
      rw [htext] at hfails
      cases hfails
      rfl
  | ok text =>
      cases hdecode : kind.decode text with
      | error reason =>
          simp only [htext, hdecode] at hfails
          cases hfails
          rfl
      | ok a =>
          simp only [htext, hdecode] at hfails
          cases hfails

theorem status_of_loadedOr {default : α} {path? : Option String} {o : Outcome}
    (h : loadedOr t kind default path? = .error o) : o.status = 1 := by
  cases path? with
  | none => cases h
  | some path => exact status_of_loaded h

theorem status_of_bind {x : Except Outcome α} {f : α → Except Outcome β}
    (hx : ∀ {o}, x = .error o → o.status = 1) (hf : ∀ a {o}, f a = .error o → o.status = 1)
    {o : Outcome} (h : x >>= f = .error o) : o.status = 1 := by
  cases x with
  | error reason =>
      cases h
      exact hx rfl
  | ok a => exact hf a h

/-- A run whose files cannot be used ends badly. -/
theorem status_of_inputs {request : Request} {o : Outcome} (h : request.inputs t = .error o) :
    o.status = 1 := by
  refine status_of_bind status_of_loadedOr (fun config => ?_) h
  refine status_of_bind status_of_loaded fun template => ?_
  refine status_of_bind status_of_loaded fun report => ?_
  refine status_of_bind status_of_loadedOr fun history => ?_
  rintro o ⟨⟩

end Loading

theorem status_fillFailure (reason : FillError) : (fillFailure reason).status ≠ 0 := by
  cases reason with
  | store reason => exact Nat.one_ne_zero
  | misalignedSpan => decide
  | endlessLimit => decide

/-- What a run shows of the text to which its steps come, or of their end. -/
def shown : Except Outcome String → Outcome
  | .ok text => .success text
  | .error o => o

/-- A run ends as the steps of its command do. -/
theorem runIn_eq {args : List String} {command : Command}
    (hargs : Command.ofArguments args = .ok command) :
    runIn h t args = (shown (Step.on (perform (FileTree.surroundings h) command) t).1,
      (Step.on (perform (FileTree.surroundings h) command) t).2) := by
  rw [runIn, run, hargs, StateT.run_bind]
  change _ = (shown (StateT.run (ExceptT.run (perform (FileTree.surroundings h) command)) t).1,
    (StateT.run (ExceptT.run (perform (FileTree.surroundings h) command)) t).2)
  rcases StateT.run (ExceptT.run (perform (FileTree.surroundings h) command)) t with
    ⟨text | o, after⟩
  · rfl
  · rfl

theorem runIn_generate {args : List String} {request : Request}
    (hargs : Command.ofArguments args = .ok (.generate request)) :
    runIn h t args = (shown (Step.on (CommandLine.fill (FileTree.surroundings h) request) t).1,
      (Step.on (CommandLine.fill (FileTree.surroundings h) request) t).2) :=
  runIn_eq hargs

/-- A run that has no file to write to changes none but by a conversion. -/
theorem runIn_unchanged {args : List String} (hnone : ∀ request,
    Command.ofArguments args = .ok (.generate request) → request.output? = none ∧
      ∀ inputs, request.inputs t = .ok inputs → inputs.config.conversion? = none) :
    (runIn h t args).2 = t := by
  cases hargs : Command.ofArguments args with
  | error stop =>
      rw [runIn, run, hargs]
      rfl
  | ok command =>
      rw [runIn_eq hargs]
      cases command with
      | codes => rfl
      | compile path form =>
          rw [perform, Step.on_bind, Step.on_load]
          cases loaded t FileKind.template path with
          | error o => rfl
          | ok template => rfl
      | generate request =>
          obtain ⟨houtput, hconversion⟩ := hnone request hargs
          rw [perform, Step.on_fill, houtput]
          cases hinputs : request.inputs t with
          | error o => rfl
          | ok inputs =>
              have hnever := hconversion inputs hinputs
              dsimp only
              cases hfilled : inputs.filled h t with
              | error reason =>
                  dsimp only
                  rw [Inputs.generated, hnever]
                  exact Engine.run_generateBy_none _ _ _ t
              | ok filled =>
                  dsimp only
                  unfold Config.filesLeft
                  rw [hnever]

/-- A run that fills in and ends well has read all its files and saved what it was to save, after the
conversion. -/
theorem exists_of_runIn {args : List String} {request : Request} {outcome : Outcome}
    (hargs : Command.ofArguments args = .ok (.generate request))
    (houtput : request.output? = some path) (hrun : runIn h t args = (outcome, after))
    (hstatus : outcome.status = 0) :
    ∃ inputs filled, request.inputs t = .ok inputs ∧ inputs.filled h t = .ok filled ∧
      Saves (inputs.config.filesLeft h t filled.grid) path filled after := by
  rw [runIn_generate hargs, Step.on_fill, houtput] at hrun
  obtain ⟨houtcome, hafter⟩ := Prod.mk.inj hrun
  rw [← houtcome] at hstatus
  cases hinputs : request.inputs t with
  | error o =>
      rw [hinputs] at hstatus
      have hzero : o.status = 0 := hstatus
      rw [status_of_inputs hinputs] at hzero
      cases hzero
  | ok inputs =>
      cases hfilled : inputs.filled h t with
      | error reason =>
          simp only [hinputs, hfilled] at hstatus
          exact absurd hstatus (status_fillFailure reason)
      | ok filled =>
          refine ⟨inputs, filled, rfl, hfilled, ?_⟩
          simp only [hinputs, hfilled, Step.on_bind] at hstatus hafter
          rcases Step.on_saveAll_cases h (inputs.config.filesLeft h t filled.grid) path filled with
            ⟨last, hsaves, hon⟩ | ⟨o, last, ho, hon⟩
          · rw [hon] at hafter
            obtain rfl : last = after := hafter
            exact hsaves
          · rw [hon] at hstatus
            exact absurd hstatus ho

end CommandLine

end MarkedSheet
