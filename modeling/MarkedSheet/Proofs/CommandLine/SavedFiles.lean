import MarkedSheet.Proofs.CommandLine.Extensions
import MarkedSheet.Proofs.CommandLine.Runs
import MarkedSheet.Proofs.Conversion.Coreutils
import MarkedSheet.Proofs.Toml.Documents

/-!
# Files that are saved

A run that fills in a template and ends well saves the grid under the name that was asked for, and
beside it the converted document if that has another format.  The converted document takes the place
of the grid when the name has its extension already, and it is not saved at all when its extension is
that of grids.  The run writes nothing else; what else the program of a conversion does is its own
affair, and nothing when it keeps to its directory.
-/

namespace MarkedSheet

/-- A grid is converted, and this comes of it. -/
def Config.Converts (config : Config) (h : Host) (t : FileTree) (grid : FilledGrid)
    (a : Artifact) : Prop :=
  ∃ c, config.conversion? = some c ∧
    c.converter h t (Engine.artifactOf grid) c.limit = some (.ok a)

/-- The program that converts a grid, if there is one, keeps to its directory. -/
def Config.Confined (config : Config) (h : Host) (t : FileTree) (grid : FilledGrid) : Prop :=
  ∀ c, config.conversion? = some c → c.Confined h t (Engine.artifactOf grid)

section

variable {config : Config} {h : Host} {t : FileTree} {grid : FilledGrid} {a b : Artifact}

theorem Config.Converts.eq (ha : config.Converts h t grid a) (hb : config.Converts h t grid b) :
    a = b := by
  obtain ⟨c, hc, hanswer⟩ := ha
  obtain ⟨d, hd, hother⟩ := hb
  cases hc.symm.trans hd
  cases hanswer.symm.trans hother
  rfl

theorem Config.current_filesLeft (config : Config) (h : Host) (t : FileTree) (grid : FilledGrid) :
    (config.filesLeft h t grid).current = t.current := by
  unfold Config.filesLeft
  cases config.conversion? with
  | none => rfl
  | some c => exact Conversion.current_convert h c _ c.limit t

/-- A program that keeps to its directory leaves all files as they were. -/
theorem Config.sameFiles_filesLeft (htidy : Machine.Tidy h) (hconfined : config.Confined h t grid) :
    t.SameFiles (config.filesLeft h t grid).toDisk := by
  unfold Config.filesLeft
  cases hconversion : config.conversion? with
  | none => exact fun p => rfl
  | some c =>
      have hslash : '/' ∉ (Engine.artifactOf grid).extension.toList := by
        change '/' ∉ "toml".toList
        decide
      exact Conversion.sameFiles_convert htidy hslash (hconfined c hconversion)

end

/-- A content is kept at a place, unless nothing is kept there. -/
def FileTree.Keeps (t : FileTree) (p : Location) (bytes : Bytes) : Prop :=
  p ≠ Location.nullDevice → t.bytes? p = some bytes

namespace CommandLine

/-- What a run leaves that saves a grid under a name. -/
structure IsSaved (h : Host) (t after : FileTree) (name : String) (config : Config)
    (grid : FilledGrid) : Prop where
  /-- The grid is kept, unless the converted document has its name. -/
  kept : (∀ a, config.Converts h t grid a → a.extension ≠ "toml" →
      ¬ HasExtension name a.extension) →
    after.Keeps (t.current ++ [name]) (.ofText grid.toToml)
  /-- A document in another format is kept beside it, under its own extension. -/
  beside : ∀ a, config.Converts h t grid a → a.extension ≠ "toml" →
    after.Keeps (t.current ++ [withExtension name a.extension]) a.bytes
  configured : ∀ a, config.Converts h t grid a →
    ∃ c, config.conversion? = some c ∧ a.extension = c.extension
  apart_iff : ∀ a, config.Converts h t grid a → a.extension ≠ "toml" →
    (withExtension name a.extension ≠ name ↔ ¬ HasExtension name a.extension)
  /-- Once a conversion is over, no other file is written. -/
  written : ∀ p, p ≠ t.current ++ [name] →
    (∀ a, config.Converts h t grid a → a.extension ≠ "toml" →
      p ≠ t.current ++ [withExtension name a.extension]) →
    after.bytes? p = (config.filesLeft h t grid).bytes? p
  others : Machine.Tidy h → config.Confined h t grid → ∀ p, p ≠ t.current ++ [name] →
    (∀ a, config.Converts h t grid a → a.extension ≠ "toml" →
      p ≠ t.current ++ [withExtension name a.extension]) →
    after.bytes? p = t.bytes? p

/-- What is expected of such a run: it keeps the grid, and what the grid was converted to in another
file beside it. -/
structure IsSavedApart (h : Host) (t after : FileTree) (name : String) (config : Config)
    (grid : FilledGrid) : Prop where
  kept : after.Keeps (t.current ++ [name]) (.ofText grid.toToml)
  beside : ∀ a, config.Converts h t grid a → withExtension name a.extension ≠ name ∧
    after.Keeps (t.current ++ [withExtension name a.extension]) a.bytes
  others : Machine.Tidy h → config.Confined h t grid → ∀ p, p ≠ t.current ++ [name] →
    (∀ a, config.Converts h t grid a → p ≠ t.current ++ [withExtension name a.extension]) →
    after.bytes? p = t.bytes? p

end CommandLine

namespace Engine

variable {e : Engine} {g : Generation} {out : FilledReport} {h : Host} {t : FileTree}

/-- An artifact in another format than that of grids comes from a conversion. -/
theorem artifact?_of_deliver
    (hconverter : e.converter? = e.config.conversion?.map (Conversion.converter h t))
    (hdeliver : e.deliver g = .ok out) (a : Artifact) :
    out.artifact? = some a ∧ a.extension ≠ "toml" ↔
      e.config.Converts h t g.grid a ∧ a.extension ≠ "toml" := by
  rw [deliver_eq, hconverter] at hdeliver
  cases hconversion : e.config.conversion? with
  | none =>
      simp only [hconversion, Option.map_none] at hdeliver
      cases hdeliver
      simp [Config.Converts, hconversion]
  | some c =>
      have hlimit : e.limit = c.limit := by rw [limit, hconversion]
      simp only [hconversion, Option.map_some, hlimit] at hdeliver
      cases hanswer : c.converter h t (artifactOf g.grid) c.limit with
      | none => simp [hanswer] at hdeliver
      | some answer =>
          simp only [hanswer, Option.map_some, Except.ok.injEq] at hdeliver
          subst hdeliver
          cases answer with
          | ok b =>
              have hout : (delivered g
                  (Converter.Outcome.ofAnswer (artifactOf g.grid) (.ok b))).artifact? = some b := rfl
              rw [hout, Option.some.injEq]
              refine and_congr_left fun _ => ⟨?_, ?_⟩
              · rintro rfl
                exact ⟨c, hconversion, hanswer⟩
              · exact fun hb => Config.Converts.eq ⟨c, hconversion, hanswer⟩ hb
          | error reason =>
              -- The grid itself is left, as it was written.
              constructor
              · rintro ⟨ha, htoml⟩
                exact absurd (congrArg Artifact.extension (Option.some.inj ha)).symm htoml
              · rintro ⟨⟨d, hd, hb⟩, -⟩
                cases hconversion.symm.trans hd
                cases hanswer.symm.trans hb

end Engine

namespace CommandLine

variable {h : Host} {t after : FileTree} {name : String} {inputs : Inputs} {filled : FilledReport}

/-- What is saved beside a grid is what it was converted to, in another format. -/
theorem companion?_of_filled (hfilled : inputs.filled h t = .ok filled) (a : Artifact) :
    companion? filled = some a ↔
      inputs.config.Converts h t filled.grid a ∧ a.extension ≠ "toml" := by
  rw [companion?, Option.filter_eq_some_iff, decide_eq_true_eq]
  rcases (inputs.engine h t).generate_cases inputs.template.id inputs.report.id with
    ⟨s, r, -, -, hgenerate⟩ | ⟨reason, hrefused⟩
  · rw [Inputs.filled, hgenerate] at hfilled
    obtain ⟨g, -, hdeliver⟩ := Engine.exists_of_fill_eq_ok hfilled
    rw [(Engine.of_deliver_eq_ok hdeliver).1]
    exact Engine.artifact?_of_deliver rfl hdeliver a
  · rw [Inputs.filled, hrefused] at hfilled
    cases hfilled

theorem isSaved_of_saves (hslash : '/' ∉ name.toList) (hfilled : inputs.filled h t = .ok filled)
    (hsaves : Saves (inputs.config.filesLeft h t filled.grid) name filled after) :
    IsSaved h t after name inputs.config filled.grid := by
  have hcurrent := inputs.config.current_filesLeft h t filled.grid
  have hconfigured : ∀ a, inputs.config.Converts h t filled.grid a →
      ∃ c, inputs.config.conversion? = some c ∧ a.extension = c.extension := by
    rintro a ⟨c, hc, hanswer⟩
    exact ⟨c, hc, Conversion.extension_of_converter hanswer⟩
  obtain ⟨middle, hgrid, hbeside⟩ := hsaves
  obtain ⟨rfl, hempty, hpoint, -⟩ := FileTree.eq_of_write_name hslash hgrid
  rw [hcurrent] at hbeside
  rcases hbeside with ⟨hnone, rfl⟩ | ⟨a, hsome, hextension, hwrite⟩
  · have hnever : ∀ a, inputs.config.Converts h t filled.grid a → ¬ a.extension ≠ "toml" := by
      intro a ha htoml
      have hcompanion := (companion?_of_filled hfilled a).2 ⟨ha, htoml⟩
      rw [hnone] at hcompanion
      cases hcompanion
    exact {
      kept := fun _ hnull => Disk.bytes?_put_self hnull
      beside := fun a ha htoml => absurd htoml (hnever a ha)
      configured := hconfigured
      apart_iff := fun a ha htoml => absurd htoml (hnever a ha)
      written := fun p hp _ => Disk.bytes?_put_of_ne hp
      others := fun htidy hconfined p hp _ =>
        (Disk.bytes?_put_of_ne hp).trans (Config.sameFiles_filesLeft htidy hconfined p) }
  · obtain ⟨hconverts, htoml⟩ := (companion?_of_filled hfilled a).1 hsome
    obtain ⟨rfl, -, -, hpoints⟩ :=
      FileTree.eq_of_write_name (not_mem_withExtension hslash hextension) hwrite
    have hsame := withExtension_eq_self_iff hslash hempty hpoint hpoints
    rw [FileTree.current_put, hcurrent]
    -- There is no other document that the grid is converted to.
    have honly : ∀ b, inputs.config.Converts h t filled.grid b → b = a :=
      fun b hb => hb.eq hconverts
    constructor
    case kept =>
      intro hfree hnull
      have hother : t.current ++ [name] ≠ t.current ++ [withExtension name a.extension] := by
        rw [ne_eq, List.append_cancel_left_eq, List.singleton_inj]
        exact fun heq => hfree a hconverts htoml (hsame.1 heq.symm)
      exact (Disk.bytes?_put_of_ne hother).trans (Disk.bytes?_put_self hnull)
    case beside =>
      intro b hb _ hnull
      rw [honly b hb] at hnull ⊢
      exact Disk.bytes?_put_self hnull
    case configured => exact hconfigured
    case apart_iff =>
      intro b hb _
      rw [honly b hb]
      exact not_congr hsame
    case written =>
      exact fun p hp hother => FileTree.bytes?_put_put_of_ne hp (hother a hconverts htoml)
    case others =>
      intro htidy hconfined p hp hother
      exact (FileTree.bytes?_put_put_of_ne hp (hother a hconverts htoml)).trans
        (Config.sameFiles_filesLeft htidy hconfined p)

section Emptied

open Toml

/-! A template without pages is filled in, and the converter leaves an empty file. -/

def emptyingText (extension : String) : String :=
  "\n[conversion]\nprogram = \"cp\"\nargs = [\"/dev/null\", \"\x7boutput\x7d\"]\n" ++
    "extension = \"" ++ extension ++ "\"\n"

def emptyingEntries (extension : String) : Table :=
  [("program", .string "cp"), ("args", .array (["/dev/null", "\x7boutput\x7d"].map .string)),
    ("extension", .string extension)]

def emptying (extension : String) : Conversion :=
  ⟨"cp", ["/dev/null", "\x7boutput\x7d"], 60, extension⟩

def emptyingConfig (extension : String) : Config :=
  { Config.standard with conversion? := some (emptying extension) }

def emptyingTree (extension : String) : FileTree where
  directories := [["tmp"], ["work"]]
  files := [(["work", "t.toml"], .ofText "id = \"t\"\n"),
    (["work", "r.toml"], .ofText "id = \"r\"\n"),
    (["work", "c.toml"], .ofText (emptyingText extension))]
  current := ["work"]

def emptyingRequest : Request :=
  ⟨"t.toml", "r.toml", none, some "c.toml", some "o.xml"⟩

def emptyingArgs : List String :=
  ["generate", "t.toml", "r.toml", "-c", "c.toml", "-o", "o.xml"]

def emptyingInputs (extension : String) : Inputs :=
  ⟨emptyingConfig extension, ⟨"t", []⟩, Report.new "r", []⟩

def emptyingFilled (extension : String) : FilledReport where
  grid := ⟨"t", "r", []⟩
  placement := ⟨[], 0, 0⟩
  diagnostics := [Template.noMarkers ⟨"t", []⟩]
  artifact? := some ⟨#[], extension⟩

theorem printable_id (id : String) : Printable 0 [("id", .string id)] := by
  have hnames : ["id"].Nodup ∧ ∀ k ∈ ["id"], IsBare k := by decide
  exact printable_of_plain hnames.1 hnames.2 (by simp [Item.Plain.string])

theorem printable_emptying (extension : String) :
    Printable 1 [("conversion", .table (emptyingEntries extension))] := by
  have hnames : ["program", "args", "extension"].Nodup ∧
      ∀ k ∈ ["program", "args", "extension"], IsBare k := by decide
  have hentries : Printable 0 (emptyingEntries extension) :=
    printable_of_plain hnames.1 hnames.2 (by
      simpa [emptyingEntries] using
        ⟨Item.Plain.string "cp", Item.Plain.strings ["/dev/null", "\x7boutput\x7d"],
          Item.Plain.string extension⟩)
  have hname : ["conversion"].Nodup ∧ ∀ k ∈ ["conversion"], IsBare k := by decide
  exact ⟨hname.1, bare_of_names hname.2, [], _, rfl, by simp, by simpa using .table hentries⟩

theorem read_emptying (extension : String) :
    (emptyingTree extension).read "t.toml" = .ok (.ofText "id = \"t\"\n") ∧
      (emptyingTree extension).read "r.toml" = .ok (.ofText "id = \"r\"\n") ∧
      (emptyingTree extension).read "c.toml" = .ok (.ofText (emptyingText extension)) :=
  ⟨rfl, rfl, rfl⟩

theorem ofToml_emptying {extension : String} (htext : emptyingText extension =
    print [("conversion", .table (emptyingEntries extension))]) :
    Config.ofToml (emptyingText extension) = .ok (emptyingConfig extension) := by
  have hdecode : Config.record.lenient "EngineConfig"
      (.table [("conversion", .table (emptyingEntries extension))]) =
        .ok (emptyingConfig extension) := rfl
  rw [htext, Config.ofToml]
  exact load_print (printable_emptying extension) (by decide) hdecode

theorem ofToml_template : Template.ofToml "id = \"t\"\n" = .ok ⟨"t", []⟩ := by
  have htext : "id = \"t\"\n" = print [("id", .string "t")] := rfl
  have hdecode : Template.record.lenient "Template" (.table [("id", .string "t")]) =
      .ok ⟨"t", []⟩ := rfl
  rw [htext, Template.ofToml, load_print (printable_id "t") (by decide) hdecode]
  rfl

theorem ofToml_report : Report.ofToml "id = \"r\"\n" = .ok (Report.new "r") := by
  have htext : "id = \"r\"\n" = print [("id", .string "r")] := rfl
  have hdecode : Report.record.lenient "Report" (.table [("id", .string "r")]) =
      .ok (Report.new "r") := rfl
  rw [htext, Report.ofToml]
  exact load_print (printable_id "r") (by decide) hdecode

theorem inputs_emptying {extension : String} (htext : emptyingText extension =
    print [("conversion", .table (emptyingEntries extension))]) :
    emptyingRequest.inputs (emptyingTree extension) = .ok (emptyingInputs extension) := by
  obtain ⟨htemplate, hreport, hconfig⟩ := read_emptying extension
  have hconfig : loaded (emptyingTree extension) FileKind.config "c.toml" =
      .ok (emptyingConfig extension) :=
    loaded_eq_ok hconfig (decode_config_iff.2 (ofToml_emptying htext))
  have htemplate : loaded (emptyingTree extension) FileKind.template "t.toml" = .ok ⟨"t", []⟩ :=
    loaded_eq_ok htemplate (decode_template_iff.2 ofToml_template)
  have hreport : loaded (emptyingTree extension) FileKind.report "r.toml" =
      .ok (Report.new "r") :=
    loaded_eq_ok hreport (decode_report_iff.2 ofToml_report)
  have hconfigOr : loadedOr (emptyingTree extension) FileKind.config Config.standard
      emptyingRequest.config? = .ok (emptyingConfig extension) := hconfig
  rw [Request.inputs, hconfigOr, emptyingRequest]
  dsimp only
  rw [htemplate, hreport]
  rfl

theorem filled_emptying_xml : (emptyingInputs "xml").filled Coreutils.host (emptyingTree "xml") =
    .ok (emptyingFilled "xml") := by
  decide +kernel

def emptyingGridText : String :=
  "template_id = \"t\"\nreport_id = \"r\"\npages = []\n"

theorem ofArguments_emptying : Command.ofArguments emptyingArgs = .ok (.generate emptyingRequest) :=
  rfl

theorem output?_emptying : emptyingRequest.output? = some "o.xml" :=
  rfl

theorem runIn_emptying {extension : String} {after : FileTree} (htext : emptyingText extension =
      print [("conversion", .table (emptyingEntries extension))])
    (hfilled : (emptyingInputs extension).filled Coreutils.host (emptyingTree extension) =
      .ok (emptyingFilled extension))
    (hsaved : Step.on (saveAll (FileTree.surroundings Coreutils.host) "o.xml"
        (emptyingFilled extension))
      ((emptyingConfig extension).filesLeft Coreutils.host (emptyingTree extension)
        (emptyingFilled extension).grid) = (.ok (), after)) :
    runIn Coreutils.host (emptyingTree extension) emptyingArgs = (.success "", after) := by
  have hconfig : (emptyingInputs extension).config = emptyingConfig extension := rfl
  rw [runIn_generate ofArguments_emptying, Step.on_fill, inputs_emptying htext]
  simp only [hfilled, hconfig, output?_emptying, Step.on_bind, hsaved]
  rfl

/-- The files after a run that saved these. -/
def emptyingAfter (extension : String) (saved : List (Location × Bytes)) : FileTree :=
  { emptyingTree extension with files := (emptyingTree extension).files ++ saved }

def afterPdf : FileTree :=
  emptyingAfter "pdf" [(["work", "o.xml"], .ofText emptyingGridText), (["work", "o.pdf"], #[])]

def afterXml : FileTree :=
  emptyingAfter "xml" [(["work", "o.xml"], #[])]

theorem runIn_pdf : runIn Coreutils.host (emptyingTree "pdf") emptyingArgs =
    (.success "", afterPdf) :=
  runIn_emptying rfl (by decide +kernel) (by decide +kernel)

theorem runIn_xml : runIn Coreutils.host (emptyingTree "xml") emptyingArgs =
    (.success "", afterXml) :=
  runIn_emptying rfl filled_emptying_xml (by decide +kernel)

/-- The empty file is made in the directory of the conversion. -/
theorem confined_emptying {extension : String} {t : FileTree} {grid : FilledGrid}
    (hargs : (emptying extension).arguments Coreutils.workDirectory.path "toml" =
      ["/dev/null", (Coreutils.workDirectory ++ ["output." ++ extension]).path])
    (hplain : Location.IsPlain (Coreutils.workDirectory ++ ["output." ++ extension])) :
    (emptyingConfig extension).Confined Coreutils.host t grid := by
  rintro c ⟨⟩ place started ⟨hplace, d, hmake, -⟩
  have hpath : place.path = Coreutils.workDirectory.path := by
    change Coreutils.makeDirectory t.toDisk = _ at hmake
    rw [Coreutils.makeDirectory] at hmake
    split at hmake
    · exact (Except.ok.inj (Prod.mk.inj hmake).1).symm
    · cases hmake
  have hwork : place = Coreutils.workDirectory := by
    rw [← Location.names_path hplace, hpath, Location.names_path (by decide)]
  rw [hpath, hwork]
  change started.SameOutside _ (StateT.run (Coreutils.host.start "cp"
    ((emptying extension).arguments Coreutils.workDirectory.path "toml") _ _) started.toDisk).2
  rw [hargs]
  exact Coreutils.sameOutside_start_copy hplain (by decide) _ _ _

end Emptied

end CommandLine

end MarkedSheet
