import MarkedSheet.Coreutils
import MarkedSheet.Proofs.Conversion.Runs
import MarkedSheet.Proofs.Engine.OnDemand
import MarkedSheet.Proofs.Generation.StoredSpans

/-!
# Failing requests

Apart from names that are not in the store and field maps that the store refuses, nothing goes wrong
with valid templates and with field maps that come from compiling valid templates, whatever became of
those templates since, as long as the converter has an answer.  A converter that cannot tell when its
time limit ends has none.
-/

namespace MarkedSheet

namespace Generation

/-- The field map of a valid template never breaks a run, even if another template is filled in. -/
theorem isSome_run?_of_compiled {source : Template} (h : source.Valid) (r : Registry)
    (ctx : Context) (t : Template) : (run? ctx t (source.compile r).fieldMap).isSome := by
  show (run? ctx t (source.fieldMap r)).isSome
  rw [run?, Option.isSome_map, isSome_fillCells?_iff]
  intro g hg _
  rw [Template.cells_fieldMap h.distinct] at hg
  obtain ⟨c, -, rfl⟩ := List.mem_map.1 hg
  exact isSome_cellValue?_group ctx r c

end Generation

/-- A template that comes in is valid. -/
def Request.Valid : Request → Prop
  | insertTemplate t => t.validate = .ok t
  | insertReport _ => True
  | compile _ => True
  | generate _ _ => True

instance : DecidablePred Request.Valid
  | .insertTemplate t => inferInstanceAs (Decidable (t.validate = .ok t))
  | .insertReport _ => .isTrue trivial
  | .compile _ => .isTrue trivial
  | .generate _ _ => .isTrue trivial

namespace Engine

/-- The templates of the store are valid and its field maps come from compiling such templates, which
may have been replaced since. -/
structure Sound (e : Engine) : Prop where
  templates : ∀ t ∈ e.store.templates, t.validate = .ok t
  fieldMaps : ∀ m ∈ e.store.fieldMaps, ∃ (t : Template) (r : Registry),
    t.validate = .ok t ∧ m = (t.compile r).fieldMap

/-- The converter has an answer for every artifact. -/
def Answers (e : Engine) : Prop :=
  ∀ convert ∈ e.converter?, ∀ a, (convert a e.limit).isSome

def withConverter (e : Engine) (converter? : Option Converter) : Engine :=
  { e with converter? := converter? }

variable {e : Engine} {id report : String} {t : Template} {r : Report} {reason : StoreError}

theorem compile_eq_error_iff : (e.compile id).1 = .error reason ↔ e.CompileFails id reason := by
  constructor
  · intro h
    rcases e.compile_kept_or_fails id with ⟨t, -, hcompile⟩ | ⟨other, hfails⟩
    · rw [hcompile] at h
      cases h
    · rw [compile_of_fails hfails] at h
      cases h
      exact hfails
  · intro hfails
    rw [compile_of_fails hfails]

theorem generate_eq_error_iff :
    (e.generate id report).1 = .error (.store reason) ↔ e.GenerateFails id report reason := by
  constructor
  · intro h
    rcases e.generate_filled_or_fails id report with ⟨t, r, -, -, hgenerate⟩ | ⟨other, hfails⟩
    · rw [hgenerate] at h
      exact absurd h fill_ne_refused
    · rw [generate_of_fails hfails] at h
      cases h
      exact hfails
  · intro hfails
    rw [generate_of_fails hfails]

theorem CompileFails.withConverter (h : e.CompileFails id reason)
    (converter? : Option Converter) : (e.withConverter converter?).CompileFails id reason := by
  cases h with
  | template hnone => exact .template hnone
  | fieldMap ht hrefused => exact .fieldMap ht hrefused

theorem GenerateFails.withConverter (h : e.GenerateFails id report reason)
    (converter? : Option Converter) :
    (e.withConverter converter?).GenerateFails id report reason := by
  cases h with
  | template hnone => exact .template hnone
  | report ht hnone => exact .report ht hnone
  | fieldMap ht hr hnone hrefused => exact .fieldMap ht hr hnone hrefused

/-- A configured converter has an answer wherever the clock can show the end of its limit. -/
theorem answers_of_clock {h : Host} {files : FileTree}
    (hconverter : e.converter? = e.config.conversion?.map (Conversion.converter h files))
    (hclock : ∀ d, ((StateT.run h.now d).1.after? e.limit).isSome) : e.Answers := by
  intro convert hconvert a
  rw [hconverter] at hconvert
  obtain ⟨c, -, rfl⟩ := Option.map_eq_some_iff.1 hconvert
  exact Conversion.isSome_converter hclock c files a

theorem Sound.keeping (h : e.Sound) (ht : e.store.template id = .ok t) : (e.keeping t).Sound := by
  have hvalid := h.templates t (Store.mem_of_template ht)
  refine ⟨h.templates, fun m hm => ?_⟩
  rcases Store.mem_putBy hm with rfl | hm
  · exact ⟨t, e.registry, hvalid, rfl⟩
  · exact h.fieldMaps m hm

theorem Sound.prepared (h : e.Sound) (ht : e.store.template id = .ok t) :
    (e.prepared id t).Sound := by
  rw [Engine.prepared]
  cases e.store.fieldMap? id with
  | some m => exact h
  | none => exact h.keeping ht

theorem Sound.serve (h : e.Sound) {request : Request} (hvalid : request.Valid) :
    (e.serve request).Sound := by
  cases request with
  | insertTemplate t =>
      refine ⟨fun s hs => ?_, h.fieldMaps⟩
      rcases Store.mem_putBy hs with rfl | hs
      · exact hvalid
      · exact h.templates s hs
  | insertReport r => exact ⟨h.templates, h.fieldMaps⟩
  | compile id =>
      show (e.compile id).2.Sound
      rcases e.compile_kept_or_fails id with ⟨t, ht, hcompile⟩ | ⟨reason, hfails⟩
      · rw [hcompile]
        exact h.keeping ht
      · rw [compile_of_fails hfails]
        exact h
  | generate id report =>
      show (e.generate id report).2.Sound
      rcases e.generate_filled_or_fails id report with
        ⟨t, r, ht, -, hgenerate⟩ | ⟨reason, hfails⟩
      · rw [hgenerate]
        exact h.prepared ht
      · rw [generate_of_fails hfails]
        exact h

theorem Sound.run (h : e.Sound) {requests : List Request} (hvalid : ∀ q ∈ requests, q.Valid) :
    (e.run requests).Sound := by
  induction requests generalizing e with
  | nil => exact h
  | cons request rest ih =>
      have hserve := h.serve (hvalid request List.mem_cons_self)
      exact ih hserve fun q hq => hvalid q (List.mem_cons_of_mem _ hq)

theorem sound_new (converter : Conversion → Converter) (registry : Registry) (config : Config) :
    (new converter Store.empty registry config).Sound :=
  ⟨fun _ h => (List.not_mem_nil h).elim, fun _ h => (List.not_mem_nil h).elim⟩

/-- The field map by which a template is filled in comes from a valid template. -/
theorem Sound.isSome_run? (h : e.Sound) (ht : e.store.template id = .ok t)
    (ctx : Generation.Context) : (Generation.run? ctx t (e.mapFor id t)).isSome := by
  have hsource : ∃ (source : Template) (registry : Registry), source.Valid ∧
      e.mapFor id t = (source.compile registry).fieldMap := by
    rw [mapFor]
    cases hm : e.store.fieldMap? id with
    | some m =>
        obtain ⟨source, registry, hvalid, hmap⟩ := h.fieldMaps m (List.mem_of_find?_eq_some hm)
        exact ⟨source, registry, Template.validate_eq_ok_iff.1 hvalid, hmap⟩
    | none =>
        have hvalid := h.templates t (Store.mem_of_template ht)
        exact ⟨t, e.registry, Template.validate_eq_ok_iff.1 hvalid, rfl⟩
  obtain ⟨source, registry, hvalid, hmap⟩ := hsource
  rw [hmap]
  exact Generation.isSome_run?_of_compiled hvalid registry ctx t

theorem Sound.fill_ne_misaligned (h : e.Sound) (ht : e.store.template id = .ok t) :
    e.fill t r (e.mapFor id t) ≠ .error .misalignedSpan := by
  obtain ⟨g, hrun⟩ := Option.isSome_iff_exists.1 (h.isSome_run? ht (e.context r))
  intro hfill
  rw [fill_eq, hrun] at hfill
  cases eq_endlessLimit_of_deliver hfill

theorem Sound.exists_fill_eq_ok (h : e.Sound) (hanswers : e.Answers)
    (ht : e.store.template id = .ok t) (r : Report) :
    ∃ out, e.fill t r (e.mapFor id t) = .ok out := by
  obtain ⟨g, hrun⟩ := Option.isSome_iff_exists.1 (h.isSome_run? ht (e.context r))
  obtain ⟨out, hout⟩ := exists_deliver_eq_ok hanswers g
  refine ⟨out, ?_⟩
  rw [fill_eq, hrun]
  exact hout

/-- When requests about a template and a report fail, and what is left then. -/
structure FailsCleanly (e : Engine) (id report : String) : Prop where
  compile_iff : ∀ reason, (e.compile id).1 = .error reason ↔ e.CompileFails id reason
  /-- A failure changes nothing and is the same with any converter. -/
  compile_unchanged : ∀ reason, e.CompileFails id reason → (e.compile id).2 = e ∧
    ∀ converter?, (e.withConverter converter?).compile id =
      (.error reason, e.withConverter converter?)
  generate_iff : ∀ reason,
    (e.generate id report).1 = .error (.store reason) ↔ e.GenerateFails id report reason
  generate_unchanged : ∀ reason, e.GenerateFails id report reason →
    (e.generate id report).2 = e ∧ ∀ converter?, (e.withConverter converter?).generate id report =
      (.error (.store reason), e.withConverter converter?)
  generate_aligned : (e.generate id report).1 ≠ .error .misalignedSpan
  generate_answered : e.Answers → (∀ reason, ¬ e.GenerateFails id report reason) →
    ∃ out, (e.generate id report).1 = .ok out
  /-- Where a field map is kept, the store is not asked to keep another one. -/
  generate_kept : ∀ t r, e.store.template id = .ok t → e.store.report report = .ok r →
    (e.store.fieldMap? id).isSome →
      (e.generate id report).2 = e ∧ (e.Answers → ∃ out, (e.generate id report).1 = .ok out)
  /-- A configured converter has an answer, whatever its program does, when the clock of its host
  can show the end of the time limit. -/
  configured_answers : ∀ (h : Host) (files : FileTree),
    e.converter? = e.config.conversion?.map (Conversion.converter h files) →
      (∀ d, ((StateT.run h.now d).1.after? e.limit).isSome) → e.Answers

/-- Requests fail for want of a name or by a refusal alone, and change nothing when they fail. -/
theorem sound_failsCleanly (e : Engine) (h : e.Sound) (id report : String) :
    e.FailsCleanly id report := by
  constructor
  case compile_iff => exact fun reason => compile_eq_error_iff
  case compile_unchanged =>
    intro reason hfails
    constructor
    · rw [compile_of_fails hfails]
    · intro converter?
      exact compile_of_fails (hfails.withConverter converter?)
  case generate_iff => exact fun reason => generate_eq_error_iff
  case generate_unchanged =>
    intro reason hfails
    constructor
    · rw [generate_of_fails hfails]
    · intro converter?
      exact generate_of_fails (hfails.withConverter converter?)
  case generate_aligned =>
    rcases e.generate_filled_or_fails id report with ⟨t, r, ht, -, hgenerate⟩ | ⟨reason, hfails⟩
    · rw [hgenerate]
      exact h.fill_ne_misaligned ht
    · rw [generate_of_fails hfails]
      simp
  case generate_answered =>
    intro hanswers hnever
    rcases e.generate_filled_or_fails id report with ⟨t, r, ht, -, hgenerate⟩ | ⟨reason, hfails⟩
    · rw [hgenerate]
      exact h.exists_fill_eq_ok hanswers ht r
    · exact absurd hfails (hnever reason)
  case generate_kept =>
    intro t r ht hr hsome
    obtain ⟨m, hm⟩ := Option.isSome_iff_exists.1 hsome
    have hmap : e.mapFor id t = m := by rw [mapFor, hm, Option.getD_some]
    rw [generate_of_fieldMap? ht hr hm, ← hmap]
    exact ⟨rfl, fun hanswers => h.exists_fill_eq_ok hanswers ht r⟩
  case configured_answers =>
    exact fun host files hconverter hclock => answers_of_clock hconverter hclock

/-- A configuration that converts by copying, within a number of seconds. -/
def copyConfig (seconds : Nat) : Config :=
  { Config.standard with
    conversion? := some ⟨"cp", Conversion.defaultArgs, seconds, Conversion.defaultExtension⟩ }

def plainTemplate (id text : String) : Template :=
  ⟨id, [(Page.new "p").withCell ⟨1, 1⟩ text]⟩

/-- The converter of a conversion beside no other files. -/
def copying : Conversion → Converter :=
  Conversion.converter Coreutils.host (.ofFiles [] [])

/-- An engine that keeps a field map for one of two templates, compiled before it was replaced. -/
def halfCompiled (seconds : Nat) : Engine :=
  (new copying Store.empty Registry.standard (copyConfig seconds)).run
    [.insertTemplate (plainTemplate "t" "[a]"), .insertTemplate (plainTemplate "u" "[#dt_name]"),
      .insertReport { Report.new "r" with fieldValues := [("a", .text "v")] }, .compile "t",
      .insertTemplate (plainTemplate "t" "[b] and [c]")]

/-- The same engine when its store takes no more field maps. -/
def refusing (seconds : Nat) : Engine :=
  (halfCompiled seconds).withStore ((halfCompiled seconds).store.refusing (some "disk full"))

theorem sound_refusing (seconds : Nat) : (refusing seconds).Sound := by
  have hrun : (halfCompiled seconds).Sound := (sound_new _ _ _).run (by decide)
  exact ⟨hrun.templates, hrun.fieldMaps⟩

theorem refusing_failsCleanly :
    (refusing 60).Sound ∧ (refusing 60).FailsCleanly "u" "r" ∧
      (refusing 60).GenerateFails "u" "r" (.backend "disk full") :=
  ⟨sound_refusing 60, sound_failsCleanly _ (sound_refusing 60) "u" "r",
    .fieldMap (t := plainTemplate "u" "[#dt_name]") rfl rfl rfl rfl⟩

/-- With a time limit that no clock can show the end of, nothing comes of a report although a field
map is kept for its template. -/
theorem endlessLimit_breaks :
    (refusing 18446744073709551615).Sound ∧
      (∃ t r, (refusing 18446744073709551615).store.template "t" = .ok t ∧
        (refusing 18446744073709551615).store.report "r" = .ok r) ∧
      ((refusing 18446744073709551615).store.fieldMap? "t").isSome ∧
      ((refusing 18446744073709551615).generate "t" "r").1 = .error .endlessLimit :=
  ⟨sound_refusing _, ⟨_, _, rfl, rfl⟩, rfl, by decide⟩

end Engine

end MarkedSheet
