import MarkedSheet.Proofs.Engine.Requests
import MarkedSheet.Proofs.Generation.Runs

/-!
# Compilation on demand

To fill in a template that was never compiled comes to the same as to compile it first.  Either way
the reports of the compilation come with the filled report, each of them once, and a report that is
asked for again is the same.
-/

namespace MarkedSheet

/-- The diagnostics of a filled report are the given ones, then one about items without room if
there are any, and at last one about the conversion if it failed. -/
def FilledReport.Lists (out : FilledReport) (first : List Diagnostic) : Prop :=
  ∃ overflow? conversion? : Option Diagnostic,
    out.diagnostics = first ++ overflow?.toList ++ conversion?.toList ∧
    (overflow?.isSome ↔ 0 < out.placement.overflow) ∧
    (∀ d ∈ overflow?, d.category = .overflow) ∧ ∀ d ∈ conversion?, d.category = .conversion

namespace Engine

variable {e : Engine} {id report : String} {t : Template} {r : Report}

theorem lists_of_generate_eq_ok (h : e.Accepting) (ht : e.store.template id = .ok t)
    (hr : e.store.report report = .ok r) (hmap : e.UpToDate id t) {out : FilledReport}
    (hout : (e.generate id report).1 = .ok out) :
    out.Lists (t.compile e.registry).diagnostics := by
  rw [generate_of_found h ht hr, hmap.mapFor_eq] at hout
  obtain ⟨g, hrun, hdeliver⟩ := exists_of_fill_eq_ok hout
  obtain ⟨-, hplacement, conversion?, hdiagnostics, hconversion⟩ := of_deliver_eq_ok hdeliver
  obtain ⟨-, -, hlisted⟩ := Generation.of_run?_eq_some hrun
  refine ⟨Generation.overflowDiagnostic? g.placement r.lineItems.length, conversion?, ?_, ?_, ?_,
    hconversion⟩
  · rw [hdiagnostics, hlisted]
    rfl
  · rw [hplacement]
    exact Generation.isSome_overflowDiagnostic?_iff
  · exact fun d hd => Generation.category_overflowDiagnostic? hd

theorem exists_deliver_eq_ok (hanswer : ∀ convert ∈ e.converter?, ∀ a, (convert a e.limit).isSome)
    (g : Generation) : ∃ out, e.deliver g = .ok out := by
  rw [deliver_eq]
  cases hconverter : e.converter? with
  | none => exact ⟨_, rfl⟩
  | some convert =>
      have hsome := hanswer convert hconverter (artifactOf g.grid)
      obtain ⟨answer, ha⟩ := Option.isSome_iff_exists.1 hsome
      simp only [ha]
      exact ⟨_, rfl⟩

/-- A valid template is filled in by its own field map when the converter has an answer. -/
theorem exists_generate_eq_ok (h : e.Accepting) (ht : e.store.template id = .ok t)
    (hr : e.store.report report = .ok r) (hmap : e.UpToDate id t) (hvalid : t.Valid)
    (hanswer : ∀ convert ∈ e.converter?, ∀ a, (convert a e.limit).isSome) :
    ∃ out, (e.generate id report).1 = .ok out := by
  obtain ⟨g, hrun, -⟩ := Generation.run?_fieldMap hvalid (e.context r)
  obtain ⟨out, hout⟩ := exists_deliver_eq_ok hanswer g
  change Generation.run? (e.context r) t (t.fieldMap e.registry) = some g at hrun
  refine ⟨out, ?_⟩
  rw [generate_of_found h ht hr, hmap.mapFor_eq]
  simp only [fill_eq, hrun]
  exact hout

structure AgreesWithCompile (e : Engine) (id report : String) (t : Template) : Prop where
  onDemand : e.store.fieldMap? id = none →
    e.generate id report = (e.compile id).2.generate id report
  listed : e.UpToDate id t → ∀ out, (e.generate id report).1 = .ok out →
    ∃ c, (e.compile id).1 = .ok c ∧ out.Lists c.diagnostics
  settled : (e.store.fieldMap? id).isSome → (e.generate id report).2 = e
  repeated : (e.generate id report).2.generate id report = e.generate id report
  /-- There is a report unless the template is not valid or its conversion never ends. -/
  answered : e.UpToDate id t → t.validate = .ok t →
    (∀ convert ∈ e.converter?, ∀ a, (convert a e.limit).isSome) →
      ∃ out, (e.generate id report).1 = .ok out

/-- Compilation on demand agrees with compilation on request. -/
theorem generate_agreesWithCompile (e : Engine) (h : e.Accepting) (id report : String)
    (t : Template) (r : Report) (ht : e.store.template id = .ok t)
    (hr : e.store.report report = .ok r) : AgreesWithCompile e id report t := by
  have hgenerate := congrArg Prod.snd (generate_of_found h ht hr)
  have hcompile := compile_of_template h ht
  constructor
  case onDemand =>
    intro hnone
    have hprepared : e.prepared id t = e.keeping t := by rw [prepared, hnone]
    rw [hcompile, ← generate_prepared h ht hr, hprepared]
  case listed =>
    intro hmap out hout
    exact ⟨t.compile e.registry, by rw [hcompile], lists_of_generate_eq_ok h ht hr hmap hout⟩
  case settled =>
    intro hsome
    obtain ⟨m, hm⟩ := Option.isSome_iff_exists.1 hsome
    exact hgenerate.trans (prepared_of_fieldMap? hm)
  case repeated =>
    rw [hgenerate]
    exact generate_prepared h ht hr
  case answered =>
    intro hmap hvalidate hanswer
    have hvalid : t.Valid := Template.validate_eq_ok_iff.1 hvalidate
    exact exists_generate_eq_ok h ht hr hmap hvalid hanswer

/-- A template with faults of several kinds. -/
def faultyTemplate : Template :=
  ⟨"t", [((((Page.new "p").withCell ⟨1, 1⟩ "[#dt_name]").withCell ⟨1, 2⟩ "[a").withCell ⟨2, 1⟩
    "[] [#dt_end]").withCell ⟨2, 2⟩ "[#none] [#dt_end]"]⟩

/-- An engine that has a template and a report and has not compiled anything. -/
def demanded : Engine :=
  (starting Registry.standard Config.standard (some (Converter.slow "slow"))).run
    [.insertTemplate faultyTemplate,
      .insertReport { Report.new "r" with lineItems := [.named "lead", .named "zinc"] }]

theorem demanded_agreesWithCompile :
    demanded.Accepting ∧ demanded.store.template "t" = .ok faultyTemplate ∧
      AgreesWithCompile demanded "t" "r" faultyTemplate :=
  ⟨rfl, rfl, generate_agreesWithCompile demanded rfl "t" "r" faultyTemplate
    { Report.new "r" with lineItems := [.named "lead", .named "zinc"] } rfl rfl⟩

end Engine

end MarkedSheet
