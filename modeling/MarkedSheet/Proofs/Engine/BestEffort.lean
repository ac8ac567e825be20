import MarkedSheet.Proofs.Engine.Failures

/-!
# Conversion is best effort

A converter may give any answer to a document, good or bad.  Whatever it is, a report is refused or
filled in as without the converter, the store is left with the same, and the only traces are the
artifact and, after a failure, one more diagnostic.  The converter is asked about the written grid,
within the configured time limit, and about nothing else.
-/

namespace MarkedSheet

/-- What becomes of a report that was filled in without a converter, by the answer of a converter to
its document. -/
inductive FilledReport.Converted (plain : FilledReport) :
    Except ConversionError Artifact → FilledReport → Prop where
  | converted (a : Artifact) : Converted plain (.ok a) { plain with artifact? := some a }
  | kept (reason : ConversionError) : Converted plain (.error reason)
      { plain with
        artifact? := some ⟨.ofText plain.grid.toToml, "toml"⟩
        diagnostics := plain.diagnostics ++
          [.general .conversion (reason.message ++ "; returning the unconverted .toml output")] }

/-- An answer decides what becomes of a report. -/
theorem FilledReport.Converted.eq {plain out other : FilledReport}
    {answer : Except ConversionError Artifact} (h : plain.Converted answer out)
    (hother : plain.Converted answer other) : out = other := by
  cases h with
  | converted a => cases hother with | converted => rfl
  | kept reason => cases hother with | kept => rfl

namespace Engine

/-- The engine with a converter that gives these answers. -/
def answeredBy (e : Engine) (f : Artifact → Duration → Except ConversionError Artifact) : Engine :=
  e.withConverter (some (.answering f))

def withoutConverter (e : Engine) : Engine :=
  e.withConverter none

variable {e : Engine} {id report : String} {t : Template} {r : Report}

section AnyConverter

variable (converter? : Option Converter)

theorem compile_withConverter (e : Engine) (id : String) :
    (e.withConverter converter?).compile id =
      ((e.compile id).1, (e.compile id).2.withConverter converter?) := by
  have hstore : (e.withConverter converter?).store = e.store := rfl
  have hregistry : (e.withConverter converter?).registry = e.registry := rfl
  rw [compile, compile, hstore, hregistry]
  cases e.store.template id with
  | error reason => rfl
  | ok t =>
      dsimp only
      cases e.store.persist (t.compile e.registry).fieldMap with
      | error reason => rfl
      | ok store => rfl

theorem prepared_withConverter (id : String) (t : Template) :
    (e.withConverter converter?).prepared id t = (e.prepared id t).withConverter converter? := by
  have hstore : (e.withConverter converter?).store = e.store := rfl
  rw [prepared, prepared, hstore]
  cases e.store.fieldMap? id with
  | some m => rfl
  | none => rfl

/-- A request that is filled in without regard to the converter is so with any other one. -/
theorem generate_withConverter_of_filled {m : FieldMap} (ht : e.store.template id = .ok t)
    (hr : e.store.report report = .ok r)
    (hfilled : e.generate id report = (e.fill t r m, e.prepared id t)) :
    (e.withConverter converter?).generate id report =
      ((e.withConverter converter?).fill t r (e.mapFor id t),
        (e.prepared id t).withConverter converter?) := by
  rcases (e.withConverter converter?).generate_filled_or_fails id report with
    ⟨s, q, hs, hq, hgenerate⟩ | ⟨reason, hfails⟩
  · obtain rfl : t = s := Except.ok.inj (ht.symm.trans hs)
    obtain rfl : r = q := Except.ok.inj (hr.symm.trans hq)
    rw [hgenerate, prepared_withConverter]
    rfl
  · -- The reason for the refusal would hold of the engine itself as well.
    have hrefused : e.generate id report = (.error (.store reason), e) :=
      generate_of_fails (hfails.withConverter e.converter?)
    rw [hfilled] at hrefused
    exact absurd (congrArg Prod.fst hrefused) fill_ne_refused

end AnyConverter

/-- A request is refused with every converter, or filled in with every converter by the same field
map and with the same changes to the store. -/
theorem generate_refused_or_filled (e : Engine) (id report : String) :
    (∃ reason, ∀ converter?, (e.withConverter converter?).generate id report =
        (.error (.store reason), e.withConverter converter?)) ∨
      ∃ (t : Template) (r : Report) (m : FieldMap) (after : Engine),
        ∀ converter?, (e.withConverter converter?).generate id report =
          ((e.withConverter converter?).fill t r m, after.withConverter converter?) := by
  rcases e.generate_filled_or_fails id report with ⟨t, r, ht, hr, hfilled⟩ | ⟨reason, hfails⟩
  · exact Or.inr ⟨t, r, e.mapFor id t, e.prepared id t, fun converter? =>
      generate_withConverter_of_filled converter? ht hr hfilled⟩
  · exact Or.inl ⟨reason, fun converter? => generate_of_fails (hfails.withConverter converter?)⟩

/-- No converter makes a difference to the engine after a request. -/
theorem serve_withConverter (e : Engine) (request : Request) (converter? : Option Converter) :
    (e.withConverter converter?).serve request = (e.serve request).withConverter converter? := by
  cases request with
  | insertTemplate t => rfl
  | insertReport r => rfl
  | compile id =>
      change ((e.withConverter converter?).compile id).2 = _
      rw [compile_withConverter]
      rfl
  | generate id report =>
      change ((e.withConverter converter?).generate id report).2 =
        (e.generate id report).2.withConverter converter?
      -- The engine is the one with its own converter.
      have hself : e.generate id report = (e.withConverter e.converter?).generate id report := rfl
      rcases e.generate_refused_or_filled id report with ⟨reason, h⟩ | ⟨t, r, m, after, h⟩
      · rw [hself, h, h]
        rfl
      · rw [hself, h, h]
        rfl

theorem run_withConverter (e : Engine) (requests : List Request) (converter? : Option Converter) :
    (e.withConverter converter?).run requests = (e.run requests).withConverter converter? := by
  induction requests generalizing e with
  | nil => rfl
  | cons request rest ih =>
      have hrest := ih (e.serve request)
      rw [← serve_withConverter] at hrest
      exact hrest

theorem deliver_answeredBy (e : Engine)
    (f : Artifact → Duration → Except ConversionError Artifact) (g : Generation) :
    (e.answeredBy f).deliver g =
      .ok (delivered g (.ofAnswer (artifactOf g.grid) (f (artifactOf g.grid) e.limit))) :=
  rfl

theorem converted_delivered (g : Generation) (answer : Except ConversionError Artifact) :
    FilledReport.Converted { g with artifact? := none } answer
      (delivered g (.ofAnswer (artifactOf g.grid) answer)) := by
  cases answer with
  | ok a =>
      have hout : delivered g (.ofAnswer (artifactOf g.grid) (.ok a)) =
          { g with artifact? := some a } := by
        simp [delivered, Converter.Outcome.ofAnswer]
      rw [hout]
      exact .converted a
  | error reason =>
      have hmessage : reason.message ++ "; returning the unconverted ." ++ "toml" ++ " output" =
          reason.message ++ "; returning the unconverted .toml output" := by
        rw [String.append_assoc, String.append_assoc]
        rfl
      have hkept : FilledReport.Converted { g with artifact? := none } (.error reason) _ :=
        .kept reason
      rw [← hmessage] at hkept
      exact hkept

/-- A field map that does not suit the texts of the cells breaks the work with any converter; with
another one the work is done, and what a converter answers decides what comes of it. -/
theorem fill_cases (e : Engine) (t : Template) (r : Report) (m : FieldMap) :
    (∀ converter?, (e.withConverter converter?).fill t r m = .error .misalignedSpan) ∨
      ∃ plain : FilledReport, plain.artifact? = none ∧ e.withoutConverter.fill t r m = .ok plain ∧
        ∀ f, ∃ out, (e.answeredBy f).fill t r m = .ok out ∧
          plain.Converted (f ⟨.ofText plain.grid.toToml, "toml"⟩ e.limit) out := by
  cases hrun : Generation.run? (e.context r) t m with
  | none =>
      left
      intro converter?
      have hsame : Generation.run? ((e.withConverter converter?).context r) t m = none := hrun
      rw [fill_eq, hsame]
  | some g =>
      right
      refine ⟨{ g with artifact? := none }, rfl, ?_, fun f => ?_⟩
      · have hsame : Generation.run? (e.withoutConverter.context r) t m = some g := hrun
        rw [fill_eq, hsame]
        rfl
      · have hsame : Generation.run? ((e.answeredBy f).context r) t m = some g := hrun
        exact ⟨_, by rw [fill_eq, hsame]; exact deliver_answeredBy e f g, converted_delivered g _⟩

/-- A request goes wrong in the same way with every converter, or it gives a report without one, and
then one with every converter that answers. -/
theorem generate_fails_or_converted (e : Engine) (id report : String) :
    (∃ fault, ∀ converter?, ((e.withConverter converter?).generate id report).1 = .error fault) ∨
      ∃ plain : FilledReport, plain.artifact? = none ∧
        (e.withoutConverter.generate id report).1 = .ok plain ∧
        ∀ f, ∃ out, ((e.answeredBy f).generate id report).1 = .ok out ∧
          plain.Converted (f ⟨.ofText plain.grid.toToml, "toml"⟩ e.limit) out := by
  rcases e.generate_refused_or_filled id report with ⟨reason, hrefused⟩ | ⟨t, r, m, after, hfilled⟩
  · exact Or.inl ⟨.store reason, fun converter? => by rw [hrefused]⟩
  · rcases e.fill_cases t r m with hbroken | ⟨plain, hplain, hwithout, hwith⟩
    · exact Or.inl ⟨.misalignedSpan, fun converter? => by rw [hfilled, hbroken]⟩
    · right
      refine ⟨plain, hplain, ?_, fun f => ?_⟩
      · rw [withoutConverter, hfilled]
        exact hwithout
      · obtain ⟨out, hout, hconverted⟩ := hwith f
        rw [answeredBy, hfilled]
        exact ⟨out, hout, hconverted⟩

/-- What a converter with these answers can change about a request, and what it cannot. -/
structure BestEffort (e : Engine) (id report : String)
    (f : Artifact → Duration → Except ConversionError Artifact) : Prop where
  fails_iff : ∀ fault, ((e.answeredBy f).generate id report).1 = .error fault ↔
    (e.withoutConverter.generate id report).1 = .error fault
  converted : ∀ plain, (e.withoutConverter.generate id report).1 = .ok plain →
    plain.artifact? = none ∧ ∃ out, ((e.answeredBy f).generate id report).1 = .ok out ∧
      plain.Converted (f ⟨.ofText plain.grid.toToml, "toml"⟩ e.limit) out
  /-- Nothing but the answer about the written grid, within the time limit, is of any account. -/
  asked : ∀ g, (∀ plain, (e.withoutConverter.generate id report).1 = .ok plain →
      g ⟨.ofText plain.grid.toToml, "toml"⟩ e.limit =
        f ⟨.ofText plain.grid.toToml, "toml"⟩ e.limit) →
    ((e.answeredBy g).generate id report).1 = ((e.answeredBy f).generate id report).1
  configured_limit : ∀ c, e.config.conversion? = some c → e.limit = .ofSeconds c.timeoutSeconds
  default_limit : e.config.conversion? = none → e.limit = .ofSeconds 60
  store : ((e.answeredBy f).generate id report).2.store =
    (e.withoutConverter.generate id report).2.store
  /-- The same store is left by any sequence of requests. -/
  stores : ∀ requests,
    ((e.answeredBy f).run requests).store = (e.withoutConverter.run requests).store

/-- A converter does not come between a request and its report, whatever it answers. -/
theorem generate_bestEffort (e : Engine) (id report : String)
    (f : Artifact → Duration → Except ConversionError Artifact) : e.BestEffort id report f := by
  have hcases := e.generate_fails_or_converted id report
  have hstores : ∀ requests,
      ((e.answeredBy f).run requests).store = (e.withoutConverter.run requests).store := by
    intro requests
    rw [answeredBy, withoutConverter, run_withConverter, run_withConverter]
    rfl
  constructor
  case fails_iff =>
    intro fault
    rcases hcases with ⟨other, hfails⟩ | ⟨plain, -, hplain, hwith⟩
    · rw [answeredBy, withoutConverter, hfails, hfails]
    · obtain ⟨out, hout, -⟩ := hwith f
      rw [hplain, hout]
      simp
  case converted =>
    intro plain hplain
    rcases hcases with ⟨fault, hfails⟩ | ⟨other, hnone, hother, hwith⟩
    · rw [withoutConverter, hfails] at hplain
      cases hplain
    · obtain rfl : other = plain := Except.ok.inj (hother.symm.trans hplain)
      exact ⟨hnone, hwith f⟩
  case asked =>
    intro g hsame
    rcases hcases with ⟨fault, hfails⟩ | ⟨plain, -, hplain, hwith⟩
    · rw [answeredBy, answeredBy, hfails, hfails]
    · obtain ⟨out, hout, hconverted⟩ := hwith f
      obtain ⟨other, hother, hconverted'⟩ := hwith g
      rw [hsame plain hplain] at hconverted'
      rw [hout, hother, hconverted'.eq hconverted]
  case configured_limit =>
    intro c hc
    rw [limit, hc]
    rfl
  case default_limit =>
    intro hnone
    rw [limit, hnone]
    rfl
  case store => exact hstores [.generate id report]
  case stores => exact hstores

end Engine

end MarkedSheet
