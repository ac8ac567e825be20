import MarkedSheet.Proofs.Engine.Requests

/-!
# The field maps that an engine keeps

A template is compiled when that is asked for, and when it is filled in without a field map.  Which
template stood under a name when it was last compiled is not written down anywhere, but the field
map that is kept there is always the one of that template and of no earlier one.
-/

namespace MarkedSheet

namespace Engine

/-- A request that compiles the template with a name. -/
inductive Compiles (e : Engine) (id : String) (t : Template) : Request → Prop where
  | asked {c : Compilation} (htemplate : e.store.template id = .ok t)
      (hcompile : (e.compile id).1 = .ok c) : Compiles e id t (.compile id)
  | onDemand {report : String} {r : Report} {c : Compilation}
      (htemplate : e.store.template id = .ok t) (hreport : e.store.report report = .ok r)
      (hnone : e.store.fieldMap? id = none) (hcompile : (e.compile id).1 = .ok c) :
      Compiles e id t (.generate id report)

/-- None of several requests compiles the template with a name. -/
def NeverCompiled (id : String) (e : Engine) : List Request → Prop
  | [] => True
  | request :: rest =>
      (∀ t, ¬ e.Compiles id t request) ∧ NeverCompiled id (e.serve request) rest

/-- The last of several requests that compiles the template with a name finds this template. -/
def LastCompiled (id : String) (t : Template) (e : Engine) : List Request → Prop
  | [] => False
  | request :: rest =>
      LastCompiled id t (e.serve request) rest ∨
        e.Compiles id t request ∧ NeverCompiled id (e.serve request) rest

variable {e : Engine} {id : String} {t : Template} {request : Request}

theorem compile_keeps (h : e.Accepting) (ht : e.store.template id = .ok t) (other : String) :
    (e.serve (.compile id)).store.fieldMap? other =
      if id = other then some (t.fieldMap e.registry) else e.store.fieldMap? other := by
  change (e.compile id).2.store.fieldMap? other = _
  rw [compile_of_template h ht]
  exact fieldMap?_keeping ht other

theorem generate_keeps (h : e.Accepting) {report : String} {r : Report}
    (ht : e.store.template id = .ok t) (hr : e.store.report report = .ok r)
    (hnone : e.store.fieldMap? id = none) (other : String) :
    (e.serve (.generate id report)).store.fieldMap? other =
      if id = other then some (t.fieldMap e.registry) else e.store.fieldMap? other := by
  change (e.generate id report).2.store.fieldMap? other = _
  rw [generate_of_found h ht hr, prepared, hnone]
  exact fieldMap?_keeping ht other

/-- What is compiled is kept. -/
theorem fieldMap?_serve_of_compiles (h : e.Accepting) (hcompiles : e.Compiles id t request) :
    (e.serve request).store.fieldMap? id = some (t.fieldMap e.registry) := by
  cases hcompiles with
  | asked htemplate hcompile =>
      have hkeeps := compile_keeps h htemplate id
      rwa [if_pos rfl] at hkeeps
  | onDemand htemplate hreport hnone hcompile =>
      have hkeeps := generate_keeps h htemplate hreport hnone id
      rwa [if_pos rfl] at hkeeps

/-- A request that does not compile the template with a name leaves its field map alone. -/
theorem fieldMap?_serve_of_not_compiles (h : e.Accepting)
    (hnot : ∀ t, ¬ e.Compiles id t request) :
    (e.serve request).store.fieldMap? id = e.store.fieldMap? id := by
  cases request with
  | insertTemplate t => rfl
  | insertReport r => rfl
  | compile other =>
      cases ht : e.store.template other with
      | error reason =>
          change (e.compile other).2.store.fieldMap? id = _
          rw [compile_of_error ht]
      | ok t =>
          have hcompile : (e.compile other).1 = .ok (t.compile e.registry) := by
            rw [compile_of_template h ht]
          -- It is another template that is compiled, and its field map has its own name.
          have hne : other ≠ id := by
            intro heq
            subst heq
            exact hnot t (.asked ht hcompile)
          rw [compile_keeps h ht, if_neg hne]
  | generate other report =>
      rcases e.generate_cases other report with ⟨t, r, ht, hr, hgenerate⟩ | ⟨reason, hrefused⟩
      · cases hnone : e.store.fieldMap? other with
        | some m =>
            change (e.generate other report).2.store.fieldMap? id = _
            rw [hgenerate, prepared, hnone]
        | none =>
            have hcompile : (e.compile other).1 = .ok (t.compile e.registry) := by
              rw [compile_of_template h ht]
            have hne : other ≠ id := by
              intro heq
              subst heq
              exact hnot t (.onDemand ht hr hnone hcompile)
            rw [generate_keeps h ht hr hnone, if_neg hne]
      · change (e.generate other report).2.store.fieldMap? id = _
        rw [hrefused]

theorem fieldMap?_run_of_neverCompiled (h : e.Orderly) {requests : List Request}
    (hnever : NeverCompiled id e requests) :
    (e.run requests).store.fieldMap? id = e.store.fieldMap? id := by
  induction requests generalizing e with
  | nil => rfl
  | cons request rest ih =>
      have hrest := ih (h.serve request) hnever.2
      have hstep := fieldMap?_serve_of_not_compiles h.accepting hnever.1
      exact hrest.trans hstep

theorem fieldMap?_run_of_lastCompiled (h : e.Orderly) {requests : List Request}
    (hlast : LastCompiled id t e requests) :
    (e.run requests).store.fieldMap? id = some (t.fieldMap e.registry) := by
  induction requests generalizing e with
  | nil => exact hlast.elim
  | cons request rest ih =>
      rcases hlast with hlast | ⟨hcompiles, hnever⟩
      · have hrest := ih (h.serve request) hlast
        rw [registry_serve] at hrest
        exact hrest
      · have hrest := fieldMap?_run_of_neverCompiled (h.serve request) hnever
        have hstep := fieldMap?_serve_of_compiles h.accepting hcompiles
        exact hrest.trans hstep

theorem neverCompiled_or_lastCompiled (id : String) (e : Engine) (requests : List Request) :
    NeverCompiled id e requests ∨ ∃ t, LastCompiled id t e requests := by
  induction requests generalizing e with
  | nil => exact Or.inl trivial
  | cons request rest ih =>
      rcases ih (e.serve request) with hnever | ⟨t, hlast⟩
      · -- Nothing later compiles it, so that this request is the last to do so if it does.
        by_cases h : ∃ t, e.Compiles id t request
        · obtain ⟨t, ht⟩ := h
          right
          exact ⟨t, Or.inr ⟨ht, hnever⟩⟩
        · left
          exact ⟨fun t ht => h ⟨t, ht⟩, hnever⟩
      · right
        exact ⟨t, Or.inl hlast⟩

/-- A template that was found last has the name it was found under. -/
theorem id_of_lastCompiled {requests : List Request} (hlast : LastCompiled id t e requests) :
    t.id = id := by
  induction requests generalizing e with
  | nil => exact hlast.elim
  | cons request rest ih =>
      rcases hlast with hlast | ⟨hcompiles, -⟩
      · exact ih hlast
      · cases hcompiles with
        | asked htemplate hcompile => exact Store.id_of_template htemplate
        | onDemand htemplate hreport hnone hcompile => exact Store.id_of_template htemplate

/-- A filled report is what the template and the report of the store give by the field map that is
kept, or by that of the template when none is, with the reports of the store as history. -/
def FillsFromStore (registry : Registry) (config : Config) (e : Engine) (id report : String)
    (out : FilledReport) : Prop :=
  ∃ t r g, e.store.template id = .ok t ∧ e.store.report report = .ok r ∧
    Generation.run? ⟨registry, r, e.store.reports, config⟩ t
      ((e.store.fieldMap? id).getD (t.compile registry).fieldMap) = some g ∧
    out.grid = g.grid ∧ out.placement = g.placement

theorem fillsFromStore {report : String} {out : FilledReport}
    (hout : (e.generate id report).1 = .ok out) :
    FillsFromStore e.registry e.config e id report out := by
  rcases e.generate_cases id report with ⟨t, r, ht, hr, hgenerate⟩ | ⟨reason, hrefused⟩
  · rw [hgenerate] at hout
    obtain ⟨g, hrun, hdeliver⟩ := exists_of_fill_eq_ok hout
    obtain ⟨hgrid, hplacement, -⟩ := of_deliver_eq_ok hdeliver
    exact ⟨t, r, g, ht, hr, hrun, hgrid, hplacement⟩
  · rw [hrefused] at hout
    cases hout

/-- Filling in a template without a field map compiles it, unless the request is refused. -/
theorem exists_compiles_generate_iff (h : e.Accepting) {report : String}
    (hnone : e.store.fieldMap? id = none) :
    (∃ t, e.Compiles id t (.generate id report)) ↔
      ∀ reason, (e.generate id report).1 ≠ .error (.store reason) := by
  constructor
  · rintro ⟨t, hcompiles⟩ reason hrefused
    cases hcompiles with
    | onDemand htemplate hreport hnone hcompile =>
        rw [generate_of_found h htemplate hreport] at hrefused
        exact fill_ne_refused hrefused
  · intro hanswer
    rcases e.generate_cases id report with ⟨t, r, ht, hr, -⟩ | ⟨reason, hrefused⟩
    · have hcompile := congrArg Prod.fst (compile_of_template h ht)
      exact ⟨t, .onDemand ht hr hnone hcompile⟩
    · exact absurd (congrArg Prod.fst hrefused) (hanswer reason)

/-- What an engine keeps after requests, and what the requests that follow make of it. -/
structure KeepsLastCompiled (registry : Registry) (config : Config) (start : Engine)
    (requests : List Request) (e : Engine) : Prop where
  decided : ∀ id, NeverCompiled id start requests ∨ ∃ t, LastCompiled id t start requests
  absent : ∀ id, NeverCompiled id start requests → e.store.fieldMap? id = none
  kept : ∀ id t, LastCompiled id t start requests →
    e.store.fieldMap? id = some (t.compile registry).fieldMap ∧
      (t.compile registry).fieldMap.template = id
  /-- Beside the field map that is found under a name there is no other one with that name. -/
  only : ∀ id, (e.store.fieldMaps.filter fun m => m.template = id) = (e.store.fieldMap? id).toList
  /-- The next request changes the field map under a name only if it compiles what is there. -/
  untouched : ∀ id request, (∀ t, ¬ e.Compiles id t request) →
    (e.serve request).store.fieldMap? id = e.store.fieldMap? id
  /-- A template without a field map is compiled when it is filled in and nothing is missing. -/
  onDemand : ∀ id report, e.store.fieldMap? id = none →
    ((∃ t, e.Compiles id t (.generate id report)) ↔
      ∀ reason, (e.generate id report).1 ≠ .error (.store reason))
  filled : ∀ id report out, (e.generate id report).1 = .ok out →
    FillsFromStore registry config e id report out

/-- An engine that starts with nothing in its store keeps the field maps of the templates that it
compiled last, and fills templates in by them. -/
theorem run_keepsLastCompiled (registry : Registry) (config : Config)
    (converter? : Option Converter) (requests : List Request) :
    KeepsLastCompiled registry config (starting registry config converter?) requests
      ((starting registry config converter?).run requests) := by
  have hstart : (starting registry config converter?).Orderly := orderly_starting ..
  obtain ⟨haccepting, hdistinct⟩ := hstart.run requests
  constructor
  case decided => exact fun id => neverCompiled_or_lastCompiled id _ requests
  case absent =>
    intro id hnever
    rw [fieldMap?_run_of_neverCompiled hstart hnever]
    rfl
  case kept =>
    intro id t hlast
    exact ⟨fieldMap?_run_of_lastCompiled hstart hlast, id_of_lastCompiled hlast⟩
  case only => exact fun id => Store.filter_eq_toList_find? hdistinct id
  case untouched => exact fun id request hnot => fieldMap?_serve_of_not_compiles haccepting hnot
  case onDemand => exact fun id report hnone => exists_compiles_generate_iff haccepting hnone
  case filled =>
    intro id report out hout
    have hfills := fillsFromStore hout
    rw [registry_run, config_run] at hfills
    exact hfills

end Engine

end MarkedSheet
