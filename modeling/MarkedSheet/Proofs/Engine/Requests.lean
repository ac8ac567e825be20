import MarkedSheet.Engine
import MarkedSheet.Proofs.Store.Names

/-!
# Requests to an engine

An engine serves one request after the other: templates and reports come in, templates are
compiled, and reports are filled in.  A request changes nothing but the store, and of the store
compiling and filling in change at most the field map of the template that they are about.  A request
that fails, for want of a name or because the store refuses a field map, changes nothing at all.
-/

namespace MarkedSheet

inductive Request where
  | insertTemplate (t : Template)
  | insertReport (r : Report)
  | compile (template : String)
  | generate (template report : String)

namespace Engine

/-- An engine with nothing in its store. -/
def starting (registry : Registry) (config : Config) (converter? : Option Converter) : Engine :=
  ⟨Store.empty, registry, config, converter?⟩

def serve (e : Engine) : Request → Engine
  | .insertTemplate t => e.withStore (e.store.insertTemplate t)
  | .insertReport r => e.withStore (e.store.insertReport r)
  | .compile template => (e.compile template).2
  | .generate template report => (e.generate template report).2

def run (e : Engine) (requests : List Request) : Engine :=
  requests.foldl serve e

/-- The store takes every field map that comes in. -/
def Accepting (e : Engine) : Prop :=
  e.store.refusal? = none

def keeping (e : Engine) (t : Template) : Engine :=
  e.withStore (e.store.keep (t.fieldMap e.registry))

/-- The field map by which a template is filled in under a name. -/
def mapFor (e : Engine) (id : String) (t : Template) : FieldMap :=
  (e.store.fieldMap? id).getD (t.fieldMap e.registry)

/-- The field map that is kept for a template, if there is one, is that of its compilation. -/
def UpToDate (e : Engine) (id : String) (t : Template) : Prop :=
  ∀ m ∈ e.store.fieldMap? id, m = (t.compile e.registry).fieldMap

/-- The engine when it fills in a template under a name. -/
def prepared (e : Engine) (id : String) (t : Template) : Engine :=
  match e.store.fieldMap? id with
  | some _ => e
  | none => e.keeping t

/-- The store refuses the field map of a template. -/
def Refuses (e : Engine) (t : Template) (text : String) : Prop :=
  e.store.persist (t.compile e.registry).fieldMap = .error (.backend text)

/-- Why a template is not compiled. -/
inductive CompileFails (e : Engine) (id : String) : StoreError → Prop where
  | template (h : ∀ t ∈ e.store.templates, t.id ≠ id) : CompileFails e id (.templateNotFound id)
  | fieldMap {t : Template} {text : String} (ht : e.store.template id = .ok t)
      (h : e.Refuses t text) : CompileFails e id (.backend text)

/-- Why a template is not filled in with a report.  The template is looked for first, then the report
and then the field map. -/
inductive GenerateFails (e : Engine) (id report : String) : StoreError → Prop where
  | template (h : ∀ t ∈ e.store.templates, t.id ≠ id) :
      GenerateFails e id report (.templateNotFound id)
  | report {t : Template} (ht : e.store.template id = .ok t)
      (h : ∀ r ∈ e.store.reports, r.id ≠ report) : GenerateFails e id report (.reportNotFound report)
  | fieldMap {t : Template} {r : Report} {text : String} (ht : e.store.template id = .ok t)
      (hr : e.store.report report = .ok r) (hnone : e.store.fieldMap? id = none)
      (h : e.Refuses t text) : GenerateFails e id report (.backend text)

variable {e : Engine} {id report : String} {t : Template} {r : Report} {reason : StoreError}

theorem UpToDate.mapFor_eq (h : e.UpToDate id t) : e.mapFor id t = t.fieldMap e.registry := by
  rw [mapFor]
  cases hm : e.store.fieldMap? id with
  | some m => exact h m hm
  | none => rfl

theorem fieldMap?_keeping (ht : e.store.template id = .ok t) (other : String) :
    (e.keeping t).store.fieldMap? other =
      if id = other then some (t.fieldMap e.registry) else e.store.fieldMap? other := by
  have hname : (t.fieldMap e.registry).template = id := Store.id_of_template ht
  have hkeep := Store.fieldMap?_keep e.store (t.fieldMap e.registry) other
  rw [hname] at hkeep
  exact hkeep

theorem fieldMap?_prepared (ht : e.store.template id = .ok t) :
    (e.prepared id t).store.fieldMap? id = some (e.mapFor id t) := by
  rw [prepared, mapFor]
  cases hm : e.store.fieldMap? id with
  | some m => exact hm
  | none =>
      have hkeeping := fieldMap?_keeping ht id
      rwa [if_pos rfl] at hkeeping

theorem compile_of_template (h : e.Accepting) (ht : e.store.template id = .ok t) :
    e.compile id = (.ok (t.compile e.registry), e.keeping t) := by
  rw [compile, ht]
  simp only [Store.persist_of_accepting h]
  rfl

theorem compile_of_error (ht : e.store.template id = .error reason) :
    e.compile id = (.error reason, e) := by
  rw [compile, ht]

theorem fieldMap_of_template (h : e.Accepting) (ht : e.store.template id = .ok t) :
    e.fieldMap id = (.ok (e.mapFor id t), e.prepared id t) := by
  rw [fieldMap, mapFor, prepared]
  cases e.store.fieldMap? id with
  | some m => rfl
  | none =>
      simp only [compile_of_template h ht]
      rfl

theorem deliver_eq (e : Engine) (g : Generation) :
    e.deliver g =
      match e.converter? with
      | none => .ok { g with artifact? := none }
      | some convert =>
          match (convert (artifactOf g.grid) e.limit).map
            (Converter.Outcome.ofAnswer (artifactOf g.grid)) with
          | some outcome => .ok (delivered g outcome)
          | none => .error .endlessLimit := by
  unfold deliver deliverBy
  cases e.converter? with
  | none => rfl
  | some convert =>
      dsimp only [bind, pure, Id.run]
      cases convert (artifactOf g.grid) e.limit with
      | none => rfl
      | some answer => rfl

theorem fill_eq (e : Engine) (t : Template) (r : Report) (m : FieldMap) :
    e.fill t r m =
      match Generation.run? (e.context r) t m with
      | some g => e.deliver g
      | none => .error .misalignedSpan := by
  rw [fill, fillBy]
  cases Generation.run? (e.context r) t m with
  | none => rfl
  | some g => rfl

section AnyConversion

variable {m : Type → Type} [Monad m]
  (convert? : Option (Artifact → Duration → m (Option (Except ConversionError Artifact))))

/-- Filling in depends on the reports of the store and on nothing else in it. -/
theorem fillBy_prepared (map : FieldMap) :
    (e.prepared id t).fillBy convert? t r map = e.fillBy convert? t r map := by
  rw [prepared]
  cases e.store.fieldMap? id <;> rfl

theorem generateBy_of_found (h : e.Accepting) (ht : e.store.template id = .ok t)
    (hr : e.store.report report = .ok r) :
    e.generateBy convert? id report = (do
      let filled ← e.fillBy convert? t r (e.mapFor id t)
      pure (filled, e.prepared id t)) := by
  rw [generateBy, ht, hr]
  simp only [fieldMap_of_template h ht]
  rw [fillBy_prepared]

end AnyConversion

theorem fill_prepared (m : FieldMap) : (e.prepared id t).fill t r m = e.fill t r m := by
  rw [prepared]
  cases e.store.fieldMap? id <;> rfl

theorem generate_of_found (h : e.Accepting) (ht : e.store.template id = .ok t)
    (hr : e.store.report report = .ok r) :
    e.generate id report = (e.fill t r (e.mapFor id t), e.prepared id t) := by
  rw [generate, generateBy_of_found (m := Id) e.converter? h ht hr]
  rfl

/-- Nothing changes when a template that has a field map is filled in. -/
theorem prepared_of_fieldMap? {m : FieldMap} (hm : e.store.fieldMap? id = some m) :
    e.prepared id t = e := by
  rw [prepared, hm]

theorem mapFor_prepared (ht : e.store.template id = .ok t) :
    (e.prepared id t).mapFor id t = e.mapFor id t := by
  rw [mapFor, fieldMap?_prepared ht, Option.getD_some]

/-- An engine that is prepared for a report answers as it did before. -/
theorem generate_prepared (h : e.Accepting) (ht : e.store.template id = .ok t)
    (hr : e.store.report report = .ok r) :
    (e.prepared id t).generate id report = e.generate id report := by
  have hstore : (e.prepared id t).Accepting ∧ (e.prepared id t).store.template id = .ok t ∧
      (e.prepared id t).store.report report = .ok r := by
    rw [prepared]
    cases e.store.fieldMap? id with
    | some m => exact ⟨h, ht, hr⟩
    | none => exact ⟨h, ht, hr⟩
  obtain ⟨hprepared, htemplate, hreport⟩ := hstore
  have hkept : (e.prepared id t).prepared id t = e.prepared id t :=
    prepared_of_fieldMap? (fieldMap?_prepared ht)
  rw [generate_of_found h ht hr, generate_of_found hprepared htemplate hreport, hkept,
    mapFor_prepared ht, fill_prepared]

theorem compile_of_fails (h : e.CompileFails id reason) : e.compile id = (.error reason, e) := by
  cases h with
  | template hnone =>
      exact compile_of_error (Store.template_eq_error_iff.2 ⟨hnone, rfl⟩)
  | fieldMap ht hrefused =>
      unfold Refuses at hrefused
      rw [compile, ht]
      simp only [hrefused]

theorem generate_of_fails (h : e.GenerateFails id report reason) :
    e.generate id report = (.error (.store reason), e) := by
  cases h with
  | template hnone =>
      rw [generate, generateBy, Store.template_eq_error_iff.2 ⟨hnone, rfl⟩]
      rfl
  | report ht hnone =>
      rw [generate, generateBy, ht, Store.report_eq_error_iff.2 ⟨hnone, rfl⟩]
      rfl
  | fieldMap ht hr hnone hrefused =>
      have hcompile := compile_of_fails (.fieldMap ht hrefused)
      rw [generate, generateBy, ht, hr]
      simp only [fieldMap, hnone, hcompile]
      rfl

/-- A store takes every field map or refuses every one. -/
theorem accepting_or_refuses (e : Engine) (t : Template) :
    e.Accepting ∨ ∃ text, e.Refuses t text := by
  unfold Accepting Refuses Store.persist
  cases e.store.refusal? with
  | none => exact Or.inl rfl
  | some text => exact Or.inr ⟨text, rfl⟩

/-- A template is compiled, and its field map kept, or the request fails. -/
theorem compile_kept_or_fails (e : Engine) (id : String) :
    (∃ t, e.store.template id = .ok t ∧
        e.compile id = (.ok (t.compile e.registry), e.keeping t)) ∨
      ∃ reason, e.CompileFails id reason := by
  cases ht : e.store.template id with
  | error reason =>
      obtain ⟨hnone, rfl⟩ := Store.template_eq_error_iff.1 ht
      exact Or.inr ⟨_, .template hnone⟩
  | ok t =>
      rcases e.accepting_or_refuses t with haccepting | ⟨text, hrefused⟩
      · exact Or.inl ⟨t, rfl, compile_of_template haccepting ht⟩
      · exact Or.inr ⟨_, .fieldMap ht hrefused⟩

theorem generate_of_fieldMap? {m : FieldMap} (ht : e.store.template id = .ok t)
    (hr : e.store.report report = .ok r) (hm : e.store.fieldMap? id = some m) :
    e.generate id report = (e.fill t r m, e) := by
  rw [generate, generateBy, ht, hr]
  simp only [fieldMap, hm]
  rfl

/-- A template is filled in, by the field map that is kept or else by its own, or the request
fails. -/
theorem generate_filled_or_fails (e : Engine) (id report : String) :
    (∃ t r, e.store.template id = .ok t ∧ e.store.report report = .ok r ∧
        e.generate id report = (e.fill t r (e.mapFor id t), e.prepared id t)) ∨
      ∃ reason, e.GenerateFails id report reason := by
  cases ht : e.store.template id with
  | error reason =>
      obtain ⟨hnone, rfl⟩ := Store.template_eq_error_iff.1 ht
      exact Or.inr ⟨_, .template hnone⟩
  | ok t =>
      cases hr : e.store.report report with
      | error reason =>
          obtain ⟨hnone, rfl⟩ := Store.report_eq_error_iff.1 hr
          exact Or.inr ⟨_, .report ht hnone⟩
      | ok r =>
          -- A store that refuses field maps is asked only when there is none.
          cases hm : e.store.fieldMap? id with
          | some m =>
              left
              refine ⟨t, r, rfl, rfl, ?_⟩
              rw [generate_of_fieldMap? ht hr hm, prepared_of_fieldMap? hm, mapFor, hm]
              rfl
          | none =>
              rcases e.accepting_or_refuses t with haccepting | ⟨text, hrefused⟩
              · exact Or.inl ⟨t, r, rfl, rfl, generate_of_found haccepting ht hr⟩
              · exact Or.inr ⟨_, .fieldMap ht hr hm hrefused⟩

/-- A request for a report fills it in, or it is refused and changes nothing. -/
theorem generate_cases (e : Engine) (id report : String) :
    (∃ t r, e.store.template id = .ok t ∧ e.store.report report = .ok r ∧
        e.generate id report = (e.fill t r (e.mapFor id t), e.prepared id t)) ∨
      ∃ reason, e.generate id report = (.error (.store reason), e) := by
  rcases e.generate_filled_or_fails id report with hfilled | ⟨reason, hfails⟩
  · exact Or.inl hfilled
  · exact Or.inr ⟨reason, generate_of_fails hfails⟩

theorem exists_of_fill_eq_ok {m : FieldMap} {out : FilledReport} (h : e.fill t r m = .ok out) :
    ∃ g, Generation.run? (e.context r) t m = some g ∧ e.deliver g = .ok out := by
  rw [fill_eq] at h
  cases hrun : Generation.run? (e.context r) t m with
  | none => simp [hrun] at h
  | some g =>
      rw [hrun] at h
      exact ⟨g, rfl, h⟩

/-- Delivery adds at most one report, about the conversion. -/
theorem of_deliver_eq_ok {g : Generation} {out : FilledReport} (h : e.deliver g = .ok out) :
    out.grid = g.grid ∧ out.placement = g.placement ∧
      ∃ failure? : Option Diagnostic, out.diagnostics = g.diagnostics ++ failure?.toList ∧
        ∀ d ∈ failure?, d.category = .conversion := by
  rw [deliver_eq] at h
  cases hconverter : e.converter? with
  | none =>
      simp only [hconverter, Except.ok.injEq] at h
      subst h
      exact ⟨rfl, rfl, none, (List.append_nil _).symm, by simp⟩
  | some convert =>
      simp only [hconverter] at h
      cases hanswer : convert (artifactOf g.grid) e.limit with
      | none => simp [hanswer] at h
      | some answer =>
          simp only [hanswer, Option.map_some, Except.ok.injEq] at h
          subst h
          refine ⟨rfl, rfl, (Converter.Outcome.ofAnswer (artifactOf g.grid) answer).failure?, rfl,
            fun d hd => ?_⟩
          cases answer with
          | ok converted => simp [Converter.Outcome.ofAnswer] at hd
          | error reason =>
              obtain rfl : _ = d := Option.some.inj hd
              rfl

/-- The only thing that goes wrong with a delivery is a converter without an answer. -/
theorem eq_endlessLimit_of_deliver {g : Generation} {fault : FillError}
    (h : e.deliver g = .error fault) : fault = .endlessLimit := by
  rw [deliver_eq] at h
  cases hconverter : e.converter? with
  | none => simp [hconverter] at h
  | some convert =>
      simp only [hconverter] at h
      cases hanswer : convert (artifactOf g.grid) e.limit with
      | some answer => simp [hanswer] at h
      | none => simpa [hanswer] using h.symm

/-- Filling in is never refused, whatever else may keep it from giving a report. -/
theorem fill_ne_refused {m : FieldMap} : e.fill t r m ≠ .error (.store reason) := by
  intro h
  rw [fill_eq] at h
  cases hrun : Generation.run? (e.context r) t m with
  | none => simp [hrun] at h
  | some g =>
      rw [hrun] at h
      cases eq_endlessLimit_of_deliver h

theorem compile_eq_withStore (e : Engine) (id : String) :
    (e.compile id).2 = e.withStore (e.compile id).2.store := by
  rw [compile]
  split
  · rfl
  · dsimp only
    split <;> rfl

theorem fieldMap_eq_withStore (e : Engine) (id : String) :
    (e.fieldMap id).2 = e.withStore (e.fieldMap id).2.store := by
  rw [fieldMap]
  split
  · rfl
  · exact compile_eq_withStore e id

/-- Whatever comes of a report, the engine after it has at most looked for the field map. -/
theorem generate_eq_or_eq_fieldMap (e : Engine) (id report : String) :
    (e.generate id report).2 = e ∨ (e.generate id report).2 = (e.fieldMap id).2 := by
  rw [generate, generateBy]
  split
  · exact Or.inl rfl
  · exact Or.inl rfl
  · right
    split
    · next hm =>
        rw [hm]
        rfl
    · next hm =>
        rw [hm]
        rfl

/-- A request changes the store and nothing else. -/
theorem serve_eq_withStore (e : Engine) (request : Request) :
    e.serve request = e.withStore (e.serve request).store := by
  cases request with
  | insertTemplate t => rfl
  | insertReport r => rfl
  | compile id => exact compile_eq_withStore e id
  | generate id report =>
      change (e.generate id report).2 = e.withStore (e.generate id report).2.store
      rcases generate_eq_or_eq_fieldMap e id report with h | h
      · rw [h]
        rfl
      · rw [h]
        exact fieldMap_eq_withStore e id

theorem run_eq_withStore (e : Engine) (requests : List Request) :
    e.run requests = e.withStore (e.run requests).store := by
  induction requests generalizing e with
  | nil => rfl
  | cons request rest ih =>
      have hrest := ih (e.serve request)
      rw [serve_eq_withStore] at hrest
      change (e.serve request).run rest = e.withStore ((e.serve request).run rest).store
      rw [serve_eq_withStore]
      exact hrest

theorem registry_serve (e : Engine) (request : Request) :
    (e.serve request).registry = e.registry := by
  rw [serve_eq_withStore]
  rfl

theorem registry_run (e : Engine) (requests : List Request) :
    (e.run requests).registry = e.registry := by
  rw [run_eq_withStore]
  rfl

theorem config_run (e : Engine) (requests : List Request) :
    (e.run requests).config = e.config := by
  rw [run_eq_withStore]
  rfl

/-- Distinct field maps have distinct names, and none that comes in is refused. -/
structure Orderly (e : Engine) : Prop where
  accepting : e.Accepting
  distinct : (e.store.fieldMaps.map FieldMap.template).Nodup

theorem orderly_starting (registry : Registry) (config : Config)
    (converter? : Option Converter) : (starting registry config converter?).Orderly :=
  ⟨rfl, List.nodup_nil⟩

theorem Orderly.keeping (h : e.Orderly) (t : Template) : (e.keeping t).Orderly :=
  ⟨h.accepting, Store.nodup_putBy h.distinct _⟩

theorem Orderly.prepared (h : e.Orderly) (id : String) (t : Template) :
    (e.prepared id t).Orderly := by
  rw [Engine.prepared]
  cases e.store.fieldMap? id with
  | some m => exact h
  | none => exact h.keeping t

theorem Orderly.serve (h : e.Orderly) (request : Request) : (e.serve request).Orderly := by
  cases request with
  | insertTemplate t => exact ⟨h.accepting, h.distinct⟩
  | insertReport r => exact ⟨h.accepting, h.distinct⟩
  | compile id =>
      change (e.compile id).2.Orderly
      cases ht : e.store.template id with
      | error reason =>
          rw [compile_of_error ht]
          exact h
      | ok t =>
          rw [compile_of_template h.accepting ht]
          exact h.keeping t
  | generate id report =>
      change (e.generate id report).2.Orderly
      rcases e.generate_cases id report with ⟨t, r, -, -, hgenerate⟩ | ⟨reason, hrefused⟩
      · rw [hgenerate]
        exact h.prepared id t
      · rw [hrefused]
        exact h

theorem Orderly.run (h : e.Orderly) (requests : List Request) : (e.run requests).Orderly := by
  induction requests generalizing e with
  | nil => exact h
  | cons request rest ih => exact ih (h.serve request)

end Engine

end MarkedSheet
