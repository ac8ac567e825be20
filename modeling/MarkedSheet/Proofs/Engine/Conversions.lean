import MarkedSheet.Proofs.Engine.BestEffort

/-!
# Conversions that change a state

A conversion may change the files and whatever else there is.  What an engine gives then is what it
gives with a converter of the same answers, and the state is changed by the conversion of the grid
alone, and only if there is one.
-/

namespace MarkedSheet.Engine

variable {σ : Type}
  (convert? : Option (Artifact → Duration → StateM σ (Option (Except ConversionError Artifact))))

/-- The converter that answers as a conversion does in a state. -/
def answeringIn (s : σ) : Option Converter :=
  convert?.map fun convert a limit => (StateT.run (convert a limit) s).1

/-- The state after a conversion, if there is one. -/
def leftBy (s : σ) (a : Artifact) (limit : Duration) : σ :=
  match convert? with
  | none => s
  | some convert => (StateT.run (convert a limit) s).2

variable {e : Engine} {id report : String} {t : Template} {r : Report}

theorem run_deliverBy (e : Engine) (g : Generation) (s : σ) :
    StateT.run (e.deliverBy convert? g) s =
      ((e.withConverter (answeringIn convert? s)).deliver g,
        leftBy convert? s (artifactOf g.grid) e.limit) := by
  cases convert? with
  | none => rfl
  | some convert =>
      have hconverter : (e.withConverter (answeringIn (some convert) s)).converter? =
          some fun a limit => (StateT.run (convert a limit) s).1 := rfl
      have hlimit : (e.withConverter (answeringIn (some convert) s)).limit = e.limit := rfl
      rw [deliver_eq, hconverter, hlimit]
      unfold deliverBy leftBy
      dsimp only
      rw [StateT.run_bind]
      rcases StateT.run (convert (artifactOf g.grid) e.limit) s with ⟨none | answer, after⟩
      · rfl
      · rfl

theorem run_fillBy (e : Engine) (t : Template) (r : Report) (map : FieldMap) (s : σ) :
    (StateT.run (e.fillBy convert? t r map) s).1 =
        (e.withConverter (answeringIn convert? s)).fill t r map ∧
      ∀ out, (e.withConverter (answeringIn convert? s)).fill t r map = .ok out →
        (StateT.run (e.fillBy convert? t r map) s).2 =
          leftBy convert? s (artifactOf out.grid) e.limit := by
  have hcontext : (e.withConverter (answeringIn convert? s)).context r = e.context r := rfl
  rw [fillBy, fill_eq, hcontext]
  cases Generation.run? (e.context r) t map with
  | none =>
      refine ⟨rfl, fun out hout => ?_⟩
      cases hout
  | some g =>
      dsimp only
      rw [run_deliverBy]
      refine ⟨rfl, fun out hout => ?_⟩
      rw [(of_deliver_eq_ok hout).1]

theorem fieldMap_withConverter (converter? : Option Converter) (e : Engine) (id : String) :
    (e.withConverter converter?).fieldMap id =
      ((e.fieldMap id).1, (e.fieldMap id).2.withConverter converter?) := by
  have hstore : (e.withConverter converter?).store = e.store := rfl
  rw [fieldMap, fieldMap, hstore, compile_withConverter]
  cases e.store.fieldMap? id with
  | some m => rfl
  | none => rfl

/-- A request gives what it gives with a converter of the same answers, and leaves the state in which
the conversion of its grid leaves it. -/
theorem run_generateBy (e : Engine) (id report : String) (s : σ) :
    (StateT.run (e.generateBy convert? id report) s).1.1 =
        ((e.withConverter (answeringIn convert? s)).generate id report).1 ∧
      ∀ out, ((e.withConverter (answeringIn convert? s)).generate id report).1 = .ok out →
        (StateT.run (e.generateBy convert? id report) s).2 =
          leftBy convert? s (artifactOf out.grid) e.limit := by
  have hstore : (e.withConverter (answeringIn convert? s)).store = e.store := rfl
  have hlimit : (e.fieldMap id).2.limit = e.limit := by
    rw [fieldMap_eq_withStore]
    rfl
  -- What is stored does not depend on the converter, so that both sides find the same.
  rw [generate, generateBy, generateBy, hstore, fieldMap_withConverter]
  cases e.store.template id with
  | error reason =>
      refine ⟨rfl, fun out hout => ?_⟩
      cases hout
  | ok t =>
      cases e.store.report report with
      | error reason =>
          refine ⟨rfl, fun out hout => ?_⟩
          cases hout
      | ok r =>
          rcases hmap : e.fieldMap id with ⟨reason | map, after⟩
          · refine ⟨rfl, fun out hout => ?_⟩
            cases hout
          · rw [hmap] at hlimit
            rw [← hlimit]
            exact run_fillBy convert? after t r map s

/-- Nothing changes the state when there is no conversion. -/
theorem run_generateBy_none (e : Engine) (id report : String) (s : σ) :
    (StateT.run (e.generateBy (m := StateM σ) none id report) s).2 = s := by
  rw [generateBy]
  cases e.store.template id with
  | error reason => rfl
  | ok t =>
      cases e.store.report report with
      | error reason => rfl
      | ok r =>
          dsimp only
          rcases e.fieldMap id with ⟨reason | map, after⟩
          · rfl
          · dsimp only
            rw [fillBy]
            cases Generation.run? (after.context r) t map with
            | none => rfl
            | some g => rfl

end MarkedSheet.Engine
