import MarkedSheet.Report

/-!
# The latest of several reports

Reports are looked through one after the other, and of those that are fit the one with the latest
stamp is taken; among equally late ones it is the last.  A report without a stamp is earlier than
every report with one.  Nothing is found only where nothing is fit.
-/

namespace MarkedSheet

namespace Report

theorem isLaterThan_iff {a b : Report} :
    a.isLaterThan b = true ↔ b.approvedAt? < a.approvedAt? := by
  unfold isLaterThan
  cases a.approvedAt? with
  | none => simp only [Bool.false_eq_true, Option.not_lt_none]
  | some x =>
      cases b.approvedAt? with
      | none => simp only [Option.none_lt_some]
      | some y => simp only [decide_eq_true_iff, Option.some_lt_some]

theorem not_isLaterThan_iff {a b : Report} :
    ¬ a.isLaterThan b = true ↔ a.approvedAt? ≤ b.approvedAt? := by
  unfold isLaterThan
  cases a.approvedAt? with
  | none => simp only [Bool.false_eq_true, not_false_iff, Option.none_le]
  | some x =>
      cases b.approvedAt? with
      | none => simp only [not_true, Option.not_some_le_none]
      | some y => simp only [decide_eq_true_iff, String.not_lt, Option.some_le_some]

theorem stamp_le_trans {x y z : Option String} (hxy : x ≤ y) (hyz : y ≤ z) : x ≤ z := by
  cases x with
  | none => exact Option.none_le
  | some x =>
      cases y with
      | none => exact absurd hxy Option.not_some_le_none
      | some y =>
          cases z with
          | none => exact absurd hyz Option.not_some_le_none
          | some z =>
              rw [Option.some_le_some] at hxy hyz ⊢
              exact String.le_trans hxy hyz

theorem stamp_le_of_lt {x y : Option String} (h : x < y) : x ≤ y := by
  cases x with
  | none => exact Option.none_le
  | some x =>
      cases y with
      | none => exact absurd h Option.not_lt_none
      | some y =>
          rw [Option.some_lt_some] at h
          rw [Option.some_le_some]
          exact String.not_lt.1 (String.lt_asymm h)

/-- A fit report of a list: no fit one is later, and the fit ones behind it are earlier. -/
def Latest (fit : Report → Prop) (reports : List Report) (s : Report) : Prop :=
  fit s ∧ ∃ before after, reports = before ++ s :: after ∧
    (∀ q ∈ before, fit q → q.approvedAt? ≤ s.approvedAt?) ∧
      ∀ q ∈ after, fit q → q.approvedAt? < s.approvedAt?

variable {reports : List Report} {fit : Report → Prop} {r s : Report}

/-- No fit report has a later stamp than the latest one. -/
theorem Latest.stamp_le (h : Latest fit reports s) {q : Report} (hq : q ∈ reports) (hfit : fit q) :
    q.approvedAt? ≤ s.approvedAt? := by
  obtain ⟨-, before, after, rfl, hbefore, hafter⟩ := h
  rcases List.mem_append.1 hq with hq | hq
  · exact hbefore q hq hfit
  · rcases List.mem_cons.1 hq with rfl | hq
    · cases q.approvedAt? <;> simp
    · exact stamp_le_of_lt (hafter q hq hfit)

/-- A report in front that is not later changes nothing. -/
theorem Latest.cons (h : Latest fit reports s) (hr : r.approvedAt? ≤ s.approvedAt?) :
    Latest fit (r :: reports) s := by
  obtain ⟨hfit, before, after, rfl, hbefore, hafter⟩ := h
  refine ⟨hfit, r :: before, after, rfl, fun q hq hqfit => ?_, hafter⟩
  rcases List.mem_cons.1 hq with rfl | hq
  · exact hr
  · exact hbefore q hq hqfit

/-- A report behind the first one that is earlier than that one changes nothing. -/
theorem Latest.insert_second {best : Report} (h : Latest fit (best :: reports) s) (hbest : fit best)
    (hr : r.approvedAt? < best.approvedAt?) : Latest fit (best :: r :: reports) s := by
  have hle : best.approvedAt? ≤ s.approvedAt? := h.stamp_le List.mem_cons_self hbest
  obtain ⟨hfit, before, after, hsplit, hbefore, hafter⟩ := h
  rcases List.cons_eq_append_iff.1 hsplit with ⟨rfl, hfirst⟩ | ⟨front, rfl, rfl⟩
  · obtain ⟨rfl, rfl⟩ := List.cons.inj hfirst
    refine ⟨hfit, [], r :: after, rfl, by simp, fun q hq hqfit => ?_⟩
    rcases List.mem_cons.1 hq with rfl | hq
    · exact hr
    · exact hafter q hq hqfit
  · refine ⟨hfit, best :: r :: front, after, rfl, fun q hq hqfit => ?_, hafter⟩
    rcases List.mem_cons.1 hq with rfl | hq
    · exact hle
    · rcases List.mem_cons.1 hq with rfl | hq
      · exact stamp_le_trans (stamp_le_of_lt hr) hle
      · exact hbefore q (List.mem_cons_of_mem _ hq) hqfit

/-- Going on from the best report so far gives the latest of it and the others. -/
theorem latest_latestFrom (best : Report) (rest : List Report) :
    Latest (fun _ => True) (best :: rest) (latestFrom best rest) := by
  -- The one of the first two that is dropped stands before or behind the one that is kept.
  induction rest generalizing best with
  | nil => exact ⟨trivial, [], [], rfl, by simp, by simp⟩
  | cons r rest ih =>
      rw [latestFrom]
      by_cases h : best.isLaterThan r
      · rw [if_pos h]
        exact (ih best).insert_second trivial (isLaterThan_iff.1 h)
      · rw [if_neg h]
        have hbest : best.approvedAt? ≤ r.approvedAt? := not_isLaterThan_iff.1 h
        have hr := (ih r).stamp_le List.mem_cons_self trivial
        exact (ih r).cons (stamp_le_trans hbest hr)

theorem latest?_eq_none_iff : latest? reports = none ↔ reports = [] := by
  cases reports <;> simp [latest?]

theorem latest_of_latest? (h : latest? reports = some s) :
    Latest (fun _ => True) reports s := by
  cases reports with
  | nil => simp [latest?] at h
  | cons r rest =>
      obtain rfl : latestFrom r rest = s := Option.some.inj h
      exact latest_latestFrom r rest

end Report

namespace History

variable {h : History} {key? : Option String} {excluding : String}

/-- Nothing is found exactly when no report may serve. -/
theorem latestApproved_eq_none_iff :
    h.latestApproved key? excluding = none ↔
      ∀ q ∈ h, ¬ Report.isReference key? excluding q = true := by
  rw [latestApproved, Report.latest?_eq_none_iff, List.filter_eq_nil_iff]

/-- What is found is the latest of the reports that may serve. -/
theorem latest_of_latestApproved {s : Report} (hs : h.latestApproved key? excluding = some s) :
    Report.Latest (fun q => Report.isReference key? excluding q = true) h s := by
  obtain ⟨-, before, after, hsplit, hbefore, hafter⟩ := Report.latest_of_latest? hs
  -- The reports that are not fit come back around the latest one.
  obtain ⟨front, back, hh, rfl, hback⟩ := List.filter_eq_append_iff.1 hsplit
  obtain ⟨between, rest, rfl, hbetween, hfit, rfl⟩ := List.filter_eq_cons_iff.1 hback
  refine ⟨hfit, front ++ between, rest, by rw [hh, List.append_assoc], fun q hq hqfit => ?_,
    fun q hq hqfit => ?_⟩
  · rcases List.mem_append.1 hq with hq | hq
    · exact hbefore q (List.mem_filter.2 ⟨hq, hqfit⟩) trivial
    · exact absurd hqfit (hbetween q hq)
  · exact hafter q (List.mem_filter.2 ⟨hq, hqfit⟩) trivial

end History

end MarkedSheet
