import MarkedSheet.Proofs.FirstOccurrences
import MarkedSheet.Proofs.Store.LatestApproved
import MarkedSheet.Proofs.Store.Names
import MarkedSheet.Proofs.Text.ByteOrder

/-!
# Reports that come in one after the other

A report that comes in under a name that is taken replaces what was there and keeps its place.  The
store therefore holds, of each name, the report that came in last, in the order in which the names
came in first.  That order decides between reports that were approved equally late.
-/

namespace MarkedSheet

namespace Report

/-- The last of several reports with a name. -/
def LastNamed (inserted : List Report) (id : String) (r : Report) : Prop :=
  ∃ before after, inserted = before ++ r :: after ∧ r.id = id ∧ ∀ q ∈ after, q.id ≠ id

/-- How many reports came in before the first one with a name. -/
def firstPlace (inserted : List Report) (id : String) : Nat :=
  (inserted.map Report.id).idxOf id

/-- A report that may be found when reports with a key are looked for, or any if none is given. -/
structure Eligible (key? : Option String) (excluding : String) (r : Report) : Prop where
  approved : r.status = .approved
  other : r.id ≠ excluding
  keyed : ∀ key ∈ key?, r.businessKey = key

/-- The stamp of the first report comes before that of the second.  Stamps compare byte by byte, and
a missing one comes before every other. -/
def StampedBefore (a b : Report) : Prop :=
  match a.approvedAt?, b.approvedAt? with
  | some x, some y => Text.BytesBefore (Text.bytes x) (Text.bytes y)
  | none, some _ => True
  | _, none => False

variable {inserted : List Report} {id : String} {q r : Report}

theorem isReference_iff {key? : Option String} {excluding : String} :
    isReference key? excluding r = true ↔ r.Eligible key? excluding := by
  unfold isReference
  rw [Bool.and_eq_true, Bool.and_eq_true, decide_eq_true_iff, decide_eq_true_iff]
  constructor
  · rintro ⟨⟨happroved, hother⟩, hkeyed⟩
    refine ⟨happroved, hother, fun key hkey => ?_⟩
    obtain rfl := Option.mem_def.1 hkey
    exact of_decide_eq_true hkeyed
  · rintro ⟨happroved, hother, hkeyed⟩
    refine ⟨⟨happroved, hother⟩, ?_⟩
    cases key? with
    | none => rfl
    | some key => exact decide_eq_true (hkeyed key rfl)

theorem stampedBefore_iff {a b : Report} : a.StampedBefore b ↔ a.approvedAt? < b.approvedAt? := by
  unfold StampedBefore
  cases a.approvedAt? with
  | none =>
      cases b.approvedAt? with
      | none => simp only [Option.not_lt_none]
      | some y => simp only [Option.none_lt_some]
  | some x =>
      cases b.approvedAt? with
      | none => simp only [Option.not_lt_none]
      | some y => simp only [Text.bytesBefore_iff, Option.some_lt_some]

theorem not_stampedBefore_iff {a b : Report} :
    ¬ a.StampedBefore b ↔ b.approvedAt? ≤ a.approvedAt? := by
  rw [stampedBefore_iff, ← isLaterThan_iff, not_isLaterThan_iff]

theorem lastNamed_concat :
    LastNamed (inserted ++ [q]) id r ↔ if q.id = id then q = r else LastNamed inserted id r := by
  constructor
  · rintro ⟨before, after, hsplit, hid, hafter⟩
    rcases List.eq_nil_or_concat after with rfl | ⟨after, last, rfl⟩
    · obtain ⟨-, hlast⟩ := List.append_inj' hsplit rfl
      obtain rfl : q = r := by simpa using hlast
      rw [if_pos hid]
    · have hsplit' : inserted ++ [q] = (before ++ r :: after) ++ [last] := by simpa using hsplit
      obtain ⟨hinserted, hlast⟩ := List.append_inj' hsplit' rfl
      obtain rfl : q = last := by simpa using hlast
      rw [if_neg (hafter q (by simp))]
      exact ⟨before, after, hinserted, hid, fun p hp => hafter p (by simp [hp])⟩
  · intro h
    split at h
    · next hq => exact ⟨inserted, [], by rw [h], h ▸ hq, by simp⟩
    · next hq =>
        obtain ⟨before, after, rfl, hid, hafter⟩ := h
        refine ⟨before, after ++ [q], by simp, hid, fun p hp => ?_⟩
        rcases List.mem_append.1 hp with hp | hp
        · exact hafter p hp
        · exact List.mem_singleton.1 hp ▸ hq

end Report

namespace History

theorem insert_eq_putBy (h : History) (r : Report) : h.insert r = Store.putBy Report.id r h := by
  induction h with
  | nil => rfl
  | cons q rest ih =>
      rw [insert, Store.putBy, ih]

theorem ofReports_concat (inserted : List Report) (r : Report) :
    ofReports (inserted ++ [r]) = Store.putBy Report.id r (ofReports inserted) := by
  rw [ofReports, List.foldl_append, List.foldl_cons, List.foldl_nil, insert_eq_putBy]
  rfl

/-- The names are those of the reports that came in, in the order in which they came in first. -/
theorem map_id_ofReports (inserted : List Report) :
    (ofReports inserted).map Report.id = (inserted.map Report.id).eraseDups := by
  induction inserted using List.reverseRecOn with
  | nil => rfl
  | append_singleton inserted r ih =>
      rw [ofReports_concat, Store.map_putBy, List.map_append, List.map_singleton, eraseDups_concat,
        ih]
      simp only [List.mem_eraseDups]

/-- The report found under a name is the last one that came in with it. -/
theorem find?_ofReports (inserted : List Report) (id : String) (r : Report) :
    (ofReports inserted).find? id = some r ↔ Report.LastNamed inserted id r := by
  induction inserted using List.reverseRecOn with
  | nil => simp [ofReports, find?, Report.LastNamed]
  | append_singleton inserted q ih =>
      rw [find?, ofReports_concat, Store.find?_putBy, Report.lastNamed_concat]
      split
      · exact Option.some_inj
      · exact ih

theorem find?_ofReports_eq_none_iff {inserted : List Report} {id : String} :
    (ofReports inserted).find? id = none ↔ ∀ r ∈ inserted, r.id ≠ id := by
  have hnames : (ofReports inserted).find? id = none ↔ id ∉ (ofReports inserted).map Report.id := by
    simp [find?]
  rw [hnames, map_id_ofReports, List.mem_eraseDups]
  simp

/-- The reports come in the order in which their names came in first. -/
theorem pairwise_firstPlace (inserted : List Report) :
    (ofReports inserted).Pairwise fun q r =>
      Report.firstPlace inserted q.id < Report.firstPlace inserted r.id := by
  have horder := pairwise_idxOf_eraseDups (inserted.map Report.id)
  rw [← map_id_ofReports, List.pairwise_map] at horder
  exact horder

theorem nodup_ofReports (inserted : List Report) :
    ((ofReports inserted).map Report.id).Nodup := by
  rw [map_id_ofReports]
  exact nodup_eraseDups _

/-- With distinct names, a report is in a history when it is the one found under its name. -/
theorem mem_iff_find? {h : History} (hdistinct : (h.map Report.id).Nodup) {r : Report} :
    r ∈ h ↔ h.find? r.id = some r := by
  constructor
  · exact find?_of_nodup hdistinct
  · exact List.mem_of_find?_eq_some

end History

namespace Store

/-- The store after reports came in, one after the other, when it was empty before. -/
def ofReports (inserted : List Report) : Store :=
  inserted.foldl insertReport empty

theorem reports_ofReports (inserted : List Report) :
    (ofReports inserted).reports = History.ofReports inserted := by
  induction inserted using List.reverseRecOn with
  | nil => rfl
  | append_singleton inserted r ih =>
      rw [History.ofReports_concat, ← ih, ← History.insert_eq_putBy, ofReports, List.foldl_append]
      rfl

/-- What a store has to say about the reports that came in. -/
structure Recalls (s : Store) (inserted : List Report) : Prop where
  distinct : (s.reports.map Report.id).Nodup
  stored : ∀ r, r ∈ s.reports ↔ Report.LastNamed inserted r.id r
  found : ∀ id r, s.report id = .ok r ↔ Report.LastNamed inserted id r
  missing : ∀ id reason, s.report id = .error reason ↔
    reason = .reportNotFound id ∧ ∀ r ∈ inserted, r.id ≠ id
  noneEligible : ∀ key? excluding, s.reports.latestApproved key? excluding = none ↔
    ∀ q ∈ s.reports, ¬ q.Eligible key? excluding
  latest : ∀ key? excluding r, s.reports.latestApproved key? excluding = some r →
    r ∈ s.reports ∧ r.Eligible key? excluding ∧
      (∀ q ∈ s.reports, q.Eligible key? excluding → ¬ r.StampedBefore q) ∧
        -- Of equally late ones it is the one whose name came in last for the first time.
        ∀ q ∈ s.reports, q.Eligible key? excluding → ¬ q.StampedBefore r → q ≠ r →
          Report.firstPlace inserted q.id < Report.firstPlace inserted r.id

/-- A store that took in reports recalls the last one of each name and finds the latest approved. -/
theorem ofReports_recalls (inserted : List Report) : (ofReports inserted).Recalls inserted := by
  have hreports := reports_ofReports inserted
  have hdistinct := History.nodup_ofReports inserted
  have hfind := History.find?_ofReports inserted
  constructor
  case distinct =>
    rw [hreports]
    exact hdistinct
  case stored =>
    intro r
    rw [hreports, History.mem_iff_find? hdistinct, hfind]
  case found =>
    intro id r
    rw [report, hreports, ← hfind]
    cases (History.ofReports inserted).find? id with
    | none => simp
    | some q => simp
  case missing =>
    intro id reason
    rw [report, hreports, ← History.find?_ofReports_eq_none_iff]
    cases (History.ofReports inserted).find? id with
    | none => simp [eq_comm]
    | some q => simp
  case noneEligible =>
    intro key? excluding
    rw [History.latestApproved_eq_none_iff]
    simp only [Report.isReference_iff]
  case latest =>
    intro key? excluding r hr
    have hlatest := History.latest_of_latestApproved hr
    have horder := History.pairwise_firstPlace inserted
    have hmem : r ∈ (ofReports inserted).reports := by
      obtain ⟨-, before, after, hsplit, -⟩ := hlatest
      rw [hsplit]
      simp
    refine ⟨hmem, Report.isReference_iff.1 hlatest.1, fun q hq heligible => ?_,
      fun q hq heligible htied hne => ?_⟩
    · apply Report.not_stampedBefore_iff.2
      exact hlatest.stamp_le hq (Report.isReference_iff.2 heligible)
    · obtain ⟨-, before, after, hsplit, -, hafter⟩ := hlatest
      rw [← hreports, hsplit] at horder
      rw [hsplit] at hq
      rcases List.mem_append.1 hq with hq | hq
      · exact (List.pairwise_append.1 horder).2.2 q hq r List.mem_cons_self
      · rcases List.mem_cons.1 hq with hsame | hq
        · exact absurd hsame hne
        · -- Those behind the one that was found are earlier, not equally late.
          have hearlier := hafter q hq (Report.isReference_iff.2 heligible)
          exact absurd (Report.stampedBefore_iff.2 hearlier) htied

-- A report that comes in again stays in front of those that came in between.
example :
    let approved (id key : String) : Report :=
      { Report.new id with status := .approved, businessKey := key }
    (ofReports [approved "x" "old", approved "y" "", approved "x" "new"]).reports.latestApproved
      none "z" = some (approved "y" "") := by
  decide

end Store

end MarkedSheet
