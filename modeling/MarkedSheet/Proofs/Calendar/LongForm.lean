import MarkedSheet.Calendar.NumericDate
import MarkedSheet.Config
import MarkedSheet.Proofs.Decimal.Digits
import MarkedSheet.Proofs.Text.Trimmed

/-!
# Numeric dates in the long form

A numeric date is described by its layout, and a day of the calendar by the lengths of the months.
Reading finds a date exactly in the texts of that layout whose day exists.  Those are the texts that
the long form changes, and what it writes names the same day with the characters for year, month and
day, which it then leaves as it is.
-/

namespace MarkedSheet

open Decimal (FixedNumeral fixedNumeral_one_iff fixedNumeral_two_iff isBlank_of_isDigit)

namespace Date

/-- The leap years of the Gregorian calendar. -/
def IsLeap (year : Nat) : Prop :=
  4 ∣ year ∧ (100 ∣ year → 400 ∣ year)

/-- The months of a year, counted from 1, and their lengths. -/
inductive HasMonth (year : Nat) : Nat → Nat → Prop
  | long {month : Nat} : month ∈ [1, 3, 5, 7, 8, 10, 12] → HasMonth year month 31
  | short {month : Nat} : month ∈ [4, 6, 9, 11] → HasMonth year month 30
  | leapFebruary : IsLeap year → HasMonth year 2 29
  | february : ¬ IsLeap year → HasMonth year 2 28

/-- A day that the Gregorian calendar has. -/
def IsGregorian (d : Date) : Prop :=
  ∃ length, HasMonth d.year d.month length ∧ 1 ≤ d.day ∧ d.day ≤ length

theorem isLeapYear_iff {year : Nat} : isLeapYear year = true ↔ IsLeap year := by
  simp only [isLeapYear, IsLeap, Bool.and_eq_true, Bool.or_eq_true, decide_eq_true_iff]
  omega

theorem hasMonth_iff {year month length : Nat} :
    HasMonth year month length ↔
      (1 ≤ month ∧ month ≤ 12) ∧ daysInMonth year month = length := by
  constructor
  · rintro (hlong | hshort | hleap | hcommon)
    · have hall : ∀ m ∈ [1, 3, 5, 7, 8, 10, 12],
          (1 ≤ m ∧ m ≤ 12) ∧ daysInMonth year m = 31 := by
        simp [daysInMonth]
      exact hall month hlong
    · have hall : ∀ m ∈ [4, 6, 9, 11], (1 ≤ m ∧ m ≤ 12) ∧ daysInMonth year m = 30 := by
        simp [daysInMonth]
      exact hall month hshort
    · exact ⟨by decide, if_pos (isLeapYear_iff.2 hleap)⟩
    · exact ⟨by decide, if_neg fun h => hcommon (isLeapYear_iff.1 h)⟩
  · rintro ⟨hrange, rfl⟩
    unfold daysInMonth
    split
    · split
      · next hleap => exact .leapFebruary (isLeapYear_iff.1 hleap)
      · next hcommon => exact .february fun h => hcommon (isLeapYear_iff.2 h)
    iterate 4 exact .short (by decide)
    · next htwo hfour hsix hnine heleven =>
        refine .long ?_
        simp only [imp_false] at htwo hfour hsix hnine heleven
        simp only [List.mem_cons, List.not_mem_nil]
        omega

theorem daysInMonth_le (year month : Nat) : daysInMonth year month ≤ 31 := by
  unfold daysInMonth
  split
  · split <;> decide
  all_goals decide

theorem isValid_iff {d : Date} : d.isValid = true ↔ d.IsGregorian := by
  simp only [isValid, IsGregorian, hasMonth_iff, Bool.and_eq_true, decide_eq_true_iff]
  constructor
  · rintro ⟨⟨⟨hfirst, hlast⟩, hpos⟩, hday⟩
    exact ⟨_, ⟨⟨hfirst, hlast⟩, rfl⟩, hpos, hday⟩
  · rintro ⟨length, ⟨⟨hfirst, hlast⟩, rfl⟩, hpos, hday⟩
    exact ⟨⟨⟨hfirst, hlast⟩, hpos⟩, hday⟩

theorem IsGregorian.month_lt {d : Date} (h : d.IsGregorian) : d.month < 100 := by
  obtain ⟨length, hmonth, -⟩ := h
  have hrange := (hasMonth_iff.1 hmonth).1
  omega

theorem IsGregorian.day_lt {d : Date} (h : d.IsGregorian) : d.day < 100 := by
  obtain ⟨length, hmonth, -, hday⟩ := h
  have hlength : length ≤ 31 := by
    rw [← (hasMonth_iff.1 hmonth).2]
    exact daysInMonth_le _ _
  omega

theorem ofParts?_eq_some_iff {year month day : Nat} {d : Date} :
    ofParts? year month day = some d ↔ d = ⟨year, month, day⟩ ∧ d.IsGregorian := by
  rw [ofParts?, ← isValid_iff]
  constructor
  · intro h
    split at h
    · next hvalid =>
        obtain rfl := Option.some.inj h
        exact ⟨rfl, hvalid⟩
    · cases h
  · rintro ⟨rfl, hvalid⟩
    rw [if_pos hvalid]

end Date

namespace NumericDate

/-- A number of one or two digits. -/
def Part (cs : List Char) (n : Nat) : Prop :=
  FixedNumeral 1 cs n ∨ FixedNumeral 2 cs n

/-- Month and day as they stand after the year. -/
inductive MonthAndDay (month day : Nat) : List Char → Prop
  | spaced {a b : Char} {ms ds : List Char} :
      a ∈ ['-', '/', '.'] → Part ms month → b ∈ ['-', '/', '.'] → Part ds day →
        MonthAndDay month day (a :: (ms ++ b :: ds))
  | compact {ms ds : List Char} :
      FixedNumeral 2 ms month → FixedNumeral 2 ds day → MonthAndDay month day (ms ++ ds)

/-- Nothing, or a space or a `T` and what follows it on the same line. -/
inductive Time : List Char → Prop
  | nil : Time []
  | after {c : Char} {rest : List Char} : c ∈ [' ', 'T'] → '\n' ∉ rest → Time (c :: rest)

/-- The texts in the layout of a numeric date, and the numbers in them. -/
inductive Names (d : Date) : List Char → Prop
  | intro {ys md time : List Char} :
      FixedNumeral 4 ys d.year → MonthAndDay d.month d.day md → Time time →
        Names d (ys ++ (md ++ time))

theorem exists_part_of_shortNumber? {cs rest : List Char} {n : Nat}
    (h : shortNumber? cs = some (n, rest)) : ∃ ds, Part ds n ∧ cs = ds ++ rest := by
  unfold shortNumber? at h
  split at h
  · cases h
  · next a tail =>
      split at h
      · next ha =>
          split at h
          · next b tail =>
              split at h
              · next hb =>
                  cases h
                  exact ⟨[a, b], .inr (fixedNumeral_two_iff.2 ⟨a, b, rfl, ha, hb, rfl⟩), rfl⟩
              · cases h
                exact ⟨[a], .inl (fixedNumeral_one_iff.2 ⟨a, rfl, ha, rfl⟩), rfl⟩
          · cases h
            exact ⟨[a], .inl (fixedNumeral_one_iff.2 ⟨a, rfl, ha, rfl⟩), rfl⟩
      · cases h

/-- A number is read to its end when no digit follows. -/
theorem shortNumber?_append {ds rest : List Char} {n : Nat} (h : Part ds n)
    (hrest : ∀ c ∈ rest.head?, c.isDigit = false) : shortNumber? (ds ++ rest) = some (n, rest) := by
  rcases h with hone | htwo
  · obtain ⟨a, rfl, ha, rfl⟩ := fixedNumeral_one_iff.1 hone
    cases rest with
    | nil => simp [shortNumber?, ha]
    | cons c rest =>
        have hc : c.isDigit = false := hrest c rfl
        simp [shortNumber?, ha, hc]
  · obtain ⟨a, b, rfl, ha, hb, rfl⟩ := fixedNumeral_two_iff.1 htwo
    simp [shortNumber?, ha, hb]

theorem isSeparator_iff {c : Char} : isSeparator c = true ↔ c ∈ ['-', '/', '.'] := by
  simp [isSeparator, or_assoc]

theorem isDigit_of_mem_separators {c : Char} (h : c ∈ ['-', '/', '.']) : c.isDigit = false := by
  simp only [List.mem_cons, List.not_mem_nil, or_false] at h
  rcases h with rfl | rfl | rfl <;> rfl

theorem exists_part_of_separated? {cs rest : List Char} {n : Nat}
    (h : separated? cs = some (n, rest)) :
    ∃ a ds, a ∈ ['-', '/', '.'] ∧ Part ds n ∧ cs = a :: (ds ++ rest) := by
  unfold separated? at h
  split at h
  · cases h
  · next a tail =>
      split at h
      · next ha =>
          obtain ⟨ds, hds, rfl⟩ := exists_part_of_shortNumber? h
          exact ⟨a, ds, isSeparator_iff.1 ha, hds, rfl⟩
      · cases h

theorem separated?_cons_append {a : Char} {ds rest : List Char} {n : Nat}
    (ha : a ∈ ['-', '/', '.']) (h : Part ds n) (hrest : ∀ c ∈ rest.head?, c.isDigit = false) :
    separated? (a :: (ds ++ rest)) = some (n, rest) := by
  rw [separated?, if_pos (isSeparator_iff.2 ha), shortNumber?_append h hrest]

theorem monthAndDay_of_spaced? {cs rest : List Char} {month day : Nat}
    (h : spaced? cs = some (month, day, rest)) :
    ∃ md, MonthAndDay month day md ∧ cs = md ++ rest := by
  rw [spaced?, Option.bind_eq_some_iff] at h
  obtain ⟨⟨m, tail⟩, hmonth, h⟩ := h
  rw [Option.map_eq_some_iff] at h
  obtain ⟨⟨d, rest'⟩, hday, h⟩ := h
  cases h
  obtain ⟨a, ms, ha, hms, rfl⟩ := exists_part_of_separated? hmonth
  obtain ⟨b, ds, hb, hds, htail⟩ := exists_part_of_separated? hday
  refine ⟨a :: (ms ++ b :: ds), .spaced ha hms hb hds, ?_⟩
  rw [show tail = b :: (ds ++ rest') from htail]
  simp

theorem monthAndDay_of_compact? {cs rest : List Char} {month day : Nat}
    (h : compact? cs = some (month, day, rest)) :
    ∃ md, MonthAndDay month day md ∧ cs = md ++ rest := by
  unfold compact? at h
  split at h
  · next a b c d tail =>
      split at h
      · next hall =>
          cases h
          simp only [List.all_cons, List.all_nil, Bool.and_true, Bool.and_eq_true] at hall
          obtain ⟨ha, hb, hc, hd⟩ := hall
          exact ⟨[a, b] ++ [c, d], .compact (fixedNumeral_two_iff.2 ⟨a, b, rfl, ha, hb, rfl⟩)
            (fixedNumeral_two_iff.2 ⟨c, d, rfl, hc, hd, rfl⟩), rfl⟩
      · cases h
  · cases h

theorem monthAndDay_of_orElse {cs rest : List Char} {month day : Nat}
    (h : ((spaced? cs).orElse fun _ => compact? cs) = some (month, day, rest)) :
    ∃ md, MonthAndDay month day md ∧ cs = md ++ rest := by
  cases hspaced : spaced? cs with
  | none =>
      rw [hspaced] at h
      exact monthAndDay_of_compact? h
  | some found =>
      rw [hspaced] at h
      cases h
      exact monthAndDay_of_spaced? hspaced

/-- Month and day are read to their end when no digit follows. -/
theorem orElse_monthAndDay_append {md rest : List Char} {month day : Nat}
    (h : MonthAndDay month day md) (hrest : ∀ c ∈ rest.head?, c.isDigit = false) :
    ((spaced? (md ++ rest)).orElse fun _ => compact? (md ++ rest)) = some (month, day, rest) := by
  cases h with
  | @spaced a b ms ds ha hms hb hds =>
      have hmonth : separated? (a :: (ms ++ (b :: (ds ++ rest)))) =
          some (month, b :: (ds ++ rest)) :=
        separated?_cons_append ha hms fun c hc => by
          cases hc
          exact isDigit_of_mem_separators hb
      have hday : separated? (b :: (ds ++ rest)) = some (day, rest) :=
        separated?_cons_append hb hds hrest
      have hassoc : a :: (ms ++ b :: ds) ++ rest = a :: (ms ++ (b :: (ds ++ rest))) := by simp
      rw [hassoc, spaced?, hmonth, Option.bind_some, hday]
      rfl
  | @compact ms ds hms hds =>
      obtain ⟨a, b, rfl, ha, hb, rfl⟩ := fixedNumeral_two_iff.1 hms
      obtain ⟨c, d, rfl, hc, hd, rfl⟩ := fixedNumeral_two_iff.1 hds
      -- A month without separator starts with a digit, so the other layout does not fit.
      have hsep : isSeparator a = false := by
        rw [Bool.eq_false_iff]
        intro hsep
        rw [isDigit_of_mem_separators (isSeparator_iff.1 hsep)] at ha
        cases ha
      have hnone : spaced? ([a, b] ++ [c, d] ++ rest) = none := by
        simp [spaced?, separated?, hsep]
      have hsome : compact? ([a, b] ++ [c, d] ++ rest) =
          some (Decimal.valueFrom 0 [a, b], Decimal.valueFrom 0 [c, d], rest) := by
        simp [compact?, ha, hb, hc, hd]
      rw [hnone, hsome]
      rfl

theorem isTime_iff {cs : List Char} : isTime cs = true ↔ Time cs := by
  cases cs with
  | nil => exact ⟨fun _ => .nil, fun _ => rfl⟩
  | cons c rest =>
      constructor
      · intro h
        simp only [isTime, Bool.and_eq_true, Bool.or_eq_true, decide_eq_true_iff,
          Bool.not_eq_true', List.contains_eq_mem, decide_eq_false_iff_not] at h
        exact .after (by simpa using h.1) h.2
      · intro h
        cases h with
        | after hc hrest => simpa [isTime] using ⟨by simpa using hc, hrest⟩

theorem Time.head?_isDigit {cs : List Char} (h : Time cs) :
    ∀ c ∈ cs.head?, c.isDigit = false := by
  intro c hc
  cases h with
  | nil => cases hc
  | after hmem _ =>
      cases hc
      simp only [List.mem_cons, List.not_mem_nil, or_false] at hmem
      rcases hmem with rfl | rfl <;> rfl

/-- Reading finds exactly the texts in the layout of a numeric date whose day exists. -/
theorem read?_eq_some_iff {cs : List Char} {d : Date} :
    read? cs = some d ↔ Names d cs ∧ d.IsGregorian := by
  constructor
  · intro h
    by_cases hyear : (cs.take 4).length = 4 ∧ (cs.take 4).all Char.isDigit = true
    · simp only [read?, if_pos hyear] at h
      split at h
      · next month day rest hrest =>
          split at h
          · next htime =>
              obtain ⟨rfl, hvalid⟩ := Date.ofParts?_eq_some_iff.1 h
              obtain ⟨md, hmd, hdrop⟩ := monthAndDay_of_orElse hrest
              have hyear' : FixedNumeral 4 (cs.take 4) (Decimal.valueFrom 0 (cs.take 4)) :=
                ⟨⟨List.all_eq_true.1 hyear.2, rfl⟩, hyear.1⟩
              have hnames := Names.intro (d := ⟨_, month, day⟩) hyear' hmd (isTime_iff.1 htime)
              rw [← hdrop, List.take_append_drop] at hnames
              exact ⟨hnames, hvalid⟩
          · cases h
      · cases h
    · simp only [read?, if_neg hyear] at h
      cases h
  · rintro ⟨hnames, hvalid⟩
    obtain @⟨ys, md, time, hys, hmd, htime⟩ := hnames
    have hyear : ys.length = 4 ∧ ys.all Char.isDigit = true :=
      ⟨hys.length, List.all_eq_true.2 hys.isDigit⟩
    have hrest := orElse_monthAndDay_append hmd htime.head?_isDigit
    unfold read?
    rw [List.take_left' hys.length, List.drop_left' hys.length]
    simp only [if_pos hyear, hrest, if_pos (isTime_iff.2 htime), hys.value]
    exact Date.ofParts?_eq_some_iff.2 ⟨rfl, hvalid⟩

/-- A text that names a day of the calendar in numbers and has no long form in it yet. -/
structure IsNumeric (cs : List Char) (d : Date) : Prop where
  notLong : ¬ ('年' ∈ cs ∧ '月' ∈ cs)
  names : Names d cs
  isGregorian : d.IsGregorian

/-- The text of a day in the long form. -/
inductive InLongForm (d : Date) : List Char → Prop
  | intro {ys ms ds : List Char} :
      FixedNumeral 4 ys d.year → FixedNumeral 2 ms d.month → FixedNumeral 2 ds d.day →
        InLongForm d (ys ++ '年' :: (ms ++ '月' :: (ds ++ ['日'])))

/-- What becomes of a text: it stays as it is, or else the day that it names in numbers is written
in the long form. -/
structure Rewriting (text result : String) : Prop where
  changed_iff : result ≠ text ↔ ∃ d, IsNumeric (Text.trim text.toList) d
  written : ∀ d, IsNumeric (Text.trim text.toList) d → InLongForm d result.toList

theorem isLong_iff {cs : List Char} : isLong cs = true ↔ '年' ∈ cs ∧ '月' ∈ cs := by
  simp [isLong]

theorem isNumeric_iff {cs : List Char} {d : Date} :
    IsNumeric cs d ↔ isLong cs = false ∧ read? cs = some d := by
  rw [Bool.eq_false_iff, ne_eq, isLong_iff, read?_eq_some_iff]
  exact ⟨fun h => ⟨h.notLong, h.names, h.isGregorian⟩, fun h => ⟨h.1, h.2.1, h.2.2⟩⟩

theorem IsNumeric.year_lt {cs : List Char} {d : Date} (h : IsNumeric cs d) : d.year < 10000 := by
  cases h.names with
  | intro hys _ _ => exact hys.lt

theorem parse?_longDateFormat :
    Pattern.parse? Config.longDateFormat.toList =
      some [.plain .year, .literal '年', .plain .month, .literal '月', .plain .day, .literal '日'] :=
  rfl

/-- A number that fits its width is filled up to it with zeros. -/
theorem fixedNumeral_write {d : Date} {n : DateNumber} {k : Nat} (hvalue : n.value d = k)
    (hwidth : 0 < n.width) (hlt : k < 10 ^ n.width) (hsmall : k < 10000) :
    FixedNumeral n.width (n.write d .zero) k := by
  have hrange : (0 : Int) ≤ k ∧ (k : Int) < 10000 := by omega
  rw [DateNumber.write, hvalue]
  simp only [if_pos hrange, Int.toNat_natCast]
  exact Decimal.fixedNumeral_padded hwidth hlt

theorem inLongForm_write {cs : List Char} {d : Date} (h : IsNumeric cs d) :
    InLongForm d (Pattern.write [.plain .year, .literal '年', .plain .month, .literal '月',
      .plain .day, .literal '日'] d) := by
  have hyear := h.year_lt
  have hmonth := h.isGregorian.month_lt
  have hday := h.isGregorian.day_lt
  have hys := fixedNumeral_write (n := .year) (k := d.year) rfl (by decide) hyear hyear
  have hms := fixedNumeral_write (n := .month) (k := d.month) rfl (by decide) hmonth (by omega)
  have hds := fixedNumeral_write (n := .day) (k := d.day) rfl (by decide) hday (by omega)
  simpa [Pattern.write, PatternItem.write, PatternItem.plain] using InLongForm.intro hys hms hds

theorem longForm_of_isNumeric {text : String} {d : Date}
    (h : IsNumeric (Text.trim text.toList) d) :
    InLongForm d (longForm text Config.longDateFormat).toList := by
  obtain ⟨hlong, hread⟩ := isNumeric_iff.1 h
  simp only [longForm, hlong, hread, parse?_longDateFormat, Bool.false_eq_true, if_false,
    String.toList_ofList]
  exact inLongForm_write h

/-- A text that names no day in numbers is left as it is, whatever the pattern. -/
theorem longForm_eq_self {text : String} (pattern : String)
    (h : ∀ d, ¬ IsNumeric (Text.trim text.toList) d) : longForm text pattern = text := by
  rw [longForm]
  split
  · rfl
  · next hlong =>
      split
      · next d p hread hpattern =>
          exact absurd (isNumeric_iff.2 ⟨Bool.eq_false_iff.2 hlong, hread⟩) (h d)
      · rfl

theorem InLongForm.trim_eq {cs : List Char} {d : Date} (h : InLongForm d cs) :
    Text.trim cs = cs := by
  refine Text.trim_eq_of_forall fun c hc => ?_
  cases h with
  | intro hys hms hds =>
      have hmarks : Text.isBlank '年' = false ∧ Text.isBlank '月' = false ∧
          Text.isBlank '日' = false := by decide
      simp only [List.mem_append, List.mem_cons, List.not_mem_nil, or_false] at hc
      rcases hc with hc | rfl | hc | rfl | hc | rfl
      · exact isBlank_of_isDigit (hys.isDigit c hc)
      · exact hmarks.1
      · exact isBlank_of_isDigit (hms.isDigit c hc)
      · exact hmarks.2.1
      · exact isBlank_of_isDigit (hds.isDigit c hc)
      · exact hmarks.2.2

theorem InLongForm.isLong {cs : List Char} {d : Date} (h : InLongForm d cs) :
    '年' ∈ Text.trim cs ∧ '月' ∈ Text.trim cs := by
  rw [h.trim_eq]
  cases h with
  | intro => simp

/-- The long form changes exactly the texts that name a day of the calendar in numbers, writes that
day in its place, and changes nothing a second time. -/
theorem longForm_rewriting (text : String) :
    Rewriting text (longForm text Config.longDateFormat) ∧
      longForm (longForm text Config.longDateFormat) Config.longDateFormat =
        longForm text Config.longDateFormat := by
  by_cases h : ∃ d, IsNumeric (Text.trim text.toList) d
  · obtain ⟨d, hd⟩ := h
    have hwritten := longForm_of_isNumeric hd
    have hchanged : longForm text Config.longDateFormat ≠ text := by
      intro hsame
      rw [hsame] at hwritten
      exact hd.notLong hwritten.isLong
    refine ⟨⟨⟨fun _ => ⟨d, hd⟩, fun _ => hchanged⟩, fun _ => longForm_of_isNumeric⟩, ?_⟩
    exact longForm_eq_self _ fun _ hagain => hagain.notLong hwritten.isLong
  · have hnone := not_exists.1 h
    have hsame := longForm_eq_self Config.longDateFormat hnone
    rw [hsame]
    exact ⟨⟨⟨fun hne => absurd rfl hne, fun hd => absurd hd h⟩, fun d hd => absurd hd (hnone d)⟩,
      hsame⟩

example : longForm " 2024.2/29T08:30 " Config.longDateFormat = "2024年02月29日" := by
  decide

example : longForm "2023-02-29" Config.longDateFormat = "2023-02-29" := by
  decide

end NumericDate

end MarkedSheet
