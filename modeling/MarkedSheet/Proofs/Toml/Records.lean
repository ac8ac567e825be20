import Mathlib.Data.List.Nodup
import MarkedSheet.Toml.Decoder

/-!
# Records read back

Before a record is made up from a table, every entry of the table is checked.  For a record of
required and optional fields the checks say nothing more than that the record can be made up: a table
of such fields, each at most once, is taken as the record that they give.
-/

namespace MarkedSheet.Toml

theorem lookup_eq_some_of_mem {t : Table} (hnames : (t.map (·.1)).Nodup) {e : String × Item}
    (he : e ∈ t) : t.lookup e.1 = some e.2 := by
  induction t with
  | nil => cases he
  | cons a t ih =>
      rw [List.map_cons, List.nodup_cons] at hnames
      rcases List.mem_cons.1 he with rfl | he
      · exact List.lookup_cons_self
      · have hne : (e.1 == a.1) = false :=
          beq_eq_false_iff_ne.2 fun heq => hnames.1 (heq ▸ List.mem_map_of_mem he)
        rw [List.lookup_cons, hne]
        exact ih hnames.2 he

namespace Record

variable {α β : Type} {r : Record α} {source : Source} {name : String} {d : Decoder α}

/-- The entries of a table as the source of a record. -/
def sourceOf (t : Table) : Source :=
  ⟨fun name => t.lookup name, .missingField⟩

/-- The record that the fields of a source give. -/
def Gives (r : Record α) (source : Source) (a : α) : Prop :=
  r.build source = .ok a

/-- The record is made up only when every field that is there passes its check. -/
def Sound (r : Record α) : Prop :=
  ∀ source a, r.Gives source a →
    ∀ c ∈ r.checks, ∀ item, source.get? c.1 = some item → c.2 item = none

theorem failure?_eq_none {item : Item} {a : α} (h : d item = .ok a) : failure? d item = none := by
  rw [failure?, h]

theorem sound_required (name : String) (d : Decoder α) : (required name d).Sound := by
  intro source a h c hc item hitem
  obtain rfl := List.mem_singleton.1 hc
  simp only [Gives, required, hitem] at h
  exact failure?_eq_none h

theorem sound_withDefault (name : String) (d : Decoder α) (default : α) :
    (withDefault name d default).Sound := by
  intro source a h c hc item hitem
  obtain rfl := List.mem_singleton.1 hc
  simp only [Gives, withDefault, hitem] at h
  exact failure?_eq_none h

theorem sound_pure (a : α) : (pure a : Record α).Sound := by
  intro source b h c hc
  cases hc

theorem Sound.seq {f : Record (α → β)} {x : Record α} (hf : f.Sound) (hx : x.Sound) :
    (f <*> x).Sound := by
  intro source b h c hc item hitem
  change (f.build source).bind (fun g => (x.build source).map g) = .ok b at h
  cases hg : f.build source with
  | error e => rw [hg] at h; cases h
  | ok g =>
      cases ha : x.build source with
      | error e => rw [hg, ha] at h; cases h
      | ok a =>
          rcases List.mem_append.1 hc with hc | hc
          · exact hf source g hg c hc item hitem
          · exact hx source a ha c hc item hitem

theorem Sound.map {x : Record α} (hx : x.Sound) (f : α → β) : (f <$> x).Sound :=
  (sound_pure f).seq hx

section Fields

variable {t : Table}

theorem gives_required {item : Item} {a : α} (hget : t.lookup name = some item)
    (hd : d item = .ok a) : (required name d).Gives (sourceOf t) a := by
  simp only [Gives, sourceOf, required, hget, hd]

theorem gives_withDefault {item : Item} {a : α} (default : α) (hget : t.lookup name = some item)
    (hd : d item = .ok a) : (withDefault name d default).Gives (sourceOf t) a := by
  simp only [Gives, sourceOf, withDefault, hget, hd]

theorem gives_default (d : Decoder α) (default : α) (hget : t.lookup name = none) :
    (withDefault name d default).Gives (sourceOf t) default := by
  simp only [Gives, sourceOf, withDefault, hget]

/-- An absent value stands for no field, and a field for the value that it was written for. -/
theorem gives_optional {encode : α → Item} {a? : Option α}
    (hget : t.lookup name = a?.map encode) (hd : ∀ a ∈ a?, d (encode a) = .ok a) :
    (withDefault name (Decoder.optional d) none).Gives (sourceOf t) a? := by
  cases a? with
  | none => simp only [Gives, sourceOf, withDefault, hget, Option.map_none]
  | some a =>
      simp only [Gives, sourceOf, withDefault, hget, Option.map_some, Decoder.optional, hd a rfl]
      rfl

end Fields

theorem Gives.seq {f : Record (α → β)} {x : Record α} {g : α → β} {a : α}
    (hf : f.Gives source g) (hx : x.Gives source a) : (f <*> x).Gives source (g a) := by
  change (f.build source).bind (fun g => (x.build source).map g) = .ok (g a)
  rw [hf, hx]
  rfl

theorem Gives.map {x : Record α} {a : α} (hx : x.Gives source a) (f : α → β) :
    (f <$> x).Gives source (f a) :=
  Gives.seq (f := pure f) rfl hx

theorem exists_of_gives_withDefault {default a : α}
    (h : (withDefault name d default).Gives source a) :
    (∃ item, source.get? name = some item ∧ d item = .ok a) ∨
      source.get? name = none ∧ a = default := by
  simp only [Gives, withDefault] at h
  split at h
  · next item hget => exact .inl ⟨item, hget, h⟩
  · next hget => exact .inr ⟨hget, (Except.ok.inj h).symm⟩

theorem exists_of_gives_seq {f : Record (α → β)} {x : Record α} {b : β}
    (h : (f <*> x).Gives source b) :
    ∃ g a, f.Gives source g ∧ x.Gives source a ∧ b = g a := by
  change (f.build source).bind (fun g => (x.build source).map g) = .ok b at h
  cases hg : f.build source with
  | error e => rw [hg] at h; cases h
  | ok g =>
      cases ha : x.build source with
      | error e => rw [hg, ha] at h; cases h
      | ok a =>
          rw [hg, ha] at h
          exact ⟨g, a, hg, ha, (Except.ok.inj h).symm⟩

theorem exists_of_gives_map {f : α → β} {x : Record α} {b : β} (h : (f <$> x).Gives source b) :
    ∃ a, x.Gives source a ∧ b = f a := by
  obtain ⟨g, a, hg, ha, rfl⟩ := exists_of_gives_seq (f := pure f) h
  obtain rfl := Except.ok.inj hg
  exact ⟨a, ha, rfl⟩

/-- The item of a field: under its name in a table, or in its place in a list. -/
def field? (r : Record α) (item : Item) (name : String) : Option Item :=
  match item.entries? with
  | some entries => entries.lookup name
  | none => item.items?.bind fun items => items[r.names.idxOf name]?

/-- A record is made up from the fields of its item. -/
theorem exists_of_decoder_eq_ok {isStrict : Bool} {title size : String} {item : Item} {a : α}
    (h : r.decoder isStrict title size item = .ok a) :
    ∃ source, r.Gives source a ∧ ∀ name, source.get? name = r.field? item name := by
  unfold decoder at h
  split at h
  · next _ entries hentries =>
      rw [ofTable] at h
      split at h
      · cases h
      · exact ⟨_, h, fun name => by simp only [field?, hentries]⟩
  · next items hentries hitems =>
      exact ⟨_, h, fun name => by simp only [field?, hentries, hitems, Option.bind_some]⟩
  · cases h

/-- A table whose entries are fields of the record, each at most once, passes the checks of the
record that it gives. -/
theorem decoder_table (hr : r.Sound) (isStrict : Bool) (title size : String) {t : Table}
    (hfields : r.names.Nodup) (hsub : (t.map (·.1)).Sublist r.names) {a : α}
    (h : r.Gives (sourceOf t) a) :
    r.decoder isStrict title size (.table t) = .ok a := by
  have hchecks : t.findSome? (r.entryFailure? isStrict) = none := by
    rw [List.findSome?_eq_none_iff]
    intro e he
    rw [entryFailure?]
    cases hcheck : r.checks.lookup e.1 with
    | some check =>
        have hmem : (e.1, check) ∈ r.checks := by
          obtain ⟨before, after, heq, -⟩ := List.lookup_eq_some_iff.1 hcheck
          simp [heq]
        exact hr _ a h _ hmem e.2 (lookup_eq_some_of_mem (hsub.nodup hfields) he)
    | none =>
        obtain ⟨c, hc, hname⟩ := List.mem_map.1 (hsub.subset (List.mem_map_of_mem he))
        have hne := List.lookup_eq_none_iff.1 hcheck c hc
        simp [hname] at hne
  change r.ofTable isStrict t = .ok a
  rw [ofTable, hchecks]
  exact h

end Record

namespace Decoder

variable {α : Type}

theorem string_string (s : String) : string (.string s) = .ok s := rfl

theorem boolean_boolean (b : Bool) : boolean (.boolean b) = .ok b := rfl

/-- A value is found by its word when no other value has the same one. -/
theorem variant_string {all : List α} {word : α → String} {a : α} (ha : a ∈ all)
    (hword : ∀ b ∈ all, word b = word a → b = a) : variant all word (.string (word a)) = .ok a := by
  have hfind : (all.find? fun b => word b = word a) = some a := by
    cases hfound : all.find? fun b => word b = word a with
    | none =>
        have hnone := List.find?_eq_none.1 hfound a ha
        simp at hnone
    | some b =>
        have hb : word b = word a := by simpa using List.find?_some hfound
        rw [hword b (List.mem_of_find?_eq_some hfound) hb]
  rw [variant, ofWord, hfind]

theorem natural_integer {bound n : Nat} (wanted : String) (h : n < bound) :
    natural bound wanted (.integer n) = .ok n := by
  rw [natural, if_pos ⟨Int.natCast_nonneg n, Int.ofNat_lt.2 h⟩, Int.toNat_natCast]

/-- A list is decoded element by element. -/
theorem forall₂_of_mapM_eq_ok {γ δ ε : Type} {d : γ → Except ε δ} {xs : List γ} {ys : List δ}
    (h : xs.mapM d = .ok ys) : List.Forall₂ (fun x y => d x = .ok y) xs ys := by
  induction xs generalizing ys with
  | nil =>
      cases h
      exact .nil
  | cons x xs ih =>
      rw [List.mapM_cons] at h
      cases hx : d x with
      | error e => rw [hx] at h; cases h
      | ok y =>
          cases hxs : xs.mapM d with
          | error e => rw [hx, hxs] at h; cases h
          | ok ys =>
              rw [hx, hxs] at h
              cases h
              exact .cons hx (ih hxs)

/-- Every element of a list is read back when each of them is. -/
theorem mapM_eq_ok {d : Decoder α} {encode : α → Item} {l : List α}
    (h : ∀ a ∈ l, d (encode a) = .ok a) : (l.map encode).mapM d = .ok l := by
  induction l with
  | nil => rfl
  | cons a l ih =>
      rw [List.forall_mem_cons] at h
      rw [List.map_cons, List.mapM_cons, h.1, ih h.2]
      rfl

theorem list_rows {d : Decoder α} {encode : α → Table} {l : List α}
    (h : ∀ a ∈ l, d (.table (encode a)) = .ok a) : list d (.rows (l.map encode)) = .ok l := by
  change ((l.map encode).map Item.table).mapM d = .ok l
  rw [List.map_map]
  exact mapM_eq_ok h

end Decoder

end MarkedSheet.Toml
