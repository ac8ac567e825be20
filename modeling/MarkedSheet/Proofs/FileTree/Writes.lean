import Mathlib.Data.List.Infix
import MarkedSheet.FileTree

/-!
# Writes to a tree

A write puts its bytes at one place and leaves all others as they were.  A path without a slash leads
to a name in the current directory, and the path of a place without points leads to that place.
-/

namespace MarkedSheet

namespace Location

/-- The names of a place lead there as the parts of a path. -/
def IsPlain (p : Location) : Prop :=
  ∀ name ∈ p, name ≠ "" ∧ name ≠ "." ∧ name ≠ ".." ∧ '/' ∉ name.toList

instance (p : Location) : Decidable p.IsPlain := by
  unfold IsPlain
  infer_instance

theorem parts_ne_nil (cs : List Char) : parts cs ≠ [] := by
  cases cs with
  | nil => simp [parts]
  | cons c rest =>
      rw [parts]
      split
      · simp
      · split <;> simp

theorem parts_of_not_mem {cs : List Char} (h : '/' ∉ cs) : parts cs = [cs] := by
  induction cs with
  | nil => rfl
  | cons c rest ih =>
      rw [List.mem_cons, not_or] at h
      rw [parts, ih h.2]
      exact if_neg (Ne.symm h.1)

theorem parts_append {cs : List Char} (h : '/' ∉ cs) (rest : List Char) :
    parts (cs ++ '/' :: rest) = cs :: parts rest := by
  induction cs with
  | nil =>
      rw [List.nil_append, parts]
      split
      · next hnil => exact absurd hnil (parts_ne_nil rest)
      · next hparts => rw [if_pos rfl, hparts]
  | cons c cs ih =>
      rw [List.mem_cons, not_or] at h
      rw [List.cons_append, parts, ih h.2]
      exact if_neg (Ne.symm h.1)

theorem names_of_not_mem {name : String} (hslash : '/' ∉ name.toList) (hne : name ≠ "") :
    names name = [name] := by
  have hnonempty : name.toList ≠ [] := by simpa using hne
  simp [names, parts_of_not_mem hslash, hnonempty]

variable {p : Location}

theorem toList_path (p : Location) : p.path.toList = p.flatMap fun name => '/' :: name.toList := by
  induction p with
  | nil => rfl
  | cons name p ih =>
      rw [path, List.map_cons, String.join_cons, String.toList_append, ← path, ih]
      simp

theorem path_concat (p : Location) (name : String) :
    p.path ++ "/" ++ name = (p ++ [name]).path := by
  rw [← String.toList_inj, toList_path, List.flatMap_append, String.toList_append,
    String.toList_append, toList_path]
  simp

theorem parts_append_path (hp : p.IsPlain) {cs : List Char} (h : '/' ∉ cs) :
    parts (cs ++ p.path.toList) = cs :: p.map String.toList := by
  induction p generalizing cs with
  | nil => simpa [toList_path] using parts_of_not_mem h
  | cons name p ih =>
      obtain ⟨hname, hrest⟩ := List.forall_mem_cons.1 hp
      rw [toList_path, List.flatMap_cons, List.cons_append, parts_append h, ← toList_path,
        ih hrest hname.2.2.2]
      rfl

/-- The path of a place leads there name by name. -/
theorem names_path (hp : p.IsPlain) : names p.path = p := by
  have hparts := parts_append_path hp (List.not_mem_nil : '/' ∉ [])
  rw [List.nil_append] at hparts
  have hnonempty : ∀ part ∈ p.map String.toList, (!part.isEmpty) = true := by
    intro part hpart
    obtain ⟨name, hname, rfl⟩ := List.mem_map.1 hpart
    simpa using (hp name hname).1
  rw [names, hparts, List.filter_cons_of_neg (by simp), List.filter_eq_self.2 hnonempty,
    List.map_map]
  simp

end Location

theorem exists_of_bind_eq_ok {ε α β : Type} {x : Except ε α} {f : α → Except ε β} {b : β}
    (h : x.bind f = .ok b) : ∃ a, x = .ok a ∧ f a = .ok b := by
  cases x with
  | error e => cases h
  | ok a => exact ⟨a, rfl, h⟩

namespace Disk

variable {d : Disk} {p q : Location} {bytes : Bytes}

theorem lookup_putFile (files : List (Location × Bytes)) :
    (putFile p bytes files).lookup q = if q = p then some bytes else files.lookup q := by
  induction files with
  | nil =>
      by_cases hq : q = p
      · simp [putFile, hq]
      · simp [putFile, List.lookup_cons, beq_false_of_ne hq, hq]
  | cons f files ih =>
      obtain ⟨r, b⟩ := f
      rw [putFile]
      by_cases hq : q = r
      · by_cases hr : r = p
        · simp [hq, hr]
        · simp [hq, hr]
      · by_cases hr : r = p
        · subst hr
          simp [List.lookup_cons, beq_false_of_ne hq, hq]
        · simp [List.lookup_cons, beq_false_of_ne hq, hr, ih]

theorem bytes?_put_self (h : p ≠ Location.nullDevice) : (d.put p bytes).bytes? p = some bytes := by
  rw [bytes?, if_neg h, put, if_neg h, lookup_putFile, if_pos rfl]

theorem bytes?_put_of_ne (h : q ≠ p) : (d.put p bytes).bytes? q = d.bytes? q := by
  rw [put]
  split
  · rfl
  · rw [bytes?, bytes?, lookup_putFile, if_neg h]

theorem lookup_filter (keep : Location → Bool) (files : List (Location × Bytes))
    (h : keep q = true) : (files.filter fun f => keep f.1).lookup q = files.lookup q := by
  induction files with
  | nil => rfl
  | cons f files ih =>
      obtain ⟨r, b⟩ := f
      by_cases hq : q = r
      · subst hq
        simp [h]
      · by_cases hr : keep r = true
        · simp [List.lookup_cons, beq_false_of_ne hq, hr, ih]
        · simp [List.lookup_cons, beq_false_of_ne hq, hr, ih]

/-- What is not in a directory stays when the directory is removed. -/
theorem bytes?_without (h : ¬ p <+: q) : (d.without p).bytes? q = d.bytes? q := by
  have hkept : (!p.isPrefixOf q) = true := by
    simpa [← Bool.not_eq_true, List.isPrefixOf_iff_prefix] using h
  have hlookup : (d.without p).files.lookup q = d.files.lookup q :=
    lookup_filter (fun r => !p.isPrefixOf r) d.files hkept
  rw [bytes?, bytes?, hlookup]

/-- Nothing is left of a directory that is removed. -/
theorem bytes?_without_eq_none (h : p <+: q) (hnull : q ≠ Location.nullDevice) :
    (d.without p).bytes? q = none := by
  rw [bytes?, if_neg hnull, List.lookup_eq_none_iff]
  intro f hf
  have hkept : (!p.isPrefixOf f.1) = true := (List.mem_filter.1 hf).2
  rw [bne_iff_ne]
  rintro rfl
  rw [List.isPrefixOf_iff_prefix.2 h] at hkept
  cases hkept

/-- A name that is entered is that of a directory there. -/
theorem eq_of_enter {part : String} (hdot : part ≠ ".") (hdots : part ≠ "..")
    (h : d.enter p part = .ok q) : q = p ++ [part] := by
  rw [enter, if_neg hdot, if_neg hdots] at h
  obtain ⟨entry, -, hentry⟩ := exists_of_bind_eq_ok h
  cases entry with
  | directory =>
      cases hentry
      rfl
  | file bytes => cases hentry

theorem eq_of_foldlM_enter {names : Location} (hnames : Location.IsPlain names)
    (h : names.foldlM d.enter p = .ok q) : q = p ++ names := by
  induction names generalizing p with
  | nil =>
      cases h
      exact (List.append_nil _).symm
  | cons name names ih =>
      obtain ⟨hname, hrest⟩ := List.forall_mem_cons.1 hnames
      rw [List.foldlM_cons] at h
      obtain ⟨r, henter, hmore⟩ := exists_of_bind_eq_ok h
      rw [ih hrest hmore, eq_of_enter hname.2.1 hname.2.2.1 henter, List.append_assoc,
        List.singleton_append]

/-- The names of a path but the last one are entered one by one. -/
theorem exists_of_follow {start : Location} {names : List String} {asDirectory b : Bool}
    (h : d.follow start names asDirectory = .ok (.name p b)) :
    ∃ parent last, names.dropLast.foldlM d.enter start = .ok parent ∧ names.getLast? = some last ∧
      last ≠ "." ∧ last ≠ ".." ∧ p = parent ++ [last] := by
  rw [follow] at h
  split at h
  · cases h
  · next last hlast =>
      obtain ⟨parent, hparent, hname⟩ := exists_of_bind_eq_ok h
      split at hname
      · -- Points lead to a directory, which is no name in one.
        cases henter : d.enter parent last with
        | error e =>
            rw [henter] at hname
            cases hname
        | ok q =>
            rw [henter] at hname
            cases hname
      · next hpoints =>
          rw [not_or] at hpoints
          cases hname
          exact ⟨parent, last, hparent, hlast, hpoints.1, hpoints.2, rfl⟩

end Disk

namespace FileTree

open Disk (Destination)

variable {t after : FileTree} {p q : Location} {path name : String} {bytes : Bytes}

@[simp] theorem current_put : (t.put p bytes).current = t.current :=
  rfl

theorem bytes?_put_put_of_ne {r : Location} {more : Bytes} (hp : r ≠ p) (hq : r ≠ q) :
    ((t.put p bytes).put q more).bytes? r = t.bytes? r :=
  (Disk.bytes?_put_of_ne hq).trans (Disk.bytes?_put_of_ne hp)

/-- A path that is followed starts at the root or in the current directory. -/
theorem find_eq_ok {destination : Destination} (h : t.find path = .ok destination) :
    path ≠ "" ∧ t.follow (t.start path) (Location.names path) (path.toList.getLast? = some '/') =
      .ok destination := by
  rw [find] at h
  split at h
  · cases h
  · split at h
    · cases h
    · next hempty =>
        split at h
        · cases h
        · split at h
          · exact ⟨by simpa using hempty, h⟩
          · cases h

/-- A path without a slash leads to a name in the current directory. -/
theorem eq_of_find_name {b : Bool} (hslash : '/' ∉ name.toList)
    (h : t.find name = .ok (.name p b)) :
    p = t.current ++ [name] ∧ name ≠ "" ∧ name ≠ "." ∧ name ≠ ".." := by
  obtain ⟨hne, hfollow⟩ := find_eq_ok h
  have hhead : name.toList.head? ≠ some '/' := fun heq => hslash (List.mem_of_head? heq)
  rw [start, if_neg hhead, Location.names_of_not_mem hslash hne] at hfollow
  obtain ⟨parent, last, hparent, hlast, hdot, hdots, rfl⟩ := Disk.exists_of_follow hfollow
  cases hparent
  cases hlast
  exact ⟨rfl, hne, hdot, hdots⟩

/-- The path of a place leads to that place. -/
theorem eq_of_find_path {b : Bool} (hq : q.IsPlain) (h : t.find q.path = .ok (.name p b)) :
    p = q := by
  obtain ⟨hne, hfollow⟩ := find_eq_ok h
  have hhead : q.path.toList.head? = some '/' := by
    cases q with
    | nil => exact absurd rfl hne
    | cons name q => simp [Location.toList_path]
  rw [start, if_pos hhead, Location.names_path hq] at hfollow
  obtain ⟨parent, last, hparent, hlast, -, -, rfl⟩ := Disk.exists_of_follow hfollow
  have hplain : Location.IsPlain q.dropLast :=
    fun name hname => hq name (List.mem_of_mem_dropLast hname)
  rw [Disk.eq_of_foldlM_enter hplain hparent, List.nil_append]
  exact List.dropLast_append_getLast? last hlast

/-- A write that succeeds puts the bytes at the place to which the path leads. -/
theorem exists_of_write (h : t.write path bytes = .ok after) :
    ∃ p, t.find path = .ok (.name p false) ∧ after = t.put p bytes := by
  obtain ⟨destination, hfind, hput⟩ := exists_of_bind_eq_ok h
  cases destination with
  | directory p => cases hput
  | name p asDirectory =>
      cases asDirectory with
      | true => cases hput
      | false =>
          refine ⟨p, hfind, ?_⟩
          dsimp only at hput
          split at hput
          all_goals cases hput
          all_goals rfl

theorem eq_of_write_name (hslash : '/' ∉ name.toList) (h : t.write name bytes = .ok after) :
    after = t.put (t.current ++ [name]) bytes ∧ name ≠ "" ∧ name ≠ "." ∧ name ≠ ".." := by
  obtain ⟨p, hfind, rfl⟩ := exists_of_write h
  obtain ⟨rfl, hname⟩ := eq_of_find_name hslash hfind
  exact ⟨rfl, hname⟩

theorem eq_of_write_path (hq : q.IsPlain) (h : t.write q.path bytes = .ok after) :
    after = t.put q bytes := by
  obtain ⟨p, hfind, rfl⟩ := exists_of_write h
  rw [eq_of_find_path hq hfind]

end FileTree

end MarkedSheet
