import MarkedSheet.Coreutils
import MarkedSheet.Proofs.Conversion.Runs

/-!
# The host with four programs

It makes its directories where nothing is, and removes them with all that is in them.  A copy that is
made under a name in a directory changes no file outside of it.
-/

namespace MarkedSheet.Coreutils

theorem bytes?_of_isFree {d : Disk} {place p : Location} (h : isFree d place = true)
    (hp : place <+: p) : d.bytes? p = none := by
  rw [isFree, Bool.and_eq_true, Bool.not_eq_true', Option.isNone_iff_eq_none] at h
  obtain ⟨hdirectory, hnone⟩ := h
  by_cases hsame : place = p
  · rw [← hsame]
    exact hnone
  -- A file below the place would make it a directory.
  rw [Disk.isDirectory, Bool.or_eq_false_iff, List.any_eq_false] at hdirectory
  have hbelow : ∀ q ∈ Location.nullDevice :: d.files.map (·.1), q ≠ p := by
    rintro q hq rfl
    have hlisted := List.any_eq_false.1 hdirectory.2 q hq
    simp [List.isPrefixOf_iff_prefix.2 hp, hsame] at hlisted
  obtain ⟨hnull, hfiles⟩ := List.forall_mem_cons.1 hbelow
  rw [Disk.bytes?, if_neg (Ne.symm hnull), List.lookup_eq_none_iff]
  intro f hf
  rw [bne_iff_ne]
  exact Ne.symm (hfiles f.1 (List.mem_map_of_mem hf))

theorem host_tidy : Machine.Tidy host where
  made := by
    intro d after directory hmake
    change makeDirectory d = _ at hmake
    rw [makeDirectory] at hmake
    split at hmake
    · next hfree =>
        cases hmake
        exact ⟨fun p => rfl, workDirectory, rfl, by decide, fun p hp => bytes?_of_isFree hfree hp⟩
    · cases hmake
  notMade := by
    intro d after reason hmake
    change makeDirectory d = _ at hmake
    rw [makeDirectory] at hmake
    split at hmake
    · cases hmake
    · cases hmake
      exact fun p => rfl
  removed := by
    intro d place hplace
    have hremove : (StateT.run (host.removeDirectory place.path) d).2 = d.without place := by
      change d.without (Location.names place.path) = _
      rw [Location.names_path hplace]
    rw [hremove]
    exact ⟨fun p hp => Disk.bytes?_without hp, fun p hp hnull => Disk.bytes?_without_eq_none hp hnull⟩
  notStarted := by
    intro d after program directory args limit reason hstart
    change start program args directory limit d = _ at hstart
    rw [start] at hstart
    split at hstart
    · cases hstart
      exact fun p => rfl
    · split at hstart
      · cases hstart
      · cases hstart
  now := fun d p => rfl

/-- A copy lies at the place it is asked for, or in a directory that is there. -/
theorem sameOutside_copy {place : Location} {source name : String}
    (hplain : Location.IsPlain (place ++ [name]))
    (hsource : Location.IsPlain [(Location.names source).getLast?.getD ""])
    (directory : Location) (limit : Duration) (d : Disk) :
    d.SameOutside place (copy [source, (place ++ [name]).path] directory limit d).2 := by
  have hbelow : ∀ {q : Location} {bytes : Bytes} {after : FileTree}, q.IsPlain → place <+: q →
      FileTree.write ⟨d, directory⟩ q.path bytes = .ok after →
        d.SameOutside place after.toDisk := by
    intro q bytes after hq hbelow hwrite
    obtain rfl := FileTree.eq_of_write_path hq hwrite
    intro p hp
    refine Disk.bytes?_put_of_ne ?_
    rintro rfl
    exact hp hbelow
  simp only [copy]
  split
  · exact .refl place d
  · split
    · next after hcopied =>
        obtain ⟨bytes, -, hwrite⟩ := exists_of_bind_eq_ok hcopied
        rw [copyPath] at hwrite
        split at hwrite
        · rw [Location.path_concat, List.append_assoc] at hwrite
          refine hbelow ?_ (List.prefix_append place _) hwrite
          rw [← List.append_assoc]
          exact List.forall_mem_append.2 ⟨hplain, hsource⟩
        · exact hbelow hplain (List.prefix_append place _) hwrite
    · exact .refl place d

theorem sameOutside_start_copy {place : Location} {source name : String}
    (hplain : Location.IsPlain (place ++ [name]))
    (hsource : Location.IsPlain [(Location.names source).getLast?.getD ""])
    (directory : String) (limit : Duration) (d : Disk) :
    d.SameOutside place
      (StateT.run (host.start "cp" [source, (place ++ [name]).path] directory limit) d).2 := by
  change d.SameOutside place (start "cp" [source, (place ++ [name]).path] directory limit d).2
  have haction : action? "cp" = some copy := rfl
  rw [start, haction]
  dsimp only
  split
  · exact .refl place d
  · exact sameOutside_copy hplain hsource _ _ d

end MarkedSheet.Coreutils
