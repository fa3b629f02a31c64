import Mathlib.Tactic.SplitIfs
import VhdlLayout.Files

/-!
# What has been written is there

A text that has been written to a path is what the path reads as afterwards
(`Files.read_of_write`). To write changes one place only: what is found at it is
the new entry (`Files.find?_insert_self`), and every directory on the way to it
is still a directory (`Files.find?_insert_of_directory`), so the path leads to
the same place before and after (`Files.approach_insert`).
-/

namespace VhdlLayout.Files

variable {files files' : Files} {target place next : Place} {e : Entry}

theorem lookup_insert_self (files : Files) (target : Place) (e : Entry) :
    (files.insert target e).entries.lookup target = some e := by
  rw [insert, List.lookup_cons, beq_self_eq_true]

theorem lookup_filter_of_ne (h : place ≠ target) (entries : List (Place × Entry)) :
    (entries.filter (·.1 != target)).lookup place = entries.lookup place := by
  induction entries with
  | nil => rfl
  | cons entry entries ih =>
    rw [List.filter_cons, List.lookup_cons]
    split
    · rw [List.lookup_cons, ih]
    · next hentry =>
      have same : entry.1 = target := by simpa using hentry
      rw [same, beq_eq_false_iff_ne.2 h, ih]

theorem lookup_insert_of_ne (h : place ≠ target) :
    (files.insert target e).entries.lookup place = files.entries.lookup place := by
  rw [insert, List.lookup_cons, beq_eq_false_iff_ne.2 h, lookup_filter_of_ne h]

/-- The new entry is what is found at its place. -/
theorem find?_insert_self (files : Files) (target : Place) (e : Entry) :
    (files.insert target e).find? target = some e := by
  rw [find?, lookup_insert_self]

/-- A place that leads on to an entry does so after another entry has been put there. -/
theorem any_insert (h : files.entries.any (fun e => place.isPrefixOf e.1) = true) :
    (files.insert target e).entries.any (fun e => place.isPrefixOf e.1) = true := by
  obtain ⟨entry, hmem, hprefix⟩ := List.any_eq_true.1 h
  by_cases same : entry.1 = target
  · exact List.any_eq_true.2 ⟨(target, e), List.mem_cons_self, same ▸ hprefix⟩
  · exact List.any_eq_true.2 ⟨entry, List.mem_cons_of_mem _ (List.mem_filter.2 ⟨hmem, by
      simpa using same⟩), hprefix⟩

/-- A directory elsewhere is still a directory after an entry has been put into the store. -/
theorem find?_insert_of_directory (h : files.find? place = some .directory)
    (hne : place ≠ target) : (files.insert target e).find? place = some .directory := by
  rw [find?] at h ⊢
  rw [lookup_insert_of_ne hne]
  -- A directory has an entry of its own, or is there because some entry lies below it.
  split at h
  · exact h
  · split_ifs at h with hdir
    rw [Bool.or_eq_true] at hdir
    exact if_pos (Bool.or_eq_true_iff.2 (hdir.imp_right any_insert))

/-- The step to a directory is the same after an entry has been put where no directory is. -/
theorem enter_insert {name : String} (htarget : files.find? target ≠ some .directory)
    (h : files.enter place name = .ok next) : (files.insert target e).enter place name = .ok next := by
  rw [enter] at h ⊢
  split_ifs at h with hlong
  rw [if_neg hlong]
  split at h
  · next hdir =>
    -- The new entry is not put in the place of the directory that is entered.
    have hne : place.step name ≠ target := fun same => htarget (same ▸ hdir)
    rw [find?_insert_of_directory hdir hne, h]
  · cases h
  · cases h

theorem foldlM_enter_insert {names : List String} (htarget : files.find? target ≠ some .directory)
    (h : names.foldlM files.enter place = .ok next) :
    names.foldlM (files.insert target e).enter place = .ok next := by
  induction names generalizing place with
  | nil => exact h
  | cons name names ih =>
    rw [List.foldlM_cons] at h ⊢
    cases hstep : files.enter place name with
    | error err => rw [hstep] at h; cases h
    | ok p =>
      rw [hstep] at h
      rw [enter_insert htarget hstep]
      exact ih h

/-- A path leads to the same directory and name after an entry has been put where no directory
is. -/
theorem approach_insert {path : String} {found : Place × String}
    (htarget : files.find? target ≠ some .directory) (h : files.approach path = .ok found) :
    (files.insert target e).approach path = .ok found := by
  rw [approach] at h ⊢
  split_ifs at h with hnul hempty hlong
  rw [if_neg hnul, if_neg hempty, if_neg hlong]
  cases hplace : (Path.names path).dropLast.foldlM files.enter (Path.origin path) with
  | error err => rw [hplace] at h; cases h
  | ok p =>
    rw [hplace] at h
    rw [foldlM_enter_insert htarget hplace]
    exact h

/-! ## Reading and writing -/

/-- A text is written only where no directory is and no directory is meant. -/
theorem write_cases {path text : String} (h : files.write path text = .ok files') :
    ∃ place name, files.approach path = .ok (place, name) ∧ Path.endsOpen path = false ∧
      Path.isLongName name = false ∧ files.find? (place.step name) ≠ some .directory ∧
      files' = files.insert (place.step name) (.text text) := by
  rw [write] at h
  cases hfound : files.approach path with
  | error err => rw [hfound] at h; cases h
  | ok found =>
    rw [hfound] at h
    dsimp only [bind, Except.bind] at h
    split_ifs at h with hopen hlong hdir
    cases h
    exact ⟨found.1, found.2, rfl, Bool.eq_false_iff.2 hopen, Bool.eq_false_iff.2 hlong,
      fun same => hdir (beq_iff_eq.2 same), rfl⟩

theorem read_of_find? {path text name : String} (hfound : files.approach path = .ok (place, name))
    (hopen : Path.endsOpen path = false) (hlong : Path.isLongName name = false)
    (h : files.find? (place.step name) = some (.text text)) : files.read path = .ok text := by
  rw [read, hfound]
  dsimp only [bind, Except.bind]
  rw [hlong, h, hopen]
  rfl

/-- What has been written to a path is what the path reads as. -/
theorem read_of_write {path text : String} (h : files.write path text = .ok files') :
    files'.read path = .ok text := by
  obtain ⟨place, name, hfound, hopen, hlong, htarget, rfl⟩ := write_cases h
  exact read_of_find? (approach_insert htarget hfound) hopen hlong (find?_insert_self _ _ _)

end VhdlLayout.Files
