import UsageReports.Console.Disk
import UsageReports.Proofs.Data.DistinctKeys

/-!
# Database files

A database lies at a path on a disk. Closed and opened again it is what it was: the folders on the
way to it are there since it was opened first, and what it has become is what lies at its place.
-/

namespace UsageReports

namespace Disk

variable {d d' : Disk} {p q before names place : Place} {path : String} {content : Database}

theorem at?_put_self (d : Disk) (p : Place) (entry : DiskEntry) :
    (d.put p entry).at? p = some entry := by
  rw [at?, put, Keyed.get?_put_self Prod.fst (p, entry)]

/-- A folder stays one when something is put elsewhere. -/
theorem at?_put_of_ne (hne : q ≠ p) (h : d.at? p = some .folder) (entry : DiskEntry) :
    (d.put q entry).at? p = some .folder := by
  have hget : Keyed.get? Prod.fst p (d.put q entry).entries = Keyed.get? Prod.fst p d.entries :=
    Keyed.get?_put_of_ne Prod.fst hne d.entries
  -- A folder may be there only because something lies further on; that place stays taken.
  have hkeys : ∀ k ∈ d.entries.map Prod.fst, k ∈ (d.put q entry).entries.map Prod.fst := by
    intro k hk
    rw [put, Keyed.keys_put]
    split
    · exact hk
    · exact List.mem_append_left _ hk
  unfold at? at h ⊢
  rw [hget]
  split at h
  · exact h
  · obtain ⟨htop | htop | hfurther, -⟩ := Option.ite_none_right_eq_some.mp h
    · exact if_pos (.inl htop)
    · exact if_pos (.inr (.inl htop))
    · obtain ⟨⟨k, old⟩, hmem, hprefix⟩ := List.any_eq_true.mp hfurther
      obtain ⟨⟨_, new⟩, hnew, rfl⟩ := List.mem_map.mp (hkeys k (List.mem_map_of_mem hmem))
      exact if_pos (.inr (.inr (List.any_eq_true.mpr ⟨_, hnew, hprefix⟩)))

/-- Whether the places on the way from `before` along some names are folders. -/
def HasFolders (d : Disk) (before : Place) : Place → Prop
  | [] => True
  | name :: names => d.at? (before ++ [name]) = some .folder ∧ d.HasFolders (before ++ [name]) names

/-- The folders on a way stay when something is put further on than the way leads. -/
theorem HasFolders.put (h : d.HasFolders before names)
    (hlong : before.length + names.length < q.length) (entry : DiskEntry) :
    (d.put q entry).HasFolders before names := by
  induction names generalizing before with
  | nil => trivial
  | cons name names ih =>
    have hlength : (before ++ [name]).length + names.length < q.length := by
      rw [List.length_cons] at hlong
      rw [List.length_append, List.length_singleton]
      omega
    refine ⟨at?_put_of_ne ?_ h.1 entry, ih h.2 hlength⟩
    rintro rfl
    omega

/-- Folders that are there need not be made. -/
theorem HasFolders.makeFolders (h : d.HasFolders before names) :
    d.makeFolders before names = .ok d := by
  induction names generalizing before with
  | nil => rfl
  | cons name names ih =>
    simp only [Disk.makeFolders, h.1]
    exact ih h.2

/-- Making folders on a way leaves the folders that there are. -/
theorem at?_makeFolders (h : d.makeFolders before names = .ok d') (hp : d.at? p = some .folder) :
    d'.at? p = some .folder := by
  induction names generalizing d before with
  | nil => exact Except.ok.inj h ▸ hp
  | cons name names ih =>
    simp only [makeFolders] at h
    split at h
    · exact ih h hp
    · next hnone =>
      refine ih h (at?_put_of_ne ?_ hp _)
      rintro rfl
      rw [hp] at hnone
      contradiction
    · contradiction

/-- Folders that were made are there. -/
theorem hasFolders_of_makeFolders (h : d.makeFolders before names = .ok d') :
    d'.HasFolders before names := by
  induction names generalizing d before with
  | nil => trivial
  | cons name names ih =>
    simp only [makeFolders] at h
    split at h
    · next hfolder => exact ⟨at?_makeFolders h hfolder, ih h⟩
    · exact ⟨at?_makeFolders h (at?_put_self ..), ih h⟩
    · contradiction

/-- The folders on the way to a place stay when something is put at the place. -/
theorem HasFolders.put_self (h : d.HasFolders [] place.dropLast) (entry : DiskEntry) :
    (d.put place entry).HasFolders [] place.dropLast := by
  cases hempty : place with
  | nil => trivial
  | cons name names =>
    rw [← hempty]
    refine h.put ?_ entry
    rw [List.length_nil, List.length_dropLast, hempty, List.length_cons]
    omega

/-- Where a database was opened, the folders on the way to it are there. -/
theorem hasFolders_of_openDatabase (hpath : isFleeting path = false)
    (h : d.openDatabase path = (.ok content, d')) :
    d'.HasFolders [] (placeOf path).dropLast := by
  simp only [openDatabase, hpath, Bool.false_eq_true, if_false] at h
  split at h
  · exact absurd (congrArg Prod.fst h) nofun
  · next made hmade =>
    have hfolders := hasFolders_of_makeFolders hmade
    split at h
    · obtain ⟨-, rfl⟩ := Prod.mk.inj h
      exact hfolders
    · obtain ⟨-, rfl⟩ := Prod.mk.inj h
      exact hfolders.put_self _
    · obtain ⟨-, rfl⟩ := Prod.mk.inj h
      exact hfolders.put_self _
    · exact absurd (congrArg Prod.fst h) nofun
    · exact absurd (congrArg Prod.fst h) nofun

/-- What was kept of a database is what is opened. -/
theorem openDatabase_keep (hpath : isFleeting path = false)
    (h : d.HasFolders [] (placeOf path).dropLast) (content : Database) :
    (d.keep path content).openDatabase path = (.ok content, d.keep path content) := by
  have hkeep : d.keep path content = d.put (placeOf path) (.database content) := by
    rw [keep, hpath]
    rfl
  have hmade := (h.put_self (.database content)).makeFolders
  rw [hkeep]
  simp only [openDatabase, hpath, Bool.false_eq_true, if_false, hmade, at?_put_self]

end Disk

/-- An open database, with the path it was opened by and the disk where it lies. -/
structure DatabaseFile where
  disk : Disk
  path : String
  content : Database := {}

namespace DatabaseFile

/-- Close a database and open it again: what it has become is kept, and its path is opened. -/
def reopen (f : DatabaseFile) : Except StoreError DatabaseFile :=
  match (f.disk.keep f.path f.content).openDatabase f.path with
  | (.ok content, disk) => .ok { f with disk, content }
  | (.error e, _) => .error e

/-- Whether a database lies on its disk, so that it lasts when it is closed. -/
def Lasts (f : DatabaseFile) : Prop :=
  Disk.isFleeting f.path = false ∧ f.disk.HasFolders [] (placeOf f.path).dropLast

variable {f : DatabaseFile}

/-- A database that was opened lasts, unless its path names none that does. -/
theorem lasts_of_openDatabase {disk disk' : Disk} {path : String} {content : Database}
    (hpath : Disk.isFleeting path = false) (h : disk.openDatabase path = (.ok content, disk')) :
    Lasts ⟨disk', path, content⟩ :=
  ⟨hpath, Disk.hasFolders_of_openDatabase hpath h⟩

/-- A database that lasts can be opened again, and its content is what it was. -/
theorem Lasts.reopen (h : f.Lasts) :
    f.reopen = .ok { f with disk := f.disk.keep f.path f.content } := by
  rw [DatabaseFile.reopen, Disk.openDatabase_keep h.1 h.2]

/-- What lasts still does after it was kept. -/
theorem Lasts.keep (h : f.Lasts) :
    DatabaseFile.Lasts { f with disk := f.disk.keep f.path f.content } := by
  refine ⟨h.1, ?_⟩
  simp only [Disk.keep, h.1, Bool.false_eq_true, if_false]
  exact h.2.put_self _

end DatabaseFile

end UsageReports
