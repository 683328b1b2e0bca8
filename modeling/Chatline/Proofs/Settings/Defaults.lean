import Chatline.Settings
import Chatline.Proofs.Files.Folders

namespace Chatline

namespace FileTree

variable {t t' : FileTree} {p : Path} {place q : Place} {bytes content : List UInt8} {names : List String}
         {entry : FileEntry} {f : Failure}

theorem Paved.put (h : t.Paved place names) (free : t.get? q ≠ some .folder) (entry : FileEntry) :
    (t.put q entry).Paved place names := by
  refine h.weaken fun other folder => ?_
  have elsewhere : other ≠ q := fun same => free (same ▸ folder)
  rw [get?_put_ne t elsewhere]
  exact folder

theorem write_of_place (h : t.placeOf p = .ok place) (free : t.get? place ≠ some .folder) (bytes : List UInt8) :
    write p bytes t = (.ok (), t.put place (.file bytes)) := by
  refine FileOp.get_bind.trans ((FileOp.lift_ok h).trans ?_)
  cases hq : t.get? place with
  | none       => rfl
  | some entry =>
    cases entry with
    | file old => rfl
    | folder   => exact absurd hq free

theorem write_cases (t : FileTree) (p : Path) (bytes : List UInt8) :
    (∃ place, t.placeOf p = .ok place ∧ t.get? place ≠ some .folder ∧
      write p bytes t = (.ok (), t.put place (.file bytes))) ∨
      ∃ f, write p bytes t = (.error f, t) := by
  cases hp : t.placeOf p with
  | error f  => exact .inr ⟨f, FileOp.get_bind.trans (FileOp.lift_error hp)⟩
  | ok place =>
    by_cases folder : t.get? place = some .folder
    case pos =>
      refine .inr ⟨fault p .isDirectory, FileOp.get_bind.trans ((FileOp.lift_ok hp).trans ?_)⟩
      rw [folder]
      rfl
    case neg => exact .inl ⟨place, rfl, folder, write_of_place hp folder bytes⟩

-- A path goes through a folder that is not there yet and comes to a file that is.
structure Detour (t : FileTree) (p : Path) : Prop where
  fits    : checkPath p = .ok ()
  begins  : t.get? (t.base p) = some .folder
  pavable : t.Pavable (t.base p) p.parts
  gap     : ¬t.Paved (t.base p) p.parts
  taken   : ∃ content, t.get? (t.finish p) = some (.file content)

theorem holds_of_place (h : t.placeOf p = .ok place) : t.holds p = .ok (t.get? place).isSome := by
  rw [holds, h]

theorem Detour.holds (h : t.Detour p) : t.holds p = .ok false := by
  have lost : t.placeOf p = .error (fault p .notFound) := by
    rw [placeOf, h.fits, locate, walk_of_pavable h.pavable h.gap]
    rfl
  rw [FileTree.holds, lost]
  rfl

theorem detour_of_found (unseen : t.holds p = .ok false) (grown : Grown t t')
    (begins : t.get? (t.base p) = some .folder) (found : t'.placeOf p = .ok place)
    (file : t'.get? place = some (.file content)) : t.Detour p := by
  have ⟨fits, paved, same⟩ := placeOf_ok_iff.mp found
  rw [grown.base] at paved
  rw [grown.finish] at same
  have file := same ▸ grown.files place content file
  refine ⟨fits, begins, grown.pavable_of_paved paved, fun way => ?_, content, file⟩
  -- If the way had been there before, the file would have been seen.
  have seen := holds_of_place (placeOf_ok_iff.mpr ⟨fits, way, rfl⟩)
  rw [file, unseen] at seen
  cases seen

end FileTree

namespace Settings

open FileTree (Grown Detour)

variable {e : Environment} {given : Option String} {t t' : FileTree} {place : Place}

def makeDefault (p : Path) : FileOp Bool := do
  FileTree.ensureFolders p.parent p.parent.parts.length
  FileTree.write p (Text.Utf8.encode defaultText)
  return true

theorem saveDefault_of_there (h : t.holds (resolvePath e given) = .ok true) : saveDefault e given t = (.ok false, t) :=
  FileOp.get_bind.trans (FileOp.lift_ok h)

theorem saveDefault_of_not_there (h : t.holds (resolvePath e given) = .ok false) :
    saveDefault e given t = makeDefault (resolvePath e given) t :=
  FileOp.get_bind.trans (FileOp.lift_ok h)

theorem saveDefault_of_error {f : Failure} (h : t.holds (resolvePath e given) = .error f) :
    saveDefault e given t = (.error f, t) :=
  FileOp.get_bind.trans (FileOp.lift_error h)

theorem makeDefault_cases (t : FileTree) (p : Path) :
    (∃ f t', makeDefault p t = (.error f, t') ∧ Grown t t') ∨
      ∃ t' place, Grown t t' ∧ (t'.placeOf p = .ok place ∧ t'.get? place ≠ some .folder) ∧
        t.get? (t.base p) = some .folder ∧
        makeDefault p t = (.ok true, t'.put place (.file (Text.Utf8.encode defaultText))) := by
  have ensured := FileTree.ensureFolders_ensured t p.parent p.parent.parts.length
  cases he : FileTree.ensureFolders p.parent p.parent.parts.length t with
  | mk result t' =>
    rw [he] at ensured
    cases result with
    | error f => exact .inl ⟨f, t', FileOp.bind_error he, ensured.grown⟩
    | ok      =>
      have begins := FileTree.begins_of_ensureFolders t p.parent p.parent.parts.length (by rw [he])
      cases FileTree.write_cases t' p (Text.Utf8.encode defaultText) with
      | inl written =>
        have ⟨place, found, free, written⟩ := written
        exact .inr ⟨t', place, ensured.grown, ⟨found, free⟩, begins, (FileOp.bind_ok he).trans (FileOp.bind_ok written)⟩
      | inr failed  =>
        have ⟨f, failed⟩ := failed
        exact .inl ⟨f, t', (FileOp.bind_ok he).trans (FileOp.bind_error failed), ensured.grown⟩

-- What is promised of files when the default settings are saved: those that there are stay as they are, and there is
-- a new one if and only if it is said that the settings were written. They are written once.
structure SparesFiles (e : Environment) (given : Option String) (t : FileTree) : Prop where
  kept    : ∀ place content, t.get? place = some (.file content) →
            (saveDefault e given t).2.get? place = some (.file content)
  written : (saveDefault e given t).1 = .ok true →
            ∃ place, (saveDefault e given t).2.placeOf (resolvePath e given) = .ok place ∧
              (∀ content, t.get? place ≠ some (.file content)) ∧
              ∀ q content, (saveDefault e given t).2.get? q = some (.file content) ↔
                t.get? q = some (.file content) ∨ q = place ∧ content = Text.Utf8.encode defaultText
  refused : (saveDefault e given t).1 ≠ .ok true → ∀ q content,
            (saveDefault e given t).2.get? q = some (.file content) ↔ t.get? q = some (.file content)
  again   : (saveDefault e given t).1 = .ok true →
            saveDefault e given (saveDefault e given t).2 = (.ok false, (saveDefault e given t).2)

theorem sparesFiles_of_grown {r : Except Failure Bool} (run : saveDefault e given t = (r, t'))
    (unwritten : r ≠ .ok true) (grown : Grown t t') : SparesFiles e given t := by
  constructor
  all_goals rw [run]
  case kept    => exact fun place content there => grown.kept place _ there
  case written => exact fun h => absurd h unwritten
  case refused => exact fun _ q content => ⟨grown.files q content, grown.kept q _⟩
  case again   => exact fun h => absurd h unwritten

theorem sparesFiles_of_put
    (run : saveDefault e given t = (.ok true, t'.put place (.file (Text.Utf8.encode defaultText))))
    (grown : Grown t t') (found : t'.placeOf (resolvePath e given) = .ok place) (free : t'.get? place = none) :
    SparesFiles e given t := by
  have inner : place ≠ [] := fun top => nomatch (top ▸ t'.get?_nil).symm.trans free
  have free' (content : List UInt8) : t.get? place ≠ some (.file content) :=
    fun there => nomatch (grown.kept place _ there).symm.trans free
  have found' : (t'.put place (.file (Text.Utf8.encode defaultText))).placeOf (resolvePath e given) = .ok place := by
    have ⟨fits, paved, same⟩ := FileTree.placeOf_ok_iff.mp found
    have notFolder : t'.get? place ≠ some .folder := fun folder => nomatch folder.symm.trans free
    exact FileTree.placeOf_ok_iff.mpr ⟨fits, FileTree.Paved.put paved notFolder _, same⟩
  constructor
  all_goals rw [run]
  case kept    =>
    intro q content there
    have elsewhere : q ≠ place := fun same => free' content (same ▸ there)
    rw [FileTree.get?_put_ne t' elsewhere]
    exact grown.kept q _ there
  case written =>
    refine fun _ => ⟨place, found', free', fun q content => ?_⟩
    by_cases same : q = place
    case pos =>
      rw [same, FileTree.get?_put_self t' inner]
      exact ⟨fun h => .inr ⟨rfl, (FileEntry.file.inj (Option.some.inj h)).symm⟩, fun
        | .inl there => absurd there (free' content)
        | .inr other => by rw [other.right]⟩
    case neg =>
      rw [FileTree.get?_put_ne t' same]
      exact ⟨fun there => .inl (grown.files q content there), fun
        | .inl there => grown.kept q _ there
        | .inr other => absurd other.left same⟩
  case refused => exact fun h => absurd rfl h
  case again   =>
    refine fun _ => saveDefault_of_there ?_
    rw [FileTree.holds_of_place found', FileTree.get?_put_self t' inner]
    rfl

theorem sparesFiles_of_no_detour (h : ¬t.Detour (resolvePath e given)) : SparesFiles e given t := by
  cases hh : t.holds (resolvePath e given) with
  | error f  => exact sparesFiles_of_grown (saveDefault_of_error hh) nofun (.refl t)
  | ok there =>
    cases there with
    | true  => exact sparesFiles_of_grown (saveDefault_of_there hh) nofun (.refl t)
    | false =>
      have run := saveDefault_of_not_there hh
      cases makeDefault_cases t (resolvePath e given) with
      | inl failed =>
        have ⟨f, t', failed, grown⟩ := failed
        exact sparesFiles_of_grown (run.trans failed) nofun grown
      | inr made   =>
        have ⟨t', place, grown, ⟨found, notFolder⟩, begins, made⟩ := made
        cases hq : t'.get? place with
        | none       => exact sparesFiles_of_put (run.trans made) grown found hq
        | some entry =>
          cases entry with
          | folder       => exact absurd hq notFolder
          | file content => exact absurd (FileTree.detour_of_found hh grown begins found hq) h

theorem saveDefault_of_detour (rooted : t.Rooted) (h : t.Detour (resolvePath e given)) :
    ∃ t', Grown t t' ∧ saveDefault e given t =
      (.ok true, t'.put (t.finish (resolvePath e given)) (.file (Text.Utf8.encode defaultText))) := by
  have run := saveDefault_of_not_there h.holds
  have ⟨content, file⟩ := h.taken
  generalize resolvePath e given = p at h run file
  cases hn : p.parts.getLast? with
  | none      =>
    have gap := h.gap
    rw [List.getLast?_eq_none_iff.mp hn] at gap
    exact absurd .nil gap
  | some name =>
    have clear := FileTree.clear_parent hn h.fits h.begins h.pavable
    have made := FileTree.ensureFolders_of_clear rooted clear (Nat.le_refl _)
    have ensured := FileTree.ensureFolders_ensured t p.parent p.parent.parts.length
    cases he : FileTree.ensureFolders p.parent p.parent.parts.length t with
    | mk result t' =>
      rw [he] at made ensured
      cases made
      have ⟨_, way, folder⟩ := FileTree.isFolder_iff.mp (ensured.there rfl)
      have fitting := ((FileTree.pavable_concat_iff hn).mp h.pavable).right.right
      have paved := (FileTree.paved_concat_iff (p := p) hn).mpr ⟨way, folder, fitting⟩
      have found := FileTree.placeOf_ok_iff.mpr ⟨h.fits, paved, rfl⟩
      rw [ensured.grown.finish] at found
      have free : t'.get? (t.finish p) ≠ some .folder :=
        fun folder => nomatch folder.symm.trans (ensured.grown.kept _ _ file)
      have written := FileTree.write_of_place found free (Text.Utf8.encode defaultText)
      exact ⟨t', ensured.grown, run.trans ((FileOp.bind_ok he).trans (FileOp.bind_ok written))⟩

-- No file is lost when the default settings are saved, and no more than one is added, unless the path goes through a
-- folder that is not there yet and comes to a file that is. That file is not seen until the folder has been made, and
-- then it is written over.
theorem files_spared_unless_detour (e : Environment) (given : Option String) (t : FileTree) :
    (¬t.Detour (resolvePath e given) → SparesFiles e given t) ∧
    (t.Rooted → t.Detour (resolvePath e given) →
      ¬SparesFiles e given t ∧ (saveDefault e given t).1 = .ok true ∧
      (saveDefault e given t).2.get? (t.finish (resolvePath e given)) =
        some (.file (Text.Utf8.encode defaultText)) ∧
      ∀ place content, place ≠ t.finish (resolvePath e given) →
        ((saveDefault e given t).2.get? place = some (.file content) ↔ t.get? place = some (.file content))) := by
  refine ⟨sparesFiles_of_no_detour, fun rooted detour => ?_⟩
  have ⟨t', grown, run⟩ := saveDefault_of_detour rooted detour
  have ⟨content, file⟩ := detour.taken
  have inner : t.finish (resolvePath e given) ≠ [] := fun top => by
    rw [top] at file
    cases file
  refine ⟨fun spares => ?_, by rw [run], by rw [run]; exact FileTree.get?_put_self t' inner _, ?_⟩
  case refine_1 =>
    have ⟨place, found, free, fresh⟩ := spares.written (by rw [run])
    have ⟨_, _, same⟩ := FileTree.placeOf_ok_iff.mp found
    rw [run] at same
    exact free content ((same.trans (grown.finish _)) ▸ file)
  case refine_2 =>
    intro place content elsewhere
    rw [run, FileTree.get?_put_ne t' elsewhere]
    exact ⟨grown.files place content, grown.kept place _⟩

def settledTree : FileTree :=
  FileTree.bare.put ["srv", "chat", "config.yml"] (.file [0x78])

def roundabout : Path :=
  { start := .here, parts := ["missing", "..", "config.yml"] }

theorem resolvePath_roundabout : resolvePath {} (some "missing/../config.yml") = roundabout := by
  decide +kernel

theorem settledTree_rooted : settledTree.Rooted :=
  FileTree.rooted_bare.put rfl (by decide) _

theorem settledTree_detour : settledTree.Detour roundabout where
  fits       := rfl
  begins     := rfl
  pavable    := .cons nofun rfl (.cons nofun rfl (.cons nofun rfl .nil))
  gap paved  := by
    cases paved with
    | cons _ _ rest =>
      cases rest with
      | cons here _ _ => cases here
  taken      := ⟨_, rfl⟩

theorem files_spared_unless_detour_settled :
    (SparesFiles {} (some "config.yml") settledTree ∧
      (saveDefault {} (some "missing/../config.yml") settledTree).1 = .ok true) := by
  refine ⟨(files_spared_unless_detour {} (some "config.yml") settledTree).left fun detour => ?_, ?_⟩
  case refine_1 =>
    have path : resolvePath {} (some "config.yml") = { start := .here, parts := ["config.yml"] } := by decide +kernel
    rw [path] at detour
    exact detour.gap (.cons rfl rfl .nil)
  case refine_2 =>
    have harmful := (files_spared_unless_detour {} (some "missing/../config.yml") settledTree).right settledTree_rooted
    rw [resolvePath_roundabout] at harmful
    exact (harmful settledTree_detour).right.left

theorem settledTree_overwritten :
    settledTree.get? ["srv", "chat", "config.yml"] = some (.file [0x78]) ∧
      (saveDefault {} (some "missing/../config.yml") settledTree).2.get? ["srv", "chat", "config.yml"] ≠
        some (.file [0x78]) := by
  have detour : settledTree.Detour (resolvePath {} (some "missing/../config.yml")) :=
    resolvePath_roundabout ▸ settledTree_detour
  have ⟨t', _, run⟩ := saveDefault_of_detour settledTree_rooted detour
  have place : settledTree.finish roundabout = ["srv", "chat", "config.yml"] := rfl
  have longer : (Text.Utf8.encode defaultText).length ≠ 1 := by decide +kernel
  rw [run, resolvePath_roundabout, place, FileTree.get?_put_self t' (by decide)]
  refine ⟨rfl, fun same => longer ?_⟩
  rw [FileEntry.file.inj (Option.some.inj same)]
  rfl

end Settings
end Chatline
