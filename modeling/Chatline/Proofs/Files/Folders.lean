import Chatline.Proofs.Files.Places

namespace Chatline

namespace Path

theorem intercalate_dropLast (mark : List Char) (parts : List (List Char)) :
    mark.intercalate parts.dropLast <+: mark.intercalate parts := by
  induction parts with
  | nil              => exact List.prefix_rfl
  | cons part rest ih =>
    match rest with
    | []           => exact List.nil_prefix
    | [last]       =>
      rw [List.intercalate_cons_of_ne_nil (by simp), List.append_assoc]
      exact ⟨mark ++ last, by simp⟩
    | next :: last :: more =>
      rw [List.dropLast_cons_of_ne_nil (by simp), List.intercalate_cons_of_ne_nil (by simp),
        List.intercalate_cons_of_ne_nil (by simp)]
      exact (List.prefix_append_right_inj _).mpr ih

theorem toText_parent (p : Path) : p.parent.toText = "." ∨ ∃ rest, p.toText = p.parent.toText ++ rest := by
  have ⟨start, parts⟩ := p
  have shorter : ∃ rest, "/".intercalate parts = "/".intercalate parts.dropLast ++ rest := by
    have ⟨rest, same⟩ := intercalate_dropLast "/".toList (parts.map String.toList)
    refine ⟨.ofList rest, String.toList_inj.mp ?_⟩
    rw [String.toList_append, String.toList_intercalate, String.toList_intercalate, ← same, List.map_dropLast]
    simp
  have ⟨rest, same⟩ := shorter
  cases start with
  | here      =>
    cases hp : parts.dropLast with
    | nil       => exact .inl (by simp [parent, toText, hp])
    | cons _ _  =>
      have some : parts.isEmpty = false := by cases parts <;> simp at hp ⊢
      exact .inr ⟨rest, by simp [parent, toText, hp, some, same]⟩
  | root      => exact .inr ⟨rest, by simp [parent, toText, same, String.append_assoc]⟩
  | otherRoot => exact .inr ⟨rest, by simp [parent, toText, same, String.append_assoc]⟩

theorem parts_of_getLast? {p : Path} {name : String} (h : p.parts.getLast? = some name) :
    p.parts = p.parent.parts ++ [name] := by
  have ⟨names, same⟩ := List.getLast?_eq_some_iff.mp h
  rw [parent, same, List.dropLast_concat]

end Path

namespace FileOp

variable {α β : Type} {t t' : FileTree} {x : FileOp α} {f : α → FileOp β} {handle : Failure → FileOp α} {a : α}
         {e : Failure}

theorem bind_ok (h : x t = (.ok a, t')) : (x >>= f) t = f a t' := by
  simp only [bind, ExceptT.bind, ExceptT.mk, StateT.bind, ExceptT.bindCont, h]

theorem bind_error (h : x t = (.error e, t')) : (x >>= f) t = (.error e, t') := by
  simp only [bind, ExceptT.bind, ExceptT.mk, StateT.bind, ExceptT.bindCont, h]
  rfl

theorem lift_ok {r : Except Failure α} (h : r = .ok a) : ((liftM r : FileOp α) >>= f) t = f a t := by
  rw [h]
  exact bind_ok rfl

theorem lift_error {r : Except Failure α} (h : r = .error e) : ((liftM r : FileOp α) >>= f) t = (.error e, t) := by
  rw [h]
  exact bind_error rfl

theorem get_bind {f : FileTree → FileOp β} : (get >>= f) t = f t t :=
  rfl

theorem tryCatch_ok (h : x t = (.ok a, t')) : tryCatch x handle t = (.ok a, t') := by
  simp only [tryCatch, tryCatchThe, MonadExceptOf.tryCatch, ExceptT.tryCatch, ExceptT.mk, bind, StateT.bind, h]
  rfl

theorem tryCatch_error (h : x t = (.error e, t')) : tryCatch x handle t = handle e t' := by
  simp only [tryCatch, tryCatchThe, MonadExceptOf.tryCatch, ExceptT.tryCatch, ExceptT.mk, bind, StateT.bind, h]

end FileOp

namespace FileTree

variable {t t' t'' : FileTree} {p : Path} {place q : Place} {name : String} {names : List String} {f : Failure}

def finish (t : FileTree) (p : Path) : Place :=
  reach (t.base p) p.parts

theorem Grown.finish (h : Grown t t') (p : Path) : t'.finish p = t.finish p := by
  rw [FileTree.finish, FileTree.finish, h.base]

theorem locate_ok_iff : t.locate p = .ok q ↔ t.Paved (t.base p) p.parts ∧ q = t.finish p :=
  walk_ok_iff

theorem placeOf_ok_iff :
    t.placeOf p = .ok q ↔ checkPath p = .ok () ∧ t.Paved (t.base p) p.parts ∧ q = t.finish p := by
  rw [← locate_ok_iff, placeOf]
  cases checkPath p with
  | error f => exact ⟨nofun, nofun⟩
  | ok      =>
    cases hl : t.locate p with
    | error objection => exact ⟨nofun, nofun⟩
    | ok place        =>
      exact ⟨fun h => ⟨rfl, congrArg _ (Except.ok.inj h)⟩, fun ⟨_, h⟩ => congrArg _ (Except.ok.inj h)⟩

theorem isFolder_iff :
    t.isFolder p = true ↔
      checkPath p = .ok () ∧ t.Paved (t.base p) p.parts ∧ t.get? (t.finish p) = some .folder := by
  rw [isFolder]
  cases hp : t.placeOf p with
  | ok place =>
    have ⟨fits, paved, same⟩ := placeOf_ok_iff.mp hp
    simp [fits, paved, same]
  | error f  =>
    refine ⟨nofun, fun ⟨fits, paved, _⟩ => ?_⟩
    cases hp.symm.trans (placeOf_ok_iff.mpr ⟨fits, paved, rfl⟩)

theorem checkPath_ok_iff :
    checkPath p = .ok () ↔ p.toText.toList.contains '\x00' = false ∧ p.toText.utf8ByteSize < 4096 := by
  rw [checkPath]
  split
  case isTrue nul    => exact ⟨nofun, fun h => nomatch nul.symm.trans h.left⟩
  case isFalse noNul =>
    have noNul := Bool.eq_false_iff.mpr noNul
    split
    case isTrue long   => exact ⟨nofun, fun h => absurd h.right (Nat.not_lt_of_le long)⟩
    case isFalse short => exact ⟨fun _ => ⟨noNul, Nat.lt_of_not_le short⟩, fun _ => rfl⟩

theorem checkPath_parent (h : checkPath p = .ok ()) : checkPath p.parent = .ok () := by
  have ⟨noNul, short⟩ := checkPath_ok_iff.mp h
  rw [checkPath_ok_iff]
  cases p.toText_parent with
  | inl here   =>
    rw [here]
    decide
  | inr longer =>
    have ⟨rest, same⟩ := longer
    rw [same, String.toList_append, List.contains_append, Bool.or_eq_false_iff] at noNul
    rw [same, String.utf8ByteSize_append] at short
    exact ⟨noNul.left, Nat.lt_of_le_of_lt (Nat.le_add_right _ _) short⟩

theorem of_bind_ok {β γ : Type} {x : Except Failure β} {next : β → Except Failure γ} {c : γ}
    (h : (x >>= next) = .ok c) : ∃ b, x = .ok b ∧ next b = .ok c := by
  cases x with
  | error f => cases h
  | ok b    => exact ⟨b, rfl, h⟩

theorem mapError_ok {β : Type} (g : FileFault → Failure) (b : β) : (Except.ok b).mapError g = .ok b :=
  rfl

theorem of_mapError_ok {β : Type} {x : Except FileFault β} {g : FileFault → Failure} {b : β}
    (h : x.mapError g = .ok b) : x = .ok b := by
  cases x with
  | error f => cases h
  | ok b    => cases h; rfl

def site (t : FileTree) (p : Path) : Except Failure Place := do
  checkPath p
  match p.parts.getLast? with
  | none      => throw (fault p .exists)
  | some name =>
    let place ← (t.locate p.parent).mapError (fault p)
    match t.get? place with
    | none           => throw (fault p .notFound)
    | some (.file _) => throw (fault p .notDirectory)
    | some .folder   =>
      (checkName name).mapError (fault p)
      if name = ".." || (t.get? (place ++ [name])).isSome then throw (fault p .exists)
      return place ++ [name]

theorem makeFolder_eq (t : FileTree) (p : Path) :
    makeFolder p t =
      match t.site p with
      | .ok place => (.ok (), t.put place .folder)
      | .error f  => (.error f, t) := by
  rw [makeFolder, site]
  cases hc : checkPath p with
  | error f => exact FileOp.lift_error rfl
  | ok      =>
    refine (FileOp.lift_ok rfl).trans (FileOp.get_bind.trans ?_)
    cases hn : p.parts.getLast? with
    | none      => rfl
    | some name =>
      cases hl : t.locate p.parent with
      | error f  => exact FileOp.lift_error rfl
      | ok place =>
        refine (FileOp.lift_ok rfl).trans ?_
        simp only [mapError_ok, bind, Except.bind]
        cases hp : t.get? place with
        | none       => rfl
        | some entry =>
          cases entry with
          | file content => rfl
          | folder       =>
            cases hk : checkName name with
            | error f => exact FileOp.lift_error rfl
            | ok      =>
              refine (FileOp.lift_ok rfl).trans ?_
              by_cases taken : (name = ".." || (t.get? (place ++ [name])).isSome) = true
              case pos => simp only [if_pos taken]; rfl
              case neg => simp only [if_neg taken]; rfl

-- A folder can be made at the end of a path: the way there can be taken, and there is nothing yet.
structure Vacant (t : FileTree) (p : Path) : Prop where
  fits  : checkPath p = .ok ()
  inner : p.parts ≠ []
  paved : t.Paved (t.base p) p.parts
  above : t.get? (t.finish p).dropLast = some .folder
  free  : t.get? (t.finish p) = none

theorem finish_concat (h : p.parts.getLast? = some name) : t.finish p = step (t.finish p.parent) name := by
  rw [finish, Path.parts_of_getLast? h]
  exact reach_concat _ _ _

theorem paved_concat_iff (h : p.parts.getLast? = some name) :
    t.Paved (t.base p) p.parts ↔
      t.Paved (t.base p) p.parent.parts ∧ t.get? (t.finish p.parent) = some .folder ∧ checkName name = .ok () := by
  rw [Path.parts_of_getLast? h]
  exact Along.concat_iff

theorem site_found (h : t.site p = .ok place) :
    ∃ name above, checkPath p = .ok () ∧ p.parts.getLast? = some name ∧ t.locate p.parent = .ok above ∧
      t.get? above = some .folder ∧ checkName name = .ok () ∧ name ≠ ".." ∧ t.get? (above ++ [name]) = none ∧
      place = above ++ [name] := by
  have ⟨_, fits, h⟩ := of_bind_ok h
  cases hn : p.parts.getLast? with
  | none      =>
    rw [hn] at h
    cases h
  | some name =>
    rw [hn] at h
    have ⟨above, located, h⟩ := of_bind_ok h
    cases folder : t.get? above with
    | none       =>
      rw [folder] at h
      cases h
    | some entry =>
      rw [folder] at h
      cases entry with
      | file content => cases h
      | folder       =>
        have ⟨_, fitting, h⟩ := of_bind_ok h
        split at h
        case isTrue           => cases h
        case isFalse notThere =>
          cases h
          simp only [Bool.or_eq_true, decide_eq_true_eq, not_or, Option.not_isSome_iff_eq_none] at notThere
          exact ⟨name, above, fits, rfl, of_mapError_ok located, folder, of_mapError_ok fitting, notThere.left,
            notThere.right, rfl⟩

theorem site_ok (h : t.site p = .ok place) : t.Vacant p ∧ place = t.finish p := by
  have ⟨name, above, fits, hn, hl, folder, fitting, inner, free, there⟩ := site_found h
  have ⟨paved, same⟩ := locate_ok_iff.mp hl
  have nonempty : p.parts ≠ [] := fun top => nomatch (top ▸ hn : [].getLast? = some name)
  have last : t.finish p = above ++ [name] := by rw [finish_concat hn, ← same, step_of_ne inner]
  refine ⟨⟨fits, nonempty, (paved_concat_iff hn).mpr ⟨paved, same ▸ folder, fitting⟩, ?_, ?_⟩, there.trans last.symm⟩
  case refine_1 =>
    rw [last, List.dropLast_concat]
    exact folder
  case refine_2 =>
    rw [last]
    exact free

theorem makeFolder_cases (t : FileTree) (p : Path) :
    (t.Vacant p ∧ makeFolder p t = (.ok (), t.put (t.finish p) .folder)) ∨
      ∃ f, makeFolder p t = (.error f, t) := by
  rw [makeFolder_eq]
  cases hs : t.site p with
  | ok place =>
    have ⟨vacant, same⟩ := site_ok hs
    exact .inl ⟨vacant, by rw [same]⟩
  | error f  => exact .inr ⟨f, rfl⟩

theorem Vacant.grown (h : t.Vacant p) : Grown t (t.put (t.finish p) .folder) :=
  .put_folder h.free h.above

theorem Vacant.isFolder (h : t.Vacant p) : (t.put (t.finish p) .folder).isFolder p := by
  have inner : t.finish p ≠ [] := fun top => nomatch (top ▸ t.get?_nil).symm.trans h.free
  exact isFolder_iff.mpr ⟨h.fits, h.grown.paved h.paved, get?_put_self t inner .folder⟩

structure Ensured (t : FileTree) (p : Path) (result : Except Failure Unit × FileTree) : Prop where
  grown : Grown t result.2
  there : result.1 = .ok () → result.2.isFolder p

theorem Vacant.ensured (h : t.Vacant p) : Ensured t p (.ok (), t.put (t.finish p) .folder) :=
  ⟨h.grown, fun _ => h.isFolder⟩

theorem unless_folder (t : FileTree) (p : Path) (f : Failure) :
    (do unless (← get).isFolder p do throw f : FileOp Unit) t =
      (if t.isFolder p then .ok () else .error f, t) := by
  rw [FileOp.get_bind]
  split <;> rfl

theorem unless_folder_ensured (t : FileTree) (p : Path) (f : Failure) :
    Ensured t p (if t.isFolder p then .ok () else .error f, t) where
  grown   := .refl t
  there h := by
    split at h
    case isTrue there => exact there
    case isFalse      => cases h

theorem ensureFolder_of_vacant (h : makeFolder p t = (.ok (), t')) : ensureFolder p t = (.ok (), t') :=
  FileOp.tryCatch_ok h

theorem ensureFolder_of_error (h : makeFolder p t = (.error f, t)) :
    ensureFolder p t = (if t.isFolder p then .ok () else .error f, t) :=
  (FileOp.tryCatch_error h).trans (unless_folder t p f)

theorem ensureFolders_of_vacant (h : makeFolder p t = (.ok (), t')) (depth : Nat) :
    ensureFolders p depth t = (.ok (), t') := by
  cases depth with
  | zero  => exact ensureFolder_of_vacant h
  | succ  => exact FileOp.tryCatch_ok h

theorem ensureFolders_of_missing {text : String} (h : makeFolder p t = (.error (.file .notFound text), t))
    (depth : Nat) :
    ensureFolders p (depth + 1) t = (do ensureFolders p.parent depth; ensureFolder p : FileOp Unit) t :=
  FileOp.tryCatch_error h

theorem ensureFolders_of_error (h : makeFolder p t = (.error f, t)) (other : ∀ text, f ≠ .file .notFound text)
    (depth : Nat) : ensureFolders p depth t = (if t.isFolder p then .ok () else .error f, t) := by
  cases depth with
  | zero => exact ensureFolder_of_error h
  | succ =>
    refine (FileOp.tryCatch_error h).trans ?_
    split
    case h_1 text => exact absurd rfl (other text)
    case h_2      => exact unless_folder t p f

-- A folder is made right away, or it is seen whether there is one, or what lies above it is seen to first.
theorem ensureFolders_cases (t : FileTree) (p : Path) (depth : Nat) :
    (t.Vacant p ∧ ensureFolders p depth t = (.ok (), t.put (t.finish p) .folder)) ∨
    (∃ f, ensureFolders p depth t = (if t.isFolder p then .ok () else .error f, t)) ∨
      ∃ less, depth = less + 1 ∧
        ensureFolders p depth t = (do ensureFolders p.parent less; ensureFolder p : FileOp Unit) t := by
  cases makeFolder_cases t p with
  | inl made   => exact .inl ⟨made.left, ensureFolders_of_vacant made.right depth⟩
  | inr failed =>
    have ⟨f, failed⟩ := failed
    -- Only if something above is missing does the attempt go on, with what lies above.
    by_cases missing : ∃ text, f = .file .notFound text
    case neg => exact .inr (.inl ⟨f, ensureFolders_of_error failed (fun text same => missing ⟨text, same⟩) depth⟩)
    case pos =>
      have ⟨text, same⟩ := missing
      rw [same] at failed
      cases depth with
      | zero      => exact .inr (.inl ⟨_, ensureFolder_of_error failed⟩)
      | succ less => exact .inr (.inr ⟨less, rfl, ensureFolders_of_missing failed less⟩)

theorem ensureFolders_ensured (t : FileTree) (p : Path) (depth : Nat) : Ensured t p (ensureFolders p depth t) := by
  match ensureFolders_cases t p depth with
  | .inl ⟨vacant, made⟩             => exact made ▸ vacant.ensured
  | .inr (.inl ⟨f, seen⟩)           => exact seen ▸ unless_folder_ensured t p f
  | .inr (.inr ⟨less, deeper, run⟩) =>
    have above := ensureFolders_ensured t p.parent less
    rw [run]
    cases hr : ensureFolders p.parent less t with
    | mk result t' =>
      rw [hr] at above
      cases result with
      | error f =>
        rw [FileOp.bind_error hr]
        exact ⟨above.grown, nofun⟩
      | ok      =>
        -- The last attempt is one at the folder alone.
        have last := ensureFolders_ensured t' p 0
        rw [FileOp.bind_ok hr]
        exact ⟨above.grown.trans last.grown, last.there⟩
termination_by depth

theorem begins_of_paved (inner : p.parts ≠ []) (paved : t.Paved (t.base p) p.parts) :
    t.get? (t.base p) = some .folder := by
  cases hp : p.parts with
  | nil         => exact absurd hp inner
  | cons _ _    =>
    rw [hp] at paved
    cases paved with
    | cons here _ _ => exact here

theorem begins_of_isFolder (h : t.isFolder p) : t.get? (t.base p) = some .folder := by
  have ⟨_, paved, folder⟩ := isFolder_iff.mp h
  by_cases top : p.parts = []
  case pos =>
    rw [finish, top] at folder
    exact folder
  case neg => exact begins_of_paved top paved

theorem begins_of_seen (h : (if t.isFolder p then .ok () else .error f : Except Failure Unit) = .ok ()) :
    t.get? (t.base p) = some .folder := by
  split at h
  case isTrue there => exact begins_of_isFolder there
  case isFalse      => cases h

theorem begins_of_ensureFolders (t : FileTree) (p : Path) (depth : Nat) (h : (ensureFolders p depth t).1 = .ok ()) :
    t.get? (t.base p) = some .folder := by
  match ensureFolders_cases t p depth with
  | .inl ⟨vacant, _⟩                => exact begins_of_paved vacant.inner vacant.paved
  | .inr (.inl ⟨f, seen⟩)           => exact begins_of_seen (seen ▸ h)
  | .inr (.inr ⟨less, deeper, run⟩) =>
    rw [run] at h
    cases hr : ensureFolders p.parent less t with
    | mk result t' =>
      cases result with
      | error f =>
        rw [FileOp.bind_error hr] at h
        cases h
      | ok      =>
        have above : (ensureFolders p.parent less t).1 = .ok () := by rw [hr]
        exact begins_of_ensureFolders t p.parent less above
termination_by depth

structure Clear (t : FileTree) (p : Path) : Prop where
  fits    : checkPath p = .ok ()
  begins  : t.get? (t.base p) = some .folder
  pavable : t.Pavable (t.base p) p.parts
  free    : ∀ content, t.get? (t.finish p) ≠ some (.file content)

namespace Clear

theorem grown (h : t.Clear p) (grown : Grown t t') : t'.Clear p where
  fits         := h.fits
  begins       := by
    rw [grown.base]
    exact grown.kept _ _ h.begins
  pavable      := by
    rw [grown.base]
    exact grown.pavable h.pavable
  free content := by
    rw [grown.finish]
    exact fun file => h.free content (grown.files _ _ file)

end Clear

theorem pavable_concat_iff (h : p.parts.getLast? = some name) :
    t.Pavable (t.base p) p.parts ↔
      t.Pavable (t.base p) p.parent.parts ∧ (∀ content, t.get? (t.finish p.parent) ≠ some (.file content)) ∧
        checkName name = .ok () := by
  rw [Path.parts_of_getLast? h]
  exact Along.concat_iff

theorem clear_parent (hn : p.parts.getLast? = some name) (fits : checkPath p = .ok ())
    (begins : t.get? (t.base p) = some .folder) (pavable : t.Pavable (t.base p) p.parts) : t.Clear p.parent :=
  have ⟨before, free, _⟩ := (pavable_concat_iff hn).mp pavable
  ⟨checkPath_parent fits, begins, before, free⟩

theorem Clear.parent (h : t.Clear p) (hn : p.parts.getLast? = some name) : t.Clear p.parent :=
  clear_parent hn h.fits h.begins h.pavable

theorem site_of_paved (rooted : t.Rooted) (clear : t.Clear p) (paved : t.Paved (t.base p) p.parts) :
    t.site p = .ok (t.finish p) ∨ t.get? (t.finish p) = some .folder ∧ t.site p = .error (fault p .exists) := by
  cases hn : p.parts.getLast? with
  | none      =>
    refine .inr ⟨?_, by simp only [site, clear.fits, hn]; rfl⟩
    rw [finish, List.getLast?_eq_none_iff.mp hn]
    exact clear.begins
  | some name =>
    have ⟨above, folder, fitting⟩ := (paved_concat_iff hn).mp paved
    have located : t.locate p.parent = .ok (t.finish p.parent) := locate_ok_iff.mpr ⟨above, rfl⟩
    simp only [site, clear.fits, hn, located, mapError_ok, folder, fitting, bind, Except.bind]
    by_cases back : name = ".."
    case pos =>
      have same : t.finish p = (t.finish p.parent).dropLast := by rw [finish_concat hn, step, if_pos back]
      rw [same]
      exact .inr ⟨rooted _ _ folder, by simp [back]; rfl⟩
    case neg =>
      have same : t.finish p = t.finish p.parent ++ [name] := by rw [finish_concat hn, step_of_ne back]
      rw [← same]
      cases there : t.get? (t.finish p) with
      | none       => exact .inl (by simp [back]; rfl)
      | some entry =>
        cases entry with
        | file content => exact absurd there (clear.free content)
        | folder       => exact .inr ⟨rfl, by simp; rfl⟩

theorem site_of_gap (clear : t.Clear p) (gap : ¬t.Paved (t.base p) p.parts) :
    t.site p = .error (fault p .notFound) := by
  cases hn : p.parts.getLast? with
  | none      =>
    rw [List.getLast?_eq_none_iff.mp hn] at gap
    exact absurd .nil gap
  | some name =>
    have above := clear.parent hn
    simp only [site, clear.fits, hn, bind, Except.bind]
    by_cases paved : t.Paved (t.base p) p.parent.parts
    case neg =>
      rw [locate, walk_of_pavable above.pavable paved]
      rfl
    case pos =>
      have located : t.locate p.parent = .ok (t.finish p.parent) := locate_ok_iff.mpr ⟨paved, rfl⟩
      simp only [located, mapError_ok]
      split
      case h_1         => rfl
      case h_2 file    => exact absurd file (above.free _)
      case h_3 folder  =>
        have fitting := ((pavable_concat_iff hn).mp clear.pavable).right.right
        exact absurd ((paved_concat_iff hn).mpr ⟨paved, folder, fitting⟩) gap

theorem ensureFolders_of_paved (rooted : t.Rooted) (clear : t.Clear p) (paved : t.Paved (t.base p) p.parts)
    (depth : Nat) : (ensureFolders p depth t).1 = .ok () := by
  have made := makeFolder_eq t p
  cases site_of_paved rooted clear paved with
  | inl vacant =>
    rw [vacant] at made
    rw [ensureFolders_of_vacant made]
  | inr there  =>
    have ⟨folder, taken⟩ := there
    rw [taken] at made
    rw [ensureFolders_of_error made nofun, if_pos (isFolder_iff.mpr ⟨clear.fits, paved, folder⟩)]

theorem ensureFolders_of_clear (rooted : t.Rooted) (clear : t.Clear p) {depth : Nat}
    (enough : p.parts.length ≤ depth) : (ensureFolders p depth t).1 = .ok () := by
  induction depth generalizing t p with
  | zero          =>
    refine ensureFolders_of_paved rooted clear ?_ 0
    rw [List.length_eq_zero_iff.mp (Nat.le_zero.mp enough)]
    exact .nil
  | succ depth ih =>
    by_cases paved : t.Paved (t.base p) p.parts
    case pos => exact ensureFolders_of_paved rooted clear paved _
    case neg =>
      have made := makeFolder_eq t p
      rw [site_of_gap clear paved] at made
      rw [ensureFolders_of_missing made]
      cases hn : p.parts.getLast? with
      | none      =>
        rw [List.getLast?_eq_none_iff.mp hn] at paved
        exact absurd .nil paved
      | some name =>
        have fewer : p.parent.parts.length ≤ depth := by
          rw [Path.parts_of_getLast? hn, List.length_append] at enough
          exact Nat.le_of_succ_le_succ enough
        have above := ih rooted (clear.parent hn) fewer
        have ensured := ensureFolders_ensured t p.parent depth
        cases hr : ensureFolders p.parent depth t with
        | mk result t' =>
          rw [hr] at above ensured
          cases above
          have ⟨_, way, folder⟩ := isFolder_iff.mp (ensured.there rfl)
          have fitting := ((pavable_concat_iff hn).mp clear.pavable).right.right
          have paved := (paved_concat_iff (p := p) hn).mpr ⟨way, folder, fitting⟩
          rw [FileOp.bind_ok hr]
          exact ensureFolders_of_paved (ensured.grown.rooted rooted) (clear.grown ensured.grown) paved 0

end FileTree
end Chatline
