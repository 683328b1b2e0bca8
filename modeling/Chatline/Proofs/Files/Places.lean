import Chatline.FileTree

namespace Chatline.FileTree

variable {t t' t'' : FileTree} {p : Path} {place q : Place} {name : String} {names : List String} {entry : FileEntry}

@[simp]
theorem get?_nil (t : FileTree) : t.get? [] = some .folder :=
  if_pos rfl

theorem get?_put_self (t : FileTree) (inner : place ≠ []) (entry : FileEntry) :
    (t.put place entry).get? place = some entry := by
  rw [get?, if_neg inner]
  exact Table.get?_set_self _ _ _

theorem get?_put_ne (t : FileTree) (other : q ≠ place) (entry : FileEntry) :
    (t.put place entry).get? q = t.get? q := by
  rw [get?, get?]
  split
  case isTrue  => rfl
  case isFalse => exact Table.get?_set_ne _ other _

def step (place : Place) (name : String) : Place :=
  if name = ".." then place.dropLast else place ++ [name]

def reach (place : Place) (names : List String) : Place :=
  names.foldl step place

theorem step_of_ne (h : name ≠ "..") : step place name = place ++ [name] :=
  if_neg h

theorem reach_concat (place : Place) (names : List String) (name : String) :
    reach place (names ++ [name]) = step (reach place names) name := by
  rw [reach, List.foldl_append]
  rfl

inductive Along (P : Place → Prop) : Place → List String → Prop
  | nil {place : Place} : Along P place []
  | cons {place : Place} {name : String} {names : List String} (here : P place) (fits : checkName name = .ok ())
    (rest : Along P (step place name) names) : Along P place (name :: names)

def Paved (t : FileTree) : Place → List String → Prop :=
  Along fun place => t.get? place = some .folder

def Pavable (t : FileTree) : Place → List String → Prop :=
  Along fun place => ∀ content, t.get? place ≠ some (.file content)

namespace Along

variable {P P' : Place → Prop}

theorem concat_iff :
    Along P place (names ++ [name]) ↔ Along P place names ∧ P (reach place names) ∧ checkName name = .ok () := by
  induction names generalizing place with
  | nil => exact ⟨fun | .cons here fits _ => ⟨.nil, here, fits⟩, fun ⟨_, here, fits⟩ => .cons here fits .nil⟩
  | cons first rest ih =>
    constructor
    case mp =>
      intro h
      cases h with
      | cons here fits rest => exact ⟨.cons here fits (ih.mp rest).left, (ih.mp rest).right⟩
    case mpr =>
      intro ⟨h, last⟩
      cases h with
      | cons here fits rest => exact .cons here fits (ih.mpr ⟨rest, last⟩)

theorem weaken (h : Along P place names) (weaker : ∀ q, P q → P' q) : Along P' place names := by
  induction h with
  | nil               => exact .nil
  | cons here fits _ ih => exact .cons (weaker _ here) fits ih

end Along

theorem walk_cons_folder (folder : t.get? place = some .folder) (fits : checkName name = .ok ()) :
    t.walk place (name :: names) = t.walk (step place name) names := by
  rw [walk, folder]
  simp only [fits]
  rfl

theorem walk_cons_nothing (nothing : t.get? place = none) : t.walk place (name :: names) = .error .notFound := by
  rw [walk, nothing]

theorem walk_cons_file {content : List UInt8} (file : t.get? place = some (.file content)) :
    t.walk place (name :: names) = .error .notDirectory := by
  rw [walk, file]

theorem walk_cons_long {f : FileFault} (folder : t.get? place = some .folder) (long : checkName name = .error f) :
    t.walk place (name :: names) = .error f := by
  rw [walk, folder]
  simp only [long]
  rfl

theorem walk_ok_iff : t.walk place names = .ok q ↔ t.Paved place names ∧ q = reach place names := by
  induction names generalizing place with
  | nil             => exact ⟨fun h => ⟨.nil, (Except.ok.inj h).symm⟩, fun ⟨_, same⟩ => by rw [same]; rfl⟩
  | cons name names ih =>
    constructor
    case mp =>
      intro h
      cases hp : t.get? place with
      | none       => cases (walk_cons_nothing hp).symm.trans h
      | some entry =>
        cases entry with
        | file content => cases (walk_cons_file hp).symm.trans h
        | folder       =>
          cases hn : checkName name with
          | error f => cases (walk_cons_long hp hn).symm.trans h
          | ok      =>
            rw [walk_cons_folder hp hn] at h
            have ⟨paved, same⟩ := ih.mp h
            exact ⟨.cons hp hn paved, same⟩
    case mpr =>
      intro ⟨paved, same⟩
      cases paved with
      | cons folder fits rest =>
        rw [walk_cons_folder folder fits]
        exact ih.mpr ⟨rest, same⟩

theorem walk_of_pavable (pavable : t.Pavable place names) (gap : ¬t.Paved place names) :
    t.walk place names = .error .notFound := by
  induction pavable with
  | nil => exact absurd .nil gap
  | @cons place name names here fits rest ih =>
    cases hp : t.get? place with
    | none       => exact walk_cons_nothing hp
    | some entry =>
      cases entry with
      | file content => exact absurd hp (here content)
      | folder       =>
        rw [walk_cons_folder hp fits]
        exact ih fun paved => gap (.cons hp fits paved)

-- A tree in which everything lies in a folder.
def Rooted (t : FileTree) : Prop :=
  ∀ place entry, t.get? place = some entry → t.get? place.dropLast = some .folder

theorem Rooted.put (h : t.Rooted) (above : t.get? place.dropLast = some .folder)
    (free : t.get? place ≠ some .folder) (entry : FileEntry) : (t.put place entry).Rooted := by
  have inner : place ≠ [] := fun top => free (top ▸ t.get?_nil)
  have shorter : place.dropLast ≠ place := fun same => by
    have length := congrArg List.length same
    have pos := List.length_pos_iff.mpr inner
    rw [List.length_dropLast] at length
    omega
  intro q entry' there
  by_cases same : q = place
  case pos =>
    rw [same, get?_put_ne t shorter]
    exact above
  case neg =>
    rw [get?_put_ne t same] at there
    have folder := h q entry' there
    have elsewhere : List.dropLast q ≠ place := fun same => free (same ▸ folder)
    rw [get?_put_ne t elsewhere]
    exact folder

theorem rooted_bare : bare.Rooted := by
  intro place entry there
  have few : place = [] ∨ place = ["srv"] ∨ place = ["srv", "chat"] := by
    simp only [get?, bare, Table.ofList, List.foldl_cons, List.foldl_nil, Table.get?_set, Table.get?_empty] at there
    grind
  rcases few with rfl | rfl | rfl <;> rfl

structure Grown (t t' : FileTree) : Prop where
  home   : t'.home = t.home
  kept   : ∀ place entry, t.get? place = some entry → t'.get? place = some entry
  files  : ∀ place content, t'.get? place = some (.file content) → t.get? place = some (.file content)
  rooted : t.Rooted → t'.Rooted

namespace Grown

theorem refl (t : FileTree) : Grown t t :=
  ⟨rfl, fun _ _ => id, fun _ _ => id, id⟩

theorem trans (h : Grown t t') (h' : Grown t' t'') : Grown t t'' where
  home             := h'.home.trans h.home
  kept place entry := h'.kept place entry ∘ h.kept place entry
  files place content := h.files place content ∘ h'.files place content
  rooted           := h'.rooted ∘ h.rooted

theorem base (h : Grown t t') (p : Path) : t'.base p = t.base p := by
  rw [FileTree.base, FileTree.base, h.home]

theorem paved (h : Grown t t') (paved : t.Paved place names) : t'.Paved place names :=
  paved.weaken fun q folder => h.kept q _ folder

theorem pavable (h : Grown t t') (pavable : t.Pavable place names) : t'.Pavable place names :=
  pavable.weaken fun q free content file => free content (h.files q content file)

theorem pavable_of_paved (h : Grown t t') (paved : t'.Paved place names) : t.Pavable place names := by
  refine paved.weaken fun q folder content file => ?_
  cases folder.symm.trans (h.kept q _ file)

theorem put_folder (missing : t.get? place = none) (above : t.get? place.dropLast = some .folder) :
    Grown t (t.put place .folder) := by
  have inner : place ≠ [] := fun top => nomatch (top ▸ t.get?_nil).symm.trans missing
  constructor
  case home   => rfl
  case kept   =>
    intro q entry there
    rw [get?_put_ne t fun same => nomatch (same ▸ there).symm.trans missing]
    exact there
  case files  =>
    intro q content there
    by_cases same : q = place
    case pos =>
      rw [same, get?_put_self t inner] at there
      cases there
    case neg =>
      rw [get?_put_ne t same] at there
      exact there
  case rooted => exact fun h => h.put above (fun folder => nomatch folder.symm.trans missing) .folder

end Grown

end Chatline.FileTree
