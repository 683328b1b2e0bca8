import Chatline.Settings
import Chatline.Proofs.Datum
import Chatline.Proofs.Text.Utf8

namespace Chatline

namespace FileTree

variable {t : FileTree} {p : Path} {bytes : List UInt8} {f : Failure}

theorem placeOf_error (h : t.placeOf p = .error f) :
    (f = .nulInPath ∧ p.toText.toList.contains '\x00') ∨ ∃ objection, f = fault p objection := by
  rw [placeOf, checkPath] at h
  split at h
  case isTrue nul =>
    cases h
    exact .inl ⟨rfl, nul⟩
  case isFalse =>
    split at h
    case isTrue =>
      cases h
      exact .inr ⟨_, rfl⟩
    case isFalse =>
      cases hl : t.locate p with
      | ok place =>
        rw [hl] at h
        cases h
      | error objection =>
        rw [hl] at h
        cases h
        exact .inr ⟨objection, rfl⟩

theorem read_error (h : t.read p = .error f) :
    (f = .nulInPath ∧ p.toText.toList.contains '\x00') ∨ ∃ objection, f = fault p objection := by
  rw [read] at h
  cases hp : t.placeOf p with
  | error f' =>
    rw [hp] at h
    cases h
    exact placeOf_error hp
  | ok place =>
    simp only [hp, bind, Except.bind] at h
    split at h
    case h_1 =>
      cases h
      exact .inr ⟨_, rfl⟩
    case h_2 =>
      cases h
      exact .inr ⟨_, rfl⟩
    case h_3 => cases h

theorem read_of_nul (h : p.toText.toList.contains '\x00') : t.read p = .error .nulInPath := by
  rw [read, placeOf, checkPath, if_pos h]
  rfl

end FileTree

namespace Yaml

theorem read_of_flaw {r : Text.Reading} {flaw : Text.Utf8.Flaw} (hf : r.flaw = some flaw)
    (few : r.chars.length < Source.firstSize) : read r = .error (.unusable (.notText flaw)) := by
  have source : Source.ofReading r = .error (.unusable (.notText flaw)) := by
    have fewer : (r.chars.take (Source.wholePieces r.chars.length)).length < Source.firstSize := by
      rw [List.length_take]
      omega
    simp only [Source.ofReading, hf, Option.isSome_some, if_true, Option.map_some]
    rw [if_pos fewer]
    rfl
  rw [read, source]
  rfl

end Yaml

namespace Settings

open Datum (WrittenUnless Overlong)

namespace Statement

variable {s : Statement}

theorem levelName_written (s : Statement) : WrittenUnless s.levelName (∃ d, s.level = some d ∧ d.Overlong) := by
  rw [levelName]
  cases s.level with
  | none   => exact (WrittenUnless.pure none).congr (by simp)
  | some d => exact (((Datum.display_written d).map _).map _).congr (by simp)

theorem namedLayout_written (s : Statement) :
    WrittenUnless s.namedLayout (∃ d, s.layout = some d ∧ d.Overlong) := by
  rw [namedLayout]
  cases s.layout with
  | none   => exact (WrittenUnless.pure none).congr (by simp)
  | some d => exact ((Datum.display_written d).map _).congr (by simp)

theorem ofDocument?_eq_none {doc : Yaml.Document} :
    ofDocument? doc = none ↔ doc.root ≠ .single .null ∧ doc.entries? doc.root = none := by
  rw [ofDocument?]
  split
  case h_1 null           => exact ⟨nofun, fun h => absurd null h.left⟩
  case h_2 notMap notNull => exact ⟨fun _ => ⟨notNull, notMap⟩, fun _ => rfl⟩
  case h_3 isMap _        =>
    refine ⟨fun nothing => ?_, fun h => nomatch isMap.symm.trans h.right⟩
    split at nothing <;> cases nothing

end Statement

inductive States (files : FileTree) (path : Path) : Statement → Prop
  | document {bytes : List UInt8} {doc : Yaml.Document} {s : Statement} (read : files.read path = .ok bytes)
    (holds : Yaml.read (.ofBytes bytes) = .ok doc) (said : Statement.ofDocument? doc = some s) : States files path s

-- What keeps settings from being loaded: a path that no file system takes, a file that is no text or that spells
-- out something that is no value, and a level or layout that cannot be written.
inductive Stops (files : FileTree) (path : Path) : Failure → Prop
  | path (nul : path.toText.toList.contains '\x00') : Stops files path .nulInPath
  | content {bytes : List UInt8} {f : Failure} (read : files.read path = .ok bytes)
    (unusable : Yaml.read (.ofBytes bytes) = .error (.unusable f)) : Stops files path f
  | value {s : Statement} {d : Datum} (states : States files path s) (about : s.level = some d ∨ s.layout = some d)
    (overlong : d.Overlong) : Stops files path (.tooManyDigits none)

-- A settings file that cannot be used but is put up with, and what is said about it.
inductive Unusable (files : FileTree) (path : Path) : Record → Prop
  | missing (missing : files.read path = .error (FileTree.fault path .notFound)) :
    Unusable files path (.settingsMissing path.toText)
  | unreadable {objection : FileFault} (other : objection ≠ .notFound)
    (unreadable : files.read path = .error (FileTree.fault path objection)) :
    Unusable files path (.settingsUnreadable path.toText (.file (FileTree.fault path objection)))
  | malformed {bytes : List UInt8} (read : files.read path = .ok bytes)
    (malformed : Yaml.read (.ofBytes bytes) = .error .malformed) :
    Unusable files path (.settingsUnreadable path.toText .malformed)
  | notMap {bytes : List UInt8} {doc : Yaml.Document} (read : files.read path = .ok bytes)
    (holds : Yaml.read (.ofBytes bytes) = .ok doc) (notNull : doc.root ≠ .single .null)
    (notMap : doc.entries? doc.root = none) : Unusable files path (.settingsNotMap path.toText)

variable {files : FileTree} {path : Path} {bytes : List UInt8} {f : Failure} {r : Record} {s : Statement}

theorem Unusable.level (h : Unusable files path r) : r.level = .warning := by
  cases h <;> rfl

theorem readStatement_of_nul (h : path.toText.toList.contains '\x00') :
    readStatement files path = .error .nulInPath := by
  simp only [readStatement, FileTree.read_of_nul h]

theorem readStatement_of_content (read : files.read path = .ok bytes)
    (unusable : Yaml.read (.ofBytes bytes) = .error (.unusable f)) : readStatement files path = .error f := by
  simp only [readStatement, read, unusable]

theorem readStatement_of_states (h : States files path s) : readStatement files path = .ok (s, []) := by
  cases h with
  | document read holds said => simp only [readStatement, read, holds, said]

theorem readStatement_of_unusable (h : Unusable files path r) : readStatement files path = .ok (.empty, [r]) := by
  cases h with
  | missing missing             => simp only [readStatement, missing, FileTree.fault]
  | unreadable other unreadable => simp only [readStatement, unreadable, FileTree.fault]
  | malformed read malformed    => simp only [readStatement, read, malformed]
  | notMap read holds notNull notMap =>
    have nothing := Statement.ofDocument?_eq_none.mpr ⟨notNull, notMap⟩
    simp only [readStatement, read, holds, nothing]

theorem states_or_unusable_or_stops (files : FileTree) (path : Path) :
    (∃ s, States files path s) ∨ (∃ r, Unusable files path r) ∨
      ∃ f, readStatement files path = .error f ∧ Stops files path f := by
  cases hr : files.read path with
  | error f =>
    cases FileTree.read_error hr with
    | inl nul =>
      exact .inr (.inr ⟨_, readStatement_of_nul nul.right, .path nul.right⟩)
    | inr objects =>
      have ⟨objection, same⟩ := objects
      rw [same] at hr
      by_cases missing : objection = .notFound
      case pos => exact .inr (.inl ⟨_, .missing (missing ▸ hr)⟩)
      case neg => exact .inr (.inl ⟨_, .unreadable missing hr⟩)
  | ok bytes =>
    cases hy : Yaml.read (.ofBytes bytes) with
    | error fault =>
      cases fault with
      | malformed  => exact .inr (.inl ⟨_, .malformed hr hy⟩)
      | unusable f => exact .inr (.inr ⟨f, readStatement_of_content hr hy, .content hr hy⟩)
    | ok doc =>
      cases hs : Statement.ofDocument? doc with
      | some s => exact .inl ⟨s, .document hr hy hs⟩
      | none   =>
        have ⟨notNull, notMap⟩ := Statement.ofDocument?_eq_none.mp hs
        exact .inr (.inl ⟨_, .notMap hr hy notNull notMap⟩)

theorem withStatement_written (source : Option Path) (format : Option String) (s : Statement) :
    WrittenUnless (withStatement source format s) (∃ d, (s.level = some d ∨ s.layout = some d) ∧ d.Overlong) :=
  ((s.levelName_written).bind fun _ => s.namedLayout_written.map _).congr <| by
    simp only [or_and_right, exists_or]

variable {e : Environment} {given : Option String}

theorem load_of_error (h : readStatement files (resolvePath e given) = .error f) :
    load files e given = (.error f, []) := by
  simp only [load, h]

theorem load_of_states (h : States files (resolvePath e given) s) :
    load files e given =
      ((withStatement (some (resolvePath e given)) s.formatText.1 s).map (·.override e), s.formatText.2) := by
  simp only [load, readStatement_of_states h]
  rfl

theorem load_of_unusable (h : Unusable files (resolvePath e given) r) :
    load files e given = (.ok ({ default with source := some (resolvePath e given) }.override e), [r]) := by
  simp only [load, readStatement_of_unusable h]
  rfl

theorem load_error_iff : (load files e given).1 = .error f ↔ Stops files (resolvePath e given) f where
  mp h := by
    cases states_or_unusable_or_stops files (resolvePath e given) with
    | inl states =>
      have ⟨s, states⟩ := states
      rw [load_of_states states] at h
      cases hw : withStatement (some (resolvePath e given)) s.formatText.1 s with
      | ok settings =>
        rw [hw] at h
        cases h
      | error f' =>
        rw [hw] at h
        cases h
        have ⟨same, d, about, overlong⟩ := (withStatement_written _ _ _ f).mp hw
        rw [same]
        exact .value states about overlong
    | inr other =>
      cases other with
      | inl unusable =>
        rw [load_of_unusable unusable.choose_spec] at h
        cases h
      | inr stops =>
        have ⟨f', hr, stops⟩ := stops
        rw [load_of_error hr] at h
        cases h
        exact stops
  mpr h := by
    cases h with
    | path nul              => rw [load_of_error (readStatement_of_nul nul)]
    | content read unusable => rw [load_of_error (readStatement_of_content read unusable)]
    | value states about overlong =>
      rw [load_of_states states, (withStatement_written _ _ _ _).mpr ⟨rfl, _, about, overlong⟩]
      rfl

-- Settings are loaded unless something keeps them from being loaded. A file that is missing, that cannot be read,
-- or that holds nothing of use leaves everything to the environment and to the defaults, with a single warning.
-- But that is not so of a file that is no text.
theorem loaded_unless_stopped (files : FileTree) (e : Environment) (given : Option String) :
    (∀ f, (load files e given).1 = .error f ↔ Stops files (resolvePath e given) f) ∧
    (∀ r, Unusable files (resolvePath e given) r →
      r.level = .warning ∧
      load files e given = (.ok ({ default with source := some (resolvePath e given) }.override e), [r])) ∧
    (∀ bytes, files.read (resolvePath e given) = .ok bytes →
      bytes.length ≤ Text.Reading.blockSize → Text.Utf8.decode? bytes = none →
      ∃ flaw, (load files e given).1 = .error (.notText flaw)) := by
  refine ⟨fun f => load_error_iff, fun r unusable => ⟨unusable.level, load_of_unusable unusable⟩, ?_⟩
  intro bytes read short notText
  have ⟨flaw, hf, few⟩ := Text.Reading.ofBytes_of_not_text short notText
  exact ⟨flaw, load_error_iff.mpr (.content read (Yaml.read_of_flaw hf few))⟩

theorem loaded_unless_stopped_missing :
    load .bare { level := some "debug" } none =
      (.ok { default with level := "DEBUG", source := some defaultPath }, [.settingsMissing "config/config.yml"]) := by
  have path : resolvePath { level := some "debug" } none = ⟨.here, ["config", "config.yml"]⟩ := by decide +kernel
  have missing : Unusable .bare (resolvePath { level := some "debug" } none)
      (.settingsMissing "config/config.yml") := by
    rw [path]
    exact .missing rfl
  have settings : ({ default with source := some defaultPath } : Settings).override { level := some "debug" } =
      { default with level := "DEBUG", source := some defaultPath } := by decide +kernel
  rw [← settings]
  exact ((loaded_unless_stopped .bare { level := some "debug" } none).right.left _ missing).right

def byteTree : FileTree :=
  FileTree.bare.put ["srv", "chat", "c.yml"] (.file [0xff])

theorem load_stopped_by_byte :
    (load byteTree {} (some "c.yml")).1 = .error (.notText ⟨0xff, 0, 1, "invalid start byte"⟩) := by
  have path : resolvePath {} (some "c.yml") = ⟨.here, ["c.yml"]⟩ := by decide +kernel
  have read : byteTree.read (resolvePath {} (some "c.yml")) = .ok [0xff] := by
    rw [path]
    rfl
  exact load_error_iff.mpr (.content read (Yaml.read_of_flaw rfl (by decide)))

end Settings
end Chatline
