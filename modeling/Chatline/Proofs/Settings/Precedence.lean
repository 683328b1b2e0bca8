import Chatline.Proofs.Settings.Listed

namespace Chatline

namespace Environment

def Unset (v : Option String) : Prop :=
  ∀ text, v = some text → text = ""

variable {v : Option String} {text : String}

theorem nonempty?_eq_some : nonempty? v = some text ↔ v = some text ∧ text ≠ "" := by
  cases v with
  | none   => exact ⟨nofun, nofun⟩
  | some s =>
    simp only [nonempty?, String.isEmpty_iff]
    split
    case isTrue empty =>
      refine ⟨nofun, fun ⟨same, nonempty⟩ => ?_⟩
      cases same
      exact absurd empty nonempty
    case isFalse nonempty =>
      refine ⟨fun same => ?_, And.left⟩
      cases same
      exact ⟨rfl, nonempty⟩

theorem nonempty?_of_unset (h : Unset v) : nonempty? v = none := by
  cases hv : nonempty? v with
  | none      => rfl
  | some text =>
    have ⟨there, nonempty⟩ := nonempty?_eq_some.mp hv
    exact absurd (h text there) nonempty

end Environment

namespace LogLayout

variable {name : String} {l : LogLayout}

theorem ofTitle?_title (l : LogLayout) : ofTitle? l.title = some l := by
  cases l <;> decide

theorem title_of_ofTitle? (h : ofTitle? name = some l) : l.title = name := by
  have named := List.find?_some h
  exact of_decide_eq_true named

end LogLayout

namespace LogSetup

theorem ofNames_title (level : String) (l : LogLayout) : ofNames level l.title = .ok (of level l) := by
  rw [ofNames, LogLayout.ofTitle?_title]

end LogSetup

namespace Datum

theorem overlong_pow {n : Nat} (h : Failure.digitLimit ≤ n) : Overlong (.int (Nat.pow 10 n)) := by
  refine .int (Nat.lt_of_not_le fun short => ?_)
  have less := (Nat.length_repr_le_iff (by decide)).mp short
  exact absurd less (Nat.not_lt_of_le (Nat.pow_le_pow_right (by decide) h))

end Datum

namespace Settings

open Datum (Overlong)
open Environment (Unset)
open Statement (formatKey loggingKey levelKey layoutKey)

variable {e : Environment} {source : Option Path} {entries others : List (Datum × Datum)} {d : Datum} {s : Settings}
         {f : Failure} {t : Statement} {format : Option String}

namespace Statement

theorem levelName_some {name : Option String} (h : t.levelName = .ok name) (said : t.level = some d) :
    ∃ ps, d.display = .ok ps ∧ name = some (.ofList (Text.joined (Text.upperPoints ps))) := by
  rw [levelName, said] at h
  cases hd : d.display with
  | error f =>
    rw [Option.mapM_some, hd] at h
    cases h
  | ok ps   =>
    rw [Option.mapM_some, hd] at h
    cases h
    exact ⟨ps, rfl, rfl⟩

theorem levelName_none {name : Option String} (h : t.levelName = .ok name) (nothing : t.level = none) :
    name = none := by
  rw [levelName, nothing] at h
  cases h
  rfl

theorem namedLayout_some {layout : Option LogLayout} (h : t.namedLayout = .ok layout) (said : t.layout = some d) :
    ∃ ps, d.display = .ok ps ∧ layout = LogLayout.ofTitle? (.ofList (Text.joined (Text.lowerPoints ps))) := by
  rw [namedLayout, said] at h
  cases hd : d.display with
  | error f =>
    simp only [hd] at h
    cases h
  | ok ps   =>
    simp only [hd] at h
    cases h
    exact ⟨ps, rfl, rfl⟩

theorem namedLayout_none {layout : Option LogLayout} (h : t.namedLayout = .ok layout) (nothing : t.layout = none) :
    layout = none := by
  rw [namedLayout, nothing] at h
  cases h
  rfl

end Statement

theorem withStatement_ok (h : withStatement source format t = .ok s) :
    ∃ level layout, t.levelName = .ok level ∧ t.namedLayout = .ok layout ∧
      s = { format, level := level.getD default.level, layout := layout.getD default.layout, source } := by
  rw [withStatement] at h
  cases hl : t.levelName with
  | error f  =>
    rw [hl] at h
    cases h
  | ok level =>
    cases hn : t.namedLayout with
    | error f   =>
      rw [hl, hn] at h
      cases h
    | ok layout =>
      rw [hl, hn] at h
      cases h
      exact ⟨level, layout, rfl, rfl, rfl⟩

-- Where settings come from: a variable of the environment comes before an entry of the settings file, and that
-- before what is usual.
structure Governed (e : Environment) (entries : List (Datum × Datum)) (s : Settings) : Prop where
  givenFormat : ∀ text, e.format = some text → text ≠ "" → s.format = some text
  saidFormat  : Unset e.format → ∀ ps, Datum.entry? entries formatKey = some (.text ps) →
                s.format = some (.ofList (Text.joined ps))
  noFormat    : Unset e.format → (∀ ps, Datum.entry? entries formatKey ≠ some (.text ps)) → s.format = none
  givenLevel  : ∀ text, e.level = some text → text ≠ "" → s.level = Text.upper text
  saidLevel   : Unset e.level → ∀ d, Said entries levelKey d →
                ∃ ps, d.display = .ok ps ∧ s.level = .ofList (Text.joined (Text.upperPoints ps))
  usualLevel  : Unset e.level → (∀ d, ¬Said entries levelKey d) → s.level = "INFO"
  saidLayout  : ∀ d, Said entries layoutKey d → ∃ ps, d.display = .ok ps ∧
                ∀ l : LogLayout, l.title = .ofList (Text.joined (Text.lowerPoints ps)) → s.layout = l
  usualLayout : (∀ d, Said entries layoutKey d → ∃ ps, d.display = .ok ps ∧
                ∀ l : LogLayout, l.title ≠ .ofList (Text.joined (Text.lowerPoints ps))) → s.layout = .detailed

theorem ofEntries_fst :
    (ofEntries e source entries).1 =
      (withStatement source (Statement.ofEntries entries).formatText.1 (.ofEntries entries)).map (·.override e) :=
  rfl

theorem ofEntries_error :
    (ofEntries e source entries).1 = .error f ↔
      f = .tooManyDigits none ∧ ∃ d, (Said entries levelKey d ∨ Said entries layoutKey d) ∧ d.Overlong := by
  have written := withStatement_written source (Statement.ofEntries entries).formatText.1 (.ofEntries entries) f
  simp only [Statement.ofEntries_level, Statement.ofEntries_layout] at written
  rw [← written, ofEntries_fst]
  cases withStatement source (Statement.ofEntries entries).formatText.1 (.ofEntries entries) <;> simp [Except.map]

theorem ofEntries_ok (h : (ofEntries e source entries).1 = .ok s) :
    ∃ level layout, (Statement.ofEntries entries).levelName = .ok level ∧
      (Statement.ofEntries entries).namedLayout = .ok layout ∧
      s = { format := e.format? <|> (Statement.ofEntries entries).formatText.1
            level  := (e.level?.map Text.upper).getD (level.getD "INFO")
            layout := layout.getD .detailed
            source } := by
  rw [ofEntries_fst] at h
  cases hw : withStatement source (Statement.ofEntries entries).formatText.1 (.ofEntries entries) with
  | error f  =>
    rw [hw] at h
    cases h
  | ok plain =>
    rw [hw] at h
    cases h
    have ⟨level, layout, hl, hn, same⟩ := withStatement_ok hw
    rw [same]
    exact ⟨level, layout, hl, hn, rfl⟩

theorem governed (h : (ofEntries e source entries).1 = .ok s) : Governed e entries s := by
  have ⟨level, layout, hl, hn, same⟩ := ofEntries_ok h
  subst same
  constructor
  case givenFormat =>
    intro text there nonempty
    have given : e.format? = some text := Environment.nonempty?_eq_some.mpr ⟨there, nonempty⟩
    rw [given]
    rfl
  case saidFormat =>
    intro unset ps said
    have nothing : e.format? = none := Environment.nonempty?_of_unset unset
    rw [nothing, Statement.formatText_text (Statement.ofEntries_format.trans said)]
    rfl
  case noFormat =>
    intro unset noText
    have nothing : e.format? = none := Environment.nonempty?_of_unset unset
    rw [← Statement.ofEntries_format] at noText
    rw [nothing, Statement.formatText_not_text noText]
    rfl
  case givenLevel =>
    intro text there nonempty
    have given : e.level? = some text := Environment.nonempty?_eq_some.mpr ⟨there, nonempty⟩
    rw [given]
    rfl
  case saidLevel =>
    intro unset d said
    have nothing : e.level? = none := Environment.nonempty?_of_unset unset
    have ⟨ps, shown, named⟩ := Statement.levelName_some hl (Statement.ofEntries_level.mpr said)
    rw [nothing, named]
    exact ⟨ps, shown, rfl⟩
  case usualLevel =>
    intro unset unsaid
    have nothing : e.level? = none := Environment.nonempty?_of_unset unset
    have silent : (Statement.ofEntries entries).level = none :=
      Option.eq_none_iff_forall_ne_some.mpr fun d said => unsaid d (Statement.ofEntries_level.mp said)
    rw [nothing, Statement.levelName_none hl silent]
    rfl
  case saidLayout =>
    intro d said
    have ⟨ps, shown, named⟩ := Statement.namedLayout_some hn (Statement.ofEntries_layout.mpr said)
    refine ⟨ps, shown, fun l title => ?_⟩
    rw [named, ← title, LogLayout.ofTitle?_title]
    rfl
  case usualLayout =>
    intro unnamed
    cases hs : (Statement.ofEntries entries).layout with
    | none   =>
      rw [Statement.namedLayout_none hn hs]
      rfl
    | some d =>
      have ⟨ps, shown, named⟩ := Statement.namedLayout_some hn hs
      have ⟨ps', shown', untitled⟩ := unnamed d (Statement.ofEntries_layout.mp hs)
      cases shown.symm.trans shown'
      cases ht : LogLayout.ofTitle? (.ofList (Text.joined (Text.lowerPoints ps))) with
      | none   =>
        rw [named, ht]
        rfl
      | some l => exact absurd (LogLayout.title_of_ofTitle? ht) (untitled l)

theorem ofEntries_logging (same : Datum.entry? others loggingKey = Datum.entry? entries loggingKey) :
    (ofEntries e source others).1.map (fun s => (s.level, s.layout)) =
      (ofEntries e source entries).1.map (fun s => (s.level, s.layout)) := by
  have said (key : String) : said? others key = said? entries key := by rw [said?, said?, same]
  have level : (Statement.ofEntries others).level = (Statement.ofEntries entries).level := by
    rw [Statement.ofEntries_eq, Statement.ofEntries_eq, said]
  have layout : (Statement.ofEntries others).layout = (Statement.ofEntries entries).layout := by
    rw [Statement.ofEntries_eq, Statement.ofEntries_eq, said layoutKey]
  simp only [ofEntries, ofStatement]
  rw [withStatement_format source _ level layout (Statement.ofEntries entries).formatText.1]
  cases withStatement source (Statement.ofEntries entries).formatText.1 (.ofEntries entries) <;> rfl

theorem ofEntries_formatting {s' : Settings} (same : Datum.entry? others formatKey = Datum.entry? entries formatKey)
    (h : (ofEntries e source others).1 = .ok s') (h' : (ofEntries e source entries).1 = .ok s) :
    s'.format = s.format := by
  have ⟨_, _, _, _, hs'⟩ := ofEntries_ok h
  have ⟨_, _, _, _, hs⟩ := ofEntries_ok h'
  rw [hs', hs]
  simp only [Statement.formatText, Statement.ofEntries_format, same]

structure Warned (entries : List (Datum × Datum)) (records : List Record) : Prop where
  unfit : ∀ r, r ∈ records ↔ ∃ d, Datum.entry? entries formatKey = some d ∧ Unfit d ∧ r = .formatNotText d.typeName
  once  : records.length ≤ 1
  level : ∀ r ∈ records, r.level = .warning

theorem warned (e : Environment) (source : Option Path) (entries : List (Datum × Datum)) :
    Warned entries (ofEntries e source entries).2 where
  unfit r := by
    rw [← Statement.ofEntries_format]
    exact Statement.mem_records
  once    := Statement.records_length _
  level r mem := by
    have ⟨_, _, _, same⟩ := Statement.mem_records.mp mem
    rw [same]
    rfl

-- A variable of the environment comes before an entry of the settings file, and that before what is usual. The format
-- and what is said about the log do not affect each other, and the log can be set up with whatever comes out. The
-- only thing that keeps anything from coming out is a level or a layout that cannot be written. All this is so of
-- the entries of a file's document when settings are loaded from it.
theorem governed_unless_overlong (e : Environment) (source : Option Path) (entries : List (Datum × Datum)) :
    (∀ f, (ofEntries e source entries).1 = .error f ↔
      f = .tooManyDigits none ∧ ∃ d, (Said entries levelKey d ∨ Said entries layoutKey d) ∧ d.Overlong) ∧
    (∀ s, (ofEntries e source entries).1 = .ok s →
      Governed e entries s ∧ LogSetup.ofNames s.level s.layout.title = .ok (.of s.level s.layout)) ∧
    Warned entries (ofEntries e source entries).2 ∧
    (∀ others, Datum.entry? others loggingKey = Datum.entry? entries loggingKey →
      (ofEntries e source others).1.map (fun s => (s.level, s.layout)) =
        (ofEntries e source entries).1.map (fun s => (s.level, s.layout))) ∧
    (∀ others s' s, Datum.entry? others formatKey = Datum.entry? entries formatKey →
      (ofEntries e source others).1 = .ok s' → (ofEntries e source entries).1 = .ok s → s'.format = s.format) ∧
    (∀ files given bytes doc es, files.read (resolvePath e given) = .ok bytes → Yaml.read (.ofBytes bytes) = .ok doc →
      doc.entries? doc.root = some es →
      load files e given = ofEntries e (some (resolvePath e given)) (doc.listed es)) where
  left          := fun _ => ofEntries_error
  right.left    := fun s h => ⟨governed h, LogSetup.ofNames_title s.level s.layout⟩
  right.right   := ⟨warned e source entries, fun _ => ofEntries_logging, fun _ _ _ => ofEntries_formatting,
    fun _ _ _ _ _ => load_listed⟩

def mixedEntries : List (Datum × Datum) :=
  let logging := [(.ofString "level", .ofString "Warning"), (.ofString "format", .ofString "SIMPLE")]
  [(.ofString "format", .int 5), (.ofString "logging", .map logging)]

theorem governed_unless_overlong_mixed :
    ∃ s, (ofEntries { level := some "debug" } none mixedEntries).1 = .ok s ∧
      s.format = none ∧ s.level = "DEBUG" ∧ s.layout = .simple := by
  have ⟨failing, governed, _⟩ := governed_unless_overlong { level := some "debug" } none mixedEntries
  have level : said? mixedEntries levelKey = some (.ofString "Warning") := rfl
  have layout : said? mixedEntries layoutKey = some (.ofString "SIMPLE") := rfl
  cases loaded : (ofEntries { level := some "debug" } none mixedEntries).1 with
  | error f =>
    have ⟨_, d, said, overlong⟩ := (failing f).mp loaded
    simp only [← said?_eq_some, level, layout] at said
    cases said with
    | inl same | inr same =>
      cases same
      cases overlong
  | ok s    =>
    have ⟨governed, _⟩ := governed s loaded
    have number : Datum.entry? mixedEntries formatKey = some (.int 5) := rfl
    have ⟨ps, shown, named⟩ := governed.saidLayout _ (said?_eq_some.mp layout)
    cases shown
    refine ⟨s, rfl, governed.noFormat nofun fun ps => ?_, ?_, named .simple (by decide +kernel)⟩
    case refine_1 =>
      rw [number]
      exact nofun
    case refine_2 => exact (governed.givenLevel "debug" rfl (by decide)).trans (by decide +kernel)

def overlongEntries : List (Datum × Datum) :=
  [(.ofString "logging", .map [(.ofString "level", .int (Nat.pow 10 Failure.digitLimit))])]

theorem overlongEntries_refused :
    ¬∃ s, (ofEntries { level := some "debug" } none overlongEntries).1 = .ok s := by
  intro ⟨s, loaded⟩
  have said : Said overlongEntries levelKey (.int (Nat.pow 10 Failure.digitLimit)) := ⟨_, rfl, rfl⟩
  have overlong := Datum.overlong_pow Failure.digitLimit.le_refl
  exact nomatch loaded.symm.trans (ofEntries_error.mpr ⟨rfl, _, .inl said, overlong⟩)

end Settings
end Chatline
