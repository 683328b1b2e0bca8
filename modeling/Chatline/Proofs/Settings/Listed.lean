import Chatline.Proofs.Settings.Loading
import Chatline.Proofs.Yaml.Proper

namespace Chatline

namespace Settings

open Statement (formatKey loggingKey levelKey layoutKey)

variable {entries : List (Datum × Datum)} {key : String} {d : Datum} {r : Record}

def Statement.ofEntries (entries : List (Datum × Datum)) : Statement :=
  let format := Datum.entry? entries formatKey
  match Datum.entry? entries loggingKey with
  | some (.map logging) =>
    { format, level := Datum.entry? logging levelKey, layout := Datum.entry? logging layoutKey }
  | _                    => { empty with format }

-- What the entries of a settings file amount to in an environment, with the warnings that there are.
def ofEntries (e : Environment) (source : Option Path) (entries : List (Datum × Datum)) :
    Except Failure Settings × List Record :=
  let (settings, records) := ofStatement source (.ofEntries entries)
  (settings.map (·.override e), records)

def said? (entries : List (Datum × Datum)) (key : String) : Option Datum :=
  match Datum.entry? entries loggingKey with
  | some (.map logging) => Datum.entry? logging key
  | _                    => none

def Said (entries : List (Datum × Datum)) (key : String) (d : Datum) : Prop :=
  ∃ logging, Datum.entry? entries loggingKey = some (.map logging) ∧ Datum.entry? logging key = some d

theorem said?_eq_some : said? entries key = some d ↔ Said entries key d := by
  rw [said?]
  split
  case h_1 logging there =>
    refine ⟨fun said => ⟨logging, there, said⟩, fun ⟨_, there', said⟩ => ?_⟩
    cases there.symm.trans there'
    exact said
  case h_2 noSection => exact ⟨nofun, fun ⟨logging, there, _⟩ => absurd there (noSection logging)⟩

def Unfit (d : Datum) : Prop :=
  d ≠ .null ∧ ∀ ps, d ≠ .text ps

namespace Statement

variable {t : Statement}

theorem ofEntries_eq (entries : List (Datum × Datum)) :
    ofEntries entries =
      { format := Datum.entry? entries formatKey
        level  := said? entries levelKey
        layout := said? entries layoutKey } := by
  rw [ofEntries]
  split
  case h_1 logging there => simp only [said?, there]
  case h_2 noSection     =>
    have unsaid (key : String) : said? entries key = none := by
      rw [said?]
      split
      case h_1 logging there => exact absurd there (noSection logging)
      case h_2               => rfl
    rw [unsaid, unsaid]
    rfl

theorem ofEntries_format : (ofEntries entries).format = Datum.entry? entries formatKey := by
  rw [ofEntries_eq]

theorem ofEntries_level : (ofEntries entries).level = some d ↔ Said entries levelKey d := by
  rw [ofEntries_eq]
  exact said?_eq_some

theorem ofEntries_layout : (ofEntries entries).layout = some d ↔ Said entries layoutKey d := by
  rw [ofEntries_eq]
  exact said?_eq_some

theorem formatText_text {ps : List Text.CodePoint} (h : t.format = some (.text ps)) :
    t.formatText = (some (.ofList (Text.joined ps)), []) := by
  simp only [formatText, h]

theorem formatText_not_text (h : ∀ ps, t.format ≠ some (.text ps)) : t.formatText.1 = none := by
  rw [formatText]
  split
  case h_3 ps isText => exact absurd isText (h ps)
  all_goals rfl

theorem formatText_map {es : List (Datum × Datum)} (h : t.format = some (.map es)) :
    t.formatText = (none, [.formatNotText "dict"]) := by
  simp only [formatText, h]
  rfl

theorem mem_records : r ∈ t.formatText.2 ↔ ∃ d, t.format = some d ∧ Unfit d ∧ r = .formatNotText d.typeName := by
  rw [formatText]
  split
  case h_1 nothing        => simp [nothing]
  case h_2 null           => simp [null, Unfit]
  case h_3 ps isText      => simp [isText, Unfit]
  case h_4 d notNull notText said =>
    have unfit : Unfit d := ⟨fun null => notNull (by rw [null]), fun ps isText => notText ps (by rw [isText])⟩
    simp [said, unfit]

theorem records_length (t : Statement) : t.formatText.2.length ≤ 1 := by
  rw [formatText]
  split <;> simp

end Statement

theorem withStatement_format (source : Option Path) (format : Option String) {t t' : Statement}
    (level : t.level = t'.level) (layout : t.layout = t'.layout) (format' : Option String) :
    withStatement source format t = (withStatement source format' t').map ({ · with format }) := by
  have levels : t.levelName = t'.levelName := by rw [Statement.levelName, Statement.levelName, level]
  have layouts : t.namedLayout = t'.namedLayout := by rw [Statement.namedLayout, Statement.namedLayout, layout]
  rw [withStatement, withStatement, levels, layouts]
  cases t'.levelName with
  | error f => rfl
  | ok      => cases t'.namedLayout <;> rfl

theorem ofStatement_congr {t t' : Statement} (format : t.formatText = t'.formatText) (level : t.level = t'.level)
    (layout : t.layout = t'.layout) (source : Option Path) : ofStatement source t = ofStatement source t' := by
  simp only [ofStatement, format]
  rw [withStatement_format source t'.formatText.1 level layout t'.formatText.1]
  rw [← withStatement_format source t'.formatText.1 rfl rfl t'.formatText.1]

end Settings

namespace Yaml.Document

variable {doc : Document} {es : List (Value × Value)} {v : Value} {key : String}

def spread (doc : Document) (v : Value) : Datum :=
  match doc.entries? v with
  | some es => .map (es.map fun (k, w) => (doc.outline k, doc.tree w))
  | none    => doc.outline v

def listed (doc : Document) (es : List (Value × Value)) : List (Datum × Datum) :=
  es.map fun (k, v) => (doc.outline k, doc.spread v)

theorem sameKey_outline (doc : Document) (k : Value) (key : String) :
    (doc.outline k).sameKey (.ofString key) = k.sameKey (.single (.ofString key)) := by
  cases k with
  | single d      => rfl
  | undefined _   => rfl
  | collection c  =>
    rw [outline]
    split <;> rfl

theorem entry?_map (doc : Document) (g : Value → Datum) (es : List (Value × Value)) (key : String) :
    Datum.entry? (es.map fun (k, v) => (doc.outline k, g v)) key =
      (Yaml.Document.entry? es key).map g := by
  simp only [Datum.entry?, entry?, List.find?_map, Option.map_map, Function.comp_def, sameKey_outline]

theorem proper_of_entry (proper : ∀ e ∈ es, e.2.Proper) (h : entry? es key = some v) : v.Proper := by
  have ⟨e, found, same⟩ := Option.map_eq_some_iff.mp h
  rw [← same]
  exact proper e (List.mem_of_find?_eq_some found)

theorem spread_of_entries (h : doc.entries? v = some es) :
    doc.spread v = .map (es.map fun (k, w) => (doc.outline k, doc.tree w)) := by
  simp only [spread, h]

theorem outline_of_entries (h : doc.entries? v = some es) : doc.outline v = .map [] := by
  cases v with
  | collection c =>
    rw [entries?] at h
    rw [outline]
    split at h
    case h_1 isMap => simp only [isMap]
    case h_2       => cases h
  | _ => cases h

theorem outline_of_no_entries {m : List (Datum × Datum)} (h : doc.entries? v = none) (isMap : doc.outline v = .map m) :
    ∃ m, v = .single (.map m) := by
  cases v with
  | single d     => exact ⟨m, by rw [← isMap]; rfl⟩
  | undefined _  => cases isMap
  | collection c =>
    rw [outline] at isMap
    rw [entries?] at h
    split at isMap <;> simp_all

theorem spread_of_no_entries (h : doc.entries? v = none) : doc.spread v = doc.outline v := by
  simp only [spread, h]

end Yaml.Document

namespace Settings

open Statement (formatKey loggingKey levelKey layoutKey)

variable {doc : Yaml.Document} {es : List (Yaml.Value × Yaml.Value)} {v : Yaml.Value} {source : Option Path}

theorem said?_listed (doc : Yaml.Document) (proper : ∀ e ∈ es, e.2.Proper) (key : String) :
    said? (doc.listed es) key =
      ((Yaml.Document.entry? es loggingKey).bind doc.entries?).bind fun logging =>
        (Yaml.Document.entry? logging key).map doc.tree := by
  rw [said?, Yaml.Document.listed, Yaml.Document.entry?_map]
  cases hl : Yaml.Document.entry? es loggingKey with
  | none   => rfl
  | some v =>
    cases hv : doc.entries? v with
    | some logging =>
      simp only [Option.map_some, Option.bind_some, hv, Yaml.Document.spread_of_entries hv]
      exact Yaml.Document.entry?_map doc doc.tree logging key
    | none         =>
      simp only [Option.map_some, Option.bind_some, hv, Yaml.Document.spread_of_no_entries hv, Option.bind_none]
      split
      case h_1 logging isMap =>
        have ⟨m, single⟩ := Yaml.Document.outline_of_no_entries hv (Option.some.inj isMap)
        exact absurd single (Yaml.Document.proper_of_entry proper hl m)
      case h_2 => rfl

theorem formatText_spread {t t' : Statement} {given : Option Yaml.Value} (outlined : t.format = given.map doc.outline)
    (spread : t'.format = given.map doc.spread) : t.formatText = t'.formatText := by
  cases given with
  | none   => simp only [Statement.formatText, outlined, spread, Option.map_none]
  | some v =>
    cases hv : doc.entries? v with
    | some es =>
      rw [Option.map_some, Yaml.Document.outline_of_entries hv] at outlined
      rw [Option.map_some, Yaml.Document.spread_of_entries hv] at spread
      rw [Statement.formatText_map outlined, Statement.formatText_map spread]
    | none    =>
      rw [Option.map_some, Yaml.Document.spread_of_no_entries hv] at spread
      simp only [Statement.formatText, outlined, spread, Option.map_some]

theorem ofDocument?_of_entries (h : doc.entries? doc.root = some es) :
    Statement.ofDocument? doc =
      some {
        format := (Yaml.Document.entry? es formatKey).map doc.outline
        level  := ((Yaml.Document.entry? es loggingKey).bind doc.entries?).bind fun logging =>
                    (Yaml.Document.entry? logging levelKey).map doc.tree
        layout := ((Yaml.Document.entry? es loggingKey).bind doc.entries?).bind fun logging =>
                    (Yaml.Document.entry? logging layoutKey).map doc.tree } := by
  rw [Statement.ofDocument?]
  split
  case h_1 null           =>
    rw [null] at h
    cases h
  case h_2 notMap notNull => cases h.symm.trans notMap
  case h_3 isMap _        =>
    cases h.symm.trans isMap
    cases (Yaml.Document.entry? es loggingKey).bind doc.entries? <;> rfl

theorem ofDocument?_listed (h : doc.entries? doc.root = some es)
    (proper : ∀ e ∈ es, e.2.Proper) :
    ∃ t, Statement.ofDocument? doc = some t ∧
      ∀ source, ofStatement source t = ofStatement source (.ofEntries (doc.listed es)) := by
  have format := Statement.ofEntries_format.trans (Yaml.Document.entry?_map doc doc.spread es formatKey)
  have said (key : String) := (said?_listed doc proper key).symm
  refine ⟨_, ofDocument?_of_entries h, ofStatement_congr (formatText_spread rfl format) ?_ ?_⟩
  case refine_1 =>
    rw [Statement.ofEntries_eq]
    exact said levelKey
  case refine_2 =>
    rw [Statement.ofEntries_eq]
    exact said layoutKey

variable {files : FileTree} {e : Environment} {given : Option String} {bytes : List UInt8}

theorem load_listed (read : files.read (resolvePath e given) = .ok bytes) (holds : Yaml.read (.ofBytes bytes) = .ok doc)
    (isMap : doc.entries? doc.root = some es) :
    load files e given = ofEntries e (some (resolvePath e given)) (doc.listed es) := by
  have ⟨t, said, same⟩ := ofDocument?_listed isMap (Yaml.proper_of_entries holds isMap)
  rw [load_of_states (.document read holds said), ofEntries, ← same]
  rfl

end Settings
end Chatline
