import Chatline.Proofs.Console.Seating
import Chatline.Proofs.Text.Lower

namespace Chatline.Console

def reloads (text : String) : Bool :=
  match Text.words (Text.chompNewlines text) with
  | label :: word :: _ => labels.contains (Text.lower label) && Text.lower word == "reload"
  | _                  => false

def chats (text : String) : Bool :=
  match Text.words (Text.chompNewlines text) with
  | label :: _ => !labels.contains (Text.lower label)
  | []         => false

def Input.isChat : Input → Bool
  | line text => chats text
  | _         => false

-- What the line for a message depends on: the options, the files that the settings in force were read from,
-- and, once there is a reload, the files as they are.
structure Situation where
  options : ChatOptions
  origin  : FileTree
  files   : FileTree

namespace Situation

def after (s : Situation) : Input → Situation
  | .change path content => { s with files := (FileTree.supply path content s.files).2 }
  | .line text           =>
    if reloads text then { s with options := { s.options with format := none }, origin := s.files } else s
  | .interrupt           => s

def afterAll (s : Situation) (is : List Input) : Situation :=
  is.foldl after s

theorem not_reloads_of_chats {text : String} (h : chats text) : reloads text = false := by
  simp only [chats] at h
  simp only [reloads]
  split
  case h_1 hw => simp_all
  case h_2 => rfl

theorem files_after_change (s : Situation) (p : Path) (content : Option (List UInt8)) :
    (s.after (.change p content)).files = (FileTree.supply p content s.files).2 :=
  rfl

theorem files_after_line (s : Situation) (text : String) : (s.after (.line text)).files = s.files := by
  simp only [after]
  split <;> rfl

variable {s : Situation} {i : Input}

theorem after_chat (h : i.isChat) : s.after i = s := by
  cases i with
  | line text           =>
    have chat : chats text := h
    simp [after, not_reloads_of_chats chat]
  | change path content => cases h
  | interrupt           => cases h

theorem afterAll_filter (s : Situation) (is : List Input) :
    s.afterAll (is.filter fun i => !i.isChat) = s.afterAll is := by
  induction is generalizing s with
  | nil => rfl
  | cons i is ih =>
    by_cases hi : i.isChat
    case pos => simpa [hi, afterAll, after_chat] using ih s
    case neg => simpa [hi, afterAll] using ih (s.after i)

end Situation

-- What is printed for an input. For a message, it is what a run prints that is given the message and nothing
-- else, with the options and the settings that are in force.
inductive Answer (path : Option String) (e : Environment) (s : Situation) : Input → String → Prop
  | change {p content} : Answer path e s (.change p content) ""
  | blank {text} : Text.words (Text.chompNewlines text) = [] → Answer path e s (.line text) ""
  | reloaded {text} : reloads text → Answer path e s (.line text) "Reloaded successfully.\n"
  | usage {text label args} :
    Text.words (Text.chompNewlines text) = label :: args → labels.contains (Text.lower label) →
    ¬ reloads text → Answer path e s (.line text) s!"Usage: {label} reload\n"
  | chat {text out setup} :
    chats text →
    (run (.render s.options (Text.chompNewlines text)) path [] (.new s.origin e ())).1 =
      .ok (.ok out setup) →
    Answer path e s (.line text) out

inductive Dialogue (path : Option String) (e : Environment) : Situation → List Input → String → Prop
  | done {s} : Dialogue path e s [] ""
  | interrupted {s is} : Dialogue path e s (.interrupt :: is) "\n"
  | next {s i is out rest} :
    Answer path e s i out → Dialogue path e (s.after i) is rest → Dialogue path e s (i :: is) (out ++ rest)

def Loadable (path : Option String) (e : Environment) : Situation → List Input → Prop
  | s, []      => ∃ settings, (Settings.load s.files e path).1 = .ok settings
  | s, i :: is => (∃ settings, (Settings.load s.files e path).1 = .ok settings) ∧ Loadable path e (s.after i) is

theorem contains_labels (label : String) :
    labels.contains (label.map Char.toLower) = labels.contains (Text.lower label) := by
  have formatter := Text.lower_eq_iff (s := label) (t := "/chatformatter") (by decide)
  have short := Text.lower_eq_iff (s := label) (t := "/cf") (by decide)
  rw [Bool.eq_iff_iff]
  simp only [List.contains_iff_mem, labels, List.mem_cons, List.not_mem_nil, or_false]
  rw [formatter, short]

theorem lower_eq_reload_iff (word : String) : word.map Char.toLower = "reload" ↔ Text.lower word = "reload" :=
  (Text.lower_eq_iff (by decide)).symm

variable {path : Option String} {e : Environment} {s : Situation} {h : Desk} {settings : Settings} {text : String}

theorem loadSettings_new {files : FileTree} {rs : List Record}
    (hl : Settings.load files e path = (.ok settings, rs)) :
    (Host.new files e () : Desk).loadSettings path = (.ok settings, desk files e rs) := by
  have same : Settings.load (Host.new files e () : Desk).files (Host.new files e () : Desk).environment path =
    Settings.load files e path := rfl
  simp only [Host.loadSettings]
  rw [same, hl]
  rfl

theorem run_render (o : ChatOptions) (body : String) {files : FileTree}
    (loaded : (Settings.load files e path).1 = .ok settings) :
    (run (.render o body) path [] (.new files e ())).1 =
      .ok (.ok ((seat o).shown (furnished o path e) (.compile (o.format <|> settings.format)) body)
        (.of settings.level settings.layout)) := by
  cases hl : Settings.load files e path with
  | mk outcome rs =>
    rw [hl] at loaded
    cases loaded
    have ⟨h, sat, seated, standing⟩ := sitDown_seated files e rs path o settings
    have ⟨h', said, _, _⟩ := seated.say body
    have sent : render o body path settings (desk files e rs) =
        (.ok ((seat o).shown (furnished o path e) (.compile (o.format <|> settings.format)) body), h') := by
      rw [← standing]
      have said : say (seat o) body h = (_, h') := said
      simp only [render, sat, said]
      rfl
    simp only [run, loadSettings_new hl, perform, sent]

inductive At (path : Option String) (e : Environment) (s : Situation) (h : Desk) : Prop
  | intro {settings : Settings} :
    (Settings.load s.origin e path).1 = .ok settings →
    Seated (seat s.options) (.compile (s.options.format <|> settings.format)) s.files h →
    h.standing ⟨2⟩ = furnished s.options path e → At path e s h

namespace At

theorem feed_blank (ha : At path e s h) (blank : Text.words (Text.chompNewlines text) = []) :
    feed (seat s.options) text h = (.ok "", h) ∧ At path e (s.after (.line text)) h := by
  have still : s.after (.line text) = s := by simp [Situation.after, reloads, blank]
  rw [still]
  constructor
  case left => simp only [feed, blank]
  case right => exact ha

theorem feed_reload (ha : At path e s h) (asked : reloads text)
    (loaded : (Settings.load s.files e path).1 = .ok settings) :
    ∃ h', feed (seat s.options) text h = (.ok "Reloaded successfully.\n", h') ∧
      At path e (s.after (.line text)) h' := by
  have after : s.after (.line text) = { s with options := { s.options with format := none }, origin := s.files } := by
    simp [Situation.after, asked]
  cases ha with
  | intro _ seated standing =>
    have ⟨environment, configPath⟩ := furnished_source e path s.options
    rw [← standing] at environment configPath
    simp only [reloads] at asked
    split at asked
    case h_2 => cases asked
    case h_1 label word rest hw =>
      simp only [Bool.and_eq_true, beq_iff_eq] at asked
      have loaded' : (Settings.load s.files h.environment (h.plugin ⟨2⟩).configPath).1 = .ok settings := by
        have he : h.environment = e := environment
        have hp : (h.plugin ⟨2⟩).configPath = path := configPath
        rw [he, hp, loaded]
      have ⟨h', commanded, seated', still⟩ :=
        seated.command rest ((lower_eq_reload_iff word).mpr asked.right) loaded'
      refine ⟨h', ?_, after ▸ .intro loaded seated' (still.trans standing)⟩
      simp only [feed, hw, contains_labels, asked.left, if_true]
      have commanded : h.command noGuests (seat s.options).plugin (word :: rest) = _ := commanded
      rw [commanded]
      rfl

theorem feed_usage (ha : At path e s h) {label : String} {args : List String}
    (hw : Text.words (Text.chompNewlines text) = label :: args) (labelled : labels.contains (Text.lower label))
    (other : ¬ reloads text) :
    feed (seat s.options) text h = (.ok s!"Usage: {label} reload\n", h) ∧ At path e (s.after (.line text)) h := by
  have still : s.after (.line text) = s := by simp [Situation.after, other]
  rw [still]
  constructor
  case left =>
    have unheard : args.head?.any (·.map Char.toLower == "reload") = false := by
      cases args with
      | nil => rfl
      | cons word rest =>
        simp only [reloads, hw, labelled, Bool.true_and, beq_iff_eq, ← lower_eq_reload_iff] at other
        simpa using other
    have commanded : h.command noGuests (seat s.options).plugin args =
        (.ok { handled := false, messages := [] }, h) := by
      simp [Host.command, unheard]
    have usage : String.join ["Usage: " ++ label ++ " reload" ++ "\n"] = "Usage: " ++ label ++ " reload\n" := by
      simp [String.join, String.append_assoc]
    simp only [feed, hw, contains_labels, labelled, if_true, commanded]
    exact congrArg (Except.ok ·, h) usage
  case right => exact ha

theorem feed_chat (ha : At path e s h) (chat : chats text) :
    ∃ out setup h', feed (seat s.options) text h = (.ok out, h') ∧
      (run (.render s.options (Text.chompNewlines text)) path [] (.new s.origin e ())).1 =
        .ok (.ok out setup) ∧
      At path e (s.after (.line text)) h' := by
  cases ha with
  | intro loaded seated standing =>
    have still : s.after (.line text) = s := Situation.after_chat (i := .line text) chat
    have ⟨h', said, seated', same⟩ := seated.say (Text.chompNewlines text)
    have standing' : h.standing (seat s.options).plugin = furnished s.options path e := standing
    have alike := run_render s.options (Text.chompNewlines text) loaded
    rw [standing'] at said same
    refine ⟨_, _, h', ?fed, alike, ?stays⟩
    case fed =>
      simp only [chats] at chat
      split at chat
      case h_2 => cases chat
      case h_1 label args hw =>
        have unlabelled : labels.contains (label.map Char.toLower) = false := by
          rw [contains_labels]
          simpa using chat
        simp only [feed, hw, unlabelled, said]
        rfl
    case stays =>
      rw [still]
      exact .intro loaded seated' same

theorem feed (ha : At path e s h) (text : String)
    (loadable : ∃ settings, (Settings.load s.files e path).1 = .ok settings) :
    ∃ out h', feed (seat s.options) text h = (.ok out, h') ∧ Answer path e s (.line text) out ∧
      At path e (s.after (.line text)) h' := by
  cases hw : Text.words (Text.chompNewlines text) with
  | nil =>
    have ⟨fed, stays⟩ := ha.feed_blank hw
    exact ⟨_, _, fed, .blank hw, stays⟩
  | cons label args =>
    by_cases labelled : labels.contains (Text.lower label)
    case neg =>
      have chat : chats text := by simpa [chats, hw] using labelled
      have ⟨out, setup, h', fed, alike, stays⟩ := ha.feed_chat chat
      exact ⟨out, h', fed, .chat chat alike, stays⟩
    case pos =>
      by_cases asked : reloads text
      case pos =>
        have ⟨settings, loaded⟩ := loadable
        have ⟨h', fed, stays⟩ := ha.feed_reload asked loaded
        exact ⟨_, h', fed, .reloaded asked, stays⟩
      case neg =>
        have ⟨fed, stays⟩ := ha.feed_usage hw labelled asked
        exact ⟨_, h, fed, .usage hw labelled asked, stays⟩

theorem change (ha : At path e s h) (p : Path) (content : Option (List UInt8)) :
    At path e (s.after (.change p content)) { h with files := (FileTree.supply p content h.files).2 } := by
  cases ha with
  | intro loaded seated standing =>
    have files : h.files = s.files := seated.files
    rw [files]
    exact .intro loaded (seated.change _) standing

end At

theorem seat_after (s : Situation) (i : Input) : seat (s.after i).options = seat s.options := by
  cases i with
  | line text           =>
    simp only [Situation.after]
    split <;> rfl
  | change path content => rfl
  | interrupt           => rfl

theorem Loadable.begin {is : List Input} (hl : Loadable path e s is) :
    ∃ settings, (Settings.load s.files e path).1 = .ok settings := by
  cases is with
  | nil       => exact hl
  | cons i is => exact hl.left

theorem read_cons {x : Seat} {i : Input} {is : List Input} {out rest : String} {h₁ h' : Desk}
    (first : step x (some i) h = (.ok (out, true), h₁)) (others : read x is h₁ = (.ok rest, h')) :
    read x (i :: is) h = (.ok (out ++ rest), h') := by
  rw [read, first]
  simp only [others]
  rfl

theorem At.read {is : List Input} (ha : At path e s h) (loadable : Loadable path e s is) :
    ∃ out h', read (seat s.options) is h = (.ok out, h') ∧ Dialogue path e s is out := by
  induction is generalizing s h with
  | nil => exact ⟨"", _, rfl, .done⟩
  | cons i is ih =>
    cases i with
    | interrupt => exact ⟨"\n", _, rfl, .interrupted⟩
    | change p content =>
      have ⟨rest, h', continued, dialogue⟩ := ih (ha.change p content) loadable.right
      exact ⟨"" ++ rest, h', read_cons rfl continued, .next .change dialogue⟩
    | line text =>
      have ⟨out, h₁, fed, answer, stays⟩ := ha.feed text loadable.left
      have ⟨rest, h', continued, dialogue⟩ := ih stays loadable.right
      rw [seat_after] at continued
      have stepped : step (seat s.options) (some (.line text)) h = (.ok (out, true), h₁) := by
        simp only [step, fed]
        rfl
      exact ⟨out ++ rest, h', read_cons stepped continued, .next answer dialogue⟩

-- A console is as good as a run for every message. As long as the settings can be read, every input is
-- answered for itself, and what a message is answered with is what a run for it alone prints. Neither those
-- that come before it nor those that come after it make a difference.
theorem console_dialogue (o : ChatOptions) (path : Option String) (e : Environment) (files : FileTree)
    (inputs : List Input) (loadable : Loadable path e ⟨o, files, files⟩ inputs) :
    (∃ out setup,
      (run (.console o) path inputs (.new files e ())).1 = .ok (.ok out setup) ∧
        Dialogue path e ⟨o, files, files⟩ inputs out) ∧
      ∀ s earlier, Situation.afterAll s earlier = s.afterAll (earlier.filter fun i => !i.isChat) := by
  constructor
  case right => exact fun s earlier => (s.afterAll_filter earlier).symm
  case left =>
    have ⟨settings, loaded⟩ := loadable.begin
    have loaded : (Settings.load files e path).1 = .ok settings := loaded
    cases hl : Settings.load files e path with
    | mk outcome rs =>
      have begun := loaded
      rw [hl] at loaded
      cases loaded
      have ⟨h, sat, seated, standing⟩ := sitDown_seated files e rs path o settings
      have ha : At path e ⟨o, files, files⟩ h := .intro begun seated standing
      have ⟨out, h', heard, dialogue⟩ := ha.read loadable
      refine ⟨out, .of settings.level settings.layout, ?_, dialogue⟩
      have heard : read (seat o) inputs h = (.ok out, h') := heard
      simp only [run, loadSettings_new hl, perform, sat, heard]
      rfl

def annsOptions : ChatOptions where
  name        := "Ann"
  displayName := none
  format      := some "\x7bprefix\x7d\x7bname\x7d: \x7bmessage\x7d"
  prefixText  := some "&a*"
  suffixText  := none
  verifier    := none
  badge       := none
  plain       := false

def annsInputs : List Input :=
  [.line "hi %1$s\n", .line " \n",
    .change Settings.defaultPath (some (Text.Utf8.encode "format: '\x7bmessage\x7d!'")),
    .line "/cf\n", .line "/ChatFormatter RELOAD now\n", .line "hi\n"]

theorem console_dialogue_ann :
    Loadable none {} ⟨annsOptions, .bare, .bare⟩ annsInputs ∧
      ∃ out setup,
        (run (.console annsOptions) none annsInputs (.new .bare {} ())).1 = .ok (.ok out setup) ∧
          Dialogue none {} ⟨annsOptions, .bare, .bare⟩ annsInputs out := by
  have loadable : Loadable none {} ⟨annsOptions, .bare, .bare⟩ annsInputs := by
    have readable (files : FileTree) (h : (Settings.load files {} none).1.toOption.isSome) :
        ∃ settings, (Settings.load files {} none).1 = .ok settings := by
      cases hl : (Settings.load files {} none).1 with
      | ok settings => exact ⟨settings, rfl⟩
      | error f     => simp [hl, Except.toOption] at h
    have missing := readable .bare (by decide +kernel)
    have found := readable (FileTree.supply Settings.defaultPath
      (some (Text.Utf8.encode "format: '\x7bmessage\x7d!'")) .bare).2 (by decide +kernel)
    simp only [annsInputs, Loadable, Situation.files_after_line, Situation.files_after_change]
    exact ⟨missing, missing, missing, found, found, found, found⟩
  exact ⟨loadable, (console_dialogue annsOptions none {} .bare annsInputs loadable).left⟩

end Chatline.Console
