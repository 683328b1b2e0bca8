import Chatline.Proofs.Binding.Following
import Chatline.Proofs.Console.Steady
import Chatline.Proofs.Passing.Alone
import Chatline.Proofs.Passing.Delivered

namespace Chatline

namespace Host.Standing

variable (s : Standing)

def provider (p : ProviderId) : Provider :=
  (s.providers.get? p).getD (.chatMeta "" (fun _ => .ok none) (fun _ => .ok none))

def active (k : Kind) : Option ProviderId :=
  ((s.directories.get? s.directory).getD default).active k

def bindings : Bindings where
  chatMeta         := s.active .chatMeta
  accounts         := s.active .accounts
  verifierPrefixes := s.active .verifierPrefixes

def offer (d : DirectoryId) (k : Kind) (p : Provider) : Standing :=
  { s with
    providers   := s.providers.set ⟨s.fresh⟩ p
    directories := s.directories.set d (((s.directories.get? d).getD default).register k ⟨s.fresh⟩)
    fresh       := s.fresh + 1 }

end Host.Standing

namespace Console

variable {h k : Desk} {id : PluginId} {L : PluginId → Prop}

theorem guests_eq (guests : Guests Empty Unit) : guests = noGuests :=
  funext fun x => x.elim

theorem perform_idle (n : Nat) (a : Act Empty) (h : Desk) :
    Host.perform Behaviour.idle (n + 1) a h = a.carryOut noGuests h := by
  rw [Behaviour.perform_succ, guests_eq (Behaviour.idle.guests n)]

theorem ongoing_carryOut {a : Act Empty} (chatting : a.Chatting L) :
    Host.Ongoing L id h (a.carryOut noGuests h).2 := by
  rw [← perform_idle 0]
  exact Behaviour.ongoing_perform (fun x _ => x.elim) 1 chatting

theorem safe_course {n : Nat} {a : Act Empty} (safe : a.Safe id h) :
    ∀ m a' h', Behaviour.Course Behaviour.idle n a h m a' h' → a'.Safe id h' := by
  intro m a' h' hc
  cases hc with
  | refl => exact safe
  | @nest _ _ _ _ x => exact x.elim

theorem kept_carryOut {a : Act Empty} (safe : a.Safe id h) {i : Option (Kind → Prop)} (hi : Host.Kept id i h) :
    Host.Kept id i (a.carryOut noGuests h).2 := by
  rw [← perform_idle 0]
  exact Host.Kept.perform (fun x => x.elim) (safe_course safe) i hi

theorem inStep_carryOut {a : Act Empty} {K : Kind → Prop} (safe : a.Safe id h) (hs : h.InStep id K) :
    (a.carryOut noGuests h).2.InStep id K :=
  kept_carryOut (i := some K) safe hs

theorem enable_ok (hw : h.Wired id) (unsaved : (h.plugin id).savesDefault = false) (settings : Settings) :
    ∃ h', h.enable noGuests id (some settings) = (.ok (), h') ∧ h.Steady h' := by
  let k := (h.reload id settings.format).2
  let em : Emission :=
    { bus := (k.plugin id).bus, topic := Host.reloadedTopic, source := Host.reloadedSource
      payload := .ofTemplate (h.reload id settings.format).1 }
  have wired : (em.carryOut noGuests k).2.Wired id := by
    let a : Act Empty := .emit em.bus em.topic em.source em.payload
    have put : Host.Changes (.load id = ·) h k := .load settings.format .refl rfl
    have hk : Host.Kept id none k := hw.tended (.changes put (.inr nofun) (.inr nofun) nofun nofun nofun)
    exact kept_carryOut (a := a) trivial hk
  have ⟨ok, _⟩ := wired.refreshChatMeta
  have provided : h.provideDefault id = (.ok false, h) := by simp [Host.provideDefault, unsaved]
  have announced : h.reloadSettings noGuests id (some settings) =
      (.ok (h.reload id settings.format).1, (em.carryOut noGuests k).2) := rfl
  have put : h.Steady k := .calm (.load settings.format .refl trivial)
  have steady : h.Steady (em.carryOut noGuests k).2 := put.trans (.emission em)
  have refreshed : h.Steady ((em.carryOut noGuests k).2.refreshChatMeta id).2 :=
    steady.trans (.calm (.refreshChatMeta .refl trivial))
  cases hr : (em.carryOut noGuests k).2.refreshChatMeta id with
  | mk outcome k' =>
    rw [hr] at ok refreshed
    cases ok
    simp only [Host.enable, provided, announced, hr]
    have listening : Host.Changes Host.Calm k' ((k'.refreshVerifiers id).listen id) :=
      (Host.Changes.refl.refreshVerifiers trivial).listen trivial fun _ _ _ _ _ => trivial
    exact ⟨_, rfl, refreshed.trans (.calm listening)⟩

def offer (d : DirectoryId) (kind : Kind) (p : Provider) (h : Desk) : Desk :=
  (h.introduce p).2.register noGuests d kind (h.introduce p).1

theorem steady_offer (d : DirectoryId) (kind : Kind) (p : Provider) :
    ((h.introduce p).2.setDirectory d ((h.directory d).register kind ⟨h.fresh⟩)).Steady (offer d kind p h) := by
  let k : Desk := (h.introduce p).2.setDirectory d ((h.directory d).register kind ⟨h.fresh⟩)
  let em : Emission :=
    { bus := (k.directory d).bus, topic := Directory.registered, source := Directory.source
      payload := .ofProvider kind ⟨h.fresh⟩ }
  have noted : k.Steady (k.note (.registered d kind ⟨h.fresh⟩)) := .calm (.note .refl ⟨rfl, rfl⟩)
  exact noted.trans (.emission em)

theorem standing_offer (d : DirectoryId) (kind : Kind) (p : Provider) :
    (offer d kind p h).standing id = (h.standing id).offer d kind p :=
  (steady_offer d kind p).standing id

def Seat.shown (s : Seat) (x : Host.Standing) (template : Template) (body : String) : String :=
  let format := x.bindings.settled x.provider s.player.identity s.player.name template.text
  printed s.plain { ChatMessage.new s.player body with format } ++ "\n"

-- Someone sits at a plugin, and is the only one who chats.
structure Seated (s : Seat) (template : Template) (files : FileTree) (h : Desk) : Prop where
  staffed  : h.Staffed s.bus s.plugin []
  inStep   : h.InStep s.plugin fun _ => True
  template : (h.plugin s.plugin).template = template
  files    : h.files = files

namespace Seated

variable {s : Seat} {template : Template} {files : FileTree}

theorem bindings (hs : Seated s template files h) :
    (h.plugin s.plugin).bindings = (h.standing s.plugin).bindings :=
  hs.inStep.inSync

theorem carryOut {a : Act Empty} (hs : Seated s template files h) (chatting : a.Chatting fun _ => False)
    (safe : a.Safe s.plugin h) (steady : h.Steady (a.carryOut noGuests h).2) :
    Seated s template files (a.carryOut noGuests h).2 where
  staffed  := hs.staffed.ongoing (ongoing_carryOut chatting)
  inStep   := inStep_carryOut safe hs.inStep
  template := by rw [(ongoing_carryOut chatting).template not_false, hs.template]
  files    := steady.files.trans hs.files

theorem say (hs : Seated s template files h) (body : String) :
    ∃ h', say s body h = (s.shown (h.standing s.plugin) template body, h') ∧
      Seated s template files h' ∧ h'.standing s.plugin = h.standing s.plugin := by
  let a : Act Empty := .publish s.bus s.player body
  have steady : h.Steady (a.carryOut noGuests h).2 := .emission (Host.message s.bus s.player body)
  have ⟨h', told⟩ := hs.staffed.publish_alone s.player.identity s.player.name
  have published := told noGuests s.player.displayName body
  rw [hs.bindings, hs.template] at published
  have left : (a.carryOut noGuests h).2 = h' := congrArg Prod.snd published
  rw [left] at steady
  refine ⟨h', ?said, ?seated, steady.standing s.plugin⟩
  case said =>
    simp only [Console.say]
    rw [published]
    rfl
  case seated =>
    rw [← left]
    exact hs.carryOut (a := a) trivial trivial (left ▸ steady)

theorem change (hs : Seated s template files h) (files' : FileTree) :
    Seated s template files' { h with files := files' } where
  staffed  := ⟨hs.staffed.sorted, hs.staffed.roles⟩
  inStep   := hs.inStep.tended (.same rfl rfl rfl rfl (Nat.le_refl _))
  template := hs.template
  files    := rfl

theorem put (s : Seat) (format : Option String) :
    Host.Changes (.load s.plugin = ·) h (h.reload s.plugin format).2 :=
  .load format .refl rfl

theorem reload (hs : Seated s template files h) (format : Option String) :
    Seated s (.compile format) files (h.reload s.plugin format).2 where
  staffed  := hs.staffed.ongoing (.changes (L := (· = s.plugin)) (put s format) (by rintro _ rfl; rfl))
  inStep   := hs.inStep.tended (.changes (put s format) (.inr nofun) (.inr nofun) nofun nofun nofun)
  template := by rw [Host.plugin_reload]
  files    := hs.files

theorem offer (hs : Seated s template files h) (d : DirectoryId) {kind : Kind} {p : Provider}
    (named : kind = .chatMeta → ∃ name, p.name? = .ok name) :
    Seated s template files (offer d kind p h) := by
  let introducing : Act Empty := .introduce p
  let registering : Act Empty := .register d kind ⟨h.fresh⟩
  have introduced : Host.Ongoing (fun _ => False) s.plugin h (h.introduce p).2 :=
    ongoing_carryOut (a := introducing) trivial
  have registered : Host.Ongoing (fun _ => False) s.plugin (h.introduce p).2 (Console.offer d kind p h) :=
    ongoing_carryOut (a := registering) trivial
  have ongoing := introduced.trans registered
  have safe : registering.Safe s.plugin (h.introduce p).2 := by
    cases kind
    case chatMeta =>
      have ⟨name, hn⟩ := named rfl
      exact fun _ => ⟨Nat.lt_succ_self _, name, by rw [Host.provider_introduce, if_pos rfl, hn]⟩
    all_goals trivial
  constructor
  case staffed => exact hs.staffed.ongoing ongoing
  case inStep => exact inStep_carryOut (a := registering) safe (inStep_carryOut (a := introducing) trivial hs.inStep)
  case template => rw [ongoing.template not_false, hs.template]
  case files => rw [(steady_offer d kind p).files, ← hs.files]; rfl

theorem command (hs : Seated s template files h) {settings : Settings} {word : String} (rest : List String)
    (word_eq : word.map Char.toLower = "reload")
    (loaded : (Settings.load files h.environment (h.plugin s.plugin).configPath).1 = .ok settings) :
    ∃ h', h.command noGuests s.plugin (word :: rest) =
        (.ok { handled := true, messages := ["Reloaded successfully."] }, h') ∧
      Seated s (.compile settings.format) files h' ∧ h'.standing s.plugin = h.standing s.plugin := by
  let a : Act Empty := .command s.plugin (word :: rest)
  let k : Desk := ((h.noteAll (Settings.load h.files h.environment (h.plugin s.plugin).configPath).2).reload s.plugin
    settings.format).2
  let em : Emission :=
    { bus := (k.plugin s.plugin).bus, topic := Host.reloadedTopic, source := Host.reloadedSource
      payload := .ofTemplate (.compile settings.format) }
  rw [← hs.files] at loaded
  have settled : h.settle s.plugin none = (.ok (.compile settings.format), k) := by
    simp only [Host.settle, Host.loadSettings, loaded]
    rfl
  have commanded : h.command noGuests s.plugin (word :: rest) =
      (.ok { handled := true, messages := ["Reloaded successfully."] }, (em.carryOut noGuests k).2) := by
    have asked : (word :: rest).head?.any (·.map Char.toLower == "reload") = true := by simp [word_eq]
    simp only [Host.command, asked, if_true, Host.reloadSettings, settled]
    rfl
  have left : (a.carryOut noGuests h).2 = (em.carryOut noGuests k).2 := congrArg Prod.snd commanded
  have plain : ∀ r ∈ (Settings.load h.files h.environment (h.plugin s.plugin).configPath).2, r.Plain :=
    fun r hm => Record.plain_of_warning (Settings.level_of_mem_load _ _ _ r hm)
  have put : h.Steady k := .calm (.load _ (.noteAll .refl plain) trivial)
  have steady : h.Steady (em.carryOut noGuests k).2 := put.trans (.emission em)
  have quiet : Host.reloadedTopic ≠ Host.chatTopic := by decide
  have announced : Host.Ongoing (fun _ => False) s.plugin k (em.carryOut noGuests k).2 :=
    ongoing_carryOut (a := .emit em.bus em.topic em.source em.payload) quiet
  refine ⟨_, commanded, ?seated, steady.standing s.plugin⟩
  constructor
  case staffed =>
    rw [← left]
    exact hs.staffed.ongoing (ongoing_carryOut (L := (· = s.plugin)) (a := a) rfl)
  case inStep =>
    rw [← left]
    exact inStep_carryOut (a := a) trivial hs.inStep
  case template => rw [announced.template not_false, Host.plugin_reload]
  case files => exact steady.files.trans hs.files

theorem offers (hs : Seated s template files h) (d : DirectoryId) {ps : List (Kind × Provider)}
    (named : ∀ x ∈ ps, x.1 = .chatMeta → ∃ name, x.2.name? = .ok name) :
    Seated s template files (ps.foldl (fun h x => Console.offer d x.1 x.2 h) h) := by
  induction ps generalizing h with
  | nil => exact hs
  | cons x ps ih => exact ih (hs.offer d (named x (.head ps))) fun y hy => named y (.tail x hy)

end Seated

theorem standing_offers (d : DirectoryId) (ps : List (Kind × Provider)) :
    (ps.foldl (fun h x => offer d x.1 x.2 h) h).standing id =
      ps.foldl (fun s x => s.offer d x.1 x.2) (h.standing id) := by
  induction ps generalizing h with
  | nil => rfl
  | cons x ps ih => rw [List.foldl_cons, ih, standing_offer, List.foldl_cons]

def metaSource (o : ChatOptions) (identity : Identity) : Provider :=
  .chatMeta "cli" (fun id => .ok (if id = identity then o.prefixText else none))
    fun id => .ok (if id = identity then o.suffixText else none)

def accountSource (verifier : String) (identity : Identity) : Provider :=
  .accounts fun id => .ok (if id = identity then some verifier else none)

def badgeSource (verifier : String) (badge : Option String) : Provider :=
  .verifierPrefixes fun v => .ok (if v = verifier then badge else none)

def offers (o : ChatOptions) (identity : Identity) : List (Kind × Provider) :=
  (if o.prefixText.isNone && o.suffixText.isNone then [] else [(.chatMeta, metaSource o identity)]) ++
    match o.verifier with
    | none          => []
    | some verifier =>
      [(.accounts, accountSource verifier identity), (.verifierPrefixes, badgeSource verifier o.badge)]

theorem register_eq (o : ChatOptions) (identity : Identity) (d : DirectoryId) (h : Desk) :
    registerAccount o identity d (registerMeta o identity d h) =
      (offers o identity).foldl (fun h x => offer d x.1 x.2 h) h := by
  have meta_eq : registerMeta o identity d h =
      if o.prefixText.isNone && o.suffixText.isNone then h
      else offer d .chatMeta (metaSource o identity) h := rfl
  rw [meta_eq, offers, List.foldl_append]
  have account_eq (h : Desk) : registerAccount o identity d h =
      List.foldl (fun h x => offer d x.1 x.2 h) h (match o.verifier with
        | none          => []
        | some verifier =>
          [(Kind.accounts, accountSource verifier identity),
            (Kind.verifierPrefixes, badgeSource verifier o.badge)]) := by
    simp only [registerAccount]
    cases o.verifier <;> rfl
  rw [account_eq]
  split <;> rfl

theorem named_offers (o : ChatOptions) (identity : Identity) :
    ∀ x ∈ offers o identity, x.1 = .chatMeta → ∃ name, x.2.name? = .ok name := by
  intro x hx hk
  cases List.mem_append.mp hx with
  | inl hx =>
    split at hx
    case isTrue => cases hx
    case isFalse =>
      cases List.mem_singleton.mp hx
      exact ⟨"cli", rfl⟩
  | inr hx =>
    split at hx
    case h_1 => cases hx
    case h_2 =>
      simp only [List.mem_cons, List.not_mem_nil, or_false] at hx
      rcases hx with rfl | rfl <;> cases hk

def desk (files : FileTree) (e : Environment) (rs : List Record) : Desk :=
  (Host.new files e ()).noteAll rs

def attached (path : Option String) (h : Desk) : Desk :=
  (h.openBus.2.attach path false (some h.openBus.1) none).2

def seat (o : ChatOptions) : Seat where
  player := .offline o.name o.displayName
  bus    := ⟨0⟩
  plugin := ⟨2⟩
  plain  := o.plain

def furnished (o : ChatOptions) (path : Option String) (e : Environment) : Host.Standing :=
  (offers o (seat o).player.identity).foldl (fun s x => s.offer ⟨1⟩ x.1 x.2)
    ((attached path (desk .bare e [])).standing ⟨2⟩)

variable (files : FileTree) (e : Environment) (rs : List Record) (path : Option String)

theorem offers_source (d : DirectoryId) (ps : List (Kind × Provider)) (x : Host.Standing) :
    (ps.foldl (fun s x => s.offer d x.1 x.2) x).environment = x.environment ∧
      (ps.foldl (fun s x => s.offer d x.1 x.2) x).configPath = x.configPath := by
  induction ps generalizing x with
  | nil => exact ⟨rfl, rfl⟩
  | cons y ps ih => exact ih (x.offer d y.1 y.2)

theorem furnished_source (o : ChatOptions) :
    (furnished o path e).environment = e ∧ (furnished o path e).configPath = path :=
  offers_source ⟨1⟩ (offers o (seat o).player.identity) ((attached path (desk .bare e [])).standing ⟨2⟩)

theorem seated_enable (settings : Settings) (o : ChatOptions) :
    ∃ h, (attached path (desk files e rs)).enable noGuests ⟨2⟩ (some settings) = (.ok (), h) ∧
      Seated (seat o) (.compile settings.format) files h ∧ (attached path (desk files e rs)).Steady h := by
  have wired : (attached path (desk files e rs)).Wired ⟨2⟩ :=
    Host.wired_attach (h := (desk files e rs).openBus.2) path false ⟨0⟩
  have ⟨h, enabled, steady⟩ := enable_ok wired rfl settings
  have performed : Host.perform Behaviour.idle 1 (.enable ⟨2⟩ (some settings)) (attached path (desk files e rs)) =
      (.ok (), h) := by
    rw [perform_idle]
    exact enabled
  have ok := congrArg Prod.fst performed
  have result := congrArg Prod.snd performed
  dsimp only at ok result
  refine ⟨h, enabled, ?seated, steady⟩
  rw [← result]
  constructor
  case staffed => exact Host.staffed_of_vacant (fun _ => .nil) rfl rfl (fun x _ => x.elim) ok
  case inStep => exact wired.enable (fun x => x.elim) (safe_course trivial) ok
  case template => exact Host.template_of_enabled (fun x _ => x.elim) ok rfl
  case files =>
    rw [result]
    exact steady.files

-- Whoever sits down has the format of the options or, without one, that of the settings. Where the plugin
-- stands depends on neither.
theorem sitDown_seated (o : ChatOptions) (settings : Settings) :
    ∃ h, sitDown o path settings (desk files e rs) = (.ok (seat o), h) ∧
      Seated (seat o) (.compile (o.format <|> settings.format)) files h ∧
      h.standing ⟨2⟩ = furnished o path e := by
  have ⟨h, enabled, seated, steady⟩ := seated_enable files e rs path settings o
  let h' : Desk := o.format.elim h fun format => (h.reload ⟨2⟩ (some format)).2
  have chosen : Seated (seat o) (.compile (o.format <|> settings.format)) files h' ∧
      h'.standing ⟨2⟩ = h.standing ⟨2⟩ := by
    simp only [h']
    cases o.format with
    | none        => exact ⟨seated, rfl⟩
    | some format => exact ⟨seated.reload (some format), (Host.Steady.calm (.load _ .refl trivial)).standing ⟨2⟩⟩
  have sat : sitDown o path settings (desk files e rs) =
      (.ok (seat o), (offers o (seat o).player.identity).foldl (fun h x => offer ⟨1⟩ x.1 x.2 h) h') := by
    rw [← register_eq]
    simp only [sitDown]
    split
    case h_1 he => cases enabled.symm.trans he
    case h_2 he =>
      cases enabled.symm.trans he
      simp only [h']
      cases o.format <;> rfl
  refine ⟨_, sat, chosen.left.offers ⟨1⟩ (named_offers o _), ?_⟩
  rw [standing_offers, chosen.right, steady.standing]
  rfl

end Console
end Chatline
