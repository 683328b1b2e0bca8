import Chatline.Proofs.Format.Compiled
import Chatline.Proofs.Format.Shown

namespace Chatline

open Text (Cut Legible)

structure Errand where
  place    : Placeholder
  question : Asked

namespace Errand

variable (providers : ProviderId → Provider)

def reply (e : Errand) : Reply :=
  (providers e.question.provider).answer e.question.request

def conduct {α : Type} : List Errand → α → Inquiry Asked α
  | [],       a => pure a
  | e :: due, a => do
    let _ ← Inquiry.ask e.question (e.reply providers)
    conduct due a

def run : List Errand → List Errand
  | []       => []
  | e :: due =>
    match e.reply providers with
    | .ok _    => e :: run due
    | .error _ => [e]

variable {providers} {α β : Type} {e : Errand} {due due' agenda before after : List Errand} {a : α} {b : β}
  {answer : Option String} {f : Failure}

theorem conduct_cons_ok (h : e.reply providers = .ok answer) (due : List Errand) (a : α) :
    conduct providers (e :: due) a =
      ⟨e.question :: (conduct providers due a).asked, (conduct providers due a).outcome⟩ :=
  Inquiry.bind_ok h _

theorem conduct_cons_error (h : e.reply providers = .error f) (due : List Errand) (a : α) :
    conduct providers (e :: due) a = ⟨[e.question], .error f⟩ :=
  Inquiry.bind_error h _

theorem conduct_append {k : α → Inquiry Asked β} (h : k a = conduct providers due' b) :
    conduct providers due a >>= k = conduct providers (due ++ due') b := by
  induction due with
  | nil => rw [conduct, Inquiry.pure_bind, h, List.nil_append]
  | cons e due ih =>
    rw [conduct, Inquiry.bind_assoc, List.cons_append, conduct]
    simp only [ih]

theorem bind_conduct {i : Inquiry Asked α} {k : α → Inquiry Asked β} (hi : i = conduct providers due a)
    (hk : k a = conduct providers due' b) : i >>= k = conduct providers (due ++ due') b := by
  rw [hi, conduct_append hk]

theorem bind_conduct_pure {i : Inquiry Asked α} {k : α → Inquiry Asked β} (hi : i = conduct providers due a)
    (hk : k a = pure b) : i >>= k = conduct providers due b := by
  have joined : i >>= k = conduct providers (due ++ []) b := bind_conduct hi hk
  rwa [List.append_nil] at joined

theorem run_cons_ok (h : e.reply providers = .ok answer) (due : List Errand) :
    run providers (e :: due) = e :: run providers due := by
  rw [run, h]

theorem run_cons_error (h : e.reply providers = .error f) (due : List Errand) :
    run providers (e :: due) = [e] := by
  rw [run, h]

theorem conduct_asked (due : List Errand) (a : α) :
    (conduct providers due a).asked = (run providers due).map question := by
  induction due with
  | nil => rfl
  | cons e due ih =>
    cases h : e.reply providers with
    | ok answer => rw [conduct_cons_ok h, run_cons_ok h, List.map_cons, ih]
    | error f   => rw [conduct_cons_error h, run_cons_error h, List.map_singleton]

theorem prefix_run (due : List Errand) : run providers due <+: due := by
  induction due with
  | nil => exact List.prefix_rfl
  | cons e due ih =>
    cases h : e.reply providers with
    | ok answer =>
      rw [run_cons_ok h]
      exact List.cons_prefix_cons.mpr ⟨rfl, ih⟩
    | error f =>
      rw [run_cons_error h]
      exact ⟨due, rfl⟩

theorem failed (he : e ∈ run providers due) (hf : e.reply providers = .error f) (a : α) :
    (run providers due).getLast? = some e ∧ (conduct providers due a).outcome = .error f := by
  induction due with
  | nil => cases he
  | cons d due ih =>
    cases h : d.reply providers with
    | error g =>
      rw [run_cons_error h, List.mem_singleton] at he
      subst he
      cases h.symm.trans hf
      rw [run_cons_error h, conduct_cons_error h]
      exact ⟨rfl, rfl⟩
    | ok answer =>
      rw [run_cons_ok h] at he ⊢
      have he : e ∈ run providers due := by
        cases he with
        | head      => cases h.symm.trans hf
        | tail _ he => exact he
      have ⟨last, outcome⟩ := ih he
      rw [conduct_cons_ok h, List.getLast?_cons, last]
      exact ⟨rfl, outcome⟩

theorem answered (h : ∀ e ∈ run providers due, ∃ answer, e.reply providers = .ok answer) (a : α) :
    (conduct providers due a).outcome = .ok a := by
  induction due with
  | nil => rfl
  | cons e due ih =>
    cases he : e.reply providers with
    | ok answer =>
      rw [run_cons_ok he] at h
      rw [conduct_cons_ok he]
      exact ih fun d hd => h d (.tail e hd)
    | error f =>
      rw [run_cons_error he] at h
      have ⟨answer, ha⟩ := h e (.head [])
      cases he.symm.trans ha

theorem mem_run (h : ∀ d ∈ before, d ∈ run providers (before ++ e :: after) →
    ∃ answer, d.reply providers = .ok answer) : e ∈ run providers (before ++ e :: after) := by
  induction before with
  | nil =>
    rw [List.nil_append, run]
    split <;> exact .head _
  | cons d before ih =>
    rw [List.cons_append] at h ⊢
    have first : d ∈ run providers (d :: (before ++ e :: after)) := by
      rw [run]
      split <;> exact .head _
    have ⟨answer, ha⟩ := h d (.head before) first
    rw [run_cons_ok ha] at h ⊢
    exact .tail d (ih fun c hc hr => h c (.tail d hc) (.tail d hr))

theorem mem_run_filter {due : Errand → Bool} (ha : agenda = before ++ e :: after)
    (h : ∀ d ∈ before, d ∈ run providers (agenda.filter due) → ∃ answer, d.reply providers = .ok answer) :
    e ∈ run providers (agenda.filter due) ↔ due e = true := by
  constructor
  case mp => exact fun he => (List.mem_filter.mp ((prefix_run _).subset he)).right
  case mpr =>
    intro he
    have split : agenda.filter due = before.filter due ++ e :: after.filter due := by
      rw [ha, List.filter_append, List.filter_cons_of_pos he]
    rw [split] at h ⊢
    exact mem_run fun d hd => h d (List.mem_filter.mp hd).left

end Errand

namespace Placeholder

variable {providers : ProviderId → Provider} {p : Placeholder} {supply : Inquiry Asked (Option String)}
  {due : List Errand} {value : Option String}

def put (p : Placeholder) (value : Option String) (text : String) : String :=
  value.elim text (p.replace · text)

theorem fill_conduct (h : supply = Errand.conduct providers due value) (text : String) :
    p.fill supply text =
      Errand.conduct providers (if p.occursIn text then due else []) (p.put value text) := by
  simp only [fill]
  split
  case isTrue =>
    apply Errand.bind_conduct_pure h
    cases value <;> rfl
  case isFalse hp =>
    have stays : p.put value text = text := by
      cases value with
      | none   => rfl
      | some v => exact replace_of_not_occursIn (Bool.eq_false_iff.mpr hp) v
    rw [stays, Errand.conduct]

end Placeholder

-- Where the placeholders of a message are looked up. A badge is that of the verifier of a linked account.
structure Sources where
  prefixes : Option ProviderId
  suffixes : Option ProviderId
  badges   : Option (ProviderId × ProviderId)

namespace Sources

variable (src : Sources) (providers : ProviderId → Provider) (identity : Identity)

def context (name body : String) : Context Asked where
  identity
  name
  body
  prefixLookup := src.prefixes.map fun p identity => Bindings.ask providers p (.playerPrefix identity)
  suffixLookup := src.suffixes.map fun p identity => Bindings.ask providers p (.playerSuffix identity)
  badgeLookup  := src.badges.map fun (accounts, registry) => Bindings.badge providers accounts registry

def verifier (accounts : ProviderId) : Option String :=
  (providers accounts).told (.account identity)

def questions : Placeholder → List Asked
  | .prefixText    => src.prefixes.toList.map fun p => ⟨p, .playerPrefix identity⟩
  | .suffixText    => src.suffixes.toList.map fun p => ⟨p, .playerSuffix identity⟩
  | .verifierBadge => src.badges.toList.flatMap fun (accounts, registry) =>
    ⟨accounts, .account identity⟩ ::
      (verifier providers identity accounts).toList.map fun v => ⟨registry, .badge v⟩
  | _              => []

def errands (p : Placeholder) : List Errand :=
  (src.questions providers identity p).map (.mk p)

def agenda : List Errand :=
  src.errands providers identity .prefixText ++ src.errands providers identity .suffixText ++
    src.errands providers identity .verifierBadge

def shown : Placeholder → Option String
  | .prefixText    => src.prefixes.map fun p =>
    Color.colorizeValue ((providers p).told (.playerPrefix identity))
  | .suffixText    => src.suffixes.map fun p =>
    Color.colorizeValue ((providers p).told (.playerSuffix identity))
  | .verifierBadge => src.badges.bind fun (accounts, registry) =>
    Context.badgeText ((verifier providers identity accounts).bind fun v => (providers registry).told (.badge v))
  | _              => none

def enter (p : Placeholder) (text : String) : String :=
  p.put (src.shown providers identity p) text

-- The format when it is the turn of a placeholder: what has been looked up before has been put in.
def textAt (format : String) : Placeholder → String
  | .prefixText    => format
  | .suffixText    => src.enter providers identity .prefixText format
  | .verifierBadge =>
    src.enter providers identity .suffixText (src.enter providers identity .prefixText format)
  | _              =>
    src.enter providers identity .verifierBadge
      (src.enter providers identity .suffixText (src.enter providers identity .prefixText format))

def due (format : String) (e : Errand) : Bool :=
  e.place.occursIn (src.textAt providers identity format e.place)

variable {src providers identity}

theorem ask_conduct (p : Placeholder) (q : ProviderId) (r : Request) :
    Bindings.ask providers q r = Errand.conduct providers [⟨p, q, r⟩] ((providers q).told r) := by
  have asked : Errand.reply providers ⟨p, q, r⟩ = (providers q).answer r := rfl
  cases h : (providers q).answer r with
  | ok answer =>
    rw [Errand.conduct_cons_ok (asked.trans h), Bindings.told_of_answer h, Bindings.ask, h]
    rfl
  | error f =>
    rw [Errand.conduct_cons_error (asked.trans h), Bindings.ask, h]
    rfl

theorem badge_conduct (accounts registry : ProviderId) :
    Bindings.badge providers accounts registry identity =
      Errand.conduct providers
        (⟨.verifierBadge, accounts, .account identity⟩ ::
          (verifier providers identity accounts).toList.map fun v => ⟨.verifierBadge, registry, .badge v⟩)
        ((verifier providers identity accounts).bind fun v => (providers registry).told (.badge v)) := by
  apply Errand.bind_conduct (ask_conduct .verifierBadge accounts (.account identity))
  rw [← verifier]
  cases verifier providers identity accounts with
  | none   => rfl
  | some v => exact ask_conduct .verifierBadge registry (.badge v)

theorem context_eq (b : Bindings) (m : ChatMessage) :
    b.context providers m =
      (⟨b.chatMeta, b.chatMeta, do return (← b.accounts, ← b.verifierPrefixes)⟩ : Sources).context providers
        m.player.identity m.player.name m.body := by
  have badges : (b.context providers m).badgeLookup =
      (do return (← b.accounts, ← b.verifierPrefixes) : Option (ProviderId × ProviderId)).map
        fun (accounts, registry) => Bindings.badge providers accounts registry := by
    cases ha : b.accounts <;> cases hr : b.verifierPrefixes <;> simp [Bindings.context, ha, hr]
  simp only [context, ← badges]
  rfl

variable {ctx : Context Asked} {name body : String}

theorem fillWith_conduct {p : Placeholder} {lookup : Option (Lookup Asked)}
    {display : Option String → Option String}
    (absent : lookup = none →
      src.errands providers ctx.identity p = [] ∧ src.shown providers ctx.identity p = none)
    (available : ∀ l, lookup = some l → ∃ answer,
      l ctx.identity = Errand.conduct providers (src.errands providers ctx.identity p) answer ∧
        src.shown providers ctx.identity p = display answer) (text : String) :
    ctx.fillWith p lookup display text =
      Errand.conduct providers (if p.occursIn text then src.errands providers ctx.identity p else [])
        (src.enter providers ctx.identity p text) := by
  cases lookup with
  | none =>
    have ⟨he, hs⟩ := absent rfl
    rw [Context.fillWith_none, enter, he, hs, ite_self]
    rfl
  | some l =>
    have ⟨answer, hl, hs⟩ := available l rfl
    have supply : (do return display (← l ctx.identity) : Inquiry Asked (Option String)) =
        Errand.conduct providers (src.errands providers ctx.identity p) (display answer) :=
      Errand.bind_conduct_pure hl rfl
    rw [enter, hs]
    exact Placeholder.fill_conduct supply text

theorem fillWith_ask {p : Placeholder} {source : Option ProviderId} {r : Identity → Request}
    (hq : src.questions providers ctx.identity p = source.toList.map fun q => ⟨q, r ctx.identity⟩)
    (hs : src.shown providers ctx.identity p =
      source.map fun q => Color.colorizeValue ((providers q).told (r ctx.identity))) (text : String) :
    ctx.fillWith p (source.map fun q identity => Bindings.ask providers q (r identity))
        (some <| Color.colorizeValue ·) text =
      Errand.conduct providers (if p.occursIn text then src.errands providers ctx.identity p else [])
        (src.enter providers ctx.identity p text) := by
  apply fillWith_conduct
  case absent =>
    intro hl
    rw [errands, hq, hs, Option.map_eq_none_iff.mp hl]
    exact ⟨rfl, rfl⟩
  case available =>
    intro l hl
    have ⟨q, hsome, hl⟩ := Option.map_eq_some_iff.mp hl
    subst hl
    rw [errands, hq, hs, hsome]
    exact ⟨_, ask_conduct p q _, rfl⟩

theorem fillWith_badge (text : String) :
    (src.context providers identity name body).fillWith .verifierBadge
        (src.context providers identity name body).badgeLookup Context.badgeText text =
      Errand.conduct providers
        (if Placeholder.verifierBadge.occursIn text then src.errands providers identity .verifierBadge else [])
        (src.enter providers identity .verifierBadge text) := by
  apply fillWith_conduct
  case absent =>
    intro hl
    rw [errands, questions, shown, Option.map_eq_none_iff.mp hl]
    exact ⟨rfl, rfl⟩
  case available =>
    intro l hl
    have ⟨(accounts, registry), hsome, hl⟩ := Option.map_eq_some_iff.mp hl
    subst hl
    rw [errands, questions, shown, hsome, Option.toList_some, List.flatMap_singleton, List.map_cons, List.map_map]
    exact ⟨_, badge_conduct accounts registry, rfl⟩

theorem filter_errands (format : String) (p : Placeholder) :
    (src.errands providers identity p).filter (src.due providers identity format) =
      if p.occursIn (src.textAt providers identity format p) then src.errands providers identity p else [] := by
  have place : ∀ e ∈ src.errands providers identity p,
      src.due providers identity format e = p.occursIn (src.textAt providers identity format p) := by
    intro e he
    have ⟨q, _, he⟩ := List.mem_map.mp he
    rw [← he, due]
  rw [List.filter_congr place]
  split
  case isTrue hp => simp [hp]
  case isFalse hp => simp [hp]

theorem resolve_conduct (format : String) :
    (src.context providers identity name body).resolve format =
      Errand.conduct providers
        ((src.agenda providers identity).filter (src.due providers identity format))
        (Placeholder.name.replace name (src.textAt providers identity format .name)) := by
  have named (text : String) : Placeholder.name.fill (pure (some name) : Inquiry Asked (Option String)) text =
      pure (Placeholder.name.replace name text) := by
    have nothing : (pure (some name) : Inquiry Asked (Option String)) =
      Errand.conduct providers [] (some name) := rfl
    rw [Placeholder.fill_conduct nothing, ite_self]
    rfl
  rw [agenda, List.filter_append, List.filter_append, filter_errands, filter_errands, filter_errands,
    List.append_assoc]
  apply Errand.bind_conduct (fillWith_ask rfl rfl format)
  apply Errand.bind_conduct (fillWith_ask rfl rfl _)
  exact Errand.bind_conduct_pure (fillWith_badge _) (named _)

def topics : List String :=
  ["prefix", "suffix", "account", "verifier"]

theorem agenda_sublist :
    ((src.agenda providers identity).map (·.question.request.title)).Sublist topics := by
  have asked (p : Placeholder) : (src.errands providers identity p).map (·.question.request.title) =
      (src.questions providers identity p).map (·.request.title) := by
    rw [errands, List.map_map]
    rfl
  have first : ((src.questions providers identity .prefixText).map (·.request.title)).Sublist ["prefix"] := by
    cases h : src.prefixes <;> simp [questions, h, Request.title]
  have second : ((src.questions providers identity .suffixText).map (·.request.title)).Sublist ["suffix"] := by
    cases h : src.suffixes <;> simp [questions, h, Request.title]
  have third : ((src.questions providers identity .verifierBadge).map (·.request.title)).Sublist
      ["account", "verifier"] := by
    cases h : src.badges with
    | none        => simp [questions, h]
    | some badges => cases hv : verifier providers identity badges.1 <;> simp [questions, h, hv, Request.title]
  rw [agenda, List.map_append, List.map_append, asked, asked, asked]
  exact (first.append second).append third

-- Lookups are made in order, each at most once: those that are available and whose placeholders occur in the
-- text when it is their turn, until one of them fails. None of this depends on the name, which takes the place of
-- what occurrences of its placeholder are left by then, and is not looked into.
theorem lookups_in_turn (src : Sources) (providers : ProviderId → Provider) (identity : Identity)
    (format : String) :
    ∃ made : List Errand,
      made.Sublist (src.agenda providers identity) ∧
      (made.map (·.question.request.title)).Sublist topics ∧ (made.map Errand.question).Nodup ∧
      (∀ before e after, src.agenda providers identity = before ++ e :: after →
        (∀ d ∈ before, d ∈ made → ∃ answer, d.reply providers = .ok answer) →
        (e ∈ made ↔ e.place.occursIn (src.textAt providers identity format e.place) = true)) ∧
      ∃ c : Cut Unit, c.Of (fun _ => Placeholder.name.spelled)
          (src.textAt providers identity format .name).toList ∧
        ∀ name body,
          ((src.context providers identity name body).resolve format).asked = made.map Errand.question ∧
          (∀ e ∈ made, ∀ f, e.reply providers = .error f → made.getLast? = some e ∧
            ((src.context providers identity name body).resolve format).outcome = .error f) ∧
          ((∀ e ∈ made, ∃ answer, e.reply providers = .ok answer) →
            ((src.context providers identity name body).resolve format).outcome =
              .ok (.ofList (c.write (fun _ => name.toList) id))) := by
  have kept : (Errand.run providers ((src.agenda providers identity).filter
      (src.due providers identity format))).Sublist (src.agenda providers identity) :=
    (Errand.prefix_run _).sublist.trans List.filter_sublist
  have titled := (kept.map (·.question.request.title)).trans agenda_sublist
  have legible : Legible fun _ : Unit => Placeholder.name.spelled := Placeholder.legible.comp fun _ _ _ => rfl
  have ⟨c, hc⟩ := legible.exists_cut (src.textAt providers identity format .name).toList
  have written (name : String) : Placeholder.name.replace name (src.textAt providers identity format .name) =
      .ofList (c.write (fun _ => name.toList) id) := by
    have opens (_ : Unit) : ∃ a v, Placeholder.name.spelled = a :: v ∧ a ∉ Placeholder.name.spelled.tail :=
      Placeholder.opens_spelled _ _
    rw [Placeholder.replace, ← hc.text]
    exact congrArg String.ofList <|
      Cut.replace_write (fun _ _ => Placeholder.replace_self) opens fun u hu => hc.clean u hu ()
  refine ⟨_, kept, titled, ?_, ?_, c, hc, fun name body => ?_⟩
  case refine_1 =>
    have distinct : topics.Nodup := by decide
    have apart : (((Errand.run providers ((src.agenda providers identity).filter
        (src.due providers identity format))).map Errand.question).map (·.request.title)).Nodup := by
      rw [List.map_map]
      exact distinct.sublist titled
    exact List.Pairwise.of_map _ (fun q r hr he => hr (congrArg (fun q => q.request.title) he)) apart
  case refine_2 => exact fun before e after ha hd => Errand.mem_run_filter ha hd
  case refine_3 =>
    rw [resolve_conduct, written]
    exact ⟨Errand.conduct_asked _ _, fun e he f hf => Errand.failed he hf _, fun h => Errand.answered h _⟩

example :
    let providers : ProviderId → Provider := fun _ =>
      .chatMeta "" (fun _ => .ok (some "[\x7bsuffix\x7d]")) (fun _ => .ok (some "\x7bprefix\x7d\x7bname\x7d"))
    let src : Sources := ⟨some ⟨0⟩, some ⟨1⟩, none⟩
    let resolved := (src.context providers ⟨1⟩ "\x7bprefix\x7d" "").resolve "\x7bprefix\x7d"
    resolved.asked = [⟨⟨0⟩, .playerPrefix ⟨1⟩⟩, ⟨⟨1⟩, .playerSuffix ⟨1⟩⟩] ∧
      resolved.outcome.toOption = some "[\x7bprefix\x7d\x7bprefix\x7d]" := by
  decide +kernel

end Sources
end Chatline
