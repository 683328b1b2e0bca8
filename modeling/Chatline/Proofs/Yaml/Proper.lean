import Chatline.Yaml.Builder

namespace Chatline.Yaml

def Value.Proper (v : Value) : Prop :=
  ∀ m, v ≠ .single (.map m)

def Collection.Proper (c : Collection) : Prop :=
  ∀ es, c = .map es → ∀ e ∈ es, e.2.Proper

structure Work.Proper (w : Work) : Prop where
  values      : ∀ n v, w.values.get? n = some v → v.Proper
  collections : ∀ c ∈ w.collections, c.Proper

namespace Collection

theorem proper_insertEntry {es : List (Value × Value)} (h : ∀ e ∈ es, e.2.Proper) {v : Value} (proper : v.Proper)
    (k : Value) : ∀ e ∈ insertEntry es k v, e.2.Proper := by
  induction es with
  | nil =>
    intro e mem
    rw [List.mem_singleton.mp mem]
    exact proper
  | cons e es ih =>
    have ⟨first, later⟩ := List.forall_mem_cons.mp h
    rw [insertEntry]
    split
    case isTrue  => exact List.forall_mem_cons.mpr ⟨proper, later⟩
    case isFalse => exact List.forall_mem_cons.mpr ⟨first, ih later⟩

theorem proper_of_not_map {c : Collection} (h : ∀ es, c ≠ .map es) : c.Proper :=
  fun es isMap => absurd isMap (h es)

theorem proper_ofMembers (members : List Value) : (ofMembers members).Proper := by
  rw [ofMembers]
  split <;> exact proper_of_not_map nofun

end Collection

namespace Builder

variable {α β : Type} {x : Builder α} {f : α → Builder β} {P : α → Prop} {Q : β → Prop}

-- A piece of work that yields something of a kind, and after which all that there is so far is proper if it was before.
def Yields (x : Builder α) (P : α → Prop) : Prop :=
  ∀ w a w', w.Proper → x w = .ok (a, w') → w'.Proper ∧ P a

namespace Yields

theorem pure {a : α} (h : P a) : Yields (pure a) P := by
  intro w a' w' proper run
  cases run
  exact ⟨proper, h⟩

theorem bind (hx : Yields x P) (hf : ∀ a, P a → Yields (f a) Q) : Yields (x >>= f) Q := by
  intro w b w'' proper run
  cases first : x w with
  | error fault =>
    simp only [Bind.bind, StateT.bind, first, Except.bind] at run
    cases run
  | ok result =>
    have ⟨a, w'⟩ := result
    have ⟨proper', ha⟩ := hx w a w' proper first
    simp only [Bind.bind, StateT.bind, first, Except.bind] at run
    exact hf a ha w' b w'' proper' run

theorem throw (e : Fault) : Yields (throw e : Builder α) P :=
  fun _ _ _ _ run => nomatch run

theorem lift (r : Except Fault α) : Yields (liftM r) fun _ => True := by
  intro w a w' proper run
  cases r with
  | error fault => cases run
  | ok a        =>
    cases run
    exact ⟨proper, trivial⟩

theorem get : Yields get Work.Proper := by
  intro w a w' proper run
  cases run
  exact ⟨proper, proper⟩

theorem modify {change : Work → Work} (h : ∀ w : Work, w.Proper → (change w).Proper) :
    Yields (modify change) fun _ => True := by
  intro w a w' proper run
  cases run
  exact ⟨h w proper, trivial⟩

theorem mapM {γ : Type} {g : γ → Builder α} (h : ∀ c, Yields (g c) P) (cs : List γ) :
    Yields (cs.mapM g) fun _ => True := by
  induction cs with
  | nil =>
    rw [List.mapM_nil]
    exact pure trivial
  | cons c cs ih =>
    rw [List.mapM_cons]
    exact (h c).bind fun _ _ => ih.bind fun _ _ => pure trivial

theorem foldlM {γ : Type} {g : α → γ → Builder α} (h : ∀ a c, P a → Yields (g a c) P) (cs : List γ) {a : α}
    (start : P a) : Yields (cs.foldlM g a) P := by
  induction cs generalizing a with
  | nil =>
    rw [List.foldlM_nil]
    exact pure start
  | cons c cs ih =>
    rw [List.foldlM_cons]
    exact (h a c start).bind fun _ ha => ih ha

end Yields

theorem attempt_yields (r : Except Failure α) : Yields (attempt r) fun _ => True := by
  cases r with
  | ok a    => exact .pure trivial
  | error e => exact .throw _

theorem onGraph_yields (change : Graph.Change α) : Yields (onGraph change) fun _ => True := by
  refine Yields.get.bind fun w _ => (Yields.lift (change.run w.graph)).bind fun (a, graph) _ => ?_
  refine (Yields.modify fun w' proper => ?_).bind fun _ _ => .pure trivial
  exact ⟨proper.values, proper.collections⟩

theorem node_yields (n : NodeId) : Yields (node n) fun _ => True :=
  Yields.get.bind fun _ _ => .pure trivial

theorem text_yields (n : NodeId) : Yields (text n) fun _ => True := by
  refine Yields.get.bind fun w _ => ?_
  cases w.graph.scalarText n with
  | ok s    => exact .pure trivial
  | error e => exact .throw e

theorem openCollection_yields (n : NodeId) {blank : Collection} (h : blank.Proper) :
    Yields (openCollection n blank) Value.Proper := by
  refine Yields.get.bind fun _ _ => (Yields.modify fun w proper => ?_).bind fun _ _ => .pure nofun
  refine ⟨proper.values, fun c mem => ?_⟩
  cases Array.mem_push.mp mem with
  | inl old => exact proper.collections c old
  | inr new => exact new ▸ h

theorem float_yields (n : NodeId) : Yields (float n) Value.Proper := by
  refine (text_yields n).bind fun s _ => (attempt_yields _).bind fun f _ => ?_
  split
  case h_1 => split <;> exact .pure nofun
  case h_2 => exact .pure nofun

theorem proper_timestamp {s : List Text.CodePoint} {d : Datum} (h : Meaning.timestamp s = .ok d) :
    (Value.single d).Proper := by
  intro m same
  cases same
  rw [Meaning.timestamp] at h
  split at h
  case h_1     => cases h
  case h_2 t _ =>
    split at h
    case h_1 =>
      cases hd : Date.of t.year t.month t.day <;>
        · rw [hd] at h
          cases h
    case h_2 hour minute second _ =>
      cases ho : (t.zone.map (60 * ·)).mapM Moment.checkOffset with
      | error f   =>
        rw [ho] at h
        cases h
      | ok offset =>
        cases hd : Date.of t.year t.month t.day with
        | error f =>
          rw [ho, hd] at h
          cases h
        | ok date =>
          cases hm : Moment.of date hour minute second (Meaning.microseconds t.fraction) offset <;>
            · simp only [ho, hd, bind, Except.bind, hm] at h
              cases h

theorem timestamp_yields (n : NodeId) : Yields (timestamp n) Value.Proper := by
  refine (text_yields n).bind fun s _ => (node_yields n).bind fun _ _ => ?_
  split
  case h_1 =>
    cases ht : Meaning.timestamp s with
    | error f => exact .throw _
    | ok d    => exact .pure (proper_timestamp ht)
  case h_2 => exact .throw _

theorem binary_yields (n : NodeId) : Yields (binary n) Value.Proper := by
  refine (text_yields n).bind fun s _ => ?_
  rw [Meaning.binary]
  split
  case h_1 d hd =>
    split at hd
    case h_1 => cases hd; exact .pure nofun
    case h_2 => cases hd
  case h_2 => exact .throw _

theorem build_yields (n : NodeId) : Yields (build n) Value.Proper := by
  refine (node_yields n).bind fun node _ => ?_
  split
  case h_1  => exact openCollection_yields n (Collection.proper_of_not_map nofun)
  case h_2  => exact openCollection_yields n fun es isMap => by cases isMap; exact nofun
  case h_3  => exact openCollection_yields n (Collection.proper_of_not_map nofun)
  case h_4  => exact openCollection_yields n (Collection.proper_of_not_map nofun)
  case h_5  => exact openCollection_yields n (Collection.proper_of_not_map nofun)
  case h_6  => exact (text_yields n).bind fun _ _ => .pure nofun
  case h_7  => exact (text_yields n).bind fun s _ => (attempt_yields _).bind fun _ _ => .pure nofun
  case h_8  => exact (text_yields n).bind fun s _ => (attempt_yields _).bind fun _ _ => .pure nofun
  case h_9  => exact float_yields n
  case h_10 => exact timestamp_yields n
  case h_11 => exact binary_yields n
  case h_12 => exact (text_yields n).bind fun _ _ => .pure nofun
  case h_13 => exact .throw _

theorem value_yields (n : NodeId) : Yields (value n) Value.Proper := by
  refine Yields.get.bind fun w proper => ?_
  split
  case h_1 v known => exact .pure (proper.values n v known)
  case h_2         =>
    refine (build_yields n).bind fun v hv => (Yields.modify fun w proper => ?_).bind fun _ _ => .pure hv
    refine ⟨fun n' v' known => ?_, proper.collections⟩
    rw [Table.get?_set] at known
    split at known
    case isTrue  =>
      cases known
      exact hv
    case isFalse => exact proper.values n' v' known

theorem mapEntries_yields (n : NodeId) : Yields (mapEntries n) fun es => ∀ e ∈ es, e.2.Proper := by
  refine (onGraph_yields _).bind fun _ _ => (onGraph_yields _).bind fun es _ => ?_
  refine .foldlM (fun entries (k, v) proper => ?_) es nofun
  refine (value_yields k).bind fun k _ => ?_
  split
  case isTrue  => exact (Yields.throw _).bind fun _ (nothing : False) => nothing.elim
  case isFalse => exact (value_yields v).bind fun v hv => .pure (Collection.proper_insertEntry proper hv k)

theorem fillList_yields (n : NodeId) : Yields (fillList n) Collection.Proper := by
  refine (node_yields n).bind fun node _ => ?_
  split
  case h_1 items _ =>
    exact (Yields.mapM value_yields items).bind fun _ _ => .pure (Collection.proper_of_not_map nofun)
  case h_2         => exact .throw _

theorem fillPairs_yields (n : NodeId) : Yields (fillPairs n) Collection.Proper := by
  refine (node_yields n).bind fun node _ => ?_
  split
  case h_1 items _ =>
    refine Yields.bind (.mapM (P := fun _ => True) (fun item => ?_) items) fun _ _ =>
      .pure (Collection.proper_of_not_map nofun)
    refine (node_yields item).bind fun node _ => ?_
    split
    case h_1 k v _ => exact (value_yields k).bind fun _ _ => (value_yields v).bind fun _ _ => .pure trivial
    case h_2       => exact .throw _
  case h_2         => exact .throw _

theorem fill_yields (n : NodeId) : Yields (fill n) Collection.Proper := by
  refine (node_yields n).bind fun node _ => ?_
  split
  case h_1 => exact fillList_yields n
  case h_2 =>
    refine (mapEntries_yields n).bind fun es proper => .pure fun es' isMap => ?_
    cases isMap
    exact proper
  case h_3 => exact (mapEntries_yields n).bind fun es _ => .pure (Collection.proper_ofMembers _)
  case h_4 => exact fillPairs_yields n

theorem fillAll_yields (fuel : Nat) : Yields (fillAll fuel) fun _ => True := by
  induction fuel with
  | zero         => exact .pure trivial
  | succ fuel ih =>
    refine Yields.get.bind fun w _ => ?_
    split
    case h_1               => exact .pure trivial
    case h_2 n c waiting _ =>
      have emptied := Yields.modify fun (w : Work) (proper : w.Proper) =>
        (⟨proper.values, proper.collections⟩ : Work.Proper { w with waiting })
      refine emptied.bind fun _ _ => (fill_yields n).bind fun filled hf => ?_
      refine (Yields.modify fun w proper => ?_).bind fun _ _ => ih
      refine ⟨proper.values, fun c' mem => ?_⟩
      cases Array.mem_or_eq_of_mem_setIfInBounds mem with
      | inl old => exact proper.collections c' old
      | inr new => exact new ▸ hf

theorem document_yields (root : NodeId) : Yields (document root) fun doc => ∀ c ∈ doc.collections, c.Proper :=
  (value_yields root).bind fun _ _ => Yields.get.bind fun _ _ => (fillAll_yields _).bind fun _ _ =>
    Yields.get.bind fun _ proper => .pure proper.collections

end Builder

theorem read_collections {r : Text.Reading} {doc : Document} (h : read r = .ok doc) :
    ∀ c ∈ doc.collections, c.Proper := by
  rw [read] at h
  cases hs : Source.ofReading r with
  | error fault =>
    rw [hs] at h
    cases h
  | ok source   =>
    cases hg : Graph.ofSource? source with
    | error fault  =>
      simp only [hs, hg, bind, Except.bind] at h
      cases h
    | ok composed =>
      have ⟨graph, root?⟩ := composed
      simp only [hs, hg, bind, Except.bind] at h
      cases root? with
      | none      =>
        cases h
        exact nofun
      | some root =>
        have proper : Work.Proper { graph, values := .empty, collections := #[], waiting := [] } := ⟨nofun, nofun⟩
        simp only [StateT.run] at h
        cases hb : Builder.document root { graph, values := .empty, collections := #[], waiting := [] } with
        | error fault =>
          rw [hb] at h
          cases h
        | ok built    =>
          rw [hb] at h
          cases h
          exact (Builder.document_yields root _ _ _ proper hb).right

theorem proper_of_entries {r : Text.Reading} {doc : Document} {v : Value} {es : List (Value × Value)}
    (h : read r = .ok doc) (isMap : doc.entries? v = some es) : ∀ e ∈ es, e.2.Proper := by
  cases v with
  | collection c =>
    rw [Document.entries?, Document.collection] at isMap
    cases hc : doc.collections[c.number]? with
    | none            =>
      rw [hc] at isMap
      cases isMap
    | some collection =>
      rw [hc, Option.getD_some] at isMap
      cases collection with
      | map _ =>
        cases isMap
        exact read_collections h _ (Array.mem_of_getElem? hc) es rfl
      | _     => cases isMap
  | _            => cases isMap

end Chatline.Yaml
