import Chatline.Host

namespace Chatline.Host

variable {ξ σ : Type}

@[simp] theorem bus_note (h : Host ξ σ) (r : Record) (b : BusId) : (h.note r).bus b = h.bus b :=
  rfl

theorem plugin_note (h : Host ξ σ) (r : Record) (id : PluginId) : (h.note r).plugin id = h.plugin id :=
  rfl

theorem plugin_setDirectory (h : Host ξ σ) (d : DirectoryId) (x : Directory) (id : PluginId) :
    (h.setDirectory d x).plugin id = h.plugin id :=
  rfl

theorem bus_setBus (h : Host ξ σ) (b b' : BusId) (x : Bus (Observer ξ)) :
    (h.setBus b x).bus b' = if b' = b then x else h.bus b' := by
  simp only [bus, setBus]
  rw [Table.get?_set]
  split <;> rfl

theorem bus_congr {h h' : Host ξ σ} (he : h'.buses = h.buses) (b : BusId) : h'.bus b = h.bus b := by
  rw [bus, bus, he]

theorem bus_subscribe (h : Host ξ σ) (b b' : BusId) (topic : String) (priority : Priority)
    (observer : Observer ξ) : (h.subscribe b topic priority observer).2.bus b' =
      if b' = b then (h.bus b).subscribe topic priority observer else h.bus b' :=
  bus_setBus h b b' _

theorem bus_unsubscribe (h : Host ξ σ) (id : SubscriptionId) (b : BusId) :
    (h.unsubscribe id).bus b =
      if (h.bus id.bus).isLive id.serial ∧ b = id.bus then (h.bus id.bus).unsubscribe id.serial
      else h.bus b := by
  simp only [unsubscribe]
  by_cases hl : (h.bus id.bus).isLive id.serial
  case pos =>
    simp only [hl, if_true, true_and]
    exact bus_setBus h id.bus b _
  case neg => simp [hl]

theorem bus_unsubscribe_of_live {h : Host ξ σ} {id : SubscriptionId}
    (live : (h.bus id.bus).isLive id.serial) (b : BusId) : (h.unsubscribe id).bus b =
      if b = id.bus then (h.bus id.bus).unsubscribe id.serial else h.bus b := by
  simp [bus_unsubscribe, live]

theorem log_unsubscribe {h : Host ξ σ} {id : SubscriptionId} (live : (h.bus id.bus).isLive id.serial) :
    (h.unsubscribe id).log = h.log ++ [.unsubscribed id] := by
  rw [unsubscribe, if_pos live]
  rfl

theorem plugin_setPlugin (h : Host ξ σ) (id id' : PluginId) (p : Plugin) :
    (h.setPlugin id p).plugin id' = if id' = id then p else h.plugin id' := by
  simp only [plugin, setPlugin]
  rw [Table.get?_set]
  split <;> rfl

theorem directory_setDirectory (h : Host ξ σ) (d d' : DirectoryId) (x : Directory) :
    (h.setDirectory d x).directory d' = if d' = d then x else h.directory d' := by
  simp only [directory, setDirectory]
  rw [Table.get?_set]
  split <;> rfl

theorem provider_amend (h : Host ξ σ) (q q' : ProviderId) (p : Provider) :
    (h.amend q p).provider q' = if q' = q then p else h.provider q' := by
  simp only [provider, amend]
  rw [Table.get?_set]
  split <;> rfl

theorem provider_introduce (h : Host ξ σ) (q : ProviderId) (p : Provider) :
    (h.introduce p).2.provider q = if q = ⟨h.fresh⟩ then p else h.provider q :=
  provider_amend h ⟨h.fresh⟩ q p

end Chatline.Host
