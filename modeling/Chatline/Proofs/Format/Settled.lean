import Chatline.Bindings

namespace Chatline

namespace Context

variable {κ : Type}

theorem resolve_body (ctx : Context κ) (body format : String) :
    ({ ctx with body } : Context κ).resolve format = ctx.resolve format :=
  rfl

end Context

namespace Bindings

variable (b : Bindings) (providers : ProviderId → Provider)

def settling (identity : Identity) (name format : String) : Inquiry Asked String :=
  (b.context providers (.new { identity, name, displayName := none } "")).resolve format

def settled (identity : Identity) (name format : String) : String :=
  (b.settling providers identity name format).outcome.toOption.getD format

variable {b providers}

theorem settling_unbound (identity : Identity) (name format : String) :
    ({} : Bindings).settling providers identity name format = Placeholder.name.fill (pure (some name)) format :=
  rfl

theorem resolve_context (m : ChatMessage) (format : String) :
    (b.context providers m).resolve format =
      b.settling providers m.player.identity m.player.name format := by
  have same : b.context providers m =
      { b.context providers (.new { m.player with displayName := none } "") with body := m.body } := rfl
  rw [same, Context.resolve_body]
  rfl

end Bindings
end Chatline
