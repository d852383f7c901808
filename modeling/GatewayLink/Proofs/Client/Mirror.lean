import GatewayLink.Proofs.Activity.Window
import GatewayLink.Proofs.Client.Bookkeeping

/-!
# Clients whose logs forget nothing

What a client does never depends on its logs.  So a client with bounded logs runs side by side with
one whose logs forget nothing, and at every moment its logs are windows on the other one's.
-/

namespace GatewayLink

namespace Client

/-- Two clients agree but for their logbooks, and one logbook shows what limits leave of the
other. -/
def Mirrors (limits : Limits) (seen full : Client) : Prop :=
  ∃ logbook, full = { seen with logbook } ∧ Logbook.Shows limits seen.logbook logbook

theorem mirrors_new (settings : Settings) (limits : Limits) (wall : Timestamp) :
    Mirrors limits (new settings limits wall) (new settings .unlimited wall) :=
  ⟨_, rfl, Logbook.shows_new limits⟩

theorem Mirrors.shown {limits : Limits} {seen full : Client} (mirrors : Mirrors limits seen full) :
    Logbook.Shows limits seen.logbook full.logbook :=
  Twins.related_logbook mirrors

/-- In every run a client with bounded logs mirrors the one whose logs forget nothing. -/
theorem mirrors_run (settings : Settings) (limits : Limits) (wall : Timestamp)
    (actions : List Action) :
    Mirrors limits ((new settings limits wall).run actions)
      ((new settings .unlimited wall).run actions) :=
  Twins.run (fun _ _ => Logbook.Shows.apply) (mirrors_new settings limits wall) actions

end Client

end GatewayLink
