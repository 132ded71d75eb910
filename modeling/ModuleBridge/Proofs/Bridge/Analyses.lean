import ModuleBridge.Proofs.Bridge.Slots

/-!
# Analyses of whole sessions

Where one analyzer serves a session, every analysis that a record holds is what the
analyzer finds in the text that is there, whatever comes in while it runs.
-/

namespace ModuleBridge

namespace Bridge

variable {setting : Setting} {analyzer : Analyzer} {before after : Bridge}

/-- Every analysis there is is the one of the text that is there. -/
def Coheres (analyzer : Analyzer) (bridge : Bridge) : Prop :=
  ∀ key, (bridge.registry.find key).Coherent (analyzer.findings key)

/-- Analyses keep to their texts. -/
def StaysCoherent (analyzer : Analyzer) (before after : Bridge) : Prop :=
  Coheres analyzer before → Coheres analyzer after

instance (analyzer : Analyzer) : IsPreorder Bridge (StaysCoherent analyzer) where
  refl _ coheres := coheres
  trans _ _ _ first second coheres := second (first coheres)

theorem staysCoherent_of_registry (same : after.registry = before.registry) :
    StaysCoherent analyzer before after := by
  intro coheres key
  rw [same]
  exact coheres key

theorem Influx.staysCoherent (influx : Influx before after) :
    StaysCoherent analyzer before after := by
  intro coheres key
  exact (influx.registry.record key).coherent
    (fun record _ brings => Record.timely_of_text brings record) (coheres key)

theorem staysCoherent_of_routine
    (routine : Follows anything (Routine setting anything nothing) before after) :
    StaysCoherent setting.analyzer before after := by
  intro coheres key
  have progress := routine fun _ _ _ _ => trivial
  have innocent : Innocent nothing := fun _ _ asked => absurd asked id
  exact (progress.registry.record key).coherent (fun _ _ routine => routine.timely innocent)
    (coheres key)

theorem staysCoherent_parts (setting : Setting) :
    Parts setting (StaysCoherent setting.analyzer) where
  prints show? bridge := (influx_print show? bridge).staysCoherent
  notes call bridge := (influx_note call bridge).staysCoherent
  opens path bridge := (influx_openRecord path bridge).staysCoherent
  receives feed bridge := (influx_receive feed bridge).staysCoherent
  reads path bridge := (influx_readSource path bridge).staysCoherent
  loads _ bridge := (influx_loadSource bridge).staysCoherent
  marks key change same bridge coheres other := by
    have kept : ((bridge.registry.put key (change (bridge.registry.find key))).find other).core =
        (bridge.registry.find other).core := Registry.core_put (same _) other
    rw [← Record.coherent_core_iff]
    exact kept ▸ Record.coherent_core_iff.2 (coheres other)
  settles _ bound bridge := staysCoherent_of_routine (routine_settle bound .cached bridge)
  builds key plugin selector? resource bridge :=
    staysCoherent_of_routine (routine_buildReady key plugin selector? resource bridge)
  watches path bridge := staysCoherent_of_registry (apart_watchFile path bridge).registry
  watchesBuilt path bridge := staysCoherent_of_registry (apart_watchBuilt path bridge).registry

end Bridge

end ModuleBridge
