import BotConfig.Loader

/-!
A configuration that is in use and can be reloaded.

A reload loads everything anew and publishes the outcome only if it is valid.  Each published
configuration has a number, so that a snapshot can be told from a later equal one.
-/

namespace BotConfig

/-- A configuration that has been published, and its number. -/
structure Published where
  number : Nat
  config : Config

/-- A configuration in use, and how to load it again. -/
structure Handle where
  loader : Loader
  sources : List Source
  current : Published

namespace Handle

/-- Load and publish a configuration for the first time. -/
def load (loader : Loader) (world : World) (sources : List Source) : Traced Handle := do
  let config ← loader.load world sources
  return ⟨loader, sources, ⟨0, config⟩⟩

/-- Load the configuration anew. The handle that is left publishes the new configuration if it is
valid, and the one before otherwise. -/
def reload (handle : Handle) (world : World) : Handle × Traced Published :=
  let loading := handle.loader.load world handle.sources
  match loading.outcome with
  | .error error => (handle, ⟨loading.log ++ [.reloadFailed error], .error error⟩)
  | .ok config =>
      let published : Published := ⟨handle.current.number + 1, config⟩
      ({ handle with current := published },
        ⟨loading.log ++ [.reloaded config.files], .ok published⟩)

end Handle

end BotConfig
