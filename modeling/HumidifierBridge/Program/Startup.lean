import HumidifierBridge.Bridge.Loop
import HumidifierBridge.DsUid.Named
import HumidifierBridge.Program.Arguments
import HumidifierBridge.Program.Log

/-!
# Starting the program

`start` reads the configuration and makes the bridge and its first state. It fails where the
configuration cannot be used; a configuration that is not there is written as a template first.
dSUIDs that the configuration leaves open are made up and stored. The file tree that it gives back
is the one it leaves behind, whether it fails or not.
-/

namespace HumidifierBridge

/-- What the surroundings give to a program that starts. -/
structure Surroundings where
  hostname : String
  now : Time
  /-- Randomness for the dSUID of the container. -/
  vdcEntropy : List UInt8
  /-- Randomness for the dSUID of the library. -/
  libraryEntropy : List UInt8

/-- A program that has started. -/
structure Started where
  bridge : Bridge
  state : BridgeState
  /-- The base URL of the appliance. -/
  base : String

/-- The effect of a start; without `started` the program has failed. -/
structure Startup where
  limit : LogLevel
  log : List LogLine
  files : FileTree
  started : Option Started

namespace Startup

/-- The level up to which lines are logged: that of the command line, or that of the configuration,
or the default. -/
def limit? (options : Options) (configured : Option UInt8) : LogLevel :=
  .ofNumber ((options.debugLevel <|> configured).getD Settings.defaultDebugLevel).toNat

/-- Ends a start whose configuration cannot be read. -/
def refuse (options : Options) (store : ConfigStore) (files : FileTree) (e : ConfigError) :
    Startup :=
  let limit := limit? options none
  match e with
  | .notFound _ =>
    match store.writeTemplate files with
    | (.ok (), files) =>
      ⟨limit, [⟨.debug, "Configuration written"⟩,
        ⟨.error, "Configuration file not found, wrote a template. Edit it and restart"⟩],
        files, none⟩
    | (.error e, files) =>
      ⟨limit, [⟨.error, "Could not write configuration template: " ++ e.message⟩], files, none⟩
  | e => ⟨limit, [⟨.error, "Invalid configuration: " ++ e.message⟩], files, none⟩

/-- The identity that a configuration gives, its open dSUIDs made up. -/
def identity (loaded : LoadedConfig) (around : Surroundings) : Identity where
  vdc := loaded.vdc.getD (.ofRandom around.vdcEntropy)
  library := loaded.library.getD (.ofRandom around.libraryEntropy)
  device := .ofName loaded.profile.id
  hostname := around.hostname

/-- Goes on from a configuration that was loaded. -/
def accept (options : Options) (store : ConfigStore) (files : FileTree) (loaded : LoadedConfig)
    (around : Surroundings) : Startup :=
  let limit := limit? options loaded.settings.debugLevel
  let bridge : Bridge := { identity := identity loaded around, store := some store }
  let state := BridgeState.new loaded.profile loaded.settings
  let log := [⟨.info, "Loaded configuration"⟩,
    ⟨.info, "Starting " ++ bridge.identity.serviceName⟩]
  match ApplianceAddress.checkedBaseUrl { host := loaded.profile.address } with
  | .error e =>
    let e := BridgeError.protocol e
    ⟨limit, log ++ [⟨.error, "Bridge failed: " ++ e.message⟩], files, none⟩
  | .ok base =>
    if loaded.vdc.isSome && loaded.library.isSome then
      ⟨limit, log, files, some ⟨bridge, state, base⟩⟩
    else match bridge.persist state files with
      | (.error e, files) =>
        let e := BridgeError.config e
        ⟨limit, log ++ [⟨.error, "Bridge failed: " ++ e.message⟩], files, none⟩
      | (.ok (), files) =>
        ⟨limit, log ++ [⟨.debug, "Configuration written"⟩, ⟨.info, "Stored generated dSUIDs"⟩],
          files, some ⟨bridge, state, base⟩⟩

end Startup

/-- Starts the program on the files there are. -/
def start (options : Options) (files : FileTree) (around : Surroundings) : Startup :=
  let store : ConfigStore := ⟨options.configPath⟩
  match store.load files around.now with
  | .error e => Startup.refuse options store files e
  | .ok loaded => Startup.accept options store files loaded around

end HumidifierBridge
