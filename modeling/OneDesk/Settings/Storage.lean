import OneDesk.Lib.Run
import OneDesk.Lib.Table
import OneDesk.Settings.Encryption

/-!
# Configurations in memory and on disk

The three configurations with secrets (`Config`, `Config2` and one `PeerConfig`
for each peer), how they are loaded and stored, and the setters.  A file is
modelled by the record that `load_path` reads from it, which is the default one
where there is no file.
-/

namespace OneDesk
namespace Settings

open OneDesk.Lib

/-- The keys and values of options. -/
abbrev Options := Table Text Text

/-- `Config` -/
structure Config where
  /-- The identifier in use, not stored. -/
  id : Text
  /-- The identifier as it is stored. -/
  encId : Text
  password : Text
  deriving DecidableEq

/-- The default `Config`. -/
def Config.empty : Config := ⟨[], [], []⟩

/-- `Socks5Server` -/
structure Socks5Server where
  proxy : Text
  username : Text
  password : Text
  deriving DecidableEq

/-- The default `Socks5Server`. -/
def Socks5Server.empty : Socks5Server := ⟨[], [], []⟩

/-- `Config2` -/
structure Config2 where
  unlockPin : Text
  trustedDevices : Text
  socks : Option Socks5Server
  options : Options
  deriving DecidableEq

/-- The default `Config2`. -/
def Config2.empty : Config2 := ⟨[], [], none, ∅⟩

/-- `PeerConfig` -/
@[ext] structure PeerConfig where
  password : Bytes
  options : Options
  deriving DecidableEq

/-- The default `PeerConfig`. -/
def PeerConfig.empty : PeerConfig := ⟨[], ∅⟩

/-- The options of a peer that are secrets. -/
def secretOptions : List Text :=
  ["rdp_password".toList, "os-username".toList, "os-password".toList]

/-- A loaded configuration and whether loading stores it again. -/
@[ext] structure Loaded (Record : Type) where
  record : Record
  store : Bool

section LoadStore

variable (p : Primitives)

/-- `Config::store`: the record written to the file. -/
def Config.store (config : Config) : Config :=
  { config with
    password := (strField p).write config.password
    encId := (strField p).write config.id
    id := [] }

/-- `Config::load`, given the results of `gen_id`. -/
def Config.load (genIds : List (Option Text)) (file : Config) : Loaded Config :=
  let password := (strField p).read file.password
  let config := { file with password := password.value }
  let stored := (strField p).read config.encId
  if stored.success then
    { record := { config with id := stored.value }
      store := password.store || stored.store }
  else if config.id ≠ [] ∧ config.encId = [] ∧
      ¬ ((strField p).read config.id).success then
    { record := config, store := true }
  else
    match (genIds.take 3).findSome? fun newId => newId with
    | some newId => { record := { config with id := newId }, store := true }
    | none => { record := config, store := password.store }

/-- `Config2::store`: the record written to the file. -/
def Config2.store (config : Config2) : Config2 :=
  { config with
    socks := config.socks.map fun socks =>
      { socks with password := (strField p).write socks.password }
    unlockPin := (strField p).write config.unlockPin }

/-- `Config2::load` -/
def Config2.load (file : Config2) : Loaded Config2 :=
  let socks := file.socks.map fun socks =>
    ({ socks with password := ((strField p).read socks.password).value },
      ((strField p).read socks.password).store)
  let unlockPin := (strField p).read file.unlockPin
  { record :=
      { file with socks := socks.map Prod.fst, unlockPin := unlockPin.value }
    store := (socks.map Prod.snd).getD false || unlockPin.store }

/-- `PeerConfig::store_`: the record written to the file. -/
def PeerConfig.store (config : PeerConfig) : PeerConfig where
  password := (vecField p).write config.password
  options := secretOptions.foldl
    (fun options key => options.modify key (strField p).write) config.options

/-- `PeerConfig::load` -/
def PeerConfig.load (file : PeerConfig) : Loaded PeerConfig :=
  let password := (vecField p).read file.password
  { record :=
      { password := password.value
        options := secretOptions.foldl
          (fun options key =>
            options.modify key fun value => ((strField p).read value).value)
          file.options }
    store := password.store || secretOptions.any fun key =>
      ((file.options.lookup key).map fun value =>
        ((strField p).read value).store).getD false }

end LoadStore

/-- What the configurations run with: the primitives and the fixed settings. -/
structure Env where
  primitives : Primitives
  /-- `DEFAULT_SETTINGS` -/
  defaultSettings : Options
  /-- `OVERWRITE_SETTINGS` -/
  overwriteSettings : Options
  /-- `HARD_SETTINGS` -/
  hardSettings : Options

/-- The configurations in memory and the files on disk. -/
structure Storage where
  /-- `CONFIG` -/
  config : Config
  /-- `CONFIG2` -/
  config2 : Config2
  /-- The configuration each `LoginConfigHandler` holds of its peer. -/
  peers : Table Text PeerConfig
  file : Config
  file2 : Config2
  peerFiles : Table Text PeerConfig

namespace Storage

variable (env : Env) (storage : Storage)

/-- The record `load_path` reads for a peer. -/
def peerFile (id : Text) : PeerConfig :=
  (storage.peerFiles.lookup id).getD .empty

/-- Put a `Config` in place and store it. -/
def storeConfig (config : Config) : Storage :=
  { storage with config, file := config.store env.primitives }

/-- Put a `Config2` in place and store it. -/
def storeConfig2 (config2 : Config2) : Storage :=
  { storage with config2, file2 := config2.store env.primitives }

/-- Most bytes of the list of trusted devices. -/
def trustedDevicesMaxLen : Nat := 1024 * 1024

/-- `Config::clear_trusted_devices`: store an empty list, as JSON. -/
def clearTrustedDevices : Storage :=
  storage.storeConfig2 env
    { storage.config2 with
      trustedDevices := encryptStrOrOriginal env.primitives "[]".toList
        passwordEncVersion trustedDevicesMaxLen }

/-- `Config::set_id` -/
def setId (id : Text) : Storage :=
  if id = storage.config.id then storage
  else storage.storeConfig env { storage.config with id }

/-- `Config::set_permanent_password` -/
def setPermanentPassword (password : Text) : Storage :=
  if env.hardSettings.lookup "password".toList = some password then storage
  else if password = storage.config.password then storage
  else
    (storage.storeConfig env { storage.config with password })
      |>.clearTrustedDevices env

/-- `Config::set_unlock_pin` -/
def setUnlockPin (pin : Text) : Storage :=
  if pin = storage.config2.unlockPin then storage
  else storage.storeConfig2 env { storage.config2 with unlockPin := pin }

/-- Whether `set_socks` takes the new proxy for the default one. -/
def equalsDefaultProxy (socks : Option Socks5Server) : Bool :=
  let given := socks.getD .empty
  let equalToDefault (key value : Text) :=
    env.defaultSettings.lookup key = some value
  (env.defaultSettings.lookup "proxy-url".toList).isSome &&
    equalToDefault "proxy-url".toList given.proxy &&
    equalToDefault "proxy-username".toList given.username &&
    equalToDefault "proxy-password".toList given.password

/-- Whether `set_socks` leaves the proxy as it is. -/
def ignoresSocks (socks : Option Socks5Server) : Bool :=
  (env.overwriteSettings.lookup "proxy-url".toList).isSome ||
    storage.config2.socks = socks ||
    (storage.config2.socks.isNone && equalsDefaultProxy env socks)

/-- `Config::set_socks` -/
def setSocks (socks : Option Socks5Server) : Storage :=
  if storage.ignoresSocks env socks then storage
  else storage.storeConfig2 env { storage.config2 with socks }

/-- `PeerConfig::load`, which may store the record again. -/
def loadPeer (id : Text) : PeerConfig × Storage :=
  let loaded := (storage.peerFile id).load env.primitives
  if loaded.store then
    (loaded.record,
      { storage with
        peerFiles :=
          storage.peerFiles.insert id (loaded.record.store env.primitives) })
  else (loaded.record, storage)

/-- `LoginConfigHandler::initialize`: hold the configuration of a peer. -/
def openPeer (id : Text) : Storage :=
  let (config, storage) := storage.loadPeer env id
  { storage with peers := storage.peers.insert id config }

/-- `LoginConfigHandler::save_config` -/
def saveConfig (id : Text) (config : PeerConfig) : Storage :=
  { storage with
    peers := storage.peers.insert id config
    peerFiles := storage.peerFiles.insert id (config.store env.primitives) }

/-- `LoginConfigHandler::set_option`, with the handler's own `get_option`. -/
def setPeerOption (id key value : Text) : Storage :=
  match storage.peers.lookup id with
  | none => storage
  | some handler =>
      let (config, storage) := storage.loadPeer env id
      if value = (handler.options.lookup key).getD [] then storage
      else
        storage.saveConfig env id
          { config with options := config.options.insert key value }

/-- `LoginConfigHandler::handle_peer_info`, which remembers a password. -/
def rememberPassword (id : Text) (password : Bytes) : Storage :=
  match storage.peers.lookup id with
  | none => storage
  | some _ =>
      let (config, storage) := storage.loadPeer env id
      storage.saveConfig env id { config with password }

/-- Start again with the files as they are. -/
def restart (genIds : List (Option Text)) : Storage :=
  let config := Config.load env.primitives genIds storage.file
  let config2 := storage.file2.load env.primitives
  { config := config.record
    config2 := config2.record
    peers := ∅
    file :=
      if config.store then config.record.store env.primitives else storage.file
    file2 :=
      if config2.store then config2.record.store env.primitives
      else storage.file2
    peerFiles := storage.peerFiles }

/-- A start without any file. -/
def fresh (genIds : List (Option Text)) : Storage :=
  restart env
    { config := .empty, config2 := .empty, peers := ∅, file := .empty
      file2 := .empty, peerFiles := ∅ }
    genIds

end Storage

end Settings
end OneDesk
