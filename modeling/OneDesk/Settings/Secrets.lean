import OneDesk.Settings.Options

/-!
# Stored secrets

What a restart gives back of the secrets that were set.  In every state of a
run the files hold the secrets in memory, so loading gives back all of a secret
of at most `encryptMaxLen` items and nothing of a longer one, and asks for no
second storing.
-/

namespace OneDesk
namespace Settings

open OneDesk.Lib

/-! ## Records -/

/-- What is kept of a proxy. -/
def Socks5Server.kept (socks : Socks5Server) : Socks5Server :=
  { socks with password := Settings.kept socks.password }

/-- What is kept of a `Config2`. -/
def Config2.kept (config : Config2) : Config2 :=
  { config with
    socks := config.socks.map Socks5Server.kept
    unlockPin := Settings.kept config.unlockPin }

/-- What is kept of a peer's configuration. -/
def PeerConfig.kept (config : PeerConfig) : PeerConfig where
  password := Settings.kept config.password
  options := secretOptions.foldl
    (fun options key => options.modify key Settings.kept) config.options

/-- No secret of a `Config2` is a ciphertext. -/
structure Config2.Plain (p : Primitives) (config : Config2) : Prop where
  unlockPin : (strField p).Plain config.unlockPin
  socks : ∀ socks, config.socks = some socks →
    (strField p).Plain socks.password

/-- No secret of a peer's configuration is a ciphertext. -/
structure PeerConfig.Plain (p : Primitives) (config : PeerConfig) : Prop where
  password : (vecField p).Plain config.password
  options : ∀ key ∈ secretOptions, ∀ value,
    config.options.lookup key = some value → (strField p).Plain value

theorem secretOptions_nodup : secretOptions.Nodup := by decide

section Records

variable {p : Primitives}

/-- Loading a stored `Config2` gives what is kept of it. -/
theorem Config2.Plain.load_store
    {config : Config2}
    (lawful : p.Lawful)
    (plain : config.Plain p) :
    (config.store p).load p = ⟨config.kept, false⟩ := by
  have pin := (strField_faithful lawful).read_write _ plain.unlockPin
  cases socks_eq : config.socks with
  | none => simp [Config2.load, Config2.store, Config2.kept, pin, socks_eq]
  | some socks =>
      have password :=
        (strField_faithful lawful).read_write _ (plain.socks socks socks_eq)
      simp [Config2.load, Config2.store, Config2.kept, Socks5Server.kept, pin,
        socks_eq, password]

/-- Storing what is kept writes the same file. -/
theorem Config2.Plain.store_kept
    {config : Config2}
    (lawful : p.Lawful)
    (plain : config.Plain p) :
    config.kept.store p = config.store p := by
  have pin := (strField_faithful lawful).write_kept _ plain.unlockPin
  cases socks_eq : config.socks with
  | none => simp [Config2.store, Config2.kept, pin, socks_eq]
  | some socks =>
      have password :=
        (strField_faithful lawful).write_kept _ (plain.socks socks socks_eq)
      simp [Config2.store, Config2.kept, Socks5Server.kept, pin, socks_eq,
        password]

theorem Config2.Plain.kept
    {config : Config2}
    (lawful : p.Lawful)
    (plain : config.Plain p) :
    config.kept.Plain p where
  unlockPin := (strField_faithful lawful).plain_kept plain.unlockPin
  socks := by
    intro socks socks_eq
    obtain ⟨before, before_eq, rfl⟩ := Option.map_eq_some_iff.mp socks_eq
    exact (strField_faithful lawful).plain_kept (plain.socks before before_eq)

theorem PeerConfig.lookup_store
    (config : PeerConfig)
    (key : Text) :
    (config.store p).options.lookup key =
      if key ∈ secretOptions then
        (config.options.lookup key).map (strField p).write
      else config.options.lookup key := by
  convert Table.lookup_foldl_modify secretOptions_nodup key _ config.options
  rfl

theorem PeerConfig.lookup_kept
    (config : PeerConfig)
    (key : Text) :
    config.kept.options.lookup key =
      if key ∈ secretOptions then
        (config.options.lookup key).map Settings.kept
      else config.options.lookup key := by
  convert Table.lookup_foldl_modify secretOptions_nodup key _ config.options
  rfl

theorem PeerConfig.lookup_load
    (file : PeerConfig)
    (key : Text) :
    (file.load p).record.options.lookup key =
      if key ∈ secretOptions then
        (file.options.lookup key).map fun value =>
          ((strField p).read value).value
      else file.options.lookup key := by
  convert Table.lookup_foldl_modify secretOptions_nodup key _ file.options
  rfl

/-- Reading a stored option of a peer. -/
theorem PeerConfig.Plain.read_option
    {config : PeerConfig}
    (lawful : p.Lawful)
    (plain : config.Plain p)
    {key value : Text}
    (secret : key ∈ secretOptions)
    (stored : config.options.lookup key = some value) :
    (strField p).read ((strField p).write value) =
      { value := Settings.kept value, success := !(Settings.kept value).isEmpty
        store := false } :=
  (strField_faithful lawful).read_write _ (plain.options key secret value stored)

/-- Loading a stored configuration of a peer gives what is kept of it. -/
theorem PeerConfig.Plain.load_store
    {config : PeerConfig}
    (lawful : p.Lawful)
    (plain : config.Plain p) :
    (config.store p).load p = ⟨config.kept, false⟩ := by
  have password := (vecField_faithful lawful).read_write _ plain.password
  have options :
      ((config.store p).load p).record.options = config.kept.options := by
    apply Finmap.ext_lookup
    intro key
    rw [PeerConfig.lookup_load, PeerConfig.lookup_store, PeerConfig.lookup_kept]
    by_cases secret : key ∈ secretOptions
    · cases stored : config.options.lookup key with
      | none => simp [secret]
      | some value =>
          simp [secret, plain.read_option lawful secret stored]
    · simp [secret]
  have quiet : ((config.store p).load p).store = false := by
    have store_password :
        ((vecField p).read (config.store p).password).store = false := by
      rw [PeerConfig.store, password]
    simp only [PeerConfig.load, store_password, Bool.false_or]
    rw [List.any_eq_false]
    intro key secret
    rw [PeerConfig.lookup_store, if_pos secret]
    cases stored : config.options.lookup key with
    | none => simp
    | some value => simp [plain.read_option lawful secret stored]
  have record_password :
      ((config.store p).load p).record.password = config.kept.password := by
    simp only [PeerConfig.load, PeerConfig.store, password, PeerConfig.kept]
  exact Loaded.ext (PeerConfig.ext record_password options) quiet

/-- Storing what is kept writes the same file. -/
theorem PeerConfig.Plain.store_kept
    {config : PeerConfig}
    (lawful : p.Lawful)
    (plain : config.Plain p) :
    config.kept.store p = config.store p := by
  have password := (vecField_faithful lawful).write_kept _ plain.password
  have options :
      (config.kept.store p).options = (config.store p).options := by
    apply Finmap.ext_lookup
    intro key
    rw [PeerConfig.lookup_store, PeerConfig.lookup_store, PeerConfig.lookup_kept]
    by_cases secret : key ∈ secretOptions
    · cases stored : config.options.lookup key with
      | none => simp
      | some value =>
          have same := (strField_faithful lawful).write_kept _
            (plain.options key secret value stored)
          simp [secret, same]
    · simp [secret]
  exact PeerConfig.ext password options

theorem PeerConfig.Plain.kept
    {config : PeerConfig}
    (lawful : p.Lawful)
    (plain : config.Plain p) :
    config.kept.Plain p where
  password := (vecField_faithful lawful).plain_kept plain.password
  options := by
    intro key secret value stored
    rw [PeerConfig.lookup_kept, if_pos secret] at stored
    obtain ⟨before, before_eq, rfl⟩ := Option.map_eq_some_iff.mp stored
    exact (strField_faithful lawful).plain_kept
      (plain.options key secret before before_eq)

end Records

/-! ## Runs -/

/-- An event that sets no ciphertext as a secret. -/
def Event.Plain (p : Primitives) : Event → Prop
  | .setPermanentPassword password => (strField p).Plain password
  | .setUnlockPin pin => (strField p).Plain pin
  | .setSocks socks => ∀ given, socks = some given →
      (strField p).Plain given.password
  | .setPeerOption _ key value => key ∈ secretOptions →
      (strField p).Plain value
  | .rememberPassword _ password => (vecField p).Plain password
  | _ => True

/-- The files hold the secrets in memory. -/
structure Storage.Sealed (p : Primitives) (storage : Storage) : Prop where
  password : (strField p).Sealed storage.config.password storage.file.password
  plain2 : storage.config2.Plain p
  file2_eq : storage.file2 = storage.config2.store p
  /-- A configuration held of a peer is the one in its file. -/
  peers : ∀ id config, storage.peers.lookup id = some config →
    config.Plain p ∧ storage.peerFile id = config.store p
  /-- Every file of a peer holds some configuration. -/
  peerFiles : ∀ id, ∃ config : PeerConfig,
    config.Plain p ∧ storage.peerFile id = config.store p

namespace Storage

variable {env : Env} {storage : Storage}

namespace Sealed

theorem storeConfig
    (holds : storage.Sealed env.primitives)
    {config : Config}
    (plain : (strField env.primitives).Plain config.password) :
    (storage.storeConfig env config).Sealed env.primitives where
  password := ⟨plain, rfl⟩
  plain2 := holds.plain2
  file2_eq := holds.file2_eq
  peers := holds.peers
  peerFiles := holds.peerFiles

theorem storeConfig2
    (holds : storage.Sealed env.primitives)
    {config2 : Config2}
    (plain : config2.Plain env.primitives) :
    (storage.storeConfig2 env config2).Sealed env.primitives where
  password := holds.password
  plain2 := plain
  file2_eq := rfl
  peers := holds.peers
  peerFiles := holds.peerFiles

/-- A record stored with the secrets it had before. -/
theorem storeConfig2_of_eq
    (holds : storage.Sealed env.primitives)
    {config2 : Config2}
    (pin_eq : config2.unlockPin = storage.config2.unlockPin)
    (socks_eq : config2.socks = storage.config2.socks) :
    (storage.storeConfig2 env config2).Sealed env.primitives := by
  apply holds.storeConfig2
  exact ⟨by rw [pin_eq]; exact holds.plain2.unlockPin,
    by rw [socks_eq]; exact holds.plain2.socks⟩

/-- The configuration a peer's file holds is loaded without storing it again. -/
theorem loadPeer
    (lawful : env.primitives.Lawful)
    (holds : storage.Sealed env.primitives)
    (id : Text) :
    ∃ config : PeerConfig, config.Plain env.primitives ∧
      storage.peerFile id = config.store env.primitives ∧
      storage.loadPeer env id = (config.kept, storage) := by
  obtain ⟨config, plain, file_eq⟩ := holds.peerFiles id
  refine ⟨config, plain, file_eq, ?_⟩
  simp [Storage.loadPeer, file_eq, plain.load_store lawful]

theorem saveConfig
    (holds : storage.Sealed env.primitives)
    (id : Text)
    {config : PeerConfig}
    (plain : config.Plain env.primitives) :
    (storage.saveConfig env id config).Sealed env.primitives where
  password := holds.password
  plain2 := holds.plain2
  file2_eq := holds.file2_eq
  peers := by
    intro other held lookup_eq
    simp only [Storage.saveConfig, Table.lookup_insert_eq] at lookup_eq
    simp only [Storage.saveConfig, peerFile, Table.lookup_insert_eq]
    by_cases same : other = id
    · rw [if_pos same] at lookup_eq ⊢
      obtain rfl := Option.some.inj lookup_eq
      exact ⟨plain, rfl⟩
    · rw [if_neg same] at lookup_eq ⊢
      exact holds.peers other held lookup_eq
  peerFiles := by
    intro other
    simp only [Storage.saveConfig, peerFile, Table.lookup_insert_eq]
    by_cases same : other = id
    · rw [if_pos same]
      exact ⟨config, plain, rfl⟩
    · rw [if_neg same]
      exact holds.peerFiles other

theorem openPeer
    (lawful : env.primitives.Lawful)
    (holds : storage.Sealed env.primitives)
    (id : Text) :
    (storage.openPeer env id).Sealed env.primitives := by
  obtain ⟨config, plain, file_eq, loaded⟩ := holds.loadPeer lawful id
  simp only [Storage.openPeer, loaded]
  exact {
    password := holds.password
    plain2 := holds.plain2
    file2_eq := holds.file2_eq
    peerFiles := holds.peerFiles
    peers := by
      intro other held lookup_eq
      rw [Table.lookup_insert_eq] at lookup_eq
      split at lookup_eq
      case isTrue same =>
        obtain rfl := Option.some.inj lookup_eq
        refine ⟨plain.kept lawful, ?_⟩
        rw [plain.store_kept lawful, same]
        exact file_eq
      case isFalse => exact holds.peers other held lookup_eq }

/-- An option put in front of those that were loaded. -/
theorem plain_insert
    {config : PeerConfig}
    (plain : config.Plain env.primitives)
    {key value : Text}
    (given : key ∈ secretOptions → (strField env.primitives).Plain value) :
    PeerConfig.Plain env.primitives
      { config with options := config.options.insert key value } where
  password := plain.password
  options := by
    intro other secret stored lookup_eq
    rw [Table.lookup_insert_eq] at lookup_eq
    split at lookup_eq
    case isTrue same =>
      obtain rfl := Option.some.inj lookup_eq
      exact given (same ▸ secret)
    case isFalse => exact plain.options other secret stored lookup_eq

theorem setPeerOption
    (lawful : env.primitives.Lawful)
    (holds : storage.Sealed env.primitives)
    {id key value : Text}
    (given : key ∈ secretOptions → (strField env.primitives).Plain value) :
    (storage.setPeerOption env id key value).Sealed env.primitives := by
  obtain ⟨config, plain, file_eq, loaded⟩ := holds.loadPeer lawful id
  simp only [Storage.setPeerOption, loaded]
  split
  · exact holds
  · split
    · exact holds
    · exact holds.saveConfig id (plain_insert (plain.kept lawful) given)

theorem rememberPassword
    (lawful : env.primitives.Lawful)
    (holds : storage.Sealed env.primitives)
    {id : Text}
    {password : Bytes}
    (given : (vecField env.primitives).Plain password) :
    (storage.rememberPassword env id password).Sealed env.primitives := by
  obtain ⟨config, plain, file_eq, loaded⟩ := holds.loadPeer lawful id
  simp only [Storage.rememberPassword, loaded]
  split
  · exact holds
  · exact holds.saveConfig id ⟨given, (plain.kept lawful).options⟩

/-- The password read from a file that holds one. -/
theorem load_password
    {p : Primitives}
    (genIds : List (Option Text))
    (file : Config) :
    (Config.load p genIds file).record.password =
      ((strField p).read file.password).value := by
  simp only [Config.load]
  split
  · rfl
  · split
    · rfl
    · split <;> rfl

theorem restart
    (lawful : env.primitives.Lawful)
    (holds : storage.Sealed env.primitives)
    (genIds : List (Option Text)) :
    (storage.restart env genIds).Sealed env.primitives := by
  have password := (strField_faithful lawful).read_sealed holds.password
  have passwordKept := (strField_faithful lawful).sealed_kept holds.password
  have loaded2 : storage.file2.load env.primitives =
      ⟨storage.config2.kept, false⟩ := by
    rw [holds.file2_eq, holds.plain2.load_store lawful]
  have memory : (storage.restart env genIds).config.password =
      kept storage.config.password := by
    simp only [Storage.restart, load_password, password]
  exact {
    password := by
      rw [memory]
      refine ⟨passwordKept.plain, ?_⟩
      simp only [Storage.restart]
      split
      · simp only [Config.store, load_password, password]
      · exact passwordKept.field_eq
    plain2 := by
      simp only [Storage.restart, loaded2]
      exact holds.plain2.kept lawful
    file2_eq := by
      simp only [Storage.restart, loaded2, Bool.false_eq_true, if_false]
      rw [holds.plain2.store_kept lawful, holds.file2_eq]
    peers := fun _ _ none => by cases none
    peerFiles := holds.peerFiles }

theorem fresh
    (lawful : env.primitives.Lawful)
    (genIds : List (Option Text)) :
    (Storage.fresh env genIds).Sealed env.primitives := by
  apply restart lawful
  exact {
    password := ⟨rfl, rfl⟩
    plain2 := ⟨rfl, fun _ none => by cases none⟩
    file2_eq := rfl
    peers := fun _ _ none => by cases none
    peerFiles := by
      intro id
      exact ⟨.empty, ⟨rfl, fun _ _ _ none => by cases none⟩, rfl⟩ }

/-- Every event keeps the files in step with the memory. -/
theorem step
    (lawful : env.primitives.Lawful)
    (holds : storage.Sealed env.primitives)
    {event : Event}
    (given : event.Plain env.primitives) :
    (Settings.step env storage event).Sealed env.primitives := by
  cases event with
  | setId id =>
      simp only [Settings.step, Storage.setId]
      split
      · exact holds
      · exact holds.storeConfig holds.password.plain
  | setPermanentPassword password =>
      simp only [Settings.step, Storage.setPermanentPassword]
      split
      · exact holds
      · split
        · exact holds
        · refine storeConfig2_of_eq (holds.storeConfig ?_) rfl rfl
          exact given
  | setUnlockPin pin =>
      simp only [Settings.step, Storage.setUnlockPin]
      split
      · exact holds
      · exact holds.storeConfig2 ⟨given, holds.plain2.socks⟩
  | setSocks socks =>
      simp only [Settings.step, Storage.setSocks]
      split
      · exact holds
      · exact holds.storeConfig2 ⟨holds.plain2.unlockPin, given⟩
  | setOption key value =>
      simp only [Settings.step, Storage.setOption]
      repeat' split
      all_goals first | exact holds | exact holds.storeConfig2_of_eq rfl rfl
  | setOptions options =>
      simp only [Settings.step, Storage.setOptions]
      split
      · exact holds
      · exact holds.storeConfig2_of_eq rfl rfl
  | openPeer id => exact holds.openPeer lawful id
  | setPeerOption id key value => exact holds.setPeerOption lawful given
  | rememberPassword id password => exact holds.rememberPassword lawful given
  | restart genIds => exact holds.restart lawful genIds

theorem run
    (lawful : env.primitives.Lawful)
    (genIds : List (Option Text))
    {events : List Event}
    (given : ∀ event ∈ events, event.Plain env.primitives) :
    (Lib.run (Settings.step env) (Storage.fresh env genIds)
      events).Sealed env.primitives := by
  induction events using List.reverseRecOn with
  | nil => exact fresh lawful genIds
  | append_singleton events event inductionHypothesis =>
      rw [run_concat]
      exact (inductionHypothesis fun each member =>
        given each (List.mem_append_left _ member)).step lawful
          (given event (by simp))

end Sealed

end Storage

/-! ## Restarts -/

/-- What a setter has put in place, unless the code ignores the call. -/
def Event.Took (env : Env) (before after : Storage) : Event → Prop
  | .setPermanentPassword password =>
      env.hardSettings.lookup "password".toList ≠ some password →
        after.config.password = password
  | .setUnlockPin pin => after.config2.unlockPin = pin
  | .setSocks socks =>
      before.config2.socks = socks ∨ before.ignoresSocks env socks = false →
        after.config2.socks = socks
  | .setPeerOption id key value =>
      id ∈ before.peers → ∃ config, after.peers.lookup id = some config ∧
        (config.options.lookup key).getD [] = value
  | .rememberPassword id password =>
      id ∈ before.peers → ∃ config, after.peers.lookup id = some config ∧
        config.password = password
  | _ => True

/-- What starting again twice gives of the secrets in memory. -/
structure Storage.Survives (env : Env) (storage : Storage)
    (genIds laterGenIds : List (Option Text)) : Prop where
  password : (storage.restart env genIds).config.password =
    kept storage.config.password
  unlockPin : (storage.restart env genIds).config2.unlockPin =
    kept storage.config2.unlockPin
  socks : (storage.restart env genIds).config2.socks =
    storage.config2.socks.map Socks5Server.kept
  peers : ∀ id config, storage.peers.lookup id = some config →
    ((storage.restart env genIds).openPeer env id).peers.lookup id =
      some config.kept
  /-- A second load of the password does not ask to store it. -/
  quiet : ((strField env.primitives).read
    (storage.restart env genIds).file.password).store = false
  /-- A second load stores a `Config` only for want of an identifier. -/
  quietConfig : (Config.load env.primitives laterGenIds
      (storage.restart env genIds).file).store = true →
    ((strField env.primitives).read
      (storage.restart env genIds).file.encId).success = false
  quietConfig2 :
    ((storage.restart env genIds).file2.load env.primitives).store = false
  quietPeers : ∀ id, (((storage.restart env genIds).peerFile id).load
    env.primitives).store = false

namespace Storage

variable {env : Env} {storage : Storage}

/-- Files that hold the secrets in memory give back what is kept of them. -/
theorem Sealed.survives
    (lawful : env.primitives.Lawful)
    (holds : storage.Sealed env.primitives)
    (genIds laterGenIds : List (Option Text)) :
    storage.Survives env genIds laterGenIds := by
  have faithful := strField_faithful lawful
  have after := holds.restart lawful genIds
  have loaded2 : storage.file2.load env.primitives =
      ⟨storage.config2.kept, false⟩ := by
    rw [holds.file2_eq, holds.plain2.load_store lawful]
  have quiet := congrArg Decrypted.store (faithful.read_sealed after.password)
  exact {
    password := by
      simp only [Storage.restart, load_password,
        faithful.read_sealed holds.password]
    unlockPin := by
      simp only [Storage.restart, loaded2, Config2.kept]
    socks := by
      simp only [Storage.restart, loaded2, Config2.kept]
    peers := by
      intro id config lookup_eq
      obtain ⟨plain, file_eq⟩ := holds.peers id config lookup_eq
      have same : (storage.restart env genIds).peerFile id =
          config.store env.primitives := file_eq
      simp [Storage.openPeer, Storage.loadPeer, same,
        plain.load_store lawful]
    quiet := quiet
    quietConfig := by
      intro stores
      by_contra known
      rw [Bool.not_eq_false] at known
      have idQuiet : ((strField env.primitives).read _).store = false :=
        decryptStr_store_of_success known
      simp [Config.load, known, quiet, idQuiet] at stores
    quietConfig2 := by
      rw [after.file2_eq, after.plain2.load_store lawful]
    quietPeers := by
      intro id
      obtain ⟨config, plain, file_eq⟩ := after.peerFiles id
      rw [file_eq, plain.load_store lawful] }

@[simp] theorem loadPeer_peers (id : Text) :
    (storage.loadPeer env id).2.peers = storage.peers := by
  simp only [loadPeer]
  split <;> rfl

end Storage

/-- A setter whose call is not ignored puts its value in place. -/
theorem took_step
    (env : Env)
    (storage : Storage)
    (event : Event) :
    event.Took env storage (step env storage event) := by
  cases event with
  | setPermanentPassword password =>
      intro notHard
      simp only [step, Storage.setPermanentPassword, if_neg notHard]
      split
      case isTrue same => exact same.symm
      case isFalse => rfl
  | setUnlockPin pin =>
      simp only [Event.Took, step, Storage.setUnlockPin]
      split
      case isTrue same => exact same.symm
      case isFalse => rfl
  | setSocks socks =>
      intro taken
      simp only [step, Storage.setSocks]
      split
      case isTrue ignored =>
        cases taken with
        | inl same => exact same
        | inr notIgnored => rw [ignored] at notIgnored; cases notIgnored
      case isFalse => rfl
  | setPeerOption id key value =>
      intro opened
      obtain ⟨handler, handler_eq⟩ := Finmap.mem_iff.mp opened
      simp only [step, Storage.setPeerOption, handler_eq]
      split
      case isTrue same =>
        exact ⟨handler, by rw [Storage.loadPeer_peers, handler_eq], same.symm⟩
      case isFalse =>
        refine ⟨_, Finmap.lookup_insert _, ?_⟩
        rw [Finmap.lookup_insert, Option.getD_some]
  | rememberPassword id password =>
      intro opened
      obtain ⟨handler, handler_eq⟩ := Finmap.mem_iff.mp opened
      simp only [step, Storage.rememberPassword, handler_eq]
      exact ⟨_, Finmap.lookup_insert _, rfl⟩
  | _ => trivial

/--
A secret that a setter put in place is, as far as files keep it, what a restart
gives back, in every state of every run, and a second load stores nothing.
-/
theorem secrets_survive_restart
    (env : Env)
    (lawful : env.primitives.Lawful)
    (firstGenIds genIds laterGenIds : List (Option Text))
    (events : List Event)
    (event : Event)
    (given : ∀ each ∈ events ++ [event], each.Plain env.primitives) :
    event.Took env (run (step env) (Storage.fresh env firstGenIds) events)
        (run (step env) (Storage.fresh env firstGenIds) (events ++ [event])) ∧
      (run (step env) (Storage.fresh env firstGenIds)
        (events ++ [event])).Survives env genIds laterGenIds := by
  refine ⟨?_, (Storage.Sealed.run lawful firstGenIds given).survives lawful
    genIds laterGenIds⟩
  rw [run_concat]
  exact took_step env _ event

/-- Nothing is set but what a test sets. -/
def plainEnv : Env where
  primitives := clearPrimitives
  defaultSettings := ∅
  overwriteSettings := ∅
  hardSettings := ∅

/-- A pin and a password of a peer, set one after the other. -/
theorem secrets_survive_restart_pin :
    (∀ each ∈ [Event.openPeer "7".toList] ++
        [Event.setUnlockPin "1234".toList],
      each.Plain plainEnv.primitives) ∧
      (Event.setUnlockPin "1234".toList).Took plainEnv
        (run (step plainEnv) (Storage.fresh plainEnv [])
          [Event.openPeer "7".toList])
        (run (step plainEnv) (Storage.fresh plainEnv [])
          ([Event.openPeer "7".toList] ++
            [Event.setUnlockPin "1234".toList])) ∧
      (run (step plainEnv) (Storage.fresh plainEnv [])
        ([Event.openPeer "7".toList] ++
          [Event.setUnlockPin "1234".toList])).Survives plainEnv [] [] := by
  have given : ∀ each ∈ [Event.openPeer "7".toList] ++
      [Event.setUnlockPin "1234".toList],
      each.Plain plainEnv.primitives := by
    simp only [List.cons_append, List.nil_append, List.forall_mem_cons]
    exact ⟨trivial, rfl, by simp⟩
  exact ⟨given, secrets_survive_restart plainEnv clearPrimitives_lawful [] [] []
    [.openPeer "7".toList] (.setUnlockPin "1234".toList) given⟩

/-- A pin that does not begin like a ciphertext is none. -/
theorem plain_of_not_prefix
    {p : Primitives}
    {secret : Text}
    (other : ¬ passwordEncVersion <+: secret) :
    (strField p).Plain secret := by
  simp only [FieldCodec.Plain, strField, decryptStrOrOriginal]
  rw [if_neg fun both => other both.2]

/-- A pin of 129 characters is no ciphertext, and a restart gives nothing back. -/
theorem long_pin_is_dropped :
    (strField plainEnv.primitives).Plain (List.replicate 129 '1') ∧
      (run (step plainEnv) (Storage.fresh plainEnv [])
          [.setUnlockPin (List.replicate 129 '1')]).config2.unlockPin =
        List.replicate 129 '1' ∧
      (run (step plainEnv) (Storage.fresh plainEnv [])
          [.setUnlockPin (List.replicate 129 '1'), .restart []]).config2.unlockPin ≠
        List.replicate 129 '1' := by
  have plain : (strField plainEnv.primitives).Plain (List.replicate 129 '1') :=
    plain_of_not_prefix (by simp [passwordEncVersion, List.replicate_succ])
  have taken := took_step plainEnv (Storage.fresh plainEnv [])
    (.setUnlockPin (List.replicate 129 '1'))
  have holds : (step plainEnv (Storage.fresh plainEnv [])
      (.setUnlockPin (List.replicate 129 '1'))).Sealed plainEnv.primitives :=
    (Storage.Sealed.fresh clearPrimitives_lawful []).step clearPrimitives_lawful
      plain
  have restarted := (holds.survives clearPrimitives_lawful [] []).unlockPin
  refine ⟨plain, taken, ?_⟩
  rw [run_cons, run_cons, run_nil]
  simp only [step] at restarted taken ⊢
  rw [restarted, taken, kept, if_neg (by simp [encryptMaxLen])]
  simp

end Settings
end OneDesk
