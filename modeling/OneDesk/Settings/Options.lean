import OneDesk.Settings.Storage

/-!
# Layered options

An option is looked up among the overwriting settings, then among the stored
options, then among the defaults.  There are two getters and two setters, and
this module says how far they agree: always, but for an empty value that
`set_options` stores in front of a default.
-/

namespace OneDesk
namespace Settings

open OneDesk.Lib

/-- `get_or` -/
def getOr (a b c : Options) (key : Text) : Option Text :=
  ((a.lookup key).or (b.lookup key)).or (c.lookup key)

variable (env : Env)

/-- `is_option_can_save` -/
def isOptionCanSave (key value : Text) : Bool :=
  !((env.overwriteSettings.lookup key).isSome ||
    env.defaultSettings.lookup key = some value)

/-- `Config::purify_options` -/
def purifyOptions (options : Options) : Options :=
  options.retain (isOptionCanSave env)

namespace Storage

variable (storage : Storage)

/-- Put the stored options in place and store them. -/
def storeOptions (options : Options) : Storage :=
  storage.storeConfig2 env { storage.config2 with options }

/-- `Config::get_options` -/
def getOptions : Options :=
  (env.defaultSettings.extend storage.config2.options).extend
    env.overwriteSettings

/-- `Config::set_options` -/
def setOptions (options : Options) : Storage :=
  let purified := purifyOptions env options
  if storage.config2.options = purified then storage
  else storage.storeOptions env purified

/-- `Config::get_option` -/
def getOption (key : Text) : Text :=
  (getOr env.overwriteSettings storage.config2.options env.defaultSettings
    key).getD []

/-- `Config::set_option` -/
def setOption (key value : Text) : Storage :=
  let options := storage.config2.options
  if !isOptionCanSave env key value then
    if (options.lookup key).isSome then
      storage.storeOptions env (options.erase key)
    else storage
  else
    let value2 := if value = [] then none else some value
    if value2 ≠ options.lookup key then
      if value2.isNone then storage.storeOptions env (options.erase key)
      else storage.storeOptions env (options.insert key value)
    else storage

end Storage

/-- What may happen to the configurations. -/
inductive Event
  | setId (id : Text)
  | setPermanentPassword (password : Text)
  | setUnlockPin (pin : Text)
  | setSocks (socks : Option Socks5Server)
  | setOption (key value : Text)
  | setOptions (options : Options)
  | openPeer (id : Text)
  | setPeerOption (id key value : Text)
  | rememberPassword (id : Text) (password : Bytes)
  | restart (genIds : List (Option Text))

/-- The configurations after one event. -/
def step (storage : Storage) : Event → Storage
  | .setId id => storage.setId env id
  | .setPermanentPassword password => storage.setPermanentPassword env password
  | .setUnlockPin pin => storage.setUnlockPin env pin
  | .setSocks socks => storage.setSocks env socks
  | .setOption key value => storage.setOption env key value
  | .setOptions options => storage.setOptions env options
  | .openPeer id => storage.openPeer env id
  | .setPeerOption id key value => storage.setPeerOption env id key value
  | .rememberPassword id password => storage.rememberPassword env id password
  | .restart genIds => storage.restart env genIds

/-! ## The stored options after each call -/

namespace Storage

variable {env} {storage : Storage}

@[simp] theorem storeOptions_options (options : Options) :
    (storage.storeOptions env options).config2.options = options := rfl

theorem setOptions_options (options : Options) :
    (storage.setOptions env options).config2.options =
      purifyOptions env options := by
  simp only [setOptions]
  split
  case isTrue same => exact same
  case isFalse => rfl

/-- After `set_option` a key is stored with the value it was given, or not at all. -/
theorem lookup_setOption
    (key value other : Text) :
    (storage.setOption env key value).config2.options.lookup other =
      if other = key then
        if isOptionCanSave env key value ∧ value ≠ [] then some value else none
      else storage.config2.options.lookup other := by
  by_cases same : other = key
  · subst same
    unfold setOption
    by_cases canSave : isOptionCanSave env other value
    · by_cases empty : value = []
      · subst empty
        by_cases stored : storage.config2.options.lookup other = none
        · simp [canSave, stored]
        · simp [canSave, Ne.symm stored]
      · by_cases stored : storage.config2.options.lookup other = some value
        · simp [canSave, empty, stored]
        · simp [canSave, empty, Ne.symm stored]
    · by_cases stored : (storage.config2.options.lookup other).isSome
      · simp [canSave, stored]
      · have absent := Option.not_isSome_iff_eq_none.mp stored
        simp [canSave, absent]
  · rw [if_neg same]
    unfold setOption
    grind [storeOptions_options, Finmap.lookup_erase_ne,
      Finmap.lookup_insert_of_ne]

/-- Setting keys one after another sets each of them once. -/
theorem lookup_foldl_setOption
    (valueOf : Text → Text)
    (keys : List Text)
    (other : Text) :
    (keys.foldl
        (fun current key => current.setOption env key (valueOf key))
        storage).config2.options.lookup other =
      if other ∈ keys then
        if isOptionCanSave env other (valueOf other) ∧ valueOf other ≠ [] then
          some (valueOf other)
        else none
      else storage.config2.options.lookup other := by
  induction keys generalizing storage with
  | nil => simp
  | cons key keys inductionHypothesis =>
      rw [List.foldl_cons, inductionHypothesis, lookup_setOption]
      by_cases member : other ∈ keys
      · simp [member]
      · by_cases same : other = key
        · subst same
          simp [member]
        · simp [member, same]

end Storage

/-! ## What the getters show -/

/-- What is shown of a key that has these entries in the three layers. -/
def shown (overwritten stored default : Option Text) : Text :=
  ((overwritten.or stored).or default).getD []

namespace Storage

variable {env} {storage : Storage}

theorem getOption_eq_shown (key : Text) :
    storage.getOption env key =
      shown (env.overwriteSettings.lookup key)
        (storage.config2.options.lookup key)
        (env.defaultSettings.lookup key) := rfl

/-- The two getters agree. -/
theorem getOption_eq_getOptions (key : Text) :
    storage.getOption env key =
      ((storage.getOptions env).lookup key).getD [] := by
  rw [getOption_eq_shown, getOptions, Table.lookup_extend, Table.lookup_extend,
    shown, Option.or_assoc]

/-- What a key shows after it was set. -/
theorem getOption_setOption_self
    (key value : Text) :
    (storage.setOption env key value).getOption env key =
      (env.overwriteSettings.lookup key).getD
        (if value ≠ [] then value
          else (env.defaultSettings.lookup key).getD []) := by
  rw [getOption_eq_shown, lookup_setOption, if_pos rfl]
  cases overwritten : env.overwriteSettings.lookup key with
  | some kept => rfl
  | none =>
      by_cases isDefault : env.defaultSettings.lookup key = some value
      · simp [shown, isOptionCanSave, overwritten, isDefault]
      · by_cases empty : value = []
        · simp [shown, empty]
        · simp [shown, isOptionCanSave, overwritten, isDefault, empty]

theorem getOption_setOption_of_ne
    {key other : Text}
    (value : Text)
    (different : other ≠ key) :
    (storage.setOption env key value).getOption env other =
      storage.getOption env other := by
  rw [getOption_eq_shown, lookup_setOption, if_neg different,
    getOption_eq_shown]

end Storage

/-! ## Setting all options or each of them -/

/-- No empty value is put in front of a default that is not empty. -/
def SparesDefaults (options : Options) : Prop :=
  ∀ key, options.lookup key = some [] →
    env.overwriteSettings.lookup key = none →
      ∀ default, env.defaultSettings.lookup key = some default → default = []

/--
Setting a table of options shows the same as setting each key of the table, or
stored before, to its value in the table or to nothing.
-/
def SetsAlike (storage : Storage) (options : Options) : Prop :=
  ∀ keys : List Text,
    (∀ key, key ∈ keys ↔ key ∈ options ∨ key ∈ storage.config2.options) →
      ∀ key, (storage.setOptions env options).getOption env key =
        (keys.foldl
          (fun current each =>
            current.setOption env each ((options.lookup each).getD []))
          storage).getOption env key

variable {env}

/-- What one key shows after the table was set and after each key was set. -/
theorem shown_alike_iff
    (key : Text)
    (given : Option Text) :
    shown (env.overwriteSettings.lookup key)
          (given.filter (isOptionCanSave env key))
          (env.defaultSettings.lookup key) =
        shown (env.overwriteSettings.lookup key)
          (if isOptionCanSave env key (given.getD []) ∧ given.getD [] ≠ [] then
            some (given.getD [])
          else none)
          (env.defaultSettings.lookup key) ↔
      (given = some [] → env.overwriteSettings.lookup key = none →
        ∀ default, env.defaultSettings.lookup key = some default →
          default = []) := by
  cases overwritten : env.overwriteSettings.lookup key with
  | some value => simp [shown]
  | none =>
      cases given with
      | none => simp
      | some value =>
          by_cases empty : value = []
          · subst empty
            cases default_eq : env.defaultSettings.lookup key with
            | none =>
                simp [shown, Option.filter, isOptionCanSave, overwritten,
                  default_eq]
            | some default =>
                by_cases noDefault : default = []
                · subst noDefault
                  simp [shown, Option.filter, isOptionCanSave, overwritten,
                    default_eq]
                · simp [shown, Option.filter, isOptionCanSave, overwritten,
                    default_eq, noDefault, Ne.symm noDefault]
          · simp [Option.filter, empty]

theorem setsAlike_iff
    (storage : Storage)
    (options : Options) :
    SetsAlike env storage options ↔ SparesDefaults env options := by
  have reads (keys : List Text)
      (all : ∀ key, key ∈ keys ↔
        key ∈ options ∨ key ∈ storage.config2.options)
      (key : Text) :
      (keys.foldl
          (fun current each =>
            current.setOption env each ((options.lookup each).getD []))
          storage).config2.options.lookup key =
        if isOptionCanSave env key ((options.lookup key).getD []) ∧
            (options.lookup key).getD [] ≠ [] then
          some ((options.lookup key).getD [])
        else none := by
    rw [Storage.lookup_foldl_setOption
      (fun each => (options.lookup each).getD []) keys key]
    by_cases member : key ∈ keys
    · rw [if_pos member]
    · have absent := not_or.mp ((all key).not.mp member)
      rw [if_neg member, Finmap.lookup_eq_none.mpr absent.1,
        Finmap.lookup_eq_none.mpr absent.2]
      simp
  have alike (keys : List Text)
      (all : ∀ key, key ∈ keys ↔
        key ∈ options ∨ key ∈ storage.config2.options)
      (key : Text) :
      (storage.setOptions env options).getOption env key =
          (keys.foldl
            (fun current each =>
              current.setOption env each ((options.lookup each).getD []))
            storage).getOption env key ↔
        (options.lookup key = some [] →
          env.overwriteSettings.lookup key = none →
          ∀ default, env.defaultSettings.lookup key = some default →
            default = []) := by
    rw [Storage.getOption_eq_shown, Storage.getOption_eq_shown,
      Storage.setOptions_options, purifyOptions, Table.lookup_retain,
      reads keys all]
    exact shown_alike_iff key (options.lookup key)
  constructor
  · intro sets key
    let keys := (options.keys ∪ storage.config2.options.keys).toList
    have all : ∀ each, each ∈ keys ↔
        each ∈ options ∨ each ∈ storage.config2.options := by
      simp [keys, Finmap.mem_keys]
    exact (alike keys all key).mp (sets keys all key)
  · intro spares keys all key
    exact (alike keys all key).mpr (spares key)

/-! ## Runs -/

/-- The options in memory are those on disk, and all of them had to be saved. -/
structure OptionsSound (env : Env) (storage : Storage) : Prop where
  clean : ∀ key value, storage.config2.options.lookup key = some value →
    isOptionCanSave env key value = true
  saved : storage.file2.options = storage.config2.options

namespace OptionsSound

variable {storage : Storage}

theorem storeConfig2
    {config2 : Config2}
    (clean : ∀ key value, config2.options.lookup key = some value →
      isOptionCanSave env key value = true) :
    OptionsSound env (storage.storeConfig2 env config2) :=
  ⟨clean, rfl⟩

/-- A record stored with the options it had before. -/
theorem storeConfig2_of_eq
    (sound : OptionsSound env storage)
    {other : Storage}
    {config2 : Config2}
    (same : config2.options = storage.config2.options) :
    OptionsSound env (other.storeConfig2 env config2) := by
  apply OptionsSound.storeConfig2
  rw [same]
  exact sound.clean

/-- What leaves the second configuration and its file alone. -/
theorem of_eq
    (sound : OptionsSound env storage)
    {after : Storage}
    (config2_eq : after.config2 = storage.config2)
    (file2_eq : after.file2 = storage.file2) :
    OptionsSound env after where
  clean := by rw [config2_eq]; exact sound.clean
  saved := by rw [config2_eq, file2_eq]; exact sound.saved

theorem setOption
    (sound : OptionsSound env storage)
    (key value : Text) :
    OptionsSound env (storage.setOption env key value) where
  clean := by
    intro other stored lookup_eq
    rw [Storage.lookup_setOption] at lookup_eq
    split at lookup_eq
    case isTrue same =>
      split at lookup_eq
      case isTrue given =>
        obtain rfl := Option.some.inj lookup_eq
        rw [same]
        exact given.1
      case isFalse => cases lookup_eq
    case isFalse => exact sound.clean other stored lookup_eq
  saved := by
    simp only [Storage.setOption]
    repeat' split
    all_goals first | exact sound.saved | rfl

theorem setOptions
    (sound : OptionsSound env storage)
    (options : Options) :
    OptionsSound env (storage.setOptions env options) where
  clean := by
    intro key value lookup_eq
    rw [Storage.setOptions_options, purifyOptions, Table.lookup_retain,
      Option.filter_eq_some_iff] at lookup_eq
    exact lookup_eq.2
  saved := by
    simp only [Storage.setOptions]
    split
    · exact sound.saved
    · rfl

theorem restart
    (sound : OptionsSound env storage)
    (genIds : List (Option Text)) :
    OptionsSound env (storage.restart env genIds) where
  clean := by
    have loaded : (storage.restart env genIds).config2.options =
        storage.file2.options := rfl
    rw [loaded, sound.saved]
    exact sound.clean
  saved := by
    simp only [Storage.restart]
    split <;> rfl

theorem fresh (genIds : List (Option Text)) :
    OptionsSound env (Storage.fresh env genIds) := by
  apply OptionsSound.restart
  exact ⟨fun _ _ none => (by cases none), rfl⟩

end OptionsSound

namespace Storage

variable (storage : Storage) (id : Text)

@[simp] theorem loadPeer_config2 :
    (storage.loadPeer env id).2.config2 = storage.config2 := by
  simp only [loadPeer]
  split <;> rfl

@[simp] theorem loadPeer_file2 :
    (storage.loadPeer env id).2.file2 = storage.file2 := by
  simp only [loadPeer]
  split <;> rfl

end Storage

/-- No event puts an option in place that need not be stored. -/
theorem OptionsSound.step
    {storage : Storage}
    (sound : OptionsSound env storage)
    (event : Event) :
    OptionsSound env (step env storage event) := by
  cases event with
  | setId id =>
      simp only [Settings.step, Storage.setId]
      split
      · exact sound
      · exact sound.of_eq rfl rfl
  | setPermanentPassword password =>
      simp only [Settings.step, Storage.setPermanentPassword]
      split
      · exact sound
      · split
        · exact sound
        · exact sound.storeConfig2_of_eq rfl
  | setUnlockPin pin =>
      simp only [Settings.step, Storage.setUnlockPin]
      split
      · exact sound
      · exact sound.storeConfig2_of_eq rfl
  | setSocks socks =>
      simp only [Settings.step, Storage.setSocks]
      split
      · exact sound
      · exact sound.storeConfig2_of_eq rfl
  | setOption key value => exact sound.setOption key value
  | setOptions options => exact sound.setOptions options
  | openPeer id =>
      simp only [Settings.step, Storage.openPeer]
      exact sound.of_eq (storage.loadPeer_config2 id) (storage.loadPeer_file2 id)
  | setPeerOption id key value =>
      simp only [Settings.step, Storage.setPeerOption]
      split
      · exact sound
      · split
        · exact sound.of_eq (by simp) (by simp)
        · exact sound.of_eq (by simp [Storage.saveConfig])
            (by simp [Storage.saveConfig])
  | rememberPassword id password =>
      simp only [Settings.step, Storage.rememberPassword]
      split
      · exact sound
      · exact sound.of_eq (by simp [Storage.saveConfig])
          (by simp [Storage.saveConfig])
  | restart genIds => exact sound.restart genIds

theorem OptionsSound.run
    (env : Env)
    (genIds : List (Option Text))
    (events : List Event) :
    OptionsSound env
      (run (Settings.step env) (Storage.fresh env genIds) events) :=
  run_invariant_always (OptionsSound env)
    (fun _ event sound => sound.step event) events (.fresh genIds)

/-- What the layers promise of a state and of a table that is set in it. -/
structure Layered (env : Env) (storage : Storage) (options : Options) : Prop where
  /-- Both getters show the same. -/
  reads : ∀ key, storage.getOption env key =
    ((storage.getOptions env).lookup key).getD []
  /-- A key that was set shows its value unless it is overwritten or empty. -/
  sets : ∀ key value, (storage.setOption env key value).getOption env key =
    (env.overwriteSettings.lookup key).getD
      (if value ≠ [] then value
        else (env.defaultSettings.lookup key).getD [])
  /-- Setting a key changes no other. -/
  leaves : ∀ key value other, other ≠ key →
    (storage.setOption env key value).getOption env other =
      storage.getOption env other
  /-- Setting a table is setting its keys and removing the others. -/
  alike : SetsAlike env storage options
  /-- No overwritten key is stored. -/
  notOverwritten : ∀ key value, storage.config2.options.lookup key = some value →
    env.overwriteSettings.lookup key = none
  /-- No default is stored. -/
  notDefault : ∀ key value, storage.config2.options.lookup key = some value →
    env.defaultSettings.lookup key ≠ some value

/--
In every state of every run the layers keep their promise exactly for the tables
that put no empty value in front of a default.
-/
theorem layered_iff
    (env : Env)
    (genIds : List (Option Text))
    (events : List Event)
    (options : Options) :
    Layered env (run (step env) (Storage.fresh env genIds) events) options ↔
      SparesDefaults env options := by
  constructor
  · intro layered
    exact (setsAlike_iff _ options).mp layered.alike
  · intro spares
    have sound := OptionsSound.run env genIds events
    have apart (key value : Text)
        (stored : (run (step env) (Storage.fresh env genIds)
          events).config2.options.lookup key = some value) :
        env.overwriteSettings.lookup key = none ∧
          env.defaultSettings.lookup key ≠ some value := by
      simpa [isOptionCanSave] using sound.clean key value stored
    exact {
      reads := Storage.getOption_eq_getOptions
      sets := Storage.getOption_setOption_self
      leaves := fun key value other => Storage.getOption_setOption_of_ne value
      alike := (setsAlike_iff _ options).mpr spares
      notOverwritten := fun key value stored => (apart key value stored).1
      notDefault := fun key value stored => (apart key value stored).2 }

/-- One option has the default "Y" and nothing is overwritten. -/
def defaultingEnv : Env where
  primitives := clearPrimitives
  defaultSettings := Finmap.singleton "k".toList "Y".toList
  overwriteSettings := ∅
  hardSettings := ∅

/-- An empty value set with a table hides the default that `set_option` shows. -/
theorem empty_value_hides_default :
    ¬ Layered defaultingEnv (Storage.fresh defaultingEnv [])
      (Finmap.singleton "k".toList []) := by
  intro layered
  have spares := (setsAlike_iff _ _).mp layered.alike
  have empty := spares "k".toList (by decide) (by decide) "Y".toList (by decide)
  cases empty

end Settings
end OneDesk
