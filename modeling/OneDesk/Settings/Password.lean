import OneDesk.Settings.Storage

/-!
# The permanent password

The password that is stored and the one that is built in.  The getter prefers
what is stored and the setter passes over what is built in, so that the one
set last is the one in force unless it is the built-in password while another
one is stored.
-/

namespace OneDesk
namespace Settings

open OneDesk.Lib

/-- The password in `HARD_SETTINGS`. -/
def Env.hardPassword (env : Env) : Option Text :=
  env.hardSettings.lookup "password".toList

namespace Storage

variable (env : Env) (storage : Storage)

/-- `Config::get_permanent_password` -/
def getPermanentPassword : Text :=
  let password := storage.config.password
  if password = [] then
    match env.hardSettings.lookup "password".toList with
    | some built => built
    | none => password
  else password

/-- The last password that is not built in, or else the stored one. -/
def lastTaken (env : Env) (stored : Text) (passwords : List Text) : Text :=
  (passwords.filter fun password =>
    env.hardPassword ≠ some password).getLastD stored

/-- One call stores the password that it is given, unless that is built in. -/
theorem setPermanentPassword_password (password : Text) :
    (storage.setPermanentPassword env password).config.password =
      if env.hardPassword = some password then storage.config.password
      else password := by
  rw [setPermanentPassword, Env.hardPassword]
  split
  · rfl
  · split
    case isTrue same => exact same.symm
    case isFalse => rfl

/-- What is stored after some calls. -/
theorem run_setPermanentPassword_password (passwords : List Text) :
    (run (setPermanentPassword env) storage passwords).config.password =
      lastTaken env storage.config.password passwords := by
  induction passwords generalizing storage with
  | nil => rfl
  | cons password passwords inductionHypothesis =>
      rw [run_cons, inductionHypothesis, setPermanentPassword_password,
        lastTaken, lastTaken, List.filter_cons]
      by_cases built : env.hardPassword = some password
      · rw [if_pos built, if_neg (by simpa using built)]
      · rw [if_neg built, if_pos (by simpa using built), List.getLastD_cons]

/-- What is read is what is stored, and else what is built in. -/
theorem getPermanentPassword_eq_iff
    {password : Text}
    (given : password ≠ []) :
    storage.getPermanentPassword env = password ↔
      storage.config.password = password ∨
        storage.config.password = [] ∧ env.hardPassword = some password := by
  rw [getPermanentPassword, ← Env.hardPassword]
  by_cases stored : storage.config.password = []
  · cases built : env.hardPassword with
    | none => simp [stored]
    | some other => simp [stored, given.symm]
  · simp [stored]

/--
A password that is set takes effect exactly if it is not built in, or if the
last other password that was set or stored is none.
-/
theorem setPermanentPassword_takes_effect_iff
    (env : Env)
    (storage : Storage)
    (earlier : List Text)
    (password : Text)
    (given : password ≠ []) :
    (run (setPermanentPassword env) storage
        (earlier ++ [password])).getPermanentPassword env = password ↔
      (env.hardPassword = some password →
        lastTaken env storage.config.password earlier ∈ [[], password]) := by
  rw [getPermanentPassword_eq_iff env _ given, run_concat,
    setPermanentPassword_password, run_setPermanentPassword_password]
  by_cases built : env.hardPassword = some password
  · simp [built, or_comm]
  · simp [built]

/-- A build with one password, and no other setting. -/
def builtInEnv : Env where
  primitives := clearPrimitives
  defaultSettings := ∅
  overwriteSettings := ∅
  hardSettings := Finmap.singleton "password".toList "h".toList

theorem builtInEnv_hardPassword : builtInEnv.hardPassword = some "h".toList :=
  Finmap.lookup_singleton_eq

/-- Setting the built-in password once more, where nothing else was set. -/
theorem setPermanentPassword_takes_effect_iff_builtIn :
    (run (setPermanentPassword builtInEnv)
        { config := .empty, config2 := .empty, peers := ∅, file := .empty
          file2 := .empty, peerFiles := ∅ }
        (["h".toList] ++ ["h".toList])).getPermanentPassword builtInEnv =
      "h".toList := by
  have untouched : lastTaken builtInEnv [] ["h".toList] = [] := by
    simp [lastTaken, builtInEnv_hardPassword]
  exact (setPermanentPassword_takes_effect_iff builtInEnv _ ["h".toList]
    "h".toList (by decide)).mpr fun _ => by
      rw [show Config.empty.password = [] from rfl, untouched]
      decide

/-- With another password stored, setting the built-in one does nothing. -/
theorem builtIn_password_not_set :
    (run (setPermanentPassword builtInEnv)
        { config := { Config.empty with password := "x".toList }
          config2 := .empty, peers := ∅, file := .empty
          file2 := .empty, peerFiles := ∅ }
        ["h".toList]).getPermanentPassword builtInEnv ≠ "h".toList := by
  intro taken
  have stored := (getPermanentPassword_eq_iff builtInEnv _ (by decide)).mp taken
  rw [run_cons, run_nil, setPermanentPassword_password,
    if_pos builtInEnv_hardPassword] at stored
  exact absurd stored (by decide)

end Storage

end Settings
end OneDesk
