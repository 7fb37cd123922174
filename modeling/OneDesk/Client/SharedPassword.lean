import OneDesk.Client.LoginConfig

/-!
# Shared passwords are not kept

A password that is derived from a shared one is not to be stored.  Whether a password
is a shared one is found out by deriving it again, with the salt of the last `Hash`.
-/

namespace OneDesk
namespace Client

open OneDesk.Lib OneDesk.Stream LoginConfigHandler

variable {sha256 : Bytes → Bytes}

/-- What is taken for granted of SHA-256. -/
structure IsIdeal (sha256 : Bytes → Bytes) : Prop where
  injective : Function.Injective sha256
  nonempty : ∀ bytes, sha256 bytes ≠ []

/-- A password bears the note of a shared one only if it is derived from it, and its
source is the shared password or unknown. -/
def Secret.IsNoted
    (sha256 : Bytes → Bytes)
    (source : PasswordSource)
    (password : Secret) : Prop :=
  ∀ shared salt, password.origin = .shared shared salt →
    password.bytes = salted sha256 shared salt ∧
      (source = .sharedAb shared ∨ source = .undefined)

/-- A stage of `handle_hash` in which passwords are noted. -/
structure IsStage (sha256 : Bytes → Bytes) (stage : LoginConfigHandler × Secret) : Prop where
  noted : stage.2.IsNoted sha256 stage.1.passwordSource
  config : stage.1.config.password.origin = .own

/-- An act that gives no shared password away. -/
def LoginAct.IsOwn : LoginAct → Prop
  | .syncToPersonalAb _ password => password.origin = .own
  | _ => True

namespace Logins

/-- No shared password is stored, and none has been given away. -/
structure IsClean (logins : Logins) : Prop where
  config : logins.lc.config.password.origin = .own
  peers : ∀ id, (logins.peers id).password.origin = .own
  acts : ∀ act ∈ logins.acts, act.IsOwn

/-- The password of the handler is noted. -/
def IsNoted (sha256 : Bytes → Bytes) (logins : Logins) : Prop :=
  logins.lc.password.IsNoted sha256 logins.lc.passwordSource

/-- When the peer lets a session in that uses a shared password: the session does not
remember it, or it is stored already, or its source is known and the last `Hash` has
the salt it is derived with. -/
def Respects (logins : Logins) : LoginEvent → Prop
  | .peerInfo =>
      ∀ shared salt, logins.lc.password.origin = .shared shared salt →
        logins.lc.remember = false ∨
          logins.lc.password.bytes = logins.loadConfig.password.bytes ∨
          (logins.lc.passwordSource = .sharedAb shared ∧ logins.lc.hash.salt = salt)
  | _ => True

end Logins

theorem Secret.isNoted_of_own
    {source : PasswordSource}
    {password : Secret}
    (own : password.origin = .own) :
    password.IsNoted sha256 source := by
  intro shared salt isShared
  rw [own] at isShared
  cases isShared

theorem Secret.isNoted_shared (shared salt : String) :
    Secret.IsNoted sha256 (.sharedAb shared)
      ⟨salted sha256 shared salt, .shared shared salt⟩ := by
  rintro other otherSalt ⟨⟩
  exact ⟨rfl, .inl rfl⟩

/-! ## The stages of `handle_hash` -/

namespace IsStage

variable {context : HashContext} {hash : PasswordHash} {stage : LoginConfigHandler × Secret}

theorem presetPassword (isStage : IsStage sha256 stage) :
    IsStage sha256 (presetPassword sha256 context hash stage) := by
  obtain ⟨lc, password⟩ := stage
  rw [LoginConfigHandler.presetPassword]
  split
  · exact ⟨Secret.isNoted_of_own rfl, isStage.config⟩
  · exact isStage

theorem takeSharedPassword (isStage : IsStage sha256 stage) :
    IsStage sha256 (takeSharedPassword sha256 hash stage) := by
  obtain ⟨lc, password⟩ := stage
  rw [LoginConfigHandler.takeSharedPassword]
  split
  · exact isStage
  · split
    · exact ⟨Secret.isNoted_shared _ _, isStage.config⟩
    · exact ⟨isStage.noted, isStage.config⟩

theorem peerConfigPassword (isStage : IsStage sha256 stage) :
    IsStage sha256 (peerConfigPassword stage) := by
  obtain ⟨lc, password⟩ := stage
  rw [LoginConfigHandler.peerConfigPassword]
  split
  · split
    · exact ⟨Secret.isNoted_of_own isStage.config, isStage.config⟩
    · exact ⟨Secret.isNoted_of_own isStage.config, isStage.config⟩
  · exact isStage

theorem personalAbPassword (isStage : IsStage sha256 stage) :
    IsStage sha256 (personalAbPassword context stage) := by
  obtain ⟨lc, password⟩ := stage
  rw [LoginConfigHandler.personalAbPassword]
  split
  · split
    · exact ⟨Secret.isNoted_of_own rfl, isStage.config⟩
    · exact isStage
  · exact isStage

theorem defaultPassword (isStage : IsStage sha256 stage) :
    IsStage sha256 (defaultPassword sha256 context hash stage) := by
  obtain ⟨lc, password⟩ := stage
  rw [LoginConfigHandler.defaultPassword]
  split
  · exact ⟨Secret.isNoted_shared _ _, isStage.config⟩
  · exact isStage

/-- A password that is chosen is noted. -/
theorem choosePassword
    {lc : LoginConfigHandler}
    (isStage : IsStage sha256 (lc, lc.password)) :
    IsStage sha256 (choosePassword sha256 context hash lc) :=
  isStage.presetPassword.takeSharedPassword.peerConfigPassword.personalAbPassword.defaultPassword

end IsStage

namespace Logins

variable {logins : Logins}

/-! ## What keeps the stored passwords clean -/

namespace IsClean

theorem withLc
    (clean : logins.IsClean)
    {lc : LoginConfigHandler}
    (own : lc.config.password.origin = .own) :
    IsClean { logins with lc := lc } :=
  ⟨own, clean.peers, clean.acts⟩

theorem tell (clean : logins.IsClean) {act : LoginAct} (own : act.IsOwn) :
    (logins.tell act).IsClean := by
  refine ⟨clean.config, clean.peers, fun told member => ?_⟩
  rcases List.mem_append.mp member with before | isAct
  · exact clean.acts told before
  · rw [List.mem_singleton.mp isAct]
    exact own

theorem saveConfig
    (clean : logins.IsClean)
    {config : PeerConfig}
    (own : config.password.origin = .own) :
    (logins.saveConfig config).IsClean := by
  refine ⟨own, fun id => ?_, clean.acts⟩
  simp only [Logins.saveConfig]
  split
  · exact own
  · exact clean.peers id

theorem setOption (clean : logins.IsClean) (k v : String) :
    (logins.setOption k v).IsClean := by
  unfold Logins.setOption
  split
  · exact clean
  · exact clean.saveConfig (clean.peers logins.lc.id)

/-- A handler that is changed, and told of, while its configuration is not. -/
theorem withLcTold
    (clean : logins.IsClean)
    {lc : LoginConfigHandler}
    {act : LoginAct}
    (config : lc.config.password.origin = .own)
    (own : act.IsOwn) :
    (Logins.tell { logins with lc := lc } act).IsClean :=
  (clean.withLc config).tell own

theorem handleHash
    (clean : logins.IsClean)
    (noted : logins.IsNoted sha256)
    (context : HashContext)
    (hash : PasswordHash) :
    (logins.handleHash sha256 context hash).IsClean ∧
      (logins.handleHash sha256 context hash).IsNoted sha256 := by
  unfold Logins.handleHash
  dsimp only
  split
  · refine ⟨?_, fun shared salt isShared => ⟨(noted shared salt isShared).1, .inr rfl⟩⟩
    apply clean.withLcTold
    · exact clean.config
    · trivial
  · have stage : IsStage sha256
        ({ logins.lc with hash := hash, switchUuid := none }, logins.lc.password) :=
      ⟨noted, clean.config⟩
    have chosen : IsStage sha256 (choosePassword sha256 context hash
        { logins.lc with hash := hash, switchUuid := none }) :=
      stage.choosePassword
    split
    · refine ⟨?_, chosen.noted⟩
      apply clean.withLcTold
      · exact chosen.config
      · trivial
    · split
      · refine ⟨?_, chosen.noted⟩
        apply tell
        · apply clean.withLcTold
          · exact chosen.config
          · trivial
        · trivial
      · refine ⟨?_, chosen.noted⟩
        apply clean.withLcTold
        · exact chosen.config
        · trivial

theorem handleLoginFromUi
    (clean : logins.IsClean)
    (noted : logins.IsNoted sha256)
    (osUsername osPassword password : String)
    (remember : Bool) :
    (logins.handleLoginFromUi sha256 osUsername osPassword password remember).IsClean ∧
      (logins.handleLoginFromUi sha256 osUsername osPassword password remember).IsNoted
        sha256 := by
  unfold Logins.handleLoginFromUi
  dsimp only
  constructor
  · apply clean.withLcTold
    · split
      · split
        · split <;> exact clean.config
        · exact clean.config
      · exact clean.config
    · trivial
  · split
    · split
      · split <;> exact Secret.isNoted_of_own clean.config
      · exact noted
    · exact Secret.isNoted_of_own rfl

theorem handleLoginError
    (clean : logins.IsClean)
    (noted : logins.IsNoted sha256)
    (err : String) :
    (logins.handleLoginError err).2.IsClean ∧
      (logins.handleLoginError err).2.IsNoted sha256 := by
  have forgotten : logins.forgetPassword.IsClean := clean.withLc clean.config
  unfold Logins.handleLoginError
  split
  · exact ⟨tell forgotten trivial, Secret.isNoted_of_own rfl⟩
  · split
    · exact ⟨tell forgotten trivial, Secret.isNoted_of_own rfl⟩
    · split
      · dsimp only
        split
        · refine ⟨tell (setOption clean _ _) trivial, ?_⟩
          unfold Logins.setOption
          split <;> exact noted
        · exact ⟨tell clean trivial, noted⟩
      · split
        · exact ⟨tell clean trivial, noted⟩
        · exact ⟨tell clean trivial, noted⟩

theorem initialized
    (clean : logins.IsClean)
    (noted : logins.IsNoted sha256)
    (args : InitializeArgs)
    (asNew withToken : Bool) :
    (logins.step sha256 (.initialized args asNew withToken)).IsClean ∧
      (logins.step sha256 (.initialized args asNew withToken)).IsNoted sha256 := by
  refine ⟨clean.withLc (clean.peers args.id), ?_⟩
  have new : Secret.IsNoted sha256 LoginConfigHandler.new.passwordSource
      LoginConfigHandler.new.password :=
    Secret.isNoted_of_own rfl
  have handed : ∀ lc : LoginConfigHandler,
      lc.password.IsNoted sha256 lc.passwordSource →
        ∀ token, token = none ∨ token = some (⟨logins.lc.password, logins.lc.passwordSource,
          logins.lc.sessionId⟩ : ConnToken) →
        (lc.initialized logins.peers args token).password.IsNoted sha256
          (lc.initialized logins.peers args token).passwordSource := by
    rintro lc own token (rfl | rfl)
    · exact own
    · exact noted
  apply handed
  · split
    · exact new
    · exact noted
  · split
    · unfold getConnToken
      split
      · exact .inl rfl
      · exact .inr rfl
    · exact .inl rfl

end IsClean

/-! ## What is stored when the peer lets a session in -/

@[simp] theorem insert_password (config : PeerConfig) (key value : String) :
    (config.insert key value).password = config.password :=
  rfl

/-- The password that is stored. -/
theorem peerInfoConfig_password :
    (logins.peerInfoConfig sha256).password =
      if logins.lc.remember then
        if logins.lc.password.bytes ≠ [] ∧
            logins.lc.password.bytes ≠ logins.loadConfig.password.bytes ∧
            !logins.lc.passwordSource.isSharedAb sha256 logins.lc.password.bytes
              logins.lc.hash then
          logins.lc.password
        else logins.loadConfig.password
      else if logins.lc.passwordSource.isPersonalAb logins.lc.password.bytes then
        logins.lc.password
      else if logins.loadConfig.password.bytes ≠ [] then .own []
      else logins.loadConfig.password := by
  unfold peerInfoConfig
  dsimp only
  simp only [apply_ite PeerConfig.password, insert_password, ite_self]
  split
  · split <;> simp only [apply_ite PeerConfig.password, insert_password]
  · simp only [apply_ite PeerConfig.password]

/-- What is saved and given away is what is stored. -/
theorem handlePeerInfo_isClean_iff (clean : logins.IsClean) :
    (logins.handlePeerInfo sha256).IsClean ↔
      (logins.peerInfoConfig sha256).password.origin = .own := by
  constructor
  · intro after
    have config := after.config
    unfold handlePeerInfo at config
    dsimp only at config
    split at config <;> exact config
  · intro own
    unfold handlePeerInfo
    dsimp only
    split
    · have told : (logins.tell
          (.syncToPersonalAb logins.lc.id (logins.peerInfoConfig sha256).password)).IsClean :=
        clean.tell own
      exact told.saveConfig own
    · exact clean.saveConfig own

/-- A shared password is recognized by its source and its salt. -/
theorem isSharedAb_iff
    (ideal : IsIdeal sha256)
    {source : PasswordSource}
    {shared salt : String}
    (known : source = .sharedAb shared ∨ source = .undefined)
    (hash : PasswordHash) :
    source.isSharedAb sha256 (salted sha256 shared salt) hash = true ↔
      source = .sharedAb shared ∧ hash.salt = salt := by
  have given : salted sha256 shared salt ≠ [] := ideal.nonempty _
  rcases known with rfl | rfl
  · rw [PasswordSource.isSharedAb, if_neg given]
    simp only [PasswordSource.equal, beq_iff_eq, true_and]
    constructor
    · intro same
      have texts := List.append_cancel_left (ideal.injective same)
      have chars := congrArg fromUtf8Lossy texts
      rw [fromUtf8Lossy_utf8, fromUtf8Lossy_utf8] at chars
      exact (String.toList_inj.mp chars).symm
    · intro same
      rw [same]
  · simp [PasswordSource.isSharedAb]

/-- Where the password of the session is not a shared one, none is stored. -/
theorem peerInfoConfig_own
    (stored : logins.loadConfig.password.origin = .own)
    (own : logins.lc.password.origin = .own) :
    (logins.peerInfoConfig sha256).password.origin = .own := by
  rw [peerInfoConfig_password]
  split
  · split
    · exact own
    · exact stored
  · split
    · exact own
    · split
      · rfl
      · exact stored

/-- What the shared password of a session asks of it. -/
theorem respects_peerInfo_iff
    {shared salt : String}
    (origin : logins.lc.password.origin = .shared shared salt) :
    logins.Respects .peerInfo ↔
      logins.lc.remember = false ∨
        logins.lc.password.bytes = logins.loadConfig.password.bytes ∨
        (logins.lc.passwordSource = .sharedAb shared ∧ logins.lc.hash.salt = salt) := by
  constructor
  · intro all
    exact all shared salt origin
  · intro one other otherSalt isOther
    rw [origin] at isOther
    cases isOther
    exact one

/-- A shared password is kept out of the configuration exactly if it is not remembered, or
stored already, or recognized. -/
theorem peerInfoConfig_shared
    {shared salt : String}
    (stored : logins.loadConfig.password.origin = .own)
    (origin : logins.lc.password.origin = .shared shared salt)
    (given : logins.lc.password.bytes ≠ [])
    (notPersonal :
      logins.lc.passwordSource.isPersonalAb logins.lc.password.bytes = false) :
    (logins.peerInfoConfig sha256).password.origin = .own ↔
      logins.lc.remember = false ∨
        logins.lc.password.bytes = logins.loadConfig.password.bytes ∨
        logins.lc.passwordSource.isSharedAb sha256 logins.lc.password.bytes logins.lc.hash =
          true := by
  rw [peerInfoConfig_password, notPersonal]
  cases logins.lc.remember with
  | false =>
      refine iff_of_true ?_ (.inl rfl)
      simp only [Bool.false_eq_true, if_false]
      split
      · rfl
      · exact stored
  | true =>
      simp only [if_true, Bool.true_eq_false, false_or]
      split
      · next kept =>
          refine iff_of_false ?_ ?_
          · rw [origin]
            intro same
            cases same
          · rintro (same | isShared)
            · exact kept.2.1 same
            · simp [isShared] at kept
      · next notKept =>
          refine iff_of_true stored ?_
          by_contra neither
          rw [not_or, Bool.not_eq_true] at neither
          exact notKept ⟨given, neither.1, by rw [neither.2]; rfl⟩

/-- A step that the peer lets a session in with keeps the stored passwords clean exactly
if it respects the shared one. -/
theorem peerInfo_isClean_iff
    (ideal : IsIdeal sha256)
    (clean : logins.IsClean)
    (noted : logins.IsNoted sha256) :
    (logins.handlePeerInfo sha256).IsClean ↔ logins.Respects .peerInfo := by
  rw [handlePeerInfo_isClean_iff clean]
  have stored : logins.loadConfig.password.origin = .own := clean.peers logins.lc.id
  rcases origin : logins.lc.password.origin with _ | ⟨shared, salt⟩
  · refine iff_of_true (peerInfoConfig_own stored origin) fun shared salt isShared => ?_
    rw [origin] at isShared
    cases isShared
  · obtain ⟨bytes, known⟩ := noted shared salt origin
    have given : logins.lc.password.bytes ≠ [] := bytes ▸ ideal.nonempty _
    have notPersonal : logins.lc.passwordSource.isPersonalAb logins.lc.password.bytes = false := by
      rcases known with isShared | isUndefined
      · simp [PasswordSource.isPersonalAb, isShared]
      · simp [PasswordSource.isPersonalAb, isUndefined]
    have recognized : _ ↔ _ ∧ _ = salt := isSharedAb_iff ideal known logins.lc.hash
    rw [← bytes] at recognized
    rw [respects_peerInfo_iff origin, ← recognized]
    exact peerInfoConfig_shared stored origin given notPersonal

theorem handlePeerInfo_isNoted (noted : logins.IsNoted sha256) :
    (logins.handlePeerInfo sha256).IsNoted sha256 := by
  unfold handlePeerInfo
  dsimp only
  split <;> exact noted

end Logins

/-! ## Runs -/

namespace Logins

variable {logins : Logins}

/-- One event keeps the stored passwords clean exactly if it respects a shared one. -/
theorem step_isClean_iff
    (ideal : IsIdeal sha256)
    (clean : logins.IsClean)
    (noted : logins.IsNoted sha256)
    (event : LoginEvent) :
    (logins.step sha256 event).IsClean ↔ logins.Respects event := by
  cases event with
  | initialized args asNew withToken =>
      exact iff_of_true (clean.initialized noted args asNew withToken).1 trivial
  | hash context hash => exact iff_of_true (clean.handleHash noted context hash).1 trivial
  | loginError err => exact iff_of_true (clean.handleLoginError noted err).1 trivial
  | loginFromUi osUsername osPassword password remember =>
      exact iff_of_true
        (clean.handleLoginFromUi noted osUsername osPassword password remember).1 trivial
  | peerInfo => exact peerInfo_isClean_iff ideal clean noted

theorem step_isNoted
    (clean : logins.IsClean)
    (noted : logins.IsNoted sha256)
    (event : LoginEvent) :
    (logins.step sha256 event).IsNoted sha256 := by
  cases event with
  | initialized args asNew withToken =>
      exact (clean.initialized noted args asNew withToken).2
  | hash context hash => exact (clean.handleHash noted context hash).2
  | loginError err => exact (clean.handleLoginError noted err).2
  | loginFromUi osUsername osPassword password remember =>
      exact (clean.handleLoginFromUi noted osUsername osPassword password remember).2
  | peerInfo => exact handlePeerInfo_isNoted noted

/-- A run from a clean handler stays clean exactly if every step respects shared
passwords. -/
theorem run_isClean_iff
    (ideal : IsIdeal sha256)
    (clean : logins.IsClean)
    (noted : logins.IsNoted sha256)
    (events : List LoginEvent) :
    (∀ before, before <+: events → (run (step sha256) logins before).IsClean) ↔
      Along (step sha256) Respects logins events := by
  induction events generalizing logins with
  | nil => simp [clean]
  | cons event events ih =>
      rw [along_cons]
      constructor
      · intro every
        have first : (logins.step sha256 event).IsClean :=
          every [event] (List.prefix_append [event] events)
        refine ⟨(step_isClean_iff ideal clean noted event).mp first, ?_⟩
        refine (ih first (step_isNoted clean noted event)).mp fun before isPrefix => ?_
        exact every (event :: before) (List.cons_prefix_cons.mpr ⟨rfl, isPrefix⟩)
      · rintro ⟨respects, rest⟩ before isPrefix
        have first := (step_isClean_iff ideal clean noted event).mpr respects
        rcases before with _ | ⟨head, before⟩
        · exact clean
        · obtain ⟨rfl, others⟩ := List.cons_prefix_cons.mp isPrefix
          exact (ih first (step_isNoted clean noted head)).mpr rest before others

theorem start_isClean (peers : String → PeerConfig) : (start peers).IsClean :=
  ⟨rfl, fun _ => rfl, fun act member => by cases member⟩

/-- Shared passwords are never kept exactly in the runs that respect them: whenever the
peer lets the session in, a shared password is not remembered, or was stored before, or
is recognized by its source and the salt of the last `Hash`. -/
theorem shared_never_kept_iff
    (ideal : IsIdeal sha256)
    (peers : String → PeerConfig)
    (events : List LoginEvent) :
    (∀ before, before <+: events → (run (step sha256) (start peers) before).IsClean) ↔
      Along (step sha256) Respects (start peers) events :=
  run_isClean_iff ideal (start_isClean peers) (Secret.isNoted_of_own rfl) events

/-- A stand-in for SHA-256 that has no collisions. -/
def marked (bytes : Bytes) : Bytes :=
  0 :: bytes

theorem isIdeal_marked : IsIdeal marked :=
  ⟨fun _ _ same => (List.cons.inj same).2, fun _ => List.cons_ne_nil _ _⟩

/-- A peer whose password is stored. -/
def remembered : String → PeerConfig :=
  fun _ => ⟨.own [1], fun _ => ""⟩

/-- A session with the shared password `"s"`. -/
def withShared : LoginEvent :=
  .initialized ⟨"id", none, false, false, none, false, some "s", 1⟩ true false

/-- Nothing is found outside the handler. -/
def noContext : HashContext :=
  ⟨"", "", ⟨"", []⟩, "", fun _ => false⟩

/-- With one salt all along, a shared password is not kept. -/
theorem shared_never_kept_iff_one_salt :
    IsIdeal marked ∧ ∀ before,
      before <+: [withShared, .hash noContext ⟨"a", "1"⟩, .peerInfo] →
        (run (step marked) (start remembered) before).IsClean := by
  refine ⟨isIdeal_marked, ?_⟩
  refine (shared_never_kept_iff isIdeal_marked remembered _).mpr ⟨trivial, trivial, ?_, trivial⟩
  intro shared salt isShared
  cases isShared
  exact .inr (.inr ⟨rfl, rfl⟩)

/-- After a second `Hash` with another salt, a shared password is stored. -/
theorem shared_kept_after_other_salt :
    ¬∀ before, before <+: [withShared, .hash noContext ⟨"a", "1"⟩, .hash noContext ⟨"b", "2"⟩,
        .peerInfo] →
      (run (step marked) (start remembered) before).IsClean := by
  intro every
  have config := (every _ (List.prefix_refl _)).config
  cases config

end Logins

end Client
end OneDesk
