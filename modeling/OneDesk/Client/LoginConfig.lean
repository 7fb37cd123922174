import OneDesk.Client.SecureTcp
import OneDesk.Lib.Base64
import OneDesk.Lib.Run

/-!
# The password of a session

A `LoginConfigHandler` finds the password that a session logs in with, remembers
where it is from and decides, when the peer lets it in, whether the password is to
be stored.  Every password of the model carries a note of its origin, which no
function of the program reads.
-/

namespace OneDesk
namespace Client

open OneDesk.Lib OneDesk.Stream

/-- Where a password is from: `handle_hash` has derived it from a shared password and
a salt, or not. -/
inductive Origin
  | own
  | shared (password salt : String)
  deriving DecidableEq

/-- A hashed password with a note of its origin. -/
structure Secret where
  bytes : Bytes
  origin : Origin
  deriving DecidableEq

/-- A hashed password that is not a shared one. -/
def Secret.own (bytes : Bytes) : Secret :=
  ⟨bytes, .own⟩

/-- `Hash` -/
structure PasswordHash where
  salt : String
  challenge : String
  deriving DecidableEq

/-- `PasswordSource` -/
inductive PasswordSource
  | personalAb (password : Bytes)
  | sharedAb (password : String)
  | undefined
  deriving DecidableEq

/-- The part of a `PeerConfig` that a login reads or writes. -/
structure PeerConfig where
  password : Secret
  /-- Options that are not set are empty. -/
  options : String → String

/-- `PeerConfig` with an option that is set. -/
def PeerConfig.insert (config : PeerConfig) (key value : String) : PeerConfig :=
  { config with options := fun other => if other = key then value else config.options other }

/-- `ConnToken` -/
structure ConnToken where
  password : Secret
  passwordSource : PasswordSource
  sessionId : UInt64

/-- The part of a `LoginConfigHandler` that the password of a session depends on. -/
structure LoginConfigHandler where
  id : String
  isTerminal : Bool
  isTerminalAdmin : Bool
  hash : PasswordHash
  password : Secret
  remember : Bool
  config : PeerConfig
  sessionId : UInt64
  forceRelay : Bool
  switchUuid : Option String
  otherServer : Option (String × String × String)
  passwordSource : PasswordSource
  sharedPassword : Option String

/-- `LoginConfigHandler::default()` -/
def LoginConfigHandler.new : LoginConfigHandler where
  id := ""
  isTerminal := false
  isTerminalAdmin := false
  hash := ⟨"", ""⟩
  password := .own []
  remember := false
  config := ⟨.own [], fun _ => ""⟩
  sessionId := 0
  forceRelay := false
  switchUuid := none
  otherServer := none
  passwordSource := .undefined
  sharedPassword := none

/-- What a login does. -/
inductive LoginAct
  | login (osUsername osPassword : String) (password : Bytes)
  | switchSides (uuid : String)
  | msgbox (msgtype title text link : String)
  /-- The event `sync_peer_hash_password_to_personal_ab`. -/
  | syncToPersonalAb (id : String) (password : Secret)

/-- A handler, the configurations of all peers, and what has been done. -/
structure Logins where
  lc : LoginConfigHandler
  peers : String → PeerConfig
  acts : List LoginAct

/-- `AbEntry`: whether it is personal, and the ids and hashes of its peers. -/
structure AbEntry where
  personal : Bool
  peers : List (String × String)

/-- `Ab` -/
structure Ab where
  accessToken : String
  abEntries : List AbEntry

/-- What `handle_hash` finds outside of the handler. -/
structure HashContext where
  passwordPreset : String
  /-- The local option `"access_token"`. -/
  accessToken : String
  ab : Ab
  /-- `OPTION_DEFAULT_CONNECT_PASSWORD` -/
  defaultConnectPassword : String
  /-- `Uuid::from_str(&uuid).is_ok()` -/
  isUuid : String → Bool

/-- What `initialize` is called with, and what it finds: `force_relay` is set as well
with WebSockets or a proxy. -/
structure InitializeArgs where
  id : String
  otherServer : Option (String × String × String)
  isTerminal : Bool
  isTerminalAdmin : Bool
  switchUuid : Option String
  forceRelay : Bool
  sharedPassword : Option String
  /-- `rand::random()` -/
  random : UInt64

/-- `PUBLIC_SERVER` -/
def publicServer : String := "public"

section Handler

variable (sha256 : Bytes → Bytes)

/-- The hash of a password and a salt. -/
def salted (password salt : String) : Bytes :=
  sha256 (utf8 password.toList ++ utf8 salt.toList)

namespace PasswordSource

/-- `PasswordSource::is_personal_ab` -/
def isPersonalAb (source : PasswordSource) (password : Bytes) : Bool :=
  if password = [] then false
  else
    match source with
    | personalAb p => p == password
    | _ => false

/-- `PasswordSource::equal` -/
def equal (password : String) (connectedPassword : Bytes) (hash : PasswordHash) : Bool :=
  connectedPassword == salted sha256 password hash.salt

/-- `PasswordSource::is_shared_ab` -/
def isSharedAb (source : PasswordSource) (password : Bytes) (hash : PasswordHash) : Bool :=
  if password = [] then false
  else
    match source with
    | sharedAb p => equal sha256 p password hash
    | _ => false

end PasswordSource

namespace LoginConfigHandler

/-- `LoginConfigHandler::get_option` -/
def getOption (lc : LoginConfigHandler) (k : String) : String :=
  lc.config.options k

/-- `LoginConfigHandler::get_conn_token`, before it is written as JSON. -/
def getConnToken (lc : LoginConfigHandler) : Option ConnToken :=
  if lc.password.bytes = [] then none
  else some ⟨lc.password, lc.passwordSource, lc.sessionId⟩

/-- `LoginConfigHandler::initialize` -/
def initialized
    (lc : LoginConfigHandler)
    (peers : String → PeerConfig)
    (args : InitializeArgs)
    (connToken : Option ConnToken) :
    LoginConfigHandler :=
  let config := peers args.id
  let otherServer := args.otherServer <|> lc.otherServer
  let sid := (connToken.map (·.sessionId)).getD 0
  { id := args.id
    isTerminal := args.isTerminal
    isTerminalAdmin := args.isTerminal && args.isTerminalAdmin
    hash := lc.hash
    -- Use as last password.
    password := (connToken.map (·.password)).getD lc.password
    passwordSource := (connToken.map (·.passwordSource)).getD lc.passwordSource
    remember := config.password.bytes ≠ []
    config := config
    sessionId := if sid ≠ 0 then sid else if args.random = 0 then 1 else args.random
    forceRelay := config.options "force-always-relay" == "Y" || args.forceRelay
    switchUuid := args.switchUuid
    otherServer := otherServer.map fun (realId, server, key) =>
      (realId, server,
        if config.options "other-server-key" ≠ "" ∧ key = "" then
          config.options "other-server-key"
        else key)
    sharedPassword := args.sharedPassword }

/-! ## Which password is sent -/

variable (context : HashContext) (hash : PasswordHash)

/-- The preset password, if there is no last one. -/
def presetPassword : LoginConfigHandler × Secret → LoginConfigHandler × Secret
  | (lc, password) =>
      if password.bytes = [] ∧ context.passwordPreset ≠ "" then
        ({ lc with passwordSource := .undefined },
          .own (salted sha256 context.passwordPreset hash.salt))
      else (lc, password)

/-- The shared password, which is used once. -/
def takeSharedPassword : LoginConfigHandler × Secret → LoginConfigHandler × Secret
  | (lc, password) =>
      match lc.sharedPassword with
      | none => (lc, password)
      | some shared =>
          if shared ≠ "" then
            ({ lc with sharedPassword := none, passwordSource := .sharedAb shared },
              ⟨salted sha256 shared hash.salt, .shared shared hash.salt⟩)
          else ({ lc with sharedPassword := none }, password)

/-- The password in the configuration of the peer. -/
def peerConfigPassword : LoginConfigHandler × Secret → LoginConfigHandler × Secret
  | (lc, password) =>
      if password.bytes = [] then
        if lc.config.password.bytes ≠ [] then
          ({ lc with passwordSource := .undefined }, lc.config.password)
        else (lc, lc.config.password)
      else (lc, password)

/-- The hash of a peer in the personal address book of the account. -/
def personalHash (id : String) : Option Bytes :=
  if context.accessToken ≠ "" ∧ context.accessToken = context.ab.accessToken then
    match context.ab.abEntries.find? (·.personal) with
    | none => none
    | some entry =>
        match entry.peers.lookup id with
        | none => none
        | some hash => (Base64.decode hash.toList).filter (· ≠ [])
  else none

/-- `try_get_password_from_personal_ab`, if there is no password yet. -/
def personalAbPassword : LoginConfigHandler × Secret → LoginConfigHandler × Secret
  | (lc, password) =>
      if password.bytes = [] then
        match personalHash context lc.id with
        | some hash => ({ lc with passwordSource := .personalAb hash }, .own hash)
        | none => (lc, password)
      else (lc, password)

/-- The password that is built in. -/
def defaultPassword : LoginConfigHandler × Secret → LoginConfigHandler × Secret
  | (lc, password) =>
      if password.bytes = [] ∧ context.defaultConnectPassword ≠ "" then
        let p := context.defaultConnectPassword
        -- Reuse `SharedAb` here.
        ({ lc with passwordSource := .sharedAb p },
          ⟨salted sha256 p hash.salt, .shared p hash.salt⟩)
      else (lc, password)

/-- The passwords of `handle_hash` in the order in which they apply. -/
def choosePassword (lc : LoginConfigHandler) : LoginConfigHandler × Secret :=
  defaultPassword sha256 context hash
    (personalAbPassword context
      (peerConfigPassword
        (takeSharedPassword sha256 hash
          (presetPassword sha256 context hash (lc, lc.password)))))

end LoginConfigHandler

namespace Logins

open LoginConfigHandler

variable (logins : Logins)

/-- Do something. -/
def tell (act : LoginAct) : Logins :=
  { logins with acts := logins.acts ++ [act] }

/-- `LoginConfigHandler::save_config` -/
def saveConfig (config : PeerConfig) : Logins :=
  { logins with
    lc := { logins.lc with config := config }
    peers := fun id => if id = logins.lc.id then config else logins.peers id }

/-- `LoginConfigHandler::load_config` -/
def loadConfig : PeerConfig :=
  logins.peers logins.lc.id

/-- `LoginConfigHandler::set_option` -/
def setOption (k v : String) : Logins :=
  if v = logins.lc.getOption k then logins
  else logins.saveConfig (logins.loadConfig.insert k v)

/-- `send_login` -/
def sendLogin (osUsername osPassword : String) (password : Bytes) : Logins :=
  logins.tell (.login osUsername osPassword password)

/-- `handle_hash` -/
def handleHash (context : HashContext) (hash : PasswordHash) : Logins :=
  let lc := { logins.lc with hash := hash, switchUuid := none }
  match logins.lc.switchUuid.filter context.isUuid with
  | some uuid =>
      { logins with lc := { lc with passwordSource := .undefined } }.tell (.switchSides uuid)
  | none =>
      let (lc, password) := choosePassword sha256 context hash lc
      let chosen := { logins with lc := { lc with password := password } }
      if lc.isTerminal ∧ lc.isTerminalAdmin then
        chosen.tell
          (.msgbox
            (if password.bytes = [] then "terminal-admin-login-password"
            else "terminal-admin-login") "" "" "")
      else
        let osUsername := if lc.isTerminal then "" else lc.getOption "os-username"
        let osPassword := if lc.isTerminal then "" else lc.getOption "os-password"
        if password.bytes = [] then
          -- Login without password, the remote side can click accept.
          (chosen.tell (.msgbox "input-password" "Password Required" "" "")).sendLogin
            osUsername osPassword []
        else
          chosen.sendLogin osUsername osPassword
            (sha256 (password.bytes ++ utf8 hash.challenge.toList))

/-- `handle_login_from_ui` -/
def handleLoginFromUi (osUsername osPassword password : String) (remember : Bool) : Logins :=
  let lc := logins.lc
  let lc :=
    if password = "" then
      if lc.password.bytes = [] then
        if lc.config.password.bytes ≠ [] then
          { lc with passwordSource := .undefined, password := lc.config.password }
        else { lc with password := lc.config.password }
      else lc
    else
      { lc with
        passwordSource := .undefined
        remember := remember
        password := .own (salted sha256 password lc.hash.salt) }
  { logins with lc := lc }.sendLogin osUsername osPassword
    (sha256 (lc.password.bytes ++ utf8 lc.hash.challenge.toList))

/-- The configuration that `handle_peer_info` saves, as far as it is about logins. -/
def peerInfoConfig : PeerConfig :=
  let lc := logins.lc
  let config := logins.loadConfig
  let password := lc.password
  let password0 := config.password
  let config :=
    if lc.remember then
      -- Not sync shared password to recent.
      if password.bytes ≠ [] ∧ password.bytes ≠ password0.bytes ∧
          !lc.passwordSource.isSharedAb sha256 password.bytes lc.hash then
        { config with password := password }
      else config
    else if lc.passwordSource.isPersonalAb password.bytes then
      -- Sync personal ab password to recent automatically.
      { config with password := password }
    else if password0.bytes ≠ [] then { config with password := .own [] }
    else config
  let config :=
    match lc.otherServer with
    | some (_, server, key) =>
        if server ≠ publicServer then config.insert "other-server-key" key else config
    | none => config
  if lc.forceRelay then config.insert "force-always-relay" "Y" else config

/-- `LoginConfigHandler::handle_peer_info` -/
def handlePeerInfo : Logins :=
  let lc := logins.lc
  let config := logins.peerInfoConfig sha256
  -- Sync connected password to personal ab automatically if it is not shared password.
  if config.password.bytes ≠ [] ∧
      !lc.passwordSource.isSharedAb sha256 lc.password.bytes lc.hash ∧
      !lc.passwordSource.isPersonalAb lc.password.bytes then
    (logins.tell (.syncToPersonalAb lc.id config.password)).saveConfig config
  else logins.saveConfig config

end Logins

/-! ## Login errors -/

/-- A message box that explains a login error, and whether the login may be tried
again. -/
structure LoginErrorMsgBox where
  msgtype : String
  title : String
  text : String
  link : String
  tryAgain : Bool

/-- `LOGIN_ERROR_MAP` -/
def loginErrorMap : List (String × LoginErrorMsgBox) :=
  [("Wayland login screen is not supported",
      ⟨"error", "Login Error", "Login screen using Wayland is not supported",
        "https://rustdesk.com/docs/en/manual/linux/#login-screen", true⟩),
    ("Desktop session not ready", ⟨"session-login", "", "", "", true⟩),
    ("Desktop xsession failed", ⟨"session-re-login", "", "", "", true⟩),
    ("Desktop session another user login",
      ⟨"info-nocancel", "another_user_login_title_tip", "another_user_login_text_tip", "",
        false⟩),
    ("Desktop xorg not found",
      ⟨"info-nocancel", "xorg_not_found_title_tip", "xorg_not_found_text_tip",
        "https://github.com/rustdesk/rustdesk/wiki/Headless-Linux-Support", true⟩),
    ("Desktop none",
      ⟨"info-nocancel", "no_desktop_title_tip", "no_desktop_text_tip",
        "https://github.com/rustdesk/rustdesk/wiki/Headless-Linux-Support", true⟩),
    ("Desktop session not ready, password empty",
      ⟨"session-login-password", "", "", "", true⟩),
    ("Desktop session not ready, password wrong",
      ⟨"session-login-re-password", "", "", "", true⟩),
    ("No Password Access",
      ⟨"wait-remote-accept-nook", "Prompt",
        "Please wait for the remote side to accept your session request...", "", true⟩)]

/-- `SCRAP_X11_REQUIRED` -/
def scrapX11Required : String := "x11 expected"

/-- `SCRAP_X11_REF_URL` -/
def scrapX11RefUrl : String :=
  "https://rustdesk.com/docs/en/manual/linux/#x11-required"

/-- `str::contains` -/
def containsText (text part : String) : Bool :=
  part.toList <:+: text.toList

namespace Logins

/-- The password is forgotten. -/
def forgetPassword (logins : Logins) : Logins :=
  { logins with lc := { logins.lc with password := .own [] } }

/-- `handle_login_error`: whether the password is wrong, and the handler after it. -/
def handleLoginError (logins : Logins) (err : String) : Bool × Logins :=
  if err = "Empty Password" then
    (true, logins.forgetPassword.tell (.msgbox "input-password" "Password Required" "" ""))
  else if err = "Wrong Password" then
    (true, logins.forgetPassword.tell
      (.msgbox "re-input-password" err "Do you want to enter again?" ""))
  else if err = "Wrong 2FA Code" ∨ err = "2FA Required" then
    let trusting := logins.lc.getOption "trust-this-device" == "Y"
    let logins := if trusting then logins.setOption "trust-this-device" "" else logins
    (true, logins.tell (.msgbox "input-2fa" err "" ""))
  else
    match loginErrorMap.lookup err with
    | some box => (box.tryAgain, logins.tell (.msgbox box.msgtype box.title box.text box.link))
    | none =>
        let link := if containsText err scrapX11Required then scrapX11RefUrl else ""
        (false, logins.tell (.msgbox "error" "Login Error" err link))

end Logins

/-! ## Runs -/

/-- What happens to a handler.  A new handler takes its place when a session is begun
anew; the token of the old one may be handed on. -/
inductive LoginEvent
  | initialized (args : InitializeArgs) (asNew withToken : Bool)
  | hash (context : HashContext) (hash : PasswordHash)
  | loginError (err : String)
  | loginFromUi (osUsername osPassword password : String) (remember : Bool)
  | peerInfo

namespace Logins

/-- One event. -/
def step (logins : Logins) : LoginEvent → Logins
  | .initialized args asNew withToken =>
      { logins with
        lc := (if asNew then LoginConfigHandler.new else logins.lc).initialized logins.peers
          args (if withToken then logins.lc.getConnToken else none) }
  | .hash context hash => logins.handleHash sha256 context hash
  | .loginError err => (logins.handleLoginError err).2
  | .loginFromUi osUsername osPassword password remember =>
      logins.handleLoginFromUi sha256 osUsername osPassword password remember
  | .peerInfo => logins.handlePeerInfo sha256

/-- A new handler, where the passwords that are stored are the user's own. -/
def start (peers : String → PeerConfig) : Logins where
  lc := .new
  peers := fun id => { peers id with password := .own (peers id).password.bytes }
  acts := []

end Logins

end Handler

end Client
end OneDesk
