import OneDesk.Lib.Run
import OneDesk.Server.OnMessage

/-!
# The life of a connection

`Connection::start` opens the connection, serves one ready branch of its
`select!` after another, and when the main loop ends enters the relay loop if a
port forwarding socket is there.
-/

namespace OneDesk
namespace Server

open OneDesk.Stream OneDesk.Common

/-- A frame of the peer and the message it parses as. -/
structure Frame where
  bytes : Bytes
  message : Option Message
  deriving DecidableEq

/-- Messages the services of the host queue for the peer. -/
inductive Queued
  | stopService
  | peerInfo
  | lateAudioFrame
  | other
  deriving DecidableEq

/-- Branches of the two `select!` loops, and the changes other connections make
to the host in between. -/
inductive Event
  /-- The connection manager sent a message. -/
  | fromCm (message : FromCm)
  /-- The stream gave a frame, an error, or ended. -/
  | received (frame : Option (Except String Frame))
  /-- The timer of the transfer jobs. -/
  | fileTimer
  /-- The web console closes connections, this one or not. -/
  | webConsole (listed : Bool)
  /-- A video frame is to be sent. -/
  | video
  /-- A service message is to be sent. -/
  | queued (message : Queued)
  /-- Something for an authorized connection, such as printer data. -/
  | fromAuthed
  | secondTimer
  | testDelayTimer
  /-- A clipboard file message of the host. -/
  | clipFile
  /-- The forwarded address gave bytes, an error, or ended. -/
  | forwarded (frame : Option (Except String Bytes))
  | relayTimer
  /-- Other connections and the user interface changed the shared tables. -/
  | hostChanged (host : Host)

/-- An event with what the outside answers while it is handled. -/
structure Input where
  env : Env
  event : Event

namespace World

variable (env : Env) (world : World)

/-- The connection manager changes a permission. -/
def switchPermission (name : String) (enabled : Bool) : World :=
  if name = "keyboard" then
    let switched :=
      (world.modify fun conn => { conn with keyboard := enabled }).sendPermission
        .keyboard enabled
    ((switched.subscribeClipboard env).subscribeFileClipboard env).subscribe env
      .cursor (enabled || switched.conn.showRemoteCursor)
  else if name = "clipboard" then
    ((world.modify fun conn => { conn with clipboard := enabled }).sendPermission
      .clipboard enabled).subscribeClipboard env
  else if name = "audio" then
    let switched :=
      (world.modify fun conn => { conn with audio := enabled }).sendPermission
        .audio enabled
    if switched.conn.authorized then switched.subscribeAudio env else switched
  else if name = "file" then
    let switched :=
      (world.modify fun conn => { conn with file := enabled }).sendPermission
        .file enabled
    let emptied :=
      if env.build.unixFileCopyPaste && !enabled then
        switched.emit .emptyFileClipboard
      else switched
    emptied.subscribeFileClipboard env
  else if name = "restart" then
    (world.modify fun conn => { conn with restart := enabled }).sendPermission
      .restart enabled
  else if name = "recording" then
    (world.modify fun conn => { conn with recording := enabled }).sendPermission
      .recording enabled
  else if name = "block_input" then
    (world.modify fun conn => { conn with blockInput := enabled }).sendPermission
      .blockInput enabled
  else world

/-- A message of the connection manager that neither authorizes nor closes. -/
def onCmMessage : FromCm → World
  | .chatMessage text =>
      (world.send (.chatMessage text)).modify fun conn =>
        { conn with chatUnanswered := false }
  | .switchPermission name enabled => world.switchPermission env name enabled
  | .rawMessage bytes => world.send (.raw bytes)
  | .clipboardFile files =>
      if env.build.os = .windows ∧ world.conn.isRemote = true ∧ files = false then
        world.send .clipboardFile
      else world
  | .privacyModeState => world.send .privacyMode
  | .portableServiceRequestStart =>
      if env.build.os = .windows then world.emit .startPortableService else world
  | .switchSidesBack => world.send .switchBack
  | .voiceCallResponse accepted => world.handleVoiceCall env accepted
  | .closeVoiceCall => (world.closeVoiceCall env).send (.voiceCallRequest false)
  | _ => world

/-- `Server::remove_connection` at the end of `start`. -/
def removeConnection : World :=
  if env.serverAlive then
    world.modifyHost fun host => host.removeConnection world.conn.id
  else world

/-- The drop of a connection releases the modifier keys it holds, on desktops. -/
def releaseModifiers : World :=
  if env.build.isMobile then world
  else
    { world with
      out := world.out ++ world.conn.pressedModifiers.map .releaseKey
      conn := { world.conn with pressedModifiers := [] } }

/-- The drop of the `AuthedConnID` of a connection. -/
def dropAuthedConn : World :=
  if world.conn.authedConnId.isSome then
    world.modifyHost fun host => host.dropAuthedConn world.conn.id
  else world

/-- The end of `start`: the connection leaves the host and is dropped. -/
def finish : World :=
  { (((world.removeConnection env).onClose env true).releaseModifiers env
      ).dropAuthedConn with
    phase := .ended }

/-- The temporary password changes after each authorized connection. -/
def updateTemporaryPassword : World :=
  if world.conn.authorized then
    world.modifyHost fun host => { host with temporaryPassword := env.autoPassword }
  else world

/-- What is cleaned up after the main loop: the file clipboard, privacy mode, the
video of this connection, and the temporary password it may have used. -/
def cleanUp : World :=
  let emptied :=
    if env.build.unixFileCopyPaste then world.emit .emptyFileClipboard else world
  let visible :=
    if env.privacyModeConnId = some world.conn.id then emptied.emit .privacyOff
    else emptied
  (visible.emit .videoFetched).updateTemporaryPassword env

/-- What follows the main loop: the relay loop when there is a socket. -/
def afterLoop : World :=
  let cleaned := world.cleanUp env
  match cleaned.conn.portForwardSocket with
  | some address =>
      { cleaned with
        phase := .relaying address
        lastRecvTime := env.now
        conn := { cleaned.conn with portForwardSocket := none } }
  | none => cleaned.finish env

/-- Close and leave the main loop. -/
def closeLoop (lock : Bool) : World := (world.onClose env lock).afterLoop env

/-- The connection manager authorizes the connection. -/
def onAuthorize : World :=
  let logon :=
    (world.modify fun conn => { conn with require2fa := none }).sendLogonResponse env
  if logon.conn.portForwardSocket.isSome then logon.afterLoop env else logon

/-- The time of a receipt is noted, for the connection and for its session. -/
def noteReceipt : World :=
  { world with lastRecvTime := env.now }.modifyHost fun host =>
    host.touch env world.conn.sessionLastRecvTime

/-- A message of the peer, and whether the port forwarding can start. -/
def onReceived (message : Message) : World :=
  match world.onMessage env message with
  | (handled, false) => handled.afterLoop env
  | (handled, true) =>
      if handled.conn.portForwardSocket.isSome && handled.conn.authorized &&
          handled.conn.lastTestDelay.isNone then
        handled.afterLoop env
      else handled

/-- The timer that probes the delay and notices silent peers. -/
def onTestDelayTimer : World :=
  if env.now - world.lastRecvTime ≥ 30000 then world.closeLoop env true
  else
    let probed :=
      if world.conn.lastTestDelay.isNone &&
          !(world.conn.portForwardSocket.isSome && world.conn.authorized) then
        (world.modify fun conn => { conn with lastTestDelay := some env.now }).send
          (.testDelay env.now false)
      else world
    if probed.conn.isAuthedRemoteConn || probed.conn.viewCamera then
      match probed.conn.lastTestDelay with
      | some asked =>
          probed.emit (.qos (.userDelayResponseElapsed (env.now - asked).toNat))
      | none => probed
    else probed

/-- The timer of each second. -/
def onSecondTimer : World :=
  match world.conn.autoDisconnectTimer with
  | some (since, minute) =>
      if (env.now - since) / 1000 > minute * 60 then
        (world.sendCloseReasonNoRetry "Connection failed due to inactivity").closeLoop
          env true
      else world
  | none => world

/-- A service message is sent to the peer. -/
def onQueued : Queued → World
  | .stopService => (world.sendCloseReasonNoRetry "").closeLoop env false
  | .lateAudioFrame => world
  | .peerInfo =>
      let sent := (world.refreshVideoDisplay none).send .service
      if env.sendError.isSome then sent.closeLoop env false else sent
  | .other =>
      let sent := world.send .service
      if env.sendError.isSome then sent.closeLoop env false else sent

/-- One turn of the main loop. -/
def mainLoop : Event → World
  | .fromCm .authorize => world.onAuthorize env
  | .fromCm .close =>
      ((world.modify fun conn =>
        { conn with chatUnanswered := false, fileTransferred := false }
        ).sendCloseReasonNoRetry "").closeLoop env true
  | .fromCm (.cmErr error) =>
      if error = "expected" then world else world.closeLoop env false
  | .fromCm message => world.onCmMessage env message
  | .received none => world.closeLoop env true
  | .received (some (.error _)) => world.closeLoop env true
  | .received (some (.ok frame)) =>
      match frame.message with
      | some message => (world.noteReceipt env).onReceived env message
      | none => world.noteReceipt env
  | .fileTimer =>
      match env.readJobsError with
      | some _ => world.closeLoop env false
      | none => world
  | .webConsole listed =>
      if listed then
        (world.sendCloseReasonNoRetry "Closed manually by web console").closeLoop
          env true
      else world
  | .video =>
      let sent := world.send .service
      if env.sendError.isSome then sent.closeLoop env false else sent
  | .queued message => world.onQueued env message
  | .fromAuthed => world
  | .secondTimer => world.onSecondTimer env
  | .testDelayTimer => world.onTestDelayTimer env
  | .clipFile =>
      if env.build.unixFileCopyPaste &&
          getVersionNumber world.conn.lr.version ≥ getVersionNumber "1.3.8" then
        world.send .clipboardFile
      else world
  | .forwarded _ => world
  | .relayTimer => world
  | .hostChanged host => world.modifyHost fun _ => host

/-- The relay loop ends with an error. -/
def bail : World := ((world.onClose env false).checkRemoveSession).finish env

/-- One turn of the relay loop. -/
def relayLoop : Event → World
  | .fromCm .close => world.bail env
  | .fromCm (.cmErr _) => world.bail env
  | .received none => world.bail env
  | .received (some (.error _)) => world.bail env
  | .received (some (.ok frame)) =>
      { world with lastRecvTime := env.now }.emit (.forward frame.bytes)
  | .forwarded none => world.bail env
  | .forwarded (some (.error _)) => world.bail env
  | .forwarded (some (.ok bytes)) =>
      { world with lastRecvTime := env.now }.send (.raw bytes)
  | .relayTimer =>
      if env.now - world.lastRecvTime ≥ 3600000 then world.bail env else world
  | .webConsole listed => if listed then world.bail env else world
  | .hostChanged host => world.modifyHost fun _ => host
  | _ => world

/-- The effects of the event before are forgotten. -/
def cleared : World := { world with out := [] }

/-- One event of a connection. -/
def step (input : Input) : World :=
  match world.phase with
  | .running => world.cleared.mainLoop input.env input.event
  | .relaying _ => world.cleared.relayLoop input.env input.event
  | .ended => world.cleared

/-- The record `start` begins with. -/
def initialConnection (id : Int) (ip : IpAddr) (hash : Hash)
    (require2fa : Option String) : Connection where
  id := id
  ip := ip
  hash := hash
  lr := LoginRequest.empty
  authorized := false
  require2fa := require2fa
  fromSwitch := false
  fileTransfer := none
  viewCamera := false
  terminal := false
  portForwardSocket := none
  portForwardAddress := ""
  authedConnId := none
  closed := false
  displayIdx := env.primaryDisplayIdx
  keyboard := env.permission "enable-keyboard"
  clipboard := env.permission "enable-clipboard"
  audio := env.permission "enable-audio"
  file := env.permission "enable-file-transfer"
  restart := env.permission "enable-remote-restart"
  recording := env.permission "enable-record-session"
  blockInput := env.permission "enable-block-input"
  lastTestDelay := none
  networkDelay := 0
  lockAfterSessionEnd := false
  showRemoteCursor := false
  followRemoteCursor := false
  followRemoteWindow := false
  multiUiSession := false
  disableKeyboard := false
  showMyCursor := false
  disableClipboard := false
  disableAudio := false
  enableFileTransfer := false
  hasAudioSender := false
  videoAckRequired := false
  sessionLastRecvTime := none
  chatUnanswered := false
  fileTransferred := false
  voiceCallRequestTimestamp := none
  voiceCalling := false
  optionsInLogin := none
  pressedModifiers := []
  cmIpcStarted := false
  autoDisconnectTimer := none
  servicesSubed := false
  delayedReadDir := none
  terminalServiceId := ""
  terminalPersistent := false
  terminalUserToken := none

/-- Why a connection is not opened. -/
def refusedOpening (ip : IpAddr) : Option String :=
  if env.approveMode ≠ .auto ∧ env.userInfo = "" then
    some "Remote desktop is offline"
  else if env.isWhitelisted ip = false then some "Your ip is blocked by the peer"
  else if env.build.isMobile = false ∧ env.mainWindowMissing = true then
    some "The main window is not open"
  else none

/-- `start` up to its main loop. -/
def start (host : Host) (id : Int) (ip : IpAddr) (hash : Hash)
    (require2fa : Option String) : World :=
  let conn := initialConnection env id ip hash require2fa
  let world : World := ⟨host, conn, .running, env.now, []⟩
  match refusedOpening env ip with
  | some error =>
      { world.sendLoginError env error with
        conn := { conn with closed := true }
        phase := .ended }
  | none =>
      let opened := world.send .hash
      [(Permission.keyboard, conn.keyboard), (.clipboard, conn.clipboard),
          (.audio, conn.audio), (.file, conn.file), (.restart, conn.restart),
          (.recording, conn.recording), (.blockInput, conn.blockInput)].foldl
        (fun current told =>
          if !told.2 || (env.build.os == .android && told.1 == .keyboard) then
            current.sendPermission told.1 told.2
          else current)
        opened

end World

/-- A Linux desktop known as `host` that approves by password: every target
answers, nothing fails, and the code of the second factor is `123456`. -/
def Env.plain : Env where
  build := ⟨.linux, false, false⟩
  now := 0
  getOption := fun name => if name = "approve-mode" then "password" else ""
  getBuiltinOption := fun _ => ""
  getId := "host"
  permanentPassword := []
  autoPassword := []
  sha256 := id
  checkCurrent := fun _ code => some (code == "123456")
  isIpStr := fun _ => false
  isDomainPortStr := fun _ => false
  keycodeToRdevKey := fun _ => 0
  isModifierKey := fun _ => false
  connects := fun _ => true
  isDir := fun _ => false
  serverAlive := true
  primaryDisplayIdx := 0
  primaryCameraExists := false
  isInPrivacyMode := false
  isPrivacyModeSupported := false
  isPrelogin := false
  isLocked := false
  isLogonUi := false
  isInstalled := true
  isUserAdministrator := fun _ _ => .ok false
  currentUserToken := .ok 0
  isServiceSpecifiedUser := fun _ => none
  tryStartDesktop := fun _ => ""
  displayServerError := ""
  displaysOnLogin := .ok ()
  otherWindowsSessions := false
  hasSessionId := false
  sessionSwitchable := fun _ => false
  onlyLowerWindows := false
  whiteboardSupported := false
  userInfo := "user"
  isWhitelisted := fun _ => true
  mainWindowMissing := false
  privacyModeConnId := none
  readJobsError := none
  sendError := none

/-- A host without any session, service or authorized connection. -/
def Host.empty : Host where
  loginFailures := fun _ _ => none
  sessions := fun _ => none
  instants := fun _ => 0
  nextInstant := 0
  authedConns := []
  switchSidesUuid := fun _ => none
  trustedDevices := []
  temporaryPassword := []
  services := []

end Server
end OneDesk
