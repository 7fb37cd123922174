import OneDesk.Server.Host

/-!
# The state of a connection

The record the main loop works on, the effects it has on the outside, and the
small operations every handler is made of.
-/

namespace OneDesk
namespace Server

open OneDesk.Stream OneDesk.Common

/-- Salt and challenge sent to the peer when the connection opens. -/
structure Hash where
  salt : Bytes
  challenge : Bytes
  deriving DecidableEq

/-- The part of a connection that logging in decides about.  A socket is known
by the address it is connected to, an `AuthedConnID` by its type. -/
structure LoginState where
  id : Int
  ip : IpAddr
  hash : Hash
  lr : LoginRequest
  authorized : Bool
  require2fa : Option String
  fromSwitch : Bool
  fileTransfer : Option (String × Bool)
  viewCamera : Bool
  terminal : Bool
  portForwardSocket : Option String
  portForwardAddress : String
  authedConnId : Option AuthConnType
  closed : Bool
  deriving DecidableEq

/-- What the host permits and what the peer gives up by itself. -/
structure Access where
  keyboard : Bool
  clipboard : Bool
  audio : Bool
  disableKeyboard : Bool
  disableClipboard : Bool
  disableAudio : Bool
  deriving DecidableEq

/-- A connection of the host. -/
structure Connection extends LoginState, Access where
  displayIdx : Nat
  file : Bool
  restart : Bool
  recording : Bool
  blockInput : Bool
  lastTestDelay : Option Int
  networkDelay : Nat
  lockAfterSessionEnd : Bool
  showRemoteCursor : Bool
  followRemoteCursor : Bool
  followRemoteWindow : Bool
  multiUiSession : Bool
  showMyCursor : Bool
  enableFileTransfer : Bool
  hasAudioSender : Bool
  videoAckRequired : Bool
  sessionLastRecvTime : Option Nat
  chatUnanswered : Bool
  fileTransferred : Bool
  voiceCallRequestTimestamp : Option Int
  voiceCalling : Bool
  optionsInLogin : Option OptionMessage
  pressedModifiers : List Nat
  cmIpcStarted : Bool
  autoDisconnectTimer : Option (Int × Nat)
  servicesSubed : Bool
  delayedReadDir : Option (String × Bool)
  terminalServiceId : String
  terminalPersistent : Bool
  terminalUserToken : Option TerminalUserToken
  deriving DecidableEq

/-- Input handed to the input thread of the connection. -/
inductive MessageInput
  | mouse (event : MouseEvent) (simulate showCursor : Bool)
  | key (event : KeyEvent) (press : Bool)
  | pointer (event : PointerDeviceEvent)
  | blockOn
  | blockOff
  deriving DecidableEq

/-- Calls of the video quality controller. -/
inductive QosCall
  | onConnectionOpen
  | onConnectionClose
  | userImageQuality (quality : Int)
  | userCustomFps (fps : Int)
  | userAutoAdjustFps (fps : Nat)
  | userRecord (status : Bool)
  | userNetworkDelay (delay : Nat)
  | userDelayResponseElapsed (elapsed : Nat)
  deriving DecidableEq

/-- Messages to the peer. -/
inductive Reply
  | hash
  | loginError (error : String) (enableTrustedDevices : Bool)
  | loginPeerInfo
  | permission (permission : Permission) (enabled : Bool)
  | closeReason (reason : String)
  | testDelay (time : Int) (fromClient : Bool)
  | chatMessage (text : String)
  | displayChanged (display : Nat) (source : VideoSource)
  | privacyMode
  | blockInputError (on : Bool) (details : String)
  | messageBox (title text : String)
  | fileError (id : Int) (error : String)
  | voiceCallRequest (isConnect : Bool)
  | voiceCallResponse (timestamp : Int) (accepted : Bool)
  | switchBack
  | elevationResponse (error : String)
  | clipboardFile
  | raw (bytes : Bytes)
  | service
  deriving DecidableEq

/-- What a connection does to the outside. -/
inductive Effect
  /-- A message goes to the peer. -/
  | send (reply : Reply)
  /-- A message goes to the connection manager. -/
  | toCm (message : ToCm)
  /-- A TCP connection to this address is tried. -/
  | connect (address : String)
  /-- An alarm is posted to the audit server. -/
  | alarm (type : AlarmAuditType)
  /-- A code for the second factor is sent to the owner. -/
  | telegramCode
  /-- The desktop of a headless host is started for a user of the host. -/
  | startDesktop (osLogin : OsLogin)
  /-- A user of the host is logged on, to learn whether it is an administrator. -/
  | logonUser (osLogin : OsLogin)
  /-- The connection is subscribed to a service. -/
  | subscribed (name : ServiceName)
  /-- The connection is unsubscribed from a service. -/
  | unsubscribed (name : ServiceName)
  /-- Input goes to the input thread. -/
  | input (input : MessageInput)
  /-- Pointer input goes to the main service of a mobile host. -/
  | mobilePointer (kind : String) (mask x y : Int)
  /-- A key event goes to the main service of a mobile host. -/
  | mobileKey (event : KeyEvent)
  /-- A held modifier key is released. -/
  | releaseKey (key : Nat)
  /-- The screen is locked. -/
  | lockScreen
  /-- The clipboard of the host is set. -/
  | updateClipboard
  /-- A clipboard file message is served. -/
  | serveClipboardFile
  /-- The file clipboard of this peer is emptied. -/
  | emptyFileClipboard
  /-- A file action is carried out by the transfer jobs of the connection. -/
  | fileJob (action : FileAction)
  | qos (call : QosCall)
  /-- The encoder learns what the peer decodes, `false` for the default. -/
  | encoderUpdate (known : Bool)
  | refreshVideo (display : Option Nat)
  | videoFetched
  | screenshot (display : Nat)
  | privacyOn (implKey : String)
  | privacyOff
  | virtualDisplay (display : Int) (on : Bool)
  | changeResolution (display : Option Nat) (resolution : Resolution)
  | reboot
  | startPortableService
  | switchSides (peerId : String) (uuid : Bytes)
  | connectToUserSession (sid : Nat)
  | voiceCallInput (on : Bool)
  | audioData
  | initTerminalService
  | terminalPersistence (persistent : Bool)
  | terminalAction
  | whiteboard (registered : Bool)
  | removeWallpaper
  /-- Bytes are relayed to the forwarded address. -/
  | forward (bytes : Bytes)
  deriving DecidableEq

/-- Where `Connection::start` is: in its main loop, in the relay loop of
`try_port_forward_loop`, or at its end. -/
inductive Phase
  | running
  | relaying (address : String)
  | ended
  deriving DecidableEq

/-- A connection, the host it runs on, the time something was last received,
and the effects of the last event. -/
structure World where
  host : Host
  conn : Connection
  phase : Phase
  lastRecvTime : Int
  out : List Effect

namespace LoginState

variable (login : LoginState)

/-- What the session of this connection is filed under. -/
def sessionKey : SessionKey :=
  ⟨login.lr.myId, login.lr.myName, login.lr.sessionId⟩

/-- No special kind of connection was asked for. -/
def isRemote : Bool :=
  login.fileTransfer.isNone && login.portForwardSocket.isNone &&
    !login.viewCamera && !login.terminal

/-- The type a connection is authorized for, in this order of preference. -/
def authConnType : AuthConnType :=
  if login.fileTransfer.isSome then .fileTransfer
  else if login.portForwardSocket.isSome then .portForward
  else if login.viewCamera then .viewCamera
  else if login.terminal then .terminal
  else .remote

/-- Authorized for remote control. -/
def isAuthedRemoteConn : Bool := login.authedConnId == some .remote

/-- Authorized for viewing the camera. -/
def isAuthedViewCameraConn : Bool := login.authedConnId == some .viewCamera

/-- What this connection shows to its peer. -/
def videoSource : VideoSource :=
  if login.viewCamera then .camera else .monitor

end LoginState

namespace Access

variable (env : Env) (access : Access)

/-- Keyboard allowed by the host and not given up by the peer. -/
def peerKeyboardEnabled : Bool := access.keyboard && !access.disableKeyboard

/-- Clipboard allowed by the host and not given up by the peer. -/
def clipboardEnabled : Bool := access.clipboard && !access.disableClipboard

/-- Audio allowed by the host and not given up by the peer. -/
def audioEnabled : Bool := access.audio && !access.disableAudio

/-- Whether the clipboard service may serve this connection. -/
def canSubClipboardService : Bool :=
  access.clipboardEnabled && access.peerKeyboardEnabled &&
    env.getBuiltinOption "one-way-clipboard-redirection" != "Y"

end Access

namespace Connection

variable (env : Env) (conn : Connection)

/-- Files may be copied through the clipboard. -/
def fileTransferEnabled : Bool := conn.file && conn.enableFileTransfer

/-- Whether the file clipboard service may serve this connection. -/
def canSubFileClipboardService : Bool :=
  conn.clipboardEnabled && conn.fileTransferEnabled &&
    env.getBuiltinOption "one-way-file-transfer" != "Y"

/-- Restart the countdown to the automatic disconnection. -/
def updateAutoDisconnectTimer : Connection :=
  { conn with
    autoDisconnectTimer := conn.autoDisconnectTimer.map
      fun timer => (env.now, timer.2) }

end Connection

namespace World

variable (env : Env) (world : World)

/-- Change the connection. -/
def modify (change : Connection → Connection) : World :=
  { world with conn := change world.conn }

/-- Change the host. -/
def modifyHost (change : Host → Host) : World :=
  { world with host := change world.host }

/-- An effect happens. -/
def emit (effect : Effect) : World :=
  { world with out := world.out ++ [effect] }

/-- A message goes to the peer. -/
def send (reply : Reply) : World := world.emit (.send reply)

/-- A message goes to the connection manager. -/
def sendToCm (message : ToCm) : World := world.emit (.toCm message)

/-- A command goes to the file code of the connection manager. -/
def sendFs (command : Fs) : World := world.sendToCm (.fs command)

/-- The peer is told which permission it has. -/
def sendPermission (permission : Permission) (enabled : Bool) : World :=
  world.send (.permission permission enabled)

/-- The peer is told why its login did not succeed. -/
def sendLoginError (error : String) : World :=
  world.send (.loginError error
    (error == "2FA Required" && env.enableTrustedDevices))

/-- Restart the countdown to the automatic disconnection. -/
def updateAutoDisconnectTimer : World :=
  world.modify fun conn => conn.updateAutoDisconnectTimer env

/-- `Server::subscribe`: subscribe or unsubscribe if that is a change. -/
def subscribe (name : ServiceName) (sub : Bool) : World :=
  if env.serverAlive && world.host.contains name &&
      world.host.isSubed name world.conn.id != sub then
    if sub then
      (world.modifyHost fun host => host.onSubscribe name world.conn.id).emit
        (.subscribed name)
    else
      (world.modifyHost fun host => host.onUnsubscribe name world.conn.id).emit
        (.unsubscribed name)
  else world

/-- Add a service unless it exists. -/
def addService (name : ServiceName) : World :=
  if env.serverAlive then world.modifyHost fun host => host.addService name
  else world

/-- The connection manager is told about a login. -/
def tryStartCm (peerId name : String) (authorized : Bool) : World :=
  let conn := world.conn
  world.sendToCm (.login
    { id := conn.id
      isFileTransfer := conn.fileTransfer.isSome
      isViewCamera := conn.viewCamera
      isTerminal := conn.terminal
      portForward := conn.portForwardAddress
      peerId := peerId
      name := name
      authorized := authorized
      keyboard := conn.keyboard
      clipboard := conn.clipboard
      audio := conn.audio
      file := conn.file
      fileTransferEnabled := conn.file
      restart := conn.restart
      recording := conn.recording
      blockInput := conn.blockInput
      fromSwitch := conn.fromSwitch
      peerPlatform := conn.lr.myPlatform })

/-- The channel to the connection manager is opened once, on desktops. -/
def tryStartCmIpc : World :=
  if env.build.isMobile then world
  else world.modify fun conn => { conn with cmIpcStarted := true }

/-- Ask the connection manager for the entries of a directory. -/
def readDir (dir : String) (includeHidden : Bool) : World :=
  world.sendFs (.readDir dir includeHidden)

/-- The session of this connection is forgotten unless still in use. -/
def checkRemoveSession : World :=
  world.modifyHost fun host =>
    host.checkRemoveSession world.conn.id world.conn.sessionKey

/-- The peer is told not to try again. -/
def sendCloseReasonNoRetry (reason : String) : World :=
  (world.send (.closeReason
    (if reason = "" then "Closed manually by the peer" else reason))
  ).checkRemoveSession

/-- The connection is closed, once. -/
def onClose (lock : Bool) : World :=
  if world.conn.closed then world
  else
    let locked :=
      if lock && world.conn.lockAfterSessionEnd && world.conn.keyboard &&
          !env.build.isMobile then
        (world.emit (.voiceCallInput false)).emit .lockScreen
      else world.emit (.voiceCallInput false)
    let told := locked.sendToCm
      (if !env.build.isMobile &&
          (world.conn.chatUnanswered ||
            world.conn.fileTransferred && env.build.flutter) then
        .disconnected
      else .close)
    told.modify fun conn => { conn with closed := true, portForwardSocket := none }

end World

end Server
end OneDesk
