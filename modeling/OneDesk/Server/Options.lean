import OneDesk.Server.Connection

/-!
# Displays, privacy and session options

What an authorized connection may change about its own session: the displays it
receives, privacy mode, and the options of an option message.  Every handler
here leaves the login part of the connection and the login tables of the host
as they are, whatever it emits.
-/

namespace OneDesk
namespace Server

open OneDesk.Stream OneDesk.Common

/-- The image quality a message asks for, not positive for none. -/
def OptionMessage.imageQualityValue (o : OptionMessage) (quality : ImageQuality) :
    Int :=
  if quality = .notSet then
    if o.customImageQuality > 0 then o.customImageQuality else -1
  else quality.value

namespace World

variable (env : Env) (world : World)

/-- Ask the video services for a key frame. -/
def refreshVideoDisplay (display : Option Nat) : World :=
  world.emit (.refreshVideo display)

/-- Change the resolution of a display, given permission to control the host. -/
def changeResolution (display : Option Nat) (resolution : Resolution) : World :=
  if world.conn.keyboard then
    world.emit (.changeResolution (some (display.getD world.conn.displayIdx))
      resolution)
  else world

/-- Receive another display. -/
def switchDisplayTo (displayIdx : Nat) : World :=
  let source := world.conn.videoSource
  let old := world.conn.displayIdx
  let added :=
    if displayIdx ≠ env.primaryDisplayIdx then
      world.addService env (.video source displayIdx)
    else world
  let left :=
    if getVersionNumber world.conn.lr.version < getVersionNumber "1.2.4" then
      added.subscribe env (.video source old) false
    else added
  let switched := left.subscribe env (.video source displayIdx) true
  switched.modify fun conn => { conn with displayIdx := displayIdx }

/-- `SwitchDisplay`: receive another display, maybe with a new resolution. -/
def handleSwitchDisplay (display : Nat) (resolution : Resolution) : World :=
  if world.conn.displayIdx ≠ display then
    let switched :=
      if env.serverAlive then
        let switched := world.switchDisplayTo env display
        if !env.build.isMobile && resolution.width != 0 &&
            resolution.height != 0 then
          switched.changeResolution none resolution
        else switched
      else world
    switched.send
      (.displayChanged switched.conn.displayIdx switched.conn.videoSource)
  else world

/-- Subscribe to the listed video services, unsubscribe from the others. -/
def serverCaptureDisplays (displays : List ServiceName) (including : Bool)
    (excluding : Bool) : World :=
  ((world.host.services.map Service.name).filter ServiceName.isVideo).foldl
    (fun current name =>
      if displays.contains name then
        if including then current.subscribe env name true else current
      else if excluding then current.subscribe env name false
      else current)
    world

/-- Add the video services of displays that have none yet. -/
def addDisplays (source : VideoSource) (displays : List Nat) : World :=
  (displays.map (ServiceName.video source)).foldl
    (fun current name => current.addService env name) world

/-- Subscribe to the first list that is not empty. -/
def subscribeDisplays (source : VideoSource) (add sub set : List Nat) : World :=
  if !add.isEmpty then
    world.serverCaptureDisplays env (add.map (.video source)) true false
  else if !sub.isEmpty then
    world.serverCaptureDisplays env (sub.map (.video source)) false true
  else world.serverCaptureDisplays env (set.map (.video source)) true true

/-- `CaptureDisplays`: choose the displays to receive. -/
def captureDisplays (add sub set : List Nat) : World :=
  if env.serverAlive then
    let source := world.conn.videoSource
    let captured :=
      (world.addDisplays env source (add ++ set)).subscribeDisplays env source
        add sub set
    let counted :=
      captured.modify fun conn => { conn with
          multiUiSession :=
            captured.host.getSubbedDisplaysCount captured.conn.id > 1 }
    if counted.conn.followRemoteWindow then
      counted.subscribe env .windowFocus (!counted.conn.multiUiSession)
    else counted
  else world

/-- Turn privacy mode on for this connection. -/
def turnOnPrivacy (implKey : String) : World :=
  if env.isPrivacyModeSupported then
    (world.emit (.privacyOn implKey)).send .privacyMode
  else world.send .privacyMode

/-- Turn privacy mode off. -/
def turnOffPrivacy : World :=
  if env.isPrivacyModeSupported then
    (world.emit .privacyOff).send .privacyMode
  else world.send .privacyMode

/-- Subscribe to audio as far as the permissions go; viewers of a camera get
audio only during a voice call. -/
def subscribeAudio : World :=
  if world.conn.isAuthedViewCameraConn then
    if world.conn.voiceCalling || !world.conn.audioEnabled then
      world.subscribe env .audio world.conn.audioEnabled
    else world
  else world.subscribe env .audio world.conn.audioEnabled

/-- Subscribe to the clipboard as far as the permissions go. -/
def subscribeClipboard : World :=
  world.subscribe env .clipboard (world.conn.canSubClipboardService env)

/-- Subscribe to the file clipboard, where the host has that service. -/
def subscribeFileClipboard : World :=
  if env.build.unixFileCopyPaste then
    world.subscribe env .fileClipboard (world.conn.canSubFileClipboardService env)
  else world

/-- Subscribe to the cursor as far as the permissions go. -/
def subscribeCursor : World :=
  world.subscribe env .cursor
    (world.conn.peerKeyboardEnabled || world.conn.showRemoteCursor)

/-- Option `image_quality`. -/
def updateImageQuality (o : OptionMessage) : World :=
  match o.imageQuality with
  | none => world
  | some quality =>
      if o.imageQualityValue quality > 0 then
        world.emit (.qos (.userImageQuality (o.imageQualityValue quality)))
      else world

/-- Option `custom_fps`. -/
def updateCustomFps (o : OptionMessage) : World :=
  if o.customFps > 0 then world.emit (.qos (.userCustomFps o.customFps))
  else world

/-- Option `supported_decoding`. -/
def updateSupportedDecoding (o : OptionMessage) : World :=
  if o.supportedDecoding then world.emit (.encoderUpdate true) else world

/-- Option `lock_after_session_end`. -/
def updateLockAfterSessionEnd (o : OptionMessage) : World :=
  match asked o.lockAfterSessionEnd with
  | none => world
  | some on => world.modify fun conn => { conn with lockAfterSessionEnd := on }

/-- Option `show_remote_cursor`. -/
def updateShowRemoteCursor (o : OptionMessage) : World :=
  match env.build.isMobile, asked o.showRemoteCursor with
  | false, some on =>
      let shown := world.modify fun conn => { conn with showRemoteCursor := on }
      (shown.subscribeCursor env).subscribe env .cursorPosition on
  | _, _ => world

/-- Option `follow_remote_cursor`. -/
def updateFollowRemoteCursor (o : OptionMessage) : World :=
  match env.build.isMobile, asked o.followRemoteCursor with
  | false, some on =>
      world.modify fun conn => { conn with followRemoteCursor := on }
  | _, _ => world

/-- Option `follow_remote_window`. -/
def updateFollowRemoteWindow (o : OptionMessage) : World :=
  match asked o.followRemoteWindow with
  | none => world
  | some on =>
      (world.modify fun conn => { conn with followRemoteWindow := on }).subscribe
        env .windowFocus on

/-- Option `disable_audio`. -/
def updateDisableAudio (o : OptionMessage) : World :=
  match asked o.disableAudio with
  | none => world
  | some on =>
      (world.modify fun conn => { conn with disableAudio := on }).subscribeAudio env

/-- Option `enable_file_transfer`. -/
def updateEnableFileTransfer (o : OptionMessage) : World :=
  if env.build.os = .windows ∨ env.build.unixFileCopyPaste = true then
    match asked o.enableFileTransfer with
    | none => world
    | some on =>
        let enabled :=
          world.modify fun conn => { conn with enableFileTransfer := on }
        let told :=
          if env.build.os = .windows then
            enabled.sendToCm (.clipboardFileEnabled enabled.conn.fileTransferEnabled)
          else enabled
        let emptied :=
          if env.build.unixFileCopyPaste && !on then told.emit .emptyFileClipboard
          else told
        emptied.subscribeFileClipboard env
  else world

/-- Option `disable_clipboard`. -/
def updateDisableClipboard (o : OptionMessage) : World :=
  match asked o.disableClipboard with
  | none => world
  | some on =>
      (world.modify fun conn => { conn with disableClipboard := on }).subscribeClipboard
        env

/-- Option `disable_keyboard`. -/
def updateDisableKeyboard (o : OptionMessage) : World :=
  match asked o.disableKeyboard with
  | none => world
  | some on =>
      let disabled := world.modify fun conn => { conn with disableKeyboard := on }
      ((disabled.subscribeClipboard env).subscribeFileClipboard env).subscribeCursor env

/-- Option `privacy_mode` of old peers. -/
def updatePrivacyMode (o : OptionMessage) : World :=
  if getVersionNumber world.conn.lr.version < getVersionNumber "1.2.4" ∧
      world.conn.keyboard = true then
    match asked o.privacyMode with
    | some true => world.turnOnPrivacy env ""
    | some false => world.turnOffPrivacy env
    | none => world
  else world

/-- Option `block_input`. -/
def updateBlockInput (o : OptionMessage) : World :=
  match asked o.blockInput with
  | none => world
  | some on =>
      if world.conn.keyboard && world.conn.blockInput then
        world.emit (.input (if on then .blockOn else .blockOff))
      else world.send (.blockInputError on "No permission")

/-- Option `terminal_persistent`. -/
def updateTerminalPersistent (o : OptionMessage) : World :=
  match env.build.isMobile, asked o.terminalPersistent with
  | false, some on =>
      (world.modify fun conn => { conn with terminalPersistent := on }).emit
        (.terminalPersistence on)
  | _, _ => world

/-- Why the cursor of the peer cannot be shown on this host. -/
def notSupportMsg : String :=
  if env.build.os = .windows ∧ env.onlyLowerWindows = true then
    "Windows 10 or greater is required."
  else if env.build.os = .linux ∧ env.whiteboardSupported = false then
    "This feature is not supported on native Wayland, please install XWayland or switch to X11."
  else ""

/-- Option `show_my_cursor`. -/
def updateShowMyCursor (o : OptionMessage) : World :=
  match env.build.isMobile, asked o.showMyCursor with
  | false, some on =>
      let shown := world.modify fun conn => { conn with showMyCursor := on }
      if notSupportMsg env = "" then shown.emit (.whiteboard on)
      else if on then shown.send (.messageBox "Show my cursor" (notSupportMsg env))
      else shown
  | _, _ => world

/-- The options of `update_options` about quality, locking and the cursor. -/
def updateViewOptions (o : OptionMessage) : World :=
  let world := world.updateImageQuality o
  let world := world.updateCustomFps o
  let world := world.updateSupportedDecoding o
  let world := world.updateLockAfterSessionEnd o
  let world := world.updateShowRemoteCursor env o
  let world := world.updateFollowRemoteCursor env o
  world.updateFollowRemoteWindow env o

/-- The options of `update_options` after those about access. -/
def updateControlOptions (o : OptionMessage) : World :=
  let world := world.updatePrivacyMode env o
  let world := world.updateBlockInput o
  let world := world.updateTerminalPersistent env o
  world.updateShowMyCursor env o

/-- `update_options`: every option of the message in turn. -/
def updateOptions (o : OptionMessage) : World :=
  let world := world.updateViewOptions env o
  let world := world.updateDisableAudio env o
  let world := world.updateEnableFileTransfer env o
  let world := world.updateDisableClipboard env o
  let world := world.updateDisableKeyboard env o
  world.updateControlOptions env o

end World

end Server
end OneDesk
