import OneDesk.Server.Frame

/-!
# What the messages of a peer leave alone

Starting a session and handling a message of an authorized peer keep the login
part of the connection.  Which effects they may have is left open: every lemma
names the effects beyond the ordinary ones that have to be allowed.
-/

namespace OneDesk
namespace Server

open OneDesk.Stream OneDesk.Common

/-- Effects that bring input to the host. -/
def Effect.isInput : Effect → Bool
  | .input _ => true
  | .mobilePointer _ _ _ _ => true
  | .mobileKey _ => true
  | _ => false

namespace World

section Session

variable {allowed : Effect → Prop}
  (ordinary : ∀ effect, effect.isOrdinary = true → allowed effect)
  (env : Env) (world : World)

include ordinary

theorem trySubCameraDisplays_keeps :
    Keeps allowed world (world.trySubCameraDisplays env) := by
  refine Keeps.ite (fun _ => ?_) (fun _ => Keeps.refl world)
  refine (Keeps.modifyHost world ?_).trans (Keeps.emit _ (ordinary _ rfl))
  unfold Host.addService Host.onSubscribe Host.mapSubscribers
  split <;> rfl

omit ordinary in
theorem addConnection_keeps
    (noperms : List ServiceName)
    (granted : ∀ name, allowed (.subscribed name)) :
    Keeps allowed world (world.addConnection env noperms) := by
  refine Keeps.foldl _ (fun current name _ => ?_) world
  refine (Keeps.modifyHost current ?_).trans (Keeps.emit _ (granted name))
  rfl

omit ordinary in
theorem trySubMonitorServices_keeps
    (granted : world.conn.isRemote = true → ∀ name, allowed (.subscribed name)) :
    Keeps allowed world (world.trySubMonitorServices env) := by
  refine Keeps.ite (fun remote => ?_) (fun _ => Keeps.refl world)
  have isRemote : world.conn.isRemote = true := (Bool.and_eq_true_iff.mp remote).1
  have subed : Keeps allowed world
      (world.modify fun conn => { conn with servicesSubed := true }) :=
    Keeps.modify world rfl rfl
  refine subed.trans (Keeps.ite (fun _ => ?_) (fun _ => Keeps.refl _))
  refine Keeps.trans ?_ (addConnection_keeps env _ _ (granted isRemote))
  refine Keeps.trans ?_ (addService_keeps env _ _)
  exact Keeps.modify _ rfl rfl

theorem initTerminalService_keeps :
    Keeps allowed world (world.initTerminalService env) := by
  unfold initTerminalService
  split
  · exact Keeps.emit world (ordinary _ rfl)
  · exact Keeps.refl world

theorem applyOptionsInLogin_keeps
    (granted : ∀ name, allowed (.subscribed name)) :
    Keeps allowed world (world.applyOptionsInLogin env) := by
  unfold applyOptionsInLogin
  split
  · exact (Keeps.modify world rfl rfl).trans
      (updateOptions_keeps ordinary env _ (fun _ _ => granted _)
        (fun _ _ => granted _))
  · exact Keeps.refl world

theorem startSession_keeps
    (waiting subService : Bool)
    (granted : ∀ name, allowed (.subscribed name)) :
    Keeps allowed world (world.startSession env waiting subService) := by
  unfold startSession
  split
  · exact Keeps.ite (fun _ => Keeps.modify world rfl rfl)
      (fun _ => sendFs_keeps ordinary world _)
  · refine Keeps.ite (fun _ => ?_) (fun _ => ?_)
    · exact (Keeps.modify world rfl rfl).trans
        (initTerminalService_keeps ordinary env _)
    · refine Keeps.ite (fun _ => ?_) (fun _ => ?_)
      · refine Keeps.trans ?_ (send_keeps ordinary _ _)
        refine Keeps.trans ?_ (Keeps.modify _ rfl rfl)
        exact Keeps.ite (fun _ => Keeps.refl world)
          (fun _ => trySubCameraDisplays_keeps ordinary env world)
      · exact Keeps.ite
          (fun _ => trySubMonitorServices_keeps env world (fun _ => granted))
          (fun _ => Keeps.refl world)

theorem updateCodecOnLogin_keeps :
    Keeps allowed world world.updateCodecOnLogin :=
  Keeps.emit world (ordinary _ rfl)

theorem onRemoteAuthorized_keeps :
    Keeps allowed world (world.onRemoteAuthorized env) := by
  have updated := updateCodecOnLogin_keeps ordinary world
  exact Keeps.ite
    (fun _ => updated.trans (Keeps.emit _ (ordinary _ rfl))) (fun _ => updated)

/-- Answering a login starts the session and leaves the login as it is. -/
theorem answerLogon_keeps
    (granted : ∀ name, allowed (.subscribed name)) :
    Keeps allowed world (world.answerLogon env) := by
  have started : ∀ {current : World} (reply : Reply) (waiting subService : Bool),
      Keeps allowed world current →
      Keeps allowed world (((current.send reply).applyOptionsInLogin env
        ).startSession env waiting subService) := by
    intro current reply waiting subService reached
    refine Keeps.trans ?_ (startSession_keeps ordinary env _ _ _ granted)
    refine Keeps.trans ?_ (applyOptionsInLogin_keeps ordinary env _ granted)
    exact reached.trans (send_keeps ordinary current reply)
  refine Keeps.ite (fun _ => send_keeps ordinary world _) (fun _ => ?_)
  refine Keeps.ite (fun _ => send_keeps ordinary world _) (fun _ => ?_)
  refine Keeps.ite (fun _ => started _ _ _ (Keeps.refl world)) (fun _ => ?_)
  refine Keeps.ite
    (fun _ => started _ _ _ (updateCodecOnLogin_keeps ordinary world)) (fun _ => ?_)
  have remote := onRemoteAuthorized_keeps ordinary env world
  cases env.displaysOnLogin with
  | error error => exact started _ _ _ remote
  | ok displays => exact started _ _ _ remote

end Session

/-- Whether closing the connection locks the screen by pressing keys, as hosts on
Linux and macOS do. -/
def locks (env : Env) (world : World) : Bool :=
  world.conn.lockAfterSessionEnd && world.conn.keyboard &&
    (env.build.os == .linux || env.build.os == .macos)

/-- Whether a message brings input to the host, the keys that lock the screen
included. -/
def injects (env : Env) (world : World) : Message → Bool
  | .mouseEvent _ =>
      !world.conn.isAuthedViewCameraConn &&
        (env.build.isMobile || world.conn.peerKeyboardEnabled)
  | .pointerDeviceEvent event =>
      !world.conn.isAuthedViewCameraConn &&
        if env.build.isMobile then event != .other
        else world.conn.peerKeyboardEnabled
  | .keyEvent _ =>
      !world.conn.isAuthedViewCameraConn &&
        match env.build.os with
        | .ios => false
        | .android => true
        | .windows | .linux | .macos => world.conn.peerKeyboardEnabled
  | .misc (.closeReason _) => world.locks env
  | _ => false

/-- Displays, audio and clipboard a message subscribes its sender to. -/
def subscribes (env : Env) (world : World) (message : Message) : List ServiceName :=
  if env.serverAlive then
    match message with
    | .misc (.switchDisplay display _) =>
        if world.conn.displayIdx ≠ display then
          [.video world.conn.videoSource display]
        else []
    | .misc (.captureDisplays add sub set) =>
        (capturedDisplays add sub set).map (.video world.conn.videoSource)
    | .misc (.option o) =>
        (if world.conn.grantsAudio o then [.audio] else []) ++
          (if world.conn.grantsClipboard env o then [.clipboard] else [])
    | _ => []
  else []

/-- Whether a message of an authorized peer closes the connection itself. -/
def hangsUp (env : Env) : Misc → Bool
  | .switchSidesRequest uuid => env.build.flutter && uuid.length == 16
  | _ => false

/-- A message that closes the connection asks to switch sides. -/
theorem onAuthorizedMessage_hangsUp
    {env : Env}
    {misc : Misc}
    (hanging : hangsUp env misc = true)
    (world : World) :
    ∃ uuid, misc = .switchSidesRequest uuid ∧
      world.onAuthorizedMessage env (.misc misc) =
        ((world.emit (.switchSides world.conn.lr.myId uuid)).onClose env false, false) := by
  cases misc with
  | switchSidesRequest uuid => exact ⟨uuid, rfl, if_pos hanging⟩
  | _ => cases hanging

section Messages

variable {allowed : Effect → Prop}
  (ordinary : ∀ effect, effect.isOrdinary = true → allowed effect)
  (env : Env) (world : World)

include ordinary

theorem onMouseEvent_keeps
    {event : MouseEvent}
    (granted : world.injects env (.mouseEvent event) = true →
      ∀ effect, effect.isInput = true → allowed effect) :
    Keeps allowed world (world.onMouseEvent env event) := by
  refine Keeps.ite (fun _ => Keeps.refl world) (fun watching => ?_)
  refine Keeps.trans ?_ (updateAutoDisconnectTimer_keeps env _)
  have injected : env.build.isMobile = true ∨
      world.conn.peerKeyboardEnabled = true →
        ∀ effect, effect.isInput = true → allowed effect := by
    intro enabled
    apply granted
    simpa [injects, watching] using enabled
  refine Keeps.ite (fun mobile => Keeps.emit world (injected (.inl mobile) _ rfl))
    (fun _ => ?_)
  refine Keeps.ite (fun enabled => Keeps.emit world (injected (.inr enabled) _ rfl))
    (fun _ => ?_)
  exact Keeps.ite (fun _ => Keeps.emit world (ordinary _ rfl))
    (fun _ => Keeps.refl world)

omit ordinary in
theorem onPointerDeviceEvent_keeps
    {event : PointerDeviceEvent}
    (granted : world.injects env (.pointerDeviceEvent event) = true →
      ∀ effect, effect.isInput = true → allowed effect) :
    Keeps allowed world (world.onPointerDeviceEvent env event) := by
  refine Keeps.ite (fun _ => Keeps.refl world) (fun watching => ?_)
  refine Keeps.trans ?_ (updateAutoDisconnectTimer_keeps env _)
  refine Keeps.ite (fun mobile => ?_) (fun desktop => ?_)
  · have touched : event ≠ .other →
        ∀ effect, effect.isInput = true → allowed effect := by
      intro known
      apply granted
      simpa [injects, watching, mobile] using known
    cases event with
    | panStart x y => exact Keeps.emit world (touched (by simp) _ rfl)
    | panUpdate x y => exact Keeps.emit world (touched (by simp) _ rfl)
    | panEnd x y => exact Keeps.emit world (touched (by simp) _ rfl)
    | other => exact Keeps.refl world
  · refine Keeps.ite (fun enabled => Keeps.emit world (granted ?_ _ rfl))
      (fun _ => Keeps.refl world)
    simpa [injects, watching, desktop] using enabled

omit ordinary in
/-- A key event that brings no input does nothing but restart a countdown. -/
theorem onKeyEvent_keeps
    {event : KeyEvent}
    (quiet : world.injects env (.keyEvent event) = false) :
    Keeps allowed world (world.onKeyEvent env event) := by
  unfold injects at quiet
  unfold onKeyEvent
  cases watching : world.conn.isAuthedViewCameraConn with
  | true =>
      cases env.build.os with
      | windows => exact Keeps.refl world
      | linux => exact Keeps.refl world
      | macos => exact Keeps.refl world
      | android => exact Keeps.refl world
      | ios => exact Keeps.refl world
  | false =>
      rw [watching] at quiet
      cases os : env.build.os with
      | windows =>
          have disabled : world.conn.peerKeyboardEnabled = false := by
            simpa [os] using quiet
          simp only [disabled, Bool.false_eq_true, ↓reduceIte]
          exact updateAutoDisconnectTimer_keeps env world
      | linux =>
          have disabled : world.conn.peerKeyboardEnabled = false := by
            simpa [os] using quiet
          simp only [disabled, Bool.false_eq_true, ↓reduceIte]
          exact updateAutoDisconnectTimer_keeps env world
      | macos =>
          have disabled : world.conn.peerKeyboardEnabled = false := by
            simpa [os] using quiet
          simp only [disabled, Bool.false_eq_true, ↓reduceIte]
          exact updateAutoDisconnectTimer_keeps env world
      | android => simp [os] at quiet
      | ios => exact Keeps.refl world

theorem onClipboard_keeps : Keeps allowed world world.onClipboard :=
  Keeps.ite (fun _ => Keeps.emit world (ordinary _ rfl)) (fun _ => Keeps.refl world)

theorem onMultiClipboards_keeps :
    Keeps allowed world (world.onMultiClipboards env) := by
  have set := onClipboard_keeps ordinary world
  unfold onMultiClipboards
  cases env.build.os with
  | windows => exact set
  | linux => exact set
  | macos => exact set
  | android => exact Keeps.emit world (ordinary _ rfl)
  | ios => exact Keeps.refl world

theorem onCliprdr_keeps : Keeps allowed world (world.onCliprdr env) := by
  refine Keeps.ite (fun _ => sendToCm_keeps ordinary world rfl) (fun _ => ?_)
  exact Keeps.ite (fun _ => Keeps.emit world (ordinary _ rfl))
    (fun _ => Keeps.refl world)

theorem runFileAction_keeps (action : FileAction) :
    Keeps allowed world (world.runFileAction action) := by
  have job : Keeps allowed world (world.emit (.fileJob action)) :=
    Keeps.emit world (ordinary _ rfl)
  unfold runFileAction
  cases action with
  | readEmptyDirs path includeHidden => exact sendFs_keeps ordinary world _
  | readDir path includeHidden => exact sendFs_keeps ordinary world _
  | allFiles => exact job
  | send =>
      refine job.trans ?_
      exact Keeps.modify _ rfl rfl
  | receive id path files fileNum totalSize =>
      have asked := sendFs_keeps ordinary world (.newWrite path id fileNum files
        (getVersionNumber world.conn.lr.version ≥ getVersionNumber "1.1.10")
        totalSize world.conn.id)
      refine asked.trans ?_
      exact Keeps.modify _ rfl rfl
  | removeDir => exact sendFs_keeps ordinary world _
  | removeFile => exact sendFs_keeps ordinary world _
  | create id path =>
      exact (sendFs_keeps ordinary world _).trans (sendToCm_keeps ordinary _ rfl)
  | cancel id =>
      exact (sendFs_keeps ordinary world _).trans (Keeps.emit _ (ordinary _ rfl))
  | sendConfirm => exact job
  | rename id path newName =>
      exact (sendFs_keeps ordinary world _).trans (sendToCm_keeps ordinary _ rfl)

theorem onFileAction_keeps (action : FileAction) :
    Keeps allowed world (world.onFileAction env action) := by
  have ran := runFileAction_keeps ordinary world action
  refine Keeps.ite (fun _ => ?_) (fun _ => Keeps.refl world)
  refine Keeps.ite (fun _ => ?_) (fun _ => ?_)
  · split
    · exact Keeps.modify world rfl rfl
    · exact Keeps.refl world
  · refine Keeps.ite (fun _ => ?_) (fun _ => ran)
    split
    · exact send_keeps ordinary world _
    · exact ran

theorem onFileResponse_keeps (response : FileResponse) :
    Keeps allowed world (world.onFileResponse response) := by
  cases response with
  | block id fileNum data compressed => exact sendFs_keeps ordinary world _
  | done id fileNum => exact sendFs_keeps ordinary world _
  | digest => exact sendFs_keeps ordinary world _
  | error id fileNum error => exact sendFs_keeps ordinary world _

theorem closeVoiceCall_keeps :
    Keeps allowed world (world.closeVoiceCall env) := by
  have silent : Keeps allowed world
      (((world.emit (.voiceCallInput false)).sendToCm .closeVoiceCall).modify
        fun conn => { conn with voiceCalling := false }) := by
    refine Keeps.trans ?_ (Keeps.modify _ rfl rfl)
    exact (Keeps.emit world (ordinary _ rfl)).trans (sendToCm_keeps ordinary _ rfl)
  refine Keeps.ite (fun _ => silent.trans ?_) (fun _ => silent)
  apply subscribe_keeps ordinary env
  intro _ impossible
  cases impossible

theorem handleVoiceCall_keeps
    (accepted : Bool)
    (granted : allowed (.subscribed .audio)) :
    Keeps allowed world (world.handleVoiceCall env accepted) := by
  unfold handleVoiceCall
  split
  · exact Keeps.refl world
  next timestamp _ =>
    have told : Keeps allowed world
        (if accepted then
          (world.emit (.voiceCallInput true)).sendToCm .startVoiceCall
        else world.sendToCm .closeVoiceCall) := by
      refine Keeps.ite (fun _ => ?_) (fun _ => sendToCm_keeps ordinary world rfl)
      exact (Keeps.emit world (ordinary _ rfl)).trans
        (sendToCm_keeps ordinary _ rfl)
    refine Keeps.trans (told.trans (send_keeps ordinary _
      (.voiceCallResponse timestamp accepted))) ?_
    refine Keeps.ite (fun _ => ?_) (fun _ => Keeps.modify _ rfl rfl)
    refine Keeps.trans ?_ (subscribe_keeps ordinary env _ (fun _ _ => granted))
    exact Keeps.modify _ rfl rfl

theorem onVoiceCallRequest_keeps (timestamp : Int) (isConnect : Bool) :
    Keeps allowed world (world.onVoiceCallRequest env timestamp isConnect) := by
  refine Keeps.ite (fun _ => ?_) (fun _ => closeVoiceCall_keeps ordinary env world)
  exact (Keeps.modify world rfl rfl).trans (sendToCm_keeps ordinary _ rfl)

theorem handleElevationRequest_keeps :
    Keeps allowed world (world.handleElevationRequest env) := by
  refine Keeps.trans ?_ (updateAutoDisconnectTimer_keeps env _)
  refine Keeps.ite (fun _ => send_keeps ordinary world _) (fun _ => ?_)
  refine Keeps.ite (fun _ => send_keeps ordinary world _) (fun _ => ?_)
  exact (Keeps.emit world (ordinary _ rfl)).trans (send_keeps ordinary _ _)

theorem onSelectedSid_keeps
    (sid : Nat)
    (remote : world.conn.isRemote = true → ∀ name, allowed (.subscribed name)) :
    Keeps allowed world (world.onSelectedSid env sid).1 := by
  unfold onSelectedSid
  split
  · exact Keeps.refl world
  · split
    · exact Keeps.emit world (ordinary _ rfl)
    · split
      · split
        · exact (Keeps.modify world rfl rfl).trans (sendFs_keeps ordinary _ _)
        · exact Keeps.refl world
      · split
        · exact trySubCameraDisplays_keeps ordinary env world
        · split
          · exact trySubMonitorServices_keeps env world remote
          · exact Keeps.refl world

/-- A miscellaneous message that does not close the connection. -/
theorem onMisc_keeps
    {misc : Misc}
    (stays : hangsUp env misc = false)
    (granted : ∀ name ∈ world.subscribes env (.misc misc),
      allowed (.subscribed name))
    (remote : world.conn.isRemote = true → ∀ name, allowed (.subscribed name)) :
    Keeps allowed world (world.onMisc env misc).1 := by
  cases misc with
  | closeReason reason => exact Keeps.refl world
  | switchDisplay display resolution =>
      apply handleSwitchDisplay_keeps ordinary env world
      intro alive other
      apply granted
      simp [subscribes, alive, other]
  | captureDisplays add sub set =>
      apply captureDisplays_keeps ordinary env world
      intro alive display listed
      apply granted
      simpa [subscribes, alive] using listed
  | toggleVirtualDisplay display on =>
      exact Keeps.ite (fun _ => Keeps.emit world (ordinary _ rfl))
        (fun _ => Keeps.refl world)
  | togglePrivacyMode implKey on =>
      exact Keeps.ite (fun _ => turnOnPrivacy_keeps ordinary env world implKey)
        (fun _ => turnOffPrivacy_keeps ordinary env world)
  | chatMessage text =>
      refine Keeps.trans ?_ (updateAutoDisconnectTimer_keeps env _)
      have told : Keeps allowed world (world.sendToCm (.chatMessage text)) :=
        sendToCm_keeps ordinary world rfl
      refine told.trans ?_
      exact Keeps.modify _ rfl rfl
  | option o =>
      apply updateOptions_keeps ordinary env world
      · intro alive audio
        apply granted
        simp [subscribes, alive, audio]
      · intro alive clipboard
        apply granted
        simp [subscribes, alive, clipboard]
  | refreshVideo refresh =>
      refine Keeps.trans ?_ (updateAutoDisconnectTimer_keeps env _)
      exact Keeps.ite (fun _ => Keeps.emit world (ordinary _ rfl))
        (fun _ => Keeps.refl world)
  | refreshVideoDisplay display =>
      refine Keeps.trans ?_ (updateAutoDisconnectTimer_keeps env _)
      exact Keeps.emit world (ordinary _ rfl)
  | videoReceived => exact Keeps.emit world (ordinary _ rfl)
  | restartRemoteDevice =>
      exact Keeps.ite (fun _ => Keeps.emit world (ordinary _ rfl))
        (fun _ => Keeps.refl world)
  | elevationRequest =>
      exact Keeps.ite (fun _ => handleElevationRequest_keeps ordinary env world)
        (fun _ => Keeps.refl world)
  | audioFormat =>
      refine Keeps.ite (fun _ => Keeps.refl world) (fun _ => ?_)
      exact (Keeps.modify world rfl rfl).trans (Keeps.emit _ (ordinary _ rfl))
  | switchSidesRequest uuid =>
      have short : (env.build.flutter && uuid.length == 16) = false := stays
      simp only [onMisc, short, Bool.false_eq_true, ↓reduceIte]
      exact Keeps.refl world
  | changeResolution resolution =>
      exact Keeps.ite (fun _ => Keeps.refl world)
        (fun _ => changeResolution_keeps ordinary world none resolution)
  | changeDisplayResolution display resolution =>
      exact Keeps.ite (fun _ => Keeps.refl world)
        (fun _ => changeResolution_keeps ordinary world (some display) resolution)
  | autoAdjustFps fps => exact Keeps.emit world (ordinary _ rfl)
  | clientRecordStatus status => exact Keeps.emit world (ordinary _ rfl)
  | selectedSid sid =>
      simp only [onMisc]
      split
      · exact onSelectedSid_keeps ordinary env world sid remote
      · exact Keeps.refl world
  | messageQuery display => exact send_keeps ordinary world _
  | other => exact Keeps.refl world

/-- A message other than a key event that does not close the connection. -/
theorem onAuthorizedMessage_keeps
    {message : Message}
    (noKey : ∀ event, message = .keyEvent event →
      world.injects env message = false)
    (stays : ∀ misc, message = .misc misc → hangsUp env misc = false)
    (injected : world.injects env message = true →
      ∀ effect, effect.isInput = true → allowed effect)
    (granted : ∀ name ∈ world.subscribes env message, allowed (.subscribed name))
    (remote : world.conn.isRemote = true → ∀ name, allowed (.subscribed name)) :
    Keeps allowed world (world.onAuthorizedMessage env message).1 := by
  cases message with
  | mouseEvent event => exact onMouseEvent_keeps ordinary env world injected
  | pointerDeviceEvent event => exact onPointerDeviceEvent_keeps env world injected
  | keyEvent event => exact onKeyEvent_keeps env world (noKey event rfl)
  | clipboard => exact onClipboard_keeps ordinary world
  | multiClipboards => exact onMultiClipboards_keeps ordinary env world
  | cliprdr => exact onCliprdr_keeps ordinary env world
  | fileAction action => exact onFileAction_keeps ordinary env world action
  | fileResponse response => exact onFileResponse_keeps ordinary world response
  | misc misc => exact onMisc_keeps ordinary env world (stays misc rfl) granted remote
  | audioFrame =>
      exact Keeps.ite (fun _ => Keeps.emit world (ordinary _ rfl))
        (fun _ => Keeps.refl world)
  | voiceCallRequest timestamp isConnect =>
      exact onVoiceCallRequest_keeps ordinary env world timestamp isConnect
  | screenshotRequest display =>
      exact (Keeps.emit world (ordinary _ rfl)).trans (Keeps.emit _ (ordinary _ rfl))
  | terminalAction =>
      exact Keeps.ite (fun _ => Keeps.emit world (ordinary _ rfl))
        (fun _ => Keeps.refl world)
  | loginRequest lr => exact Keeps.refl world
  | auth2fa code hwid => exact Keeps.refl world
  | testDelay time fromClient => exact Keeps.refl world
  | switchSidesResponse uuid request => exact Keeps.refl world
  | voiceCallResponse => exact Keeps.refl world
  | other => exact Keeps.refl world

theorem onTestDelay_keeps (time : Int) (fromClient : Bool) :
    Keeps allowed world (world.onTestDelay env time fromClient) := by
  refine Keeps.ite (fun _ => send_keeps ordinary world _) (fun _ => ?_)
  split
  · exact Keeps.refl world
  · exact (Keeps.modify world rfl rfl).trans (Keeps.emit _ (ordinary _ rfl))

end Messages

end World

end Server
end OneDesk
