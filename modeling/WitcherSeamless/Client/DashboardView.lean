import WitcherSeamless.Client.Renderer
import WitcherSeamless.Client.InputManager
import WitcherSeamless.Client.InventoryBridge

/-!
# What the dashboard draws

`ui_dashboard` registers one task on the renderer pipeline, run every 16 ms:
`render_command_palette` and then `render_global_hud`. While the input manager's palette is open,
`render_command_palette` advances the cursor's blink and draws the palette's background, its four
borders and, inside it, the input buffer with a `|` while the cursor is visible.
`render_global_hud` advances the warning's blink and draws the party line, and `STORY LOCKED`
below it while a global sync is active and the warning is visible. A blink flips its flag once at
least its interval, 500 ms for the cursor and 750 ms for the warning, has passed since it last
flipped.

The task's draws go through the renderer's queue, and the renderer pipeline runs inside
`renderer_stub` before the swap, so a frame in which the task runs prints them on that frame.
Composed with the keyboard hook: after Alt+S and any keys that neither toggle nor close the
palette, such a frame prints the line the line editor builds from the keys typed, at the palette's
text position and in opaque white, right after the palette's box and before the HUD
(`palette_shows_typed_line`).

The party count the HUD shows is the constant `PARTY_COUNT = 1`; `quest_sync::is_global_sync_active`
is declared and not defined in the sources, and enters as a parameter.

## Main definitions

* `Blink`, `updateBlink`, `updateCursorBlink`, `updateWarningBlink`.
* `paletteBox`, `renderCommandPalette`, `renderGlobalHud`, `DashboardView`, `dashboardTask`.

Source: `src/unnamed/part_013`, `ui_dashboard`.
-/

namespace WitcherSeamless

/-- `COMMAND_BAR_X`. -/
def commandBarX : ℚ := 210

/-- `COMMAND_BAR_Y`. -/
def commandBarY : ℚ := 200

/-- `COMMAND_BAR_WIDTH`. -/
def commandBarWidth : ℚ := 600

/-- `COMMAND_BAR_HEIGHT`. -/
def commandBarHeight : ℚ := 40

/-- `COLOR_MIDNIGHT`. -/
def colorMidnight : UInt32 := 0xC0000000

/-- `COLOR_WHITE`. -/
def colorWhite : UInt32 := 0xFFFFFFFF

/-- `TEXT_OFFSET_X`. -/
def textOffsetX : ℚ := 10

/-- `TEXT_OFFSET_Y`. -/
def textOffsetY : ℚ := 12

/-- `HUD_X`. -/
def hudX : ℚ := 1600

/-- `HUD_Y`. -/
def hudY : ℚ := 50

/-- `PARTY_COUNT` of `render_global_hud`. -/
def hudPartyCount : Nat := 1

/-! ### Blinking -/

/-- A blinking flag and the `steady_clock` time, in nanoseconds, of its last flip:
`g_cursor_visible` and `g_last_blink_time`, or `g_warning_visible` and
`g_last_warning_blink_time`. -/
structure Blink where
  lastBlinkTime : ℤ
  visible : Bool

/-- The state at load time: visible, last flipped at the clock's epoch. -/
def Blink.init : Blink := ⟨0, true⟩

/-- The body of `update_cursor_blink` and `update_warning_blink`, with their interval in
milliseconds. -/
def updateBlink (intervalMs : ℤ) (b : Blink) (now : ℤ) : Blink :=
  let elapsedMs := (now - b.lastBlinkTime).tdiv 1000000
  if intervalMs ≤ elapsedMs then ⟨now, !b.visible⟩ else b

/-- `update_cursor_blink()`: `BLINK_INTERVAL_MS = 500`. -/
def updateCursorBlink (b : Blink) (now : ℤ) : Blink := updateBlink 500 b now

/-- `update_warning_blink()`: `WARNING_BLINK_INTERVAL_MS = 750`. -/
def updateWarningBlink (b : Blink) (now : ℤ) : Blink := updateBlink 750 b now

/-! ### The palette and the HUD -/

/-- The five `draw_rect` calls of `render_command_palette`: the background in `COLOR_MIDNIGHT`,
then the top, bottom, left and right borders in `COLOR_WHITE`. -/
def paletteBox : List RenderCommand :=
  [.rect ⟨commandBarX, commandBarY⟩ ⟨commandBarWidth, commandBarHeight⟩
      (colorOfPacked colorMidnight),
    .rect ⟨commandBarX, commandBarY⟩ ⟨commandBarWidth, 1⟩ (colorOfPacked colorWhite),
    .rect ⟨commandBarX, commandBarY + commandBarHeight - 1⟩ ⟨commandBarWidth, 1⟩
      (colorOfPacked colorWhite),
    .rect ⟨commandBarX, commandBarY⟩ ⟨1, commandBarHeight⟩ (colorOfPacked colorWhite),
    .rect ⟨commandBarX + commandBarWidth - 1, commandBarY⟩ ⟨1, commandBarHeight⟩
      (colorOfPacked colorWhite)]

/-- `render_command_palette()`, with the input manager, the cursor's blink and the time: the new
blink and the commands drawn. -/
def renderCommandPalette (im : InputManager) (cursor : Blink) (now : ℤ) :
    Blink × List RenderCommand :=
  if !im.uiActive then (cursor, [])
  else
    let cursor := updateCursorBlink cursor now
    let displayText := im.inputBuffer ++ if cursor.visible then asciiBytes "|" else []
    (cursor, paletteBox ++
      [.text displayText ⟨commandBarX + textOffsetX, commandBarY + textOffsetY⟩ ⟨255, 255, 255, 255⟩])

/-- `render_global_hud()`, with the warning's blink, whether a global sync is active and the
time: the new blink and the commands drawn. -/
def renderGlobalHud (warning : Blink) (globalSyncActive : Bool) (now : ℤ) :
    Blink × List RenderCommand :=
  let warning := updateWarningBlink warning now
  let partyText := asciiBytes "W3M PARTY: " ++ toStringDec hudPartyCount ++ asciiBytes "/5"
  (warning, .text partyText ⟨hudX, hudY⟩ ⟨255, 255, 255, 255⟩ ::
    if globalSyncActive && warning.visible then
      [.text (asciiBytes "STORY LOCKED") ⟨hudX, hudY + 20⟩ ⟨255, 255, 0, 255⟩]
    else [])

/-- The two blinks of the dashboard. -/
structure DashboardView where
  cursor : Blink
  warning : Blink

/-- The state at load time. -/
def DashboardView.init : DashboardView := ⟨Blink.init, Blink.init⟩

/-- The task `ui_dashboard` runs on the renderer pipeline: the palette, then the HUD. -/
def dashboardTask (view : DashboardView) (im : InputManager) (globalSyncActive : Bool)
    (now : ℤ) : DashboardView × List RenderCommand :=
  let (cursor, palette) := renderCommandPalette im view.cursor now
  let (warning, hud) := renderGlobalHud view.warning globalSyncActive now
  (⟨cursor, warning⟩, palette ++ hud)

/-- The text of opaque white reaches the console as `COLOR_WHITE`. -/
theorem textColorWord_white : textColorWord ⟨255, 255, 255, 255⟩ = colorWhite := by decide

/-- With the palette open, a frame in which the dashboard's task runs prints, after what was
queued before, the palette's box, the input buffer with the cursor bar while it is visible, in
opaque white at the palette's text position, and the HUD. -/
theorem rendererStub_dashboardTask (r : Renderer) (im : InputManager) (hopen : im.uiActive = true)
    (view : DashboardView) (globalSyncActive : Bool) (now : ℤ) :
    (r.rendererStub true (dashboardTask view im globalSyncActive now).2).console =
      r.console ++ r.renderCommands.flatMap renderCommand ++ paletteBox.flatMap renderCommand ++
        ⟨commandBarX + textOffsetX, commandBarY + textOffsetY,
          im.inputBuffer ++
            (if (dashboardTask view im globalSyncActive now).1.cursor.visible then asciiBytes "|"
              else []), colorWhite⟩ ::
        (renderGlobalHud view.warning globalSyncActive now).2.flatMap renderCommand := by
  simp [Renderer.rendererStub_of_frame, dashboardTask, renderCommandPalette, hopen, renderCommand,
    renderText, textColorWord_white]

variable (gameWindow : UInt64)

/-- After Alt+S on a closed palette and any hook calls that neither toggle nor close it, each
character below `256`, a frame in which the dashboard's task runs prints, after what was queued
before and the palette's box, the line the line editor builds from the keys typed, with the cursor
bar while it is visible, in opaque white at the palette's text position, and then the HUD. -/
theorem palette_shows_typed_line (s : InputManager) (hs : s.uiActive = false)
    (hOpen : HookCall) (ho : hOpen.isToggle gameWindow = true) (typed : List HookCall)
    (hc : ∀ h ∈ typed, h.closesPalette gameWindow = false)
    (hw : ∀ h ∈ typed, ∀ w ∈ h.char? gameWindow, w.toNat < 256)
    (r : Renderer) (view : DashboardView) (globalSyncActive : Bool) (now : ℤ) :
    let im : InputManager := (s.runHooks gameWindow (hOpen :: typed)).1
    let task : DashboardView × List RenderCommand := dashboardTask view im globalSyncActive now
    (r.rendererStub true task.2).console =
      r.console ++ r.renderCommands.flatMap renderCommand ++ paletteBox.flatMap renderCommand ++
        ⟨commandBarX + textOffsetX, commandBarY + textOffsetY,
          typed.foldl (fun line h => h.edit gameWindow line) s.inputBuffer ++
            (if task.1.cursor.visible then asciiBytes "|" else []), colorWhite⟩ ::
        (renderGlobalHud view.warning globalSyncActive now).2.flatMap renderCommand := by
  intro im task
  simp only [HookCall.isToggle, Bool.and_eq_true, decide_eq_true_eq] at ho
  obtain ⟨hk, ha⟩ := ho
  have hopen : s.messageHookProc gameWindow hOpen = ⟨⟨true, s.inputBuffer⟩, .handled, none⟩ := by
    rw [InputManager.messageHookProc_of_keyDown gameWindow s hk, if_pos ⟨ha, rfl⟩]
    simp [InputManager.toggleUi, InputManager.setUiActive, hs]
  have him : im = ⟨true, typed.foldl (fun line h => h.edit gameWindow line) s.inputBuffer⟩ := by
    show (InputManager.runHooks gameWindow (s.messageHookProc gameWindow hOpen).state typed).1 = _
    rw [hopen]
    exact (InputManager.runHooks_of_open gameWindow s.inputBuffer typed hc hw).1
  have hbuf : im.inputBuffer = typed.foldl (fun line h => h.edit gameWindow line) s.inputBuffer := by
    rw [him]
  rw [rendererStub_dashboardTask r im (by rw [him]) view globalSyncActive now, hbuf]

/-- The session `paletteSession` after Alt+S, drawn on a frame from load with nothing queued. -/
theorem palette_session_shown :
    InputManager.init.uiActive = false ∧
      HookCall.isToggle 1 ⟨0, some ⟨1, wmSyskeydown, 0x53⟩, true⟩ = true ∧
      (∀ h ∈ paletteSession, h.closesPalette 1 = false) ∧
      (∀ h ∈ paletteSession, ∀ w ∈ h.char? 1, w.toNat < 256) ∧
      (let im : InputManager := (InputManager.init.runHooks 1
          (⟨0, some ⟨1, wmSyskeydown, 0x53⟩, true⟩ :: paletteSession)).1
        let task : DashboardView × List RenderCommand := dashboardTask DashboardView.init im false 0
        (Renderer.rendererStub ⟨[], []⟩ true task.2).console =
          [] ++ ([] : List RenderCommand).flatMap renderCommand ++
            paletteBox.flatMap renderCommand ++
            ⟨commandBarX + textOffsetX, commandBarY + textOffsetY,
              paletteSession.foldl (fun line h => h.edit 1 line) InputManager.init.inputBuffer ++
                (if task.1.cursor.visible then asciiBytes "|" else []), colorWhite⟩ ::
            (renderGlobalHud DashboardView.init.warning false 0).2.flatMap renderCommand) :=
  ⟨rfl, by decide, by decide, by decide,
    palette_shows_typed_line 1 InputManager.init rfl _ (by decide) paletteSession (by decide)
      (by decide) ⟨[], []⟩ DashboardView.init false 0⟩

end WitcherSeamless
