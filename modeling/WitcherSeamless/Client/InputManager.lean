import WitcherSeamless.Wire.Bytes

/-!
# The command palette's keyboard hook

`input_manager` keeps two globals, `g_ui_active` and `g_input_buffer`, and installs
`message_hook_proc` as a `WH_GETMESSAGE` hook on the game window's thread. For a key-down to the
game window, Alt+S toggles the palette; while the palette is open, Escape closes it, Enter logs the
buffer as the submitted command and closes it, and Backspace erases the last character. A
`WM_CHAR` to the game window while the palette is open appends the character when
`static_cast<char>(wParam)` is in `32..126`. Each of these returns `1`; every other call is handed
to `CallNextHookEx`. Closing the palette (`set_ui_active(false)`) empties the buffer; opening it
keeps what a script may have put there with `W3mSetInputBuffer`.

What this file shows:

* while the palette is closed, the hook changes nothing and hands every message on, up to the first
  Alt+S key-down to the game window (`closed_palette_passes_messages`);
* a palette session, Alt+S, any hook calls that neither toggle nor close it, and Enter, submits the
  line a line editor builds from the buffer it was opened with, the printable ASCII characters
  typed and the backspaces, and leaves the palette closed and empty
  (`palette_submits_typed_line`). This holds when every character typed is below `256`: the cast to
  `char` keeps the low byte of the UTF-16 unit, so a character above it whose low byte is printable
  is typed as that ASCII character (`Ł`, `U+0141`, is typed as `A`).

The hook and the scripts run on different threads; the mutex makes each buffer operation atomic,
and the model takes each call of the hook as one step. The Enter handler only logs the command:
no command callback is defined or called in the sources.

## Main definitions

* `InputManager` with `appendChar`, `backspace`, `clearInputBuffer`, `setInputBuffer`,
  `setUiActive`, `toggleUi`.
* `HookCall`, `HookResult`, `HookStep`, `InputManager.messageHookProc`, `InputManager.runHooks`.
* `HookCall.edit`: the line editor the palette is meant to be.

Source: `src/unnamed/part_008`, `input_manager`.
-/

namespace WitcherSeamless

/-! ### The state and its operations -/

/-- `g_ui_active` and `g_input_buffer`. -/
structure InputManager where
  uiActive : Bool
  inputBuffer : StdString
  deriving DecidableEq

namespace InputManager

/-- The state at load time. -/
def init : InputManager := ⟨false, []⟩

/-- `append_char(c)`. -/
def appendChar (s : InputManager) (c : UInt8) : InputManager :=
  { s with inputBuffer := s.inputBuffer ++ [c] }

/-- `backspace()`: `pop_back` unless the buffer is empty. -/
def backspace (s : InputManager) : InputManager := { s with inputBuffer := s.inputBuffer.dropLast }

/-- `clear_input_buffer()`, and `W3mClearInputBuffer`. -/
def clearInputBuffer (s : InputManager) : InputManager := { s with inputBuffer := [] }

/-- `set_input_buffer(text)`, and `W3mSetInputBuffer`. -/
def setInputBuffer (s : InputManager) (text : StdString) : InputManager :=
  { s with inputBuffer := text }

/-- `set_ui_active(active)`, and `W3mSetUIActive`: closing empties the buffer. -/
def setUiActive (s : InputManager) (active : Bool) : InputManager :=
  if active then { s with uiActive := true } else { s with uiActive := false }.clearInputBuffer

/-- `toggle_ui()`, and `W3mToggleUI`. -/
def toggleUi (s : InputManager) : InputManager := s.setUiActive !s.uiActive

end InputManager

/-! ### The hook -/

/-- `WM_KEYDOWN`. -/
def wmKeydown : UInt32 := 0x0100

/-- `WM_CHAR`. -/
def wmChar : UInt32 := 0x0102

/-- `WM_SYSKEYDOWN`. -/
def wmSyskeydown : UInt32 := 0x0104

/-- `VK_BACK`. -/
def vkBack : UInt64 := 0x08

/-- `VK_RETURN`. -/
def vkReturn : UInt64 := 0x0D

/-- `VK_ESCAPE`. -/
def vkEscape : UInt64 := 0x1B

/-- The fields of a `MSG` the hook reads. -/
structure Msg where
  hwnd : UInt64
  message : UInt32
  wParam : UInt64
  deriving DecidableEq

/-- A call of `message_hook_proc(code, wParam, lParam)`: the code, the `MSG` that `lParam` points
to (none for a null pointer), and whether `GetKeyState(VK_MENU)` reports Alt down. -/
structure HookCall where
  code : ℤ
  msg : Option Msg
  altPressed : Bool
  deriving DecidableEq

/-- What the hook returns. -/
inductive HookResult
  /-- `return 1`. -/
  | handled
  /-- `return CallNextHookEx(g_message_hook, code, wParam, lParam)`. -/
  | passed
  deriving DecidableEq

/-- One call of the hook: the state after it, what it returns, and the command it logs as
submitted. -/
structure HookStep where
  state : InputManager
  result : HookResult
  submitted : Option StdString
  deriving DecidableEq

section Hook

variable (gameWindow : UInt64)

/-- The message of a call, when the hook looks at it: `code >= 0` and a message to the game
window. -/
def HookCall.gameMsg? (h : HookCall) : Option Msg :=
  if 0 ≤ h.code then h.msg.filter (·.hwnd = gameWindow) else none

/-- The virtual key of a key-down the hook looks at. -/
def HookCall.keyDown? (h : HookCall) : Option UInt64 :=
  (h.gameMsg? gameWindow).bind fun m =>
    if m.message = wmKeydown ∨ m.message = wmSyskeydown then some m.wParam else none

/-- The character of a `WM_CHAR` the hook looks at. -/
def HookCall.char? (h : HookCall) : Option UInt64 :=
  (h.gameMsg? gameWindow).bind fun m =>
    if m.message = wmKeydown ∨ m.message = wmSyskeydown then none
    else if m.message = wmChar then some m.wParam else none

/-- An Alt+S key-down the hook looks at. -/
def HookCall.isToggle (h : HookCall) : Bool :=
  h.keyDown? gameWindow = some 0x53 && h.altPressed

/-- `static_cast<char>(wParam)` is in `32..126`: `char` is signed, so the low byte is in
`32..126`. -/
def isPrintableChar (wParam : UInt64) : Bool :=
  32 ≤ wParam.toUInt8.toNat && wParam.toUInt8.toNat < 127

namespace InputManager

/-- `message_hook_proc(code, wParam, lParam)`. -/
def messageHookProc (s : InputManager) (h : HookCall) : HookStep :=
  let pass : HookStep := ⟨s, .passed, none⟩
  match h.gameMsg? gameWindow with
  | none => pass
  | some m =>
    if m.message = wmKeydown ∨ m.message = wmSyskeydown then
      if h.altPressed ∧ m.wParam = 0x53 then ⟨s.toggleUi, .handled, none⟩
      else if s.uiActive then
        if m.wParam = vkEscape then ⟨s.setUiActive false, .handled, none⟩
        else if m.wParam = vkReturn then
          ⟨(s.clearInputBuffer).setUiActive false, .handled, some s.inputBuffer⟩
        else if m.wParam = vkBack then ⟨s.backspace, .handled, none⟩
        else pass
      else pass
    else if m.message = wmChar ∧ s.uiActive then
      ⟨if isPrintableChar m.wParam then s.appendChar m.wParam.toUInt8 else s, .handled, none⟩
    else pass

/-- Hook calls one after the other: the state after them, and each call's result and submitted
command, in order. -/
def runHooks (s : InputManager) : List HookCall → InputManager × List (HookResult × Option StdString)
  | [] => (s, [])
  | h :: hs =>
    let r := s.messageHookProc gameWindow h
    let rest := runHooks r.state hs
    (rest.1, (r.result, r.submitted) :: rest.2)

/-- The commands a run of hook calls submits, oldest first. -/
def submittedBy (s : InputManager) (hs : List HookCall) : List StdString :=
  (s.runHooks gameWindow hs).2.filterMap Prod.snd

end InputManager

/-- Each call the hook sees is a key-down, a character, or neither. -/
theorem HookCall.keyDown?_or_char? (h : HookCall) :
    (∃ k, h.keyDown? gameWindow = some k) ∨ (∃ w, h.char? gameWindow = some w) ∨
      (h.keyDown? gameWindow = none ∧ h.char? gameWindow = none) := by
  cases hk : h.keyDown? gameWindow with
  | some k => exact .inl ⟨k, rfl⟩
  | none =>
    cases hc : h.char? gameWindow with
    | some w => exact .inr (.inl ⟨w, rfl⟩)
    | none => exact .inr (.inr ⟨rfl, rfl⟩)

theorem HookCall.keyDown?_of_char? {h : HookCall} {w : UInt64} (hc : h.char? gameWindow = some w) :
    h.keyDown? gameWindow = none := by
  cases hm : h.gameMsg? gameWindow with
  | none => simp [HookCall.char?, hm] at hc
  | some m =>
    simp only [HookCall.char?, hm, Option.some_bind] at hc
    split_ifs at hc with hkd
    simp [HookCall.keyDown?, hm, hkd]

namespace InputManager

variable (s : InputManager) {h : HookCall}

/-- The hook on a key-down. -/
theorem messageHookProc_of_keyDown {k : UInt64} (hk : h.keyDown? gameWindow = some k) :
    s.messageHookProc gameWindow h =
      if h.altPressed ∧ k = 0x53 then ⟨s.toggleUi, .handled, none⟩
      else if s.uiActive then
        if k = vkEscape then ⟨s.setUiActive false, .handled, none⟩
        else if k = vkReturn then
          ⟨(s.clearInputBuffer).setUiActive false, .handled, some s.inputBuffer⟩
        else if k = vkBack then ⟨s.backspace, .handled, none⟩
        else ⟨s, .passed, none⟩
      else ⟨s, .passed, none⟩ := by
  cases hm : h.gameMsg? gameWindow with
  | none => simp [HookCall.keyDown?, hm] at hk
  | some m =>
    simp only [HookCall.keyDown?, hm, Option.some_bind] at hk
    split_ifs at hk with hkd
    cases hk
    simp only [messageHookProc, hm, if_pos hkd]

/-- The hook on a character. -/
theorem messageHookProc_of_char {w : UInt64} (hc : h.char? gameWindow = some w) :
    s.messageHookProc gameWindow h =
      if s.uiActive then ⟨if isPrintableChar w then s.appendChar w.toUInt8 else s, .handled, none⟩
      else ⟨s, .passed, none⟩ := by
  cases hm : h.gameMsg? gameWindow with
  | none => simp [HookCall.char?, hm] at hc
  | some m =>
    simp only [HookCall.char?, hm, Option.some_bind] at hc
    split_ifs at hc with hkd hch
    cases hc
    simp only [messageHookProc, hm]
    rw [if_neg hkd]
    simp only [hch, true_and]

/-- The hook on anything else: handed on. -/
theorem messageHookProc_of_quiet (hk : h.keyDown? gameWindow = none)
    (hc : h.char? gameWindow = none) :
    s.messageHookProc gameWindow h = ⟨s, .passed, none⟩ := by
  cases hm : h.gameMsg? gameWindow with
  | none => simp [messageHookProc, hm]
  | some m =>
    by_cases hkd : m.message = wmKeydown ∨ m.message = wmSyskeydown
    · simp [HookCall.keyDown?, hm, hkd] at hk
    · by_cases hch : m.message = wmChar
      · rw [HookCall.char?, hm, Option.some_bind, if_neg hkd, if_pos hch] at hc
        cases hc
      · simp [messageHookProc, hm, hkd, hch]

/-- A closed palette hands on every call but an Alt+S key-down, and stays as it is. -/
theorem messageHookProc_of_closed (hs : s.uiActive = false) (ht : h.isToggle gameWindow = false) :
    s.messageHookProc gameWindow h = ⟨s, .passed, none⟩ := by
  rcases h.keyDown?_or_char? gameWindow with ⟨k, hk⟩ | ⟨w, hc⟩ | ⟨hk, hc⟩
  · have ha : ¬(h.altPressed = true ∧ k = 0x53) := fun ⟨ha, hS⟩ => by
      simp [HookCall.isToggle, hk, hS, ha] at ht
    simp [messageHookProc_of_keyDown gameWindow s hk, ha, hs]
  · simp [messageHookProc_of_char gameWindow s hc, hs]
  · exact messageHookProc_of_quiet gameWindow s hk hc

end InputManager

/-- While the palette is closed, the hook changes nothing and hands every message on, up to the
first Alt+S key-down to the game window. -/
theorem closed_palette_passes_messages (s : InputManager) (hs : s.uiActive = false)
    (hooks : List HookCall) (ht : ∀ h ∈ hooks, h.isToggle gameWindow = false) :
    s.runHooks gameWindow hooks = (s, hooks.map fun _ => (.passed, none)) := by
  induction hooks with
  | nil => rfl
  | cons h hs' ih =>
    rw [InputManager.runHooks, InputManager.messageHookProc_of_closed gameWindow s hs
      (ht h (List.mem_cons_self _ _)), ih fun h' hh' => ht h' (List.mem_cons_of_mem _ hh')]
    rfl

/-- With the palette closed, a `W` key-down and a `w` character to the game window `1` reach the
game. -/
theorem closed_palette_passes_w :
    InputManager.init.uiActive = false ∧
      (∀ h ∈ [(⟨0, some ⟨1, wmKeydown, 0x57⟩, false⟩ : HookCall), ⟨0, some ⟨1, wmChar, 0x77⟩, false⟩],
        h.isToggle 1 = false) ∧
      InputManager.init.runHooks 1 [⟨0, some ⟨1, wmKeydown, 0x57⟩, false⟩,
          ⟨0, some ⟨1, wmChar, 0x77⟩, false⟩] =
        (InputManager.init, [(.passed, none), (.passed, none)]) :=
  ⟨rfl, by decide, closed_palette_passes_messages 1 InputManager.init rfl _ (by decide)⟩

/-! ### A palette session -/

/-- The line after a call, for the palette as it is meant to be: a printable ASCII character
typed is appended, a backspace erases the last character, nothing else changes the line. -/
def HookCall.edit (h : HookCall) (line : StdString) : StdString :=
  match h.keyDown? gameWindow, h.char? gameWindow with
  | some k, _ => if k = vkBack then line.dropLast else line
  | none, some w =>
    if 32 ≤ w.toNat ∧ w.toNat < 127 then line ++ [UInt8.ofNat w.toNat] else line
  | none, none => line

/-- A call that toggles or closes the palette: Alt+S, Escape or Enter, as a key-down. -/
def HookCall.closesPalette (h : HookCall) : Bool :=
  h.isToggle gameWindow || h.keyDown? gameWindow = some vkEscape ||
    h.keyDown? gameWindow = some vkReturn

theorem toUInt8_of_lt {w : UInt64} (hw : w.toNat < 256) : w.toUInt8.toNat = w.toNat := by
  show w.toNat % 256 = w.toNat
  exact Nat.mod_eq_of_lt hw

/-- On an open palette, a call that neither toggles nor closes it, with a character below `256`
if it is one, edits the line as the line editor does. -/
theorem InputManager.messageHookProc_of_open {s : InputManager} (hs : s.uiActive = true)
    {h : HookCall} (hc : h.closesPalette gameWindow = false)
    (hw : ∀ w ∈ h.char? gameWindow, w.toNat < 256) :
    (s.messageHookProc gameWindow h).state = ⟨true, h.edit gameWindow s.inputBuffer⟩ ∧
      (s.messageHookProc gameWindow h).submitted = none := by
  obtain ⟨active, line⟩ := s
  subst hs
  rcases h.keyDown?_or_char? gameWindow with ⟨k, hk⟩ | ⟨w, hw'⟩ | ⟨hk, hw'⟩
  · simp only [HookCall.closesPalette, HookCall.isToggle, hk, Option.some.injEq,
      Bool.or_eq_false_iff, Bool.and_eq_false_iff, decide_eq_false_iff_not] at hc
    obtain ⟨⟨hS, hesc⟩, hret⟩ := hc
    have ha : ¬(h.altPressed = true ∧ k = 0x53) := fun ⟨ha, hk⟩ => by
      rcases hS with h₁ | h₁ <;> simp_all
    rw [messageHookProc_of_keyDown gameWindow _ hk, if_neg ha, if_pos rfl, if_neg hesc,
      if_neg hret]
    by_cases hb : k = vkBack <;> simp [HookCall.edit, hk, hb, backspace]
  · have hp : isPrintableChar w = decide (32 ≤ w.toNat ∧ w.toNat < 127) := by
      simp [isPrintableChar, toUInt8_of_lt (hw w hw')]
    rw [messageHookProc_of_char gameWindow _ hw', if_pos rfl]
    simp only [HookCall.edit, HookCall.keyDown?_of_char? gameWindow hw', hw', hp, decide_eq_true_eq]
    split_ifs <;> exact ⟨rfl, trivial⟩
  · rw [messageHookProc_of_quiet gameWindow _ hk hw']
    simp [HookCall.edit, hk, hw']

namespace InputManager

theorem runHooks_append (s : InputManager) (hs hs' : List HookCall) :
    s.runHooks gameWindow (hs ++ hs') =
      ((runHooks gameWindow (s.runHooks gameWindow hs).1 hs').1,
        (s.runHooks gameWindow hs).2 ++
          (runHooks gameWindow (s.runHooks gameWindow hs).1 hs').2) := by
  induction hs generalizing s with
  | nil => rfl
  | cons h hs ih =>
    show runHooks gameWindow s (h :: (hs ++ hs')) = _
    simp only [runHooks, ih, List.cons_append]

theorem submittedBy_append (s : InputManager) (hs hs' : List HookCall) :
    s.submittedBy gameWindow (hs ++ hs') =
      s.submittedBy gameWindow hs ++ (s.runHooks gameWindow hs).1.submittedBy gameWindow hs' := by
  simp only [submittedBy, runHooks_append, List.filterMap_append]

/-- An open palette stays open through calls that neither toggle nor close it, with characters
below `256`; its line is the line editor's, and nothing is submitted. -/
theorem runHooks_of_open (line : StdString) (typed : List HookCall)
    (hc : ∀ h ∈ typed, h.closesPalette gameWindow = false)
    (hw : ∀ h ∈ typed, ∀ w ∈ h.char? gameWindow, w.toNat < 256) :
    (runHooks gameWindow ⟨true, line⟩ typed).1 =
        ⟨true, typed.foldl (fun line h => h.edit gameWindow line) line⟩ ∧
      submittedBy gameWindow ⟨true, line⟩ typed = [] := by
  induction typed generalizing line with
  | nil => exact ⟨rfl, rfl⟩
  | cons h hs ih =>
    obtain ⟨hst, hsub⟩ := messageHookProc_of_open gameWindow (s := ⟨true, line⟩) rfl
      (hc h (List.mem_cons_self _ _)) (hw h (List.mem_cons_self _ _))
    obtain ⟨ih₁, ih₂⟩ := ih (h.edit gameWindow line)
      (fun h' hh => hc h' (List.mem_cons_of_mem _ hh))
      (fun h' hh => hw h' (List.mem_cons_of_mem _ hh))
    simp only [submittedBy] at ih₂ ⊢
    simp only [runHooks, hst, hsub, ih₁, List.foldl_cons, List.filterMap_cons, ih₂, and_self]

end InputManager

/-- A palette session: Alt+S on a closed palette, calls that neither toggle nor close it, each
character below `256`, and Enter. The line submitted is what the line editor builds from the
buffer the palette was opened with, and the palette ends closed and empty. -/
theorem palette_submits_typed_line (s : InputManager) (hs : s.uiActive = false)
    (hOpen : HookCall) (ho : hOpen.isToggle gameWindow = true) (typed : List HookCall)
    (hc : ∀ h ∈ typed, h.closesPalette gameWindow = false)
    (hw : ∀ h ∈ typed, ∀ w ∈ h.char? gameWindow, w.toNat < 256)
    (hEnter : HookCall) (he : hEnter.keyDown? gameWindow = some vkReturn) :
    (s.runHooks gameWindow (hOpen :: typed ++ [hEnter])).1 = InputManager.init ∧
      s.submittedBy gameWindow (hOpen :: typed ++ [hEnter]) =
        [typed.foldl (fun line h => h.edit gameWindow line) s.inputBuffer] := by
  simp only [HookCall.isToggle, Bool.and_eq_true, decide_eq_true_eq] at ho
  obtain ⟨hk, ha⟩ := ho
  have hopen :
      s.messageHookProc gameWindow hOpen = ⟨⟨true, s.inputBuffer⟩, .handled, none⟩ := by
    rw [InputManager.messageHookProc_of_keyDown gameWindow s hk, if_pos ⟨ha, rfl⟩]
    simp [InputManager.toggleUi, InputManager.setUiActive, hs]
  obtain ⟨hst, hsub⟩ := InputManager.runHooks_of_open gameWindow s.inputBuffer typed hc hw
  have henter : (InputManager.mk true
      (typed.foldl (fun line h => h.edit gameWindow line) s.inputBuffer)).messageHookProc
      gameWindow hEnter = ⟨InputManager.init, .handled,
        some (typed.foldl (fun line h => h.edit gameWindow line) s.inputBuffer)⟩ := by
    rw [InputManager.messageHookProc_of_keyDown gameWindow _ he,
      if_neg fun h => absurd h.2 (by decide), if_pos rfl, if_neg (by decide), if_pos rfl]
    rfl
  simp only [InputManager.submittedBy] at hsub ⊢
  simp [InputManager.runHooks_append, InputManager.runHooks, hopen, hst, henter, hsub]

/-- Typing `U+0141` (`Ł`) in the palette submits `A`: the cast to `char` keeps the low byte. -/
example : InputManager.init.submittedBy 1 [⟨0, some ⟨1, wmSyskeydown, 0x53⟩, true⟩,
    ⟨0, some ⟨1, wmChar, 0x141⟩, false⟩, ⟨0, some ⟨1, wmKeydown, vkReturn⟩, false⟩] = [[65]] := by
  decide

end Hook

/-- The keys of a session on the window `1` between Alt+S and Enter: `h`, `i`, Backspace, `o`. -/
def paletteSession : List HookCall :=
  [⟨0, some ⟨1, wmChar, 0x68⟩, false⟩, ⟨0, some ⟨1, wmChar, 0x69⟩, false⟩,
    ⟨0, some ⟨1, wmKeydown, vkBack⟩, false⟩, ⟨0, some ⟨1, wmChar, 0x6F⟩, false⟩]

theorem palette_session_submits_ho :
    InputManager.init.uiActive = false ∧
      HookCall.isToggle 1 ⟨0, some ⟨1, wmSyskeydown, 0x53⟩, true⟩ = true ∧
      (∀ h ∈ paletteSession, h.closesPalette 1 = false) ∧
      (∀ h ∈ paletteSession, ∀ w ∈ h.char? 1, w.toNat < 256) ∧
      HookCall.keyDown? 1 ⟨0, some ⟨1, wmKeydown, vkReturn⟩, false⟩ = some vkReturn ∧
      ((InputManager.init.runHooks 1 (⟨0, some ⟨1, wmSyskeydown, 0x53⟩, true⟩ :: paletteSession ++
          [⟨0, some ⟨1, wmKeydown, vkReturn⟩, false⟩])).1 = InputManager.init ∧
        InputManager.init.submittedBy 1 (⟨0, some ⟨1, wmSyskeydown, 0x53⟩, true⟩ :: paletteSession ++
          [⟨0, some ⟨1, wmKeydown, vkReturn⟩, false⟩]) =
          [paletteSession.foldl (fun line h => h.edit 1 line) InputManager.init.inputBuffer]) :=
  ⟨rfl, by decide, by decide, by decide, by decide,
    palette_submits_typed_line 1 InputManager.init rfl _ (by decide) paletteSession (by decide)
      (by decide) _ (by decide)⟩

end WitcherSeamless
