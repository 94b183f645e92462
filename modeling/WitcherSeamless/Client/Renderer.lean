import Mathlib.Data.Rat.Defs
import WitcherSeamless.Wire.Bytes

/-!
# The renderer's command queue

`renderer` keeps one queue of draw commands, `render_commands`, behind a lock. `draw_text` and
`draw_rect`, called from any thread, each append one command in one locked section; the
`draw_rect` that takes a packed `uint32_t` colour first unpacks it into a `color`. Once a frame the
game calls `renderer_stub`: for a non-null frame it runs the renderer pipeline's tasks, moves the
whole queue into a local one in a locked swap, and then, outside the lock, draws the local
commands front first on the debug console. A text is one console line, its colour the four bytes
of its `color` read as a little-endian word; a rectangle is one line of `width` spaces for each of
its first `height` rows, its colour packed as `a << 24 | b << 16 | g << 8 | r`.

What this file shows:

* splitting `renderer_stub` at its locked sections, every interleaving of draws on any thread with
  the render thread's swaps and loop turns prints each drawn command once, in the order drawn,
  and loses none: the commands printed so far followed by those still queued are exactly those
  drawn (`render_queue_prints_each_draw_once`). The whole `renderer_stub` of a non-null frame is
  one such run (`rendererStub_eq_run`); it prints what was queued and what the frame's tasks draw,
  in order, and leaves both queues empty (`Renderer.rendererStub_of_frame`).

Floats are exact rationals; a cast to an integer truncates towards zero. A negative `width` is
undefined behaviour in the cast to `size_t`; the model gives it no spaces.

## Main definitions

* `Color`, `packedColor`, `colorOfPacked`, `textColorWord`.
* `RenderCommand`, `ConsolePrint`, `renderText`, `renderRect`, `renderCommand`.
* `Renderer` with `drawText`, `drawRect`, `drawRectPacked`, `rendererStub`.
* `RenderThread`, `RenderStep`, `RenderThread.step`, `RenderThread.run`: the locked sections.

Source: `src/unnamed/part_010` (`renderer.cpp`) and `src/src/client/module/renderer.hpp`.
-/

namespace WitcherSeamless

/-! ### Colours -/

/-- `renderer::color`: four bytes, `r` first in memory. -/
structure Color where
  r : UInt8
  g : UInt8
  b : UInt8
  a : UInt8
  deriving DecidableEq

/-- The bytes of a `color` in memory. -/
def Color.bytes (c : Color) : List UInt8 := [c.r, c.g, c.b, c.a]

/-- The word `render_text` hands the console: `*reinterpret_cast<const uint32_t*>(&color.r)`,
the four bytes read little-endian. -/
def textColorWord (c : Color) : UInt32 := UInt32.ofNat (leValue c.bytes)

/-- `packed_color` in `render_rect`. -/
def packedColor (c : Color) : UInt32 :=
  (c.a.toUInt32 <<< 24) ||| (c.b.toUInt32 <<< 16) ||| (c.g.toUInt32 <<< 8) ||| c.r.toUInt32

/-- The `color` that `draw_rect(position, size, packed_color)` unpacks. -/
def colorOfPacked (packedColor : UInt32) : Color :=
  ⟨(packedColor &&& 0xFF).toUInt8, ((packedColor >>> 8) &&& 0xFF).toUInt8,
    ((packedColor >>> 16) &&& 0xFF).toUInt8, ((packedColor >>> 24) &&& 0xFF).toUInt8⟩

/-! ### Draw commands and the console -/

/-- `renderer::position` and `renderer::vec2`: two floats each. -/
structure Vec2 where
  x : ℚ
  y : ℚ

/-- A `render_command`: its `text_command` or its `rect_command`, as its `type` says; the other
half keeps its default and is never read. -/
inductive RenderCommand
  /-- `command_type::text`. -/
  | text (text : StdString) (position : Vec2) (color : Color)
  /-- `command_type::rect`. -/
  | rect (position : Vec2) (size : Vec2) (color : Color)

/-- One call of the debug console's print: a position, a text and a colour word. -/
structure ConsolePrint where
  x : ℚ
  y : ℚ
  text : StdString
  color : UInt32

/-- `static_cast` of a float to an integer: truncation towards zero. -/
def truncate (v : ℚ) : ℤ := v.num.tdiv v.den

/-- `render_text(frame, x, y, text, color)`. -/
def renderText (x y : ℚ) (text : StdString) (color : Color) : List ConsolePrint :=
  [⟨x, y, text, textColorWord color⟩]

/-- `render_rect(frame, x, y, width, height, color)`: one line of `width` spaces for each of the
`static_cast<int32_t>(height)` rows. -/
def renderRect (x y width height : ℚ) (color : Color) : List ConsolePrint :=
  let packedColor := packedColor color
  let numLines := truncate height
  (List.range numLines.toNat).map fun i =>
    ⟨x, y + i, List.replicate (truncate width).toNat 32, packedColor⟩

/-- The console lines the loop of `renderer_stub` prints for one command. -/
def renderCommand : RenderCommand → List ConsolePrint
  | .text text position color => renderText position.x position.y text color
  | .rect position size color => renderRect position.x position.y size.x size.y color

/-! ### The queue -/

/-- `render_commands`, front first, and the console lines printed so far, oldest first. -/
structure Renderer where
  renderCommands : List RenderCommand
  console : List ConsolePrint

namespace Renderer

/-- The locked `emplace` of `draw_text` and `draw_rect`. -/
def draw (s : Renderer) (cmd : RenderCommand) : Renderer :=
  { s with renderCommands := s.renderCommands ++ [cmd] }

/-- `draw_text(text, position, color)`. -/
def drawText (s : Renderer) (text : StdString) (position : Vec2) (color : Color) : Renderer :=
  s.draw (.text text position color)

/-- `draw_rect(position, size, color)`. -/
def drawRect (s : Renderer) (position size : Vec2) (color : Color) : Renderer :=
  s.draw (.rect position size color)

/-- `draw_rect(position, size, packed_color)`. -/
def drawRectPacked (s : Renderer) (position size : Vec2) (packedColor : UInt32) : Renderer :=
  s.drawRect position size (colorOfPacked packedColor)

/-- The drawing loop of `renderer_stub`: the local queue, front first, onto the console. -/
def drawQueue (console : List ConsolePrint) : List RenderCommand → List ConsolePrint
  | [] => console
  | cmd :: queue => drawQueue (console ++ renderCommand cmd) queue

/-- `renderer_stub(frame)`, with whether `frame` is not null and the commands the renderer
pipeline's tasks draw in `scheduler::execute(scheduler::renderer)`. -/
def rendererStub (s : Renderer) (frame : Bool) (scheduled : List RenderCommand) : Renderer :=
  if !frame then s
  else
    let s := scheduled.foldl draw s
    let (queue, renderCommands) :=
      if !s.renderCommands.isEmpty then (s.renderCommands, []) else ([], s.renderCommands)
    ⟨renderCommands, drawQueue s.console queue⟩

theorem renderCommands_foldl_draw (s : Renderer) (cmds : List RenderCommand) :
    (cmds.foldl draw s).renderCommands = s.renderCommands ++ cmds ∧
      (cmds.foldl draw s).console = s.console := by
  induction cmds generalizing s with
  | nil => simp
  | cons cmd cmds ih =>
    obtain ⟨h₁, h₂⟩ := ih (s.draw cmd)
    exact ⟨by simpa [draw] using h₁, h₂⟩

theorem drawQueue_eq (console : List ConsolePrint) (queue : List RenderCommand) :
    drawQueue console queue = console ++ queue.flatMap renderCommand := by
  induction queue generalizing console with
  | nil => simp [drawQueue]
  | cons cmd queue ih => simp [drawQueue, ih]

/-- A non-null frame prints every queued command and everything its tasks draw, in order, and
empties the queue. -/
theorem rendererStub_of_frame (s : Renderer) (scheduled : List RenderCommand) :
    s.rendererStub true scheduled =
      ⟨[], s.console ++ (s.renderCommands ++ scheduled).flatMap renderCommand⟩ := by
  obtain ⟨h₁, h₂⟩ := renderCommands_foldl_draw s scheduled
  simp only [rendererStub, Bool.not_true, Bool.false_eq_true, if_false]
  split_ifs with h
  · simp only [h₁, h₂, drawQueue_eq]
  · have he : s.renderCommands ++ scheduled = [] := h₁ ▸ by simpa using h
    simp only [h₁, h₂, drawQueue_eq, he, List.flatMap_nil, List.append_nil]

end Renderer

/-! ### The locked sections -/

/-- The renderer with the render thread's local `queue` of `renderer_stub`, non-empty while that
thread is in its drawing loop. -/
structure RenderThread where
  renderCommands : List RenderCommand
  queue : List RenderCommand
  console : List ConsolePrint

/-- A step of the renderer: a locked section or a turn of the drawing loop. -/
inductive RenderStep
  /-- A `draw_text` or `draw_rect`, on any thread. -/
  | draw (cmd : RenderCommand)
  /-- The locked swap of `renderer_stub` for a non-null frame, after the pipeline's tasks. -/
  | swap
  /-- One turn of the drawing loop. -/
  | drawNext

/-- The command a step draws, if any. -/
def RenderStep.drawn? : RenderStep → Option RenderCommand
  | .draw cmd => some cmd
  | _ => none

namespace RenderThread

/-- One step. The render thread enters `renderer_stub` only once it has drawn the last frame, so
a swap while its local queue is not empty does not happen; the model leaves the state as it is. -/
def step (s : RenderThread) : RenderStep → RenderThread
  | .draw cmd => { s with renderCommands := s.renderCommands ++ [cmd] }
  | .swap => if s.queue.isEmpty && !s.renderCommands.isEmpty then ⟨[], s.renderCommands, s.console⟩
    else s
  | .drawNext =>
    match s.queue with
    | [] => s
    | cmd :: queue => ⟨s.renderCommands, queue, s.console ++ renderCommand cmd⟩

/-- Steps one after the other, in any interleaving of the threads. -/
def run (s : RenderThread) (steps : List RenderStep) : RenderThread :=
  steps.foldl step s

theorem run_append (s : RenderThread) (steps steps' : List RenderStep) :
    s.run (steps ++ steps') = (s.run steps).run steps' :=
  List.foldl_append ..

/-- The commands not yet printed: the local queue, then the shared one. -/
def pending (s : RenderThread) : List RenderCommand := s.queue ++ s.renderCommands

/-- One step prints a front part of what is pending, with what it draws at the back, and keeps
the rest pending. -/
theorem step_prints_front (s : RenderThread) (e : RenderStep) :
    ∃ done, s.pending ++ e.drawn?.toList = done ++ (s.step e).pending ∧
      (s.step e).console = s.console ++ done.flatMap renderCommand := by
  cases e with
  | draw cmd => exact ⟨[], by simp [pending, step, RenderStep.drawn?], by simp [step]⟩
  | swap =>
    unfold step
    split_ifs with h
    · simp only [Bool.and_eq_true, List.isEmpty_iff] at h
      exact ⟨[], by simp [pending, h.1, RenderStep.drawn?], by simp⟩
    · exact ⟨[], by simp [RenderStep.drawn?], by simp⟩
  | drawNext =>
    obtain ⟨rc, q, console⟩ := s
    cases q with
    | nil => exact ⟨[], by simp [step, RenderStep.drawn?], by simp [step]⟩
    | cons cmd q => exact ⟨[cmd], by simp [pending, step, RenderStep.drawn?], by simp [step]⟩

theorem run_draws (s : RenderThread) (cmds : List RenderCommand) :
    s.run (cmds.map .draw) = { s with renderCommands := s.renderCommands ++ cmds } := by
  induction cmds generalizing s with
  | nil => simp [run]
  | cons cmd cmds ih =>
    show run (s.step (.draw cmd)) _ = _
    rw [ih]
    simp [step]

theorem run_drawNext (renderCommands queue : List RenderCommand) (console : List ConsolePrint) :
    (RenderThread.mk renderCommands queue console).run (List.replicate queue.length .drawNext) =
      ⟨renderCommands, [], Renderer.drawQueue console queue⟩ := by
  induction queue generalizing console with
  | nil => rfl
  | cons cmd queue ih => exact ih _

end RenderThread

/-- Over every interleaving of draws on any thread with the render thread's swaps and loop turns,
each command drawn is printed at most once and in the order drawn, and none is lost: the commands
printed during the run, followed by those still pending, are those pending at its start followed
by those drawn during it, and the console gains exactly the lines of the printed ones. -/
theorem render_queue_prints_each_draw_once (s : RenderThread) (steps : List RenderStep) :
    ∃ done, s.pending ++ steps.filterMap RenderStep.drawn? = done ++ (s.run steps).pending ∧
      (s.run steps).console = s.console ++ done.flatMap renderCommand := by
  induction steps generalizing s with
  | nil => exact ⟨[], by simp [RenderThread.run], by simp [RenderThread.run]⟩
  | cons e es ih =>
    obtain ⟨d₁, hp₁, hc₁⟩ := s.step_prints_front e
    obtain ⟨d₂, hp₂, hc₂⟩ := ih (s.step e)
    refine ⟨d₁ ++ d₂, ?_, ?_⟩
    · have hsplit : (e :: es).filterMap RenderStep.drawn? =
          e.drawn?.toList ++ es.filterMap RenderStep.drawn? := by
        cases e <;> rfl
      rw [hsplit, ← List.append_assoc, hp₁, List.append_assoc, hp₂, List.append_assoc]
      rfl
    · show (RenderThread.run (s.step e) es).console = _
      rw [hc₂, hc₁, List.flatMap_append, List.append_assoc]

namespace Renderer

/-- The renderer with its render thread between frames. -/
def toThread (s : Renderer) : RenderThread := ⟨s.renderCommands, [], s.console⟩

/-- `renderer_stub` of a non-null frame is a run of locked sections: the draws of the pipeline's
tasks, the swap, and one loop turn per command taken, which leaves the render thread between
frames. -/
theorem rendererStub_eq_run (s : Renderer) (scheduled : List RenderCommand) :
    s.toThread.run (scheduled.map .draw ++
        .swap :: List.replicate (s.renderCommands ++ scheduled).length .drawNext) =
      (s.rendererStub true scheduled).toThread := by
  rw [RenderThread.run_append, RenderThread.run_draws, rendererStub_of_frame]
  simp only [toThread, RenderThread.run, List.foldl_cons]
  by_cases h : s.renderCommands ++ scheduled = []
  · rw [h]
    simp [RenderThread.step]
  · have hs : RenderThread.step ⟨s.renderCommands ++ scheduled, [], s.console⟩ .swap =
        ⟨[], s.renderCommands ++ scheduled, s.console⟩ := by
      simp [RenderThread.step, h]
    rw [hs, ← RenderThread.run, RenderThread.run_drawNext, drawQueue_eq]

end Renderer

end WitcherSeamless
