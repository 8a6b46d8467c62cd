import Bringup.Display.Buffering
import Bringup.Proofs.Action
import Bringup.Proofs.Display.Drawing
import Bringup.Proofs.Trace
/-!
# Drawing on one frame while the other is shown

A display is used by drawing on its back frame and by swapping, in any order. On a display
controller that always comes to its vertical blank, every use ends, and all that the controller sees
are the frames that swapping publishes and the polls for the vertical blank before them
(`Display.Turn`). Main statement: the frame that was published last is never the one that is drawn
on (`Display.session_alternates`).
-/

namespace Bringup

open Bringup.Action

variable {σ ε : Type}

/-- What a display controller sees. -/
inductive ScanoutEvent where
  | polled (blank : Bool)
  | published (frame : Frame)

namespace Board

variable {poll : EStateM ε σ Bool} {state next : σ}

/-- Waiting ends with the answer yes. -/
theorem await_yes (answer : poll state = .ok true next) (patience : Nat) :
    await poll (patience + 1) state = .ok () next :=
  bind_ok (adapt_ok answer _) _

/-- It goes on with the answer no. -/
theorem await_no (answer : poll state = .ok false next) (patience : Nat) :
    await poll (patience + 1) state = await poll patience next :=
  bind_ok (adapt_ok answer _) _

end Board

namespace Scanout

/-- A display controller that keeps a record of what it sees. -/
def recording (scanout : Scanout σ ε) : Scanout (σ × List ScanoutEvent) ε where
  inVerticalBlank := do
    let blank ← Part.first.run scanout.inVerticalBlank
    Part.second.update (· ++ [.polled blank])
    pure blank
  publish frame := do
    Part.first.run (scanout.publish frame)
    Part.second.update (· ++ [.published frame])

/-- After some polls that say no, the controller says that it is in its vertical blank. -/
inductive Blanks (scanout : Scanout σ ε) : σ → Prop where
  | now {state next : σ} : scanout.inVerticalBlank state = .ok true next → Blanks scanout state
  | later {state next : σ} : scanout.inVerticalBlank state = .ok false next →
    Blanks scanout next → Blanks scanout state

/-- The controller always comes to its vertical blank, and takes every frame. -/
structure Responds (scanout : Scanout σ ε) : Prop where
  blanks : ∀ state, scanout.Blanks state
  publishes : ∀ frame state, ∃ next, scanout.publish frame state = .ok () next

variable {scanout : Scanout σ ε} {state next : σ}

/-- A poll is recorded with its answer. -/
theorem recording_poll {blank : Bool} (step : scanout.inVerticalBlank state = .ok blank next)
    (past : List ScanoutEvent) :
    scanout.recording.inVerticalBlank (state, past) =
      .ok blank (next, past ++ [.polled blank]) := by
  have whole : (Part.first : Part (σ × List ScanoutEvent) σ).run scanout.inVerticalBlank
      (state, past) = .ok blank (next, past) := Part.run_ok step
  exact bind_ok whole _

/-- A frame that is published is recorded. -/
theorem recording_publish {frame : Frame} (step : scanout.publish frame state = .ok () next)
    (past : List ScanoutEvent) :
    scanout.recording.publish frame (state, past) = .ok () (next, past ++ [.published frame]) := by
  have whole : (Part.first : Part (σ × List ScanoutEvent) σ).run (scanout.publish frame)
      (state, past) = .ok () (next, past) := Part.run_ok step
  exact bind_ok whole _

/-- Waiting for the vertical blank ends, given the patience for it: all polls but the last say
no. -/
theorem Blanks.await (blanks : scanout.Blanks state) :
    ∃ waits last, ∀ patience, waits < patience →
      Board.await scanout.inVerticalBlank patience state = .ok () last ∧
      ∀ past, Board.await scanout.recording.inVerticalBlank patience (state, past) =
        .ok () (last, past ++ (List.replicate waits (.polled false) ++ [.polled true])) := by
  induction blanks with
  | @now state next poll =>
    refine ⟨0, next, ?_⟩
    intro patience enough
    obtain ⟨patience, rfl⟩ := Nat.exists_eq_add_one_of_ne_zero (Nat.ne_zero_of_lt enough)
    exact ⟨Board.await_yes poll patience,
      fun past => Board.await_yes (recording_poll poll past) patience⟩
  | @later state next poll _ ih =>
    obtain ⟨waits, last, others⟩ := ih
    refine ⟨waits + 1, last, ?_⟩
    intro patience enough
    obtain ⟨patience, rfl⟩ := Nat.exists_eq_add_one_of_ne_zero (Nat.ne_zero_of_lt enough)
    obtain ⟨ended, record⟩ := others patience (Nat.lt_of_succ_lt_succ enough)
    constructor
    · rw [Board.await_no poll]
      exact ended
    · intro past
      have rest := record (past ++ [.polled false])
      rw [List.append_assoc] at rest
      rw [Board.await_no (recording_poll poll past)]
      exact rest

end Scanout

/-- A use of a display. -/
inductive DisplayCall where
  | draw (stroke : Stroke)
  | swap (vsync : Bool)
  deriving DecidableEq

namespace Display

/-- Uses a display once. -/
def perform (scanout : Scanout σ ε) (patience : Nat) (display : Display) :
    DisplayCall → EStateM (Halt ε) σ Display
  | .draw stroke => pure (display.draw stroke.apply)
  | .swap vsync => display.swap scanout patience vsync

/-- Uses a display several times. -/
def performAll (scanout : Scanout σ ε) (patience : Nat) (display : Display) :
    List DisplayCall → EStateM (Halt ε) σ Display
  | [] => pure display
  | call :: calls => do
    let display ← display.perform scanout patience call
    performAll scanout patience display calls

/-- Takes two frames as a display and uses it. -/
def session (scanout : Scanout σ ε) (patience : Nat) (first second : Frame)
    (calls : List DisplayCall) : EStateM (Halt ε) σ Display := do
  let display ← start scanout first second
  display.performAll scanout patience calls

/-- What one use does to a display, and what the controller sees of it. -/
inductive Turn : Display → DisplayCall × List ScanoutEvent → Display → Prop where
  /-- Drawing changes the back frame as far as the screen reaches, and the controller sees nothing
  of it. -/
  | drawn {before after : Display} {stroke : Stroke} :
    after.front = before.front → after.back.address = before.back.address →
    after.back.surface = stroke.apply before.back.surface →
    (∀ index, screenPixels ≤ index →
      after.back.surface.pixels[index]? = before.back.surface.pixels[index]?) →
    Turn before (.draw stroke, []) after
  /-- A swap publishes the back frame as it was drawn, without a poll. -/
  | swapped {before after : Display} : after.front = before.back → after.back = before.front →
    Turn before (.swap false, [.published before.back]) after
  /-- With `vsync` it is published directly after the poll that says yes. -/
  | synced {before after : Display} (waits : Nat) : after.front = before.back →
    after.back = before.front →
    Turn before (.swap true,
      List.replicate waits (.polled false) ++ [.polled true, .published before.back]) after

/-- The address that the controller shows: that of the last frame that was published. -/
def shown? (events : List ScanoutEvent) : Option UInt32 :=
  (events.filterMap fun
    | .published frame => some frame.address
    | .polled _ => none).getLast?

/-- Drawing is a turn. -/
theorem turn_draw (display : Display) (stroke : Stroke) :
    Turn display (.draw stroke, []) (display.draw stroke.apply) :=
  .drawn rfl rfl rfl fun _ past => stroke.apply_past _ past

variable {scanout : Scanout σ ε}

/-- Swapping ends, given the patience for it, and is a turn. -/
theorem turn_swap (responds : scanout.Responds) (display : Display) (vsync : Bool) (state : σ) :
    ∃ enough next events, Turn display (.swap vsync, events) display.exchanged ∧
      ∀ patience, enough ≤ patience →
        display.swap scanout patience vsync state = .ok display.exchanged next ∧
        ∀ past, display.swap scanout.recording patience vsync (state, past) =
          .ok display.exchanged (next, past ++ events) := by
  cases vsync with
  | false =>
    obtain ⟨next, published⟩ := responds.publishes display.back state
    refine ⟨0, next, [.published display.back], .swapped rfl rfl, ?_⟩
    intro patience _
    constructor
    · exact (bind_ok (adapt_ok published _) _).trans rfl
    · intro past
      have recorded := Scanout.recording_publish published past
      exact (bind_ok (adapt_ok recorded _) _).trans rfl
  | true =>
    obtain ⟨waits, middle, waited⟩ := (responds.blanks state).await
    obtain ⟨next, published⟩ := responds.publishes display.back middle
    refine ⟨waits + 1, next, _, .synced waits rfl rfl, ?_⟩
    intro patience enough
    obtain ⟨ended, record⟩ := waited patience enough
    constructor
    · exact (bind_ok ended _).trans ((bind_ok (adapt_ok published _) _).trans rfl)
    · intro past
      have recorded := Scanout.recording_publish published
        (past ++ (List.replicate waits (.polled false) ++ [.polled true]))
      rw [List.append_assoc, List.append_assoc] at recorded
      exact (bind_ok (record past) _).trans ((bind_ok (adapt_ok recorded _) _).trans rfl)

/-- Any use ends, given the patience for it, and is a turn. -/
theorem turn_perform (responds : scanout.Responds) (display : Display) (call : DisplayCall)
    (state : σ) :
    ∃ enough after next events, Turn display (call, events) after ∧
      ∀ patience, enough ≤ patience →
        display.perform scanout patience call state = .ok after next ∧
        ∀ past, display.perform scanout.recording patience call (state, past) =
          .ok after (next, past ++ events) := by
  cases call with
  | draw stroke =>
    refine ⟨0, _, state, [], display.turn_draw stroke, ?_⟩
    intro patience _
    refine ⟨rfl, ?_⟩
    intro past
    rw [List.append_nil]
    rfl
  | swap vsync =>
    obtain ⟨enough, next, events, turn, swaps⟩ := display.turn_swap responds vsync state
    exact ⟨enough, display.exchanged, next, events, turn, swaps⟩

/-- All uses end, given the patience for them, and are turns one after the other. -/
theorem turns_performAll (responds : scanout.Responds) (display : Display)
    (calls : List DisplayCall) (state : σ) :
    ∃ enough after next turns, turns.map Prod.fst = calls ∧ Trace Turn display turns after ∧
      ∀ patience, enough ≤ patience →
        display.performAll scanout patience calls state = .ok after next ∧
        ∀ past, display.performAll scanout.recording patience calls (state, past) =
          .ok after (next, past ++ turns.flatMap Prod.snd) := by
  induction calls generalizing display state with
  | nil =>
    refine ⟨0, display, state, [], rfl, .done display, ?_⟩
    intro patience _
    refine ⟨rfl, ?_⟩
    intro past
    rw [List.flatMap_nil, List.append_nil]
    rfl
  | cons call calls ih =>
    obtain ⟨first, middle, between, events, turn, performs⟩ :=
      display.turn_perform responds call state
    obtain ⟨others, after, next, turns, same, trace, performsAll⟩ := ih middle between
    refine ⟨max first others, after, next, (call, events) :: turns, ?_, .next turn trace, ?_⟩
    · rw [List.map_cons, same]
    · intro patience enough
      obtain ⟨ran, record⟩ := performs patience (by omega)
      obtain ⟨ranAll, recordAll⟩ := performsAll patience (by omega)
      constructor
      · exact (bind_ok ran _).trans ranAll
      · intro past
        have rest := recordAll (past ++ events)
        rw [List.append_assoc] at rest
        exact (bind_ok (record past) _).trans rest

/-- A frame that is published is shown from then on, whatever came before. -/
theorem shown?_published (events : List ScanoutEvent) (frame : Frame) :
    shown? (events ++ [.published frame]) = some frame.address := by
  simp [shown?]

/-- After a turn the frame that was published last is not the one that is drawn on, if that was so
before it. -/
theorem Turn.apart {before after : Display} {call : DisplayCall} {past events : List ScanoutEvent}
    (turn : Turn before (call, events) after) (shows : shown? past = some before.front.address)
    (apart : before.back.address ≠ before.front.address) :
    shown? (past ++ events) = some after.front.address ∧
      after.back.address ≠ after.front.address := by
  cases turn with
  | drawn front address _ _ =>
    rw [List.append_nil, front, address]
    exact ⟨shows, apart⟩
  | swapped front back =>
    rw [shown?_published, front, back]
    exact ⟨rfl, apart.symm⟩
  | synced waits front back =>
    have last : past ++ (List.replicate waits (.polled false) ++
        [.polled true, .published before.back]) =
        past ++ List.replicate waits (.polled false) ++ [.polled true] ++
          [.published before.back] := by simp
    rw [last, shown?_published, front, back]
    exact ⟨rfl, apart.symm⟩

/-- So it is after any turns. -/
theorem turns_apart {before after : Display} {turns : List (DisplayCall × List ScanoutEvent)}
    {past : List ScanoutEvent} (trace : Trace Turn before turns after)
    (shows : shown? past = some before.front.address)
    (apart : before.back.address ≠ before.front.address) :
    shown? (past ++ turns.flatMap Prod.snd) = some after.front.address ∧
      after.back.address ≠ after.front.address := by
  -- What is carried from turn to turn: the frame in front is shown, and the other is elsewhere.
  induction trace generalizing past with
  | done =>
    rw [List.flatMap_nil, List.append_nil]
    exact ⟨shows, apart⟩
  | next turn _ ih =>
    obtain ⟨shows, apart⟩ := turn.apart shows apart
    rw [List.flatMap_cons, ← List.append_assoc]
    exact ih shows apart

/-- Two frames at addresses of their own are a display on every controller that always comes to its
vertical blank, for every sequence of uses. Given the patience for it, the session ends; it is a
turn for each use in order, and the controller sees the second frame and then what it sees of these
turns. After any number of them, the frame that was published last is not the one that is drawn
on. -/
theorem session_alternates (responds : scanout.Responds) {first second : Frame}
    (distinct : first.address ≠ second.address) (calls : List DisplayCall) (state : σ) :
    ∃ enough last next turns,
      turns.map Prod.fst = calls ∧ Trace Turn ⟨first, second⟩ turns last ∧
      (∀ patience, enough ≤ patience →
        session scanout patience first second calls state = .ok last next ∧
        session scanout.recording patience first second calls (state, []) =
          .ok last (next, .published second :: turns.flatMap Prod.snd)) ∧
      ∀ earlier later, turns = earlier ++ later → ∃ display,
        Trace Turn ⟨first, second⟩ earlier display ∧ Trace Turn display later last ∧
        shown? (.published second :: earlier.flatMap Prod.snd) = some display.front.address ∧
        display.back.address ≠ display.front.address := by
  obtain ⟨begun, published⟩ := responds.publishes second state
  obtain ⟨enough, last, next, turns, same, trace, performs⟩ :=
    turns_performAll responds ⟨first, second⟩ calls begun
  refine ⟨enough, last, next, turns, same, trace, ?_, ?_⟩
  · intro patience patient
    obtain ⟨ran, record⟩ := performs patience patient
    have recorded := Scanout.recording_publish published []
    constructor
    · have starts : start scanout first second state = .ok ⟨first, second⟩ begun :=
        bind_ok (adapt_ok published _) _
      exact (bind_ok starts _).trans ran
    · have starts : start scanout.recording first second (state, []) =
          .ok ⟨first, second⟩ (begun, [.published second]) := bind_ok (adapt_ok recorded _) _
      exact (bind_ok starts _).trans (record [.published second])
  · rintro earlier later rfl
    obtain ⟨display, before, after⟩ := trace.split
    have begins : shown? [.published second] = some second.address := rfl
    have apart := turns_apart before begins distinct
    exact ⟨display, before, after, apart.1, apart.2⟩

end Display

/-- The simulated controller always comes to its vertical blank. -/
theorem SimulatedScanout.responds : (scanout : Scanout SimulatedScanout ε).Responds where
  blanks := by
    intro state
    -- The polls that still say no become fewer with each.
    obtain ⟨left, last⟩ : ∃ left, left = state.blankAfter - state.polls := ⟨_, rfl⟩
    induction left generalizing state with
    | zero =>
      have blank : state.blankAfter < state.polls + 1 := by omega
      apply Scanout.Blanks.now
      show EStateM.Result.ok (decide (state.blankAfter < state.polls + 1)) _ = _
      rw [decide_eq_true blank]
    | succ left ih =>
      have waits : ¬state.blankAfter < state.polls + 1 := by omega
      have fewer : left = state.blankAfter - (state.polls + 1) := by omega
      refine Scanout.Blanks.later ?_ (ih { state with polls := state.polls + 1 } fewer)
      show EStateM.Result.ok (decide (state.blankAfter < state.polls + 1)) _ = _
      rw [decide_eq_false waits]
  publishes _ _ := ⟨_, rfl⟩

namespace Display

/-- A black frame at an address. -/
def blackFrame (address : UInt32) : Frame :=
  ⟨address, ⟨Array.replicate screenPixels black, Nat.le_of_eq Array.size_replicate.symm⟩⟩

/-- Two frames on a controller that comes to its vertical blank after three polls: the first frame
is made white and shown as it was drawn, and then the second is the one to draw on. -/
theorem blackFrames_alternate :
    ∃ enough last next events,
      (∀ patience, enough ≤ patience →
        session (SimulatedScanout.scanout : Scanout SimulatedScanout Empty).recording patience
          (blackFrame 0) (blackFrame 1) [.draw (.clear white), .swap true] (⟨0, 3, #[]⟩, []) =
            .ok last (next, events)) ∧
      shown? events = some 0 ∧ last.back = blackFrame 1 ∧
      last.front.surface = (blackFrame 0).surface.clear white := by
  have distinct : (blackFrame 0).address ≠ (blackFrame 1).address := by
    show (0 : UInt32) ≠ 1
    decide
  have responds : (SimulatedScanout.scanout : Scanout SimulatedScanout Empty).Responds :=
    SimulatedScanout.responds
  obtain ⟨enough, last, next, turns, calls, trace, runs, apart⟩ :=
    session_alternates responds distinct [.draw (.clear white), .swap true] ⟨0, 3, #[]⟩
  obtain ⟨⟨_, drawing⟩, others, rfl, rfl, swap⟩ := List.map_eq_cons_iff.mp calls
  obtain ⟨⟨_, swapping⟩, more, rfl, rfl, ended⟩ := List.map_eq_cons_iff.mp swap
  cases List.map_eq_nil_iff.mp ended
  obtain ⟨display, _, idle, shows, _⟩ := apart _ [] (List.append_nil _).symm
  refine ⟨enough, last, next, _, fun patience patient => (runs patience patient).2, ?_⟩
  cases idle
  cases trace with
  | next first others =>
    cases others with
    | next second ended =>
      cases ended
      cases first with
      | drawn front address surface =>
        cases second with
        | synced _ shown back =>
          rw [shows, shown, back, front, address, surface]
          exact ⟨rfl, rfl, rfl⟩

end Display

end Bringup
