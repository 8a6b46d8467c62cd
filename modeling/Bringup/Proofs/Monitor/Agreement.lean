import Bringup.Proofs.Host.Conversation
import Bringup.Proofs.Monitor.Service
import Bringup.Wire.Capture
import Mathlib.Order.Filter.AtTopBot.Basic
/-!
# Client and server agree

The monitor at work is a line, a target with a record of the accesses to it, and a log
(`Station`). When the client reads what the server writes after its announcement and the server
reads what the client writes, the two ends stay in step over any sequence of calls: every byte is
consumed on both sides, the target sees the accesses of the calls in order and no other, and every
call gives what carrying it out on the target gives (`client_server_agree`).

The two ends are run apart, each on an input that the other is required to have written. That such
an exchange exists, and that it is the only one, comes out of the proof: a client that is cut short
has asked for more than it was sent, and the server would have sent it.
-/

namespace Bringup

open Filter Monitor

/-- The monitor at work. -/
structure Station (ρ τ κ : Type) where
  line : ρ
  /-- The system and the accesses to it so far. -/
  system : τ × List SystemEvent
  log : κ

namespace Station

variable {ρ τ κ ε : Type}

/-- The line. -/
def linePart : Part (Station ρ τ κ) ρ :=
  ⟨fun station => (station.line, fun line => { station with line })⟩

/-- The system. -/
def systemPart : Part (Station ρ τ κ) (τ × List SystemEvent) :=
  ⟨fun station => (station.system, fun system => { station with system })⟩

/-- The log. -/
def logPart : Part (Station ρ τ κ) κ :=
  ⟨fun station => (station.log, fun log => { station with log })⟩

/-- Serves one frame. -/
def serveFrame (line : ByteStream ρ ε) (target : Target τ ε) (log : Logger κ ε) (patience : Nat) :
    EStateM (FrameError ε) (Station ρ τ κ) Unit :=
  Monitor.serveFrame (linePart.stream line) (target.recording.onPart systemPart)
    (log.onPart logPart) patience

/-- The station stands for a system with its record, an input and an output. -/
def Holds (view : LineView ρ) (station : Station ρ τ κ) (system : τ × List SystemEvent)
    (unread written : List UInt8) : Prop :=
  view.Holds station.line unread written ∧ station.system = system

variable {line : ByteStream ρ ε} {view : LineView ρ} {target : Target τ ε} {log : Logger κ ε}

/-- An access that succeeds on the system succeeds on the station and is recorded. -/
theorem access_ok {α : Type} {station : Station ρ τ κ} {system : τ × List SystemEvent}
    {unread written : List UInt8} (held : station.Holds view system unread written)
    {action : EStateM ε τ α} {value : α} {next : τ} (step : action system.1 = .ok value next)
    (event : α → SystemEvent) :
    ∃ after : Station ρ τ κ,
      systemPart.run (Target.recorded action event) station = .ok value after ∧
      after.Holds view (next, system.2 ++ [event value]) unread written := by
  obtain ⟨kept, rfl⟩ := held
  exact ⟨_, Part.run_ok (Target.recorded_ok step event), kept, rfl⟩

/-- The requests of a frame: those for calls, and the one that ends it. -/
def frame (calls : List Call) : List Request := calls.map Call.request ++ [.endFrame]

/-- What the server may rely on in a station, where a log record puts nothing on the line. -/
theorem surroundings (carries : line.Carries view.Holds) (total : target.Total)
    (settles : target.Settles)
    (logs : ∀ record state, ∃ next, log record state = .ok () next) :
    Surroundings (linePart.stream line) (target.recording.onPart systemPart) (log.onPart logPart)
      (Recorded target.Step) (fun _ bytes => bytes = []) atTop
      (Holds view : Station ρ τ κ → _ → _ → _ → Prop) where
  carries system := carries.onPart (fun _ _ => rfl) fun _ _ same => same
  readWord := by
    intro station system unread written held address
    obtain ⟨data, next, step⟩ := total.readWord address system.1
    obtain ⟨after, access, kept⟩ := access_ok held step (.read address)
    exact ⟨data, after, (next, system.2 ++ [.read address data]), access, ⟨step, rfl⟩, kept⟩
  writeWord := by
    intro station system unread written held address data
    obtain ⟨next, step⟩ := total.writeWord address data system.1
    obtain ⟨after, access, kept⟩ := access_ok held step fun _ => .write address data
    exact ⟨after, (next, system.2 ++ [.write address data]), access, ⟨step, rfl⟩, kept⟩
  startRasterizer := by
    intro station system unread written held
    obtain ⟨next, step⟩ := total.startRasterizer system.1
    obtain ⟨after, access, kept⟩ := access_ok held step fun _ => .start
    exact ⟨after, (next, system.2 ++ [.start]), access, ⟨step, rfl⟩, kept⟩
  rasterizerBusy := by
    intro station system unread written held
    obtain ⟨busy, next, step⟩ := total.rasterizerBusy system.1
    obtain ⟨after, access, kept⟩ := access_ok held step .polled
    exact ⟨busy, after, (next, system.2 ++ [.polled busy]), access, ⟨step, rfl⟩, kept⟩
  cycles := by
    intro station system unread written held
    obtain ⟨value, next, step⟩ := total.cycles system.1
    obtain ⟨after, access, kept⟩ := access_ok held step .cycles
    exact ⟨value, after, (next, system.2 ++ [.cycles value]), access, ⟨step, rfl⟩, kept⟩
  log := by
    rintro station system unread written ⟨held, same⟩ record
    obtain ⟨next, step⟩ := logs record station.log
    refine ⟨[], _, Part.run_ok step, rfl, ?_, same⟩
    rwa [List.append_nil]
  settles := by
    intro system later start
    obtain ⟨polls, idles⟩ := settles system.1 later.1 start.1
    exact ⟨polls, idles.recorded later.2, eventually_ge_atTop polls⟩

/-- Where no log record puts anything on the line, the line gets the answers alone. -/
theorem lineBytes_silent {calls : List Call} {lines : List (List UInt8)} {turns : List Turn}
    (silent : List.Forall₂ (fun _ line => line = []) calls lines)
    (length : lines.length = turns.length) :
    lineBytes lines turns = turns.flatMap fun turn => turn.answer.encode := by
  induction silent generalizing turns with
  | nil =>
    obtain rfl : turns = [] := List.eq_nil_of_length_eq_zero length.symm
    rfl
  | @cons _ line _ lines first _ ih =>
    obtain _ | ⟨turn, turns⟩ := turns
    · exact absurd length (Nat.succ_ne_zero _)
    rw [lineBytes, List.zipWith_cons_cons, List.flatten_cons, first, List.flatMap_cons,
      List.nil_append]
    exact congrArg _ (ih (Nat.succ.inj length))

/-- A beginning of the requests of a frame is the whole frame or asks for the first calls of it. -/
theorem prefix_frame {made : List Request} {calls : List Call} (before : made <+: frame calls) :
    made = frame calls ∨ ∃ first : List Call, made = first.map Call.request := by
  obtain whole | part := List.prefix_concat_iff.1 before
  · exact .inl whole
  · refine .inr ⟨calls.take made.length, ?_⟩
    rw [List.map_take]
    exact List.prefix_iff_eq_take.1 part

/-- The answers of a frame: those to the calls, and the one to its end. -/
theorem frame_fits {step : τ → SystemEvent → τ → Prop} {system last : τ} {calls : List Call}
    {turns : List Turn} (executed : Executed step system calls turns last) :
    List.Forall₂ Request.Fits (frame calls) (turns.map Turn.answer ++ [Answer.done]) :=
  List.rel_append executed.fits (.cons .endFrame .nil)

/-- The answer to the end of a frame takes no bytes. -/
theorem encode_frame (turns : List Turn) :
    (turns.map Turn.answer ++ [Answer.done]).flatMap Answer.encode =
      turns.flatMap fun turn => turn.answer.encode := by
  rw [List.flatMap_append, List.flatMap_map, List.flatMap_singleton, Answer.encode, List.append_nil]

section Served

variable (carries : line.Carries view.Holds) (total : target.Total) (settles : target.Settles)
  (logs : ∀ record state, ∃ next, log record state = .ok () next)
  {station : Station ρ τ κ} {system : τ}

include carries total settles logs

/-- The server over the requests for calls carries them out and sends the answers; what comes after
them is left to be served. -/
theorem serve_calls (calls : List Call) {unread : List UInt8}
    (held :
      station.Holds view (system, []) (encodeRequests (calls.map Call.request) ++ unread) []) :
    ∃ (turns : List Turn) (last : τ) (next : Station ρ τ κ) (rounds : Nat),
      Executed target.Step system calls turns last ∧ unread.length ≤ rounds ∧
      next.Holds view (last, turns.flatMap Turn.events) unread
        (Message.ready.encode ++ turns.flatMap fun turn => turn.answer.encode) ∧
      ∀ᶠ patience in atTop, serveFrame line target log patience station =
        serveRequests (linePart.stream line) (target.recording.onPart systemPart)
          (log.onPart logPart) patience (rounds + 1) next := by
  have around := surroundings carries total settles logs
  obtain ⟨announced, rounds, enough, kept, announces⟩ := around.serveFrame_ready held
  obtain ⟨lines, turns, next, later, silent, executed, kept, served⟩ :=
    around.serveRequests_calls calls kept
  obtain ⟨direct, record⟩ := executed.of_recorded
  rw [List.length_append] at enough
  have requests := length_le_encodeRequests (calls.map Call.request)
  rw [List.length_map] at requests
  obtain ⟨extra, rfl⟩ : ∃ extra, rounds = calls.length + (extra + 1) :=
    ⟨rounds - 1 - calls.length, by omega⟩
  refine ⟨turns, later.1, next, extra, direct, by omega, ?_, ?_⟩
  · have length : lines.length = turns.length := by
      have answered := executed.fits.length_eq
      rw [List.length_map, List.length_map] at answered
      rw [← silent.length_eq, answered]
    rw [lineBytes_silent silent length, List.nil_append] at kept
    rw [List.nil_append] at record
    rw [← record]
    exact kept
  · filter_upwards [served] with patience serves
    rw [serveFrame, announces, serves]

/-- The server over the requests of a whole frame ends it with all of them consumed. -/
theorem serve_frame (calls : List Call)
    (held : station.Holds view (system, []) (encodeRequests (frame calls)) []) :
    ∃ (turns : List Turn) (last : τ) (next : Station ρ τ κ),
      Executed target.Step system calls turns last ∧
      next.Holds view (last, turns.flatMap Turn.events) []
        (Message.ready.encode ++ turns.flatMap fun turn => turn.answer.encode) ∧
      ∀ᶠ patience in atTop, serveFrame line target log patience station = .ok () next := by
  rw [frame, encodeRequests_append] at held
  obtain ⟨turns, last, middle, rounds, executed, _, kept, served⟩ :=
    serve_calls carries total settles logs calls held
  have around := surroundings carries total settles logs
  obtain ⟨line, next, rfl, kept, ended⟩ := around.serveRequests_endFrame [] kept
  rw [List.append_nil] at kept
  refine ⟨turns, last, next, executed, kept, ?_⟩
  filter_upwards [served] with patience serves
  rw [serves]
  exact ended patience rounds

/-- The server over requests that do not end the frame has sent all answers when it fails. -/
theorem serve_cut (calls : List Call)
    (held : station.Holds view (system, []) (encodeRequests (calls.map Call.request)) []) :
    ∃ turns last, Executed target.Step system calls turns last ∧
      ∀ᶠ patience in atTop,
        view.written (attempt (serveFrame line target log patience) station).2.line =
          Message.ready.encode ++ turns.flatMap fun turn => turn.answer.encode := by
  rw [← List.append_nil (encodeRequests (calls.map Call.request))] at held
  obtain ⟨turns, last, middle, rounds, executed, _, kept, served⟩ :=
    serve_calls carries total settles logs calls held
  have around := surroundings carries total settles logs
  refine ⟨turns, last, executed, ?_⟩
  filter_upwards [served] with patience serves
  obtain ⟨error, next, failed, ⟨⟨_, _, written⟩, _⟩⟩ :=
    around.serveRequests_ended kept patience (rounds + 1)
  rw [attempt, serves, failed]
  exact written

/-- The server over a beginning of the requests of a frame has answered each of them, and sent
nothing else, when it stops. -/
theorem serve_beginning {made : List Request} {calls : List Call} (before : made <+: frame calls)
    (held : station.Holds view (system, []) (encodeRequests made) []) :
    ∃ answers : List Answer, List.Forall₂ Request.Fits made answers ∧ ∀ᶠ patience in atTop,
      view.written (attempt (serveFrame line target log patience) station).2.line =
        Message.ready.encode ++ answers.flatMap Answer.encode := by
  obtain rfl | ⟨first, rfl⟩ := prefix_frame before
  · obtain ⟨turns, last, next, executed, ⟨⟨_, _, sent⟩, _⟩, served⟩ :=
      serve_frame carries total settles logs calls held
    refine ⟨_, frame_fits executed, ?_⟩
    filter_upwards [served] with patience serves
    rw [attempt, serves, encode_frame]
    exact sent
  · obtain ⟨turns, last, executed, sent⟩ := serve_cut carries total settles logs first held
    refine ⟨_, executed.fits, ?_⟩
    rw [List.flatMap_map]
    exact sent

end Served

/-- The client and the server in step. On whatever line, in whatever state of the system, and for
whatever calls: if the client is fed what the server writes after its announcement, and the server
what the client writes, then the calls are carried out on the target in their one way, the record
of the target shows these accesses and no other, the client gives their answers, and neither side
leaves a byte. And there is such an exchange. -/
theorem client_server_agree {σ : Type} {client : Client σ} {host : LineView σ}
    (carries : line.Carries view.Holds) (total : target.Total) (settles : target.Settles)
    (logs : ∀ record state, ∃ next, log record state = .ok () next)
    (speaks : client.Speaks host.Holds) (system : τ) (calls : List Call) :
    (∀ (replies requests : List UInt8) (speaker : σ) (station : Station ρ τ κ),
      host.Holds speaker replies [] → station.Holds view (system, []) requests [] →
      ∀ᶠ patience in atTop,
        let said := attempt (client.askAll (frame calls)) speaker
        let served := attempt (serveFrame line target log patience) station
        host.written said.2 = requests →
        view.written served.2.line = Message.ready.encode ++ replies →
        ∃ turns last,
          (∀ others finish, Executed target.Step system calls others finish ↔
            others = turns ∧ finish = last) ∧
          said.1 = .ok (turns.map Turn.answer ++ [Answer.done]) ∧ host.unread said.2 = [] ∧
          served.1 = .ok () ∧ view.unread served.2.line = [] ∧
          served.2.system = (last, turns.flatMap Turn.events)) ∧
    (∀ station : Station ρ τ κ,
      station.Holds view (system, []) (encodeRequests (frame calls)) [] →
      ∃ replies, ∀ speaker, host.Holds speaker replies [] → ∀ᶠ patience in atTop,
        host.written (attempt (client.askAll (frame calls)) speaker).2 =
          encodeRequests (frame calls) ∧
        view.written (attempt (serveFrame line target log patience) station).2.line =
          Message.ready.encode ++ replies) := by
  constructor
  · intro replies requests speaker station loaded fed
    refine eventually_imp_distrib_left.2 fun heard => ?_
    by_cases enough : replyLength (frame calls) ≤ replies.length
    · obtain ⟨answers, rest, spoken, fits, split, asked, _, unread, wrote⟩ :=
        speaks.askAll_enough (frame calls) loaded enough
      rw [attempt, asked, wrote, List.nil_append] at heard
      subst heard
      obtain ⟨turns, last, next, executed, ⟨⟨_, consumed, sent⟩, record⟩, served⟩ :=
        serve_frame carries total settles logs calls fed
      filter_upwards [served] with patience serves
      simp only [attempt, asked, serves]
      intro replied
      rw [sent, List.append_cancel_left_eq, ← encode_frame] at replied
      rw [← replied, ← List.append_nil (List.flatMap _ _)] at split
      obtain ⟨sameAnswers, rfl⟩ := eq_of_flatMap_encode (frame_fits executed) fits split
      refine ⟨turns, last, ?_, by rw [sameAnswers], unread, trivial, consumed, record⟩
      intro others finish
      constructor
      · intro other
        exact other.unique target.deterministic executed
      · rintro ⟨rfl, rfl⟩
        exact executed
    · -- A client cut short has asked for more than it was sent, and was sent all it asked for.
      obtain ⟨made, error, spoken, before, cut, asked, _, unread, wrote⟩ :=
        speaks.askAll_short (frame calls) loaded (by omega)
      rw [attempt, asked, wrote, List.nil_append] at heard
      subst heard
      obtain ⟨answers, fits, sent⟩ :=
        serve_beginning carries total settles logs before fed
      filter_upwards [sent] with patience sends
      intro replied
      rw [sends, List.append_cancel_left_eq] at replied
      rw [← replied, length_flatMap_encode fits] at cut
      exact absurd cut (Nat.lt_irrefl _)
  · intro station fed
    obtain ⟨turns, last, next, executed, ⟨⟨_, _, sent⟩, _⟩, served⟩ :=
      serve_frame carries total settles logs calls fed
    refine ⟨(turns.map Turn.answer ++ [Answer.done]).flatMap Answer.encode,
      fun speaker loaded => ?_⟩
    obtain ⟨answers, rest, spoken, _, _, asked, _, _, wrote⟩ :=
      speaks.askAll_enough (frame calls) loaded (length_flatMap_encode (frame_fits executed)).ge
    filter_upwards [served] with patience serves
    simp only [attempt, asked, serves]
    refine ⟨by rw [wrote, List.nil_append], ?_⟩
    rw [sent, encode_frame]

end Station

namespace Monitor.SimulatedSystem

variable {ε : Type}

/-- Every access to the simulated system succeeds. -/
theorem total : (target : Target SimulatedSystem ε).Total where
  readWord _ _ := ⟨_, _, rfl⟩
  writeWord _ _ _ := ⟨_, rfl⟩
  startRasterizer _ := ⟨_, rfl⟩
  rasterizerBusy _ := ⟨_, _, rfl⟩
  cycles _ := ⟨_, _, rfl⟩

/-- A read of the simulated system gives the word that it keeps. -/
theorem read_step (system : SimulatedSystem) (address : UInt32) {data : UInt32}
    (kept : system.words.getD address 0 = data) :
    (target : Target SimulatedSystem ε).Step system (.read address data)
      (system.record (.read address data)) := by
  subst kept
  rfl

/-- The simulated rasterizer is idle once its busy polls are over. -/
theorem idles (polls : Nat) (system : SimulatedSystem) (few : system.busyPolls < polls) :
    Idles (target : Target SimulatedSystem ε).Step polls system := by
  induction polls generalizing system with
  | zero => exact absurd few (Nat.not_lt_zero _)
  | succ polls ih =>
    intro busy next poll stillBusy
    obtain ⟨rfl, rfl⟩ := EStateM.Result.ok.inj poll
    have positive : 0 < system.busyPolls := of_decide_eq_true stillBusy
    refine ih _ ?_
    show system.busyPolls - 1 < polls
    omega

/-- The simulated rasterizer settles after every start. -/
theorem settles : (target : Target SimulatedSystem ε).Settles :=
  fun _ next _ => ⟨next.busyPolls + 1, idles _ next (Nat.lt_succ_self _)⟩

end Monitor.SimulatedSystem

namespace Station

/-- A simulated system whose next run of the rasterizer is busy for two polls. -/
def busySystem : SimulatedSystem := ⟨∅, 0, 3, 5, [2], 0, #[]⟩

/-- The system behind a line that moves three bytes at a time one way and two the other. -/
def busyStation (input : List UInt8) : Station Scripted SimulatedSystem (Array LogRecord) :=
  ⟨.ofInput { readLimit := some 3, writeLimit := some 2 } input, (busySystem, []), #[]⟩

/-- The station stands before its bytes, has written nothing, and its target was left alone. -/
theorem busyStation_holds (input : List UInt8) :
    (busyStation input).Holds Scripted.view (busySystem, []) input [] := by
  refine ⟨⟨?_, rfl, rfl⟩, rfl⟩
  simp [busyStation, Scripted.view, Scripted.ofInput, Scripted.CutsOnly]

/-- A log that keeps its records takes every record. -/
theorem keeping_logs (record : LogRecord) (kept : Array LogRecord) : ∃ next,
    (Logger.keeping : Logger (Array LogRecord) ScriptedError) record kept = .ok () next := ⟨_, rfl⟩

/-- A word written and read back, and a run of the rasterizer. -/
def rasterizedCalls : List Call := [.writeWord 0x100 7, .readWord 0x100, .rasterize]

/-- How the calls are carried out: the run takes three polls of five cycles, and the second reading
of the clock three. -/
theorem rasterizedCalls_executed : ∃ last,
    Executed (SimulatedSystem.target : Target SimulatedSystem ScriptedError).Step busySystem
      rasterizedCalls
      [⟨.done, [.write 0x100 7]⟩, ⟨.word 7, [.read 0x100 7]⟩,
        ⟨.elapsed 18, [.cycles 3, .start, .polled true, .polled true, .polled false, .cycles 21]⟩]
      last := by
  apply Exists.intro
  apply Executed.next (.writeWord _ _) (.single rfl)
  apply Executed.next (.readWord _ _)
    (.single (SimulatedSystem.read_step _ _ Std.HashMap.getD_insert_self))
  exact .next (.rasterize 3 21 2)
    (.next rfl (.next rfl (.next rfl (.next rfl (.next rfl (.single rfl)))))) (.done _)

/-- The line of the client and that of the station stay in step over these calls. -/
theorem rasterizedCalls_agree :
    ∃ replies, ∀ᶠ patience in atTop,
      let served := attempt (serveFrame Scripted.stream SimulatedSystem.target Logger.keeping
        patience) (busyStation (encodeRequests (frame rasterizedCalls)))
      (attempt ((⟨Replay.device, Logger.silent⟩ : Client Replay).askAll (frame rasterizedCalls))
          { unread := replies }).1 = .ok [.done, .word 7, .elapsed 18, .done] ∧
        served.1 = .ok () ∧
        served.2.system.2 = [.write 0x100 7, .read 0x100 7, .cycles 3, .start, .polled true,
          .polled true, .polled false, .cycles 21] := by
  have settles : (SimulatedSystem.target : Target SimulatedSystem ScriptedError).Settles :=
    SimulatedSystem.settles
  obtain ⟨conclude, exchange⟩ := client_server_agree Scripted.carries SimulatedSystem.total settles
    keeping_logs Replay.speaks busySystem rasterizedCalls
  obtain ⟨replies, closes⟩ := exchange _ (busyStation_holds _)
  have loaded : Replay.view.Holds { unread := replies } replies [] := ⟨⟨rfl, rfl⟩, rfl, rfl⟩
  refine ⟨replies, ?_⟩
  filter_upwards [closes _ loaded, conclude replies _ _ _ loaded (busyStation_holds _)]
    with patience closed concludes
  obtain ⟨turns, last, only, answers, _, served, _, record⟩ := concludes closed.1 closed.2
  obtain ⟨finish, executed⟩ := rasterizedCalls_executed
  obtain ⟨rfl, rfl⟩ := (only _ _).1 executed
  exact ⟨answers, served, congrArg Prod.snd record⟩

end Station

end Bringup
