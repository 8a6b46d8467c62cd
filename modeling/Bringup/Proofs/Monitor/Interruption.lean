import Bringup.Proofs.Monitor.Agreement
import Bringup.Proofs.Wire.RequestFormat
/-!
# Noise and cut lines

The server takes the bytes of a request all or none. Bytes that are no command are skipped one by
one wherever a request may begin, and a request of which a byte is missing ends the frame before
anything was done for it. Main statement: what the server does to the system and what it writes is
that of the calls whose requests arrived as a whole, whatever noise lies between them and wherever
the line is cut (`Station.serveFrame_whole_requests`).
-/

namespace Bringup

open Filter

namespace Monitor

/-- A byte that is no command. -/
def Unknown (byte : UInt8) : Prop := 0x06 ≤ byte

/-- A call on the line: bytes that are no commands, and the request behind them. -/
structure Arrival where
  noise : List UInt8
  call : Call

/-- The bytes of an arrival. -/
def Arrival.bytes (arrival : Arrival) : List UInt8 := arrival.noise ++ arrival.call.request.encode

/-- The noise and the request are all that an arrival takes. -/
theorem Arrival.length_bytes (arrival : Arrival) :
    arrival.bytes.length = arrival.noise.length + arrival.call.request.encode.length :=
  List.length_append

/-- The bytes of arrivals in order. -/
def arrivalBytes (arrivals : List Arrival) : List UInt8 := arrivals.flatMap Arrival.bytes

/-- Nothing but bytes that are no commands lies between the requests. -/
def Noisy (arrivals : List Arrival) : Prop :=
  ∀ arrival ∈ arrivals, ∀ byte ∈ arrival.noise, Unknown byte

/-- The calls whose requests lie as a whole among the first so many bytes. -/
def callsWithin : List Arrival → (received : Nat) → List Call
  | [], _ => []
  | arrival :: rest, received =>
    if arrival.bytes.length ≤ received then
      arrival.call :: callsWithin rest (received - arrival.bytes.length)
    else []

/-- The bytes of the first arrival come before the others. -/
theorem arrivalBytes_cons (arrival : Arrival) (rest : List Arrival) :
    arrivalBytes (arrival :: rest) = arrival.bytes ++ arrivalBytes rest :=
  List.flatMap_cons

/-- Without noise the bytes are those of the requests. -/
theorem arrivalBytes_quiet (calls : List Call) :
    arrivalBytes (calls.map (Arrival.mk [])) = encodeRequests (calls.map Call.request) := by
  rw [arrivalBytes, encodeRequests, List.flatMap_map, List.flatMap_map]
  rfl

/-- Between such requests lies nothing. -/
theorem noisy_quiet (calls : List Call) : Noisy (calls.map (Arrival.mk [])) := by
  intro arrival member
  obtain ⟨call, _, rfl⟩ := List.mem_map.1 member
  exact nofun

/-- Their calls are those that they were made for. -/
theorem map_call_quiet (calls : List Call) :
    (calls.map (Arrival.mk [])).map Arrival.call = calls := by
  rw [List.map_map]
  exact List.map_id calls

/-- A line that is not cut brings every request. -/
theorem callsWithin_all {arrivals : List Arrival} {received : Nat}
    (enough : (arrivalBytes arrivals).length ≤ received) :
    callsWithin arrivals received = arrivals.map Arrival.call := by
  induction arrivals generalizing received with
  | nil => rfl
  | cons arrival rest ih =>
    rw [arrivalBytes_cons, List.length_append] at enough
    rw [callsWithin, if_pos (by omega), List.map_cons, ih (by omega)]

/-- However the line ends, if its end is one, this is the error that it is told by. -/
def TellsEnding {σ τ ε : Type} (stream : ByteStream σ ε)
    (holds : σ → τ → List UInt8 → List UInt8 → Prop) (error : TransferError ε) : Prop :=
  ∀ ending, (∀ system written,
    stream.Supplies ending fun state unread => holds state system unread written) →
    error = ending.error

/-- A request that is not received because the line has ended tells how it has. -/
theorem tellsEnding_of_receive {σ τ ε : Type} {stream : ByteStream σ ε}
    {holds : σ → τ → List UInt8 → List UInt8 → Prop} {state next : σ} {system : τ}
    {unread written : List UInt8} {error : TransferError ε}
    (held : holds state system unread written)
    (failed : Request.receive stream state = .error (.transfer error) next) :
    TellsEnding stream holds error := by
  intro ending supplies
  have decodes := Request.decodes (supplies system written)
  exact decodes.error_eq held failed

namespace Surroundings

variable {σ τ ε : Type} {stream : ByteStream σ ε} {target : Target σ ε} {log : Logger σ ε}
  {step : τ → SystemEvent → τ → Prop} {patiences : Filter Nat}
  {holds : σ → τ → List UInt8 → List UInt8 → Prop}
  {state : σ} {system : τ} {unread written : List UInt8}

variable (surroundings : Surroundings stream target log step (fun _ bytes => bytes = []) patiences
  holds)

include surroundings

/-- A round of the server over a byte that is no command only takes it. -/
theorem serveRequests_unknown {byte : UInt8} (unknown : Unknown byte)
    (held : holds state system (byte :: unread) written) :
    ∃ next, holds next system unread written ∧ ∀ patience rounds,
      serveRequests stream target log patience (rounds + 1) state =
        serveRequests stream target log patience rounds next := by
  obtain ⟨taken, received, kept⟩ :=
    Request.receive_unknown (surroundings.carries system) unknown held
  have skipped : nextRequest stream state = .ok (.inl byte) taken := by rw [nextRequest, received]
  obtain ⟨_, next, logging, rfl, kept⟩ := surroundings.log kept
    ⟨.warn, logTarget, "skipping unknown request " ++ Text.markedHex 2 byte.toNat⟩
  rw [List.append_nil] at kept
  refine ⟨next, kept, fun patience rounds => ?_⟩
  rw [serveRequests, Action.bind_ok skipped]
  show (acting (log _) >>= _) taken = _
  rw [Action.bind_ok (acting_ok logging)]

/-- Bytes that are no commands are taken one by one. -/
theorem serveRequests_noise {noise : List UInt8} (unknown : ∀ byte ∈ noise, Unknown byte)
    (held : holds state system (noise ++ unread) written) :
    ∃ next, holds next system unread written ∧ ∀ patience rounds,
      serveRequests stream target log patience (noise.length + rounds) state =
        serveRequests stream target log patience rounds next := by
  induction noise generalizing state with
  | nil => exact ⟨state, held, fun patience rounds => by rw [List.length_nil, Nat.zero_add]⟩
  | cons byte noise ih =>
    rw [List.forall_mem_cons] at unknown
    obtain ⟨middle, kept, first⟩ := surroundings.serveRequests_unknown unknown.1 held
    obtain ⟨next, kept, others⟩ := ih unknown.2 kept
    refine ⟨next, kept, fun patience rounds => ?_⟩
    rw [List.length_cons, Nat.add_right_comm, first, others]

/-- A call behind noise is carried out and answered; the noise leaves no trace. -/
theorem serveRequests_arrival {arrival : Arrival} (unknown : ∀ byte ∈ arrival.noise, Unknown byte)
    (held : holds state system (arrival.bytes ++ unread) written) :
    ∃ (turn : Turn) (next : σ) (later : τ), arrival.call.Shows turn.answer turn.events ∧
      Trace step system turn.events later ∧
      holds next later unread (written ++ turn.answer.encode) ∧
      ∀ᶠ patience in patiences, ∀ rounds,
        serveRequests stream target log patience (arrival.noise.length + 1 + rounds) state =
          serveRequests stream target log patience rounds next := by
  rw [Arrival.bytes, List.append_assoc] at held
  obtain ⟨ready, kept, skipped⟩ := surroundings.serveRequests_noise unknown held
  obtain ⟨_, turn, next, later, rfl, pattern, trace, kept, served⟩ :=
    surroundings.serveRequests_call arrival.call kept
  rw [List.append_nil] at kept
  refine ⟨turn, next, later, pattern, trace, kept, served.mono fun patience serves rounds => ?_⟩
  rw [Nat.add_assoc, skipped, Nat.add_comm 1 rounds, serves]

/-- The server over the requests for calls with noise between them carries out the calls and
answers them. What follows is left to the rounds that remain. -/
theorem serveRequests_arrivals {arrivals : List Arrival} (noisy : Noisy arrivals)
    (held : holds state system (arrivalBytes arrivals ++ unread) written) :
    ∃ (turns : List Turn) (next : σ) (later : τ) (taken : Nat),
      Executed step system (arrivals.map Arrival.call) turns later ∧
      taken ≤ (arrivalBytes arrivals).length ∧
      holds next later unread (written ++ turns.flatMap fun turn => turn.answer.encode) ∧
      ∀ᶠ patience in patiences, ∀ rounds,
        serveRequests stream target log patience (taken + rounds) state =
          serveRequests stream target log patience rounds next := by
  induction arrivals generalizing state system written with
  | nil =>
    refine ⟨[], state, system, 0, .done system, Nat.le_refl 0, ?_, ?_⟩
    · rwa [List.flatMap_nil, List.append_nil]
    · exact Eventually.of_forall fun patience rounds => by rw [Nat.zero_add]
  | cons arrival rest ih =>
    rw [Noisy, List.forall_mem_cons] at noisy
    rw [arrivalBytes_cons, List.append_assoc] at held
    obtain ⟨turn, middle, between, pattern, trace, kept, first⟩ :=
      surroundings.serveRequests_arrival noisy.1 held
    obtain ⟨turns, next, later, taken, executed, few, kept, others⟩ := ih noisy.2 kept
    refine ⟨turn :: turns, next, later, arrival.noise.length + 1 + taken,
      .next pattern trace executed, ?_, ?_, ?_⟩
    · have positive := arrival.call.request.length_encode_pos
      rw [arrivalBytes_cons, List.length_append, arrival.length_bytes]
      omega
    · rwa [List.flatMap_cons, ← List.append_assoc]
    · filter_upwards [first, others] with patience first others rounds
      rw [Nat.add_assoc, first, others]

/-- The server over bytes that are no commands, with nothing behind them, takes them and fails. -/
theorem serveRequests_noise_ended {noise : List UInt8} (unknown : ∀ byte ∈ noise, Unknown byte)
    (held : holds state system noise written) :
    ∃ error next, TellsEnding stream holds error ∧ holds next system [] written ∧
      ∀ patience rounds, noise.length < rounds →
        serveRequests stream target log patience rounds state = .error (.transfer error) next := by
  rw [← List.append_nil noise] at held
  obtain ⟨quiet, kept, skipped⟩ := surroundings.serveRequests_noise unknown held
  obtain ⟨error, next, failed, remains⟩ := Request.receive_ended (surroundings.carries system) kept
  have tells : TellsEnding stream holds error := tellsEnding_of_receive kept failed
  have ended : nextRequest stream quiet = .error (.transfer error) next := by
    rw [nextRequest, failed]
  refine ⟨error, next, tells, remains, fun patience rounds enough => ?_⟩
  obtain ⟨rest, rfl⟩ : ∃ rest, rounds = noise.length + (rest + 1) :=
    ⟨rounds - 1 - noise.length, by omega⟩
  rw [skipped, serveRequests, Action.bind_error ended]

/-- The server over a request of which a byte is missing, with noise before it, fails before it does
anything for it. -/
theorem serveRequests_part {arrival : Arrival} (unknown : ∀ byte ∈ arrival.noise, Unknown byte)
    {received : Nat} (cut : received < arrival.bytes.length)
    (held : holds state system (arrival.bytes.take received) written) :
    ∃ error next, TellsEnding stream holds error ∧ holds next system [] written ∧
      ∀ patience rounds, received < rounds →
        serveRequests stream target log patience rounds state = .error (.transfer error) next := by
  rw [arrival.length_bytes] at cut
  rw [Arrival.bytes, List.take_append] at held
  obtain ⟨ready, kept, skipped⟩ := surroundings.serveRequests_noise
    (fun byte member => unknown byte (List.mem_of_mem_take member)) held
  rw [List.length_take] at skipped
  -- Either the cut lies in the noise, and nothing is left, or in the request behind all of it.
  have missing : arrival.call.request.encode.drop (received - arrival.noise.length) ≠ [] := by
    have positive := arrival.call.request.length_encode_pos
    rw [← List.length_pos_iff, List.length_drop]
    omega
  obtain ⟨error, next, failed, ended⟩ :=
    Request.receive_short (surroundings.carries system) arrival.call.request
      (List.take_append_drop _ _).symm missing kept
  have tells : TellsEnding stream holds error := tellsEnding_of_receive kept failed
  refine ⟨error, next, tells, ended, fun patience rounds enough => ?_⟩
  obtain ⟨rest, rfl⟩ : ∃ rest, rounds = min received arrival.noise.length + (rest + 1) :=
    ⟨rounds - 1 - min received arrival.noise.length, by omega⟩
  have ended : nextRequest stream ready = .error (.transfer error) next := by
    rw [nextRequest, failed]
  rw [skipped, serveRequests, Action.bind_error ended]

/-- The server over a line that is cut anywhere carries out the calls whose requests arrived as a
whole, answers them, and fails. -/
theorem serveRequests_cut {arrivals : List Arrival} (noisy : Noisy arrivals) {noise : List UInt8}
    (unknown : ∀ byte ∈ noise, Unknown byte) (received : Nat)
    (held : holds state system ((arrivalBytes arrivals ++ noise).take received) written) :
    ∃ (turns : List Turn) (error : TransferError ε) (next : σ) (later : τ),
      Executed step system (callsWithin arrivals received) turns later ∧
      TellsEnding stream holds error ∧
      holds next later [] (written ++ turns.flatMap fun turn => turn.answer.encode) ∧
      ∀ᶠ patience in patiences, ∀ rounds,
        ((arrivalBytes arrivals ++ noise).take received).length < rounds →
        serveRequests stream target log patience rounds state = .error (.transfer error) next := by
  induction arrivals generalizing state system written received with
  | nil =>
    rw [arrivalBytes, List.flatMap_nil, List.nil_append] at held ⊢
    obtain ⟨error, next, tells, kept, failed⟩ := surroundings.serveRequests_noise_ended
      (fun byte member => unknown byte (List.mem_of_mem_take member)) held
    refine ⟨[], error, next, system, .done system, tells, ?_, Eventually.of_forall failed⟩
    rwa [List.flatMap_nil, List.append_nil]
  | cons arrival rest ih =>
    rw [Noisy, List.forall_mem_cons] at noisy
    rw [arrivalBytes_cons, List.append_assoc] at held ⊢
    by_cases whole : arrival.bytes.length ≤ received
    · rw [List.take_append, List.take_of_length_le whole] at held ⊢
      obtain ⟨turn, middle, between, pattern, trace, kept, first⟩ :=
        surroundings.serveRequests_arrival noisy.1 held
      obtain ⟨turns, error, next, later, executed, tells, kept, others⟩ := ih noisy.2 _ kept
      refine ⟨turn :: turns, error, next, later, ?_, tells, ?_, ?_⟩
      · rw [callsWithin, if_pos whole]
        exact .next pattern trace executed
      · rwa [List.flatMap_cons, ← List.append_assoc]
      · filter_upwards [first, others] with patience first others rounds enough
        have positive := arrival.call.request.length_encode_pos
        have length := arrival.length_bytes
        rw [List.length_append] at enough
        obtain ⟨left, rfl⟩ : ∃ left, rounds = arrival.noise.length + 1 + left :=
          ⟨rounds - (arrival.noise.length + 1), by omega⟩
        rw [first, others left (by omega)]
    · have part : (arrival.bytes ++ (arrivalBytes rest ++ noise)).take received =
          arrival.bytes.take received := List.take_append_of_le_length (by omega)
      rw [part] at held ⊢
      obtain ⟨error, next, tells, kept, failed⟩ :=
        surroundings.serveRequests_part noisy.1 (by omega) held
      refine ⟨[], error, next, system, ?_, tells, ?_, Eventually.of_forall ?_⟩
      · rw [callsWithin, if_neg whole]
        exact .done system
      · rwa [List.flatMap_nil, List.append_nil]
      · intro patience rounds enough
        rw [List.length_take, Nat.min_eq_left (by omega)] at enough
        exact failed patience rounds enough

end Surroundings

end Monitor

open Monitor

namespace Station

variable {ρ τ κ ε : Type} {line : ByteStream ρ ε} {view : LineView ρ} {target : Target τ ε}
  {log : Logger κ ε}

section Served

variable (carries : line.Carries view.Holds) (total : target.Total) (settles : target.Settles)
  (logs : ∀ record state, ∃ next, log record state = .ok () next)
  {station : Station ρ τ κ} {system : τ} {arrivals : List Arrival} (noisy : Noisy arrivals)
  {noise : List UInt8} (unknown : ∀ byte ∈ noise, Unknown byte)

include carries total settles logs noisy unknown

/-- A frame with noise in it ends where it is ended, with the calls before the end carried out and
answered and nothing behind the end taken. -/
theorem serve_noisy {rest : List UInt8}
    (held : station.Holds view (system, [])
      (arrivalBytes arrivals ++ noise ++ Request.endFrame.encode ++ rest) []) :
    ∃ turns last next, Executed target.Step system (arrivals.map Arrival.call) turns last ∧
      next.Holds view (last, turns.flatMap Turn.events) rest
        (Message.ready.encode ++ turns.flatMap fun turn => turn.answer.encode) ∧
      ∀ᶠ patience in atTop, serveFrame line target log patience station = .ok () next := by
  have around := surroundings carries total settles logs
  obtain ⟨announced, rounds, enough, kept, announces⟩ := around.serveFrame_ready held
  rw [List.append_assoc, List.append_assoc] at kept
  obtain ⟨turns, asked, later, taken, executed, few, kept, served⟩ :=
    around.serveRequests_arrivals noisy kept
  obtain ⟨quiet, kept, skipped⟩ := around.serveRequests_noise unknown kept
  obtain ⟨_, next, rfl, kept, ended⟩ := around.serveRequests_endFrame rest kept
  obtain ⟨direct, record⟩ := executed.of_recorded
  rw [List.nil_append] at record
  rw [List.append_nil, List.nil_append] at kept
  refine ⟨turns, later.1, next, direct, by rw [← record]; exact kept, ?_⟩
  filter_upwards [served] with patience serves
  rw [List.length_append, List.length_append, List.length_append] at enough
  obtain ⟨left, rfl⟩ : ∃ left, rounds = taken + (noise.length + (left + 1)) :=
    ⟨rounds - taken - noise.length - 1, by
      have one : Request.endFrame.encode.length = 1 := rfl
      omega⟩
  rw [serveFrame, announces, serves, skipped]
  exact ended patience left

/-- A frame that is cut fails with the calls carried out and answered whose requests arrived as a
whole. -/
theorem serve_interrupted {received : Nat}
    (held : station.Holds view (system, []) ((arrivalBytes arrivals ++ noise).take received) []) :
    ∃ turns last error next,
      Executed target.Step system (callsWithin arrivals received) turns last ∧
      (∀ ending, (∀ written, line.Supplies ending fun state unread =>
        view.Holds state unread written) → error = ending.error) ∧
      next.Holds view (last, turns.flatMap Turn.events) []
        (Message.ready.encode ++ turns.flatMap fun turn => turn.answer.encode) ∧
      ∀ᶠ patience in atTop,
        serveFrame line target log patience station = .error (.transfer error) next := by
  have around := surroundings carries total settles logs
  obtain ⟨announced, rounds, enough, kept, announces⟩ := around.serveFrame_ready held
  obtain ⟨turns, error, next, later, executed, tells, kept, served⟩ :=
    around.serveRequests_cut noisy unknown received kept
  obtain ⟨direct, record⟩ := executed.of_recorded
  rw [List.nil_append] at record kept
  refine ⟨turns, later.1, error, next, direct, ?_, by rw [← record]; exact kept, ?_⟩
  · intro ending supplies
    exact tells ending fun _ written =>
      (supplies written).onPart (fun _ _ => rfl) fun _ _ same => same
  filter_upwards [served] with patience serves
  rw [serveFrame, announces, serves rounds enough]

/-- A frame that is not cut, but not ended either, fails with all calls carried out and answered. -/
theorem serve_unended
    (held : station.Holds view (system, []) (arrivalBytes arrivals ++ noise) []) :
    ∃ turns last error next, Executed target.Step system (arrivals.map Arrival.call) turns last ∧
      next.Holds view (last, turns.flatMap Turn.events) []
        (Message.ready.encode ++ turns.flatMap fun turn => turn.answer.encode) ∧
      ∀ᶠ patience in atTop,
        serveFrame line target log patience station = .error (.transfer error) next := by
  rw [← List.take_length (l := arrivalBytes arrivals ++ noise)] at held
  have all : callsWithin arrivals (arrivalBytes arrivals ++ noise).length =
      arrivals.map Arrival.call := callsWithin_all (by rw [List.length_append]; omega)
  rw [← all]
  obtain ⟨turns, last, error, next, executed, _, kept, served⟩ :=
    serve_interrupted carries total settles logs noisy unknown held
  exact ⟨turns, last, error, next, executed, kept, served⟩

end Served

/-- The server acts on whole requests only. On whatever line, in whatever state of the system, and
for whatever calls with whatever noise before their requests and after the last: the noise changes
nothing about what is done to the system and what is written. A frame that is ended succeeds and
leaves the line just behind its end. A frame that is cut at any byte fails with the error that tells
how the line has ended; what was done and what was written are the accesses of the calls whose
requests arrived as a whole, and their answers. -/
theorem serveFrame_whole_requests (carries : line.Carries view.Holds) (total : target.Total)
    (settles : target.Settles) (logs : ∀ record state, ∃ next, log record state = .ok () next)
    (system : τ) {arrivals : List Arrival} (noisy : Noisy arrivals) {noise : List UInt8}
    (unknown : ∀ byte ∈ noise, Unknown byte) :
    (∀ station plain : Station ρ τ κ,
      station.Holds view (system, []) (arrivalBytes arrivals ++ noise) [] →
      plain.Holds view (system, [])
        (encodeRequests ((arrivals.map Arrival.call).map Call.request)) [] →
      ∀ᶠ patience in atTop,
        let served := attempt (serveFrame line target log patience) station
        let expected := attempt (serveFrame line target log patience) plain
        served.2.system = expected.2.system ∧
          view.written served.2.line = view.written expected.2.line) ∧
    (∀ (rest : List UInt8) (station : Station ρ τ κ),
      station.Holds view (system, [])
        (arrivalBytes arrivals ++ noise ++ Request.endFrame.encode ++ rest) [] →
      ∃ turns last next, Executed target.Step system (arrivals.map Arrival.call) turns last ∧
        next.Holds view (last, turns.flatMap Turn.events) rest
          (Message.ready.encode ++ turns.flatMap fun turn => turn.answer.encode) ∧
        ∀ᶠ patience in atTop, serveFrame line target log patience station = .ok () next) ∧
    (∀ (received : Nat) (station : Station ρ τ κ),
      station.Holds view (system, []) ((arrivalBytes arrivals ++ noise).take received) [] →
      ∃ turns last error next,
        Executed target.Step system (callsWithin arrivals received) turns last ∧
        (∀ ending, (∀ written, line.Supplies ending fun state unread =>
          view.Holds state unread written) → error = ending.error) ∧
        next.Holds view (last, turns.flatMap Turn.events) []
          (Message.ready.encode ++ turns.flatMap fun turn => turn.answer.encode) ∧
        ∀ᶠ patience in atTop,
          serveFrame line target log patience station = .error (.transfer error) next) := by
  refine ⟨?_, fun rest station held => serve_noisy carries total settles logs noisy unknown held,
    fun received station held =>
      serve_interrupted carries total settles logs noisy unknown held⟩
  intro station plain held plainHeld
  obtain ⟨turns, last, error, next, executed, ⟨⟨_, _, written⟩, record⟩, served⟩ :=
    serve_unended carries total settles logs noisy unknown held
  rw [← arrivalBytes_quiet, ← List.append_nil (arrivalBytes _)] at plainHeld
  obtain ⟨others, finish, otherError, later, otherExecuted, ⟨⟨_, _, otherWritten⟩, otherRecord⟩,
    otherServed⟩ := serve_unended carries total settles logs (noisy_quiet _)
      (fun _ member => absurd member List.not_mem_nil) plainHeld
  rw [map_call_quiet] at otherExecuted
  obtain ⟨rfl, rfl⟩ := executed.unique target.deterministic otherExecuted
  filter_upwards [served, otherServed] with patience serves otherServes
  simp only [attempt, serves, otherServes]
  exact ⟨record.trans otherRecord.symm, written.trans otherWritten.symm⟩

/-- A word that is written and one that is read, with two bytes of noise before them and one between
them, and then a word of which only a part arrives. -/
def interruptedArrivals : List Arrival :=
  [⟨[0x42, 0xff], .writeWord 0x100 7⟩, ⟨[0x06], .readWord 0x100⟩, ⟨[], .writeWord 0x200 9⟩]

/-- The first two calls are carried out, and nothing of the third is. -/
theorem interruptedArrivals_cut :
    ∀ᶠ patience in atTop,
      let served := attempt (serveFrame Scripted.stream SimulatedSystem.target Logger.keeping
        patience) (busyStation ((arrivalBytes interruptedArrivals ++ [0x7f]).take 25))
      served.1 = .error (.transfer .unexpectedEnd) ∧
        served.2.system.2 = [.write 0x100 7, .read 0x100 7] ∧
        served.2.line.output.toList = [0x02, 0x07, 0x00, 0x00, 0x00] := by
  have settles : (SimulatedSystem.target : Target SimulatedSystem ScriptedError).Settles :=
    SimulatedSystem.settles
  have noisy : Noisy interruptedArrivals := by
    simp only [Noisy, Unknown, interruptedArrivals, List.forall_mem_cons, List.not_mem_nil,
      false_implies, implies_true]
    decide
  have unknown : ∀ byte ∈ [0x7f], Unknown byte :=
    List.forall_mem_singleton.2 (show (0x06 : UInt8) ≤ 0x7f by decide)
  obtain ⟨_, _, cut⟩ := serveFrame_whole_requests Scripted.carries SimulatedSystem.total settles
    keeping_logs busySystem noisy unknown
  obtain ⟨turns, last, error, next, executed, tells, ⟨⟨_, _, written⟩, record⟩, served⟩ :=
    cut 25 _ (busyStation_holds _)
  have ended : error = .unexpectedEnd := tells .closed Scripted.supplies_cut
  obtain ⟨finish, expected⟩ : ∃ finish,
      Executed (SimulatedSystem.target : Target SimulatedSystem ScriptedError).Step busySystem
        (callsWithin interruptedArrivals 25)
        [⟨.done, [.write 0x100 7]⟩, ⟨.word 7, [.read 0x100 7]⟩] finish := by
    refine ⟨_, .next (.writeWord _ _) (.single rfl) (.next (.readWord _ _)
      (.single (SimulatedSystem.read_step _ _ Std.HashMap.getD_insert_self)) (.done _))⟩
  obtain ⟨rfl, rfl⟩ := executed.unique SimulatedSystem.target.deterministic expected
  refine served.mono fun patience serves => ?_
  simp only [attempt, serves, ended]
  exact ⟨trivial, congrArg Prod.snd record, written⟩

end Station

end Bringup
