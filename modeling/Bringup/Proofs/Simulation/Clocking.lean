import Bringup.Proofs.Simulation.Recording
/-!
# How a bench clocks a design

A system bench is used by resets and steps in any order, and a step that fails does not end its use.
The design is any state machine whose outputs stay as they are when an input is set
(`Design.Latches`). What one use does is stated in terms of those before it (`Visit.Follows`): the
events are the scheduled ones, the program ROM answers the address that the use before it has shown,
the controller is asked once in a step, for what the design drives after the rising edge, and its
response stands on the bus at the next one. Main statement: so it is for every use of a fresh bench
(`Visit.fresh_clocked`).

The bench carries what the next use depends on: the time, the cycles, the address, the LEDs and what
stands on the bus. One visit after the other keeps them in line with the visits so far
(`Visit.Reached.next`).
-/

namespace Bringup

open DesignEvent

variable {δ ρ : Type}

/-- The ports that the system drives. -/
def Port.systemOutputs : List Port :=
  [.programRomAddr, .leds, .avlBurstBegin, .avlAddr, .avlWdata, .avlBe, .avlReadReq, .avlWriteReq,
    .avlSize]

/-- Nothing that a bench sets changes an output. -/
def Design.Latches (design : Design δ) : Prop :=
  ∀ output ∈ Port.systemOutputs, ∀ input ∉ Port.systemOutputs, ∀ value state,
    design.get output (design.set input value state) = design.get output state

namespace ProgramRom

/-- The image with zeros behind it, as far as the ROM reaches. -/
def padded (rom : ProgramRom) : List UInt8 :=
  rom.image.toList ++ List.replicate (programRomSize - rom.image.size) 0

/-- The little-endian word of the padded image at a word address. -/
def paddedWord (rom : ProgramRom) (address : UInt32) : UInt32 :=
  LittleEndian.word32 ((rom.padded.drop (4 * (address.toNat % 0x4000))).take 4)

/-- A byte of the ROM is one of the padded image. -/
theorem getElem?_padded (rom : ProgramRom) {offset : Nat} (inside : offset < programRomSize) :
    rom.padded[offset]? = some (rom.byte offset) := by
  unfold padded byte
  rw [List.getElem?_append, Array.getD_eq_getD_getElem?, Array.length_toList]
  by_cases image : offset < rom.image.size
  · rw [if_pos image, Array.getElem?_toList, Array.getElem?_eq_getElem image]
    rfl
  · rw [if_neg image, List.getElem?_replicate_of_lt (by omega),
      Array.getElem?_eq_none (by omega)]
    rfl

/-- A word of the ROM is one of the padded image. -/
theorem word_eq_paddedWord (rom : ProgramRom) (address : UInt32) :
    rom.word address = rom.paddedWord address := by
  have inside : 4 * (address.toNat % 0x4000) + 3 < programRomSize := by
    unfold programRomSize
    omega
  show LittleEndian.word32 _ = LittleEndian.word32 _
  congr 1
  apply List.ext_getElem?
  intro index
  rw [List.getElem?_take]
  show _ = if index < 4 then (rom.padded.drop (4 * (address.toNat % 0x4000)))[index]? else none
  split
  · next four =>
    rw [List.getElem?_drop, rom.getElem?_padded (by omega)]
    match index, four with
    | 0, _ | 1, _ | 2, _ | 3, _ => rfl
  · next past => exact List.getElem?_eq_none (by simpa using past)

end ProgramRom

/-- Designs with the same outputs show the same request. -/
theorem Design.request_congr {design : Design δ} {left right : δ}
    (same : ∀ output ∈ Port.systemOutputs, design.get output left = design.get output right) :
    design.request left = design.request right := by
  unfold request isHigh word
  rw [same .avlBurstBegin (by decide), same .avlAddr (by decide), same .avlWdata (by decide),
    same .avlBe (by decide), same .avlReadReq (by decide), same .avlWriteReq (by decide),
    same .avlSize (by decide)]

namespace DesignEvent

/-- The times at which points are added to the trace, in order. -/
def times (events : List DesignEvent) : List Nat :=
  events.filterMap fun
    | .dump time => some time
    | _ => none

/-- The values that a port is set to, in order. -/
def driven (port : Port) (events : List DesignEvent) : List UInt64 :=
  events.filterMap fun
    | .set other value => if other = port then some value else none
    | _ => none

theorem times_append (first second : List DesignEvent) :
    times (first ++ second) = times first ++ times second :=
  List.filterMap_append

theorem driven_append (port : Port) (first second : List DesignEvent) :
    driven port (first ++ second) = driven port first ++ driven port second :=
  List.filterMap_append

end DesignEvent

namespace MemoryResponse

/-- The response stands on the bus after these events. -/
def Stands (response : MemoryResponse) (events : List DesignEvent) : Prop :=
  ∀ port value, .set port value ∈ response.drives → (driven port events).getLast? = some value

variable {response : MemoryResponse} {past events : List DesignEvent}

/-- Three ports are driven. -/
theorem mem_drives {port : Port} {value : UInt64} : .set port value ∈ response.drives ↔
    port = .avlReady ∧ value = (if response.ready then 1 else 0) ∨
    port = .avlRdata ∧ value = response.data ∨
    port = .avlRdataValid ∧ value = (if response.valid then 1 else 0) := by
  simp [drives]

/-- What is driven onto the bus stands there, whatever came before. -/
theorem Stands.after (stands : response.Stands events) (past : List DesignEvent) :
    response.Stands (past ++ events) := by
  intro port value drives
  rw [driven_append, List.getLast?_append, stands port value drives]
  rfl

/-- A response stands until its ports are driven again. -/
theorem Stands.keep (stands : response.Stands past)
    (quiet : ∀ port ∈ [Port.avlReady, .avlRdata, .avlRdataValid], driven port events = []) :
    response.Stands (past ++ events) := by
  intro port value drives
  have inside : port ∈ [Port.avlReady, .avlRdata, .avlRdataValid] := by
    obtain ⟨rfl, _⟩ | ⟨rfl, _⟩ | ⟨rfl, _⟩ := mem_drives.mp drives <;> decide
  rw [driven_append, quiet port inside, List.append_nil]
  exact stands port value drives

/-- A reset drives a quiet bus. -/
theorem stands_resetEvents (time : Nat) : Stands {} (resetEvents time) := by
  intro port value drives
  obtain ⟨rfl, rfl⟩ | ⟨rfl, rfl⟩ | ⟨rfl, rfl⟩ := mem_drives.mp drives <;> rfl

/-- A cycle drives the response. -/
theorem stands_settlingEvents (response : MemoryResponse) (time : Nat) :
    response.Stands (settlingEvents response time) := by
  intro port value drives
  obtain ⟨rfl, rfl⟩ | ⟨rfl, rfl⟩ | ⟨rfl, rfl⟩ := mem_drives.mp drives <;> rfl

end MemoryResponse

namespace Visit

/-- The design after the first evaluation of a cycle, which is the rising edge of its clock. -/
def risen (design : Design δ) (visit : Visit δ ρ) : δ :=
  design.eval (design.set .clk 1 visit.before.design)

/-- What the controller makes of the request that the design shows after the rising edge. -/
def served (design : Design δ) (visit : Visit δ ρ) : EStateM.Result Violation Ddr3 MemoryResponse :=
  Ddr3.eval (design.request (visit.risen design)) visit.before.ddr3

/-- The word address that the design shows. A reset makes it zero. -/
def romAddress (design : Design δ) (visit : Visit δ ρ) : UInt32 :=
  match visit.call with
  | .reset => 0
  | .step => design.word .programRomAddr (visit.risen design)

/-- The LEDs as they are looked at. -/
def sample (design : Design δ) (visit : Visit δ ρ) : UInt32 :=
  match visit.call with
  | .reset => design.word .leds visit.after.design
  | .step => design.word .leds (visit.risen design)

/-- What is driven onto the bus. A reset drives nothing but zeros. -/
def response? (design : Design δ) (visit : Visit δ ρ) : Option MemoryResponse :=
  match visit.call, visit.served design with
  | .reset, _ => some {}
  | .step, .ok response _ => some response
  | .step, .error _ _ => none

/-- The points that are added to the trace. -/
def points (visit : Visit δ ρ) : Nat :=
  match visit.call, visit.answer with
  | .reset, _ => 3
  | .step, .ok _ => 2
  | .step, .error _ => 0

/-- What is done to the design, with a word from the program ROM. -/
def schedule (design : Design δ) (word : UInt32) (visit : Visit δ ρ) : List DesignEvent :=
  match visit.call, visit.served design with
  | .reset, _ => resetEvents visit.before.time
  | .step, .ok response _ => risingEvents word ++ settlingEvents response visit.before.time
  | .step, .error _ _ => risingEvents word

/-- The result, and the controller after it, if the LEDs showed `previous` before. -/
def outcome (design : Design δ) (previous : UInt32) (visit : Visit δ ρ) :
    Except SimulationError (Option UInt32) × Ddr3 :=
  match visit.call, visit.served design with
  | .reset, _ => (.ok none, visit.before.ddr3)
  | .step, .ok _ ddr3 =>
    (.ok (if visit.sample design = previous then none else some (visit.sample design)), ddr3)
  | .step, .error violation ddr3 => (.error (.protocol visit.after.cycles violation), ddr3)

/-- What a use of the bench is like after those before it, the first of which began at `start`. -/
structure Follows (design : Design δ) (rom : ProgramRom) (start : Observed δ ρ)
    (earlier : List (Visit δ ρ)) (visit : Visit δ ρ) : Prop where
  begins : visit.before = (earlier.map after).getLastD start
  /-- The design is changed by what is done to it, and by nothing else. -/
  done : visit.after.design = visit.events.foldl design.undergo visit.before.design
  /-- The program ROM answers the address that was shown before. -/
  schedule : visit.events =
    visit.schedule design (rom.paddedWord ((earlier.map (·.romAddress design)).getLastD 0))
  /-- No point of the trace is left out or repeated. -/
  times : times ((earlier ++ [visit]).flatMap events) = List.range visit.after.time
  points : visit.after.time = visit.before.time + visit.points
  cycles : visit.after.cycles = ((earlier ++ [visit]).map call).count .step
  outcome : (visit.answer, visit.after.ddr3) =
    visit.outcome design ((earlier.map (·.sample design)).getLastD 0)
  leds : visit.after.leds = visit.sample design
  /-- At the rising edge of a step the last response stands on the bus. -/
  answered : visit.call = .step →
    ∀ response, (earlier.filterMap (·.response? design)).getLast? = some response →
      response.Stands (earlier.flatMap events ++ [.set .clk 1])

variable {design : Design δ} {rom : ProgramRom} {visit : Visit δ ρ}

/-- After the rising edge the outputs stay as they are. -/
theorem get_risen (latches : design.Latches) (before : Observed δ ρ) {output : Port}
    (drives : output ∈ Port.systemOutputs) :
    design.get output (before.risen design rom).design =
      design.get output (design.eval (design.set .clk 1 before.design)) :=
  latches output drives .programRomQ (by decide) _ _

/-- What a recorded design was brought to is what was done to it. -/
theorem events_eq {events : List DesignEvent}
    (done : visit.after.world.1 = events.foldl design.keep visit.before.world.1) :
    visit.events = events := by
  unfold Visit.events Observed.record
  rw [done, Design.record_foldl_keep, List.drop_left]

/-- The bench looks at the LEDs as the rising edge has left them. -/
theorem sample_step (latches : design.Latches) (before : Observed δ ρ)
    (answer : Except SimulationError (Option UInt32)) (after : Observed δ ρ) :
    sample design ⟨.step, before, answer, after⟩ = (before.risen design rom).leds :=
  (congrArg UInt64.toUInt32 (get_risen latches before (by decide))).symm

/-- So it does with the address. -/
theorem romAddress_step (latches : design.Latches) (before : Observed δ ρ)
    (answer : Except SimulationError (Option UInt32)) (after : Observed δ ρ) :
    romAddress design ⟨.step, before, answer, after⟩ = (before.risen design rom).romAddress :=
  (congrArg UInt64.toUInt32 (get_risen latches before (by decide))).symm

/-- And with the request. -/
theorem served_step (latches : design.Latches) (before : Observed δ ρ)
    (answer : Except SimulationError (Option UInt32)) (after : Observed δ ρ) :
    served design ⟨.step, before, answer, after⟩ =
      Ddr3.eval (design.request (before.risen design rom).design) before.ddr3 := by
  have same : design.request (before.risen design rom).design =
      design.request (design.eval (design.set .clk 1 before.design)) := by
    apply Design.request_congr
    intro output drives
    exact get_risen latches before drives
  rw [same]
  rfl

/-- What is done in a cycle that the controller answers. -/
theorem schedule_answered (latches : design.Latches) {before after : Observed δ ρ}
    {answer : Except SimulationError (Option UInt32)} {response : MemoryResponse} {ddr3 : Ddr3}
    (answered : Ddr3.eval (design.request (before.risen design rom).design) before.ddr3 =
      .ok response ddr3) (word : UInt32) :
    schedule design word ⟨.step, before, answer, after⟩ =
      risingEvents word ++ settlingEvents response before.time := by
  unfold schedule
  rw [served_step latches, answered]

/-- What is done in a cycle whose request it cannot serve. -/
theorem schedule_refused (latches : design.Latches) {before after : Observed δ ρ}
    {answer : Except SimulationError (Option UInt32)} {violation : Violation} {ddr3 : Ddr3}
    (refused : Ddr3.eval (design.request (before.risen design rom).design) before.ddr3 =
      .error violation ddr3) (word : UInt32) :
    schedule design word ⟨.step, before, answer, after⟩ = risingEvents word := by
  unfold schedule
  rw [served_step latches, refused]

namespace Clocked

/-- Nothing is done to the design but what is scheduled. -/
theorem done (clocked : visit.Clocked design rom) (latches : design.Latches) :
    visit.after.world.1 =
      (visit.schedule design (rom.word visit.before.romAddress)).foldl design.keep
        visit.before.world.1 := by
  cases clocked with
  | reset => rfl
  | answered before surroundings served =>
    rw [schedule_answered latches served]
    rfl
  | refused before surroundings served =>
    rw [schedule_refused latches served]
    rfl

/-- The result, and the controller. -/
theorem outcome (clocked : visit.Clocked design rom) (latches : design.Latches) :
    (visit.answer, visit.after.ddr3) = visit.outcome design visit.before.leds := by
  cases clocked with
  | reset => rfl
  | answered before surroundings served =>
    unfold Visit.outcome
    rw [served_step latches, served, sample_step latches]
    rfl
  | refused before surroundings served =>
    unfold Visit.outcome
    rw [served_step latches, served]
    rfl

/-- The LEDs that are remembered. -/
theorem leds (clocked : visit.Clocked design rom) (latches : design.Latches) :
    visit.after.leds = visit.sample design := by
  cases clocked with
  | reset => rfl
  | answered => exact (sample_step latches _ _ _).symm
  | refused => exact (sample_step latches _ _ _).symm

/-- The address that is remembered. -/
theorem romAddress (clocked : visit.Clocked design rom) (latches : design.Latches) :
    visit.after.romAddress = visit.romAddress design := by
  cases clocked with
  | reset => rfl
  | answered => exact (romAddress_step latches _ _ _).symm
  | refused => exact (romAddress_step latches _ _ _).symm

/-- The time goes on by the points that are added to the trace. -/
theorem points (clocked : visit.Clocked design rom) :
    visit.after.time = visit.before.time + visit.points := by
  cases clocked <;> rfl

/-- Every step is a cycle. -/
theorem cycles (clocked : visit.Clocked design rom) :
    visit.after.cycles = visit.before.cycles + [visit.call].count .step := by
  cases clocked <;> rfl

/-- The points go on where those before have ended. -/
theorem times (clocked : visit.Clocked design rom) (latches : design.Latches) :
    times visit.events = List.range' visit.before.time visit.points := by
  rw [events_eq (clocked.done latches)]
  cases clocked with
  | reset => rfl
  | answered before surroundings served =>
    rw [schedule_answered latches served]
    rfl
  | refused before surroundings served =>
    rw [schedule_refused latches served]
    rfl

/-- The response stands on the bus after the visit in which it is driven. -/
theorem stands (clocked : visit.Clocked design rom) (latches : design.Latches)
    {response : MemoryResponse} (drives : visit.response? design = some response)
    (past : List DesignEvent) : response.Stands (past ++ visit.events) := by
  rw [events_eq (clocked.done latches)]
  cases clocked with
  | reset =>
    cases drives
    exact (MemoryResponse.stands_resetEvents _).after past
  | answered before surroundings served =>
    unfold response? at drives
    rw [served_step latches, served] at drives
    cases drives
    rw [schedule_answered latches served]
    exact ((MemoryResponse.stands_settlingEvents response before.time).after _).after past
  | refused before surroundings served =>
    unfold response? at drives
    rw [served_step latches, served] at drives
    cases drives

/-- It stands through a visit in which there is none. -/
theorem keeps (clocked : visit.Clocked design rom) (latches : design.Latches)
    (unanswered : visit.response? design = none) {response : MemoryResponse}
    {past : List DesignEvent} (stands : response.Stands past) :
    response.Stands (past ++ visit.events) := by
  rw [events_eq (clocked.done latches)]
  cases clocked with
  | reset => cases unanswered
  | answered before surroundings served =>
    unfold response? at unanswered
    rw [served_step latches, served] at unanswered
    cases unanswered
  | refused before surroundings served =>
    rw [schedule_refused latches served]
    apply stands.keep
    simp [driven, risingEvents]

end Clocked

/-- The bench as the visits to it have left it, the first of which began at `start`. -/
structure Reached (design : Design δ) (start : Observed δ ρ) (earlier : List (Visit δ ρ))
    (state : Observed δ ρ) : Prop where
  here : state = (earlier.map after).getLastD start
  times : DesignEvent.times (earlier.flatMap events) = List.range state.time
  cycles : state.cycles = (earlier.map call).count .step
  romAddress : state.romAddress = (earlier.map (·.romAddress design)).getLastD 0
  leds : state.leds = (earlier.map (·.sample design)).getLastD 0
  stands : ∀ response, (earlier.filterMap (·.response? design)).getLast? = some response →
    response.Stands (earlier.flatMap events)

variable {start : Observed δ ρ} {earlier : List (Visit δ ρ)}

/-- One more visit leaves the bench as all visits together. -/
theorem Reached.next (reached : Reached design start earlier visit.before)
    (clocked : visit.Clocked design rom) (latches : design.Latches) :
    Reached design start (earlier ++ [visit]) visit.after where
  here := by simp
  times := by
    rw [List.flatMap_append, List.flatMap_singleton, times_append, reached.times,
      clocked.times latches, clocked.points, List.range_eq_range', List.range_eq_range',
      ← List.range'_append_1, Nat.zero_add]
  cycles := by
    rw [List.map_append, List.count_append, ← reached.cycles]
    exact clocked.cycles
  romAddress := by simp [clocked.romAddress latches]
  leds := by simp [clocked.leds latches]
  stands := by
    intro response last
    rw [List.flatMap_append, List.flatMap_singleton]
    rw [List.filterMap_append, List.getLast?_append] at last
    cases drives : visit.response? design with
    | some own =>
      simp only [List.filterMap_cons, drives, List.filterMap_nil, List.getLast?_singleton,
        Option.some_or, Option.some.injEq] at last
      subst last
      exact clocked.stands latches drives _
    | none =>
      simp only [List.filterMap_cons, drives, List.filterMap_nil, List.getLast?_nil,
        Option.none_or] at last
      exact clocked.keeps latches drives (reached.stands response last)

/-- A visit to a bench that others have left is one that follows them. -/
theorem Reached.follows (reached : Reached design start earlier visit.before)
    (clocked : visit.Clocked design rom) (latches : design.Latches) :
    Follows design rom start earlier visit where
  begins := reached.here
  done := by
    have brought := congrArg Prod.fst (clocked.done latches)
    rw [Design.design_foldl_keep] at brought
    rw [events_eq (clocked.done latches)]
    exact brought
  schedule := by
    rw [events_eq (clocked.done latches), reached.romAddress, rom.word_eq_paddedWord]
  times := (reached.next clocked latches).times
  points := clocked.points
  cycles := (reached.next clocked latches).cycles
  outcome := by rw [clocked.outcome latches, reached.leds]
  leds := clocked.leds latches
  answered := by
    intro _ response last
    exact (reached.stands response last).keep (by decide)

/-- Visits to a bench that others have left follow them. -/
theorem ofCalls_follow (latches : design.Latches) (log : Logger ρ Empty) (calls : List BenchCall)
    {state : Observed δ ρ} {past : List (Visit δ ρ)} (reached : Reached design start past state)
    {later : List (Visit δ ρ)}
    (split : ofCalls (.observed design log rom) calls state = earlier ++ visit :: later) :
    Follows design rom start (past ++ earlier) visit := by
  -- The visits so far are carried along, as the bench is in line with all of them.
  induction calls generalizing past state earlier with
  | nil => simp [ofCalls] at split
  | cons call calls ih =>
    have clocked := SystemBench.perform_clocked design log rom call state
    cases earlier with
    | nil =>
      cases split
      rw [List.append_nil]
      exact reached.follows clocked latches
    | cons first rest =>
      obtain ⟨rfl, others⟩ := List.cons.inj split
      have follows := ih (reached.next clocked latches) others
      rw [List.append_assoc] at follows
      exact follows

/-- A bench that nobody has used. -/
theorem reached_fresh (state : δ) (surroundings : ρ) (ddr3 : Ddr3) :
    Reached design ⟨((state, []), surroundings), ddr3, 0, 0, 0, 0⟩ []
      ⟨((state, []), surroundings), ddr3, 0, 0, 0, 0⟩ where
  here := rfl
  times := rfl
  cycles := rfl
  romAddress := rfl
  leds := rfl
  stands _ none := nomatch none

/-- The visits are one for each use, with the results and the benches that these leave. -/
theorem ofCalls_perform (bench : Bench ((δ × List DesignEvent) × ρ)) (calls : List BenchCall)
    (state : Observed δ ρ) :
    (ofCalls bench calls state).map call = calls ∧
      (ofCalls bench calls state).map (fun visit => (visit.answer, visit.after)) =
        attemptAll (calls.map (SystemBench.perform bench)) state := by
  induction calls generalizing state with
  | nil => exact ⟨rfl, rfl⟩
  | cons call calls ih =>
    obtain ⟨calls, results⟩ := ih (attempt (SystemBench.perform bench call) state).2
    constructor
    · rw [ofCalls, List.map_cons, calls]
    · rw [ofCalls, List.map_cons, results]
      rfl

/-- However a fresh system bench is used, with any design that latches its inputs, any log that
cannot fail, any program in the ROM and any memory controller, every use follows those before it. -/
theorem fresh_clocked (latches : design.Latches) (log : Logger ρ Empty) (rom : ProgramRom)
    (state : δ) (surroundings : ρ) (ddr3 : Ddr3) (calls : List BenchCall) :
    ∃ visits, visits.map call = calls ∧
      visits.map (fun visit => (visit.answer, visit.after)) =
        attemptAll (calls.map (SystemBench.perform (.observed design log rom)))
          ⟨((state, []), surroundings), ddr3, 0, 0, 0, 0⟩ ∧
      ∀ earlier visit later, visits = earlier ++ visit :: later →
        Follows design rom ⟨((state, []), surroundings), ddr3, 0, 0, 0, 0⟩ earlier visit := by
  obtain ⟨same, results⟩ := ofCalls_perform (.observed design log rom) calls
    ⟨((state, []), surroundings), ddr3, 0, 0, 0, 0⟩
  refine ⟨_, same, results, ?_⟩
  intro earlier visit later split
  exact ofCalls_follow latches log calls (reached_fresh state surroundings ddr3) split

end Visit

/-- Setting a port leaves the others as they are. -/
theorem PortValues.get_set_of_ne (ports : PortValues) {port other : Port} (differ : port ≠ other)
    (value : UInt64) : (ports.set port value).get other = ports.get other := by
  have apart : port.index.val ≠ other.index.val := by
    intro same
    have restored := congrArg Port.ofNat same
    exact differ (((Port.ofNat_ctorIdx port).symm.trans restored).trans (Port.ofNat_ctorIdx other))
  show (ports.values.set _ _)[other.index.val] = ports.values[other.index.val]
  exact Vector.getElem_set_ne _ _ apart

/-- A scripted design changes its outputs only when it is evaluated. -/
theorem ScriptedDesign.latches : ScriptedDesign.design.Latches := by
  intro output drives input sets value state
  have differ : input ≠ output := by
    intro same
    rw [same] at sets
    exact sets drives
  exact state.ports.get_set_of_ne differ value

/-- A scripted design that fetches one word after the other and shows it on its LEDs. -/
def ScriptedDesign.fetching : ScriptedDesign :=
  { ports := .zeros, showsRom := true, stride := some 1 }

/-- A ROM of two words. -/
def ProgramRom.sample : ProgramRom := ⟨#[7, 0, 0, 0, 9, 0, 0, 0], by decide⟩

namespace Visit

/-- A reset and two steps of a design that fetches from a ROM of two words: the first word is shown
in the second step. -/
theorem fetching_clocked : ∃ visits : List (Visit ScriptedDesign Unit),
    visits.map call = [.reset, .step, .step] ∧
    visits.map (·.answer) = [.ok none, .ok none, .ok (some 7)] ∧
    ∀ last ∈ visits.getLast?,
      DesignEvent.times (visits.flatMap events) = List.range last.after.time ∧
      last.after.cycles = 2 := by
  obtain ⟨visits, calls, results, follow⟩ :=
    fresh_clocked ScriptedDesign.latches Logger.silent .sample .fetching () (.fresh 64)
      [.reset, .step, .step]
  have ran : (attemptAll ([.reset, .step, .step].map (SystemBench.perform
      (.observed ScriptedDesign.design (Logger.silent : Logger Unit Empty) .sample)))
      ⟨((.fetching, []), ()), .fresh 64, 0, 0, 0, 0⟩).map Prod.fst =
      [.ok none, .ok none, .ok (some 7)] := by rfl
  have answers := congrArg (List.map Prod.fst) results
  rw [ran, List.map_map] at answers
  refine ⟨visits, calls, answers, ?_⟩
  intro last atEnd
  obtain ⟨earlier, split⟩ := List.getLast?_eq_some_iff.mp atEnd
  have follows := follow earlier last [] split
  have counted := follows.cycles
  rw [← split, calls] at counted
  have times := follows.times
  rw [← split] at times
  exact ⟨times, counted⟩

end Visit

end Bringup
