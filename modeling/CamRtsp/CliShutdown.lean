import CamRtsp.CliProcess
import CamRtsp.Foundation.CallContract
import CamRtsp.SystemConnections

namespace CamRtsp

open RustText
open Broadcaster (Operation)

/-!
# The end of the command line program

However camera, server and user behave, the poll loop is left for one of four
reasons, the server is told to stop behind it and not before, the camera is
stopped once, and `run` returns when every thread of the server has ended.
-/

/-! ## What a log says about the statistics -/

namespace Broadcaster

/-- The moment of a publication. -/
def Operation.publishedAt? : Operation → Option Instant
  | .publish _ now => some now
  | _ => none

/-- The operation sets parameter sets. -/
def Operation.configures : Operation → Bool
  | .setCodecConfig _ => true
  | _ => false

/-- The moment of the last publication. -/
def lastPublication (operations : List Operation) : Option Instant :=
  (operations.filterMap Operation.publishedAt?).getLast?

/-- Parameter sets were set, and something was published. -/
def Ready (operations : List Operation) : Prop :=
  operations.any Operation.configures = true ∧
    (lastPublication operations).isSome = true

section Log

variable {broadcaster : Broadcaster}

/-- Only a publication sets the moment of the last frame. -/
theorem lastFrame_step (operation : Operation) :
    (broadcaster.step operation).state.lastFrame =
      operation.publishedAt?.or broadcaster.state.lastFrame := by
  cases operation with
  | setCodecConfig codec =>
      rw [state_setCodecConfig]
      rfl
  | recvTimeout id =>
      rw [state_recvTimeout]
      rfl
  | _ =>
      rfl

/-- Parameter sets stay set. -/
theorem isSome_codec_step (operation : Operation) :
    (broadcaster.step operation).state.codec.isSome =
      (operation.configures || broadcaster.state.codec.isSome) := by
  rw [codec_step]
  cases operation <;> rfl

/-- The moment of the last frame is that of the last publication. -/
theorem lastFrame_run (operations : List Operation) :
    (initial.run operations).state.lastFrame =
      lastPublication operations := by
  induction operations using List.reverseRecOn with
  | nil =>
      rfl
  | append_singleton operations operation inductionHypothesis =>
      rw [run_concat, lastFrame_step, inductionHypothesis,
        lastPublication, lastPublication, List.filterMap_append]
      cases published : operation.publishedAt? <;> simp [published]

/-- There are parameter sets when some have been set. -/
theorem isSome_codec_run (operations : List Operation) :
    (initial.run operations).state.codec.isSome =
      operations.any Operation.configures := by
  induction operations using List.reverseRecOn with
  | nil =>
      rfl
  | append_singleton operations operation inductionHypothesis =>
      rw [run_concat, isSome_codec_step, inductionHypothesis,
        List.any_append, Bool.or_comm]
      simp

/-- The statistics report that the stream is ready. -/
theorem ready_stats_run (operations : List Operation) (now : Instant) :
    ((initial.run operations).stats now).ready = true ↔
      Ready operations := by
  simp only [stats, Bool.and_eq_true, isSome_codec_run, lastFrame_run,
    Ready]

/-- A stream that is ready stays ready. -/
theorem Ready.append
    {operations : List Operation}
    (ready : Ready operations)
    (later : List Operation) :
    Ready (operations ++ later) := by
  refine ⟨by simp [ready.1], ?_⟩
  rw [lastPublication, List.filterMap_append, List.getLast?_append]
  cases (later.filterMap Operation.publishedAt?).getLast? with
  | none =>
      exact ready.2
  | some last =>
      rfl

end Log

end Broadcaster

/-! ## What a step of the server can do -/

namespace RunUntil

/-- The result with which the loop was left. -/
def Point.result? : Point → Option (Except IoError Unit)
  | .closing result _ => some result
  | .joining result => some result
  | .returned result => some result
  | _ => none

namespace Server

variable {server : Server}

/-- The loop is left without an error only when it is told to stop. -/
theorem result?_step
    (surroundings : Surroundings)
    (ended : (server.step surroundings).point.result? = some (.ok ())) :
    server.point.result? = some (.ok ()) ∨ surroundings.stopping = true := by
  cases here : server.point with
  | entering =>
      simp only [step, here] at ended
      split at ended <;> cases ended
  | testing =>
      simp only [step, here] at ended
      split at ended
      · rename_i told
        exact .inr told
      · cases ended
  | reaping index =>
      simp only [step, here, reap] at ended
      split at ended
      · cases ended
      · split at ended
        · simp only at ended
          cases ended
        · cases ended
  | accepting =>
      simp only [step, here] at ended
      unfold accept at ended
      split at ended
      · split at ended
        · cases ended
        · split at ended <;> cases ended
      · split at ended
        · cases ended
        · split at ended <;> cases ended
  | closing result index =>
      simp only [step, here] at ended
      split at ended <;> exact .inl ended
  | joining result =>
      simp only [step, here] at ended
      split at ended
      · exact .inl ended
      · split at ended
        · exact .inl ended
        · rw [here] at ended
          exact .inl ended
  | returned result =>
      simp only [step, here] at ended
      exact .inl ended

end Server

end RunUntil

namespace ServerSystem

open RunUntil (Point)

/-- Worker number so and so has been spawned for that server. -/
def Serves (config : ServerConfig) (system : System) : Prop :=
  ∀ thread ∈ system.threads, thread.connection.server = config

section Steps

variable {system : System}

/-- A piece of a thread leaves the loop where it is. -/
theorem point_change
    (number : Nat)
    (piece : Thread → Worker × List Operation) :
    (system.change number piece).loop.point = system.loop.point := by
  rw [System.change]
  split
  · rfl
  · simp only [System.perform]
    split
    · rw [RunUntil.Server.finish]
      split <;> rfl
    · rfl

/-- Only its own steps move the loop. -/
theorem point_step (system : System) (event : Event) :
    (system.step event).loop.point = system.loop.point ∨
      ∃ surroundings connection opening,
        event = .loop surroundings connection opening ∧
          (system.step event).loop.point =
            (system.loop.step surroundings).point := by
  cases event with
  | capture operation =>
      rw [System.step]
      split <;> exact .inl rfl
  | loop surroundings connection opening =>
      exact .inr ⟨surroundings, connection, opening, rfl, rfl⟩
  | read number outcome surroundings =>
      exact .inl (point_change number _)
  | advance number =>
      exact .inl (point_change number _)

/-- A server that has returned has returned for good. -/
theorem returned_step
    {result : Except IoError Unit}
    (returned : system.loop.point = .returned result)
    (event : Event) :
    (system.step event).loop.point = .returned result := by
  rcases point_step system event with same | ⟨_, _, _, _, moved⟩
  · rw [same, returned]
  · rw [moved, RunUntil.Server.step, returned]
    exact returned

/-- The log only grows. -/
theorem log_step (system : System) (event : Event) :
    system.log <+: (system.step event).log := by
  have changed (number : Nat) (piece : Thread → Worker × List Operation) :
      system.log <+: (system.change number piece).log := by
    rw [System.change]
    split
    · exact List.prefix_refl _
    · exact List.prefix_append _ _
  cases event with
  | capture operation =>
      rw [System.step]
      split
      · exact List.prefix_append _ _
      · exact List.prefix_refl _
  | loop surroundings connection opening =>
      exact List.prefix_refl _
  | read number outcome surroundings =>
      exact changed number _
  | advance number =>
      exact changed number _

/-- A piece of a thread does not change its connection. -/
theorem Serves.change
    {config : ServerConfig}
    (serves : Serves config system)
    (number : Nat)
    (piece : Thread → Worker × List Operation) :
    Serves config (system.change number piece) := by
  rw [System.change]
  split
  · exact serves
  · rename_i thread found
    intro other member
    rcases List.mem_or_eq_of_mem_set member with before | rfl
    · exact serves other before
    · exact serves thread (List.mem_of_getElem? found)

/-- A new thread serves the connection that was accepted. -/
theorem Serves.step
    {config : ServerConfig}
    (serves : Serves config system)
    {event : Event}
    (accepted :
      ∀ surroundings connection opening,
        event = .loop surroundings connection opening →
          connection.server = config) :
    Serves config (system.step event) := by
  cases event with
  | capture operation =>
      rw [System.step]
      split <;> exact serves
  | loop surroundings connection opening =>
      intro thread member
      simp only [System.step] at member
      split at member
      · rcases List.mem_append.mp member with before | isNew
        · exact serves thread before
        · rw [List.mem_singleton.mp isNew]
          exact accepted surroundings connection opening rfl
      · exact serves thread member
  | read number outcome surroundings =>
      exact serves.change number _
  | advance number =>
      exact serves.change number _

end Steps

end ServerSystem

namespace Cli

open StepTrace
open Broadcaster (Ready lastPublication)
open ServerSystem (Serves)

/-! ## The positions -/

/-- How the camera is in use. -/
inductive CameraPhase where
  | off
  | failed
  | on
  | stopped

/-- The camera is started once, asked for keyframes, and stopped once. -/
inductive CameraContract (setting : Setting) :
    CameraPhase → CameraCall → CameraPhase → Prop where
  | started :
      CameraContract setting .off
        (.start setting.camera.id setting.config true) .on
  | failed :
      CameraContract setting .off
        (.start setting.camera.id setting.config false) .failed
  | requested : CameraContract setting .on .requestKeyframe .on
  | stopped : CameraContract setting .on .stop .stopped

namespace Position

/-- How the camera is in use at a position. -/
def camera : Position → CameraPhase
  | .starting => .off
  | .refused _ => .failed
  | .joining _ _ => .stopped
  | .returned _ _ _ => .stopped
  | _ => .on

/-- The stop flag has been set. -/
def hasSignalled : Position → Bool
  | .stopping _ => true
  | .joining _ _ => true
  | .returned _ _ _ => true
  | _ => false

/-- The result with which the poll loop was left. -/
def left? : Position → Option (Except Failure Unit)
  | .leaving left => some left
  | .stopping left => some left
  | .joining left _ => some left
  | .returned left _ _ => some left
  | _ => none

/-- The variable `announced`, before and in the poll loop. -/
def announced? : Position → Option Bool
  | .selecting watch => some watch.announced
  | .checking watch => some watch.announced
  | .taking watch => some watch.announced
  | .requesting watch => some watch.announced
  | .reading watch => some watch.announced
  | .leaving _ => none
  | .stopping _ => none
  | .joining _ _ => none
  | .returned _ _ _ => none
  | _ => some false

end Position

/-! ## Why the poll loop is left -/

/--
The stream is not ready 15 seconds behind the start, or the last publication is
more than 15 seconds old.
-/
def Silent
    (operations : List Operation)
    (started statsAt now : Instant) : Prop :=
  (¬ Ready operations ∧ seconds 15 < elapsed started now) ∨
    ∃ last ∈ lastPublication operations,
      15000 < UInt64.ofNat (elapsed last statsAt / milliseconds 1)

/-- The test of the poll loop, for a stream announced as soon as ready. -/
theorem isStalled_iff
    (operations : List Operation)
    (announced : Bool)
    (wasReady : announced = true → Ready operations)
    (started statsAt now : Instant)
    {stats : StreamStats}
    (isStats :
      (Broadcaster.initial.run operations).stats statsAt = stats) :
    isStalled (announced || stats.ready) started now stats = true ↔
      Silent operations started statsAt now := by
  have ready : stats.ready = true ↔ Ready operations := by
    rw [← isStats]
    exact Broadcaster.ready_stats_run operations statsAt
  have unannounced :
      (!(announced || stats.ready)) = true ↔ ¬ Ready operations := by
    rw [Bool.not_eq_true', Bool.or_eq_false_iff, ← ready]
    constructor
    · rintro ⟨_, notReady⟩
      simp [notReady]
    · intro notReady
      refine ⟨?_, by simpa using notReady⟩
      cases announced with
      | false =>
          rfl
      | true =>
          exact absurd (ready.mpr (wasReady rfl)) notReady
  have age :
      (stats.lastFrameAgeMs.any fun age => decide (15000 < age)) = true ↔
        ∃ last ∈ lastPublication operations,
          15000 < UInt64.ofNat (elapsed last statsAt / milliseconds 1) := by
    simp only [← isStats, Broadcaster.stats, Broadcaster.lastFrame_run]
    cases lastPublication operations <;> simp
  rw [isStalled, Bool.or_eq_true, Bool.and_eq_true, unannounced, age,
    decide_eq_true_eq, Silent]

/-- Why the poll loop was left with a result. -/
inductive Reason (events : List Event) (system : ServerSystem.System) :
    Except Failure Unit → Prop where
  | noRuntime
      (response : Response)
      (error : IoError)
      (member : .main response ∈ events)
      (failed : response.runtime = .error error) :
      Reason events system (.error (.io error))
  | interrupted
      (response : Response)
      (result : Except IoError Unit)
      (member : .main response ∈ events)
      (interrupt : response.interrupt = some result) :
      Reason events system (result.mapError .io)
  | serverEnded
      (error : IoError)
      (returned : system.loop.point = .returned (.error error)) :
      Reason events system (.error serverEnded)
  | stalled
      (earlier : List Operation)
      (started statsAt now : Instant)
      (front : earlier <+: system.log.map Prod.snd)
      (silent : Silent earlier started statsAt now) :
      Reason events system (.error cameraStalled)

/-- A reason stays one. -/
theorem Reason.later
    {events later : List Event}
    {before after : ServerSystem.System}
    {left : Except Failure Unit}
    (reason : Reason events before left)
    (grows : events ⊆ later)
    (log : before.log <+: after.log)
    (returned :
      ∀ result, before.loop.point = .returned result →
        after.loop.point = .returned result) :
    Reason later after left := by
  cases reason with
  | noRuntime response error member failed =>
      exact .noRuntime response error (grows member) failed
  | interrupted response result member interrupt =>
      exact .interrupted response result (grows member) interrupt
  | serverEnded error ended =>
      exact .serverEnded error (returned _ ended)
  | stalled earlier started statsAt now front silent =>
      exact .stalled earlier started statsAt now
        (front.trans (log.map Prod.snd)) silent

/-! ## The invariant -/

/-- What holds behind every sequence of steps. -/
structure Inv
    (setting : Setting)
    (events : List Event)
    (process : Process) : Prop where
  fixed : process.setting = setting
  isRun :
    ∃ steps, process.system = ServerSystem.System.initial.run steps
  serves : Serves setting.server process.system
  before :
    process.position.isBefore = true →
      process.system.loop = .initial ∧ process.system.threads = []
  flag : process.stopping = process.position.hasSignalled
  unasked :
    process.system.loop.point.result? = some (.ok ()) →
      process.stopping = true
  announced :
    ∀ announced, process.position.announced? = some announced →
      (announced = true ↔ process.announcements ≠ [])
  once : process.announcements.length ≤ 1
  ready :
    process.announcements ≠ [] →
      Ready (process.system.log.map Prod.snd)
  texts :
    ∀ printed ∈ process.announcements, ∃ negotiated probed,
      printed = announcement setting negotiated probed
  reason :
    ∀ left, process.position.left? = some left →
      Reason events process.system left
  served :
    ∀ left captured served,
      process.position = .returned left captured served →
        process.system.loop.point = .returned served

section Steps

variable {setting : Setting}
variable {events : List Event}
variable {process : Process}

/-- The operations so far have led to the broadcaster. -/
theorem Inv.logged (inv : Inv setting events process) :
    process.system.broadcaster =
      Broadcaster.initial.run (process.system.log.map Prod.snd) := by
  obtain ⟨steps, isRun⟩ := inv.isRun
  rw [isRun]
  exact (ServerSystem.traced_initial.run ServerSystem.sound_initial
    steps).logged

/-- Nothing has happened. -/
theorem inv_initial (setting : Setting) :
    Inv setting [] (.initial setting) where
  fixed := rfl
  isRun := ⟨[.capture (.setFrameRate setting.config.requestedFps 1)], rfl⟩
  serves := by
    intro thread member
    cases member
  before := fun _ => ⟨rfl, rfl⟩
  flag := rfl
  unasked := by
    intro ended
    cases ended
  announced := by
    rintro announced isFalse
    cases isFalse
    simp [Process.initial]
  once := Nat.zero_le 1
  ready := by simp [Process.initial]
  texts := by simp [Process.initial]
  reason := by
    intro left isLeft
    cases isLeft
  served := by
    intro left captured served returned
    cases returned

/-- A step of the system under the process. -/
theorem Inv.system
    (inv : Inv setting events process)
    (event : Event)
    (step : ServerSystem.Event)
    (loops :
      ∀ surroundings connection opening,
        step = .loop surroundings connection opening →
          process.position.isBefore = false ∧
            connection.server = setting.server ∧
              (surroundings.stopping = true → process.stopping = true)) :
    Inv setting (events ++ [event])
      { process with system := process.system.step step } where
  fixed := inv.fixed
  isRun := by
    obtain ⟨steps, isRun⟩ := inv.isRun
    refine ⟨steps ++ [step], ?_⟩
    simp only [isRun, ServerSystem.System.run, List.foldl_append]
    rfl
  serves :=
    inv.serves.step fun surroundings connection opening isLoop =>
      (loops surroundings connection opening isLoop).2.1
  before isBefore := by
    obtain ⟨loop, threads⟩ := inv.before isBefore
    cases step with
    | capture operation =>
        rw [ServerSystem.System.step]
        split <;> exact ⟨loop, threads⟩
    | loop surroundings connection opening =>
        obtain ⟨behind, _⟩ := loops surroundings connection opening rfl
        rw [isBefore] at behind
        cases behind
    | read number outcome surroundings =>
        simp [ServerSystem.System.step, ServerSystem.System.change, loop,
          threads]
    | advance number =>
        simp [ServerSystem.System.step, ServerSystem.System.change, loop,
          threads]
  flag := inv.flag
  unasked ended := by
    rcases ServerSystem.point_step process.system step with
      same | ⟨surroundings, connection, opening, isLoop, moved⟩
    · rw [same] at ended
      exact inv.unasked ended
    · rw [moved] at ended
      rcases RunUntil.Server.result?_step surroundings ended with
        before | told
      · exact inv.unasked before
      · exact (loops surroundings connection opening isLoop).2.2 told
  announced := inv.announced
  once := inv.once
  ready isAnnounced := by
    obtain ⟨later, split⟩ :=
      (ServerSystem.log_step process.system step).map Prod.snd
    rw [← split]
    exact (inv.ready isAnnounced).append later
  texts := inv.texts
  reason left isLeft :=
    (inv.reason left isLeft).later (List.subset_append_left _ _)
      (ServerSystem.log_step process.system step)
      fun _ returned => ServerSystem.returned_step returned step
  served left captured served returned :=
    ServerSystem.returned_step
      (inv.served left captured served returned) step

/-- Nothing happens. -/
theorem Inv.later (inv : Inv setting events process) (event : Event) :
    Inv setting (events ++ [event]) process :=
  { inv with
    reason := fun left isLeft =>
      (inv.reason left isLeft).later (List.subset_append_left _ _)
        (List.prefix_refl _) fun _ returned => returned }

/-- The main thread goes on. -/
theorem Inv.move
    (inv : Inv setting events process)
    (calls : List CameraCall)
    {position : Position}
    (behind :
      position.isBefore = true → process.position.isBefore = true)
    (signalled : position.hasSignalled = process.position.hasSignalled)
    (announced :
      ∀ announced, position.announced? = some announced →
        process.position.announced? = some announced)
    (reason :
      ∀ left, position.left? = some left →
        Reason events process.system left)
    (served :
      ∀ left captured served,
        position = .returned left captured served →
          process.system.loop.point = .returned served) :
    Inv setting events
      { process with calls := calls, position := position } :=
  { inv with
    before := fun isBefore => inv.before (behind isBefore)
    flag := inv.flag.trans signalled.symm
    announced := fun flag isFlag =>
      inv.announced flag (announced flag isFlag)
    reason := reason
    served := served }

/-- The main thread goes on, to a position in the loop or before it. -/
theorem Inv.goOn
    (inv : Inv setting events process)
    (calls : List CameraCall)
    {position : Position}
    {announced : Bool}
    (behind :
      position.isBefore = true → process.position.isBefore = true)
    (here : process.position.announced? = some announced)
    (goesTo : position.announced? = some announced) :
    Inv setting events
      { process with calls := calls, position := position } := by
  have inside
      {place : Position}
      (isPlace : place.announced? = some announced) :
      place.hasSignalled = false ∧ place.left? = none ∧
        ∀ left captured served, place ≠ .returned left captured served := by
    cases place <;> first | exact ⟨rfl, rfl, by simp⟩ | cases isPlace
  obtain ⟨quiet, staying, notReturned⟩ := inside goesTo
  refine inv.move calls behind (quiet.trans (inside here).1.symm) ?_ ?_ ?_
  · intro flag isFlag
    rw [here, ← isFlag, goesTo]
  · intro left isLeft
    rw [staying] at isLeft
    cases isLeft
  · intro left captured served returned
    exact absurd returned (notReturned left captured served)

/-- The main thread leaves the loop. -/
theorem Inv.leave
    (inv : Inv setting events process)
    {left : Except Failure Unit}
    (quiet : process.position.hasSignalled = false)
    (reason : Reason events process.system left) :
    Inv setting events { process with position := .leaving left } := by
  refine inv.move process.calls ?_ quiet.symm ?_ ?_ ?_
  · intro isBefore
    cases isBefore
  · intro flag isFlag
    cases isFlag
  · rintro _ ⟨⟩
    exact reason
  · intro left captured served returned
    cases returned

/-- A round of the poll loop ends. -/
theorem Inv.read
    (inv : Inv setting events process)
    {watch : Watch}
    (here : process.position = .reading watch)
    (response : Response) :
    Inv setting events (process.read watch response) := by
  have known : process.position.announced? = some watch.announced := by
    rw [here]
    rfl
  have isAnnounced := inv.announced watch.announced known
  have quiet : process.position.hasSignalled = false := by
    rw [here]
    rfl
  generalize isStats :
    process.system.broadcaster.stats response.statsAt = stats
  have ready :
      stats.ready = true ↔ Ready (process.system.log.map Prod.snd) := by
    rw [← isStats, inv.logged]
    exact Broadcaster.ready_stats_run _ _
  let printed : List Announcement :=
    if !watch.announced && stats.ready then
      process.announcements ++
        [announcement process.setting watch.negotiated response.probed]
    else
      process.announcements
  have printedInv :
      printed.length ≤ 1 ∧
        (printed ≠ [] → Ready (process.system.log.map Prod.snd)) ∧
          (∀ item ∈ printed, ∃ negotiated probed,
            item = announcement setting negotiated probed) ∧
            ((watch.announced || stats.ready) = true ↔ printed ≠ []) := by
    simp only [printed]
    split
    · rename_i announces
      obtain ⟨isNew, isReady⟩ := Bool.and_eq_true_iff.mp announces
      have nothing : process.announcements = [] := by
        by_contra something
        rw [isAnnounced.mpr something] at isNew
        cases isNew
      simp [nothing, isReady, ready.mp isReady, inv.fixed]
    · rename_i silent
      refine ⟨inv.once, inv.ready, inv.texts, ?_⟩
      rw [← isAnnounced, Bool.or_eq_true]
      refine ⟨?_, .inl⟩
      rintro (wasAnnounced | isReady)
      · exact wasAnnounced
      · by_contra unannounced
        rw [Bool.not_eq_true] at unannounced
        exact silent (by rw [unannounced, isReady]; rfl)
  have announcing (position : Position)
      (behind : position.isBefore = false)
      (signalled : position.hasSignalled = false)
      (announced :
        ∀ flag, position.announced? = some flag →
          flag = (watch.announced || stats.ready))
      (reason :
        ∀ left, position.left? = some left →
          Reason events process.system left)
      (served :
        ∀ left captured served,
          position ≠ .returned left captured served) :
      Inv setting events
        { process with announcements := printed, position := position } :=
    { inv with
      before := by
        intro isBefore
        rw [behind] at isBefore
        cases isBefore
      flag := inv.flag.trans (quiet.trans signalled.symm)
      announced := by
        intro flag isFlag
        rw [announced flag isFlag]
        exact printedInv.2.2.2
      once := printedInv.1
      ready := printedInv.2.1
      texts := printedInv.2.2.1
      reason := reason
      served := fun left captured result returned =>
        absurd returned (served left captured result) }
  simp only [Process.read, isStats]
  split
  · rename_i isSilent
    refine announcing _ rfl rfl ?_ ?_ ?_
    · intro flag isFlag
      cases isFlag
    · rintro _ ⟨⟩
      rw [inv.logged] at isStats
      refine .stalled _ _ _ _ (List.prefix_refl _)
        ((isStalled_iff _ watch.announced ?_ _ _ _ isStats).mp isSilent)
      exact fun wasAnnounced => inv.ready (isAnnounced.mp wasAnnounced)
    · intro left captured served returned
      cases returned
  · refine announcing _ rfl rfl ?_ ?_ ?_
    · rintro flag ⟨⟩
      rfl
    · intro left isLeft
      cases isLeft
    · intro left captured served returned
      cases returned

/-- A step of the main thread. -/
theorem Inv.main
    (inv : Inv setting events process)
    (response : Response) :
    Inv setting (events ++ [.main response]) (process.main response) := by
  have still := inv.later (.main response)
  have member : .main response ∈ events ++ [.main response] := by simp
  have operates (operation : Operation)
      (isOwn : ServerSystem.isCapture operation = true) :
      Inv setting (events ++ [.main response])
        { process with
          system := process.system.perform none [operation] } := by
    have stepped :=
      inv.system (.main response) (.capture operation)
        (by
          intro surroundings connection opening isLoop
          cases isLoop)
    rwa [ServerSystem.System.step, if_pos isOwn] at stepped
  cases here : process.position with
  | starting =>
      simp only [Process.main, here]
      cases response.start with
      | error message =>
          exact still.goOn _
            (fun _ => by rw [here]; rfl) (by rw [here]; rfl) rfl
      | ok negotiated =>
          exact still.goOn _
            (fun _ => by rw [here]; rfl) (by rw [here]; rfl) rfl
  | refused message =>
      simp only [Process.main, here]
      exact still
  | rating negotiated =>
      simp only [Process.main, here]
      exact (operates (.setFrameRate _ _) rfl).goOn _
        (fun _ => by simp only [here]; rfl) (by simp only [here]; rfl) rfl
  | spawning negotiated =>
      simp only [Process.main, here]
      exact still.goOn _
        (fun isBefore => by cases isBefore) (by rw [here]; rfl) rfl
  | building negotiated =>
      simp only [Process.main, here]
      cases failed : response.runtime with
      | error error =>
          exact still.leave (by rw [here]; rfl)
            (.noRuntime response error member failed)
      | ok _ =>
          exact still.goOn _
            (fun isBefore => by cases isBefore) (by rw [here]; rfl) rfl
  | selecting watch =>
      simp only [Process.main, here]
      cases interrupt : response.interrupt with
      | none =>
          exact still.goOn _
            (fun isBefore => by cases isBefore) (by rw [here]; rfl) rfl
      | some result =>
          exact still.leave (by rw [here]; rfl)
            (.interrupted response result member interrupt)
  | checking watch =>
      have onward :
          Inv setting (events ++ [.main response])
            { process with position := .taking watch } :=
        still.goOn _
          (fun isBefore => by cases isBefore) (by rw [here]; rfl) rfl
      simp only [Process.main, here]
      cases point : process.system.loop.point with
      | returned served =>
          simp only
          split
          · refine still.leave (by rw [here]; rfl) ?_
            cases served with
            | error error =>
                exact .serverEnded error point
            | ok _ =>
                -- Nobody has told the server to stop yet.
                have told := inv.unasked (by rw [point]; rfl)
                rw [inv.flag, here] at told
                cases told
          · exact onward
      | _ =>
          exact onward
  | taking watch =>
      have taken := operates .takeKeyframeRequest rfl
      simp only [Process.main, here]
      split
      · exact taken.goOn _
          (fun isBefore => by cases isBefore) (by simp only [here]; rfl) rfl
      · exact taken.goOn _
          (fun isBefore => by cases isBefore) (by simp only [here]; rfl) rfl
  | requesting watch =>
      simp only [Process.main, here]
      exact still.goOn _
        (fun isBefore => by cases isBefore) (by rw [here]; rfl) rfl
  | reading watch =>
      simp only [Process.main, here]
      exact still.read here response
  | leaving left =>
      simp only [Process.main, here]
      exact {
        still with
        before := fun isBefore => by cases isBefore
        flag := rfl
        unasked := fun _ => rfl
        announced := fun flag isFlag => by cases isFlag
        reason := by
          rintro _ ⟨⟩
          exact still.reason left (by rw [here]; rfl)
        served := fun left captured served returned => by cases returned }
  | stopping left =>
      simp only [Process.main, here]
      refine still.move _ ?_ ?_ ?_ ?_ ?_
      · intro isBefore
        cases isBefore
      · rw [here]
        rfl
      · intro flag isFlag
        cases isFlag
      · rintro _ ⟨⟩
        exact still.reason left (by rw [here]; rfl)
      · intro left captured served returned
        cases returned
  | joining left captured =>
      simp only [Process.main, here]
      cases point : process.system.loop.point with
      | returned served =>
          refine still.move process.calls ?_ ?_ ?_ ?_ ?_
          · intro isBefore
            cases isBefore
          · rw [here]
            rfl
          · intro flag isFlag
            cases isFlag
          · rintro _ ⟨⟩
            exact still.reason left (by rw [here]; rfl)
          · rintro _ _ _ ⟨⟩
            exact point
      | _ =>
          exact still
  | returned left captured served =>
      simp only [Process.main, here]
      exact still

/-- A step of the server. -/
theorem Inv.serve
    (inv : Inv setting events process)
    (step : ServerSystem.Event) :
    Inv setting (events ++ [.server step]) (process.serve step) := by
  cases step with
  | capture operation =>
      exact inv.later _
  | loop surroundings connection opening =>
      rw [Process.serve]
      split
      · exact inv.later _
      · rename_i behind
        refine inv.system _ _ ?_
        rintro _ _ _ ⟨⟩
        refine ⟨Bool.eq_false_iff.mpr behind, by rw [inv.fixed], ?_⟩
        intro told
        exact (Bool.and_eq_true_iff.mp told).2
  | read number outcome surroundings =>
      exact inv.system _ _ fun _ _ _ isLoop => by cases isLoop
  | advance number =>
      exact inv.system _ _ fun _ _ _ isLoop => by cases isLoop

/-- Every step keeps the invariant. -/
theorem Inv.step (inv : Inv setting events process) (event : Event) :
    Inv setting (events ++ [event]) (process.step event) := by
  cases event with
  | main response =>
      exact inv.main response
  | sink operation =>
      rw [Process.step]
      split
      · rename_i isOwn
        have isCapture : ServerSystem.isCapture operation = true := by
          cases operation <;> first | rfl | cases isOwn
        have stepped :=
          inv.system (.sink operation) (.capture operation)
            (by
              intro surroundings connection opening isLoop
              cases isLoop)
        rwa [ServerSystem.System.step, if_pos isCapture] at stepped
      · exact inv.later _
  | server step =>
      exact inv.serve step

/-- Every run keeps the invariant. -/
theorem inv_run (setting : Setting) (events : List Event) :
    Inv setting events ((Process.initial setting).run events) := by
  induction events using List.reverseRecOn with
  | nil =>
      exact inv_initial setting
  | append_singleton events event inductionHypothesis =>
      have stepped := inductionHypothesis.step event
      rwa [Process.run, List.foldl_append]

end Steps

/-! ## The camera -/

/-- A step without a call of the camera. -/
theorem calls_serve (process : Process) (step : ServerSystem.Event) :
    (process.serve step).calls = process.calls ∧
      (process.serve step).position = process.position ∧
        (process.serve step).setting = process.setting := by
  cases step with
  | loop surroundings connection opening =>
      rw [Process.serve]
      split <;> exact ⟨rfl, rfl, rfl⟩
  | _ =>
      exact ⟨rfl, rfl, rfl⟩

/-- The camera is in use as the position says. -/
def KnowsCamera
    (setting : Setting)
    (process : Process)
    (phase : CameraPhase) : Prop :=
  process.setting = setting ∧ process.position.camera = phase

section Camera

variable {setting : Setting}
variable {process : Process}
variable {phase : CameraPhase}

/-- Every step of the main thread keeps to the contract. -/
theorem camera_main
    (knows : KnowsCamera setting process phase)
    (response : Response) :
    CallContract.Continues Process.calls (CameraContract setting)
      (KnowsCamera setting) phase process (process.main response) := by
  obtain ⟨rfl, rfl⟩ := knows
  cases here : process.position with
  | starting =>
      simp only [Process.main, here]
      cases response.start with
      | error message =>
          exact .once _ rfl .failed ⟨rfl, rfl⟩
      | ok negotiated =>
          exact .once _ rfl .started ⟨rfl, rfl⟩
  | building negotiated =>
      simp only [Process.main, here]
      cases response.runtime <;> exact .silent rfl ⟨rfl, rfl⟩
  | selecting watch =>
      simp only [Process.main, here]
      cases response.interrupt <;> exact .silent rfl ⟨rfl, rfl⟩
  | checking watch =>
      simp only [Process.main, here]
      cases process.system.loop.point with
      | returned served =>
          simp only
          split <;> exact .silent rfl ⟨rfl, rfl⟩
      | _ =>
          exact .silent rfl ⟨rfl, rfl⟩
  | taking watch =>
      simp only [Process.main, here]
      split <;> exact .silent rfl ⟨rfl, rfl⟩
  | requesting watch =>
      simp only [Process.main, here]
      exact .once _ rfl .requested ⟨rfl, rfl⟩
  | reading watch =>
      simp only [Process.main, here, Process.read]
      split <;> exact .silent rfl ⟨rfl, rfl⟩
  | stopping left =>
      simp only [Process.main, here]
      exact .once _ rfl .stopped ⟨rfl, rfl⟩
  | joining left captured =>
      simp only [Process.main, here]
      cases process.system.loop.point with
      | returned served =>
          exact .silent rfl ⟨rfl, rfl⟩
      | _ =>
          exact .silent rfl ⟨rfl, by rw [here]⟩
  | refused message | returned left captured served =>
      simp only [Process.main, here]
      exact .silent rfl ⟨rfl, by rw [here]⟩
  | rating negotiated | spawning negotiated | leaving left =>
      simp only [Process.main, here]
      exact .silent rfl ⟨rfl, rfl⟩

/-- Every step keeps to the contract. -/
theorem camera_step
    (knows : KnowsCamera setting process phase)
    (event : Event) :
    CallContract.Continues Process.calls (CameraContract setting)
      (KnowsCamera setting) phase process (process.step event) := by
  cases event with
  | main response =>
      exact camera_main knows response
  | sink operation =>
      rw [Process.step]
      split <;> exact .silent rfl knows
  | server step =>
      obtain ⟨calls, position, fixed⟩ := calls_serve process step
      refine .silent calls ⟨fixed.trans knows.1, ?_⟩
      rw [← knows.2]
      exact congrArg Position.camera position

end Camera

/-! ## The end -/

/-- What is left of the process when `run` has returned. -/
inductive Ended (events : List Event) (process : Process) :
    Except Failure Unit → Prop where
  | refused
      (message : Text)
      (loop : process.system.loop = .initial)
      (threads : process.system.threads = []) :
      Ended events process (.error (.camera message))
  | stopped
      (left : Except Failure Unit)
      (captured : Except Text Unit)
      (served : Except IoError Unit)
      (reason : Reason events process.system left)
      (returned : process.system.loop.point = .returned served)
      (threads :
        ∀ thread ∈ process.system.threads, thread.worker.isEnded = true)
      (viewers :
        ∀ now, (process.system.broadcaster.stats now).viewers = 0) :
      Ended events process (conclude left captured served)

/-- What holds of the process at every moment. -/
structure ExitRules
    (setting : Setting)
    (events : List Event)
    (process : Process) : Prop where
  system :
    ∃ steps, process.system = ServerSystem.System.initial.run steps
  camera :
    ∃ phase, Trace (CameraContract setting) .off process.calls phase ∧
      (process.result?.isSome = true →
        phase = .failed ∨ phase = .stopped)
  told :
    process.stopping = true →
      ∃ left, process.position.left? = some left ∧
        Reason events process.system left
  untold :
    process.system.loop.point = .returned (.ok ()) →
      process.stopping = true
  watched :
    ∀ (watch : Watch) (response : Response),
      process.position = .reading watch →
        ((process.main response).position =
            .leaving (.error cameraStalled) ↔
          Silent (process.system.log.map Prod.snd) watch.started
            response.statsAt response.now)
  returned :
    ∀ result, process.result? = some result →
      Ended events process result
  success :
    process.result? = some (.ok ()) →
      (∃ response, .main response ∈ events ∧
        response.interrupt = some (.ok ())) ∧
        process.system.loop.point = .returned (.ok ())

section End

variable {setting : Setting}
variable {events : List Event}
variable {process : Process}

/-- Behind `run_until` nobody watches any more. -/
theorem Inv.nobody_left
    (inv : Inv setting events process)
    {served : Except IoError Unit}
    (returned : process.system.loop.point = .returned served) :
    (∀ thread ∈ process.system.threads, thread.worker.isEnded = true) ∧
      ∀ now, (process.system.broadcaster.stats now).viewers = 0 := by
  obtain ⟨steps, isRun⟩ := inv.isRun
  have sound := ServerSystem.sound_initial.run steps
  rw [← isRun] at sound
  have ended :
      ∀ thread ∈ process.system.threads,
        thread.worker.isEnded = true := by
    intro thread member
    obtain ⟨number, found⟩ := List.mem_iff_getElem?.mp member
    exact sound.ended_of_returned returned found
  refine ⟨ended, ?_⟩
  intro now
  rw [sound.viewers, List.length_eq_zero_iff,
    ServerSystem.System.subscriptions, List.filterMap_eq_nil_iff]
  intro thread member
  by_contra holds
  have notEnded :=
    ServerSystem.Thread.not_ended_of_subscription
      (Option.isSome_iff_ne_none.mpr holds)
  rw [ended thread member] at notEnded
  cases notEnded

/-- Only an interrupt leaves the loop without an error. -/
theorem Reason.interrupted_of_ok
    {system : ServerSystem.System}
    (reason : Reason events system (.ok ())) :
    ∃ response, .main response ∈ events ∧
      response.interrupt = some (.ok ()) := by
  generalize isLeft : (.ok () : Except Failure Unit) = left at reason
  cases reason with
  | interrupted response result member interrupt =>
      cases result with
      | error error =>
          cases isLeft
      | ok _ =>
          exact ⟨response, member, interrupt⟩
  | _ =>
      cases isLeft

/-- All three parts have succeeded. -/
theorem conclude_eq_ok
    {left : Except Failure Unit}
    {captured : Except Text Unit}
    {served : Except IoError Unit}
    (succeeded : conclude left captured served = .ok ()) :
    left = .ok () ∧ served = .ok () := by
  cases left with
  | error failure =>
      cases succeeded
  | ok _ =>
      cases captured with
      | error message =>
          cases succeeded
      | ok _ =>
          cases served with
          | error error =>
              cases succeeded
          | ok _ =>
              exact ⟨rfl, rfl⟩

/-- The poll loop is left for silence exactly when there is silence. -/
theorem Inv.leaves_iff
    (inv : Inv setting events process)
    {watch : Watch}
    (here : process.position = .reading watch)
    (response : Response) :
    (process.main response).position = .leaving (.error cameraStalled) ↔
      Silent (process.system.log.map Prod.snd) watch.started
        response.statsAt response.now := by
  have isAnnounced := inv.announced watch.announced (by rw [here]; rfl)
  rw [← isStalled_iff _ watch.announced
    (fun wasAnnounced => inv.ready (isAnnounced.mp wasAnnounced))
    watch.started response.statsAt response.now rfl, ← inv.logged]
  simp only [Process.main, here, Process.read]
  split
  · rename_i isSilent
    exact iff_of_true rfl isSilent
  · rename_i notSilent
    refine iff_of_false ?_ notSilent
    intro leaves
    cases leaves

/-- What `run` returns stands in its last position. -/
theorem Inv.ended
    (inv : Inv setting events process)
    {result : Except Failure Unit}
    (returned : process.result? = some result) :
    Ended events process result := by
  rw [Process.result?] at returned
  split at returned
  · rename_i message here
    cases returned
    obtain ⟨loop, threads⟩ := inv.before (by rw [here]; rfl)
    exact .refused message loop threads
  · rename_i left captured served here
    cases returned
    have point := inv.served left captured served here
    obtain ⟨threads, viewers⟩ := inv.nobody_left point
    exact .stopped left captured served
      (inv.reason left (by rw [here]; rfl)) point threads viewers
  · cases returned

/--
The end of the program, for every behaviour of the camera, of the server's
thread with its connections, and of the user: the camera is started once and
stopped once; the server is told to stop only behind the poll loop, and it
returns without an error only when it was told; the loop is left for silence of
the camera exactly when the camera was silent; and when `run` returns, every
thread of the server has ended and nobody watches.
-/
theorem exit_of_the_program (setting : Setting) (events : List Event) :
    ExitRules setting events
      ((Process.initial setting).run events) := by
  have inv := inv_run setting events
  obtain ⟨phase, trace, _, isPhase⟩ :=
    (CallContract.Continues.run (fun knows event => camera_step knows event)
      (show KnowsCamera setting (.initial setting) .off from ⟨rfl, rfl⟩)
      events).trace rfl
  change ((Process.initial setting).run events).position.camera = phase
    at isPhase
  change Trace (CameraContract setting) .off
    ((Process.initial setting).run events).calls phase at trace
  generalize (Process.initial setting).run events = process
    at inv trace isPhase
  exact {
    system := inv.isRun
    camera := by
      refine ⟨phase, trace, ?_⟩
      intro hasResult
      rw [← isPhase]
      rw [Process.result?] at hasResult
      split at hasResult
      · rename_i message here
        exact .inl (by rw [here]; rfl)
      · rename_i left captured served here
        exact .inr (by rw [here]; rfl)
      · cases hasResult
    told := by
      intro isSet
      rw [inv.flag] at isSet
      cases here : process.position <;> rw [here] at isSet <;>
        first
        | exact ⟨_, rfl, inv.reason _ (by rw [here]; rfl)⟩
        | cases isSet
    untold := fun point => inv.unasked (by rw [point]; rfl)
    watched := fun watch response here => inv.leaves_iff here response
    returned := fun result returned => inv.ended returned
    success := by
      intro returned
      have ended := inv.ended returned
      generalize isResult : (.ok () : Except Failure Unit) = result
        at ended
      cases ended with
      | refused message loop threads =>
          cases isResult
      | stopped left captured served reason point threads viewers =>
          obtain ⟨rfl, rfl⟩ := conclude_eq_ok isResult.symm
          exact ⟨reason.interrupted_of_ok, point⟩ }

end End

end Cli

end CamRtsp
