import CamRtsp.RtspServer
import CamRtsp.Foundation.StepTrace

namespace CamRtsp.RunUntil

open SwapSweep StepTrace

/-!
# Connection workers are bounded and joined

Every worker that was spawned is either listed or joined, and never both.  The
reaping loop and the final joins move workers from the one side to the other;
the list is empty when `run_until` returns.
-/

namespace Server

variable {server : Server}

/-! ## Every worker is accounted for -/

/-- The workers, their connections and the log agree. -/
structure Accounted (server : Server) : Prop where
  bounded : server.sessions.length ≤ maxConnections
  named : spawnedWorkers server.log = List.range server.workers
  conserved :
    (server.sessions.map Connection.worker ++
      joinedWorkers server.log).Perm (spawnedWorkers server.log)
  listed :
    ∀ connection ∈ server.sessions,
      connection ∈ spawnedConnections server.log
  joinsFinished :
    ∀ worker ∈ joinedWorkers server.log, worker ∈ server.finished

namespace Accounted

/-- Going on changes nothing. -/
theorem move
    (accounted : server.Accounted)
    (point : Point) :
    Accounted { server with point := point } where
  bounded := accounted.bounded
  named := accounted.named
  conserved := accounted.conserved
  listed := accounted.listed
  joinsFinished := accounted.joinsFinished

/-- A test and a shut down change neither side. -/
theorem record
    (accounted : server.Accounted)
    {event : Event}
    (spawnsNothing : event.spawned? = none)
    (joinsNothing : event.joined? = none)
    (point : Point) :
    Accounted
      { server with point := point, log := server.log ++ [event] } := by
  have spawned : spawnedConnections [event] = [] := by
    simp [spawnedConnections, spawnsNothing]
  have joined : joinedWorkers [event] = [] := by
    simp [joinedWorkers, joinsNothing]
  constructor
  · exact accounted.bounded
  · simpa [spawnedWorkers, spawned] using accounted.named
  · simpa [spawnedWorkers, spawned, joined] using accounted.conserved
  · simpa [spawned] using accounted.listed
  · simpa [joined] using accounted.joinsFinished

/-- A finished worker that is removed from the list is joined. -/
theorem remove
    (accounted : server.Accounted)
    {connection : Connection}
    {rest : List Connection}
    (removed : (connection :: rest).Perm server.sessions)
    (isFinished : connection.worker ∈ server.finished) :
    Accounted
      { server with
        sessions := rest
        log := server.log ++ [.joined connection.worker] } := by
  have spawned :
      spawnedConnections [.joined connection.worker] = [] :=
    rfl
  have joined :
      joinedWorkers [.joined connection.worker] = [connection.worker] :=
    rfl
  have sameLength := removed.length_eq
  constructor
  · have bounded := accounted.bounded
    simp only [List.length_cons] at sameLength
    simp only
    omega
  · simpa [spawnedWorkers, spawned] using accounted.named
  · have moved :
        (rest.map Connection.worker ++
          (joinedWorkers server.log ++ [connection.worker])).Perm
          (server.sessions.map Connection.worker ++
            joinedWorkers server.log) := by
      rw [← List.append_assoc]
      refine (List.perm_append_singleton _ _).trans ?_
      exact (removed.map Connection.worker).append_right _
    simpa [spawnedWorkers, spawned, joined] using
      moved.trans accounted.conserved
  · intro other member
    have wasListed :=
      accounted.listed other (removed.subset (List.mem_cons_of_mem _ member))
    simpa [spawned] using wasListed
  · intro worker member
    simp only [joinedWorkers_append, joined, List.mem_append,
      List.mem_singleton] at member
    rcases member with before | rfl
    · exact accounted.joinsFinished worker before
    · exact isFinished

/-- A new worker is listed. -/
theorem spawn
    (accounted : server.Accounted)
    (room : server.sessions.length < maxConnections)
    (socket : Nat) :
    let connection : Connection :=
      { socket := socket, worker := server.workers }
    Accounted
      { server with
        sessions := server.sessions ++ [connection]
        workers := server.workers + 1
        log := server.log ++ [.spawned connection] } := by
  intro connection
  have spawned :
      spawnedConnections [.spawned connection] = [connection] :=
    rfl
  have joined : joinedWorkers [.spawned connection] = [] :=
    rfl
  have named := accounted.named
  constructor
  · simp only [List.length_append, List.length_singleton]
    omega
  · rw [spawnedWorkers_append, named, List.range_succ]
    rfl
  · have added :
        (server.sessions.map Connection.worker ++
          ([connection.worker] ++ joinedWorkers server.log)).Perm
          (spawnedWorkers server.log ++ [connection.worker]) := by
      refine (List.Perm.append_left _ List.perm_append_comm).trans ?_
      rw [← List.append_assoc]
      exact accounted.conserved.append_right _
    simpa [spawnedWorkers, spawned, joined] using added
  · intro other member
    rw [spawnedConnections_append, spawned]
    rcases List.mem_append.mp member with before | isNew
    · exact List.mem_append_left _ (accounted.listed other before)
    · exact List.mem_append_right _ isNew
  · simpa [joined] using accounted.joinsFinished

/-- Workers that finish change nothing either. -/
theorem finish
    (accounted : server.Accounted)
    (worker : Nat) :
    (server.finish worker).Accounted := by
  obtain ⟨finished, finishEq, grows⟩ := finish_eq server worker
  rw [finishEq]
  exact {
    bounded := accounted.bounded
    named := accounted.named
    conserved := accounted.conserved
    listed := accounted.listed
    joinsFinished := fun other member =>
      grows (accounted.joinsFinished other member) }

/-- A round of the reaping loop joins the worker it has found finished. -/
theorem reap
    (accounted : server.Accounted)
    (index : Nat) :
    (server.reap index).Accounted := by
  unfold Server.reap
  split
  · exact accounted.move _
  · rename_i connection found
    split
    · rename_i isFinished
      have tested :
          Accounted
            { server with
              log :=
                server.log ++ [.tested connection.worker true] } :=
        accounted.record rfl rfl server.point
      simpa using
        tested.remove (cons_swapRemove_perm found) isFinished
    · exact accounted.record rfl rfl _

/-- The end of a round adds at most one worker, and only if there is room. -/
theorem accept
    (accounted : server.Accounted)
    (outcome : AcceptOutcome) :
    (server.accept outcome).Accounted := by
  unfold Server.accept
  split
  · split
    · exact accounted.move _
    · rename_i socket cloned spawned full
      split
      · exact accounted.move _
      · exact accounted.move _
      · exact (accounted.spawn (Nat.not_le.mp full) socket).move _
  · split
    · exact accounted.move _
    · split
      · exact accounted.move _
      · exact accounted.move _

/-- Every step keeps the account. -/
theorem step
    (accounted : server.Accounted)
    (surroundings : Surroundings) :
    (server.step surroundings).Accounted := by
  unfold Server.step
  split
  · split
    · exact accounted.move _
    · exact accounted.move _
  · split
    · exact accounted.move _
    · exact accounted.move _
  · exact accounted.reap _
  · exact accounted.accept _
  · split
    · exact accounted.move _
    · exact accounted.record rfl rfl _
  · split
    · exact accounted.move _
    · rename_i connection later shape
      split
      · rename_i isFinished
        exact accounted.remove (.of_eq shape.symm) isFinished
      · exact accounted
  · exact accounted

/-- Every run keeps the account. -/
theorem run
    (accounted : server.Accounted)
    (actions : List Action) :
    (server.run actions).Accounted := by
  induction actions generalizing server with
  | nil =>
      exact accounted
  | cons action later inductionHypothesis =>
      cases action with
      | step surroundings =>
          exact inductionHypothesis (accounted.step surroundings)
      | finish worker =>
          exact inductionHypothesis (accounted.finish worker)

end Accounted

/-- Nothing has been spawned when `run_until` is called. -/
theorem accounted_initial : initial.Accounted where
  bounded := Nat.zero_le _
  named := rfl
  conserved := .refl _
  listed := nofun
  joinsFinished := nofun

/-! ## A reaping pass -/

/-- An action while the reaping loop is under way. -/
def ReapingStep (before : Server) (action : Action) (after : Server) : Prop :=
  (∃ index, before.point = .reaping index) ∧ after = before.act action

/-- What a test leaves in the log. -/
def testEvents (test : Connection × Bool) : List Event :=
  .tested test.1.worker test.2 ::
    if test.2 then [.joined test.1.worker] else []

/-- The rounds of the loop among some actions. -/
def rounds (actions : List Action) : Nat :=
  actions.countP fun action =>
    match action with
    | .step _ => true
    | .finish _ => false

/-- Rounds are counted part by part. -/
theorem rounds_append (first second : List Action) :
    rounds (first ++ second) = rounds first + rounds second :=
  List.countP_append

/-- A pass that has begun in one state and has made some tests since. -/
structure Reaping
    (start server : Server)
    (index : Nat)
    (tests : List (Connection × Bool)) : Prop where
  here : server.point = .reaping index
  swept : Swept start.sessions server.sessions index tests
  logged : server.log = start.log ++ tests.flatMap testEvents
  grows : start.finished ⊆ server.finished
  observed :
    ∀ connection, (connection, true) ∈ tests →
      connection.worker ∈ server.finished
  running :
    ∀ connection, (connection, false) ∈ tests →
      connection.worker ∉ start.finished

/-- A complete pass: every entry is tested once, and none is lost. -/
structure PassRules
    (start last : Server)
    (tests : List (Connection × Bool)) : Prop where
  inspected : (tests.map Prod.fst).Perm start.sessions
  stay : last.sessions = kept tests
  conserved : (last.sessions ++ removed tests).Perm start.sessions
  joins :
    joinedWorkers last.log =
      joinedWorkers start.log ++ (removed tests).map Connection.worker
  logged : last.log = start.log ++ tests.flatMap testEvents
  observed :
    ∀ connection, (connection, true) ∈ tests →
      connection.worker ∈ last.finished
  running :
    ∀ connection, (connection, false) ∈ tests →
      connection.worker ∉ start.finished

/-- A pass joins the workers it has found finished. -/
theorem joinedWorkers_testEvents (tests : List (Connection × Bool)) :
    joinedWorkers (tests.flatMap testEvents) =
      (removed tests).map Connection.worker := by
  induction tests with
  | nil =>
      rfl
  | cons test later inductionHypothesis =>
      obtain ⟨connection, isFinished⟩ := test
      rw [List.flatMap_cons, joinedWorkers_append, inductionHypothesis]
      cases isFinished <;> rfl

namespace Reaping

variable {start last : Server}
variable {index : Nat}
variable {tests : List (Connection × Bool)}

/-- A pass begins at the first entry. -/
theorem refl
    (here : start.point = .reaping 0) :
    Reaping start start 0 [] where
  here := here
  swept := .refl _
  logged := by simp
  grows := List.Subset.refl _
  observed := nofun
  running := nofun

/-- Workers that finish meanwhile do not disturb the pass. -/
theorem finish
    (reaping : Reaping start server index tests)
    (worker : Nat) :
    Reaping start (server.finish worker) index tests := by
  obtain ⟨finished, finishEq, grows⟩ := finish_eq server worker
  rw [finishEq]
  exact {
    here := reaping.here
    swept := reaping.swept
    logged := reaping.logged
    grows := List.Subset.trans reaping.grows grows
    observed := fun connection member =>
      grows (reaping.observed connection member)
    running := reaping.running }

/-- A worker that is still running is passed over. -/
theorem keep
    (reaping : Reaping start server index tests)
    {connection : Connection}
    (found : server.sessions[index]? = some connection)
    (isRunning : connection.worker ∉ server.finished) :
    Reaping start
      { server with
        point := .reaping (index + 1)
        log := server.log ++ [.tested connection.worker false] }
      (index + 1) (tests ++ [(connection, false)]) where
  here := rfl
  swept := reaping.swept.keep found
  logged := by simp [reaping.logged, testEvents]
  grows := reaping.grows
  observed := by
    intro other member
    exact reaping.observed other (by simpa using member)
  running := by
    intro other member
    rcases List.mem_append.mp member with before | isLast
    · exact reaping.running other before
    · obtain ⟨rfl, _⟩ := Prod.mk.inj (List.mem_singleton.mp isLast)
      exact fun wasFinished => isRunning (reaping.grows wasFinished)

/-- A worker that has finished is removed and joined. -/
theorem remove
    (reaping : Reaping start server index tests)
    {connection : Connection}
    (found : server.sessions[index]? = some connection)
    (isFinished : connection.worker ∈ server.finished) :
    Reaping start
      { server with
        sessions := swapRemove server.sessions index
        log :=
          server.log ++
            [.tested connection.worker true, .joined connection.worker] }
      index (tests ++ [(connection, true)]) where
  here := reaping.here
  swept := reaping.swept.remove found
  logged := by simp [reaping.logged, testEvents]
  grows := reaping.grows
  observed := by
    intro other member
    rcases List.mem_append.mp member with before | isLast
    · exact reaping.observed other before
    · obtain ⟨rfl, _⟩ := Prod.mk.inj (List.mem_singleton.mp isLast)
      exact isFinished
  running := by
    intro other member
    exact reaping.running other (by simpa using member)

/-- At the end of the list the pass is complete. -/
theorem complete
    (reaping : Reaping start server index tests)
    (ended : server.sessions[index]? = none) :
    PassRules start { server with point := .accepting } tests := by
  obtain ⟨inspected, stay⟩ :=
    reaping.swept.complete (List.getElem?_eq_none_iff.mp ended)
  constructor
  · exact inspected
  · exact stay
  · simp only [stay]
    exact (perm_kept_removed tests).trans inspected
  · simp only [reaping.logged, joinedWorkers_append,
      joinedWorkers_testEvents]
  · exact reaping.logged
  · exact reaping.observed
  · exact reaping.running

/-- Where a pass is after some rounds: a test for each, or complete. -/
inductive Progress (start after : Server) (made : Nat) : Prop where
  | underWay
      (index : Nat)
      (tests : List (Connection × Bool))
      (reaping : Reaping start after index tests)
      (count : tests.length = made)
  | completed
      (tests : List (Connection × Bool))
      (accepting : after.point = .accepting)
      (rules : PassRules start after tests)
      (count : tests.length + 1 = made)

/-- One action: a test, the end of the pass, or nothing. -/
theorem act
    (reaping : Reaping start server index tests)
    (action : Action) :
    Progress start (server.act action)
      (tests.length + rounds [action]) := by
  cases action with
  | finish worker =>
      exact .underWay index tests (reaping.finish worker) rfl
  | step surroundings =>
      have stepEq : server.step surroundings = server.reap index := by
        simp only [step, reaping.here]
      simp only [Server.act, stepEq, reap]
      split
      · rename_i ended
        exact .completed tests rfl (reaping.complete ended) rfl
      · rename_i connection found
        split
        · rename_i isFinished
          exact .underWay _ _ (reaping.remove found isFinished)
            (List.length_append ..)
        · rename_i isRunning
          exact .underWay _ _ (reaping.keep found isRunning)
            (List.length_append ..)

/-- A pass, taken from any of its states to a later one or to its end. -/
theorem trace
    {actions : List Action}
    (reaping : Reaping start server index tests)
    (trace : Trace ReapingStep server actions last) :
    Progress start last (tests.length + rounds actions) := by
  induction trace generalizing index tests with
  | nil state =>
      exact .underWay index tests reaping rfl
  | @cons before between after action later first rest
      inductionHypothesis =>
      obtain ⟨_, rfl⟩ := first
      have split := rounds_append [action] later
      rw [List.singleton_append] at split
      rw [split, ← Nat.add_assoc]
      cases reaping.act action with
      | underWay nextIndex nextTests stillReaping made =>
          rw [← made]
          exact inductionHypothesis stillReaping
      | completed allTests accepting rules made =>
          cases rest with
          | nil =>
              exact .completed allTests accepting rules (by
                rw [made]
                rfl)
          | cons second _ =>
              obtain ⟨⟨_, stillReaping⟩, _⟩ := second
              rw [accepting] at stillReaping
              cases stillReaping

/-- A pass has no more tests than there were entries. -/
theorem length_tests_le
    (reaping : Reaping start server index tests) :
    tests.length ≤ start.sessions.length := by
  have sameLength := reaping.swept.inspected.length_eq
  simp only [List.length_append, List.length_map] at sameLength
  omega

end Reaping

/-- A pass ends after one round for each entry and one more. -/
theorem rounds_le_of_pass
    {start last : Server}
    {actions : List Action}
    (begins : start.point = .reaping 0)
    (pass : Trace ReapingStep start actions last) :
    rounds actions ≤ start.sessions.length + 1 := by
  cases (Reaping.refl begins).trace pass with
  | underWay index tests reaping count =>
      have few := reaping.length_tests_le
      simp only [List.length_nil] at count
      omega
  | completed tests accepting rules count =>
      have sameLength := rules.inspected.length_eq
      simp only [List.length_nil, List.length_map] at count sameLength
      omega

/-- What a pass has done when it has come to its end. -/
theorem exists_tests_of_pass
    {start last : Server}
    {actions : List Action}
    (begins : start.point = .reaping 0)
    (pass : Trace ReapingStep start actions last)
    (ends : last.point = .accepting) :
    ∃ tests, PassRules start last tests := by
  cases (Reaping.refl begins).trace pass with
  | underWay index tests reaping count =>
      have here := reaping.here
      rw [ends] at here
      cases here
  | completed tests accepting rules count =>
      exact ⟨tests, rules⟩

/-! ## The way out -/

/-- The log of shutting down some connections. -/
def shutDowns (connections : List Connection) : List Event :=
  connections.map fun connection => .shutDown connection.socket

/-- The log of joining the workers of some connections. -/
def joins (connections : List Connection) : List Event :=
  connections.map fun connection => .joined connection.worker

/-- The states behind the one in which the loop was left. -/
inductive Closes (start : Server) (result : Except IoError Unit) :
    Server → Prop where
  | closing
      (server : Server)
      (index : Nat)
      (here : server.point = .closing result index)
      (same : server.sessions = start.sessions)
      (logged :
        server.log =
          start.log ++ shutDowns (start.sessions.take index)) :
      Closes start result server
  | joining
      (server : Server)
      (done : List Connection)
      (here : server.point = .joining result)
      (left : start.sessions = done ++ server.sessions)
      (logged :
        server.log =
          start.log ++ shutDowns start.sessions ++ joins done) :
      Closes start result server
  | returned
      (server : Server)
      (here : server.point = .returned result)
      (empty : server.sessions = [])
      (logged :
        server.log =
          start.log ++ shutDowns start.sessions ++
            joins start.sessions) :
      Closes start result server

namespace Closes

variable {start : Server}
variable {result : Except IoError Unit}

/-- Workers that finish change nothing. -/
theorem finish
    (closes : Closes start result server)
    (worker : Nat) :
    Closes start result (server.finish worker) := by
  obtain ⟨finished, finishEq, _⟩ := finish_eq server worker
  rw [finishEq]
  cases closes with
  | closing index here same logged =>
      exact .closing _ index here same logged
  | joining done here left logged =>
      exact .joining _ done here left logged
  | returned here empty logged =>
      exact .returned _ here empty logged

/-- Every socket is shut down first, and then every worker is joined. -/
theorem step
    (closes : Closes start result server)
    (surroundings : Surroundings) :
    Closes start result (server.step surroundings) := by
  cases closes with
  | closing index here same logged =>
      simp only [Server.step, here]
      split
      · rename_i ended
        refine .joining _ [] rfl same.symm ?_
        have all : start.sessions.take index = start.sessions := by
          rw [same] at ended
          exact List.take_of_length_le (List.getElem?_eq_none_iff.mp ended)
        simpa [all, joins] using logged
      · rename_i connection found
        refine .closing _ (index + 1) rfl same ?_
        rw [same] at found
        obtain ⟨inside, rfl⟩ := List.getElem?_eq_some_iff.mp found
        rw [List.take_succ_eq_append_getElem inside]
        simp only [logged, shutDowns, List.map_append, List.map_cons,
          List.map_nil, List.append_assoc]
  | joining done here left logged =>
      simp only [Server.step, here]
      split
      · rename_i empty
        refine .returned _ rfl empty ?_
        rw [empty, List.append_nil] at left
        rw [logged, left]
      · rename_i connection later shape
        split
        · refine .joining _ (done ++ [connection]) rfl ?_ ?_
          · simp [left, shape]
          · simp [logged, joins]
        · exact .joining _ done here left logged
  | returned here empty logged =>
      simp only [Server.step, here]
      exact .returned _ here empty logged

/-- Every action leads on, to the last join. -/
theorem act
    (closes : Closes start result server)
    (action : Action) :
    Closes start result (server.act action) := by
  cases action with
  | step surroundings =>
      exact closes.step surroundings
  | finish worker =>
      exact closes.finish worker

end Closes

/-- A state in the loop, before it is left. -/
inductive Serving (server : Server) : Prop where
  | testing (here : server.point = .testing)
  | reaping (index : Nat) (here : server.point = .reaping index)
  | accepting (here : server.point = .accepting)

/-- Where a run has come to. -/
inductive Stage (actions : List Action) (last : Server) : Prop where
  | entering
      (here : last.point = .entering)
      (noSessions : last.sessions = [])
      (noLog : last.log = [])
  | serving
      (serving : last.Serving)
  | closes
      (front : List Action)
      (earlier : front <+: actions)
      (result : Except IoError Unit)
      (left : (initial.run front).point = .closing result 0)
      (closes : Closes (initial.run front) result last)
  | refused
      (error : IoError)
      (here : last.point = .returned (.error error))
      (noSessions : last.sessions = [])
      (noLog : last.log = [])

/-- What a step in the loop leads to: the loop, or the first socket. -/
inductive Onward (after : Server) : Prop where
  | serving (serving : after.Serving)
  | leaving
      (result : Except IoError Unit)
      (left : after.point = .closing result 0)

/-- The end of a round goes on with the next, or leaves the loop. -/
theorem onward_accept (server : Server) (outcome : AcceptOutcome) :
    Onward (server.accept outcome) := by
  unfold accept
  split
  · split
    · exact .serving (.testing rfl)
    · split
      · exact .leaving _ rfl
      · exact .leaving _ rfl
      · exact .serving (.testing rfl)
  · split
    · exact .serving (.testing rfl)
    · split
      · exact .serving (.testing rfl)
      · exact .leaving _ rfl

/-- The loop goes on, or is left. -/
theorem Serving.step
    (serving : server.Serving)
    (surroundings : Surroundings) :
    Onward (server.step surroundings) := by
  cases serving with
  | testing here =>
      simp only [Server.step, here]
      split
      · exact .leaving _ rfl
      · exact .serving (.reaping 0 rfl)
  | reaping index here =>
      simp only [Server.step, here, reap]
      split
      · exact .serving (.accepting rfl)
      · split
        · exact .serving (.reaping index rfl)
        · exact .serving (.reaping (index + 1) rfl)
  | accepting here =>
      simp only [Server.step, here]
      exact onward_accept server surroundings.accept

/-- Workers that finish do not leave the loop. -/
theorem Serving.finish
    (serving : server.Serving)
    (worker : Nat) :
    (server.finish worker).Serving := by
  obtain ⟨finished, finishEq, _⟩ := finish_eq server worker
  rw [finishEq]
  cases serving with
  | testing here =>
      exact .testing here
  | reaping index here =>
      exact .reaping index here
  | accepting here =>
      exact .accepting here

/-- Every action in the loop goes on, or leaves it. -/
theorem Serving.act
    (serving : server.Serving)
    (action : Action) :
    Onward (server.act action) := by
  cases action with
  | step surroundings =>
      exact serving.step surroundings
  | finish worker =>
      exact .serving (serving.finish worker)

namespace Stage

variable {actions : List Action}

/-- One more action. -/
theorem act
    (stage : Stage actions (initial.run actions))
    (action : Action) :
    Stage (actions ++ [action]) (initial.run (actions ++ [action])) := by
  rw [run_concat]
  cases stage with
  | entering here noSessions noLog =>
      cases action with
      | finish worker =>
          obtain ⟨finished, finishEq, _⟩ :=
            finish_eq (initial.run actions) worker
          rw [Server.act, finishEq]
          exact .entering here noSessions noLog
      | step surroundings =>
          simp only [Server.act, step, here]
          split
          · rename_i error _
            exact .refused error rfl noSessions noLog
          · exact .serving (.testing rfl)
  | serving serving =>
      cases serving.act action with
      | serving stillServing =>
          exact .serving stillServing
      | leaving result left =>
          refine .closes (actions ++ [action]) (List.prefix_refl _) result
            ?_ ?_
          · rw [run_concat]
            exact left
          · rw [run_concat]
            exact .closing _ 0 left rfl (by simp [shutDowns])
  | closes front earlier result left closes =>
      exact .closes front (earlier.trans (List.prefix_append _ _)) result
        left (closes.act action)
  | refused error here noSessions noLog =>
      cases action with
      | finish worker =>
          obtain ⟨finished, finishEq, _⟩ :=
            finish_eq (initial.run actions) worker
          rw [Server.act, finishEq]
          exact .refused error here noSessions noLog
      | step surroundings =>
          simp only [Server.act, step, here]
          exact .refused error here noSessions noLog

/-- Every run has come to one of the stages. -/
theorem of_run (actions : List Action) :
    Stage actions (initial.run actions) := by
  induction actions using List.reverseRecOn with
  | nil =>
      exact .entering rfl rfl rfl
  | append_singleton actions action inductionHypothesis =>
      exact inductionHypothesis.act action

end Stage

/-! ## The result -/

/-- How `run_until` has returned. -/
inductive Returned (actions : List Action) (last : Server)
    (result : Except IoError Unit) : Prop where
  | afterLoop
      (front : List Action)
      (earlier : front <+: actions)
      (left : (initial.run front).point = .closing result 0)
      (logged :
        last.log =
          (initial.run front).log ++
            shutDowns (initial.run front).sessions ++
            joins (initial.run front).sessions)
  | refused
      (error : IoError)
      (isError : result = .error error)
      (noLog : last.log = [])

/-- What holds after a run with any accepts, stops and finishing workers. -/
structure WorkerRules (actions : List Action) : Prop where
  bounded : (initial.run actions).sessions.length ≤ 128
  once : (spawnedWorkers (initial.run actions).log).Nodup
  conserved :
    ((initial.run actions).sessions.map Connection.worker ++
      joinedWorkers (initial.run actions).log).Perm
        (spawnedWorkers (initial.run actions).log)
  listed :
    ∀ connection ∈ (initial.run actions).sessions,
      connection ∈ spawnedConnections (initial.run actions).log
  joinsFinished :
    ∀ worker ∈ joinedWorkers (initial.run actions).log,
      worker ∈ (initial.run actions).finished
  passes :
    ∀ (pass : List Action) (last : Server),
      (initial.run actions).point = .reaping 0 →
        Trace ReapingStep (initial.run actions) pass last →
          rounds pass ≤ (initial.run actions).sessions.length + 1 ∧
            (last.point = .accepting →
              ∃ tests, PassRules (initial.run actions) last tests)
  returned :
    ∀ result, (initial.run actions).point = .returned result →
      (initial.run actions).sessions = [] ∧
        (joinedWorkers (initial.run actions).log).Perm
          (spawnedWorkers (initial.run actions).log) ∧
        Returned actions (initial.run actions) result

/-- A run that has returned has left the loop, if it was ever in it. -/
theorem returned_of_stage
    {actions : List Action}
    {result : Except IoError Unit}
    (stage : Stage actions (initial.run actions))
    (here : (initial.run actions).point = .returned result) :
    (initial.run actions).sessions = [] ∧
      Returned actions (initial.run actions) result := by
  cases stage with
  | entering entering _ _ =>
      cases here.symm.trans entering
  | serving serving =>
      cases serving with
      | testing testing =>
          cases here.symm.trans testing
      | reaping index reaping =>
          cases here.symm.trans reaping
      | accepting accepting =>
          cases here.symm.trans accepting
  | closes front earlier leftWith left closes =>
      cases closes with
      | closing index closing _ _ =>
          cases here.symm.trans closing
      | joining done joining _ _ =>
          cases here.symm.trans joining
      | returned returned empty logged =>
          cases here.symm.trans returned
          exact ⟨empty, .afterLoop front earlier left logged⟩
  | refused error refused noSessions noLog =>
      cases here.symm.trans refused
      exact ⟨noSessions, .refused error rfl noLog⟩

/--
Connection workers are bounded, and all of them are joined, for every sequence
of accept, clone and spawn outcomes, stops and finishing workers: at most 128
entries are listed; each reaping pass tests every entry once, removes and
joins those found finished and keeps the others; and when `run_until` returns,
every socket that was still listed has been shut down, and every spawned
worker has been joined exactly once.
-/
theorem connection_workers_bounded_and_joined (actions : List Action) :
    WorkerRules actions := by
  have accounted := accounted_initial.run actions
  exact {
    bounded := accounted.bounded
    once := by
      rw [accounted.named]
      exact List.nodup_range
    conserved := accounted.conserved
    listed := accounted.listed
    joinsFinished := accounted.joinsFinished
    passes := fun _ _ begins pass =>
      ⟨rounds_le_of_pass begins pass, exists_tests_of_pass begins pass⟩
    returned := by
      intro result here
      obtain ⟨empty, returned⟩ :=
        returned_of_stage (Stage.of_run actions) here
      refine ⟨empty, ?_, returned⟩
      have conserved := accounted.conserved
      rw [empty] at conserved
      exact conserved }

end Server

end CamRtsp.RunUntil
