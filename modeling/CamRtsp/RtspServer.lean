import CamRtsp.Core
import CamRtsp.Foundation.SwapSweep

namespace CamRtsp.RunUntil

open SwapSweep

/-!
# The accept loop of the server

`run_until` is taken apart into steps.  The listener, the stop flag and the
spawned threads answer each step as they like, and a worker may finish between
any two steps.  The log holds what the thread of the loop has done, in order.
-/

/-- `MAX_CONNECTIONS`. -/
def maxConnections : Nat := 128

/-- An entry of `sessions`: the cloned socket and the worker's handle. -/
structure Connection where
  socket : Nat
  worker : Nat
  deriving Repr, DecidableEq

/-- Where `run_until` is. -/
inductive Point where
  | entering
  | testing
  | reaping (index : Nat)
  | accepting
  | closing (result : Except IoError Unit) (index : Nat)
  | joining (result : Except IoError Unit)
  | returned (result : Except IoError Unit)

/-- What the thread of the loop does with a worker or its socket. -/
inductive Event where
  | spawned (connection : Connection)
  | tested (worker : Nat) (finished : Bool)
  | joined (worker : Nat)
  | shutDown (socket : Nat)
  deriving Repr, DecidableEq

/-- How `accept` ends, and then `try_clone` and `spawn`. -/
inductive AcceptOutcome where
  | connection (socket : Nat) (cloned spawned : Except IoError Unit)
  | failed (error : IoError)

/-- What surrounds one step of the loop. -/
structure Surroundings where
  nonblocking : Except IoError Unit
  stopping : Bool
  accept : AcceptOutcome

/--
The state of the loop.  `workers` counts the spawned threads, which also names
them, and `finished` holds those that have run to their end.
-/
structure Server where
  point : Point
  sessions : List Connection
  workers : Nat
  finished : List Nat
  log : List Event

namespace Server

/-- One round of the reaping loop. -/
def reap (server : Server) (index : Nat) : Server :=
  match server.sessions[index]? with
  | none => { server with point := .accepting }
  | some connection =>
      if connection.worker ∈ server.finished then
        { server with
          sessions := swapRemove server.sessions index
          log :=
            server.log ++
              [.tested connection.worker true, .joined connection.worker] }
      else
        { server with
          point := .reaping (index + 1)
          log := server.log ++ [.tested connection.worker false] }

/-- The end of a round: the next connection, if any. -/
def accept (server : Server) : AcceptOutcome → Server
  | .connection socket cloned spawned =>
      if maxConnections ≤ server.sessions.length then
        { server with point := .testing }
      else
        match cloned, spawned with
        | .error error, _ =>
            { server with point := .closing (.error error) 0 }
        | .ok _, .error error =>
            { server with point := .closing (.error error) 0 }
        | .ok _, .ok _ =>
            let connection : Connection :=
              { socket := socket, worker := server.workers }
            { server with
              point := .testing
              sessions := server.sessions ++ [connection]
              workers := server.workers + 1
              log := server.log ++ [.spawned connection] }
  | .failed error =>
      if error.kind = .wouldBlock then
        { server with point := .testing }
      else if error.kind = .interrupted then
        { server with point := .testing }
      else
        { server with point := .closing (.error error) 0 }

/-- One step of `run_until`; a join waits until the worker has finished. -/
def step (server : Server) (surroundings : Surroundings) : Server :=
  match server.point with
  | .entering =>
      match surroundings.nonblocking with
      | .error error => { server with point := .returned (.error error) }
      | .ok _ => { server with point := .testing }
  | .testing =>
      if surroundings.stopping then
        { server with point := .closing (.ok ()) 0 }
      else
        { server with point := .reaping 0 }
  | .reaping index => server.reap index
  | .accepting => server.accept surroundings.accept
  | .closing result index =>
      match server.sessions[index]? with
      | none => { server with point := .joining result }
      | some connection =>
          { server with
            point := .closing result (index + 1)
            log := server.log ++ [.shutDown connection.socket] }
  | .joining result =>
      match server.sessions with
      | [] => { server with point := .returned result }
      | connection :: later =>
          if connection.worker ∈ server.finished then
            { server with
              sessions := later
              log := server.log ++ [.joined connection.worker] }
          else
            server
  | .returned _ => server

/-- A spawned worker runs to its end. -/
def finish (server : Server) (worker : Nat) : Server :=
  if worker < server.workers then
    { server with finished := worker :: server.finished }
  else
    server

end Server

/-- A step of the loop, or a worker that finishes. -/
inductive Action where
  | step (surroundings : Surroundings)
  | finish (worker : Nat)

namespace Server

/-- The state after one action. -/
def act (server : Server) : Action → Server
  | .step surroundings => server.step surroundings
  | .finish worker => server.finish worker

/-- The state after a run. -/
def run (server : Server) (actions : List Action) : Server :=
  actions.foldl act server

/-- The state in which `run_until` is called. -/
def initial : Server where
  point := .entering
  sessions := []
  workers := 0
  finished := []
  log := []

variable {server : Server}

/-- A run in two parts. -/
theorem run_append (first second : List Action) :
    server.run (first ++ second) = (server.run first).run second :=
  List.foldl_append ..

/-- The last action of a run. -/
theorem run_concat (actions : List Action) (action : Action) :
    server.run (actions ++ [action]) = (server.run actions).act action := by
  rw [run_append]
  rfl

/-- A worker that finishes only adds itself to the finished ones. -/
theorem finish_eq (server : Server) (worker : Nat) :
    ∃ finished,
      server.finish worker = { server with finished := finished } ∧
        server.finished ⊆ finished := by
  unfold finish
  split
  · exact ⟨_, rfl, List.subset_cons_self worker server.finished⟩
  · exact ⟨server.finished, rfl, List.Subset.refl _⟩

end Server

/-! ## Reading the log -/

/-- The connection whose worker an event has spawned. -/
def Event.spawned? : Event → Option Connection
  | .spawned connection => some connection
  | _ => none

/-- The worker that an event has joined. -/
def Event.joined? : Event → Option Nat
  | .joined worker => some worker
  | _ => none

/-- The connections with a worker of their own, in the order of spawning. -/
def spawnedConnections (log : List Event) : List Connection :=
  log.filterMap Event.spawned?

/-- The workers that have been spawned, in this order. -/
def spawnedWorkers (log : List Event) : List Nat :=
  (spawnedConnections log).map Connection.worker

/-- The workers that have been joined, in this order. -/
def joinedWorkers (log : List Event) : List Nat :=
  log.filterMap Event.joined?

@[simp]
theorem spawnedConnections_append (first second : List Event) :
    spawnedConnections (first ++ second) =
      spawnedConnections first ++ spawnedConnections second :=
  List.filterMap_append

@[simp]
theorem spawnedWorkers_append (first second : List Event) :
    spawnedWorkers (first ++ second) =
      spawnedWorkers first ++ spawnedWorkers second := by
  simp [spawnedWorkers]

@[simp]
theorem joinedWorkers_append (first second : List Event) :
    joinedWorkers (first ++ second) =
      joinedWorkers first ++ joinedWorkers second :=
  List.filterMap_append

end CamRtsp.RunUntil
