import CamRtsp.ConnectionWorkers
import CamRtsp.LiveConnection

namespace CamRtsp.ServerSystem

open RustText
open Broadcaster (Operation subscriptionChange)

/-!
# The whole server

The accept loop, the threads of all connections and the capture code work on
one broadcaster.  A thread goes through an iteration of `handle` in pieces, one
for each time it takes the broadcaster's lock; between any two pieces the
others do what they like.
-/

/-- Where the thread of a connection is. -/
inductive Worker where
  | reading (session : Session) (input : Bytes)
  | asked
      (session : Session)
      (input : Bytes)
      (request : Option Request)
      (surroundings : Surroundings)
  | rated
      (session : Session)
      (input : Bytes)
      (request : Option Request)
      (surroundings : Surroundings)
      (codec : Option CodecConfig)
  | changed
      (session : Session)
      (input : Bytes)
      (request : Option Request)
      (surroundings : Surroundings)
      (learned : Learned)
  | moved
      (session : Session)
      (input : Bytes)
      (request : Option Request)
      (surroundings : Surroundings)
      (learned : Learned)
  | ended (result : Except IoError Unit)

namespace Worker

/-- The thread has run to its end. -/
def isEnded : Worker → Bool
  | .ended _ => true
  | _ => false

/-- The subscription behind the request part. -/
def kept
    (connection : Connection)
    (session : Session)
    (request : Option Request)
    (surroundings : Surroundings)
    (learned : Learned) : Option SubscriptionId :=
  (served connection (surroundings.iteration learned) session
    request).session.subscription

/-- The subscription the thread holds. -/
def subscription? (connection : Connection) :
    Worker → Option SubscriptionId
  | .reading session _ => session.subscription
  | .asked session _ _ _ => session.subscription
  | .rated session _ _ _ _ => session.subscription
  | .changed session _ request surroundings learned =>
      kept connection session request surroundings learned
  | .moved session _ request surroundings learned =>
      kept connection session request surroundings learned
  | .ended _ => none

/-- `read_control`. -/
def read
    (outcome : ReadOutcome)
    (surroundings : Surroundings) : Worker → Worker × List Operation
  | .reading session input =>
      match readControl outcome input with
      | .error error =>
          (.ended (.error error),
            (session.subscription.map .drop).toList)
      | .ok (request, rest) =>
          (.asked session rest request surroundings, [])
  | worker => (worker, [])

/-- The next piece of an iteration. -/
def advance
    (connection : Connection)
    (broadcaster : Broadcaster) : Worker → Worker × List Operation
  | .asked session input request surroundings =>
      (.rated session input request surroundings broadcaster.state.codec,
        [])
  | .rated session input request surroundings codec =>
      let learned : Learned := {
        codec := codec
        frameRate := broadcaster.state.frameRate
        subscription := broadcaster.subscribe.1
        received := none }
      (.changed session input request surroundings learned,
        subscriptionChange session.subscription
          (kept connection session request surroundings learned))
  | .changed session input request surroundings learned =>
      let handled :=
        served connection (surroundings.iteration learned) session request
      let waiting := receiving surroundings.failure handled
      (.moved session input request surroundings
          { learned with
            received :=
              waiting.bind fun id => (broadcaster.recvTimeout id).1 },
        (waiting.map .recvTimeout).toList)
  | .moved session input request surroundings learned =>
      match
        (Transition.of connection session request
          (surroundings.iteration learned)).performed.next with
      | .running after => (.reading after input, [])
      | .closed result =>
          (.ended result,
            ((kept connection session request surroundings learned).map
              .drop).toList)
  | worker => (worker, [])

end Worker

/-- A connection with its thread. -/
structure Thread where
  connection : Connection
  opening : Opening
  worker : Worker

/-- The subscription a thread holds. -/
def Thread.subscription? (thread : Thread) : Option SubscriptionId :=
  thread.worker.subscription? thread.connection

/--
The loop, the threads by number, and the broadcaster with all operations so
far; an operation carries the number of its thread, if it is a connection's.
-/
structure System where
  loop : RunUntil.Server
  threads : List Thread
  broadcaster : Broadcaster
  log : List (Option Nat × Operation)

/-- What capture code and the application do with the broadcaster. -/
def isCapture : Operation → Bool
  | .publish _ _ => true
  | .setCodecConfig _ => true
  | .setFrameRate _ _ => true
  | .takeKeyframeRequest => true
  | _ => false

/-- A step of one of the parties. -/
inductive Event where
  | capture (operation : Operation)
  | loop
      (surroundings : RunUntil.Surroundings)
      (connection : Connection)
      (opening : Opening)
  | read
      (thread : Nat)
      (outcome : ReadOutcome)
      (surroundings : Surroundings)
  | advance (thread : Nat)

namespace System

/-- The system when `run_until` is called. -/
def initial : System where
  loop := .initial
  threads := []
  broadcaster := .initial
  log := []

/-- Operations of one party. -/
def perform
    (system : System)
    (thread : Option Nat)
    (operations : List Operation) : System :=
  { system with
    broadcaster := system.broadcaster.run operations
    log := system.log ++ operations.map fun operation =>
      (thread, operation) }

/-- A thread goes on; one that ends has finished for the loop. -/
def change
    (system : System)
    (number : Nat)
    (change : Thread → Worker × List Operation) : System :=
  match system.threads[number]? with
  | none => system
  | some thread =>
      let (worker, operations) := change thread
      { system with
        loop :=
          if worker.isEnded then
            system.loop.finish number
          else
            system.loop
        threads :=
          system.threads.set number
            { thread with worker := worker } }.perform (some number)
        operations

/-- One step. -/
def step (system : System) : Event → System
  | .capture operation =>
      if isCapture operation then
        system.perform none [operation]
      else
        system
  | .loop surroundings connection opening =>
      let loop := system.loop.step surroundings
      { system with
        loop := loop
        threads :=
          if system.loop.workers < loop.workers then
            system.threads ++ [{
              connection := connection
              opening := opening
              worker := .reading (.start opening) [] }]
          else
            system.threads }
  | .read number outcome surroundings =>
      system.change number fun thread =>
        thread.worker.read outcome surroundings
  | .advance number =>
      system.change number fun thread =>
        thread.worker.advance thread.connection system.broadcaster

/-- A run. -/
def run (system : System) (events : List Event) : System :=
  events.foldl step system

/-- The subscriptions that the threads hold. -/
def subscriptions (system : System) : List SubscriptionId :=
  system.threads.filterMap Thread.subscription?

end System

end CamRtsp.ServerSystem
