import CamRtsp.SystemViewers

namespace CamRtsp.ServerSystem

open RustText
open Broadcaster (Operation byOthers subscriptionChange)

/-!
# One connection in the whole server

Seen from one connection, the accept loop, the other connections and the
capture code are interference.  Every run of the system is then a run of
`handle` on the broadcaster, so that all results about one connection hold in
the system.
-/

/-! ## The log as one connection sees it -/

/-- The operations of the connection itself. -/
def mine (operations : List Operation) : List (Bool × Operation) :=
  operations.map fun operation => (true, operation)

/-- The operations of the others. -/
def theirs (operations : List Operation) : List (Bool × Operation) :=
  operations.map fun operation => (false, operation)

/-- An entry of the log, and whether the thread has done it. -/
def view
    (number : Nat)
    (entry : Option Nat × Operation) : Bool × Operation :=
  (decide (entry.1 = some number), entry.2)

/-- The operations of an iteration, and whose they are. -/
def viewOf (live : LiveTransition) : List (Bool × Operation) :=
  theirs live.before ++ mine live.requested ++ theirs live.between ++
    mine live.received ++ theirs live.behind ++ mine live.dropped

@[simp]
theorem map_snd_mine (operations : List Operation) :
    (mine operations).map Prod.snd = operations := by
  simp [mine, Function.comp_def]

@[simp]
theorem map_snd_theirs (operations : List Operation) :
    (theirs operations).map Prod.snd = operations := by
  simp [theirs, Function.comp_def]

@[simp]
theorem mine_nil : mine [] = [] :=
  rfl

@[simp]
theorem theirs_nil : theirs [] = [] :=
  rfl

@[simp]
theorem theirs_append (first second : List Operation) :
    theirs (first ++ second) = theirs first ++ theirs second :=
  List.map_append

@[simp]
theorem map_snd_viewOf (live : LiveTransition) :
    (viewOf live).map Prod.snd = live.operations := by
  simp [viewOf, LiveTransition.operations]

@[simp]
theorem map_snd_flatMap_viewOf (transitions : List LiveTransition) :
    (transitions.flatMap viewOf).map Prod.snd =
      transitions.flatMap LiveTransition.operations := by
  simp [List.map_flatMap]

/-- The operations do not touch the subscription. -/
def Spares
    (own : Option SubscriptionId)
    (operations : List Operation) : Prop :=
  ∀ operation ∈ operations, operation.uses = none ∨ operation.uses ≠ own

/-- Such operations can be done by others. -/
theorem byOthers_of_spares
    {own : Option SubscriptionId}
    {operations : List Operation}
    (spares : Spares own operations) :
    byOthers own operations = operations :=
  List.filter_eq_self.mpr fun operation member =>
    decide_eq_true (spares operation member)

/-- Two lists that spare the subscription. -/
theorem Spares.append
    {own : Option SubscriptionId}
    {first second : List Operation}
    (firstSpares : Spares own first)
    (secondSpares : Spares own second) :
    Spares own (first ++ second) := by
  intro operation member
  rcases List.mem_append.mp member with isFirst | isSecond
  · exact firstSpares operation isFirst
  · exact secondSpares operation isSecond

/-! ## What a connection reads -/

/-- What a call of `read_control` brings, and what its iteration learns. -/
abbrev Reading := ReadOutcome × Surroundings

/-- The reading of an input of `handle`. -/
def readingOf (input : LiveInput) : Reading :=
  (input.read, input.surroundings)

/-- The thread is in `read_control`. -/
def Worker.isReading : Worker → Bool
  | .reading _ _ => true
  | _ => false

/-- What the thread reads in an event. -/
def System.readOf (number : Nat) (system : System) : Event → List Reading
  | .read other outcome surroundings =>
      if other = number ∧
          (system.threads[number]?).any (·.worker.isReading) = true then
        [(outcome, surroundings)]
      else
        []
  | _ => []

/-- All that the thread reads in a run. -/
def System.reads (number : Nat) : System → List Event → List Reading
  | _, [] => []
  | system, event :: later =>
      system.readOf number event ++
        System.reads number (system.step event) later

/-! ## Iterations, finished and not -/

/-- `handle` comes here, and goes on from here. -/
def Reaches
    (connection : Connection)
    (opening : Opening)
    (start : Broadcaster)
    (inputs : List LiveInput)
    (transitions : List LiveTransition)
    (session : Session)
    (input : Bytes)
    (reached : Broadcaster) : Prop :=
  ∀ more,
    liveHandle connection (.start opening) [] start (inputs ++ more) =
      let rest := liveHandle connection session input reached more
      { rest with transitions := transitions ++ rest.transitions }

/--
The worker of an iteration under way, what has been done in it, and what it has
read.
-/
inductive Under
    (connection : Connection)
    (session : Session)
    (reached : Broadcaster)
    (input : Bytes) :
    Worker → List (Bool × Operation) → List Reading → Prop where
  | reading
      (before : List Operation)
      (spares : Spares session.subscription before) :
      Under connection session reached input (.reading session input)
        (theirs before) []
  | asked
      {outcome : ReadOutcome}
      {rest : Bytes}
      {request : Option Request}
      (surroundings : Surroundings)
      (isRead : readControl outcome input = .ok (request, rest))
      (before : List Operation)
      (spares : Spares session.subscription before) :
      Under connection session reached input
        (.asked session rest request surroundings) (theirs before)
        [(outcome, surroundings)]
  | rated
      {outcome : ReadOutcome}
      {rest : Bytes}
      {request : Option Request}
      (surroundings : Surroundings)
      (isRead : readControl outcome input = .ok (request, rest))
      (beforeCodec beforeFrameRate : List Operation)
      (sparesFirst : Spares session.subscription beforeCodec)
      (sparesSecond : Spares session.subscription beforeFrameRate) :
      Under connection session reached input
        (.rated session rest request surroundings
          (reached.run beforeCodec).state.codec)
        (theirs beforeCodec ++ theirs beforeFrameRate)
        [(outcome, surroundings)]
  | changed
      (outcome : ReadOutcome)
      {rest : Bytes}
      {request : Option Request}
      {surroundings : Surroundings}
      (isRead : readControl outcome input = .ok (request, rest))
      (live : LiveTransition)
      (interference : Interference)
      (isStep :
        live =
          liveStep connection session reached request surroundings
            interference)
      (spares :
        Spares
          (Worker.kept connection session request surroundings
            (learnedBefore session.subscription reached interference))
          interference.beforeReceive) :
      Under connection session reached input
        (.changed session rest request surroundings
          (learnedBefore session.subscription reached interference))
        (theirs live.before ++ mine live.requested ++
          theirs interference.beforeReceive)
        [(outcome, surroundings)]
  | moved
      (outcome : ReadOutcome)
      {rest : Bytes}
      {request : Option Request}
      {surroundings : Surroundings}
      (isRead : readControl outcome input = .ok (request, rest))
      (live : LiveTransition)
      (interference : Interference)
      (isStep :
        live =
          liveStep connection session reached request surroundings
            interference)
      (learned : Learned)
      (isLearned :
        learned =
          { learnedBefore session.subscription reached interference with
            received := learned.received })
      (isTransition :
        live.transition =
          Transition.of connection session request
            (surroundings.iteration learned))
      (spares :
        Spares
          (Worker.kept connection session request surroundings learned)
          interference.beforeEnd) :
      Under connection session reached input
        (.moved session rest request surroundings learned)
        (theirs live.before ++ mine live.requested ++
          theirs live.between ++ mine live.received ++
            theirs interference.beforeEnd)
        [(outcome, surroundings)]

/-- The broadcaster behind whole iterations. -/
def behind
    (earlier : List Operation)
    (transitions : List LiveTransition) : Broadcaster :=
  Broadcaster.initial.run
    (earlier ++ transitions.flatMap LiveTransition.operations)

/-- What has happened so far is a run of `handle` on what was read. -/
inductive Follows
    (connection : Connection)
    (opening : Opening) :
    Worker → List (Bool × Operation) → List Reading → Prop where
  | under
      (earlier : List Operation)
      (inputs : List LiveInput)
      (transitions : List LiveTransition)
      (session : Session)
      (input : Bytes)
      {worker : Worker}
      {viewed : List (Bool × Operation)}
      {reads : List Reading}
      (reaches :
        Reaches connection opening (Broadcaster.initial.run earlier)
          inputs transitions session input (behind earlier transitions))
      (under :
        Under connection session (behind earlier transitions) input worker
          viewed reads) :
      Follows connection opening worker
        (theirs earlier ++ transitions.flatMap viewOf ++ viewed)
        (inputs.map readingOf ++ reads)
  | ended
      (earlier : List Operation)
      (inputs : List LiveInput)
      (outcome : LiveOutcome)
      (isOutcome :
        liveHandle connection (.start opening) []
          (Broadcaster.initial.run earlier) inputs = outcome)
      (result : Except IoError Unit)
      (closed : outcome.next = .closed result)
      (late farewell pending : List Operation)
      (isBroadcaster :
        outcome.broadcaster =
          (behind earlier outcome.transitions).run farewell) :
      Follows connection opening (.ended result)
        (theirs earlier ++ outcome.transitions.flatMap viewOf ++
          theirs late ++ mine farewell ++ theirs pending)
        (inputs.map readingOf)

@[simp]
theorem behind_concat
    (earlier : List Operation)
    (transitions : List LiveTransition)
    (live : LiveTransition) :
    behind earlier (transitions ++ [live]) =
      (behind earlier transitions).run live.operations := by
  simp [behind, ← Broadcaster.run_append]

/-- `handle` starts. -/
theorem reaches_start
    (connection : Connection)
    (opening : Opening)
    (earlier : List Operation) :
    Reaches connection opening (Broadcaster.initial.run earlier) [] []
      (.start opening) [] (behind earlier []) := by
  intro more
  simp [behind]

/-- `handle` reaches the end of an iteration that goes on. -/
theorem Reaches.step
    {connection : Connection}
    {opening : Opening}
    {start reached : Broadcaster}
    {inputs : List LiveInput}
    {transitions : List LiveTransition}
    {session after : Session}
    {input rest : Bytes}
    (reaches :
      Reaches connection opening start inputs transitions session input
        reached)
    {request : Option Request}
    (given : LiveInput)
    (isRead : readControl given.read input = .ok (request, rest))
    (goesOn :
      (liveStep connection session reached request given.surroundings
          given.interference).transition.performed.next =
        .running after) :
    let live :=
      liveStep connection session reached request given.surroundings
        given.interference
    Reaches connection opening start (inputs ++ [given])
      (transitions ++ [live]) after rest live.after := by
  intro live more
  rw [List.append_assoc, List.singleton_append, reaches (given :: more)]
  simp only [liveHandle, isRead, goesOn]
  simp [live]

section Pieces

variable {connection : Connection}
variable {opening : Opening}
variable {session : Session}
variable {reached broadcaster : Broadcaster}
variable {input : Bytes}
variable {worker : Worker}
variable {viewed : List (Bool × Operation)}
variable {reads : List Reading}

/-- Others do something that spares the subscription. -/
theorem Under.interfere
    (under : Under connection session reached input worker viewed reads)
    {operations : List Operation}
    (spares : Spares (worker.subscription? connection) operations) :
    Under connection session reached input worker
      (viewed ++ theirs operations) reads := by
  cases under with
  | reading before sparesBefore =>
      rw [← theirs_append]
      exact .reading (before ++ operations) (sparesBefore.append spares)
  | asked surroundings isRead before sparesBefore =>
      rw [← theirs_append]
      exact .asked surroundings isRead (before ++ operations)
        (sparesBefore.append spares)
  | rated surroundings isRead beforeCodec beforeFrameRate sparesFirst
      sparesSecond =>
      rw [List.append_assoc, ← theirs_append]
      exact .rated surroundings isRead beforeCodec
        (beforeFrameRate ++ operations) sparesFirst
        (sparesSecond.append spares)
  | changed outcome isRead live interference isStep sparesBetween =>
      rw [List.append_assoc, ← theirs_append]
      subst isStep
      let extended : Interference :=
        { interference with
          beforeReceive := interference.beforeReceive ++ operations }
      exact .changed outcome isRead
        (liveStep connection session reached _ _ extended) extended rfl
        (sparesBetween.append spares)
  | moved outcome isRead live interference isStep learned isLearned
      isTransition sparesEnd =>
      rw [List.append_assoc, ← theirs_append]
      subst isStep
      let extended : Interference :=
        { interference with
          beforeEnd := interference.beforeEnd ++ operations }
      exact .moved outcome isRead
        (liveStep connection session reached _ _ extended) extended rfl
        learned isLearned isTransition (sparesEnd.append spares)

/-- `read_control` of the worker. -/
theorem Follows.read
    (follows : Follows connection opening worker viewed reads)
    (outcome : ReadOutcome)
    (surroundings : Surroundings) :
    Follows connection opening (worker.read outcome surroundings).1
      (viewed ++ mine (worker.read outcome surroundings).2)
      (reads ++
        if worker.isReading then [(outcome, surroundings)] else []) := by
  cases worker with
  | reading session input =>
      cases follows with
      | under earlier inputs transitions session input reaches under =>
      cases under with
      | reading before spares =>
      rw [Worker.read]
      cases isRead : readControl outcome input with
      | error error =>
          have run :=
            reaches [{
              read := outcome
              surroundings := surroundings
              interference := ⟨[], [], [], []⟩ }]
          simp only [liveHandle, isRead, List.append_nil] at run
          have ended :=
            Follows.ended earlier _ _ run (.error error) rfl before
              (session.subscription.map .drop).toList [] rfl
          simpa [theirs, mine, Worker.isReading, readingOf] using ended
      | ok parts =>
          obtain ⟨request, rest⟩ := parts
          have asked :=
            Follows.under earlier inputs transitions session input reaches
              (.asked surroundings isRead before spares)
          simpa [mine, Worker.isReading] using asked
  | _ =>
      simpa [Worker.read, mine, Worker.isReading] using follows

/-- The other pieces of an iteration. -/
theorem Follows.advance
    (follows : Follows connection opening worker viewed reads)
    (isBroadcaster :
      broadcaster = Broadcaster.initial.run (viewed.map Prod.snd)) :
    Follows connection opening (worker.advance connection broadcaster).1
      (viewed ++ mine (worker.advance connection broadcaster).2)
      reads := by
  cases worker with
  | asked session input request surroundings =>
      cases follows with
      | under earlier inputs transitions session input reaches under =>
      cases under with
      | asked surroundings isRead before spares =>
      have rated :=
        Follows.under earlier inputs transitions session _ reaches
          (.rated surroundings isRead before [] spares (by simp [Spares]))
      have here :
          broadcaster = (behind earlier transitions).run before := by
        rw [isBroadcaster, behind, ← Broadcaster.run_append]
        simp
      rw [← here] at rated
      simpa [Worker.advance, mine, theirs] using rated
  | rated session input request surroundings codec =>
      cases follows with
      | under earlier inputs transitions session input reaches under =>
      cases under with
      | rated surroundings isRead beforeCodec beforeFrameRate sparesFirst
          sparesSecond =>
      let interference : Interference :=
        ⟨beforeCodec, beforeFrameRate, [], []⟩
      have changed :=
        Follows.under earlier inputs transitions session _ reaches
          (.changed _ isRead
            (liveStep connection session (behind earlier transitions)
              request surroundings interference)
            interference rfl (by simp [Spares, interference]))
      have here :
          broadcaster =
            ((behind earlier transitions).run beforeCodec).run
              beforeFrameRate := by
        rw [isBroadcaster, behind, ← Broadcaster.run_append,
          ← Broadcaster.run_append]
        simp
      simpa [Worker.advance, Worker.kept, here, learnedBefore, liveStep,
        interference, byOthers_of_spares, sparesFirst, sparesSecond,
        theirs] using changed
  | changed session input request surroundings learned =>
      cases follows with
      | under earlier inputs transitions session input reaches under =>
      cases under with
      | changed outcome isRead live interference isStep spares =>
      subst isStep
      have here :
          broadcaster =
            (behind earlier transitions).run
              ((liveStep connection session (behind earlier transitions)
                  request surroundings interference).before ++
                (liveStep connection session (behind earlier transitions)
                  request surroundings interference).requested ++
                byOthers
                  (Worker.kept connection session request surroundings
                    (learnedBefore session.subscription
                      (behind earlier transitions) interference))
                  interference.beforeReceive) := by
        rw [isBroadcaster, byOthers_of_spares spares, behind,
          ← Broadcaster.run_append]
        simp
      let waiting : Option SubscriptionId :=
        receiving surroundings.failure
          (served connection
            (surroundings.iteration
              (learnedBefore session.subscription
                (behind earlier transitions) interference))
            session request)
      let unfinished : Interference :=
        { interference with beforeEnd := [] }
      have moved :=
        Follows.under earlier inputs transitions session _ reaches
          (.moved outcome isRead
            (liveStep connection session (behind earlier transitions)
              request surroundings unfinished)
            unfinished rfl
            { learnedBefore session.subscription
                (behind earlier transitions) interference with
              received :=
                waiting.bind fun id => (broadcaster.recvTimeout id).1 }
            rfl (by rw [here]; rfl) (by simp [Spares, unfinished]))
      have between :
          (liveStep connection session (behind earlier transitions)
              request surroundings unfinished).between =
            interference.beforeReceive :=
        byOthers_of_spares spares
      simp only [between, unfinished, theirs_nil, List.append_nil,
        List.append_assoc] at moved ⊢
      exact moved
  | moved session input request surroundings learned =>
      cases follows with
      | under earlier inputs transitions session input reaches under =>
      cases under with
      | moved outcome isRead live interference isStep learned isLearned
          isTransition spares =>
      let given : LiveInput := {
        read := outcome
        surroundings := surroundings
        interference := interference }
      have keptEq :
          Worker.kept connection session request surroundings learned =
            Worker.kept connection session request surroundings
              (learnedBefore session.subscription
                (behind earlier transitions) interference) := by
        rw [isLearned, Worker.kept, served_received]
        rfl
      have ending : interference.beforeEnd = live.behind := by
        rw [isStep]
        rw [keptEq] at spares
        exact (byOthers_of_spares spares).symm
      have dropped :
          live.dropped =
            if live.transition.performed.next.isClosed then
              ((Worker.kept connection session request surroundings
                learned).map .drop).toList
            else
              [] := by
        rw [keptEq, isStep]
        rfl
      rw [Worker.advance, ← isTransition, ending]
      cases isNext : live.transition.performed.next with
      | running after =>
          have goesOn := isNext
          rw [isStep] at goesOn
          have further :=
            Follows.under earlier (inputs ++ [given])
              (transitions ++ [live]) after _
              (by
                rw [behind_concat, isStep]
                exact reaches.step given isRead goesOn)
              (.reading [] (by simp [Spares]))
          simpa [viewOf, dropped, isNext, Next.isClosed, readingOf, given]
            using further
      | closed result =>
          have run := reaches [given]
          simp only [liveHandle, isRead, given, ← isStep, isNext] at run
          have ended :=
            Follows.ended earlier _ _ run result rfl [] [] []
              (by rw [behind_concat, isStep]; rfl)
          simpa [viewOf, dropped, isNext, Next.isClosed, readingOf, given]
            using ended
  | _ =>
      simpa [Worker.advance, mine] using follows

/-- Others do something that spares the subscription. -/
theorem Follows.interfere
    (follows : Follows connection opening worker viewed reads)
    {operations : List Operation}
    (spares : Spares (worker.subscription? connection) operations) :
    Follows connection opening worker (viewed ++ theirs operations)
      reads := by
  cases follows with
  | under earlier inputs transitions session input reaches under =>
      rw [List.append_assoc]
      exact .under earlier inputs transitions session input reaches
        (under.interfere spares)
  | ended earlier inputs outcome isOutcome result closed late farewell
      pending isBroadcaster =>
      rw [List.append_assoc, ← theirs_append]
      exact .ended earlier inputs outcome isOutcome result closed late
        farewell (pending ++ operations) isBroadcaster

end Pieces

/-! ## Every run of the system -/

/-- Every thread follows `handle` on what it has read. -/
structure Traced (system : System) (reads : Nat → List Reading) : Prop where
  logged :
    system.broadcaster =
      Broadcaster.initial.run (system.log.map Prod.snd)
  known :
    ∀ entry ∈ system.log, ∀ number, entry.1 = some number →
      number < system.threads.length
  unread :
    ∀ number, system.threads.length ≤ number → reads number = []
  follows :
    ∀ (number : Nat) (thread : Thread),
      system.threads[number]? = some thread →
        Follows thread.connection thread.opening thread.worker
          (system.log.map (view number)) (reads number)

/-- What others do, in the view of a thread. -/
theorem map_view_others
    {number : Nat}
    {other : Option Nat}
    (others : other ≠ some number)
    (operations : List Operation) :
    (operations.map fun operation => (other, operation)).map
        (view number) =
      theirs operations := by
  simp [view, theirs, others, Function.comp_def]

/-- What a thread does, in its own view. -/
theorem map_view_own
    (number : Nat)
    (operations : List Operation) :
    (operations.map fun operation => (some number, operation)).map
        (view number) =
      mine operations := by
  simp [view, mine, Function.comp_def]

/-- The piece of another thread spares the subscription. -/
theorem spares_of_change
    {broadcaster : Broadcaster}
    {held after own : Option SubscriptionId}
    {operations : List Operation}
    (change : Change broadcaster held operations after)
    (apart : ∀ id, held = some id → own ≠ some id) :
    Spares own operations := by
  intro operation member
  cases change with
  | nothing held =>
      cases member
  | receive id =>
      rw [List.mem_singleton.mp member]
      exact .inr (Ne.symm (apart id rfl))
  | subscribe =>
      rw [List.mem_singleton.mp member]
      exact .inl rfl
  | drop id =>
      rw [List.mem_singleton.mp member]
      exact .inr (Ne.symm (apart id rfl))

section Steps

variable {system : System}
variable {reads : Nat → List Reading}

/-- Nothing has happened. -/
theorem traced_initial : Traced .initial fun _ => [] where
  logged := rfl
  known := by simp [System.initial]
  unread _ _ := rfl
  follows := by simp [System.initial]

/-- Capture code does something. -/
theorem Traced.capture
    (traced : Traced system reads)
    {operation : Operation}
    (isOwn : isCapture operation = true) :
    Traced (system.perform none [operation]) reads where
  logged := by
    simp [System.perform, traced.logged, ← Broadcaster.run_append]
  known := by
    intro entry member number isNumber
    rcases List.mem_append.mp member with early | late
    · exact traced.known entry early number isNumber
    · rw [List.mem_singleton.mp late] at isNumber
      cases isNumber
  unread := traced.unread
  follows := by
    intro number thread found
    have noUse : operation.uses = none := by
      cases operation <;> first | rfl | cases isOwn
    have spares :
        Spares (thread.worker.subscription? thread.connection)
          [operation] := by
      intro other member
      rw [List.mem_singleton.mp member]
      exact .inl noUse
    have interfered :=
      (traced.follows number thread found).interfere spares
    simp only [System.perform, List.map_append]
    rw [map_view_others (by simp)]
    exact interfered

/-- The loop adds a thread at the start of `handle`, if any. -/
theorem Traced.loop
    (traced : Traced system reads)
    (surroundings : RunUntil.Surroundings)
    (connection : Connection)
    (opening : Opening) :
    Traced (system.step (.loop surroundings connection opening)) reads := by
  simp only [System.step]
  split
  · refine ⟨traced.logged, ?_, ?_, ?_⟩
    · intro entry member number isNumber
      have inside := traced.known entry member number isNumber
      simp only [List.length_append, List.length_singleton]
      omega
    · intro number beyond
      simp only [List.length_append, List.length_singleton] at beyond
      exact traced.unread number (by omega)
    · intro number thread found
      rw [List.getElem?_append] at found
      split at found
      · exact traced.follows number thread found
      · rename_i beyond
        have isNew : thread = _ :=
          (List.mem_singleton.mp (List.mem_of_getElem? found))
        subst isNew
        have allOthers :
            system.log.map (view number) =
              theirs (system.log.map Prod.snd) := by
          rw [theirs, List.map_map]
          apply List.map_congr_left
          intro entry member
          have notOwn : entry.1 ≠ some number := fun isNumber =>
            beyond (traced.known entry member number isNumber)
          simp [view, notOwn]
        have started :=
          Follows.under _ [] [] (.start opening) []
            (reaches_start connection opening (system.log.map Prod.snd))
            (.reading [] (by simp [Spares]))
        rw [allOthers, traced.unread number (Nat.le_of_not_lt beyond)]
        simpa using started
  · exact ⟨traced.logged, traced.known, traced.unread, traced.follows⟩

/-- A piece of a thread, in which it may read. -/
theorem Traced.change
    (traced : Traced system reads)
    (sound : Sound system)
    (number : Nat)
    (piece : Thread → Worker × List Operation)
    (read : Thread → List Reading)
    (changes :
      ∀ thread : Thread,
        Change system.broadcaster thread.subscription? (piece thread).2
          ((piece thread).1.subscription? thread.connection))
    (goesOn :
      ∀ (thread : Thread) (viewed : List (Bool × Operation)),
        system.broadcaster =
            Broadcaster.initial.run (viewed.map Prod.snd) →
          Follows thread.connection thread.opening thread.worker viewed
              (reads number) →
            Follows thread.connection thread.opening (piece thread).1
              (viewed ++ mine (piece thread).2)
              (reads number ++ read thread)) :
    Traced (system.change number piece) fun other =>
      reads other ++
        if number = other then
          ((system.threads[number]?).map read).getD []
        else
          [] := by
  rw [System.change]
  split
  · rename_i missing
    simpa [missing] using traced
  · rename_i thread found
    have inside := (List.getElem?_eq_some_iff.mp found).1
    have logged :
        system.broadcaster =
          Broadcaster.initial.run
            ((system.log.map (view number)).map Prod.snd) := by
      rw [traced.logged, List.map_map]
      rfl
    refine ⟨?_, ?_, ?_, ?_⟩
    · simp [System.perform, traced.logged, ← Broadcaster.run_append,
        Function.comp_def]
    · intro entry member other isOther
      simp only [System.perform, List.length_set] at member ⊢
      rcases List.mem_append.mp member with early | late
      · exact traced.known entry early other isOther
      · obtain ⟨operation, -, rfl⟩ := List.mem_map.mp late
        cases isOther
        exact inside
    · intro other beyond
      simp only [System.perform, List.length_set] at beyond
      have differs : number ≠ other := by omega
      rw [traced.unread other beyond, if_neg differs, List.append_nil]
    · intro other otherThread otherFound
      simp only [System.perform, List.map_append] at otherFound ⊢
      by_cases same : number = other
      · subst same
        rw [List.getElem?_set_self inside] at otherFound
        cases otherFound
        rw [map_view_own, if_pos rfl, found]
        exact goesOn thread _ logged (traced.follows number thread found)
      · rw [List.getElem?_set_ne same] at otherFound
        rw [map_view_others (by simpa using same), if_neg same,
          List.append_nil]
        apply (traced.follows other otherThread otherFound).interfere
        apply spares_of_change (changes thread)
        intro id holds otherHolds
        exact same (sound.exclusive found otherFound holds otherHolds)

/-- What a thread reads in an event for it. -/
theorem readOf_read
    (number other : Nat)
    (outcome : ReadOutcome)
    (surroundings : Surroundings) :
    system.readOf other (.read number outcome surroundings) =
      if number = other then
        ((system.threads[number]?).map fun thread =>
          if thread.worker.isReading then
            [(outcome, surroundings)]
          else
            []).getD []
      else
        [] := by
  by_cases same : number = other
  · subst same
    cases found : system.threads[number]? with
    | none =>
        simp [System.readOf, found]
    | some thread =>
        simp [System.readOf, found]
  · simp [System.readOf, same]

/-- Every step keeps the threads on the track of `handle`. -/
theorem Traced.step
    (traced : Traced system reads)
    (sound : Sound system)
    (event : Event) :
    Traced (system.step event) fun number =>
      reads number ++ system.readOf number event := by
  cases event with
  | capture operation =>
      rw [System.step]
      split
      · rename_i isOwn
        simpa [System.readOf] using traced.capture isOwn
      · simpa [System.readOf] using traced
  | loop surroundings connection opening =>
      simpa [System.readOf] using
        traced.loop surroundings connection opening
  | read number outcome surroundings =>
      simp only [readOf_read]
      apply traced.change sound number
      · intro thread
        exact thread.worker.read_change outcome surroundings
      · intro thread viewed _ follows
        exact follows.read outcome surroundings
  | advance number =>
      have advanced :=
        traced.change sound number
          (fun thread =>
            thread.worker.advance thread.connection system.broadcaster)
          (fun _ => [])
          (fun thread => thread.worker.advance_change)
          fun thread viewed isBroadcaster follows => by
            simpa using follows.advance isBroadcaster
      have nothing :
          ((system.threads[number]?).map fun _ =>
            ([] : List Reading)).getD [] = [] := by
        cases system.threads[number]? <;> rfl
      simp only [nothing, ite_self] at advanced
      exact advanced

/-- Every run keeps the threads on the track of `handle`. -/
theorem Traced.run
    (traced : Traced system reads)
    (sound : Sound system)
    (events : List Event) :
    Traced (system.run events) fun number =>
      reads number ++ system.reads number events := by
  induction events generalizing system reads with
  | nil =>
      simpa [System.reads, System.run] using traced
  | cons event later inductionHypothesis =>
      have behind :=
        inductionHypothesis (traced.step sound event) (sound.step event)
      simp only [List.append_assoc] at behind
      exact behind

end Steps

/--
How the system looks to one connection.  A thread is in some iteration of
`handle` at any time, on what it has read itself and on the broadcaster that it
found, with the operations of all others in between.  One that waits for a
request has gone through whole iterations, and one that has ended is at the
result.  Only the farewell to a subscription behind a failed read comes later
than in `handle`.
-/
structure ConnectionRules (events : List Event) : Prop where
  logged :
    (System.initial.run events).broadcaster =
      Broadcaster.initial.run
        ((System.initial.run events).log.map Prod.snd)
  follows :
    ∀ (number : Nat) (thread : Thread),
      (System.initial.run events).threads[number]? = some thread →
        Follows thread.connection thread.opening thread.worker
          ((System.initial.run events).log.map (view number))
          (System.initial.reads number events)
  reading :
    ∀ (number : Nat) (thread : Thread) (session : Session)
        (input : Bytes),
      (System.initial.run events).threads[number]? = some thread →
        thread.worker = .reading session input →
          ∃ (earlier pending : List Operation) (inputs : List LiveInput),
            let outcome :=
              liveHandle thread.connection (.start thread.opening) []
                (Broadcaster.initial.run earlier) inputs
            inputs.map readingOf = System.initial.reads number events ∧
              outcome.next = .running session ∧
              (System.initial.run events).log.map (view number) =
                theirs earlier ++ outcome.transitions.flatMap viewOf ++
                  theirs pending ∧
              (System.initial.run events).broadcaster =
                outcome.broadcaster.run pending
  ended :
    ∀ (number : Nat) (thread : Thread) (result : Except IoError Unit),
      (System.initial.run events).threads[number]? = some thread →
        thread.worker = .ended result →
          ∃ (earlier late farewell pending : List Operation)
              (inputs : List LiveInput),
            let outcome :=
              liveHandle thread.connection (.start thread.opening) []
                (Broadcaster.initial.run earlier) inputs
            inputs.map readingOf = System.initial.reads number events ∧
              outcome.next = .closed result ∧
              (System.initial.run events).log.map (view number) =
                theirs earlier ++ outcome.transitions.flatMap viewOf ++
                  theirs late ++ mine farewell ++ theirs pending ∧
              outcome.broadcaster =
                Broadcaster.initial.run
                  (earlier ++
                    outcome.transitions.flatMap
                      LiveTransition.operations ++ farewell)

/-- The connection rules hold in every run of the server. -/
theorem connections_of_the_system (events : List Event) :
    ConnectionRules events := by
  have traced := traced_initial.run sound_initial events
  simp only [List.nil_append] at traced
  refine ⟨traced.logged, traced.follows, ?_, ?_⟩
  · intro number thread session input found here
    have follows := traced.follows number thread found
    rw [here] at follows
    generalize isView :
      (System.initial.run events).log.map (view number) = viewed
      at follows
    generalize System.initial.reads number events = reads at follows
    cases follows with
    | under earlier inputs transitions session input reaches under =>
    cases under with
    | reading before spares =>
    have run := reaches []
    rw [List.append_nil] at run
    refine ⟨earlier, before, inputs, ?_⟩
    simp only [run, liveHandle, List.append_nil, true_and]
    rw [traced.logged, behind, ← Broadcaster.run_append]
    congr 1
    have operations := congrArg (List.map Prod.snd) isView
    rw [List.map_map] at operations
    simpa [view, Function.comp_def] using operations
  · intro number thread result found here
    have follows := traced.follows number thread found
    rw [here] at follows
    generalize isView :
      (System.initial.run events).log.map (view number) = viewed
      at follows
    generalize System.initial.reads number events = reads at follows
    cases follows with
    | under earlier inputs transitions session input reaches under =>
        cases under
    | ended earlier inputs outcome isOutcome result closed late farewell
        pending isBroadcaster =>
        refine ⟨earlier, late, farewell, pending, inputs, ?_⟩
        subst isOutcome
        refine ⟨rfl, closed, rfl, ?_⟩
        rw [isBroadcaster, behind, ← Broadcaster.run_append]

end CamRtsp.ServerSystem
