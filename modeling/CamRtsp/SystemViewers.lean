import CamRtsp.KeyframeRequests
import CamRtsp.ServerSystem

namespace CamRtsp.ServerSystem

open Broadcaster (Operation subscriptionChange)

/-!
# The viewers of the whole server

A subscription lives exactly as long as one connection holds it.  So the
viewers that the statistics report are the connections between PLAY and PAUSE,
never more than the loop admits, and none when the server has returned.
-/

/-! ## What a piece does to the subscription of its thread -/

/-- The operations of a piece, between the subscriptions around it. -/
inductive Change (broadcaster : Broadcaster) :
    Option SubscriptionId → List Operation → Option SubscriptionId → Prop
    where
  | nothing (held : Option SubscriptionId) :
      Change broadcaster held [] held
  | receive (id : SubscriptionId) :
      Change broadcaster (some id) [.recvTimeout id] (some id)
  | subscribe :
      Change broadcaster none [.subscribe] (some broadcaster.subscribe.1)
  | drop (id : SubscriptionId) :
      Change broadcaster (some id) [.drop id] none

section Pieces

variable {connection : Connection}
variable {broadcaster : Broadcaster}
variable {session : Session}
variable {iteration : Iteration}

/-- A request keeps, creates or drops the subscription. -/
theorem subscription_served
    (connection : Connection)
    (iteration : Iteration)
    (session : Session)
    (request : Option Request) :
    (served connection iteration session request).session.subscription =
        session.subscription ∨
      (session.subscription = none ∧
        (served connection iteration session
            request).session.subscription =
          some iteration.subscription) ∨
      (served connection iteration session request).session.subscription =
        none := by
  cases request with
  | none =>
      exact .inl rfl
  | some asked =>
      have serving := serve_served connection iteration session asked
      simp only [served]
      generalize serve connection iteration session asked = handled
        at serving ⊢
      rcases serving.dispatched_or_turnedAway with dispatched | turnedAway
      · cases dispatched with
        | played named delivered =>
            cases held : session.subscription with
            | none =>
                exact .inr (.inl ⟨rfl, by simp [answer]⟩)
            | some id =>
                exact .inl (by simp [answer])
        | paused named subscribed =>
            exact .inr (.inr rfl)
        | _ =>
            exact .inl rfl
      · exact .inl turnedAway.subscription

/-- The request part changes the subscription as it should. -/
theorem change_of_served
    (fresh : iteration.subscription = broadcaster.subscribe.1)
    (request : Option Request) :
    Change broadcaster session.subscription
      (subscriptionChange session.subscription
        (served connection iteration session
          request).session.subscription)
      (served connection iteration session
        request).session.subscription := by
  rcases subscription_served connection iteration session request with
    same | ⟨none, created⟩ | dropped
  · rw [same]
    cases session.subscription <;> exact .nothing _
  · rw [created, none, fresh]
    exact .subscribe
  · rw [dropped]
    cases session.subscription with
    | none =>
        exact .nothing none
    | some id =>
        exact .drop id

/-- A dropped subscription, if there is one. -/
theorem change_of_drop (held : Option SubscriptionId) :
    Change broadcaster held (held.map .drop).toList none := by
  cases held with
  | none =>
      exact .nothing none
  | some id =>
      exact .drop id

/-- `read_control` drops the subscription when it fails. -/
theorem Worker.read_change
    (worker : Worker)
    (outcome : ReadOutcome)
    (surroundings : Surroundings) :
    Change broadcaster (worker.subscription? connection)
      (worker.read outcome surroundings).2
      ((worker.read outcome surroundings).1.subscription? connection) := by
  cases worker with
  | reading session input =>
      rw [Worker.read]
      split
      · exact change_of_drop session.subscription
      · exact .nothing _
  | _ =>
      exact .nothing _

/-- Every piece changes the subscription as it should. -/
theorem Worker.advance_change (worker : Worker) :
    Change broadcaster (worker.subscription? connection)
      (worker.advance connection broadcaster).2
      ((worker.advance connection broadcaster).1.subscription?
        connection) := by
  cases worker with
  | rated session input request surroundings codec =>
      exact change_of_served rfl request
  | changed session input request surroundings learned =>
      simp only [Worker.advance, Worker.subscription?, Worker.kept,
        served_received]
      rw [receiving]
      split
      · cases (served connection (surroundings.iteration learned) session
            request).session.subscription with
        | none =>
            exact .nothing none
        | some id =>
            exact .receive id
      · exact .nothing _
  | moved session input request surroundings learned =>
      rw [Worker.advance]
      split
      · rename_i after goesOn
        have same := (step_sameControl goesOn).subscription
        simp only [Worker.subscription?, Worker.kept, same]
        exact .nothing _
      · exact change_of_drop _
  | _ =>
      exact .nothing _

end Pieces

/-! ## Living subscriptions are held -/

section Alive

variable {broadcaster : Broadcaster}
variable {operation : Operation}
variable {id : SubscriptionId}

/-- A subscription lives from `subscribe` to `drop`. -/
theorem alive_step_iff (wellFormed : broadcaster.WellFormed) :
    (broadcaster.step operation).alive id = true ↔
      (broadcaster.alive id = true ∧ operation ≠ .drop id) ∨
        (operation = .subscribe ∧ id = broadcaster.shared.length) := by
  constructor
  · intro isAlive
    rcases Broadcaster.alive_of_alive_step wellFormed isAlive with
      before | isNew
    · rw [Broadcaster.alive_step wellFormed
        (Broadcaster.known_of_alive before), before, Bool.true_and,
        decide_eq_true_eq] at isAlive
      exact .inl ⟨before, isAlive⟩
    · exact .inr isNew
  · rintro (⟨before, notDropped⟩ | ⟨rfl, rfl⟩)
    · rw [Broadcaster.alive_step wellFormed
        (Broadcaster.known_of_alive before), before]
      simpa using notDropped
    · rw [Broadcaster.alive, Broadcaster.shared_subscribe]
      rfl

/-- A subscription yet to be created does not live. -/
theorem not_alive_subscribe (broadcaster : Broadcaster) :
    broadcaster.alive broadcaster.subscribe.1 = false := by
  rw [Broadcaster.alive, Broadcaster.subscribe]
  simp

end Alive

/-- The listed subscriptions are the living ones, once each. -/
structure Owned
    (broadcaster : Broadcaster)
    (held : List SubscriptionId) : Prop where
  nodup : held.Nodup
  alive : ∀ id, id ∈ held ↔ broadcaster.alive id = true

section Owning

variable {broadcaster : Broadcaster}
variable {front back : List SubscriptionId}
variable {before after : Option SubscriptionId}
variable {operations : List Operation}

/-- An operation that neither creates nor drops. -/
theorem Owned.step
    {held : List SubscriptionId}
    (owned : Owned broadcaster held)
    (wellFormed : broadcaster.WellFormed)
    {operation : Operation}
    (notSubscribe : operation ≠ .subscribe)
    (notDrop : ∀ id, operation ≠ .drop id) :
    Owned (broadcaster.step operation) held where
  nodup := owned.nodup
  alive := by
    intro id
    rw [owned.alive, alive_step_iff wellFormed]
    simp [notSubscribe, notDrop]

/-- A change of one holder keeps the list exact. -/
theorem Owned.change
    (owned : Owned broadcaster (front ++ before.toList ++ back))
    (wellFormed : broadcaster.WellFormed)
    (change : Change broadcaster before operations after) :
    Owned (broadcaster.run operations)
      (front ++ after.toList ++ back) := by
  cases change with
  | nothing held =>
      exact owned
  | receive id =>
      have kept : Owned (broadcaster.step (.recvTimeout id)) _ :=
        owned.step wellFormed (by simp) (by simp)
      exact kept
  | subscribe =>
      have absent : broadcaster.subscribe.1 ∉ front ++ back := by
        intro member
        have isAlive := (owned.alive _).mp (by simpa using member)
        rw [not_alive_subscribe] at isAlive
        cases isAlive
      refine ⟨?_, ?_⟩
      · have nodup := owned.nodup
        rw [Option.toList_none, List.append_nil] at nodup
        rw [Option.toList_some, List.append_assoc,
          List.singleton_append, List.nodup_middle, List.nodup_cons]
        exact ⟨absent, nodup⟩
      · intro id
        change _ ↔ (broadcaster.step .subscribe).alive id = true
        rw [alive_step_iff wellFormed, ← owned.alive]
        simp [Broadcaster.subscribe]
        tauto
  | drop dropped =>
      have nodup := owned.nodup
      rw [Option.toList_some, List.append_assoc, List.singleton_append,
        List.nodup_middle, List.nodup_cons] at nodup
      refine ⟨by simpa using nodup.2, ?_⟩
      intro id
      change _ ↔ (broadcaster.step (.drop dropped)).alive id = true
      rw [alive_step_iff wellFormed, ← owned.alive]
      have absent := nodup.1
      rw [List.mem_append] at absent
      by_cases same : id = dropped
      · subst same
        simp [absent]
      · simp [same, Ne.symm same]

end Owning

/-! ## Every run of the system -/

/-- What holds of every reachable state. -/
structure Sound (system : System) : Prop where
  wellFormed : system.broadcaster.WellFormed
  owned : Owned system.broadcaster system.subscriptions
  reached : ∃ actions, system.loop = RunUntil.Server.initial.run actions
  counted : system.threads.length = system.loop.workers
  finished :
    ∀ number ∈ system.loop.finished,
      ∃ thread, system.threads[number]? = some thread ∧
        thread.worker.isEnded = true

section Steps

variable {system : System}

/-- Nothing has happened. -/
theorem sound_initial : Sound .initial where
  wellFormed := Broadcaster.wellFormed_initial
  owned :=
    ⟨List.nodup_nil, by
      simp [System.initial, System.subscriptions, Broadcaster.alive,
        Broadcaster.initial]⟩
  reached := ⟨[], rfl⟩
  counted := rfl
  finished := by simp [System.initial, RunUntil.Server.initial]

/-- Capture code neither creates nor drops subscriptions. -/
theorem Sound.capture
    (sound : Sound system)
    {operation : Operation}
    (isOwn : isCapture operation = true) :
    Sound (system.perform none [operation]) where
  wellFormed := sound.wellFormed.step operation
  owned :=
    sound.owned.step sound.wellFormed (by rintro rfl; cases isOwn)
      (by rintro id rfl; cases isOwn)
  reached := sound.reached
  counted := sound.counted
  finished := sound.finished

/-- A step of the loop spawns one worker or none, and joins nobody early. -/
theorem workers_step
    (loop : RunUntil.Server)
    (surroundings : RunUntil.Surroundings) :
    (loop.step surroundings).finished = loop.finished ∧
      ((loop.step surroundings).workers = loop.workers ∨
        (loop.step surroundings).workers = loop.workers + 1) := by
  unfold RunUntil.Server.step
  split
  · split <;> exact ⟨rfl, .inl rfl⟩
  · split <;> exact ⟨rfl, .inl rfl⟩
  · unfold RunUntil.Server.reap
    split
    · exact ⟨rfl, .inl rfl⟩
    · split <;> exact ⟨rfl, .inl rfl⟩
  · unfold RunUntil.Server.accept
    split
    · split
      · exact ⟨rfl, .inl rfl⟩
      · split
        · exact ⟨rfl, .inl rfl⟩
        · exact ⟨rfl, .inl rfl⟩
        · exact ⟨rfl, .inr rfl⟩
    · split
      · exact ⟨rfl, .inl rfl⟩
      · split <;> exact ⟨rfl, .inl rfl⟩
  · split <;> exact ⟨rfl, .inl rfl⟩
  · split
    · exact ⟨rfl, .inl rfl⟩
    · split <;> exact ⟨rfl, .inl rfl⟩
  · exact ⟨rfl, .inl rfl⟩

/-- The loop adds a thread without a subscription, if any. -/
theorem Sound.loop
    (sound : Sound system)
    (surroundings : RunUntil.Surroundings)
    (connection : Connection)
    (opening : Opening) :
    Sound (system.step (.loop surroundings connection opening)) := by
  obtain ⟨sameFinished, workers⟩ := workers_step system.loop surroundings
  obtain ⟨actions, isRun⟩ := sound.reached
  refine ⟨sound.wellFormed, ?_,
    ⟨actions ++ [.step surroundings], ?_⟩, ?_, ?_⟩
  · have same :
        (system.step
            (.loop surroundings connection opening)).subscriptions =
          system.subscriptions := by
      simp only [System.step, System.subscriptions]
      split
      · rw [List.filterMap_append]
        exact List.append_nil _
      · rfl
    rw [same]
    exact sound.owned
  · rw [RunUntil.Server.run_concat, ← isRun]
    rfl
  · simp only [System.step]
    have counted := sound.counted
    split
    · rw [List.length_append, List.length_singleton]
      omega
    · omega
  · intro number isFinished
    simp only [System.step] at isFinished ⊢
    rw [sameFinished] at isFinished
    obtain ⟨thread, found, isEnded⟩ := sound.finished number isFinished
    refine ⟨thread, ?_, isEnded⟩
    split
    · rw [List.getElem?_append_left
        (List.getElem?_eq_some_iff.mp found).1, found]
    · exact found

/-- The subscriptions around the one of a thread. -/
theorem exists_subscriptions_around
    {number : Nat}
    {thread : Thread}
    (found : system.threads[number]? = some thread) :
    ∃ front back,
      system.subscriptions =
          front ++ thread.subscription?.toList ++ back ∧
        ∀ changed : Thread,
          (system.threads.set number changed).filterMap
              Thread.subscription? =
            front ++ changed.subscription?.toList ++ back := by
  obtain ⟨inside, isThread⟩ := List.getElem?_eq_some_iff.mp found
  have split :
      system.threads =
        system.threads.take number ++
          thread :: system.threads.drop (number + 1) := by
    rw [← isThread, List.cons_getElem_drop_succ, List.take_append_drop]
  have around (front back : List Thread) (thread : Thread) :
      (front ++ thread :: back).filterMap Thread.subscription? =
        front.filterMap Thread.subscription? ++
          thread.subscription?.toList ++
            back.filterMap Thread.subscription? := by
    rw [List.filterMap_append, List.filterMap_cons]
    cases thread.subscription? <;> simp
  refine ⟨(system.threads.take number).filterMap Thread.subscription?,
    (system.threads.drop (number + 1)).filterMap Thread.subscription?,
    ?_, ?_⟩
  · rw [← around, ← split]
    rfl
  · intro changed
    rw [List.set_eq_take_append_cons_drop, if_pos inside, around]

/-- A piece of a thread. -/
theorem Sound.change
    (sound : Sound system)
    (number : Nat)
    (piece : Thread → Worker × List Operation)
    (changes :
      ∀ thread : Thread,
        Change system.broadcaster thread.subscription? (piece thread).2
          ((piece thread).1.subscription? thread.connection))
    (staysEnded :
      ∀ thread : Thread, thread.worker.isEnded = true →
        (piece thread).1.isEnded = true) :
    Sound (system.change number piece) := by
  rw [System.change]
  split
  · exact sound
  · rename_i thread found
    obtain ⟨front, back, before, after⟩ := exists_subscriptions_around found
    have owned := sound.owned
    rw [before] at owned
    have inside := (List.getElem?_eq_some_iff.mp found).1
    refine ⟨sound.wellFormed.run _, ?_, ?_, ?_, ?_⟩
    · have changed := owned.change sound.wellFormed (changes thread)
      rw [System.subscriptions]
      simp only [System.perform]
      rw [after]
      exact changed
    · obtain ⟨actions, isRun⟩ := sound.reached
      simp only [System.perform]
      split
      · refine ⟨actions ++ [.finish number], ?_⟩
        rw [RunUntil.Server.run_concat, ← isRun]
        rfl
      · exact ⟨actions, isRun⟩
    · simp only [System.perform, List.length_set, sound.counted]
      split
      · rw [RunUntil.Server.finish]
        split <;> rfl
      · rfl
    · intro other isFinished
      simp only [System.perform] at isFinished ⊢
      by_cases same : number = other
      · subst same
        refine ⟨_, List.getElem?_set_self inside, ?_⟩
        by_contra notEnded
        rw [Bool.not_eq_true] at notEnded
        simp only [notEnded, Bool.false_eq_true, if_false] at isFinished
        obtain ⟨ended, endedFound, isEnded⟩ :=
          sound.finished number isFinished
        rw [found] at endedFound
        cases endedFound
        rw [staysEnded thread isEnded] at notEnded
        cases notEnded
      · rw [List.getElem?_set_ne same]
        apply sound.finished other
        split at isFinished
        · rw [RunUntil.Server.finish] at isFinished
          split at isFinished
          · exact (List.mem_cons.mp isFinished).resolve_left
              (Ne.symm same)
          · exact isFinished
        · exact isFinished

/-- Every step keeps the invariant. -/
theorem Sound.step (sound : Sound system) (event : Event) :
    Sound (system.step event) := by
  cases event with
  | capture operation =>
      rw [System.step]
      split
      · rename_i isOwn
        exact sound.capture isOwn
      · exact sound
  | loop surroundings connection opening =>
      exact sound.loop surroundings connection opening
  | read number outcome surroundings =>
      apply sound.change number
      · intro thread
        exact thread.worker.read_change outcome surroundings
      · intro thread isEnded
        cases worker : thread.worker <;> rw [worker] at isEnded <;>
          first | exact isEnded | cases isEnded
  | advance number =>
      apply sound.change number
      · intro thread
        exact thread.worker.advance_change
      · intro thread isEnded
        cases worker : thread.worker <;> rw [worker] at isEnded <;>
          first | exact isEnded | cases isEnded

/-- Every run keeps the invariant. -/
theorem Sound.run (sound : Sound system) (events : List Event) :
    Sound (system.run events) := by
  induction events generalizing system with
  | nil =>
      exact sound
  | cons event later inductionHypothesis =>
      exact inductionHypothesis (sound.step event)

end Steps

/-! ## The viewers -/

/-- A list that keeps some items is no longer than the places of these. -/
theorem length_filterMap_le
    {α β : Type}
    (extract : α → Option β)
    (items : List α)
    {places : List Nat}
    (listed :
      ∀ place item, items[place]? = some item →
        (extract item).isSome = true → place ∈ places) :
    (items.filterMap extract).length ≤ places.length := by
  have contained :
      items.findIdxs (fun item => (extract item).isSome) ⊆ places := by
    intro place isFound
    obtain ⟨inside, keeps⟩ :=
      List.mem_findIdxs_iff_exists_getElem_pos.mp isFound
    exact listed place items[place] (List.getElem?_eq_getElem inside) keeps
  rw [List.length_filterMap_eq_countP, ← List.length_findIdxs]
  exact (List.subperm_of_subset List.nodup_findIdxs contained).length_le

section Viewers

variable {system : System}

/-- A thread with a subscription has not ended. -/
theorem Thread.not_ended_of_subscription
    {thread : Thread}
    (holds : thread.subscription?.isSome = true) :
    thread.worker.isEnded = false := by
  rw [Thread.subscription?] at holds
  cases worker : thread.worker <;> rw [worker] at holds <;>
    first | rfl | cases holds

/-- A thread that has not ended is listed by the loop. -/
theorem Sound.listed
    (sound : Sound system)
    {number : Nat}
    {thread : Thread}
    (found : system.threads[number]? = some thread)
    (notEnded : thread.worker.isEnded = false) :
    number ∈ system.loop.sessions.map RunUntil.Connection.worker := by
  obtain ⟨actions, isRun⟩ := sound.reached
  have accounted := RunUntil.Server.accounted_initial.run actions
  rw [← isRun] at accounted
  have inside := (List.getElem?_eq_some_iff.mp found).1
  rw [sound.counted] at inside
  have spawned :
      number ∈ RunUntil.spawnedWorkers system.loop.log := by
    rw [accounted.named]
    exact List.mem_range.mpr inside
  rcases List.mem_append.mp (accounted.conserved.mem_iff.mpr spawned) with
    isListed | isJoined
  · exact isListed
  · obtain ⟨ended, endedFound, isEnded⟩ :=
      sound.finished number (accounted.joinsFinished number isJoined)
    rw [found] at endedFound
    cases endedFound
    rw [notEnded] at isEnded
    cases isEnded

/-- The viewers that the statistics report. -/
theorem Sound.viewers (sound : Sound system) (now : Instant) :
    (system.broadcaster.stats now).viewers =
      system.subscriptions.length := by
  apply List.Perm.length_eq
  rw [List.perm_ext_iff_of_nodup (sound.wellFormed.nodup.filter _)
    sound.owned.nodup]
  intro id
  rw [List.mem_filter, sound.owned.alive]
  exact ⟨And.right, fun isAlive =>
    ⟨sound.wellFormed.served id isAlive, isAlive⟩⟩

/-- Two threads do not hold the same subscription. -/
theorem Sound.exclusive
    (sound : Sound system)
    {first second : Nat}
    {firstThread secondThread : Thread}
    {id : SubscriptionId}
    (firstFound : system.threads[first]? = some firstThread)
    (secondFound : system.threads[second]? = some secondThread)
    (firstHolds : firstThread.subscription? = some id)
    (secondHolds : secondThread.subscription? = some id) :
    first = second := by
  have apart := List.pairwise_filterMap.mp sound.owned.nodup
  rw [List.pairwise_iff_getElem] at apart
  obtain ⟨firstInside, rfl⟩ := List.getElem?_eq_some_iff.mp firstFound
  obtain ⟨secondInside, rfl⟩ := List.getElem?_eq_some_iff.mp secondFound
  rcases Nat.lt_trichotomy first second with before | same | behind
  · exact absurd rfl
      (apart _ _ firstInside secondInside before _ firstHolds _
        secondHolds)
  · exact same
  · exact absurd rfl
      (apart _ _ secondInside firstInside behind _ secondHolds _
        firstHolds)

/-- Behind `run_until` every thread has ended. -/
theorem Sound.ended_of_returned
    (sound : Sound system)
    {result : Except IoError Unit}
    (here : system.loop.point = .returned result)
    {number : Nat}
    {thread : Thread}
    (found : system.threads[number]? = some thread) :
    thread.worker.isEnded = true := by
  obtain ⟨actions, isRun⟩ := sound.reached
  have empty : system.loop.sessions = [] := by
    rw [isRun] at here ⊢
    exact (RunUntil.Server.returned_of_stage
      (RunUntil.Server.Stage.of_run actions) here).1
  by_contra notEnded
  have isListed := sound.listed found (Bool.eq_false_iff.mpr notEnded)
  rw [empty] at isListed
  cases isListed

end Viewers

/--
What the statistics of a running server mean: each living subscription belongs
to one thread, which is between PLAY and PAUSE; the viewers are these threads;
there are 128 at most, and none behind `run_until`.
-/
structure ViewerRules (system : System) : Prop where
  viewers :
    ∀ now,
      (system.broadcaster.stats now).viewers =
        system.threads.countP fun thread => thread.subscription?.isSome
  owner :
    ∀ id, system.broadcaster.alive id = true →
      ∃! number : Nat,
        ∃ thread, system.threads[number]? = some thread ∧
          thread.subscription? = some id
  alive :
    ∀ (number : Nat) (thread : Thread) (id : SubscriptionId),
      system.threads[number]? = some thread →
        thread.subscription? = some id →
          system.broadcaster.alive id = true
  bounded : ∀ now, (system.broadcaster.stats now).viewers ≤ 128
  returned :
    ∀ result, system.loop.point = .returned result →
      ∀ now, (system.broadcaster.stats now).viewers = 0

/-- The viewer rules hold in every reachable state of the server. -/
theorem viewers_of_the_system (events : List Event) :
    ViewerRules (System.initial.run events) := by
  have sound := sound_initial.run events
  generalize System.initial.run events = system at sound
  have counted (now : Instant) :
      (system.broadcaster.stats now).viewers =
        system.threads.countP fun thread =>
          thread.subscription?.isSome := by
    rw [sound.viewers, System.subscriptions,
      List.length_filterMap_eq_countP]
  exact {
    viewers := counted
    owner := by
      intro id isAlive
      obtain ⟨thread, isThread, holds⟩ :=
        List.mem_filterMap.mp ((sound.owned.alive id).mpr isAlive)
      obtain ⟨number, found⟩ := List.mem_iff_getElem?.mp isThread
      refine ⟨number, ⟨thread, found, holds⟩, ?_⟩
      rintro other ⟨otherThread, otherFound, otherHolds⟩
      exact sound.exclusive otherFound found otherHolds holds
    alive := by
      intro number thread id found holds
      exact (sound.owned.alive id).mp
        (List.mem_filterMap.mpr
          ⟨thread, List.mem_of_getElem? found, holds⟩)
    bounded := by
      intro now
      obtain ⟨actions, isRun⟩ := sound.reached
      have accounted := RunUntil.Server.accounted_initial.run actions
      rw [← isRun] at accounted
      have listed :=
        length_filterMap_le Thread.subscription? system.threads
          fun number thread found holds =>
            sound.listed found (Thread.not_ended_of_subscription holds)
      rw [List.length_map] at listed
      rw [sound.viewers]
      exact listed.trans accounted.bounded
    returned := by
      intro result here now
      rw [counted, List.countP_eq_zero]
      intro thread isThread
      obtain ⟨number, found⟩ := List.mem_iff_getElem?.mp isThread
      have isEnded := sound.ended_of_returned here found
      intro holds
      rw [Thread.not_ended_of_subscription holds] at isEnded
      cases isEnded
  }

end CamRtsp.ServerSystem
