import CamRtsp.Foundation.StepTrace
import CamRtsp.StreamService
import Mathlib.Data.List.Perm.Basic

namespace CamRtsp

namespace StreamService

open RustText StepTrace

/-!
# One stream at a time

The service holds at most one native server.  `Owned` is the protocol that the
native calls follow, and `Inv` ties it to the fields of the service and to the
messages that wait for the worker.
-/

/--
The protocol of the native calls: a server is created while none is held, and
the one that is held is stopped.
-/
inductive Owned : Option Int64 → NativeCall → Option Int64 → Prop where
  | created
      (request : ServerRequest)
      (handle : Int64)
      (nonzero : handle ≠ 0) :
      Owned none (.create 0 none request (.ok handle)) (some handle)
  | refused
      (request : ServerRequest)
      (result : Except Throwable Int64)
      (nothing : ∀ handle, result = .ok handle → handle = 0) :
      Owned none (.create 0 none request result) none
  | stopped
      (handle : Int64) :
      Owned (some handle) (.stop handle) none

namespace Message

/-- A delayed restart. -/
def isRestart : Message → Bool
  | .restart _ => true
  | _ => false

/-- A poll tick. -/
def isPoll : Message → Bool
  | .poll => true
  | _ => false

/-- The generation that a callback carries. -/
def token? : Message → Option Nat
  | .info token _ => some token
  | .error token _ => some token
  | _ => none

end Message

namespace Service

/-- The pending delayed restarts. -/
def restarts (service : Service) : Nat :=
  service.queue.countP Message.isRestart

/-- The queued polls. -/
def polls (service : Service) : Nat :=
  service.queue.countP Message.isPoll

/-- The server that is not stopped. -/
def held (service : Service) : Option Int64 :=
  if service.handle = 0 then none else some service.handle

/-- What holds even in the middle of a message. -/
structure Sound (service : Service) : Prop where
  calls : Trace Owned none service.calls service.held
  encoder : service.encoder.isSome = true → service.handle ≠ 0
  tokens : ∀ token ∈ service.tokens, token ≤ service.generation
  callbacks :
    ∀ message ∈ service.queue, ∀ token ∈ message.token?,
      token ∈ service.tokens
  destroying : .destroy ∈ service.queue → service.destroyed = true

/-- What holds between two messages. -/
structure Inv (service : Service) : Prop extends Sound service where
  oneRestart : service.restarts ≤ 1
  onePoll : service.polls ≤ 1
  restarting :
    0 < service.restarts → service.handle = 0 ∧ service.wanted = true
  polling : 0 < service.polls → service.handle ≠ 0
  live : service.handle ≠ 0 → service.wanted = true
  ended :
    service.handle = 0 →
      ∀ token ∈ service.tokens, token < service.generation

/-- The two services agree on everything but texts, times and locks. -/
structure Same (first second : Service) : Prop where
  destroyed : second.destroyed = first.destroyed
  handle : second.handle = first.handle
  encoder : second.encoder = first.encoder
  wanted : second.wanted = first.wanted
  generation : second.generation = first.generation
  queue : second.queue = first.queue
  tokens : second.tokens = first.tokens
  calls : second.calls = first.calls

variable {service other : Service}

theorem inv_initial : initial.Inv where
  calls := .nil none
  encoder := by simp [initial]
  tokens := by simp [initial]
  callbacks := by simp [initial]
  destroying := by simp [initial]
  oneRestart := Nat.zero_le 1
  onePoll := Nat.zero_le 1
  restarting := by simp [restarts, initial]
  polling := by simp [polls, initial]
  live := by simp [initial]
  ended := by simp [initial]

theorem Sound.of_same
    (sound : service.Sound)
    (same : Same service other) :
    other.Sound where
  calls := by
    rw [held, same.calls, same.handle]
    exact sound.calls
  encoder := by
    rw [same.encoder, same.handle]
    exact sound.encoder
  tokens := by
    rw [same.tokens, same.generation]
    exact sound.tokens
  callbacks := by
    rw [same.queue, same.tokens]
    exact sound.callbacks
  destroying := by
    rw [same.queue, same.destroyed]
    exact sound.destroying

theorem Inv.of_same
    (inv : service.Inv)
    (same : Same service other) :
    other.Inv where
  toSound := inv.toSound.of_same same
  oneRestart := by
    rw [restarts, same.queue]
    exact inv.oneRestart
  onePoll := by
    rw [polls, same.queue]
    exact inv.onePoll
  restarting := by
    rw [restarts, same.queue, same.handle, same.wanted]
    exact inv.restarting
  polling := by
    rw [polls, same.queue, same.handle]
    exact inv.polling
  live := by
    rw [same.handle, same.wanted]
    exact inv.live
  ended := by
    rw [same.handle, same.tokens, same.generation]
    exact inv.ended

/-- Without a server there is no encoder. -/
theorem Sound.encoder_eq_none
    (sound : service.Sound)
    (idle : service.handle = 0) :
    service.encoder = none := by
  rw [← Option.not_isSome_iff_eq_none]
  intro isSome
  exact sound.encoder isSome idle

/-- The main thread may set `destroyed` at any time. -/
theorem Inv.observe
    (inv : service.Inv)
    (destroyed : Bool) :
    (service.observe destroyed).Inv where
  calls := inv.calls
  encoder := inv.encoder
  tokens := inv.tokens
  callbacks := inv.callbacks
  destroying := by
    intro queued
    simp [Service.observe, inv.destroying queued]
  oneRestart := inv.oneRestart
  onePoll := inv.onePoll
  restarting := inv.restarting
  polling := inv.polling
  live := inv.live
  ended := inv.ended

/-! ## Posting -/

/-- A callback of an encoder can be posted, and `destroy` once it is set. -/
theorem Sound.post
    (sound : service.Sound)
    {message : Message}
    (carries : ∀ token ∈ message.token?, token ∈ service.tokens)
    (destroying : message = .destroy → service.destroyed = true) :
    (service.post message).Sound where
  calls := sound.calls
  encoder := sound.encoder
  tokens := sound.tokens
  callbacks := by
    intro other member
    rcases List.mem_append.mp member with earlier | last
    · exact sound.callbacks other earlier
    · rw [List.mem_singleton.mp last]
      exact carries
  destroying := by
    intro member
    rcases List.mem_append.mp member with earlier | last
    · exact sound.destroying earlier
    · exact destroying (List.mem_singleton.mp last).symm

theorem restarts_post (message : Message) :
    (service.post message).restarts =
      service.restarts + if message.isRestart then 1 else 0 := by
  rw [restarts, Service.post, List.countP_append, List.countP_singleton]
  rfl

theorem polls_post (message : Message) :
    (service.post message).polls =
      service.polls + if message.isPoll then 1 else 0 := by
  rw [polls, Service.post, List.countP_append, List.countP_singleton]
  rfl

/-- Other messages than restarts and polls can be posted at any time. -/
theorem Inv.post
    (inv : service.Inv)
    {message : Message}
    (notRestart : message.isRestart = false)
    (notPoll : message.isPoll = false)
    (carries : ∀ token ∈ message.token?, token ∈ service.tokens)
    (destroying : message = .destroy → service.destroyed = true) :
    (service.post message).Inv where
  toSound := inv.toSound.post carries destroying
  oneRestart := by
    rw [restarts_post, notRestart]
    exact inv.oneRestart
  onePoll := by
    rw [polls_post, notPoll]
    exact inv.onePoll
  restarting := by
    rw [restarts_post, notRestart]
    exact inv.restarting
  polling := by
    rw [polls_post, notPoll]
    exact inv.polling
  live := inv.live
  ended := inv.ended

/-- A restart can be posted while no server is held. -/
theorem Inv.postRestart
    (inv : service.Inv)
    (idle : service.handle = 0)
    (isWanted : service.wanted = true)
    (noRestart : service.restarts = 0)
    (delay : Nat) :
    (service.post (.restart delay)).Inv where
  toSound := inv.toSound.post (fun _ carries => by cases carries)
    (fun same => by cases same)
  oneRestart := by
    rw [restarts_post, noRestart]
    exact Nat.le_refl 1
  onePoll := by
    rw [polls_post]
    exact inv.onePoll
  restarting := fun _ => ⟨idle, isWanted⟩
  polling := by
    rw [polls_post]
    exact inv.polling
  live := inv.live
  ended := inv.ended

/-- A poll can be posted while a server is held. -/
theorem Inv.postPoll
    (inv : service.Inv)
    (isLive : service.handle ≠ 0)
    (noPoll : service.polls = 0) :
    (service.post .poll).Inv where
  toSound := inv.toSound.post (fun _ carries => by cases carries)
    (fun same => by cases same)
  oneRestart := by
    rw [restarts_post]
    exact inv.oneRestart
  onePoll := by
    rw [polls_post, noPoll]
    exact Nat.le_refl 1
  restarting := by
    rw [restarts_post]
    exact inv.restarting
  polling := fun _ => isLive
  live := inv.live
  ended := inv.ended

/-! ## Releasing -/

/-- Releasing stops the server that is held. -/
theorem Sound.calls_releaseStream
    (sound : service.Sound) :
    Trace Owned none service.releaseStream.calls none := by
  have calls := sound.calls
  by_cases idle : service.handle = 0
  · rw [held, if_pos idle] at calls
    simpa [releaseStream, idle] using calls
  · rw [held, if_neg idle] at calls
    simpa [releaseStream, idle] using
      calls.append (.single (.stopped service.handle))

/-- Releasing removes the queued polls and no restart. -/
theorem restarts_releaseStream :
    service.releaseStream.restarts = service.restarts := by
  rw [restarts, restarts, releaseStream, List.countP_filter]
  congr 1
  funext message
  cases message <;> rfl

theorem polls_releaseStream : service.releaseStream.polls = 0 := by
  rw [polls, releaseStream, List.countP_filter, List.countP_eq_zero]
  intro message _
  cases message <;> simp [Message.isPoll]

/-- Releasing keeps what always holds. -/
theorem Sound.releaseStream
    (sound : service.Sound) :
    service.releaseStream.Sound where
  calls := by
    have idle : service.releaseStream.held = none := if_pos rfl
    rw [idle]
    exact sound.calls_releaseStream
  encoder := by simp [Service.releaseStream]
  tokens := fun token member =>
    Nat.le_succ_of_le (sound.tokens token member)
  callbacks := fun message member =>
    sound.callbacks message (List.mem_filter.mp member).1
  destroying := fun member =>
    sound.destroying (List.mem_filter.mp member).1

/-- Behind a release nothing is held, and no attempt is current. -/
theorem Sound.inv_releaseStream
    (sound : service.Sound)
    (noRestart : service.restarts = 0) :
    service.releaseStream.Inv where
  toSound := sound.releaseStream
  oneRestart := by
    rw [restarts_releaseStream, noRestart]
    exact Nat.zero_le 1
  onePoll := by
    rw [polls_releaseStream]
    exact Nat.zero_le 1
  restarting := by
    rw [restarts_releaseStream, noRestart]
    intro impossible
    cases impossible
  polling := by
    rw [polls_releaseStream]
    intro impossible
    cases impossible
  live := fun isLive => (isLive rfl).elim
  ended := fun _ token member =>
    Nat.lt_succ_of_le (sound.tokens token member)

/-- The service is given up. -/
theorem Sound.inv_finishWithError
    (sound : service.Sound)
    (noRestart : service.restarts = 0)
    (error : Text) :
    (service.finishWithError error).Inv := by
  have unwanted : { service with wanted := false }.Sound :=
    ⟨sound.calls, sound.encoder, sound.tokens, sound.callbacks,
      sound.destroying⟩
  exact (unwanted.inv_releaseStream noRestart).of_same
    ⟨rfl, rfl, rfl, rfl, rfl, rfl, rfl, rfl⟩

/-- Recovering keeps the invariant while no restart is pending. -/
theorem Inv.recover
    (inv : service.Inv)
    (noRestart : service.restarts = 0)
    (world : World)
    (error : Text) :
    (service.recover world error).Inv := by
  have observed := inv.observe world.destroyedAtRecover
  unfold Service.recover
  simp only
  split
  · exact observed
  · rename_i goesOn
    have released := observed.toSound.inv_releaseStream noRestart
    have stillNone :
        (service.observe
          world.destroyedAtRecover).releaseStream.restarts = 0 := by
      rw [restarts_releaseStream]
      exact noRestart
    split
    · exact released.toSound.inv_finishWithError stillNone error
    · have isWanted :
          (service.observe world.destroyedAtRecover).wanted = true := by
        simp only [Bool.or_eq_true, Bool.not_eq_true', not_or,
          Bool.not_eq_false] at goesOn
        exact goesOn.1
      have posted := released.postRestart rfl isWanted stillNone
      exact (posted _).of_same ⟨rfl, rfl, rfl, rfl, rfl, rfl, rfl, rfl⟩

/-- Whatever an attempt throws, the invariant is kept. -/
theorem Inv.caught
    (inv : service.Inv)
    (noRestart : service.restarts = 0)
    (world : World)
    (thrown : Throwable) :
    (service.caught world thrown).Inv := by
  cases thrown with
  | exception message =>
      exact inv.recover noRestart world _
  | linkageError message =>
      exact inv.toSound.inv_finishWithError noRestart _

/-! ## Attempts -/

/-- The encoder of a live server gets the current generation. -/
theorem Inv.startEncoder
    (inv : service.Inv)
    (isLive : service.handle ≠ 0)
    (noRestart : service.restarts = 0)
    (noPoll : service.polls = 0)
    (world : World) :
    (service.startEncoder world).Inv := by
  unfold Service.startEncoder
  split
  · exact inv.caught noRestart world _
  · have built :
        { service with
          encoder := some {
            token := service.generation, handle := service.handle }
          tokens := service.tokens ++ [service.generation] }.Inv := {
      calls := inv.calls
      encoder := fun _ => isLive
      tokens := by
        intro token member
        rcases List.mem_append.mp member with earlier | last
        · exact inv.tokens token earlier
        · exact Nat.le_of_eq (List.mem_singleton.mp last)
      callbacks := fun message member token carries =>
        List.mem_append_left _
          (inv.callbacks message member token carries)
      destroying := inv.destroying
      oneRestart := inv.oneRestart
      onePoll := inv.onePoll
      restarting := inv.restarting
      polling := inv.polling
      live := inv.live
      ended := fun idle => (isLive idle).elim
    }
    simp only
    split
    · exact built.caught noRestart world _
    · exact (built.postPoll isLive noPoll).of_same
        ⟨rfl, rfl, rfl, rfl, rfl, rfl, rfl, rfl⟩

/-- Without a server no poll is queued. -/
theorem Inv.polls_eq_zero
    (inv : service.Inv)
    (idle : service.handle = 0) :
    service.polls = 0 := by
  by_contra queued
  exact inv.polling (Nat.pos_of_ne_zero queued) idle

/-- A creation is recorded while no server is held. -/
theorem Inv.recordCreation
    (inv : service.Inv)
    (idle : service.handle = 0)
    (isWanted : service.wanted = true)
    (noRestart : service.restarts = 0)
    (request : ServerRequest)
    {result : Except Throwable Int64}
    {handle : Int64}
    (returned :
      result = .ok handle ∨
        (∃ thrown, result = .error thrown) ∧ handle = 0) :
    { service with
      calls :=
        service.calls ++
          [NativeCall.create service.handle service.encoder request result]
      handle := handle }.Inv where
  calls := by
    have calls := inv.calls
    have noEncoder := inv.toSound.encoder_eq_none idle
    rw [held, if_pos idle] at calls
    refine calls.append (.single ?_)
    rw [idle, noEncoder, held]
    simp only
    split
    · rename_i nothing
      apply Owned.refused
      intro other isOther
      rcases returned with isHandle | ⟨⟨thrown, failed⟩, _⟩
      · rw [isHandle] at isOther
        cases isOther
        exact nothing
      · rw [failed] at isOther
        cases isOther
    · rename_i nonzero
      rcases returned with rfl | ⟨_, nothing⟩
      · exact .created request handle nonzero
      · exact (nonzero nothing).elim
  encoder := by
    intro isSome
    exact (inv.encoder isSome idle).elim
  tokens := inv.tokens
  callbacks := inv.callbacks
  destroying := inv.destroying
  oneRestart := inv.oneRestart
  onePoll := inv.onePoll
  restarting := by
    intro pending
    exact absurd noRestart (Nat.ne_of_gt pending)
  polling := by
    intro queued
    exact absurd (inv.polls_eq_zero idle) (Nat.ne_of_gt queued)
  live := fun _ => isWanted
  ended := fun _ => inv.ended idle

/-- A server is created while none is held. -/
theorem Inv.createServer
    (inv : service.Inv)
    (idle : service.handle = 0)
    (isWanted : service.wanted = true)
    (noRestart : service.restarts = 0)
    (world : World)
    (request : ServerRequest) :
    (service.createServer world request).Inv := by
  unfold Service.createServer
  simp only
  split
  · rename_i thrown failed
    have recorded :=
      inv.recordCreation idle isWanted noRestart request
        (.inr ⟨⟨thrown, failed⟩, idle⟩)
    exact recorded.caught noRestart world thrown
  · rename_i handle returned
    have created :=
      inv.recordCreation idle isWanted noRestart request (.inl returned)
    split
    · exact created.caught noRestart world _
    · rename_i nonzero
      have prepared :
          { service with
            calls :=
              service.calls ++
                [NativeCall.create service.handle service.encoder request
                  world.created]
            handle := handle
            startedAt := world.now
            negotiated := "Waiting for camera".toList }.Inv :=
        created.of_same ⟨rfl, rfl, rfl, rfl, rfl, rfl, rfl, rfl⟩
      exact prepared.startEncoder nonzero noRestart
        (inv.polls_eq_zero idle) world

/-- An attempt begins a new generation. -/
theorem Inv.nextGeneration
    (inv : service.Inv) :
    { service with generation := service.generation + 1 }.Inv where
  calls := inv.calls
  encoder := inv.encoder
  tokens := fun token member =>
    Nat.le_succ_of_le (inv.tokens token member)
  callbacks := inv.callbacks
  destroying := inv.destroying
  oneRestart := inv.oneRestart
  onePoll := inv.onePoll
  restarting := inv.restarting
  polling := inv.polling
  live := inv.live
  ended := fun _ token member => Nat.lt_succ_of_le (inv.tokens token member)

/-- An attempt keeps the invariant while no server is held. -/
theorem Inv.startAttempt
    (inv : service.Inv)
    (idle : service.handle = 0)
    (noRestart : service.restarts = 0)
    (world : World) :
    (service.startAttempt world).Inv := by
  have observed := inv.observe world.destroyedAtEntry
  unfold Service.startAttempt
  simp only
  split
  · exact observed
  · rename_i goesOn
    have isWanted :
        (service.observe world.destroyedAtEntry).wanted = true := by
      simp only [Bool.or_eq_true, Bool.not_eq_true', not_or,
        Bool.not_eq_false] at goesOn
      exact goesOn.1
    have begun := observed.nextGeneration
    split
    · exact begun
    · split
      · rename_i refusal _
        have refused :
            { service.observe world.destroyedAtEntry with
              generation :=
                (service.observe
                  world.destroyedAtEntry).generation + 1
              wakeLock := refusal.wakeLock }.Inv :=
          begun.of_same ⟨rfl, rfl, rfl, rfl, rfl, rfl, rfl, rfl⟩
        exact refused.caught noRestart world _
      · have locked :
            { service.observe world.destroyedAtEntry with
              generation :=
                (service.observe
                  world.destroyedAtEntry).generation + 1
              wakeLock := true
              wifiLock := true }.Inv :=
          begun.of_same ⟨rfl, rfl, rfl, rfl, rfl, rfl, rfl, rfl⟩
        exact locked.createServer idle isWanted noRestart world _

/-! ## Messages -/

/-- The message that is taken is counted no more. -/
theorem countP_taken
    {index : Nat}
    {message : Message}
    (found : service.queue[index]? = some message)
    (kind : Message → Bool) :
    service.queue.countP kind =
      (service.taken index).queue.countP kind +
        if kind message then 1 else 0 := by
  obtain ⟨inside, isMessage⟩ := List.getElem?_eq_some_iff.mp found
  have rearranged := List.getElem_cons_eraseIdx_perm inside
  rw [isMessage] at rearranged
  rw [← rearranged.countP_eq kind, List.countP_cons]
  rfl

/-- Taking a message keeps the invariant. -/
theorem Inv.taken
    (inv : service.Inv)
    {index : Nat}
    {message : Message}
    (found : service.queue[index]? = some message) :
    (service.taken index).Inv := by
  have restartsEq := countP_taken found Message.isRestart
  have pollsEq := countP_taken found Message.isPoll
  have oneRestart := inv.oneRestart
  have onePoll := inv.onePoll
  unfold restarts at oneRestart
  unfold polls at onePoll
  exact {
    calls := inv.calls
    encoder := inv.encoder
    tokens := inv.tokens
    callbacks := fun other member =>
      inv.callbacks other (List.mem_of_mem_eraseIdx member)
    destroying := fun member =>
      inv.destroying (List.mem_of_mem_eraseIdx member)
    oneRestart := by
      unfold restarts
      omega
    onePoll := by
      unfold polls
      omega
    restarting := by
      intro pending
      apply inv.restarting
      unfold restarts at pending ⊢
      omega
    polling := by
      intro queued
      apply inv.polling
      unfold polls at queued ⊢
      omega
    live := inv.live
    ended := inv.ended
  }

/-- Showing the statistics changes texts and the retry budget. -/
theorem same_showStats (world : World) (stats : Stats) :
    Same service (service.showStats world stats) := by
  unfold showStats
  split
  · exact ⟨rfl, rfl, rfl, rfl, rfl, rfl, rfl, rfl⟩
  · exact ⟨rfl, rfl, rfl, rfl, rfl, rfl, rfl, rfl⟩

/-- A live server has no restart pending. -/
theorem Inv.restarts_eq_zero
    (inv : service.Inv)
    (isLive : service.handle ≠ 0) :
    service.restarts = 0 := by
  by_contra pending
  exact isLive (inv.restarting (Nat.pos_of_ne_zero pending)).1

/-- Reporting posts the next poll, or recovers. -/
theorem Inv.report
    (inv : service.Inv)
    (isLive : service.handle ≠ 0)
    (noPoll : service.polls = 0)
    (world : World)
    (stats : Stats) :
    (service.report world stats).Inv := by
  have same : Same service (service.showStats world stats) :=
    same_showStats world stats
  have shown := inv.of_same same
  have stillLive : (service.showStats world stats).handle ≠ 0 :=
    same.handle ▸ isLive
  unfold Service.report
  simp only
  split
  · exact shown.recover (shown.restarts_eq_zero stillLive) world _
  · apply shown.postPoll stillLive
    rw [polls, same.queue]
    exact noPoll

/-- A poll that was taken keeps the invariant. -/
theorem Inv.poll
    (inv : service.Inv)
    (noPoll : service.polls = 0)
    (world : World) :
    (service.poll world).Inv := by
  have observed := inv.observe world.destroyedAtEntry
  unfold Service.poll
  simp only
  split
  · exact observed
  · rename_i goesOn
    have isLive : (service.observe world.destroyedAtEntry).handle ≠ 0 := by
      simp only [Bool.or_eq_true, beq_iff_eq, not_or] at goesOn
      exact goesOn.2
    have noRestart := observed.restarts_eq_zero isLive
    split
    · exact observed.recover noRestart world _
    split
    · exact observed.recover noRestart world _
    split
    · exact observed.recover noRestart world _
    split
    · exact observed.recover noRestart world _
    · exact observed.report isLive noPoll world _

/-- A start command keeps the invariant. -/
theorem Inv.start
    (inv : service.Inv)
    (world : World)
    (intent : Option Intent) :
    (service.start world intent).Inv := by
  unfold Service.start
  split
  · exact inv
  · rename_i unwanted
    have idle : service.handle = 0 := by
      by_contra isLive
      exact unwanted (inv.live isLive)
    have noRestart : service.restarts = 0 := by
      by_contra pending
      exact unwanted (inv.restarting (Nat.pos_of_ne_zero pending)).2
    have begun :
        { service with
          wanted := true
          isStreaming := true
          retries := 0
          options := some (intent.getD .empty) }.Inv := {
      calls := inv.calls
      encoder := inv.encoder
      tokens := inv.tokens
      callbacks := inv.callbacks
      destroying := inv.destroying
      oneRestart := inv.oneRestart
      onePoll := inv.onePoll
      restarting := fun pending => absurd noRestart (Nat.ne_of_gt pending)
      polling := inv.polling
      live := fun _ => rfl
      ended := inv.ended
    }
    exact begun.startAttempt idle noRestart world

/-- Behind `destroy` nothing is held and nothing waits. -/
theorem Sound.inv_destroy
    (sound : service.Sound) :
    service.destroy.Inv := by
  have emptied :
      { service with wanted := false, queue := [] }.Sound :=
    ⟨sound.calls, sound.encoder, sound.tokens, by simp, by simp⟩
  exact (emptied.inv_releaseStream rfl).of_same
    ⟨rfl, rfl, rfl, rfl, rfl, rfl, rfl, rfl⟩

/--
The callback does not come exactly a multiple of 2^32 increments of the
generation too late.
-/
def Timely (service : Service) (message : Message) : Prop :=
  ∀ token ∈ message.token?,
    sameInt token service.generation = true → token = service.generation

/-- A message that was taken keeps the invariant. -/
theorem Inv.handleMessage
    (inv : service.Inv)
    {index : Nat}
    {message : Message}
    (found : service.queue[index]? = some message)
    (timely : service.Timely message)
    (world : World) :
    ((service.taken index).handleMessage world message).Inv := by
  have taken := inv.taken found
  have carries :=
    inv.callbacks message (List.mem_of_getElem? found)
  have restartsEq := countP_taken found Message.isRestart
  have pollsEq := countP_taken found Message.isPoll
  cases message with
  | start intent =>
      exact taken.start world intent
  | poll =>
      refine taken.poll ?_ world
      have onePoll := inv.onePoll
      unfold polls at onePoll ⊢
      change _ = _ + 1 at pollsEq
      omega
  | restart delay =>
      have pending : 0 < service.restarts := by
        change _ = _ + 1 at restartsEq
        unfold restarts
        omega
      have noRestart : (service.taken index).restarts = 0 := by
        have oneRestart := inv.oneRestart
        unfold restarts at oneRestart ⊢
        change _ = _ + 1 at restartsEq
        omega
      simp only [Service.handleMessage]
      split
      · exact taken.startAttempt (inv.restarting pending).1 noRestart world
      · exact taken
  | info token info =>
      simp only [Service.handleMessage]
      split
      · exact taken.of_same ⟨rfl, rfl, rfl, rfl, rfl, rfl, rfl, rfl⟩
      · exact taken
  | error token error =>
      simp only [Service.handleMessage]
      split
      · rename_i current
        have isCurrent : token = service.generation :=
          timely token rfl (Bool.and_eq_true_iff.mp current).1
        have isLive : service.handle ≠ 0 := by
          intro idle
          have earlier := inv.ended idle token (carries token rfl)
          exact Nat.lt_irrefl _ (isCurrent ▸ earlier)
        exact taken.recover (taken.restarts_eq_zero isLive) world error
      · exact taken
  | destroy =>
      exact taken.toSound.inv_destroy

end Service

/-! ## Runs -/

/-- The callback that the action runs, if any, is timely. -/
def Action.Timely (service : Service) : Action → Prop
  | .work index _ =>
      ∀ message ∈ service.queue[index]?, service.Timely message
  | _ => True

instance
    (service : Service)
    (action : Action) :
    Decidable (action.Timely service) :=
  match action with
  | .work index _ =>
      inferInstanceAs
        (Decidable
          (∀ message ∈ service.queue[index]?, ∀ token ∈ message.token?,
            sameInt token service.generation = true →
              token = service.generation))
  | .startCommand _ => .isTrue trivial
  | .configured _ _ => .isTrue trivial
  | .failed _ _ => .isTrue trivial
  | .onDestroy => .isTrue trivial
  | .display _ _ => .isTrue trivial

/-- All callbacks of a run are timely. -/
def TimelyRun (service : Service) : List Action → Prop
  | [] => True
  | action :: later =>
      action.Timely service ∧ TimelyRun (service.step action) later

instance decidableTimelyRun
    (service : Service) :
    (actions : List Action) → Decidable (TimelyRun service actions)
  | [] => .isTrue trivial
  | action :: later =>
      have := decidableTimelyRun (service.step action) later
      inferInstanceAs (Decidable (_ ∧ _))

namespace Service

variable {service : Service}

/-- Every timely action keeps the invariant. -/
theorem Inv.step
    (inv : service.Inv)
    {action : Action}
    (timely : action.Timely service) :
    (service.step action).Inv := by
  cases action with
  | startCommand intent =>
      exact inv.post rfl rfl (fun _ carries => by cases carries)
        (fun same => by cases same)
  | configured token info =>
      simp only [Service.step]
      split
      · rename_i isToken
        refine inv.post rfl rfl ?_ (fun same => by cases same)
        intro other carries
        cases carries
        exact isToken
      · exact inv
  | failed token error =>
      simp only [Service.step]
      split
      · rename_i isToken
        refine inv.post rfl rfl ?_ (fun same => by cases same)
        intro other carries
        cases carries
        exact isToken
      · exact inv
  | onDestroy =>
      have observed := inv.observe true
      refine observed.post rfl rfl (fun _ carries => by cases carries) ?_
      intro _
      simp [Service.observe]
  | display isStreaming statusMessage =>
      exact inv.of_same ⟨rfl, rfl, rfl, rfl, rfl, rfl, rfl, rfl⟩
  | work index world =>
      simp only [Service.step]
      split
      · rename_i message found
        exact inv.handleMessage found (timely message found) world
      · exact inv

theorem run_append (first second : List Action) :
    service.run (first ++ second) = (service.run first).run second :=
  List.foldl_append

/-- A timely run is timely in both parts. -/
theorem timelyRun_append
    {first second : List Action} :
    TimelyRun service (first ++ second) ↔
      TimelyRun service first ∧
        TimelyRun (service.run first) second := by
  induction first generalizing service with
  | nil =>
      simp [TimelyRun, run]
  | cons action later inductionHypothesis =>
      simp only [List.cons_append, TimelyRun, inductionHypothesis,
        and_assoc]
      rfl

/-- Every timely run keeps the invariant. -/
theorem Inv.run
    (inv : service.Inv)
    {actions : List Action}
    (timely : TimelyRun service actions) :
    (service.run actions).Inv := by
  induction actions generalizing service with
  | nil =>
      exact inv
  | cons action later inductionHypothesis =>
      exact inductionHypothesis (inv.step timely.1) timely.2

/-! ## Behind `destroy` -/

/-- `onDestroy` was called, and no server is held. -/
structure Retired (service : Service) : Prop where
  destroyed : service.destroyed = true
  handle : service.handle = 0

/-- A retired service calls the native library no more. -/
structure StaysRetired (service other : Service) : Prop
    extends Retired other where
  calls : other.calls = service.calls

/-- Nothing is recovered once `destroyed` is set. -/
theorem Retired.recover
    (retired : service.Retired)
    (world : World)
    (error : Text) :
    StaysRetired service (service.recover world error) := by
  have destroyed :
      (service.observe world.destroyedAtRecover).destroyed = true := by
    simp [observe, retired.destroyed]
  unfold Service.recover
  simp only [destroyed, Bool.or_true, if_true]
  exact ⟨⟨destroyed, retired.handle⟩, rfl⟩

/-- Nothing is attempted once `destroyed` is set. -/
theorem Retired.startAttempt
    (retired : service.Retired)
    (world : World) :
    StaysRetired service (service.startAttempt world) := by
  have destroyed :
      (service.observe world.destroyedAtEntry).destroyed = true := by
    simp [observe, retired.destroyed]
  unfold Service.startAttempt
  simp only [destroyed, Bool.or_true, if_true]
  exact ⟨⟨destroyed, retired.handle⟩, rfl⟩

/-- A retired service stays retired whatever message it handles. -/
theorem Retired.handleMessage
    (retired : service.Retired)
    (world : World)
    (message : Message) :
    StaysRetired service (service.handleMessage world message) := by
  have stays : StaysRetired service service := ⟨retired, rfl⟩
  cases message with
  | start intent =>
      simp only [Service.handleMessage, Service.start]
      split
      · exact stays
      · have begun :
            { service with
              wanted := true
              isStreaming := true
              retries := 0
              options := some (intent.getD .empty) }.Retired :=
          ⟨retired.destroyed, retired.handle⟩
        have stayed := begun.startAttempt world
        exact ⟨stayed.toRetired, stayed.calls⟩
  | poll =>
      simp only [Service.handleMessage, Service.poll, observe,
        retired.destroyed, Bool.true_or, Bool.or_true, if_true]
      exact ⟨⟨rfl, retired.handle⟩, rfl⟩
  | restart delay =>
      simp only [Service.handleMessage]
      split
      · exact retired.startAttempt world
      · exact stays
  | info token info =>
      simp only [Service.handleMessage]
      split
      · exact ⟨⟨retired.destroyed, retired.handle⟩, rfl⟩
      · exact stays
  | error token error =>
      simp only [Service.handleMessage]
      split
      · exact retired.recover world error
      · exact stays
  | destroy =>
      refine ⟨⟨retired.destroyed, rfl⟩, ?_⟩
      change (if service.handle ≠ 0 then
        service.calls ++ [.stop service.handle] else service.calls) =
          service.calls
      exact if_neg (not_not.mpr retired.handle)

/-- A retired service stays retired whatever happens. -/
theorem Retired.step
    (retired : service.Retired)
    (action : Action) :
    StaysRetired service (service.step action) := by
  cases action with
  | configured token info =>
      simp only [Service.step]
      split <;> exact ⟨⟨retired.destroyed, retired.handle⟩, rfl⟩
  | failed token error =>
      simp only [Service.step]
      split <;> exact ⟨⟨retired.destroyed, retired.handle⟩, rfl⟩
  | onDestroy =>
      exact ⟨⟨by simp [Service.step, Service.post, observe],
        retired.handle⟩, rfl⟩
  | work index world =>
      simp only [Service.step]
      split
      · rename_i message _
        have taken : (service.taken index).Retired :=
          ⟨retired.destroyed, retired.handle⟩
        have stayed := taken.handleMessage world message
        exact ⟨stayed.toRetired, stayed.calls⟩
      · exact ⟨retired, rfl⟩
  | _ =>
      exact ⟨⟨retired.destroyed, retired.handle⟩, rfl⟩

/-- A retired service stays retired in every run. -/
theorem Retired.run
    (retired : service.Retired)
    (actions : List Action) :
    StaysRetired service (service.run actions) := by
  induction actions generalizing service with
  | nil =>
      exact ⟨retired, rfl⟩
  | cons action later inductionHypothesis =>
      have stepped := retired.step action
      have rest := inductionHypothesis stepped.toRetired
      exact ⟨rest.toRetired, rest.calls.trans stepped.calls⟩

end Service

/-! ## What the native calls show -/

section Calls

variable {before after : Option Int64}
variable {calls earlier later : List NativeCall}
variable {handle : Int64}

/-- A server is created while the service holds none. -/
theorem idle_of_create
    (trace : Trace Owned before calls after)
    {field : Int64}
    {encoder : Option CameraEncoder}
    {request : ServerRequest}
    {result : Except Throwable Int64}
    (member : .create field encoder request result ∈ calls) :
    field = 0 ∧ encoder = none := by
  obtain ⟨earlier, later, rfl⟩ := List.append_of_mem member
  obtain ⟨between, _, behind⟩ := trace.exists_of_append
  cases behind with
  | cons owned _ =>
      cases owned with
      | created _ _ _ =>
          exact ⟨rfl, rfl⟩
      | refused _ _ _ =>
          exact ⟨rfl, rfl⟩

/-- A server that was created is stopped next, or still held. -/
theorem stop_of_create
    {field : Int64}
    {encoder : Option CameraEncoder}
    {request : ServerRequest}
    (trace :
      Trace Owned before
        (earlier ++ .create field encoder request (.ok handle) :: later)
        after)
    (nonzero : handle ≠ 0) :
    (later = [] ∧ after = some handle) ∨
      ∃ rest, later = .stop handle :: rest := by
  obtain ⟨between, _, behind⟩ := trace.exists_of_append
  cases behind with
  | cons owned rest =>
      cases owned with
      | created _ _ _ =>
          cases rest with
          | nil =>
              exact .inl ⟨rfl, rfl⟩
          | cons next others =>
              cases next with
              | stopped _ =>
                  exact .inr ⟨_, rfl⟩
      | refused _ _ nothing =>
          exact (nonzero (nothing handle rfl)).elim

/-- A server that is stopped was created just before. -/
theorem create_of_stop
    (trace : Trace Owned none (earlier ++ .stop handle :: later) after) :
    handle ≠ 0 ∧
      ∃ first field encoder request,
        earlier =
          first ++ [.create field encoder request (.ok handle)] := by
  obtain ⟨between, front, behind⟩ := trace.exists_of_append
  cases behind with
  | cons owned _ =>
      cases owned with
      | stopped _ =>
          rcases List.eq_nil_or_concat earlier with rfl | ⟨first, last, rfl⟩
          · cases front
          · rw [List.concat_eq_append] at front
            obtain ⟨_, _, lastTrace⟩ := front.exists_of_append
            cases lastTrace with
            | cons created nothing =>
                cases nothing
                cases created with
                | created request _ nonzero =>
                    exact ⟨nonzero, first, _, _, _,
                      List.concat_eq_append⟩

end Calls

/-- What holds of every run of the service. -/
structure OneStream (actions : List Action) : Prop where
  idleAtCreation :
    ∀ field encoder request result,
      .create field encoder request result ∈
          (Service.initial.run actions).calls →
        field = 0 ∧ encoder = none
  exclusive :
    (Service.initial.run actions).restarts ≤ 1 ∧
      (Service.initial.run actions).polls ≤ 1 ∧
      (0 < (Service.initial.run actions).restarts →
        (Service.initial.run actions).handle = 0)
  stopped :
    ∀ earlier field encoder request handle later,
      (Service.initial.run actions).calls =
          earlier ++ .create field encoder request (.ok handle) :: later →
        handle ≠ 0 →
          (later = [] ∧
              (Service.initial.run actions).handle = handle) ∨
            ∃ rest, later = .stop handle :: rest
  stoppedOnce :
    ∀ earlier handle later,
      (Service.initial.run actions).calls =
          earlier ++ .stop handle :: later →
        handle ≠ 0 ∧
          ∃ first field encoder request,
            earlier =
              first ++ [.create field encoder request (.ok handle)]
  behindDestroy :
    ∀ earlier index world later,
      actions = earlier ++ .work index world :: later →
        (Service.initial.run earlier).queue[index]? = some .destroy →
          (Service.initial.run actions).handle = 0 ∧
            (Service.initial.run actions).calls =
              (Service.initial.run (earlier ++ [.work index world])).calls
  staleCallback :
    ∀ earlier index world later message,
      actions = earlier ++ .work index world :: later →
        (Service.initial.run earlier).queue[index]? = some message →
          ∀ token ∈ message.token?,
            token < (Service.initial.run earlier).generation →
              (Service.initial.run earlier).step (.work index world) =
                (Service.initial.run earlier).taken index

namespace Service

variable {service : Service}

/-- A callback of another generation does nothing. -/
theorem step_of_stale
    {index : Nat}
    {message : Message}
    (found : service.queue[index]? = some message)
    {token : Nat}
    (carries : token ∈ message.token?)
    (stale : sameInt token service.generation = false)
    (world : World) :
    service.step (.work index world) = service.taken index := by
  have stillStale :
      sameInt token (service.taken index).generation = false :=
    stale
  simp only [step, found]
  cases message with
  | info other info =>
      cases carries
      simp only [Service.handleMessage, stillStale, Bool.false_and,
        Bool.false_eq_true, if_false]
  | error other error =>
      cases carries
      simp only [Service.handleMessage, stillStale, Bool.false_and,
        Bool.false_eq_true, if_false]
  | _ =>
      cases carries

/-- Handling `destroy` retires the service. -/
theorem Inv.retired_of_destroy
    (inv : service.Inv)
    {index : Nat}
    (found : service.queue[index]? = some .destroy)
    (world : World) :
    (service.step (.work index world)).Retired := by
  simp only [Service.step, found]
  exact ⟨inv.destroying (List.mem_of_getElem? found), rfl⟩

end Service

/--
Over every run of the service, in any order of messages and with any outcome of
the native calls: as long as no callback comes exactly a multiple of 2^32
increments of the generation too late, there is at most one server; it is
created while none is held and stopped once, before the next; restarts, polls
and a live server exclude each other; `destroy` leaves nothing behind; and a
callback of an earlier generation changes nothing.
-/
theorem one_stream_at_a_time
    (actions : List Action)
    (timely : TimelyRun .initial actions) :
    OneStream actions := by
  have inv := Service.inv_initial.run timely
  refine
    { idleAtCreation := fun _ _ _ _ member =>
        idle_of_create inv.calls member
      exclusive :=
        ⟨inv.oneRestart, inv.onePoll, fun pending =>
          (inv.restarting pending).1⟩
      stopped := ?_
      stoppedOnce := ?_
      behindDestroy := ?_
      staleCallback := ?_ }
  · intro earlier field encoder request handle later split nonzero
    have calls := inv.calls
    rw [split] at calls
    rcases stop_of_create calls nonzero with ⟨isLast, isHeld⟩ | isStopped
    · refine .inl ⟨isLast, ?_⟩
      rw [Service.held] at isHeld
      split at isHeld
      · cases isHeld
      · exact Option.some.inj isHeld
    · exact .inr isStopped
  · intro earlier handle later split
    have calls := inv.calls
    rw [split] at calls
    exact create_of_stop calls
  · rintro earlier index world later rfl found
    have earlierInv :=
      Service.inv_initial.run (Service.timelyRun_append.mp timely).1
    have retired := earlierInv.retired_of_destroy found world
    have stays := retired.run later
    rw [Service.run_append, Service.run_append]
    exact ⟨stays.handle, stays.calls⟩
  · rintro earlier index world later message rfl found token carries
      isEarlier
    apply Service.step_of_stale found carries
    rw [Bool.eq_false_iff]
    intro same
    have isCurrent :=
      (Service.timelyRun_append.mp timely).2.1 message found token carries
        same
    exact Nat.ne_of_lt isEarlier isCurrent

/-- All calls succeed, and the stream has been ready for a minute. -/
def healthyWorld : World where
  destroyedAtEntry := false
  destroyedAtRecover := false
  prepared := .ok ()
  created := .ok 1
  built := .ok ()
  started := .ok ()
  urls := []
  now := 60001
  stats := .ok {
    active := true, ready := true, viewers := 0, lastFrameAgeMs := 0 }
  keyframe := .ok ()
  measuredFps := []
  notified := .ok ()

/-- The time of all attempts. -/
def freshWorld : World :=
  { healthyWorld with now := 0 }

/-- The server has stopped. -/
def stoppedWorld : World :=
  { healthyWorld with
    stats := .ok {
      active := false, ready := false, viewers := 0, lastFrameAgeMs := 0 } }

/-- A second attempt follows an error, and the error comes once more. -/
def restarted : List Action :=
  [.startCommand none, .work 0 freshWorld,
    .failed 1 "Camera disconnected".toList, .work 1 freshWorld,
    .failed 1 "Camera disconnected".toList, .work 0 freshWorld,
    .work 0 freshWorld]

/-- The run with a second attempt is timely. -/
theorem one_stream_at_a_time_restarted :
    TimelyRun .initial restarted ∧ OneStream restarted :=
  ⟨by decide +kernel,
    one_stream_at_a_time restarted (by decide +kernel)⟩

/-- A healthy stream whose server stops is started again. -/
def renewal : List Action :=
  [.work 0 healthyWorld, .work 0 stoppedWorld, .work 0 freshWorld]

/-- A stream that is renewed some times. -/
def renewedRun (renewals : Nat) : List Action :=
  [.startCommand none, .work 0 freshWorld] ++
    (List.replicate renewals renewal).flatten

/-- Behind the renewals the worker handles an error of the first encoder. -/
def lateError (renewals : Nat) : List Action :=
  renewedRun renewals ++ .failed 1 [] :: [.work 1 freshWorld]

/-- A live stream that was renewed some times. -/
structure Renewed (renewals : Nat) (service : Service) : Prop where
  destroyed : service.destroyed = false
  handle : service.handle = 1
  wanted : service.wanted = true
  generation : service.generation = 1 + 2 * renewals
  options : service.options.isSome = true
  startedAt : service.startedAt = 0
  queue : service.queue = [.poll]
  tokens : 1 ∈ service.tokens

/-- The first attempt. -/
theorem renewed_initial :
    Renewed 0
      (Service.initial.run [.startCommand none, .work 0 freshWorld]) where
  destroyed := rfl
  handle := rfl
  wanted := rfl
  generation := rfl
  options := rfl
  startedAt := rfl
  queue := rfl
  tokens := by decide

/-- A renewal takes two increments of the generation. -/
theorem Renewed.once
    {renewals : Nat}
    {service : Service}
    (renewed : Renewed renewals service) :
    Renewed (renewals + 1) (service.run renewal) := by
  obtain ⟨intent, options⟩ := Option.isSome_iff_exists.mp renewed.options
  have destroyed := renewed.destroyed
  have handle := renewed.handle
  have wanted := renewed.wanted
  have generation := renewed.generation
  have startedAt := renewed.startedAt
  have queue := renewed.queue
  have tokens := renewed.tokens
  cases service
  subst options destroyed handle wanted generation startedAt queue
  exact ⟨rfl, rfl, rfl, rfl, rfl, rfl, rfl, List.mem_append_left _ tokens⟩

/-- A stream can be renewed any number of times. -/
theorem Renewed.many
    {earlier : Nat}
    {service : Service}
    (renewed : Renewed earlier service)
    (renewals : Nat) :
    Renewed (earlier + renewals)
      (service.run (List.replicate renewals renewal).flatten) := by
  induction renewals generalizing earlier service with
  | zero =>
      exact renewed
  | succ renewals inductionHypothesis =>
      rw [List.replicate_succ, List.flatten_cons, Service.run_append,
        Nat.add_comm renewals, ← Nat.add_assoc]
      exact inductionHypothesis renewed.once

theorem renewed_renewedRun (renewals : Nat) :
    Renewed renewals (Service.initial.run (renewedRun renewals)) := by
  have renewed := renewed_initial.many renewals
  rw [Nat.zero_add, ← Service.run_append] at renewed
  exact renewed

/-- An error with the current generation, but for the wrap, is believed. -/
theorem Renewed.handle_of_failed
    {renewals : Nat}
    {service : Service}
    (renewed : Renewed renewals service)
    (wraps : sameInt 1 (1 + 2 * renewals) = true) :
    ((service.post (.error 1 [])).step (.work 1 freshWorld)).handle =
      0 := by
  have destroyed := renewed.destroyed
  have wanted := renewed.wanted
  have generation := renewed.generation
  have queue := renewed.queue
  simp [Service.step, Service.post, Service.taken, Service.handleMessage,
    queue, generation, wanted, wraps, Service.recover, Service.observe,
    destroyed, freshWorld, healthyWorld, Service.releaseStream,
    Service.finishWithError, apply_ite Service.handle]

/-- An error that the wrap makes current releases a live server. -/
theorem not_oneStream_of_wraps
    {renewals : Nat}
    (renewedOnce : 0 < renewals)
    (wraps : sameInt 1 (1 + 2 * renewals) = true) :
    ¬ OneStream (lateError renewals) := by
  intro oneStream
  have renewed := renewed_renewedRun renewals
  have posted :
      Service.initial.run (renewedRun renewals ++ [.failed 1 []]) =
        (Service.initial.run (renewedRun renewals)).post
          (.error 1 []) := by
    rw [Service.run_append]
    exact if_pos renewed.tokens
  have ignored :=
    oneStream.staleCallback (renewedRun renewals ++ [.failed 1 []])
      1 freshWorld [] (.error 1 []) (List.append_cons _ _ _)
  rw [posted] at ignored
  have handles := congrArg Service.handle
    (ignored (by simp [Service.post, renewed.queue]) 1 rfl
      (by
        change 1 < (Service.initial.run (renewedRun renewals)).generation
        rw [renewed.generation]
        omega))
  rw [renewed.handle_of_failed wraps] at handles
  have isLive :
      (Service.initial.run (renewedRun renewals)).handle = 0 :=
    handles.symm
  rw [renewed.handle] at isLive
  exact absurd isLive (by decide)

/--
Behind 2^31 renewals the generation has wrapped around: the error of the first
encoder releases the live server.
-/
theorem late_error_releases : ¬ OneStream (lateError 2147483648) :=
  not_oneStream_of_wraps (by decide) (by decide)

end StreamService

end CamRtsp
