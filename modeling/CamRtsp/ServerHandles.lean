import CamRtsp.NativeBridge

namespace CamRtsp.NativeBridge

open RustText

/-!
# The life of a native server

Behind any interleaving of calls every server is in one phase: a thread that
creates it holds it, the table holds it, a thread that stops it holds it, or it
has been joined.  The phases follow the states and the replies, so nothing can
be registered twice, stopped twice or lost.
-/

/-! ## What a history tells -/

/-- The handle and the server that a call has registered. -/
def createdBy? : Action × Reply → Option (Int64 × ServerId)
  | (_, .created handle server) => some (handle, server)
  | _ => none

/-- The handle and the server that a stop has taken from the table. -/
def takenBy? : Action × Reply → Option (Int64 × ServerId)
  | (_, .took handle server) => some (handle, server)
  | _ => none

/-- The handle and the server whose thread a stop has joined. -/
def stoppedBy? : Action × Reply → Option (Int64 × ServerId)
  | (_, .stopped handle server _) => some (handle, server)
  | _ => none

/-- The entry takes a number from `NEXT_HANDLE`. -/
def isNumber : Action × Reply → Bool
  | (.number _, .running) => true
  | _ => false

/-- All registrations. -/
def created (history : Bridge.History) : List (Int64 × ServerId) :=
  history.filterMap createdBy?

/-- All removals from the table. -/
def taken (history : Bridge.History) : List (Int64 × ServerId) :=
  history.filterMap takenBy?

/-- All joined servers. -/
def stopped (history : Bridge.History) : List (Int64 × ServerId) :=
  history.filterMap stoppedBy?

/-- How many numbers have been taken. -/
def numbers (history : Bridge.History) : Nat :=
  history.countP isNumber

/-- The handle a call names. -/
def Action.handle? : Action → Option Int64
  | .setCodecConfig handle _ _ => some handle
  | .pushAccessUnit handle _ _ => some handle
  | .getStats handle _ => some handle
  | .setFrameRate handle _ _ => some handle
  | .takeKeyframeRequest handle => some handle
  | .stop _ handle => some handle
  | _ => none

/-- The action is a step of a connection. -/
def Action.isConnection : Action → Bool
  | .connection _ _ => true
  | _ => false

/-- What a call on an unknown handle gets. -/
def Reply.Refuses : Reply → Prop
  | .ignored => True
  | .threw _ => True
  | .stats object => object = .unknown
  | .keyframe request => request = false
  | _ => False

/-! ## Phases -/

/-- Who holds a server, and under which handle. -/
inductive Phase where
  | spawned (thread : ThreadId)
  | numbered (thread : ThreadId) (handle : Int64)
  | registered (handle : Int64)
  | removed (thread : ThreadId) (handle : Int64)
  | joining (thread : ThreadId) (handle : Int64)
  | stopped (handle : Int64)
  deriving Repr, DecidableEq

namespace Phase

/-- The thread that holds the server, and where it is. -/
def call? (server : ServerId) : Phase → Option (ThreadId × Call)
  | .spawned thread => some (thread, .spawned server)
  | .numbered thread handle => some (thread, .numbered server handle)
  | .registered _ => none
  | .removed thread handle => some (thread, .removed server handle)
  | .joining thread handle => some (thread, .joining server handle)
  | .stopped _ => none

/-- The number the server has. -/
def handle? : Phase → Option Int64
  | .spawned _ => none
  | .numbered _ handle => some handle
  | .registered handle => some handle
  | .removed _ handle => some handle
  | .joining _ handle => some handle
  | .stopped handle => some handle

/-- The handle the server was registered under. -/
def created? : Phase → Option Int64
  | .spawned _ => none
  | .numbered _ _ => none
  | .registered handle => some handle
  | .removed _ handle => some handle
  | .joining _ handle => some handle
  | .stopped handle => some handle

/-- The handle the server was taken from. -/
def taken? : Phase → Option Int64
  | .removed _ handle => some handle
  | .joining _ handle => some handle
  | .stopped handle => some handle
  | _ => none

/-- The handle whose stop has joined the server. -/
def stopped? : Phase → Option Int64
  | .stopped handle => some handle
  | _ => none

/-- A stop has raised the flag. -/
def isRaised : Phase → Bool
  | .joining _ _ => true
  | .stopped _ => true
  | _ => false

end Phase

/-- The threads inside the library hold servers, one each. -/
structure Holds (calls : ThreadId → Call) (phases : List Phase) : Prop where
  busy :
    ∀ thread, calls thread ≠ .outside →
      ∃ (server : ServerId) (phase : Phase),
        phases[server]? = some phase ∧
          phase.call? server = some (thread, calls thread)
  held :
    ∀ (server : ServerId) (phase : Phase), phases[server]? = some phase →
      ∀ thread call, phase.call? server = some (thread, call) →
        calls thread = call

/-- The table holds the registered servers. -/
structure Lists
    (servers : List (Int64 × ServerId))
    (phases : List Phase) : Prop where
  nodup : (servers.map Prod.fst).Nodup
  registered :
    ∀ (handle : Int64) (server : ServerId),
      (handle, server) ∈ servers ↔
        phases[server]? = some (.registered handle)

/-- Handles are numbers taken so far, and no two servers share one. -/
structure Numbers
    (next : Int64)
    (count : Nat)
    (phases : List Phase) : Prop where
  next : next = Int64.ofNat (count + 1)
  range :
    ∀ (server : ServerId) (phase : Phase), phases[server]? = some phase →
      ∀ handle ∈ phase.handle?,
        ∃ number, 1 ≤ number ∧ number ≤ count ∧
          handle = Int64.ofNat number
  distinct :
    ∀ (first second : ServerId) (firstPhase secondPhase : Phase),
      phases[first]? = some firstPhase →
        phases[second]? = some secondPhase →
          ∀ handle ∈ firstPhase.handle?,
            secondPhase.handle? = some handle → first = second

/-- A list names the servers whose phase has a mark, once each. -/
structure Logged
    (mark : Phase → Option Int64)
    (log : List (Int64 × ServerId))
    (phases : List Phase) : Prop where
  iff :
    ∀ (handle : Int64) (server : ServerId),
      (handle, server) ∈ log ↔
        ∃ phase : Phase,
          phases[server]? = some phase ∧ mark phase = some handle
  nodup : log.Nodup

/-- The history tells the phases. -/
structure Records
    (history : Bridge.History)
    (phases : List Phase) : Prop where
  created : Logged Phase.created? (created history) phases
  taken : Logged Phase.taken? (taken history) phases
  stopped : Logged Phase.stopped? (stopped history) phases

/--
The flag is up when the thread has returned or a stop has raised it; a joined
thread has ended.
-/
structure Fits (server : Server) (phase : Phase) : Prop where
  flag :
    server.stopping = true ↔
      server.worker = .returned ∨ phase.isRaised = true
  ended : phase.stopped?.isSome = true → server.worker ≠ .running

/-- Every server fits its phase. -/
structure Flags (started : List Server) (phases : List Phase) : Prop where
  length : phases.length = started.length
  fits :
    ∀ (id : ServerId) (server : Server) (phase : Phase),
      started[id]? = some server → phases[id]? = some phase →
        Fits server phase

/-- The phases of a state that a history has led to. -/
structure Tracks
    (bridge : Bridge)
    (history : Bridge.History)
    (phases : List Phase) : Prop where
  holds : Holds bridge.calls phases
  lists : Lists bridge.servers phases
  numbers : Numbers bridge.nextHandle (numbers history) phases
  records : Records history phases
  flags : Flags bridge.started phases

/-! ## One server goes on -/

/-- The call of a thread that holds a server names the server. -/
theorem Phase.server_of_call?
    {phase : Phase}
    {server : ServerId}
    {thread : ThreadId}
    {call : Call}
    (holds : phase.call? server = some (thread, call)) :
    call ≠ .outside ∧
      (call = .spawned server ∨
        ∃ handle,
          call = .numbered server handle ∨
            call = .removed server handle ∨
              call = .joining server handle) := by
  cases phase <;> simp_all [Phase.call?] <;> grind

/-- The place of a thread in the phase of a server, if it holds it. -/
def Phase.Places
    (server : ServerId)
    (thread : ThreadId)
    (call : Call)
    (phase : Phase) : Prop :=
  phase.call? server =
    if call = .outside then none else some (thread, call)

section Advance

variable {calls : ThreadId → Call}
variable {phases : List Phase}
variable {server : ServerId}
variable {thread : ThreadId}
variable {call : Call}
variable {phase next : Phase}

/-- A phase in the list after one has changed. -/
theorem getElem?_set_cases
    {other : ServerId}
    {found : Phase}
    (foundAfter : (phases.set server next)[other]? = some found) :
    (other = server ∧ found = next) ∨
      (other ≠ server ∧ phases[other]? = some found) := by
  rw [List.getElem?_set] at foundAfter
  split at foundAfter
  · rename_i same
    split at foundAfter
    · exact .inl ⟨same.symm, (Option.some.inj foundAfter).symm⟩
    · cases foundAfter
  · rename_i different
    exact .inr ⟨Ne.symm different, foundAfter⟩

/-- The changed phase. -/
theorem getElem?_set_same (found : phases[server]? = some phase) :
    (phases.set server next)[server]? = some next := by
  obtain ⟨inside, _⟩ := List.getElem?_eq_some_iff.mp found
  simp [inside]

/-- A thread takes a server from one phase to the next. -/
theorem Holds.advance
    (holds : Holds calls phases)
    (found : phases[server]? = some phase)
    (from_ : phase.Places server thread (calls thread))
    (to_ : next.Places server thread call) :
    Holds (Function.update calls thread call) (phases.set server next)
    where
  busy := by
    intro other isBusy
    by_cases same : other = thread
    · subst same
      rw [Function.update_self] at isBusy ⊢
      refine ⟨server, next, getElem?_set_same found, ?_⟩
      rw [to_, if_neg isBusy]
    · rw [Function.update_of_ne same] at isBusy ⊢
      obtain ⟨otherServer, otherPhase, otherFound, otherCall⟩ :=
        holds.busy other isBusy
      refine ⟨otherServer, otherPhase, ?_, otherCall⟩
      rw [List.getElem?_set_ne, otherFound]
      rintro rfl
      rw [found] at otherFound
      cases otherFound
      rw [from_] at otherCall
      split at otherCall
      · cases otherCall
      · exact same (Prod.mk.inj (Option.some.inj otherCall)).1.symm
  held := by
    intro otherServer otherPhase otherFound other otherCall isHeld
    rcases getElem?_set_cases otherFound with
      ⟨rfl, rfl⟩ | ⟨different, otherFound⟩
    · rw [to_] at isHeld
      split at isHeld
      · cases isHeld
      · obtain ⟨rfl, rfl⟩ := Prod.mk.inj (Option.some.inj isHeld)
        exact Function.update_self ..
    · have callEq := holds.held _ _ otherFound _ _ isHeld
      have named := Phase.server_of_call? isHeld
      rw [Function.update_of_ne, callEq]
      rintro rfl
      rw [Phase.Places, callEq, if_neg named.1] at from_
      have placed := Phase.server_of_call? from_
      grind

/-- A thread outside holds nothing. -/
theorem Holds.not_held_of_outside
    (holds : Holds calls phases)
    (outside : calls thread = .outside)
    (found : phases[server]? = some phase)
    (heldBy : ThreadId × Call)
    (isHeld : phase.call? server = some heldBy) :
    heldBy.1 ≠ thread := by
  rintro rfl
  have callEq := holds.held _ _ found _ _ isHeld
  exact (Phase.server_of_call? isHeld).1 (callEq.symm.trans outside)

/-- A thread outside spawns a new server. -/
theorem Holds.spawn
    (holds : Holds calls phases)
    (outside : calls thread = .outside) :
    Holds (Function.update calls thread (.spawned phases.length))
      (phases ++ [.spawned thread]) where
  busy := by
    intro other isBusy
    by_cases same : other = thread
    · subst same
      refine ⟨phases.length, .spawned other, by simp, ?_⟩
      rw [Function.update_self]
      rfl
    · rw [Function.update_of_ne same] at isBusy ⊢
      obtain ⟨otherServer, otherPhase, otherFound, otherCall⟩ :=
        holds.busy other isBusy
      obtain ⟨inside, _⟩ := List.getElem?_eq_some_iff.mp otherFound
      refine ⟨otherServer, otherPhase, ?_, otherCall⟩
      rw [List.getElem?_append_left inside, otherFound]
  held := by
    intro otherServer otherPhase otherFound other otherCall isHeld
    rcases Nat.lt_or_ge otherServer phases.length with inside | beyond
    · rw [List.getElem?_append_left inside] at otherFound
      have different : other ≠ thread :=
        holds.not_held_of_outside outside otherFound _ isHeld
      rw [Function.update_of_ne different]
      exact holds.held _ _ otherFound _ _ isHeld
    · rw [List.getElem?_append_right beyond,
        List.getElem?_singleton] at otherFound
      split at otherFound
      · rename_i atEnd
        cases otherFound
        obtain rfl :=
          Nat.le_antisymm (Nat.sub_eq_zero_iff_le.mp atEnd) beyond
        obtain ⟨rfl, rfl⟩ := Prod.mk.inj (Option.some.inj isHeld)
        exact Function.update_self ..
      · cases otherFound

/-- What a list names follows the change of one phase. -/
theorem Logged.advance
    {mark : Phase → Option Int64}
    {log more : List (Int64 × ServerId)}
    (logged : Logged mark log phases)
    (found : phases[server]? = some phase)
    (change :
      (more = [] ∧ mark next = mark phase) ∨
        (mark phase = none ∧
          ∃ handle, mark next = some handle ∧
            more = [(handle, server)])) :
    Logged mark (log ++ more) (phases.set server next) := by
  have sameMarks (other : ServerId) (different : other ≠ server) :
      (phases.set server next)[other]? = phases[other]? :=
    List.getElem?_set_ne (Ne.symm different)
  have atServer : (phases.set server next)[server]? = some next :=
    getElem?_set_same found
  rcases change with ⟨rfl, same⟩ | ⟨unmarked, handle, marked, rfl⟩
  · refine ⟨?_, by simpa using logged.nodup⟩
    intro other otherServer
    rw [List.append_nil, logged.iff]
    by_cases isServer : otherServer = server
    · subst isServer
      simp [found, atServer, same]
    · rw [sameMarks _ isServer]
  · have absent (other : Int64) : (other, server) ∉ log := by
      intro member
      obtain ⟨_, foundAgain, isMarked⟩ := (logged.iff _ _).mp member
      rw [found] at foundAgain
      cases foundAgain
      rw [unmarked] at isMarked
      cases isMarked
    refine ⟨?_, ?_⟩
    · intro other otherServer
      rw [List.mem_append, List.mem_singleton, logged.iff, Prod.mk.injEq]
      by_cases isServer : otherServer = server
      · subst isServer
        simp [found, atServer, unmarked, marked, eq_comm]
      · rw [sameMarks _ isServer]
        simp [isServer]
    · rw [List.nodup_append]
      refine ⟨logged.nodup, by simp, ?_⟩
      rintro entry member _ isNew rfl
      rw [List.mem_singleton] at isNew
      subst isNew
      exact absent _ member

/-- A new phase without the mark. -/
theorem Logged.spawn
    {mark : Phase → Option Int64}
    {log : List (Int64 × ServerId)}
    (logged : Logged mark log phases)
    (unmarked : mark next = none) :
    Logged mark log (phases ++ [next]) where
  iff := by
    intro handle server
    rw [logged.iff]
    constructor
    · rintro ⟨phase, found, marked⟩
      obtain ⟨inside, _⟩ := List.getElem?_eq_some_iff.mp found
      exact ⟨phase, by rw [List.getElem?_append_left inside, found],
        marked⟩
    · rintro ⟨phase, found, marked⟩
      rw [List.getElem?_append] at found
      split at found
      · exact ⟨phase, found, marked⟩
      · rw [List.getElem?_singleton] at found
        split at found
        · cases found
          rw [unmarked] at marked
          cases marked
        · cases found
  nodup := logged.nodup

/-- A phase in the list behind a new one. -/
theorem getElem?_concat_cases
    {other : ServerId}
    {found : Phase}
    (foundAfter : (phases ++ [next])[other]? = some found) :
    phases[other]? = some found ∨
      (other = phases.length ∧ found = next) := by
  rw [List.getElem?_append] at foundAfter
  split at foundAfter
  · exact .inl foundAfter
  · rename_i beyond
    rw [List.getElem?_singleton] at foundAfter
    split at foundAfter
    · rename_i atEnd
      cases foundAfter
      exact .inr
        ⟨Nat.le_antisymm (Nat.sub_eq_zero_iff_le.mp atEnd)
          (Nat.le_of_not_lt beyond), rfl⟩
    · cases foundAfter

variable {servers : List (Int64 × ServerId)}
variable {handle : Int64}

/-- The table stays while no server enters or leaves it. -/
theorem Lists.keep
    (lists : Lists servers phases)
    (found : phases[server]? = some phase)
    (notBefore : ∀ handle, phase ≠ .registered handle)
    (notAfter : ∀ handle, next ≠ .registered handle) :
    Lists servers (phases.set server next) where
  nodup := lists.nodup
  registered := by
    intro other otherServer
    rw [lists.registered]
    by_cases same : otherServer = server
    · subst same
      rw [found, getElem?_set_same found]
      simp [notBefore, notAfter]
    · rw [List.getElem?_set_ne (Ne.symm same)]

/-- A new server is not yet in the table. -/
theorem Lists.spawn
    (lists : Lists servers phases)
    (unlisted : ∀ handle, next ≠ .registered handle) :
    Lists servers (phases ++ [next]) where
  nodup := lists.nodup
  registered := by
    intro other otherServer
    rw [lists.registered]
    constructor
    · intro found
      obtain ⟨inside, _⟩ := List.getElem?_eq_some_iff.mp found
      rw [List.getElem?_append_left inside, found]
    · intro found
      rcases getElem?_concat_cases found with found | ⟨_, impossible⟩
      · exact found
      · exact absurd impossible.symm (unlisted _)

/-- A server enters the table under a handle that is not in it. -/
theorem Lists.insert
    (lists : Lists servers phases)
    (found : phases[server]? = some phase)
    (notBefore : ∀ handle, phase ≠ .registered handle)
    (unused :
      ∀ other : ServerId, phases[other]? ≠ some (.registered handle)) :
    Lists
      (servers.filter (fun entry => entry.1 != handle) ++
        [(handle, server)])
      (phases.set server (.registered handle)) := by
  have absent : ∀ entry ∈ servers, entry.1 ≠ handle := by
    rintro ⟨_, other⟩ member rfl
    exact unused other ((lists.registered _ _).mp member)
  have unchanged :
      servers.filter (fun entry => entry.1 != handle) = servers :=
    List.filter_eq_self.mpr fun entry member =>
      bne_iff_ne.mpr (absent entry member)
  rw [unchanged]
  refine ⟨?_, ?_⟩
  · rw [List.map_append, List.nodup_append]
    refine ⟨lists.nodup, by simp, ?_⟩
    rintro _ member _ isNew rfl
    obtain ⟨entry, isListed, rfl⟩ := List.mem_map.mp member
    exact absent entry isListed (by simpa using isNew)
  · intro other otherServer
    rw [List.mem_append, List.mem_singleton, lists.registered,
      Prod.mk.injEq]
    by_cases same : otherServer = server
    · subst same
      rw [found, getElem?_set_same found]
      simp [notBefore, eq_comm]
    · rw [List.getElem?_set_ne (Ne.symm same)]
      simp [same]

/-- A server leaves the table. -/
theorem Lists.remove
    (lists : Lists servers phases)
    (found : phases[server]? = some (.registered handle))
    (notAfter : ∀ handle, next ≠ .registered handle) :
    Lists (servers.filter fun entry => entry.1 != handle)
      (phases.set server next) where
  nodup := lists.nodup.sublist (List.filter_sublist.map Prod.fst)
  registered := by
    intro other otherServer
    rw [List.mem_filter, bne_iff_ne, lists.registered]
    by_cases same : otherServer = server
    · subst same
      rw [found, getElem?_set_same found]
      simp [notAfter, eq_comm]
    · rw [List.getElem?_set_ne (Ne.symm same)]
      refine ⟨And.left, fun listed => ⟨listed, ?_⟩⟩
      rintro rfl
      have first := (lists.registered other server).mpr found
      have second := (lists.registered other otherServer).mpr listed
      have samePair :=
        List.inj_on_of_nodup_map lists.nodup first second rfl
      exact same (Prod.mk.inj samePair).2.symm

/-- A lookup finds the registered server. -/
theorem Lists.lookup_iff (lists : Lists servers phases) :
    servers.lookup handle = some server ↔
      phases[server]? = some (.registered handle) := by
  rw [← lists.registered]
  have nodup := lists.nodup
  clear lists
  induction servers with
  | nil =>
      simp
  | cons entry later inductionHypothesis =>
      obtain ⟨key, value⟩ := entry
      rw [List.map_cons, List.nodup_cons] at nodup
      rw [List.lookup_cons, List.mem_cons, Prod.mk.injEq]
      by_cases same : handle = key
      · subst same
        have noOther : (handle, server) ∉ later := fun member =>
          nodup.1 (List.mem_map.mpr ⟨_, member, rfl⟩)
        simp [noOther, eq_comm]
      · have rest := inductionHypothesis nodup.2
        rw [beq_false_of_ne same]
        simpa [same] using rest

variable {number : Int64}
variable {count : Nat}

/-- Small numbers are different handles. -/
theorem ofNat_inj
    {first second : Nat}
    (firstSmall : first < 2 ^ 63)
    (secondSmall : second < 2 ^ 63)
    (same : Int64.ofNat first = Int64.ofNat second) : first = second := by
  have integers := congrArg Int64.toInt same
  rw [Int64.toInt_ofNat_of_lt firstSmall,
    Int64.toInt_ofNat_of_lt secondSmall] at integers
  exact Int.ofNat_inj.mp integers

/-- A server keeps its number. -/
theorem Numbers.keep
    (counted : Numbers number count phases)
    (found : phases[server]? = some phase)
    (same : next.handle? = phase.handle?) :
    Numbers number count (phases.set server next) := by
  have origin (other : ServerId) (after : Phase)
      (foundAfter : (phases.set server next)[other]? = some after) :
      ∃ before : Phase,
        phases[other]? = some before ∧
          after.handle? = before.handle? := by
    rcases getElem?_set_cases foundAfter with
      ⟨rfl, rfl⟩ | ⟨_, foundBefore⟩
    · exact ⟨phase, found, same⟩
    · exact ⟨after, foundBefore, rfl⟩
  refine ⟨counted.next, ?_, ?_⟩
  · intro other after foundAfter handle isHandle
    obtain ⟨before, foundBefore, sameHandle⟩ := origin other after foundAfter
    exact counted.range other before foundBefore handle
      (sameHandle ▸ isHandle)
  · intro first second firstAfter secondAfter firstFound secondFound handle
      firstHandle secondHandle
    obtain ⟨firstBefore, firstFound, firstSame⟩ :=
      origin first firstAfter firstFound
    obtain ⟨secondBefore, secondFound, secondSame⟩ :=
      origin second secondAfter secondFound
    exact counted.distinct first second firstBefore secondBefore firstFound
      secondFound handle (firstSame ▸ firstHandle)
      (secondSame ▸ secondHandle)

/-- A new server has no number. -/
theorem Numbers.spawn
    (counted : Numbers number count phases)
    (unnumbered : next.handle? = none) :
    Numbers number count (phases ++ [next]) := by
  have origin (other : ServerId) (after : Phase)
      (handle : Int64)
      (foundAfter : (phases ++ [next])[other]? = some after)
      (isHandle : handle ∈ after.handle?) :
      phases[other]? = some after := by
    rcases getElem?_concat_cases foundAfter with found | ⟨_, rfl⟩
    · exact found
    · rw [unnumbered] at isHandle
      cases isHandle
  refine ⟨counted.next, ?_, ?_⟩
  · intro other after foundAfter handle isHandle
    exact counted.range other after
      (origin other after handle foundAfter isHandle) handle isHandle
  · intro first second firstAfter secondAfter firstFound secondFound handle
      firstHandle secondHandle
    exact counted.distinct first second firstAfter secondAfter
      (origin first firstAfter handle firstFound firstHandle)
      (origin second secondAfter handle secondFound secondHandle) handle
      firstHandle secondHandle

/-- The next number is fresh while the counter does not wrap. -/
theorem Numbers.fresh
    (counted : Numbers number count phases)
    (bounded : count + 1 < 2 ^ 63)
    (found : phases[server]? = some phase) :
    phase.handle? ≠ some number := by
  intro isNumber
  obtain ⟨small, atLeast, atMost, isSmall⟩ :=
    counted.range server phase found number isNumber
  have same : Int64.ofNat (count + 1) = Int64.ofNat small :=
    counted.next.symm.trans isSmall
  have := ofNat_inj bounded (by omega) same
  omega

/-- A server takes the next number. -/
theorem Numbers.take
    (counted : Numbers number count phases)
    (bounded : count + 1 < 2 ^ 63)
    (numbered : next.handle? = some number) :
    Numbers (number + 1) (count + 1) (phases.set server next) where
  next := by
    rw [counted.next, Int64.ofNat_add (count + 1) 1]
    rfl
  range := by
    intro other after foundAfter handle isHandle
    rcases getElem?_set_cases foundAfter with
      ⟨_, rfl⟩ | ⟨_, foundBefore⟩
    · rw [numbered] at isHandle
      cases isHandle
      exact ⟨count + 1, by omega, le_rfl, counted.next⟩
    · obtain ⟨small, atLeast, atMost, isSmall⟩ :=
        counted.range other after foundBefore handle isHandle
      exact ⟨small, atLeast, by omega, isSmall⟩
  distinct := by
    intro first second firstAfter secondAfter firstFound secondFound handle
      firstHandle secondHandle
    rcases getElem?_set_cases firstFound with
        ⟨firstIs, rfl⟩ | ⟨_, firstBefore⟩ <;>
      rcases getElem?_set_cases secondFound with
        ⟨secondIs, rfl⟩ | ⟨_, secondBefore⟩
    · exact firstIs.trans secondIs.symm
    · rw [numbered] at firstHandle
      cases firstHandle
      exact absurd secondHandle (counted.fresh bounded secondBefore)
    · rw [numbered] at secondHandle
      cases secondHandle
      exact absurd firstHandle (counted.fresh bounded firstBefore)
    · exact counted.distinct first second firstAfter secondAfter
        firstBefore secondBefore handle firstHandle secondHandle

variable {started : List Server}
variable {state : Server}

/-- A changed server fits its changed phase. -/
theorem Flags.advance
    (flags : Flags started phases)
    (server : ServerId)
    (change : Server → Server)
    (after : Phase → Phase)
    (fits :
      ∀ state, started[server]? = some state →
        ∀ phase, phases[server]? = some phase →
          Fits state phase → Fits (change state) (after phase)) :
    Flags (started.modify server change) (phases.modify server after) where
  length := by simp [flags.length]
  fits := by
    intro other state phase foundState foundPhase
    rw [List.getElem?_modify] at foundState foundPhase
    obtain ⟨stateBefore, stateFound, rfl⟩ :=
      Option.map_eq_some_iff.mp foundState
    obtain ⟨phaseBefore, phaseFound, rfl⟩ :=
      Option.map_eq_some_iff.mp foundPhase
    have before := flags.fits _ _ _ stateFound phaseFound
    by_cases same : server = other
    · subst same
      simpa using fits _ stateFound _ phaseFound before
    · simpa [same] using before

/-- A server that has just been started is not stopping. -/
theorem Flags.spawn
    (flags : Flags started phases)
    (running : state.worker = .running)
    (serving : state.stopping = false)
    (unraised : next.isRaised = false)
    (unstopped : next.stopped? = none) :
    Flags (started ++ [state]) (phases ++ [next]) where
  length := by simp [flags.length]
  fits := by
    intro other found phase foundState foundPhase
    rcases getElem?_concat_cases foundPhase with foundPhase | ⟨rfl, rfl⟩
    · obtain ⟨inside, _⟩ := List.getElem?_eq_some_iff.mp foundPhase
      rw [flags.length] at inside
      rw [List.getElem?_append_left inside] at foundState
      exact flags.fits _ _ _ foundState foundPhase
    · rw [flags.length] at foundState
      obtain rfl : state = found := by simpa using foundState
      refine ⟨?_, ?_⟩
      · simp [running, serving, unraised]
      · simp [unstopped]

end Advance

/-! ## What a step does -/

/-- The entry is no step of a creation or a stop. -/
structure Plain (action : Action) (reply : Reply) : Prop where
  created : createdBy? (action, reply) = none
  taken : takenBy? (action, reply) = none
  stopped : stoppedBy? (action, reply) = none
  number : isNumber (action, reply) = false

/-- The change of `finish`. -/
def Server.finish (panics : Bool) (state : Server) : Server :=
  if state.worker = .running then
    if panics then
      { state with worker := .panicked }
    else
      { state with stopping := true, worker := .returned }
  else
    state

/-- The change of `raise`. -/
def Server.raise (state : Server) : Server :=
  { state with stopping := true }

/-- A server that has just been started. -/
def Server.fresh : Server where
  broadcaster := .initial
  stopping := false
  worker := .running

/-- A successful bind leaves the new broadcaster as it is. -/
theorem source_bindWithTransport
    {listener : Except IoError Unit}
    {path : Text}
    {credentials : Option Credentials}
    {transport : TransportPolicy}
    {bound : BoundServer}
    (binds :
      bindWithTransport listener path .initial 0 credentials transport =
        .ok bound) :
    bound.source = .initial := by
  rw [bindWithTransport] at binds
  split at binds
  · cases binds
  · cases listener with
    | error error =>
        cases binds
    | ok done =>
        cases binds
        rfl

/-- Everything a step can do. -/
inductive Effect (bridge : Bridge) : Action → Reply → Bridge → Prop where
  | nothing {action : Action} {reply : Reply}
      (plain : Plain action reply) :
      Effect bridge action reply bridge
  | operated {action : Action} {reply : Reply}
      (server : ServerId)
      (operation : Broadcaster.Operation)
      (plain : Plain action reply)
      (succeeds : ∀ message, reply ≠ .threw message)
      (named : action.handle? ≠ none ∨ action.isConnection = true) :
      Effect bridge action reply (bridge.operate server operation)
  | finished (server : ServerId) (panics : Bool) :
      Effect bridge (.finish server panics) .running
        (bridge.modify server (Server.finish panics))
  | spawned {thread : ThreadId} {request : CreateRequest}
      {listener spawn : Except IoError Unit}
      (outside : bridge.calls thread = .outside) :
      Effect bridge (.create thread request listener spawn) .running
        ({ bridge with
            started := bridge.started ++ [Server.fresh] }.proceed thread
          (.spawned bridge.started.length))
  | numbered {thread : ThreadId} {server : ServerId}
      (found : bridge.calls thread = .spawned server) :
      Effect bridge (.number thread) .running
        ({ bridge with
            nextHandle := bridge.nextHandle + 1 }.proceed thread
          (.numbered server bridge.nextHandle))
  | inserted {thread : ThreadId} {server : ServerId} {handle : Int64}
      (found : bridge.calls thread = .numbered server handle) :
      Effect bridge (.insert thread) (.created handle server)
        ((bridge.insert handle server).proceed thread .outside)
  | took {thread : ThreadId} {server : ServerId} {handle : Int64}
      (outside : bridge.calls thread = .outside)
      (found : bridge.find handle = some server) :
      Effect bridge (.stop thread handle) (.took handle server)
        ((bridge.remove handle).proceed thread (.removed server handle))
  | raised {thread : ThreadId} {server : ServerId} {handle : Int64}
      (found : bridge.calls thread = .removed server handle) :
      Effect bridge (.raise thread) .running
        ((bridge.modify server Server.raise).proceed thread
          (.joining server handle))
  | joined {thread : ThreadId} {server : ServerId} {handle : Int64}
      {state : Server}
      {thrown : Option Text}
      (found : bridge.calls thread = .joining server handle)
      (isState : bridge.started[server]? = some state)
      (ended : state.worker ≠ .running) :
      Effect bridge (.join thread) (.stopped handle server thrown)
        (bridge.proceed thread .outside)

/-- A call behind a lookup operates on a broadcaster or does nothing. -/
theorem effect_perform
    {action : Action}
    (returned : Plain action .returned)
    (threw : ∀ message, Plain action (.threw message))
    (bridge : Bridge)
    {handle : Int64}
    (names : action.handle? = some handle)
    (operation : Except Text Broadcaster.Operation) :
    Effect bridge action (bridge.perform handle operation).2
      (bridge.perform handle operation).1 := by
  cases operation with
  | error message =>
      exact .nothing (threw message)
  | ok operation =>
      rw [Bridge.perform]
      cases bridge.find handle with
      | none =>
          exact .nothing (threw unknownHandle)
      | some server =>
          exact .operated server operation returned (by simp)
            (.inl (by simp [names]))

/-- `nativeCreateServer` starts a server or throws. -/
theorem effect_create
    {bridge : Bridge}
    {thread : ThreadId}
    (outside : bridge.calls thread = .outside)
    (request : CreateRequest)
    (listener spawn : Except IoError Unit) :
    Effect bridge (.create thread request listener spawn)
      (bridge.create thread request listener spawn).2
      (bridge.create thread request listener spawn).1 := by
  rw [Bridge.create]
  cases request.check with
  | error message =>
      exact .nothing ⟨rfl, rfl, rfl, rfl⟩
  | ok settings =>
      cases binds :
          bindWithTransport listener settings.path .initial 0
            settings.credentials settings.transport with
      | error error =>
          simp only [binds]
          exact .nothing ⟨rfl, rfl, rfl, rfl⟩
      | ok bound =>
          cases spawn with
          | error error =>
              simp only [binds]
              exact .nothing ⟨rfl, rfl, rfl, rfl⟩
          | ok done =>
              simp only [binds, source_bindWithTransport binds]
              exact .spawned outside

/-- Every step has one of the effects. -/
theorem effect_step (bridge : Bridge) (action : Action) :
    Effect bridge action (bridge.step action).2
      (bridge.step action).1 := by
  have ignored (action : Action) : Effect bridge action .ignored bridge :=
    .nothing ⟨rfl, rfl, rfl, by cases action <;> rfl⟩
  cases action with
  | create thread request listener spawn =>
      cases found : bridge.calls thread with
      | outside =>
          simpa only [Bridge.step, found] using
            effect_create found request listener spawn
      | _ =>
          simpa only [Bridge.step, found] using ignored _
  | number thread =>
      cases found : bridge.calls thread with
      | spawned server =>
          simpa only [Bridge.step, found] using Effect.numbered found
      | _ =>
          simpa only [Bridge.step, found] using ignored _
  | insert thread =>
      cases found : bridge.calls thread with
      | numbered server handle =>
          simpa only [Bridge.step, found] using Effect.inserted found
      | _ =>
          simpa only [Bridge.step, found] using ignored _
  | setCodecConfig handle sps pps =>
      exact effect_perform ⟨rfl, rfl, rfl, rfl⟩
        (fun _ => ⟨rfl, rfl, rfl, rfl⟩) bridge rfl _
  | pushAccessUnit handle request now =>
      exact effect_perform ⟨rfl, rfl, rfl, rfl⟩
        (fun _ => ⟨rfl, rfl, rfl, rfl⟩) bridge rfl _
  | getStats handle now =>
      exact .nothing ⟨rfl, rfl, rfl, rfl⟩
  | setFrameRate handle numerator denominator =>
      exact effect_perform ⟨rfl, rfl, rfl, rfl⟩
        (fun _ => ⟨rfl, rfl, rfl, rfl⟩) bridge rfl _
  | takeKeyframeRequest handle =>
      rw [Bridge.step, Bridge.takeKeyframeRequest]
      cases bridge.find handle with
      | none =>
          exact .nothing ⟨rfl, rfl, rfl, rfl⟩
      | some server =>
          exact .operated server _ ⟨rfl, rfl, rfl, rfl⟩ (by simp)
            (.inl (Option.some_ne_none _))
  | stop thread handle =>
      cases outside : bridge.calls thread with
      | outside =>
          cases found : bridge.find handle with
          | none =>
              simp only [Bridge.step, outside, found]
              exact .nothing ⟨rfl, rfl, rfl, rfl⟩
          | some server =>
              simpa only [Bridge.step, outside, found] using
                Effect.took outside found
      | _ =>
          simpa only [Bridge.step, outside] using ignored _
  | raise thread =>
      cases found : bridge.calls thread with
      | removed server handle =>
          simp only [Bridge.step, found]
          exact .raised found
      | _ =>
          simpa only [Bridge.step, found] using ignored _
  | join thread =>
      cases found : bridge.calls thread with
      | joining server handle =>
          simp only [Bridge.step, found, Bridge.join]
          cases isState : bridge.started[server]? with
          | none =>
              exact ignored _
          | some state =>
              cases ended : state.worker with
              | running =>
                  simpa only [Option.map_some, ended] using ignored _
              | _ =>
                  simp only [Option.map_some, ended]
                  exact .joined found isState (by simp [ended])
      | _ =>
          simpa only [Bridge.step, found] using ignored _
  | connection server operation =>
      rw [Bridge.step]
      split
      · exact .operated server operation ⟨rfl, rfl, rfl, rfl⟩ (by simp)
          (.inr rfl)
      · exact .nothing ⟨rfl, rfl, rfl, rfl⟩
  | finish server panics =>
      exact .finished server panics

/-! ## The phases follow every run -/

/-- A log grows by at most one entry. -/
theorem filterMap_concat
    {β : Type}
    (extract : Action × Reply → Option β)
    (history : Bridge.History)
    (entry : Action × Reply) :
    (history ++ [entry]).filterMap extract =
      history.filterMap extract ++ (extract entry).toList := by
  cases extracted : extract entry <;> simp [extracted]

section Tracking

variable {bridge : Bridge}
variable {history : Bridge.History}
variable {phases : List Phase}
variable {server : ServerId}
variable {phase next : Phase}
variable {thread : ThreadId}
variable {handle : Int64}
variable {action : Action}
variable {reply : Reply}

/-- How an entry changes one of the logs. -/
def Marks
    (mark : Phase → Option Int64)
    (logged : Option (Int64 × ServerId))
    (server : ServerId)
    (phase next : Phase) : Prop :=
  (logged.toList = [] ∧ mark next = mark phase) ∨
    (mark phase = none ∧
      ∃ handle, mark next = some handle ∧
        logged.toList = [(handle, server)])

/-- An entry about one server. -/
theorem Records.advance
    (records : Records history phases)
    (found : phases[server]? = some phase)
    (entry : Action × Reply)
    (created : Marks Phase.created? (createdBy? entry) server phase next)
    (taken : Marks Phase.taken? (takenBy? entry) server phase next)
    (stopped : Marks Phase.stopped? (stoppedBy? entry) server phase next) :
    Records (history ++ [entry]) (phases.set server next) where
  created := by
    rw [NativeBridge.created, filterMap_concat]
    exact records.created.advance found created
  taken := by
    rw [NativeBridge.taken, filterMap_concat]
    exact records.taken.advance found taken
  stopped := by
    rw [NativeBridge.stopped, filterMap_concat]
    exact records.stopped.advance found stopped

/-- A plain entry leaves the logs alone. -/
theorem Records.plain
    (records : Records history phases)
    (plain : Plain action reply) :
    Records (history ++ [(action, reply)]) phases where
  created := by
    rw [NativeBridge.created, filterMap_concat, plain.created,
      Option.toList_none, List.append_nil]
    exact records.created
  taken := by
    rw [NativeBridge.taken, filterMap_concat, plain.taken,
      Option.toList_none, List.append_nil]
    exact records.taken
  stopped := by
    rw [NativeBridge.stopped, filterMap_concat, plain.stopped,
      Option.toList_none, List.append_nil]
    exact records.stopped

/-- The count of numbers behind one more entry. -/
theorem numbers_concat (entry : Action × Reply) :
    numbers (history ++ [entry]) =
      numbers history + (if isNumber entry then 1 else 0) := by
  simp [numbers, List.countP_singleton]

/-- A thread that has spawned a server. -/
theorem Holds.spawned
    {calls : ThreadId → Call}
    (holds : Holds calls phases)
    (found : calls thread = .spawned server) :
    phases[server]? = some (.spawned thread) := by
  obtain ⟨other, phase, isPhase, isHeld⟩ :=
    holds.busy thread (by simp [found])
  rw [found] at isHeld
  cases phase <;> simp_all [Phase.call?]

/-- A thread that has numbered its server. -/
theorem Holds.numbered
    {calls : ThreadId → Call}
    (holds : Holds calls phases)
    (found : calls thread = .numbered server handle) :
    phases[server]? = some (.numbered thread handle) := by
  obtain ⟨other, phase, isPhase, isHeld⟩ :=
    holds.busy thread (by simp [found])
  rw [found] at isHeld
  cases phase <;> simp_all [Phase.call?]

/-- A thread that has removed a server. -/
theorem Holds.removed
    {calls : ThreadId → Call}
    (holds : Holds calls phases)
    (found : calls thread = .removed server handle) :
    phases[server]? = some (.removed thread handle) := by
  obtain ⟨other, phase, isPhase, isHeld⟩ :=
    holds.busy thread (by simp [found])
  rw [found] at isHeld
  cases phase <;> simp_all [Phase.call?]

/-- A thread that joins a server. -/
theorem Holds.joining
    {calls : ThreadId → Call}
    (holds : Holds calls phases)
    (found : calls thread = .joining server handle) :
    phases[server]? = some (.joining thread handle) := by
  obtain ⟨other, phase, isPhase, isHeld⟩ :=
    holds.busy thread (by simp [found])
  rw [found] at isHeld
  cases phase <;> simp_all [Phase.call?]

/-- The flags stay when no server and no relevant part of a phase changes. -/
theorem Flags.keep
    {started : List Server}
    (flags : Flags started phases)
    (found : phases[server]? = some phase)
    (raised : next.isRaised = phase.isRaised)
    (unstopped : next.stopped? = none) :
    Flags started (phases.set server next) := by
  have advanced :=
    flags.advance server id (fun _ => next) (by
      intro state _ before isPhase fits
      rw [found] at isPhase
      cases isPhase
      exact ⟨by simpa [raised] using fits.flag, by simp [unstopped]⟩)
  simpa [List.set_eq_modify] using advanced

/-- A change of a server that keeps its flag and its thread. -/
theorem Flags.change
    {started : List Server}
    (flags : Flags started phases)
    (server : ServerId)
    (change : Server → Server)
    (fits :
      ∀ state phase, Fits state phase → Fits (change state) phase) :
    Flags (started.modify server change) phases := by
  have advanced :=
    flags.advance server change id
      fun state _ phase _ before => fits state phase before
  simpa using advanced

/-- Every effect moves at most one server to its next phase. -/
theorem Effect.tracks
    {after : Bridge}
    (effect : Effect bridge action reply after)
    (tracks : Tracks bridge history phases)
    (bounded : numbers (history ++ [(action, reply)]) < 2 ^ 63) :
    ∃ phases, Tracks after (history ++ [(action, reply)]) phases := by
  rw [numbers_concat] at bounded
  cases effect with
  | nothing plain =>
      refine ⟨phases, tracks.holds, tracks.lists, ?_,
        tracks.records.plain plain, tracks.flags⟩
      rw [numbers_concat, plain.number]
      exact tracks.numbers
  | operated server operation plain succeeds named =>
      refine ⟨phases, tracks.holds, tracks.lists, ?_,
        tracks.records.plain plain,
        tracks.flags.change server _ fun _ _ fits =>
          ⟨fits.flag, fits.ended⟩⟩
      rw [numbers_concat, plain.number]
      exact tracks.numbers
  | finished server panics =>
      refine ⟨phases, tracks.holds, tracks.lists, ?_,
        tracks.records.plain ⟨rfl, rfl, rfl, rfl⟩,
        tracks.flags.change server _ ?_⟩
      · rw [numbers_concat]
        exact tracks.numbers
      · intro state phase fits
        by_cases isRunning : state.worker = .running
        · cases panics with
          | true =>
              have flag := fits.flag
              rw [isRunning] at flag
              refine ⟨?_, ?_⟩ <;>
                simp_all [Server.finish]
          | false =>
              refine ⟨?_, ?_⟩ <;> simp [Server.finish, isRunning]
        · rw [Server.finish, if_neg isRunning]
          exact fits
  | @spawned thread request listener spawn outside =>
      refine ⟨phases ++ [.spawned thread], ?_,
        tracks.lists.spawn (by simp), ?_, ?_,
        tracks.flags.spawn rfl rfl rfl rfl⟩
      · rw [← tracks.flags.length]
        exact tracks.holds.spawn outside
      · rw [numbers_concat]
        exact tracks.numbers.spawn rfl
      · have records :=
          tracks.records.plain
            (⟨rfl, rfl, rfl, rfl⟩ :
              Plain (.create thread request listener spawn) .running)
        exact ⟨records.created.spawn rfl, records.taken.spawn rfl,
          records.stopped.spawn rfl⟩
  | @numbered thread server found =>
      have isPhase := tracks.holds.spawned found
      refine ⟨phases.set server (.numbered thread bridge.nextHandle),
        tracks.holds.advance isPhase ?_ rfl,
        tracks.lists.keep isPhase (by simp) (by simp), ?_,
        tracks.records.advance isPhase _ (.inl ⟨rfl, rfl⟩)
          (.inl ⟨rfl, rfl⟩) (.inl ⟨rfl, rfl⟩),
        tracks.flags.keep isPhase rfl rfl⟩
      · rw [found]
        rfl
      · rw [numbers_concat]
        exact tracks.numbers.take bounded rfl
  | @inserted thread server handle found =>
      have isPhase := tracks.holds.numbered found
      refine ⟨phases.set server (.registered handle),
        tracks.holds.advance isPhase ?_ rfl,
        tracks.lists.insert isPhase (by simp) ?_, ?_,
        tracks.records.advance isPhase _ (.inr ⟨rfl, _, rfl, rfl⟩)
          (.inl ⟨rfl, rfl⟩) (.inl ⟨rfl, rfl⟩),
        tracks.flags.keep isPhase rfl rfl⟩
      · rw [found]
        rfl
      · intro other otherPhase
        have same :=
          tracks.numbers.distinct _ _ _ _ isPhase otherPhase _ rfl rfl
        subst same
        rw [isPhase] at otherPhase
        cases otherPhase
      · rw [numbers_concat]
        exact tracks.numbers.keep isPhase rfl
  | @took thread server handle outside found =>
      have isPhase := tracks.lists.lookup_iff.mp found
      refine ⟨phases.set server (.removed thread handle),
        tracks.holds.advance isPhase ?_ rfl,
        tracks.lists.remove isPhase (by simp), ?_,
        tracks.records.advance isPhase _ (.inl ⟨rfl, rfl⟩)
          (.inr ⟨rfl, _, rfl, rfl⟩) (.inl ⟨rfl, rfl⟩),
        tracks.flags.keep isPhase rfl rfl⟩
      · rw [outside]
        rfl
      · rw [numbers_concat]
        exact tracks.numbers.keep isPhase rfl
  | @raised thread server handle found =>
      have isPhase := tracks.holds.removed found
      refine ⟨phases.set server (.joining thread handle),
        tracks.holds.advance isPhase ?_ rfl,
        tracks.lists.keep isPhase (by simp) (by simp), ?_,
        tracks.records.advance isPhase _ (.inl ⟨rfl, rfl⟩)
          (.inl ⟨rfl, rfl⟩) (.inl ⟨rfl, rfl⟩), ?_⟩
      · rw [found]
        rfl
      · rw [numbers_concat]
        exact tracks.numbers.keep isPhase rfl
      · rw [List.set_eq_modify]
        apply tracks.flags.advance
        intro state _ phase _ _
        exact ⟨by simp [Server.raise, Phase.isRaised],
          by simp [Phase.stopped?]⟩
  | @joined thread server handle state thrown found isState ended =>
      have isPhase := tracks.holds.joining found
      refine ⟨phases.set server (.stopped handle),
        tracks.holds.advance isPhase ?_ rfl,
        tracks.lists.keep isPhase (by simp) (by simp), ?_,
        tracks.records.advance isPhase _ (.inl ⟨rfl, rfl⟩)
          (.inl ⟨rfl, rfl⟩) (.inr ⟨rfl, _, rfl, rfl⟩), ?_⟩
      · rw [found]
        rfl
      · rw [numbers_concat]
        exact tracks.numbers.keep isPhase rfl
      · have advanced :=
          tracks.flags.advance server id (fun _ => .stopped handle) (by
            intro state stateFound phase phaseFound fits
            rw [isPhase] at phaseFound
            cases phaseFound
            rw [isState] at stateFound
            cases stateFound
            exact ⟨by simpa [Phase.isRaised] using fits.flag,
              fun _ => ended⟩)
        rw [List.modify_id, ← List.set_eq_modify] at advanced
        exact advanced

end Tracking

namespace Bridge

variable {bridge : Bridge}

/-- A run in two parts. -/
theorem run_append (bridge : Bridge) (first second : List Action) :
    bridge.run (first ++ second) =
      (((bridge.run first).1.run second).1,
        (bridge.run first).2 ++ ((bridge.run first).1.run second).2) := by
  induction first generalizing bridge with
  | nil =>
      rfl
  | cons action later inductionHypothesis =>
      simp only [List.cons_append, run, inductionHypothesis]

/-- A run with one more action. -/
theorem run_concat
    (bridge : Bridge)
    (actions : List Action)
    (action : Action) :
    bridge.run (actions ++ [action]) =
      (((bridge.run actions).1.step action).1,
        (bridge.run actions).2 ++
          [(action, ((bridge.run actions).1.step action).2)]) := by
  rw [run_append]
  rfl

end Bridge

/-- Nothing has been started. -/
theorem tracks_initial : Tracks .initial [] [] where
  holds := ⟨by simp [Bridge.initial], by simp⟩
  lists := ⟨by simp [Bridge.initial], by simp [Bridge.initial]⟩
  numbers := ⟨rfl, by simp, by simp⟩
  records :=
    ⟨⟨by simp [created], by simp [created]⟩,
      ⟨by simp [taken], by simp [taken]⟩,
      ⟨by simp [stopped], by simp [stopped]⟩⟩
  flags := ⟨rfl, by simp⟩

/-- The numbers of a longer history. -/
theorem numbers_le_append (first second : Bridge.History) :
    numbers first ≤ numbers (first ++ second) := by
  rw [numbers, numbers, List.countP_append]
  exact Nat.le_add_right _ _

/-- Every run has phases, while the counter does not wrap. -/
theorem tracks_run
    (actions : List Action)
    (bounded : numbers (Bridge.initial.run actions).2 < 2 ^ 63) :
    ∃ phases,
      Tracks (Bridge.initial.run actions).1
        (Bridge.initial.run actions).2 phases := by
  induction actions using List.reverseRecOn with
  | nil =>
      exact ⟨[], tracks_initial⟩
  | append_singleton actions action inductionHypothesis =>
      rw [Bridge.run_concat] at bounded ⊢
      obtain ⟨phases, tracks⟩ :=
        inductionHypothesis
          ((numbers_le_append _ _).trans_lt bounded)
      exact (effect_step _ action).tracks tracks bounded

/-! ## Handles -/

section Handles

variable {bridge : Bridge}
variable {history : Bridge.History}
variable {phases : List Phase}
variable {server : ServerId}
variable {handle : Int64}

/-- Handles of registered servers are numbers. -/
theorem Phase.handle_of_created
    {phase : Phase}
    (isCreated : phase.created? = some handle) :
    phase.handle? = some handle := by
  cases phase <;> simp_all [Phase.created?, Phase.handle?]

/-- A server in the table has been registered and not taken. -/
theorem Phase.registered_iff {phase : Phase} :
    phase = .registered handle ↔
      phase.created? = some handle ∧ phase.taken? ≠ some handle := by
  cases phase <;> simp [Phase.created?, Phase.taken?]

/-- A taken server has been registered under the same handle. -/
theorem Phase.created_of_taken
    {phase : Phase}
    (isTaken : phase.taken? = some handle) :
    phase.created? = some handle := by
  cases phase <;> simp_all [Phase.created?, Phase.taken?]

/-- A joined server has been taken from the same handle. -/
theorem Phase.taken_of_stopped
    {phase : Phase}
    (isStopped : phase.stopped? = some handle) :
    phase.taken? = some handle := by
  cases phase <;> simp_all [Phase.stopped?, Phase.taken?]

/-- A lookup finds what has been registered and not taken. -/
theorem Tracks.find_iff (tracks : Tracks bridge history phases) :
    bridge.find handle = some server ↔
      (handle, server) ∈ created history ∧
        (handle, server) ∉ taken history := by
  rw [Bridge.find, tracks.lists.lookup_iff, tracks.records.created.iff,
    tracks.records.taken.iff]
  constructor
  · intro found
    refine ⟨⟨_, found, rfl⟩, ?_⟩
    rintro ⟨phase, foundAgain, isTaken⟩
    rw [found] at foundAgain
    cases foundAgain
    cases isTaken
  · rintro ⟨⟨phase, found, isCreated⟩, notTaken⟩
    have isRegistered : phase = .registered handle :=
      Phase.registered_iff.mpr
        ⟨isCreated, fun isTaken => notTaken ⟨phase, found, isTaken⟩⟩
    rw [found, isRegistered]

/-- Registrations with one handle are the same. -/
theorem Tracks.created_inj
    (tracks : Tracks bridge history phases)
    {first second : Int64 × ServerId}
    (isFirst : first ∈ created history)
    (isSecond : second ∈ created history)
    (same : first.1 = second.1 ∨ first.2 = second.2) :
    first = second := by
  obtain ⟨firstPhase, firstFound, firstCreated⟩ :=
    (tracks.records.created.iff _ _).mp isFirst
  obtain ⟨secondPhase, secondFound, secondCreated⟩ :=
    (tracks.records.created.iff _ _).mp isSecond
  rcases same with sameHandle | sameServer
  · have sameServer :=
      tracks.numbers.distinct _ _ _ _ firstFound secondFound _
        (Phase.handle_of_created firstCreated)
        (sameHandle ▸ Phase.handle_of_created secondCreated)
    exact Prod.ext sameHandle sameServer
  · rw [sameServer, secondFound] at firstFound
    cases firstFound
    rw [firstCreated] at secondCreated
    exact Prod.ext (Option.some.inj secondCreated) sameServer

/-- A projection that tells registrations apart names each once. -/
theorem Tracks.nodup_map
    {β : Type}
    (tracks : Tracks bridge history phases)
    (project : Int64 × ServerId → β)
    (tells :
      ∀ first second, project first = project second →
        first.1 = second.1 ∨ first.2 = second.2) :
    ((created history).map project).Nodup :=
  tracks.records.created.nodup.map_on
    fun _ isFirst _ isSecond same =>
      tracks.created_inj isFirst isSecond (tells _ _ same)

/-- Handles are positive. -/
theorem Tracks.positive
    (tracks : Tracks bridge history phases)
    (bounded : NativeBridge.numbers history < 2 ^ 63)
    {entry : Int64 × ServerId}
    (isCreated : entry ∈ created history) : 0 < entry.1 := by
  obtain ⟨phase, found, isMarked⟩ :=
    (tracks.records.created.iff _ _).mp isCreated
  obtain ⟨number, atLeast, atMost, isNumber⟩ :=
    tracks.numbers.range _ _ found _ (Phase.handle_of_created isMarked)
  rw [isNumber]
  exact (Int64.ofNat_lt_iff_lt (a := 0) (by decide) (by omega)).mpr
    (by omega)

/-- A call on an unknown handle changes nothing. -/
theorem refused_of_unknown
    {action : Action}
    (names : action.handle? = some handle)
    (unknown : bridge.find handle = none) :
    (bridge.step action).1 = bridge ∧ (bridge.step action).2.Refuses := by
  have performed (operation : Except Text Broadcaster.Operation) :
      (bridge.perform handle operation).1 = bridge ∧
        (bridge.perform handle operation).2.Refuses := by
    cases operation <;> simp [Bridge.perform, unknown, Reply.Refuses]
  cases action with
  | setCodecConfig other sps pps =>
      cases names
      exact performed _
  | pushAccessUnit other request now =>
      cases names
      exact performed _
  | setFrameRate other numerator denominator =>
      cases names
      exact performed _
  | getStats other now =>
      cases names
      simp [Bridge.step, Bridge.getStats, unknown, Reply.Refuses]
  | takeKeyframeRequest other =>
      cases names
      simp [Bridge.step, Bridge.takeKeyframeRequest, unknown,
        Reply.Refuses]
  | stop thread other =>
      cases names
      cases calls : bridge.calls thread <;>
        simp [Bridge.step, calls, unknown, Reply.Refuses]
  | _ =>
      cases names

/-- A call that throws has changed nothing. -/
theorem eq_of_threw
    {action : Action}
    {message : Text}
    (threw : (bridge.step action).2 = .threw message) :
    (bridge.step action).1 = bridge := by
  have effect := effect_step bridge action
  rw [threw] at effect
  generalize (bridge.step action).1 = after at effect
  cases effect with
  | nothing plain =>
      rfl
  | operated server operation plain succeeds named =>
      exact absurd rfl (succeeds message)

/-- The statistics of a server in the table. -/
theorem Tracks.getStats_of_find
    (tracks : Tracks bridge history phases)
    (found : bridge.find handle = some server)
    (now : Instant) :
    ∃ state,
      bridge.started[server]? = some state ∧
        bridge.getStats handle now =
          .server (state.broadcaster.stats now)
            (decide (state.worker ≠ .returned)) := by
  have isPhase := tracks.lists.lookup_iff.mp found
  obtain ⟨inside, _⟩ := List.getElem?_eq_some_iff.mp isPhase
  rw [tracks.flags.length] at inside
  have isState := List.getElem?_eq_getElem inside
  refine ⟨_, isState, ?_⟩
  have flag := (tracks.flags.fits _ _ _ isState isPhase).flag
  rw [Bridge.getStats, found, Option.bind_some, isState]
  simp only [Phase.isRaised, Bool.false_eq_true, or_false] at flag
  by_cases hasReturned :
      bridge.started[server].worker = .returned
  · simp [hasReturned, flag.mpr hasReturned]
  · have notStopping : bridge.started[server].stopping = false :=
      Bool.eq_false_iff.mpr (mt flag.mp hasReturned)
    simp [hasReturned, notStopping]

end Handles

/--
What the Java side can rely on behind a run: a handle is positive and stands
for one server from its creation to its stop, statistics tell whether the
server's worker has returned, and a refused call changes nothing.
-/
structure HandleRules (bridge : Bridge) (history : Bridge.History) : Prop
    where
  positive : ∀ entry ∈ created history, 0 < entry.1
  handles : ((created history).map Prod.fst).Nodup
  servers : ((created history).map Prod.snd).Nodup
  found :
    ∀ (handle : Int64) (server : ServerId),
      bridge.find handle = some server ↔
        (handle, server) ∈ created history ∧
          (handle, server) ∉ taken history
  refused :
    ∀ (action : Action) (handle : Int64), action.handle? = some handle →
      (∀ server : ServerId, (handle, server) ∈ created history →
        (handle, server) ∈ taken history) →
      (bridge.step action).1 = bridge ∧ (bridge.step action).2.Refuses
  threw :
    ∀ (action : Action) (message : Text),
      (bridge.step action).2 = .threw message →
        (bridge.step action).1 = bridge
  active :
    ∀ (handle : Int64) (server : ServerId) (now : Instant),
      (handle, server) ∈ created history →
      (handle, server) ∉ taken history →
      ∃ state,
        bridge.started[server]? = some state ∧
          bridge.getStats handle now =
            .server (state.broadcaster.stats now)
              (decide (state.worker ≠ .returned))

/--
The handles of the native library keep their rules in every interleaving of
calls and servers, as long as `NEXT_HANDLE` does not wrap.
-/
theorem handles_of_native_servers
    (actions : List Action)
    (bounded : numbers (Bridge.initial.run actions).2 < 2 ^ 63) :
    HandleRules (Bridge.initial.run actions).1
      (Bridge.initial.run actions).2 := by
  obtain ⟨phases, tracks⟩ := tracks_run actions bounded
  exact {
    positive := fun _ isCreated => tracks.positive bounded isCreated
    handles := tracks.nodup_map Prod.fst fun _ _ same => .inl same
    servers := tracks.nodup_map Prod.snd fun _ _ same => .inr same
    found := fun _ _ => tracks.find_iff
    refused := by
      intro action handle names unknown
      apply refused_of_unknown names
      cases found : (Bridge.initial.run actions).1.find handle with
      | none =>
          rfl
      | some server =>
          have listed := tracks.find_iff.mp found
          exact absurd (unknown server listed.1) listed.2
    threw := fun _ _ => eq_of_threw
    active := fun _ _ now isCreated notTaken =>
      tracks.getStats_of_find (tracks.find_iff.mpr ⟨isCreated, notTaken⟩)
        now
  }

/-- A server is created, streams to a viewer, is stopped, and ends. -/
def handledActions : List Action :=
  [.create 0
      { port := 8554
        path := .ok ['/']
        username := .ok []
        password := .ok []
        transport := 1 }
      (.ok ()) (.ok ()),
    .number 0, .insert 0,
    .setCodecConfig 1 (.ok [0x67, 1, 2, 3]) (.ok [0x68]),
    .connection 0 .subscribe,
    .pushAccessUnit 1
      { buffer :=
          { address := .ok (), capacity := .ok (), bytes := [0x65, 1] }
        offset := 0
        size := 2
        ptsUs := 0
        flags := 1 } 0,
    .connection 0 (.recvTimeout 0), .getStats 1 0, .stop 0 1, .raise 0,
    .finish 0 false, .join 0]

/-- One number is taken. -/
theorem numbers_handledActions :
    numbers (Bridge.initial.run handledActions).2 < 2 ^ 63 := by
  decide

/-- The rules hold behind a server's whole life. -/
theorem handles_of_native_servers_handled :
    HandleRules (Bridge.initial.run handledActions).1
      (Bridge.initial.run handledActions).2 :=
  handles_of_native_servers handledActions numbers_handledActions

/-! ## Nothing is lost -/

/-- The server a thread holds. -/
def Call.server? : Call → Option ServerId
  | .outside => none
  | .spawned server => some server
  | .numbered server _ => some server
  | .removed server _ => some server
  | .joining server _ => some server

/-- Who holds a server. -/
inductive Holder where
  | caller (thread : ThreadId)
  | table (handle : Int64)
  | past (handle : Int64)
  deriving Repr, DecidableEq

/-- The holder has the server. -/
def Holder.Has
    (bridge : Bridge)
    (history : Bridge.History)
    (server : ServerId) : Holder → Prop
  | .caller thread => (bridge.calls thread).server? = some server
  | .table handle => bridge.find handle = some server
  | .past handle => (handle, server) ∈ stopped history

/-- The holder in each phase. -/
def Phase.holder : Phase → Holder
  | .spawned thread => .caller thread
  | .numbered thread _ => .caller thread
  | .registered handle => .table handle
  | .removed thread _ => .caller thread
  | .joining thread _ => .caller thread
  | .stopped handle => .past handle

section Custody

variable {bridge : Bridge}
variable {history : Bridge.History}
variable {phases : List Phase}
variable {server : ServerId}
variable {phase : Phase}

/-- A thread inside the library holds one server. -/
theorem Holds.server_iff
    {calls : ThreadId → Call}
    (holds : Holds calls phases)
    (found : phases[server]? = some phase)
    (thread : ThreadId) :
    (calls thread).server? = some server ↔
      phase.holder = .caller thread := by
  constructor
  · intro isServer
    cases call : calls thread with
    | outside =>
        rw [call] at isServer
        cases isServer
    | spawned other =>
        rw [call] at isServer
        cases isServer
        rw [holds.spawned call] at found
        cases found
        rfl
    | numbered other handle =>
        rw [call] at isServer
        cases isServer
        rw [holds.numbered call] at found
        cases found
        rfl
    | removed other handle =>
        rw [call] at isServer
        cases isServer
        rw [holds.removed call] at found
        cases found
        rfl
    | joining other handle =>
        rw [call] at isServer
        cases isServer
        rw [holds.joining call] at found
        cases found
        rfl
  · intro isHolder
    have held := holds.held _ _ found
    cases phase <;> cases isHolder <;>
      simp [held _ _ rfl, Call.server?]

/-- A server has the holder of its phase and no other. -/
theorem Tracks.has_iff
    (tracks : Tracks bridge history phases)
    (found : phases[server]? = some phase)
    (holder : Holder) :
    holder.Has bridge history server ↔ phase.holder = holder := by
  cases holder with
  | caller thread =>
      exact tracks.holds.server_iff found thread
  | table handle =>
      rw [Holder.Has, Bridge.find, tracks.lists.lookup_iff, found]
      cases phase <;> simp [Phase.holder]
  | past handle =>
      rw [Holder.Has, tracks.records.stopped.iff, found]
      cases phase <;> simp [Phase.holder, Phase.stopped?]

end Custody

/--
A server that has been started has exactly one holder.  It is taken from the
table at most once and joined at most once, the flag is up before anybody
waits for it, and a joined server has ended.
-/
structure CustodyRules (bridge : Bridge) (history : Bridge.History) : Prop
    where
  held :
    ∀ (server : ServerId) (state : Server),
      bridge.started[server]? = some state →
        ∃! holder : Holder, holder.Has bridge history server
  takenOnce : (taken history).Nodup
  takenCreated : taken history ⊆ created history
  joinedOnce : (stopped history).Nodup
  joinedTaken : stopped history ⊆ taken history
  raised :
    ∀ (thread : ThreadId) (server : ServerId) (handle : Int64),
      bridge.calls thread = .joining server handle →
        ∃ state,
          bridge.started[server]? = some state ∧ state.stopping = true
  ended :
    ∀ entry ∈ stopped history,
      ∃ state,
        bridge.started[entry.2]? = some state ∧
          state.stopping = true ∧ state.worker ≠ .running

/-- A phase belongs to a server. -/
theorem Flags.exists_state
    {started : List Server}
    {phases : List Phase}
    {server : ServerId}
    {phase : Phase}
    (flags : Flags started phases)
    (found : phases[server]? = some phase) :
    ∃ state, started[server]? = some state ∧ Fits state phase := by
  obtain ⟨inside, _⟩ := List.getElem?_eq_some_iff.mp found
  rw [flags.length] at inside
  have isState := List.getElem?_eq_getElem inside
  exact ⟨_, isState, flags.fits _ _ _ isState found⟩

/--
No server thread is lost or joined twice, in any interleaving of creations,
calls and stops.
-/
theorem custody_of_native_servers
    (actions : List Action)
    (bounded : numbers (Bridge.initial.run actions).2 < 2 ^ 63) :
    CustodyRules (Bridge.initial.run actions).1
      (Bridge.initial.run actions).2 := by
  obtain ⟨phases, tracks⟩ := tracks_run actions bounded
  exact {
    held := by
      intro server state isState
      obtain ⟨inside, _⟩ := List.getElem?_eq_some_iff.mp isState
      rw [← tracks.flags.length] at inside
      have found := List.getElem?_eq_getElem inside
      refine ⟨phases[server].holder, (tracks.has_iff found _).mpr rfl, ?_⟩
      intro holder has
      exact ((tracks.has_iff found holder).mp has).symm
    takenOnce := tracks.records.taken.nodup
    takenCreated := by
      intro entry isTaken
      obtain ⟨phase, found, marked⟩ :=
        (tracks.records.taken.iff _ _).mp isTaken
      exact (tracks.records.created.iff _ _).mpr
        ⟨phase, found, Phase.created_of_taken marked⟩
    joinedOnce := tracks.records.stopped.nodup
    joinedTaken := by
      intro entry isStopped
      obtain ⟨phase, found, marked⟩ :=
        (tracks.records.stopped.iff _ _).mp isStopped
      exact (tracks.records.taken.iff _ _).mpr
        ⟨phase, found, Phase.taken_of_stopped marked⟩
    raised := by
      intro thread server handle call
      obtain ⟨state, isState, fits⟩ :=
        tracks.flags.exists_state (tracks.holds.joining call)
      exact ⟨state, isState, fits.flag.mpr (.inr rfl)⟩
    ended := by
      intro entry isStopped
      obtain ⟨phase, found, marked⟩ :=
        (tracks.records.stopped.iff _ _).mp isStopped
      obtain ⟨state, isState, fits⟩ := tracks.flags.exists_state found
      have isPhase : phase.isRaised = true := by
        cases phase <;> simp_all [Phase.stopped?, Phase.isRaised]
      exact ⟨state, isState, fits.flag.mpr (.inr isPhase),
        fits.ended (by simp [marked])⟩
  }

/-- Nothing is lost in a server's whole life. -/
theorem custody_of_native_servers_handled :
    CustodyRules (Bridge.initial.run handledActions).1
      (Bridge.initial.run handledActions).2 :=
  custody_of_native_servers handledActions numbers_handledActions

end CamRtsp.NativeBridge
