import CamRtsp.LiveConnection
import CamRtsp.ServerHandles

namespace CamRtsp.NativeBridge

open RustText
open Broadcaster (Operation)

/-!
# The stream behind a handle

All servers of the process share one table and one library.  Still, the
broadcaster behind a handle has run exactly the calls that named this handle
and the operations of its own connections, in their order.
-/

/-- The operation that a successful call has performed, and its handle. -/
def performed? : Action × Reply → Option (Int64 × Operation)
  | (.setCodecConfig handle sps pps, .returned) =>
      (codecConfig sps pps).toOption.map fun codec =>
        (handle, .setCodecConfig codec)
  | (.pushAccessUnit handle request now, .returned) =>
      request.accessUnit.toOption.map fun accessUnit =>
        (handle, .publish accessUnit now)
  | (.setFrameRate handle numerator denominator, .returned) =>
      (checkFrameRate numerator denominator).toOption.map fun _ =>
        (handle, .setFrameRate numerator.toUInt32 denominator.toUInt32)
  | (.takeKeyframeRequest handle, .keyframe true) =>
      some (handle, .takeKeyframeRequest)
  | _ => none

/-- The operation of a connection, and its server. -/
def connected? : Action × Reply → Option (ServerId × Operation)
  | (.connection server operation, .running) => some (server, operation)
  | _ => none

/-- What the connections of a server have done. -/
def connectionOperations
    (server : ServerId)
    (entry : Action × Reply) : List Operation :=
  (connected? entry).elim [] fun call =>
    if call.1 = server then [call.2] else []

/-- What the calls on a handle have done. -/
def callOperations
    (handle : Int64)
    (entry : Action × Reply) : List Operation :=
  (performed? entry).elim [] fun call =>
    if call.1 = handle then [call.2] else []

/-- What has been done on a handle and its server. -/
def streamOperations
    (handle : Int64)
    (server : ServerId)
    (entry : Action × Reply) : List Operation :=
  callOperations handle entry ++ connectionOperations server entry

/-- All broadcasters. -/
def Bridge.broadcasters (bridge : Bridge) : List Broadcaster :=
  bridge.started.map Server.broadcaster

section Steps

variable {bridge : Bridge}
variable {action : Action}
variable {reply : Reply}

/-- A change of flags leaves the broadcasters alone. -/
theorem broadcasters_modify
    (server : ServerId)
    (change : Server → Server)
    (keeps : ∀ state, (change state).broadcaster = state.broadcaster) :
    (bridge.modify server change).broadcasters = bridge.broadcasters := by
  rw [Bridge.broadcasters, Bridge.broadcasters, Bridge.modify]
  apply List.ext_getElem?
  intro other
  rw [List.getElem?_map, List.getElem?_map, List.getElem?_modify,
    Option.map_eq_map, Option.map_map]
  congr 1
  funext state
  by_cases same : server = other <;> simp [same, keeps]

/-- An operation changes one broadcaster. -/
theorem broadcasters_operate
    (server : ServerId)
    (operation : Operation) :
    (bridge.operate server operation).broadcasters =
      bridge.broadcasters.modify server (·.step operation) := by
  rw [Bridge.broadcasters, Bridge.broadcasters, Bridge.operate,
    Bridge.modify]
  apply List.ext_getElem?
  intro other
  rw [List.getElem?_map, List.getElem?_modify, List.getElem?_modify,
    List.getElem?_map, Option.map_eq_map, Option.map_eq_map,
    Option.map_map, Option.map_map]
  congr 1
  funext state
  by_cases same : server = other <;> simp [same]

/-- What a step means for the broadcasters. -/
inductive Heard
    (bridge : Bridge)
    (entry : Action × Reply)
    (after : List Broadcaster) : Prop where
  | call
      (handle : Int64)
      (server : ServerId)
      (operation : Operation)
      (found : bridge.find handle = some server)
      (performed : performed? entry = some (handle, operation))
      (silent : connected? entry = none)
      (changed :
        after = bridge.broadcasters.modify server (·.step operation))
  | connection
      (server : ServerId)
      (operation : Operation)
      (connected : connected? entry = some (server, operation))
      (silent : performed? entry = none)
      (known :
        server < bridge.broadcasters.length ∧
          isConnections operation = true)
      (changed :
        after = bridge.broadcasters.modify server (·.step operation))
  | nothing
      (notPerformed : performed? entry = none)
      (notConnected : connected? entry = none)
      (changed :
        after = bridge.broadcasters ∨
          after = bridge.broadcasters ++ [.initial])

/-- A call behind a lookup is heard by the server of its handle. -/
theorem heard_perform
    (handle : Int64)
    (operation : Except Text Operation)
    (silent : ∀ reply, connected? (action, reply) = none)
    (returned :
      performed? (action, .returned) =
        operation.toOption.map fun operation => (handle, operation))
    (threw : ∀ message, performed? (action, .threw message) = none) :
    Heard bridge (action, (bridge.perform handle operation).2)
      (bridge.perform handle operation).1.broadcasters := by
  cases operation with
  | error message =>
      exact .nothing (threw message) (silent _) (.inl rfl)
  | ok operation =>
      rw [Bridge.perform]
      cases found : bridge.find handle with
      | none =>
          exact .nothing (threw unknownHandle) (silent _) (.inl rfl)
      | some server =>
          exact .call handle server operation found returned (silent _)
            (broadcasters_operate server operation)

/-- Taking no request changes nothing. -/
theorem takeKeyframeRequest_of_not_requested
    {broadcaster : Broadcaster}
    (notRequested : broadcaster.state.keyframeRequested = false) :
    broadcaster.step .takeKeyframeRequest = broadcaster := by
  obtain ⟨state, shared⟩ := broadcaster
  obtain ⟨clients, codec, frameRate, requested, frames, last⟩ := state
  cases notRequested
  rfl

/-- A keyframe request is taken from the server of the handle. -/
theorem heard_takeKeyframeRequest (handle : Int64) :
    Heard bridge
      (.takeKeyframeRequest handle, (bridge.takeKeyframeRequest handle).2)
      (bridge.takeKeyframeRequest handle).1.broadcasters := by
  rw [Bridge.takeKeyframeRequest]
  cases found : bridge.find handle with
  | none =>
      exact .nothing rfl rfl (.inl rfl)
  | some server =>
      cases requested :
          (bridge.started[server]?).any fun state =>
            state.broadcaster.takeKeyframeRequest.1 with
      | true =>
          simp only [requested]
          exact .call handle server _ found rfl rfl
            (broadcasters_operate server _)
      | false =>
          simp only [requested]
          refine .nothing rfl rfl (.inl ?_)
          rw [broadcasters_operate]
          apply List.ext_getElem?
          intro other
          rw [List.getElem?_modify]
          by_cases same : server = other
          · subst same
            rw [Bridge.broadcasters, List.getElem?_map]
            cases isState : bridge.started[server]? with
            | none =>
                rfl
            | some state =>
                rw [isState, Option.any_some] at requested
                simp [takeKeyframeRequest_of_not_requested requested]
          · simp [same]

/-- A step that names no handle changes no broadcaster. -/
theorem heard_of_effect
    {after : Bridge}
    (effect : Effect bridge action reply after)
    (unnamed : action.handle? = none)
    (notConnection : action.isConnection = false) :
    Heard bridge (action, reply) after.broadcasters := by
  have notPerformed : performed? (action, reply) = none := by
    cases action <;> cases reply <;> first | rfl | cases unnamed
  have notConnected : connected? (action, reply) = none := by
    cases action <;> first | rfl | cases notConnection
  apply Heard.nothing notPerformed notConnected
  cases effect with
  | operated server operation plain succeeds named =>
      rcases named with named | named
      · exact absurd unnamed named
      · rw [notConnection] at named
        cases named
  | finished server panics =>
      refine .inl (broadcasters_modify server _ fun state => ?_)
      rw [Server.finish]
      split
      · split <;> rfl
      · rfl
  | spawned outside =>
      exact .inr (by simp [Bridge.broadcasters, Bridge.proceed, Server.fresh])
  | raised found =>
      exact .inl (broadcasters_modify _ _ fun _ => rfl)
  | _ =>
      exact .inl rfl

/-- Every step is heard by one broadcaster at most. -/
theorem heard_step (bridge : Bridge) (action : Action) :
    Heard bridge (action, (bridge.step action).2)
      (bridge.step action).1.broadcasters := by
  have mapped {α β : Type}
      (result : Except Text α)
      (wrap : α → Operation)
      (pair : Operation → β) :
      (result.map wrap).toOption.map pair =
        result.toOption.map fun value => pair (wrap value) := by
    cases result <;> rfl
  cases action with
  | setCodecConfig handle sps pps =>
      exact heard_perform handle _ (fun _ => rfl) (mapped _ _ _).symm
        fun _ => rfl
  | pushAccessUnit handle request now =>
      exact heard_perform handle _ (fun _ => rfl) (mapped _ _ _).symm
        fun _ => rfl
  | setFrameRate handle numerator denominator =>
      exact heard_perform handle _ (fun _ => rfl) (mapped _ _ _).symm
        fun _ => rfl
  | takeKeyframeRequest handle =>
      exact heard_takeKeyframeRequest handle
  | connection server operation =>
      rw [Bridge.step]
      split
      · rename_i permitted
        exact .connection server operation rfl rfl
          ⟨by simpa [Bridge.broadcasters] using permitted.2,
            permitted.1⟩
          (broadcasters_operate server operation)
      · exact .nothing rfl rfl (.inl rfl)
  | getStats handle now =>
      exact .nothing rfl rfl (.inl rfl)
  | stop thread handle =>
      cases calls : bridge.calls thread with
      | outside =>
          cases found : bridge.find handle <;>
            simp only [Bridge.step, calls, found] <;>
              exact .nothing rfl rfl (.inl rfl)
      | _ =>
          simp only [Bridge.step, calls]
          exact .nothing rfl rfl (.inl rfl)
  | _ =>
      exact heard_of_effect (effect_step bridge _) rfl rfl

end Steps

/-! ## Replaying the calls -/

/-- Every broadcaster has run what the history tells of it. -/
structure Replays (bridge : Bridge) (history : Bridge.History) : Prop where
  registered :
    ∀ (handle : Int64) (server : ServerId),
      (handle, server) ∈ created history →
        bridge.broadcasters[server]? =
          some (Broadcaster.initial.run
            (history.flatMap (streamOperations handle server)))
  unregistered :
    ∀ (server : ServerId) (broadcaster : Broadcaster),
      bridge.broadcasters[server]? = some broadcaster →
        (∀ handle, (handle, server) ∉ created history) →
          broadcaster =
            Broadcaster.initial.run
              (history.flatMap (connectionOperations server))
  known :
    ∀ entry ∈ history, ∀ operation, connected? entry = some operation →
      operation.1 < bridge.broadcasters.length ∧
        isConnections operation.2 = true
  named :
    ∀ entry ∈ history, ∀ operation, performed? entry = some operation →
      ∃ server, (operation.1, server) ∈ created history

section Replaying

variable {bridge next : Bridge}
variable {history : Bridge.History}
variable {phases later : List Phase}
variable {entry : Action × Reply}

/-- A broadcaster after one operation on one of them. -/
theorem getElem?_modify_run
    (broadcasters : List Broadcaster)
    (changed server : ServerId)
    (operation : Operation) :
    (broadcasters.modify changed (·.step operation))[server]? =
      (broadcasters[server]?).map fun broadcaster =>
        broadcaster.run (if changed = server then [operation] else []) := by
  rw [List.getElem?_modify, Option.map_eq_map]
  congr 1
  funext broadcaster
  by_cases same : changed = server <;> simp [same, Broadcaster.run]

/-- The broadcasters never become fewer. -/
theorem Heard.length_le
    {after : List Broadcaster}
    (heard : Heard bridge entry after) :
    bridge.broadcasters.length ≤ after.length := by
  cases heard with
  | call handle server operation found performed silent changed =>
      rw [changed, List.length_modify]
  | connection server operation connected silent known changed =>
      rw [changed, List.length_modify]
  | nothing notPerformed notConnected changed =>
      rcases changed with rfl | rfl <;> simp

/-- What an entry adds to a broadcaster that is there already. -/
theorem Heard.getElem?_of_registered
    (heard : Heard bridge entry next.broadcasters)
    (tracks : Tracks bridge history phases)
    {handle : Int64}
    {server : ServerId}
    (isCreated : (handle, server) ∈ created history)
    {broadcaster : Broadcaster}
    (isBroadcaster : bridge.broadcasters[server]? = some broadcaster) :
    next.broadcasters[server]? =
      some (broadcaster.run (streamOperations handle server entry)) := by
  cases heard with
  | call other changed operation found performed silent after =>
      have otherCreated := (tracks.find_iff.mp found).1
      have same : changed = server ↔ other = handle := by
        constructor
        · intro sameServer
          exact congrArg Prod.fst
            (tracks.created_inj otherCreated isCreated (.inr sameServer))
        · intro sameHandle
          exact congrArg Prod.snd
            (tracks.created_inj otherCreated isCreated (.inl sameHandle))
      rw [after, getElem?_modify_run, isBroadcaster, Option.map_some,
        streamOperations, callOperations, connectionOperations, performed,
        silent]
      by_cases sameHandle : other = handle
      · simp [sameHandle, same.mpr sameHandle]
      · simp [sameHandle, mt same.mp sameHandle]
  | connection changed operation connected silent known after =>
      rw [after, getElem?_modify_run, isBroadcaster, Option.map_some,
        streamOperations, callOperations, connectionOperations, connected,
        silent]
      by_cases same : changed = server <;> simp [same]
  | nothing notPerformed notConnected after =>
      have kept : next.broadcasters[server]? = some broadcaster := by
        rcases after with after | after
        · rw [after, isBroadcaster]
        · rw [after, List.getElem?_append_left
            (List.getElem?_eq_some_iff.mp isBroadcaster).1, isBroadcaster]
      rw [kept, streamOperations, callOperations, connectionOperations,
        notPerformed, notConnected]
      rfl

/-- What an entry adds to a broadcaster without a handle. -/
theorem Heard.of_unregistered
    (heard : Heard bridge entry next.broadcasters)
    (tracks : Tracks bridge history phases)
    {server : ServerId}
    (uncreated : ∀ handle, (handle, server) ∉ created history)
    {broadcaster : Broadcaster}
    (isBroadcaster : next.broadcasters[server]? = some broadcaster) :
    (∃ before,
        bridge.broadcasters[server]? = some before ∧
          broadcaster = before.run (connectionOperations server entry)) ∨
      (server = bridge.broadcasters.length ∧ broadcaster = .initial ∧
        connected? entry = none) := by
  cases heard with
  | call handle changed operation found performed silent after =>
      have different : changed ≠ server := by
        rintro rfl
        exact uncreated _ (tracks.find_iff.mp found).1
      rw [after, getElem?_modify_run, if_neg different] at isBroadcaster
      obtain ⟨before, isBefore, rfl⟩ :=
        Option.map_eq_some_iff.mp isBroadcaster
      refine .inl ⟨before, isBefore, ?_⟩
      rw [connectionOperations, silent]
      rfl
  | connection changed operation connected silent known after =>
      rw [after, getElem?_modify_run] at isBroadcaster
      obtain ⟨before, isBefore, rfl⟩ :=
        Option.map_eq_some_iff.mp isBroadcaster
      refine .inl ⟨before, isBefore, ?_⟩
      rw [connectionOperations, connected]
      by_cases same : changed = server <;> simp [same]
  | nothing notPerformed notConnected after =>
      have silent : connectionOperations server entry = [] := by
        rw [connectionOperations, notConnected]
        rfl
      rcases after with after | after
      · rw [after] at isBroadcaster
        exact .inl ⟨broadcaster, isBroadcaster, by rw [silent]; rfl⟩
      · rw [after, List.getElem?_append] at isBroadcaster
        split at isBroadcaster
        · exact .inl ⟨broadcaster, isBroadcaster, by rw [silent]; rfl⟩
        · rename_i beyond
          rw [List.getElem?_singleton] at isBroadcaster
          split at isBroadcaster
          · rename_i atEnd
            cases isBroadcaster
            exact .inr
              ⟨Nat.le_antisymm (Nat.sub_eq_zero_iff_le.mp atEnd)
                (Nat.le_of_not_lt beyond), rfl, notConnected⟩
          · cases isBroadcaster

/-- An entry other than a registration. -/
theorem Replays.step
    (replays : Replays bridge history)
    (tracks : Tracks bridge history phases)
    (heard : Heard bridge entry next.broadcasters)
    (noCreation : createdBy? entry = none) :
    Replays next (history ++ [entry]) := by
  have sameCreated : created (history ++ [entry]) = created history := by
    rw [created, filterMap_concat, noCreation]
    exact List.append_nil _
  refine ⟨?_, ?_, ?_, ?_⟩
  · intro handle server isCreated
    rw [sameCreated] at isCreated
    have before := replays.registered handle server isCreated
    rw [heard.getElem?_of_registered tracks isCreated before,
      List.flatMap_append, Broadcaster.run_append,
      List.flatMap_singleton]
  · intro server broadcaster isBroadcaster uncreated
    rw [sameCreated] at uncreated
    rw [List.flatMap_append, Broadcaster.run_append,
      List.flatMap_singleton]
    rcases heard.of_unregistered tracks uncreated isBroadcaster with
      ⟨before, isBefore, rfl⟩ | ⟨rfl, rfl, notConnected⟩
    · rw [replays.unregistered server before isBefore uncreated]
    · have nothingYet :
          history.flatMap
              (connectionOperations bridge.broadcasters.length) = [] := by
        apply List.flatMap_eq_nil_iff.mpr
        intro earlier isEarlier
        rw [connectionOperations]
        cases connected : connected? earlier with
        | none =>
            rfl
        | some call =>
            have known := replays.known earlier isEarlier call connected
            exact if_neg (Nat.ne_of_lt known.1)
      rw [nothingYet, connectionOperations, notConnected]
      rfl
  · intro earlier isEarlier call connected
    rcases List.mem_append.mp isEarlier with isEarlier | isLast
    · have known := replays.known earlier isEarlier call connected
      exact ⟨known.1.trans_le heard.length_le, known.2⟩
    · obtain rfl := List.mem_singleton.mp isLast
      cases heard with
      | call handle server operation found performed silent changed =>
          rw [silent] at connected
          cases connected
      | connection server operation isConnected silent known changed =>
          rw [isConnected] at connected
          cases connected
          rw [changed, List.length_modify]
          exact known
      | nothing notPerformed notConnected changed =>
          rw [notConnected] at connected
          cases connected
  · intro earlier isEarlier call performed
    rw [sameCreated]
    rcases List.mem_append.mp isEarlier with isEarlier | isLast
    · exact replays.named earlier isEarlier call performed
    · obtain rfl := List.mem_singleton.mp isLast
      cases heard with
      | call handle server operation found isPerformed silent changed =>
          rw [isPerformed] at performed
          cases performed
          exact ⟨server, (tracks.find_iff.mp found).1⟩
      | connection server operation isConnected silent known changed =>
          rw [silent] at performed
          cases performed
      | nothing notPerformed notConnected changed =>
          rw [notPerformed] at performed
          cases performed

/-- A registration. -/
theorem Replays.register
    {handle : Int64}
    {server : ServerId}
    (replays : Replays bridge history)
    (tracks : Tracks next (history ++ [entry]) later)
    (same : next.broadcasters = bridge.broadcasters)
    (isCreation : createdBy? entry = some (handle, server))
    (notPerformed : performed? entry = none)
    (notConnected : connected? entry = none) :
    Replays next (history ++ [entry]) := by
  have createdAfter :
      created (history ++ [entry]) =
        created history ++ [(handle, server)] := by
    rw [created, filterMap_concat, isCreation]
    rfl
  have atEnd : (handle, server) ∈ created (history ++ [entry]) := by
    simp [createdAfter]
  have fresh (other : Int64 × ServerId)
      (isCreated : other ∈ created history) :
      other.1 ≠ handle ∧ other.2 ≠ server := by
    have nodup := tracks.records.created.nodup
    rw [createdAfter, List.nodup_append] at nodup
    have different : other ≠ (handle, server) :=
      nodup.2.2 other isCreated _ (List.mem_singleton.mpr rfl)
    have isCreatedAfter : other ∈ created (history ++ [entry]) := by
      simp [createdAfter, isCreated]
    exact ⟨fun sameHandle =>
        different (tracks.created_inj isCreatedAfter atEnd
          (.inl sameHandle)),
      fun sameServer =>
        different (tracks.created_inj isCreatedAfter atEnd
          (.inr sameServer))⟩
  have silentCall (other : Int64) : callOperations other entry = [] := by
    rw [callOperations, notPerformed]
    rfl
  have silentConnection (other : ServerId) :
      connectionOperations other entry = [] := by
    rw [connectionOperations, notConnected]
    rfl
  refine ⟨?_, ?_, ?_, ?_⟩
  · intro other otherServer isCreated
    rw [List.flatMap_append, List.flatMap_singleton, streamOperations,
      silentCall, silentConnection, List.append_nil, List.append_nil,
      same]
    rw [createdAfter, List.mem_append, List.mem_singleton] at isCreated
    rcases isCreated with isCreated | isNew
    · exact replays.registered other otherServer isCreated
    · cases isNew
      have noCalls :
          ∀ earlier ∈ history, callOperations handle earlier = [] := by
        intro earlier isEarlier
        rw [callOperations]
        cases performed : performed? earlier with
        | none =>
            rfl
        | some call =>
            obtain ⟨_, isCreated⟩ :=
              replays.named earlier isEarlier call performed
            exact if_neg (fresh _ isCreated).1
      have onlyConnections :
          history.flatMap (streamOperations handle server) =
            history.flatMap (connectionOperations server) := by
        apply List.flatMap_congr
        intro earlier isEarlier
        rw [streamOperations, noCalls earlier isEarlier, List.nil_append]
      obtain ⟨phase, isPhase, _⟩ :=
        (tracks.records.created.iff _ _).mp atEnd
      obtain ⟨state, isState, _⟩ := tracks.flags.exists_state isPhase
      have isBroadcaster :
          bridge.broadcasters[server]? = some state.broadcaster := by
        rw [← same, Bridge.broadcasters, List.getElem?_map, isState,
          Option.map_some]
      rw [isBroadcaster, onlyConnections,
        replays.unregistered server _ isBroadcaster fun other isCreated =>
          (fresh _ isCreated).2 rfl]
  · intro other broadcaster isBroadcaster uncreated
    rw [List.flatMap_append, List.flatMap_singleton, silentConnection,
      List.append_nil]
    rw [same] at isBroadcaster
    exact replays.unregistered other broadcaster isBroadcaster
      fun handle isCreated =>
        uncreated handle (by simp [createdAfter, isCreated])
  · intro earlier isEarlier call connected
    rw [same]
    rcases List.mem_append.mp isEarlier with isEarlier | isLast
    · exact replays.known earlier isEarlier call connected
    · obtain rfl := List.mem_singleton.mp isLast
      rw [notConnected] at connected
      cases connected
  · intro earlier isEarlier call performed
    rcases List.mem_append.mp isEarlier with isEarlier | isLast
    · obtain ⟨server, isCreated⟩ :=
        replays.named earlier isEarlier call performed
      exact ⟨server, by simp [createdAfter, isCreated]⟩
    · obtain rfl := List.mem_singleton.mp isLast
      rw [notPerformed] at performed
      cases performed

/-- A registration is no operation. -/
theorem Effect.of_created
    {action : Action}
    {reply : Reply}
    {pair : Int64 × ServerId}
    (effect : Effect bridge action reply next)
    (isCreation : createdBy? (action, reply) = some pair) :
    next.broadcasters = bridge.broadcasters ∧
      performed? (action, reply) = none ∧
      connected? (action, reply) = none := by
  cases effect with
  | inserted found =>
      exact ⟨rfl, rfl, rfl⟩
  | nothing plain =>
      rw [plain.created] at isCreation
      cases isCreation
  | operated server operation plain succeeds named =>
      rw [plain.created] at isCreation
      cases isCreation
  | _ =>
      cases isCreation

end Replaying

/-- Nothing has been done. -/
theorem replays_initial : Replays .initial [] where
  registered := by simp [created]
  unregistered := by simp [Bridge.broadcasters, Bridge.initial]
  known := by simp
  named := by simp

/-- The broadcasters follow every run. -/
theorem replays_run
    (actions : List Action)
    (bounded : numbers (Bridge.initial.run actions).2 < 2 ^ 63) :
    Replays (Bridge.initial.run actions).1
      (Bridge.initial.run actions).2 := by
  induction actions using List.reverseRecOn with
  | nil =>
      exact replays_initial
  | append_singleton actions action inductionHypothesis =>
      obtain ⟨later, tracksAfter⟩ := tracks_run _ bounded
      rw [Bridge.run_concat] at bounded tracksAfter ⊢
      have boundedBefore :=
        (numbers_le_append (Bridge.initial.run actions).2 _).trans_lt
          bounded
      have replays := inductionHypothesis boundedBefore
      obtain ⟨phases, tracks⟩ := tracks_run actions boundedBefore
      have effect := effect_step (Bridge.initial.run actions).1 action
      cases isCreation :
          createdBy? (action,
            ((Bridge.initial.run actions).1.step action).2) with
      | none =>
          exact replays.step tracks (heard_step _ action) isCreation
      | some pair =>
          obtain ⟨same, notPerformed, notConnected⟩ :=
            effect.of_created isCreation
          exact replays.register tracksAfter same isCreation notPerformed
            notConnected

/-! ## What viewers of a native server receive -/

/-- A unit on offer is the completion of a published one. -/
theorem exists_publish_of_mem
    {id : SubscriptionId}
    {start : Broadcaster}
    {operations : List Operation}
    {accessUnit : EncodedAccessUnit}
    (member : accessUnit ∈ Broadcaster.publishedTo id start operations) :
    ∃ published now codec,
      .publish published now ∈ operations ∧
        accessUnit = completed codec published := by
  induction operations generalizing start with
  | nil =>
      cases member
  | cons operation later inductionHypothesis =>
      change accessUnit ∈ Broadcaster.publishes id start operation ++
        Broadcaster.publishedTo id (start.step operation) later at member
      rcases List.mem_append.mp member with isFirst | isLater
      · cases operation with
        | publish published now =>
            rw [Broadcaster.publishes] at isFirst
            split at isFirst
            · exact ⟨published, now, _, List.mem_cons_self,
                List.mem_singleton.mp isFirst⟩
            · cases isFirst
        | _ =>
            cases isFirst
      · obtain ⟨published, now, codec, isPublished, isCompleted⟩ :=
          inductionHypothesis isLater
        exact ⟨published, now, codec, List.mem_cons_of_mem _ isPublished,
          isCompleted⟩

/-- Only a push publishes. -/
theorem push_of_performed
    {entry : Action × Reply}
    {handle : Int64}
    {published : EncodedAccessUnit}
    {now : Instant}
    (performed :
      performed? entry = some (handle, .publish published now)) :
    ∃ request : PushRequest,
      entry = (.pushAccessUnit handle request now, .returned) ∧
        request.accessUnit = .ok published := by
  rw [performed?.eq_def] at performed
  split at performed
  · obtain ⟨codec, _, impossible⟩ := Option.map_eq_some_iff.mp performed
    cases impossible
  · rename_i request _
    obtain ⟨accessUnit, isUnit, same⟩ :=
      Option.map_eq_some_iff.mp performed
    cases same
    refine ⟨request, rfl, ?_⟩
    cases accepted : request.accessUnit with
    | error message =>
        rw [accepted] at isUnit
        cases isUnit
    | ok other =>
        rw [accepted] at isUnit
        cases isUnit
        rfl
  · obtain ⟨codec, _, impossible⟩ := Option.map_eq_some_iff.mp performed
    cases impossible
  · cases performed
  · cases performed

/-- What is published behind a handle has been pushed on it. -/
theorem push_of_publish
    {bridge : Bridge}
    {history : Bridge.History}
    (replays : Replays bridge history)
    {entry : Action × Reply}
    (isEntry : entry ∈ history)
    {handle : Int64}
    {server : ServerId}
    {published : EncodedAccessUnit}
    {now : Instant}
    (publishes :
      .publish published now ∈ streamOperations handle server entry) :
    ∃ request : PushRequest,
      entry = (.pushAccessUnit handle request now, .returned) ∧
        request.accessUnit = .ok published := by
  rcases List.mem_append.mp publishes with byCall | byConnection
  · rw [callOperations] at byCall
    cases performed : performed? entry with
    | none =>
        rw [performed] at byCall
        cases byCall
    | some call =>
        rw [performed, Option.elim_some] at byCall
        split at byCall
        · rename_i sameHandle
          obtain ⟨other, operation⟩ := call
          obtain rfl := List.mem_singleton.mp byCall
          obtain rfl : other = handle := sameHandle
          exact push_of_performed performed
        · cases byCall
  · rw [connectionOperations] at byConnection
    cases connected : connected? entry with
    | none =>
        rw [connected] at byConnection
        cases byConnection
    | some call =>
        have own := (replays.known entry isEntry call connected).2
        rw [connected, Option.elim_some] at byConnection
        split at byConnection
        · rw [← List.mem_singleton.mp byConnection] at own
          cases own
        · cases byConnection

/--
The broadcaster behind a handle has run the calls on this handle and the
operations of its own connections, and nothing else.  A viewer's stream falls
into segments as before, and whatever it receives has been accepted by
`nativePushAccessUnit` on this handle, behind the viewer's subscription.
-/
structure StreamRules
    (history : Bridge.History)
    (handle : Int64)
    (server : ServerId)
    (broadcaster : Broadcaster) : Prop where
  replayed :
    broadcaster =
      Broadcaster.initial.run
        (history.flatMap (streamOperations handle server))
  viewers :
    ∀ earlier later : Bridge.History,
      history =
          earlier ++ (.connection server .subscribe, .running) :: later →
        let joined :=
          (Broadcaster.initial.run
            (earlier.flatMap (streamOperations handle server))).subscribe
        Broadcaster.ViewerStream joined.1 joined.2
          (later.flatMap (streamOperations handle server))
  received :
    ∀ earlier later : Bridge.History,
      history =
          earlier ++ (.connection server .subscribe, .running) :: later →
        let joined :=
          (Broadcaster.initial.run
            (earlier.flatMap (streamOperations handle server))).subscribe
        ∀ accessUnit ∈ Broadcaster.receivedBy joined.1 joined.2
            (later.flatMap (streamOperations handle server)),
          ∃ request now published codec,
            (.pushAccessUnit handle request now, .returned) ∈ later ∧
              request.accessUnit = .ok published ∧
                accessUnit = completed codec published

/--
Servers of one process do not disturb each other: for every registered server
of every run the stream rules hold.
-/
theorem streams_of_native_servers
    (actions : List Action)
    (bounded : numbers (Bridge.initial.run actions).2 < 2 ^ 63)
    (handle : Int64)
    (server : ServerId)
    (isCreated :
      (handle, server) ∈ created (Bridge.initial.run actions).2) :
    ∃ state,
      (Bridge.initial.run actions).1.started[server]? = some state ∧
        StreamRules (Bridge.initial.run actions).2 handle server
          state.broadcaster := by
  have replays := replays_run actions bounded
  have registered := replays.registered handle server isCreated
  rw [Bridge.broadcasters, List.getElem?_map] at registered
  obtain ⟨state, isState, replayed⟩ :=
    Option.map_eq_some_iff.mp registered
  refine ⟨state, isState, replayed, ?_, ?_⟩
  · intro earlier later split
    exact Broadcaster.viewerStream_of_fresh
      ((Broadcaster.wellFormed_initial.run _).step .subscribe)
      (Broadcaster.shared_subscribe _) _
  · intro earlier later split joined accessUnit isReceived
    have wellFormed : joined.2.WellFormed :=
      (Broadcaster.wellFormed_initial.run _).step .subscribe
    have offered :=
      (Broadcaster.receivedBy_of_joined wellFormed
        (Broadcaster.shared_subscribe _) _).1 accessUnit isReceived
    obtain ⟨published, now, codec, isPublished, isCompleted⟩ :=
      exists_publish_of_mem offered
    obtain ⟨entry, isEntry, publishes⟩ :=
      List.mem_flatMap.mp isPublished
    have isEntryOfRun : entry ∈ (Bridge.initial.run actions).2 := by
      rw [split]
      exact List.mem_append_right _ (List.mem_cons_of_mem _ isEntry)
    obtain ⟨request, rfl, accepted⟩ :=
      push_of_publish replays isEntryOfRun publishes
    exact ⟨request, now, published, codec, isEntry, accepted,
      isCompleted⟩

/-- The arguments of a server for everyone on the port. -/
def publicServer (port : Int32) : CreateRequest where
  port := port
  path := .ok ['/']
  username := .ok []
  password := .ok []
  transport := 1

/-- A buffer that holds one NAL unit of two bytes. -/
def shortPush (header : UInt8) (flags : Int32) : PushRequest where
  buffer :=
    { address := .ok (), capacity := .ok (), bytes := [header, 1] }
  offset := 0
  size := 2
  ptsUs := 0
  flags := flags

/--
Two servers run at a time.  The one spawned first is registered last, each has
a viewer, and the first to be pushed to is the first to be stopped.
-/
def pairedActions : List Action :=
  [.create 0 (publicServer 8554) (.ok ()) (.ok ()),
    .create 1 (publicServer 8555) (.ok ()) (.ok ()),
    .number 1, .insert 1, .number 0, .insert 0,
    .setCodecConfig 1 (.ok [0x67, 1, 2, 3]) (.ok [0x68]),
    .setCodecConfig 2 (.ok [0x67, 4, 5, 6]) (.ok [0x68]),
    .connection 0 .subscribe, .connection 1 .subscribe,
    .pushAccessUnit 1 (shortPush 0x65 1) 0,
    .pushAccessUnit 2 (shortPush 0x65 1) 0,
    .pushAccessUnit 2 (shortPush 0x41 0) 1,
    .connection 1 (.recvTimeout 0), .stop 1 1, .raise 1,
    .connection 0 (.recvTimeout 0), .connection 0 (.recvTimeout 0),
    .finish 1 false, .join 1]

/-- The rules hold for each of two servers that run at a time. -/
theorem streams_of_native_servers_paired :
    ∃ first second,
      (Bridge.initial.run pairedActions).1.started[0]? = some first ∧
        (Bridge.initial.run pairedActions).1.started[1]? = some second ∧
        StreamRules (Bridge.initial.run pairedActions).2 2 0
          first.broadcaster ∧
        StreamRules (Bridge.initial.run pairedActions).2 1 1
          second.broadcaster := by
  have bounded : numbers (Bridge.initial.run pairedActions).2 < 2 ^ 63 := by
    decide
  obtain ⟨first, isFirst, firstRules⟩ :=
    streams_of_native_servers pairedActions bounded 2 0 (by decide)
  obtain ⟨second, isSecond, secondRules⟩ :=
    streams_of_native_servers pairedActions bounded 1 1 (by decide)
  exact ⟨first, second, isFirst, isSecond, firstRules, secondRules⟩

end CamRtsp.NativeBridge
