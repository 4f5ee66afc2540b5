import CamRtsp.ServerHandles
import CamRtsp.StreamOwnership

namespace CamRtsp

open StepTrace

/-!
# The service and the native library together

The service keeps a handle, the library keeps a table.  When the creations and
stops that the service has made are those that the library has seen, the table
holds the server of the service and no other.
-/

/-- A creation that has returned a handle, or a stop. -/
inductive OwnerCall where
  | created (handle : Int64)
  | stopped (handle : Int64)
  deriving Repr, DecidableEq

/-- The creation or stop that the service has recorded. -/
def StreamService.NativeCall.ownerCall? :
    StreamService.NativeCall → Option OwnerCall
  | .create _ _ _ (.ok handle) => some (.created handle)
  | .create _ _ _ (.error _) => none
  | .stop handle => some (.stopped handle)

namespace NativeBridge

/-- The creation or stop that the library has seen. -/
def ownerCall? : Action × Reply → Option OwnerCall
  | (_, .created handle _) => some (.created handle)
  | (.stop _ handle, .took _ _) => some (.stopped handle)
  | (.stop _ handle, .threw _) => some (.stopped handle)
  | _ => none

/-- Creations and stops that take turns. -/
inductive Alternates : Option Int64 → OwnerCall → Option Int64 → Prop where
  | created (handle : Int64) :
      Alternates none (.created handle) (some handle)
  | stopped (handle : Int64) :
      Alternates (some handle) (.stopped handle) none

/-- The calls of the service take turns, when no handle is zero. -/
theorem alternates_of_owned
    {calls : List StreamService.NativeCall}
    {before after : Option Int64}
    (trace : Trace StreamService.Owned before calls after)
    (nonzero :
      .created 0 ∉ calls.filterMap StreamService.NativeCall.ownerCall?) :
    Trace Alternates before
      (calls.filterMap StreamService.NativeCall.ownerCall?) after := by
  induction trace with
  | nil state =>
      exact .nil state
  | cons first rest inductionHypothesis =>
      rw [List.filterMap_cons] at nonzero ⊢
      cases first with
      | created request handle isNonzero =>
          exact .cons (.created handle)
            (inductionHypothesis fun member =>
              nonzero (List.mem_cons_of_mem _ member))
      | refused request result nothing =>
          cases result with
          | error thrown =>
              exact inductionHypothesis nonzero
          | ok handle =>
              rw [nothing handle rfl] at nonzero
              exact absurd List.mem_cons_self nonzero
      | stopped handle =>
          exact .cons (.stopped handle)
            (inductionHypothesis fun member =>
              nonzero (List.mem_cons_of_mem _ member))

/-- A trace with one more item. -/
theorem exists_of_concat
    {items : List OwnerCall}
    {item : OwnerCall}
    {before after : Option Int64}
    (trace : Trace Alternates before (items ++ [item]) after) :
    ∃ between,
      Trace Alternates before items between ∧
        Alternates between item after := by
  obtain ⟨between, front, last⟩ := trace.exists_of_append
  cases last with
  | cons once nothing =>
      cases nothing
      exact ⟨between, front, once⟩

/-- A creation replies with its handle. -/
theorem eq_created_of_ownerCall?
    {entry : Action × Reply}
    {handle : Int64}
    (isCreation : ownerCall? entry = some (.created handle)) :
    ∃ server,
      createdBy? entry = some (handle, server) ∧
        entry.2 = .created handle server := by
  rw [ownerCall?.eq_def] at isCreation
  split at isCreation
  · rename_i server
    cases isCreation
    exact ⟨server, rfl, rfl⟩
  · cases isCreation
  · cases isCreation
  · cases isCreation

/-- A stop names its handle. -/
theorem eq_stop_of_ownerCall?
    {entry : Action × Reply}
    {handle : Int64}
    (isStop : ownerCall? entry = some (.stopped handle)) :
    ∃ thread,
      entry.1 = .stop thread handle ∧ entry.2 ≠ .ignored := by
  rw [ownerCall?.eq_def] at isStop
  split at isStop
  · cases isStop
  · rename_i thread _ _ _
    cases isStop
    exact ⟨thread, rfl, by simp⟩
  · rename_i thread _ _
    cases isStop
    exact ⟨thread, rfl, by simp⟩
  · cases isStop

section Table

variable {bridge next : Bridge}
variable {action : Action}
variable {reply : Reply}
variable {handle : Int64}

/-- A step that is no creation and no stop keeps the table. -/
theorem Effect.servers_eq
    (effect : Effect bridge action reply next)
    (silent : ownerCall? (action, reply) = none) :
    next.servers = bridge.servers := by
  cases effect with
  | inserted found =>
      cases silent
  | took outside found =>
      cases silent
  | _ =>
      rfl

/-- A creation adds its handle to an empty table. -/
theorem Effect.servers_of_created
    {server : ServerId}
    (effect : Effect bridge action (.created handle server) next)
    (empty : bridge.servers.map Prod.fst = []) :
    next.servers.map Prod.fst = [handle] := by
  have noServers : bridge.servers = [] := List.map_eq_nil_iff.mp empty
  cases effect with
  | inserted found =>
      simp [Bridge.insert, Bridge.proceed, noServers]
  | nothing plain =>
      cases plain.created
  | operated changed operation plain succeeds named =>
      cases plain.created

/-- A stop of the only server empties the table, and does not throw. -/
theorem servers_of_stopped
    {thread : ThreadId}
    (proceeds : (bridge.step (.stop thread handle)).2 ≠ .ignored)
    (only : bridge.servers.map Prod.fst = [handle]) :
    (bridge.step (.stop thread handle)).1.servers.map Prod.fst = [] ∧
      ∀ message,
        (bridge.step (.stop thread handle)).2 ≠ .threw message := by
  obtain ⟨⟨key, server⟩, isServers, rfl⟩ := List.map_eq_singleton_iff.mp only
  have found : bridge.find key = some server := by
    simp [Bridge.find, isServers]
  cases outside : bridge.calls thread with
  | outside =>
      simp [Bridge.step, outside, found, Bridge.remove, Bridge.proceed,
        isServers]
  | _ =>
      simp [Bridge.step, outside] at proceeds

end Table

/-- No stop has been refused. -/
def NoStopThrows (history : Bridge.History) : Prop :=
  ∀ thread handle message,
    (.stop thread handle, .threw message) ∉ history

/-- While creations and stops take turns, the table holds what is held. -/
theorem servers_of_alternates
    (actions : List Action)
    {held : Option Int64}
    (trace :
      Trace Alternates none
        ((Bridge.initial.run actions).2.filterMap ownerCall?) held) :
    (Bridge.initial.run actions).1.servers.map Prod.fst = held.toList ∧
      NoStopThrows (Bridge.initial.run actions).2 := by
  induction actions using List.reverseRecOn generalizing held with
  | nil =>
      cases trace
      exact ⟨rfl, by simp [NoStopThrows, Bridge.run]⟩
  | append_singleton actions action inductionHypothesis =>
      have notThrown
          (before : NoStopThrows (Bridge.initial.run actions).2)
          (last :
            ∀ thread handle message,
              action = .stop thread handle →
                ((Bridge.initial.run actions).1.step action).2 ≠
                  .threw message) :
          NoStopThrows (Bridge.initial.run (actions ++ [action])).2 := by
        intro thread handle message member
        rw [Bridge.run_concat, List.mem_append] at member
        rcases member with earlier | isLast
        · exact before thread handle message earlier
        · obtain ⟨sameAction, sameReply⟩ :=
            Prod.mk.inj (List.mem_singleton.mp isLast)
          exact last thread handle message sameAction.symm sameReply.symm
      rw [Bridge.run_concat] at trace notThrown ⊢
      have effect := effect_step (Bridge.initial.run actions).1 action
      rw [filterMap_concat] at trace
      cases isCall :
          ownerCall? (action,
            ((Bridge.initial.run actions).1.step action).2) with
      | none =>
          rw [isCall, Option.toList_none, List.append_nil] at trace
          obtain ⟨table, noThrow⟩ := inductionHypothesis trace
          refine ⟨by rw [effect.servers_eq isCall, table],
            notThrown noThrow ?_⟩
          rintro thread handle message rfl threw
          rw [threw] at isCall
          cases isCall
      | some call =>
          rw [isCall, Option.toList_some] at trace
          obtain ⟨between, front, once⟩ := exists_of_concat trace
          obtain ⟨table, noThrow⟩ := inductionHypothesis front
          cases once with
          | created handle =>
              obtain ⟨server, _, isCreated⟩ :=
                eq_created_of_ownerCall? isCall
              refine ⟨?_, notThrown noThrow ?_⟩
              · change _ = Reply.created handle server at isCreated
                rw [isCreated] at effect
                exact effect.servers_of_created table
              · intro _ _ message _ threw
                cases isCreated.symm.trans threw
          | stopped handle =>
              obtain ⟨thread, isStop, proceeds⟩ :=
                eq_stop_of_ownerCall? isCall
              change action = _ at isStop
              subst isStop
              obtain ⟨emptied, quiet⟩ := servers_of_stopped proceeds table
              refine ⟨emptied, notThrown noThrow ?_⟩
              intro _ _ message _
              exact quiet message

/-- What the service and the library have together. -/
structure ServiceRules
    (service : StreamService.Service)
    (bridge : Bridge)
    (history : Bridge.History) : Prop where
  table : bridge.servers.map Prod.fst = service.held.toList
  stops : NoStopThrows history
  nonzero :
    ∀ field encoder request,
      .create field encoder request (.ok 0) ∉ service.calls
  settled :
    (∀ thread, bridge.calls thread = .outside) →
      ∀ (server : ServerId) (state : Server),
        bridge.started[server]? = some state →
          (∃ handle ∈ service.held, bridge.find handle = some server) ∨
            (state.stopping = true ∧ state.worker ≠ .running)

/-- A server that no thread holds is in the table or has ended. -/
theorem Tracks.settled
    {bridge : Bridge}
    {history : Bridge.History}
    {phases : List Phase}
    (tracks : Tracks bridge history phases)
    (outside : ∀ thread, bridge.calls thread = .outside)
    {server : ServerId}
    {state : Server}
    (isState : bridge.started[server]? = some state) :
    (∃ handle, bridge.find handle = some server) ∨
      (state.stopping = true ∧ state.worker ≠ .running) := by
  obtain ⟨inside, _⟩ := List.getElem?_eq_some_iff.mp isState
  rw [← tracks.flags.length] at inside
  have isPhase := List.getElem?_eq_getElem inside
  have has := tracks.has_iff isPhase
  have fits := tracks.flags.fits _ _ _ isState isPhase
  cases holder : phases[server].holder with
  | caller thread =>
      have isHeld := (has (.caller thread)).mpr holder
      rw [Holder.Has, outside thread] at isHeld
      cases isHeld
  | table handle =>
      exact .inl ⟨handle, (has (.table handle)).mpr holder⟩
  | past handle =>
      have ended : phases[server] = .stopped handle := by
        cases phase : phases[server] <;>
          simp_all [Phase.holder]
      rw [ended] at fits
      exact .inr ⟨fits.flag.mpr (.inr rfl), fits.ended rfl⟩

/--
The service with its native library, when the two logs of creations and stops
agree: the table holds the server of the service and no other, no stop is
refused, no handle is zero, and while no call is under way every other server
has ended.
-/
theorem service_holds_the_only_server
    (messages : List StreamService.Action)
    (timely : StreamService.TimelyRun .initial messages)
    (actions : List Action)
    (bounded : numbers (Bridge.initial.run actions).2 < 2 ^ 63)
    (agree :
      (StreamService.Service.initial.run messages).calls.filterMap
          StreamService.NativeCall.ownerCall? =
        (Bridge.initial.run actions).2.filterMap ownerCall?) :
    ServiceRules (StreamService.Service.initial.run messages)
      (Bridge.initial.run actions).1
      (Bridge.initial.run actions).2 := by
  obtain ⟨phases, tracks⟩ := tracks_run actions bounded
  have nonzero :
      .created 0 ∉
        (StreamService.Service.initial.run messages).calls.filterMap
          StreamService.NativeCall.ownerCall? := by
    intro member
    rw [agree] at member
    obtain ⟨entry, isEntry, isCreation⟩ := List.mem_filterMap.mp member
    obtain ⟨server, isCreated, _⟩ := eq_created_of_ownerCall? isCreation
    have listed :
        (0, server) ∈ created (Bridge.initial.run actions).2 :=
      List.mem_filterMap.mpr ⟨entry, isEntry, isCreated⟩
    exact absurd (tracks.positive bounded listed) (by simp)
  have owned :=
    (StreamService.Service.inv_initial.run timely).toSound.calls
  have trace := alternates_of_owned owned nonzero
  rw [agree] at trace
  obtain ⟨table, stops⟩ := servers_of_alternates actions trace
  exact {
    table := table
    stops := stops
    nonzero := fun field encoder request isCall =>
      nonzero (List.mem_filterMap.mpr ⟨_, isCall, rfl⟩)
    settled := by
      intro outside server state isState
      rcases tracks.settled outside isState with ⟨handle, found⟩ | ended
      · refine .inl ⟨handle, ?_, found⟩
        have listed :=
          (tracks.lists.registered handle server).mpr
            (tracks.lists.lookup_iff.mp found)
        have isKey := List.mem_map_of_mem (f := Prod.fst) listed
        rw [table] at isKey
        exact Option.mem_toList.mp isKey
      · exact .inr ended
  }

/-- The service is started and destroyed. -/
def servedMessages : List StreamService.Action :=
  [.startCommand none, .work 0 StreamService.freshWorld, .onDestroy,
    .work 1 StreamService.healthyWorld]

/-- A whole life of the service and its server. -/
theorem service_holds_the_only_server_served :
    ServiceRules (StreamService.Service.initial.run servedMessages)
      (Bridge.initial.run handledActions).1
      (Bridge.initial.run handledActions).2 :=
  service_holds_the_only_server servedMessages (by decide +kernel)
    handledActions numbers_handledActions (by decide +kernel)

end NativeBridge

end CamRtsp
