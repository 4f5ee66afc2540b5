import CamRtsp.BroadcasterDelivery
import CamRtsp.Foundation.Unwinding

namespace CamRtsp

open Unwinding

/-!
# Viewers are isolated from each other

The operations of other viewers can be deleted from a run without any change
for one viewer.  The viewer is then the only subscription, so its shared pair
is the first one.
-/

namespace Broadcaster

/-! ## A run without the other viewers -/

/-- The operation as it is without the other viewers. -/
def shownTo (id : SubscriptionId) : Operation → Option Operation
  | .subscribe => none
  | .recvTimeout other =>
      if other = id then some (.recvTimeout 0) else none
  | .drop other => if other = id then some (.drop 0) else none
  | operation => some operation

/-- The result of `recv_timeout` on the subscription. -/
def results (id : SubscriptionId) (broadcaster : Broadcaster) :
    Operation → List (Option EncodedAccessUnit)
  | .recvTimeout other =>
      if other = id ∧ broadcaster.alive id then
        [(broadcaster.recvTimeout id).1]
      else
        []
  | _ => []

/-- The broadcaster with one subscription that looks at its results. -/
def machine (id : SubscriptionId) :
    Machine Broadcaster Operation (Option EncodedAccessUnit) where
  step := step
  output := results id

/-- All results of the subscription in a run. -/
def allResults (id : SubscriptionId) :
    Broadcaster → List Operation → List (Option EncodedAccessUnit) :=
  (machine id).outputs

/--
The viewer finds the same in both states.  Its queue exists as long as the
broadcaster or the subscription refers to it.
-/
structure SameView
    (id : SubscriptionId)
    (whole alone : Broadcaster) : Prop where
  alive : alone.alive 0 = whole.alive id
  queue :
    id ∈ whole.state.clients ∨ whole.alive id = true →
      alone.queue 0 = whole.queue id

/-! ## The relation between the two runs -/

/-- The viewer has not subscribed yet. -/
structure Unjoined (whole alone : Broadcaster) : Prop where
  wellFormed : whole.WellFormed
  nobody : alone.shared = [] ∧ alone.state.clients = []
  codec : alone.state.codec = whole.state.codec

/-- The first subscription of one state is the given one of the other. -/
structure Simulates
    (id : SubscriptionId)
    (whole alone : Broadcaster) : Prop where
  wellFormed : whole.WellFormed
  aloneWellFormed : alone.WellFormed
  known : id < whole.shared.length
  aloneKnown : 0 < alone.shared.length
  codec : alone.state.codec = whole.state.codec
  alive : alone.alive 0 = whole.alive id
  served :
    id ∈ whole.state.clients →
      0 ∈ alone.state.clients ∧ alone.shared[0]? = whole.shared[id]?

section Steps

variable {id : SubscriptionId}
variable {whole alone : Broadcaster}
variable {operation own : Operation}

/-- Without clients no operation but `subscribe` creates any. -/
theorem nobody_step
    (nobody : alone.shared = [] ∧ alone.state.clients = [])
    (notSubscribe : operation ≠ .subscribe) :
    (alone.step operation).shared = [] ∧
      (alone.step operation).state.clients = [] := by
  obtain ⟨noPairs, noClients⟩ := nobody
  cases operation with
  | subscribe =>
      exact (notSubscribe rfl).elim
  | setCodecConfig codec =>
      by_cases replaced : alone.replacesCodec codec = true <;>
        simp [step, setCodecConfig, replaced, noPairs, noClients]
  | recvTimeout other =>
      simp [step, alive, noPairs, noClients]
  | _ =>
      simp [step, publish, setFrameRate, takeKeyframeRequest, drop, noPairs,
        noClients]

/-- Hidden operations create, read or drop other subscriptions. -/
theorem hidden_cases (isHidden : shownTo id operation = none) :
    operation = .subscribe ∨
      ∃ other, other ≠ id ∧
        (operation = .recvTimeout other ∨ operation = .drop other) := by
  cases operation with
  | subscribe =>
      exact .inl rfl
  | recvTimeout other =>
      refine .inr ⟨other, ?_, .inl rfl⟩
      rintro rfl
      simp [shownTo] at isHidden
  | drop other =>
      refine .inr ⟨other, ?_, .inr rfl⟩
      rintro rfl
      simp [shownTo] at isHidden
  | _ =>
      cases isHidden

/-- Visible operations read or drop the subscription, or belong to nobody. -/
theorem visible_cases (isShown : shownTo id operation = some own) :
    operation = .recvTimeout id ∧ own = .recvTimeout 0 ∨
      operation = .drop id ∧ own = .drop 0 ∨
      own = operation ∧ operation ≠ .subscribe ∧
        ∀ other, operation ≠ .recvTimeout other ∧
          operation ≠ .drop other := by
  cases operation with
  | subscribe =>
      cases isShown
  | recvTimeout other =>
      by_cases same : other = id
      · simp [shownTo, same] at isShown
        exact .inl ⟨by rw [same], isShown.symm⟩
      · simp [shownTo, same] at isShown
  | drop other =>
      by_cases same : other = id
      · simp [shownTo, same] at isShown
        exact .inr (.inl ⟨by rw [same], isShown.symm⟩)
      · simp [shownTo, same] at isShown
  | _ =>
      cases isShown
      exact .inr (.inr ⟨rfl, by simp, by simp⟩)

/-- A visible operation sets the same configuration. -/
theorem codec_step_visible
    (codec : alone.state.codec = whole.state.codec)
    (isShown : shownTo id operation = some own) :
    (alone.step own).state.codec = (whole.step operation).state.codec := by
  rw [codec_step, codec_step]
  obtain ⟨rfl, rfl⟩ | ⟨rfl, rfl⟩ | ⟨rfl, _, _⟩ := visible_cases isShown
  · exact codec
  · exact codec
  · cases own with
    | setCodecConfig codec =>
        rfl
    | _ =>
        exact codec

/-- A hidden operation keeps the configuration. -/
theorem codec_step_hidden
    (isHidden : shownTo id operation = none) :
    (whole.step operation).state.codec = whole.state.codec := by
  rw [codec_step]
  obtain rfl | ⟨other, _, rfl | rfl⟩ := hidden_cases isHidden <;> rfl

/-- A visible operation treats the two pairs alike. -/
theorem pairAfter_visible
    (codec : alone.state.codec = whole.state.codec)
    (served : id ∈ whole.state.clients)
    (aloneServed : 0 ∈ alone.state.clients)
    (isShown : shownTo id operation = some own)
    (pair : Shared) :
    alone.pairAfter 0 own pair = whole.pairAfter id operation pair := by
  obtain ⟨rfl, rfl⟩ | ⟨rfl, rfl⟩ | ⟨rfl, notSubscribe, notOwned⟩ :=
    visible_cases isShown
  · simp [pairAfter]
  · simp [pairAfter]
  · cases own with
    | publish accessUnit now =>
        simp [pairAfter, codec]
    | setCodecConfig config =>
        simp [pairAfter, replacesCodec, codec, served, aloneServed]
    | recvTimeout other =>
        exact ((notOwned other).1 rfl).elim
    | drop other =>
        exact ((notOwned other).2 rfl).elim
    | _ =>
        rfl

/-- A hidden operation leaves the pair of the viewer alone. -/
theorem pairAfter_hidden
    (isHidden : shownTo id operation = none)
    (pair : Shared) :
    whole.pairAfter id operation pair = pair := by
  obtain rfl | ⟨other, differs, rfl | rfl⟩ := hidden_cases isHidden
  · rfl
  · simp [pairAfter, differs]
  · simp [pairAfter, differs]

/-- No operation makes an existing subscription a client again. -/
theorem served_of_served_step
    (known : id < whole.shared.length)
    (served : id ∈ (whole.step operation).state.clients) :
    id ∈ whole.state.clients := by
  rw [clients_step] at served
  cases operation with
  | subscribe =>
      simp only [List.mem_append, List.mem_singleton] at served
      rcases served with kept | isNew
      · exact (List.mem_filter.mp kept).1
      · exact absurd isNew (Nat.ne_of_lt known)
  | publish accessUnit now =>
      exact (List.mem_filter.mp served).1
  | _ =>
      exact served

/-- A visible operation forgets the viewer in both states or in none. -/
theorem served_step_visible
    (alive : alone.alive 0 = whole.alive id)
    (isShown : shownTo id operation = some own)
    (aloneServed : 0 ∈ alone.state.clients)
    (served : id ∈ (whole.step operation).state.clients) :
    0 ∈ (alone.step own).state.clients := by
  rw [clients_step] at served ⊢
  obtain ⟨rfl, rfl⟩ | ⟨rfl, rfl⟩ | ⟨rfl, notSubscribe, _⟩ :=
    visible_cases isShown
  · exact aloneServed
  · exact aloneServed
  · cases own with
    | subscribe =>
        exact (notSubscribe rfl).elim
    | publish accessUnit now =>
        rw [List.mem_filter] at served ⊢
        exact ⟨aloneServed, alive.trans served.2⟩
    | _ =>
        exact aloneServed

/-- A hidden operation keeps the relation. -/
theorem Simulates.step_hidden
    (simulates : Simulates id whole alone)
    (isHidden : shownTo id operation = none) :
    Simulates id (whole.step operation) alone where
  wellFormed := simulates.wellFormed.step operation
  aloneWellFormed := simulates.aloneWellFormed
  known := known_step simulates.wellFormed simulates.known operation
  aloneKnown := simulates.aloneKnown
  codec := simulates.codec.trans (codec_step_hidden isHidden).symm
  alive := by
    have kept : operation ≠ .drop id := by
      rintro rfl
      simp [shownTo] at isHidden
    rw [alive_step simulates.wellFormed simulates.known, simulates.alive]
    simp [kept]
  served := by
    intro served
    obtain ⟨aloneServed, samePair⟩ :=
      simulates.served (served_of_served_step simulates.known served)
    refine ⟨aloneServed, ?_⟩
    rw [shared_step simulates.wellFormed simulates.known, samePair]
    cases whole.shared[id]? with
    | none =>
        rfl
    | some pair =>
        rw [Option.map_some, pairAfter_hidden isHidden]

/-- A visible operation on both sides keeps the relation. -/
theorem Simulates.step_visible
    (simulates : Simulates id whole alone)
    (isShown : shownTo id operation = some own) :
    Simulates id (whole.step operation) (alone.step own) where
  wellFormed := simulates.wellFormed.step operation
  aloneWellFormed := simulates.aloneWellFormed.step own
  known := known_step simulates.wellFormed simulates.known operation
  aloneKnown :=
    known_step simulates.aloneWellFormed simulates.aloneKnown own
  codec := codec_step_visible simulates.codec isShown
  alive := by
    have sameDrop : own = .drop 0 ↔ operation = .drop id := by
      obtain ⟨rfl, rfl⟩ | ⟨rfl, rfl⟩ | ⟨rfl, _, notOwned⟩ :=
        visible_cases isShown
      · simp
      · simp
      · simp [(notOwned 0).2, (notOwned id).2]
    rw [alive_step simulates.wellFormed simulates.known,
      alive_step simulates.aloneWellFormed simulates.aloneKnown,
      simulates.alive]
    simp [sameDrop]
  served := by
    intro served
    have before := served_of_served_step simulates.known served
    obtain ⟨aloneServed, samePair⟩ := simulates.served before
    refine ⟨served_step_visible simulates.alive isShown aloneServed served,
      ?_⟩
    rw [shared_step simulates.wellFormed simulates.known,
      shared_step simulates.aloneWellFormed simulates.aloneKnown, samePair]
    cases whole.shared[id]? with
    | none =>
        rfl
    | some pair =>
        rw [Option.map_some, Option.map_some,
          pairAfter_visible simulates.codec before aloneServed isShown]

/-- The queue of a client is the same in both states. -/
theorem Simulates.sameView (simulates : Simulates id whole alone) :
    SameView id whole alone where
  alive := simulates.alive
  queue := by
    intro held
    have served : id ∈ whole.state.clients :=
      held.elim (fun client => client) (simulates.wellFormed.served id)
    rw [queue, queue, (simulates.served served).2]

/-- A visible operation has the same result on both sides. -/
theorem Simulates.results_visible
    (simulates : Simulates id whole alone)
    (isShown : shownTo id operation = some own) :
    results id whole operation = results 0 alone own := by
  obtain ⟨rfl, rfl⟩ | ⟨rfl, rfl⟩ | ⟨rfl, notSubscribe, notOwned⟩ :=
    visible_cases isShown
  · cases isAlive : whole.alive id with
    | false =>
        simp [results, isAlive, simulates.alive]
    | true =>
        have sameQueue := simulates.sameView.queue (.inr isAlive)
        simp [results, recvTimeout, isAlive, simulates.alive, sameQueue]
  · rfl
  · cases own with
    | recvTimeout other =>
        exact ((notOwned other).1 rfl).elim
    | _ =>
        rfl

/-- A hidden operation has no result for the viewer. -/
theorem results_hidden (isHidden : shownTo id operation = none) :
    results id whole operation = [] := by
  obtain rfl | ⟨other, differs, rfl | rfl⟩ := hidden_cases isHidden
  · rfl
  · simp [results, differs]
  · rfl

end Steps

/-- Once the viewer has subscribed, the others can be deleted. -/
theorem unwinds_simulates (id : SubscriptionId) :
    Unwinds (machine id) (machine 0) (shownTo id) (Simulates id) where
  hidden := fun _ _ _ simulates isHidden =>
    ⟨simulates.step_hidden isHidden, results_hidden isHidden⟩
  visible := fun _ _ _ _ simulates isShown =>
    ⟨simulates.step_visible isShown, simulates.results_visible isShown⟩

/-- Before, they can be deleted as well; nobody looks at results. -/
theorem unwinds_unjoined (id : SubscriptionId) :
    Unwinds { step := step, output := fun _ _ => ([] : List Unit) }
      { step := step, output := fun _ _ => [] } (shownTo id) Unjoined where
  hidden := by
    intro whole alone operation unjoined isHidden
    refine ⟨{
      wellFormed := unjoined.wellFormed.step operation
      nobody := unjoined.nobody
      codec := unjoined.codec.trans (codec_step_hidden isHidden).symm
    }, rfl⟩
  visible := by
    intro whole alone operation own unjoined isShown
    have notSubscribe : own ≠ .subscribe := by
      obtain ⟨_, rfl⟩ | ⟨_, rfl⟩ | ⟨rfl, notSubscribe, _⟩ :=
        visible_cases isShown
      · simp
      · simp
      · exact notSubscribe
    exact ⟨{
      wellFormed := unjoined.wellFormed.step operation
      nobody := nobody_step unjoined.nobody notSubscribe
      codec := codec_step_visible unjoined.codec isShown
    }, rfl⟩

/-- The new subscription of one state is the first of the other. -/
theorem Unjoined.simulates
    {whole alone : Broadcaster}
    (unjoined : Unjoined whole alone) :
    Simulates whole.shared.length (whole.step .subscribe)
      (alone.step .subscribe) := by
  obtain ⟨noPairs, noClients⟩ := unjoined.nobody
  have aloneWellFormed : alone.WellFormed := {
    nodup := by simp [noClients]
    known := by simp [noClients]
    served := by simp [Broadcaster.alive, noPairs]
  }
  have ownPair := shared_subscribe whole
  have alonePair := shared_subscribe alone
  rw [noPairs, List.length_nil] at alonePair
  exact {
    wellFormed := unjoined.wellFormed.step .subscribe
    aloneWellFormed := aloneWellFormed.step .subscribe
    known := (List.getElem?_eq_some_iff.mp ownPair).1
    aloneKnown := (List.getElem?_eq_some_iff.mp alonePair).1
    codec := unjoined.codec
    alive := by rw [Broadcaster.alive, Broadcaster.alive, ownPair, alonePair]
    served := by
      intro _
      rw [clients_step, noPairs, ownPair, alonePair]
      exact ⟨by simp, rfl⟩
  }

/-- The run without the other viewers. -/
def aloneRun (id : SubscriptionId) (before after : List Operation) :
    List Operation :=
  before.filterMap (shownTo id) ++
    .subscribe :: after.filterMap (shownTo id)

/-- One viewer's results and queue, with the other viewers and without. -/
structure Isolated (before after : List Operation) : Prop where
  results :
    let id := (initial.run before).shared.length
    allResults id (initial.run (before ++ [.subscribe])) after =
      allResults 0 (initial.run (aloneRun id before []))
        (after.filterMap (shownTo id))
  views :
    let id := (initial.run before).shared.length
    ∀ front, front <+: after →
      SameView id
        (initial.run (before ++ .subscribe :: front))
        (initial.run (aloneRun id before front))

/-- When the viewer has subscribed, the two runs are related. -/
theorem simulates_subscribe (before : List Operation) :
    Simulates (initial.run before).shared.length
      ((initial.run before).step .subscribe)
      ((initial.run
        (before.filterMap
          (shownTo (initial.run before).shared.length))).step
            .subscribe) := by
  have unjoined : Unjoined initial initial := {
    wellFormed := wellFormed_initial
    nobody := ⟨rfl, rfl⟩
    codec := rfl
  }
  exact ((unwinds_unjoined _).related_run unjoined before).simulates

end Broadcaster

/--
Deleting the operations of all other viewers from a run changes no result of a
viewer's `recv_timeout`, and neither its queue nor its waiting flag after any
step as long as the queue exists.
-/
theorem Broadcaster.viewers_isolated (before after : List Operation) :
    Isolated before after where
  results := by
    intro id
    have sameOutputs :=
      (unwinds_simulates id).outputs_eq (simulates_subscribe before) after
    simp only [aloneRun, List.filterMap_nil, run, List.foldl_append]
    exact sameOutputs
  views := by
    intro id front _
    have related :=
      (unwinds_simulates id).related_run (simulates_subscribe before) front
    simp only [aloneRun, run, List.foldl_append, List.foldl_cons]
    exact related.sameView

end CamRtsp
