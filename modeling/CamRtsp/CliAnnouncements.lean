import CamRtsp.CliShutdown
import CamRtsp.ControlUrls

namespace CamRtsp.Cli

open RustText
open Broadcaster (Ready)

/-!
# What the program announces

The program prints the URLs of the stream once, in the first round of the poll
loop that finds it ready.  Every one of them leads every connection that the
server accepts to the stream, and a DESCRIBE of it is not put off.
-/

section Path

variable {path : Text}

/-- A valid path is one of the two forms that the target check accepts. -/
theorem eq_aggregate_or_withSlash (valid : validPath path = true) :
    path = aggregate path ∨ path = aggregateWithSlash path := by
  have single : ¬ "//".toList <:+: path := by
    simp only [validPath, Bool.and_eq_true, decide_eq_true_eq] at valid
    exact valid.2
  by_cases isRoot : path = ['/']
  · subst isRoot
    exact .inl rfl
  · rw [aggregateWithSlash_eq, aggregate, if_neg isRoot, trimEndMatches]
    cases path using List.reverseRecOn with
    | nil =>
        exact .inl rfl
    | append_singleton front last =>
        by_cases isSlash : last = '/'
        · subst isSlash
          rw [List.rdropWhile_concat_pos _ _ _ (by rfl)]
          cases front using List.reverseRecOn with
          | nil =>
              exact absurd rfl isRoot
          | append_singleton front before =>
              -- Two slashes would stand at the end.
              have notSlash : before ≠ '/' := by
                rintro rfl
                refine single ⟨front, [], ?_⟩
                simp
              rw [List.rdropWhile_concat_neg _ _ _ (by simpa using notSlash)]
              exact .inr rfl
        · rw [List.rdropWhile_concat_neg _ _ _ (by simpa using isSlash)]
          exact .inl rfl

/-- The URL of a stream passes the target check. -/
theorem targets_of_streamUrl
    (valid : validPath path = true)
    {address : SocketAddr}
    {request : Request}
    (named : request.uri = streamUrl path address) :
    targets path request := by
  have within := socketDisplay_subset address
  have noSlash : '/' ∉ address.display :=
    fun member => absurd (within member) (by decide)
  obtain ⟨rooted, noQuery⟩ := validPath_shape valid
  have routed : requestPath request.uri = some path := by
    rw [named]
    unfold streamUrl
    exact requestPath_authority noSlash rooted noQuery
  rcases eq_aggregate_or_withSlash valid with isAggregate | withSlash
  · exact .inr (.inl (by rw [routed, ← isAggregate]))
  · exact .inr (.inr (.inl (by rw [routed, ← withSlash])))

end Path

/-- A loopback address is not unspecified. -/
theorem isUnspecified_loopback (ip : IpAddr) :
    isUnspecified (loopback ip) = false := by
  cases ip <;> rfl

/-- No printed address is unspecified, and each has the port of the server. -/
theorem streamAddresses_reachable
    (bound : SocketAddr)
    (probed : Option SocketAddr) :
    streamAddresses bound probed ≠ [] ∧
      ∀ address ∈ streamAddresses bound probed,
        address.port = bound.port ∧ isUnspecified address.ip = false := by
  rw [streamAddresses]
  split
  · refine ⟨List.cons_ne_nil _ _, ?_⟩
    intro address member
    rcases List.mem_cons.mp member with rfl | isProbed
    · exact ⟨rfl, isUnspecified_loopback bound.ip⟩
    · simp only [Option.mem_toList, Option.map_eq_some_iff,
        Option.filter_eq_some_iff, Bool.and_eq_true, Bool.not_eq_true']
        at isProbed
      obtain ⟨other, ⟨_, _, specified⟩, rfl⟩ := isProbed
      exact ⟨rfl, specified⟩
  · rename_i specified
    refine ⟨List.cons_ne_nil _ _, ?_⟩
    intro address member
    rw [List.mem_singleton.mp member]
    exact ⟨rfl, Bool.eq_false_iff.mpr specified⟩

/-- What holds of the announcements at every moment. -/
structure AnnouncementRules
    (setting : Setting)
    (process : Process) : Prop where
  once : process.announcements.length ≤ 1
  when :
    ∀ (watch : Watch) (response : Response),
      process.position = .reading watch →
        ((process.main response).announcements ≠ [] ↔
          Ready (process.system.log.map Prod.snd))
  ready :
    process.announcements ≠ [] →
      process.system.broadcaster.state.codec.isSome = true
  reachable :
    ∀ printed ∈ process.announcements,
      printed.camera = setting.camera.name ∧ printed.urls ≠ [] ∧
        ∀ url ∈ printed.urls, ∃ address : SocketAddr,
          url = streamUrl setting.server.path address ∧
            address.port = setting.address.port ∧
              isUnspecified address.ip = false
  routed :
    ∀ printed ∈ process.announcements, ∀ url ∈ printed.urls,
      ∀ thread ∈ process.system.threads, ∀ request : Request,
        request.uri = url →
          targets thread.connection.server.path request ∧
            ∀ (iteration : Iteration) (session : Session),
              iteration.codec = process.system.broadcaster.state.codec →
                ∀ reply, .response reply ∈
                    (serve thread.connection iteration session
                      request).sends →
                  reply.status ≠ .notFound ∧
                    reply.status ≠ .serviceUnavailable

section Announcing

variable {setting : Setting}
variable {events : List Event}
variable {process : Process}

/-- The stream is announced as soon as a round finds it ready. -/
theorem Inv.announces_iff
    (inv : Inv setting events process)
    {watch : Watch}
    (here : process.position = .reading watch)
    (response : Response) :
    (process.main response).announcements ≠ [] ↔
      Ready (process.system.log.map Prod.snd) := by
  have after := inv.read here response
  have isStats :
      (process.system.broadcaster.stats response.statsAt).ready = true ↔
        Ready (process.system.log.map Prod.snd) := by
    rw [inv.logged]
    exact Broadcaster.ready_stats_run _ _
  simp only [Process.main, here]
  constructor
  · exact after.ready
  · intro ready
    rw [Process.read, isStats.mpr ready]
    cases isAnnounced : watch.announced with
    | false =>
        simp
    | true =>
        have known := inv.announced watch.announced (by rw [here]; rfl)
        simpa using known.mp isAnnounced

/-- What was announced has parameter sets for good. -/
theorem Inv.isSome_codec
    (inv : Inv setting events process)
    (isAnnounced : process.announcements ≠ []) :
    process.system.broadcaster.state.codec.isSome = true := by
  rw [inv.logged, Broadcaster.isSome_codec_run]
  exact (inv.ready isAnnounced).1

/-- The URLs of an announcement are those of the reachable addresses. -/
theorem Inv.reachable
    (inv : Inv setting events process)
    {printed : Announcement}
    (isPrinted : printed ∈ process.announcements) :
    printed.camera = setting.camera.name ∧ printed.urls ≠ [] ∧
      ∀ url ∈ printed.urls, ∃ address : SocketAddr,
        url = streamUrl setting.server.path address ∧
          address.port = setting.address.port ∧
            isUnspecified address.ip = false := by
  obtain ⟨negotiated, probed, rfl⟩ := inv.texts printed isPrinted
  obtain ⟨nonempty, each⟩ :=
    streamAddresses_reachable setting.address probed
  refine ⟨rfl, by simpa [announcement] using nonempty, ?_⟩
  intro url member
  obtain ⟨address, isAddress, rfl⟩ := List.mem_map.mp member
  exact ⟨address, rfl, each address isAddress⟩

end Announcing

/--
The announcements of the program, for every behaviour of the camera, of the
server with its connections, and of the user.
-/
theorem announcements_of_the_program
    (setting : Setting)
    (events : List Event) :
    AnnouncementRules setting
      ((Process.initial setting).run events) := by
  have inv := inv_run setting events
  generalize (Process.initial setting).run events = process at inv
  exact {
    once := inv.once
    when := fun watch response here => inv.announces_iff here response
    ready := inv.isSome_codec
    reachable := fun printed isPrinted => inv.reachable isPrinted
    routed := by
      intro printed isPrinted url isUrl thread isThread request named
      obtain ⟨_, _, each⟩ := inv.reachable isPrinted
      obtain ⟨address, rfl, _⟩ := each url isUrl
      have sameServer := inv.serves thread isThread
      have targeted : targets thread.connection.server.path request :=
        targets_of_streamUrl thread.connection.server.pathValid
          (by rw [named, sameServer])
      refine ⟨targeted, ?_⟩
      intro iteration session sameCodec reply member
      refine ⟨serve_status_ne_notFound targeted member, ?_⟩
      intro putOff
      have isSome := inv.isSome_codec (List.ne_nil_of_mem isPrinted)
      rw [← sameCodec, codec_of_serviceUnavailable member putOff] at isSome
      cases isSome }

end CamRtsp.Cli
