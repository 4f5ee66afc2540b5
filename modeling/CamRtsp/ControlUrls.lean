import CamRtsp.ControlStream
import CamRtsp.SessionMachine

namespace CamRtsp

open RustText

/-!
# Control URLs

A description gives its client a base for control URLs: the aggregate itself
and, relative to it, the only track.  The target check reads them back as paths
of the stream.
-/

/-- The Content-Base of a description. -/
def controlBase (connection : Connection) (uri : Text) : Text :=
  contentBase connection uri ++ ['/']

/-- The control URL of the track, resolved against the base. -/
def trackUrl (base : Text) : Text :=
  base ++ "trackID=0".toList

/-! ## Paths -/

section Path

variable {path : Text}

theorem trimEndMatches_ne_slash (path : Text) :
    trimEndMatches '/' path ≠ ['/'] := by
  intro isSlash
  have nonempty : trimEndMatches '/' path ≠ [] := by
    simp [isSlash]
  have kept :=
    List.rdropWhile_last_not (fun c => c == '/') path nonempty
  simp only [trimEndMatches] at isSlash
  simp [isSlash] at kept

/-- The path with one slash at its end. -/
theorem aggregateWithSlash_eq (path : Text) :
    aggregateWithSlash path = trimEndMatches '/' path ++ ['/'] := by
  by_cases isRoot : path = ['/']
  · subst isRoot
    rfl
  · have isAggregate : aggregate path = trimEndMatches '/' path :=
      if_neg isRoot
    rw [aggregateWithSlash, isAggregate,
      if_neg (trimEndMatches_ne_slash path)]

/-- A valid path begins with a slash and has no query. -/
theorem validPath_shape (valid : validPath path = true) :
    path.head? = some '/' ∧ '?' ∉ path := by
  simp only [validPath, Bool.and_eq_true, beq_iff_eq,
    Bool.not_eq_true', List.contains_eq_mem, decide_eq_false_iff_not]
    at valid
  exact ⟨valid.1.1.1.1, valid.1.1.1.2⟩

/-- The path keeps its first slash when one is put behind it. -/
theorem head?_aggregateWithSlash
    (valid : validPath path = true)
    (rest : Text) :
    (aggregateWithSlash path ++ rest).head? = some '/' := by
  rw [aggregateWithSlash_eq]
  cases trimmed : trimEndMatches '/' path with
  | nil =>
      rfl
  | cons first later =>
      have isPrefix : first :: later <+: path := by
        rw [← trimmed]
        exact List.rdropWhile_prefix _ _
      obtain ⟨tail, split⟩ := isPrefix
      have isHead := (validPath_shape valid).1
      rw [← split] at isHead
      simpa using isHead

theorem query_not_mem_aggregateWithSlash
    (valid : validPath path = true) :
    '?' ∉ aggregateWithSlash path := by
  rw [aggregateWithSlash_eq, List.mem_append, not_or]
  refine ⟨?_, by decide⟩
  intro member
  exact (validPath_shape valid).2
    ((List.rdropWhile_prefix _ _).subset member)

/-- The target check finds the path behind the authority. -/
theorem requestPath_authority
    {authority target : Text}
    (noSlash : '/' ∉ authority)
    (rooted : target.head? = some '/')
    (noQuery : '?' ∉ target) :
    requestPath ("rtsp://".toList ++ authority ++ target) =
      some target := by
  obtain ⟨rest, rfl⟩ := List.head?_eq_some_iff.mp rooted
  have stripped :
      stripPrefix "rtsp://".toList
          ("rtsp://".toList ++ authority ++ '/' :: rest) =
        some (authority ++ '/' :: rest) := by
    rw [stripPrefix_eq_some_iff, List.append_assoc]
  have found :
      (authority ++ '/' :: rest).dropWhile (· != '/') = '/' :: rest := by
    rw [List.dropWhile_append_of_pos]
    · simp
    · intro c member
      have notSlash : c ≠ '/' := fun same => noSlash (same ▸ member)
      simpa using notSlash
  have whole : ('/' :: rest).takeWhile (· != '?') = '/' :: rest := by
    rw [List.takeWhile_eq_self_iff]
    intro c member
    have notQuery : c ≠ '?' := fun same => noQuery (same ▸ member)
    simpa using notQuery
  rw [requestPath, stripped]
  simp [found, whole]

end Path

/-! ## The base -/

/-- A URI with an authority that names no user. -/
def WithoutUserInfo (uri : Text) : Prop :=
  ∃ authority path,
    uri = "rtsp://".toList ++ authority ++ path ∧
      path.head? = some '/' ∧ '/' ∉ authority ∧ '@' ∉ authority

section Base

variable {connection : Connection}
variable {uri : Text}

/-- The base is the path of the stream behind an authority. -/
theorem exists_authority (connection : Connection) (uri : Text) :
    ∃ authority,
      controlBase connection uri =
          "rtsp://".toList ++ authority ++
            aggregateWithSlash connection.server.path ∧
        '/' ∉ authority ∧ '@' ∉ authority := by
  unfold controlBase contentBase
  simp only
  split
  · rename_i rest _
    refine ⟨_, by rw [List.append_assoc, ← aggregateWithSlash_eq],
      ?_, ?_⟩
    · intro member
      have inside := (List.rtakeWhile_suffix _ _).subset member
      have kept := List.mem_takeWhile_imp inside
      simp at kept
    · intro member
      have kept := List.mem_rtakeWhile_imp member
      simp at kept
  · have within := socketDisplay_subset connection.localAddr
    refine ⟨_, by rw [List.append_assoc, ← aggregateWithSlash_eq],
      ?_, ?_⟩
    · intro member
      exact absurd (within member) (by decide)
    · intro member
      exact absurd (within member) (by decide)

/-- The base ends in a slash. -/
theorem getLast?_controlBase :
    (controlBase connection uri).getLast? = some '/' := by
  simp [controlBase]

theorem withoutUserInfo_controlBase :
    WithoutUserInfo (controlBase connection uri) := by
  obtain ⟨authority, baseEq, noSlash, noUser⟩ :=
    exists_authority connection uri
  have rooted :=
    head?_aggregateWithSlash connection.server.pathValid []
  rw [List.append_nil] at rooted
  exact ⟨authority, _, baseEq, rooted, noSlash, noUser⟩

/-- The base is read back as the path of the stream. -/
theorem requestPath_controlBase :
    requestPath (controlBase connection uri) =
      some (aggregateWithSlash connection.server.path) := by
  obtain ⟨authority, baseEq, noSlash, _⟩ :=
    exists_authority connection uri
  have valid := connection.server.pathValid
  have rooted := head?_aggregateWithSlash valid []
  rw [List.append_nil] at rooted
  rw [baseEq]
  exact requestPath_authority noSlash rooted
    (query_not_mem_aggregateWithSlash valid)

/-- The control URL of the track is read back as the path of the track. -/
theorem requestPath_trackUrl :
    requestPath (trackUrl (controlBase connection uri)) =
      some (track connection.server.path) := by
  obtain ⟨authority, baseEq, noSlash, _⟩ :=
    exists_authority connection uri
  have valid := connection.server.pathValid
  have noQuery : '?' ∉ track connection.server.path := by
    rw [track, List.mem_append, not_or]
    exact ⟨query_not_mem_aggregateWithSlash valid, by decide⟩
  rw [trackUrl, baseEq, List.append_assoc]
  exact requestPath_authority noSlash
    (head?_aggregateWithSlash valid _) noQuery

/-- Both control URLs pass the target check. -/
theorem targets_of_controlUrl
    {request : Request}
    (isControl :
      request.uri = controlBase connection uri ∨
        request.uri = trackUrl (controlBase connection uri)) :
    targets connection.server.path request := by
  rcases isControl with isBase | isTrack
  · exact .inr (.inr (.inl (by rw [isBase, requestPath_controlBase])))
  · exact .inr (.inr (.inr (by rw [isTrack, requestPath_trackUrl])))

end Base

/-! ## Answers -/

section Answer

variable {connection : Connection}
variable {iteration : Iteration}
variable {session : Session}
variable {request : Request}
variable {handled : Handled}
variable {reply : Response}

/-- The method match never answers that a stream is not found. -/
theorem Dispatched.status_ne_notFound
    (dispatched :
      Dispatched connection iteration session request handled)
    (member : .response reply ∈ handled.sends) :
    reply.status ≠ .notFound := by
  cases dispatched with
  | described _ codec _ =>
      cases List.mem_singleton.mp member
      exact Status.noConfusion
  | setUpFailed _ _ _ =>
      cases member
  | tornDown _ delivery _ =>
      rcases List.mem_cons.mp member with isReply | isBye
      · cases isReply
        exact Status.noConfusion
      · cases List.mem_singleton.mp isBye
  | _ =>
      rw [status_of_mem_answer member]
      exact Status.noConfusion

/-- Only a request that does not name the stream is answered so. -/
theorem serve_status_ne_notFound
    (targeted : targets connection.server.path request)
    (member :
      .response reply ∈
        (serve connection iteration session request).sends) :
    reply.status ≠ .notFound := by
  unfold serve at member
  simp only [targeted, not_true_eq_false, if_false] at member
  split at member
  · rw [status_of_mem_answer member]
    exact Status.noConfusion
  split at member
  · rw [status_of_mem_answer member]
    exact Status.noConfusion
  · exact (dispatch_dispatched _ _ _ _).status_ne_notFound member

/-- A description is put off only while there are no parameter sets. -/
theorem codec_of_serviceUnavailable
    (member :
      .response reply ∈
        (serve connection iteration session request).sends)
    (putOff : reply.status = .serviceUnavailable) :
    iteration.codec = none := by
  have served := serve_served connection iteration session request
  generalize serve connection iteration session request = handled
    at served member
  cases served with
  | unauthorized =>
      rw [status_of_mem_answer member] at putOff
      cases putOff
  | refused _ status failing =>
      rw [status_of_mem_answer member] at putOff
      rcases failing with rfl | rfl <;> cases putOff
  | admitted _ dispatched =>
      cases dispatched with
      | unavailable _ unpublished =>
          exact unpublished
      | described _ codec _ =>
          cases List.mem_singleton.mp member
          cases putOff
      | setUpFailed _ _ _ =>
          cases member
      | tornDown _ delivery _ =>
          rcases List.mem_cons.mp member with isReply | isBye
          · cases isReply
            cases putOff
          · cases List.mem_singleton.mp isBye
      | _ =>
          rw [status_of_mem_answer member] at putOff
          cases putOff

/-- A DESCRIBE request is answered with success by a description only. -/
theorem Served.description_of_ok
    (served : Served connection iteration session request handled)
    (named : request.method = "DESCRIBE".toList)
    (member : .response reply ∈ handled.sends)
    (ok : reply.status = .ok) :
    ∃ codec, reply = description connection iteration request codec := by
  obtain ⟨_, dispatched⟩ := served.admitted_of_ok member ok
  cases dispatched with
  | described _ codec _ =>
      cases List.mem_singleton.mp member
      exact ⟨codec, rfl⟩
  | unavailable _ _ =>
      rw [status_of_mem_answer member] at ok
      cases ok
  | notValid =>
      rw [status_of_mem_answer member] at ok
      cases ok
  | _ other =>
      exact absurd (named.symm.trans other) (by decide)

end Answer

/-- The base and the track URL lead every later request to the stream. -/
structure RoutesBack (server : ServerConfig) (base : Text) : Prop where
  slash : base.getLast? = some '/'
  withoutUserInfo : WithoutUserInfo base
  accepted :
    ∀ request : Request,
      request.uri = base ∨ request.uri = trackUrl base →
        targets server.path request
  neverNotFound :
    ∀ (connection : Connection) (session : Session) (input : Bytes)
      (reads : List (ReadOutcome × Iteration)),
      connection.server = server →
        ∀ transition ∈ (handle connection session input reads).1,
          ∀ request ∈ transition.request,
            request.uri = base ∨ request.uri = trackUrl base →
              ∀ reply ∈ transition.responses, reply.status ≠ .notFound

/-- The control lines of a session description. -/
structure ListsControls (body : Text) : Prop where
  aggregate : "a=control:*".toList ++ ['\r', '\n'] <:+: body
  media : "a=control:trackID=0".toList ++ ['\r', '\n'] <:+: body

/-- A session description lists both controls. -/
theorem listsControls_sdp
    (crates : Crates)
    (rate : Option (UInt32 × UInt32))
    (codec : CodecConfig) :
    ListsControls (sdp crates rate codec) := by
  obtain ⟨sps, pps, profile, constraints, level⟩ := codec
  constructor
  · change _ <:+: (_ ++ "a=control:*".toList) ++ ['\r', '\n'] ++
      _ ++ _ ++ _ ++ _ ++ _ ++ _ ++ _ ++ _ ++ _ ++ _ ++ _ ++ _ ++ _ ++
      _ ++ _
    iterate 15 apply List.infix_append_of_infix_left
    rw [List.append_assoc]
    exact List.infix_append_right
  · change _ <:+: (_ ++ "a=control:trackID=0".toList) ++ ['\r', '\n']
    rw [List.append_assoc]
    exact List.infix_append_right

/-- What a client can rely on about the controls of a description. -/
structure ControlUrlRules
    (connection : Connection)
    (session : Session)
    (input : Bytes)
    (reads : List (ReadOutcome × Iteration)) : Prop where
  advertised :
    ∀ transition ∈ (handle connection session input reads).1,
      ∀ request ∈ transition.request,
        request.method = "DESCRIBE".toList →
          ∀ reply ∈ transition.responses, reply.status = .ok →
            ListsControls reply.body ∧
            ∃ base,
              reply.headers =
                  ["Content-Type: application/sdp".toList,
                    "Content-Base: ".toList ++ base] ∧
                RoutesBack connection.server base

/-- Transitions of a run are iterations of the loop. -/
theorem exists_of_mem_handle
    {connection : Connection}
    {session : Session}
    {input : Bytes}
    {reads : List (ReadOutcome × Iteration)} :
    ∀ transition ∈ (handle connection session input reads).1,
      ∃ before request iteration,
        transition = .of connection before request iteration := by
  obtain ⟨_, runs⟩ := (handle_runs connection session input reads).1
  exact runs.forall_transitions (fun _ => True)
    (fun _ _ => trivial) (fun _ => ⟨_, _, _, rfl⟩) trivial

/-- The base of a description routes back. -/
theorem routesBack_controlBase
    (connection : Connection)
    (uri : Text) :
    RoutesBack connection.server (controlBase connection uri) where
  slash := getLast?_controlBase
  withoutUserInfo := withoutUserInfo_controlBase
  accepted := fun _ isControl => targets_of_controlUrl isControl
  neverNotFound := by
    intro later session input reads sameServer transition member request
      asked isControl reply replied
    obtain ⟨before, served, iteration, rfl⟩ :=
      exists_of_mem_handle transition member
    obtain rfl : served = some request := asked
    have targeted := targets_of_controlUrl isControl
    rw [← sameServer] at targeted
    exact serve_status_ne_notFound targeted
      (mem_served_of_mem_responses replied)

/--
The Content-Base of every description and the track URL below it pass the
target check of every later request to the same server.
-/
theorem control_urls_route_back
    (connection : Connection)
    (session : Session)
    (input : Bytes)
    (reads : List (ReadOutcome × Iteration)) :
    ControlUrlRules connection session input reads where
  advertised := by
    intro transition member request asked named reply replied ok
    obtain ⟨before, served, iteration, rfl⟩ :=
      exists_of_mem_handle transition member
    obtain rfl : served = some request := asked
    obtain ⟨codec, rfl⟩ :=
      (serve_served connection iteration before
        request).description_of_ok named
        (mem_served_of_mem_responses replied) ok
    refine ⟨listsControls_sdp _ _ _,
      controlBase connection request.uri, ?_,
      routesBack_controlBase connection request.uri⟩
    simp [description, controlBase]

end CamRtsp
