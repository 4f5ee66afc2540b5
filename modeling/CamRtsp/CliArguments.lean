import CamRtsp.CliProcess

namespace CamRtsp.Cli

open RustText

/-!
# The arguments of the command line program

The value parsers accept exactly the texts that say a value in range, and what
they accept passes every later check of the values: behind an accepted command
line the start-up fails for reasons outside, or for empty credentials.
-/

/-! ## Numbers -/

/-- A `u32` is read from its numerals. -/
theorem parseU32_eq_some_iff {text : Text} {number : UInt32} :
    parseU32 text = some number ↔ IsNumeral text number.toNat := by
  rw [parseU32, Option.map_eq_some_iff]
  constructor
  · rintro ⟨value, read, rfl⟩
    obtain ⟨numeral, below⟩ := fromStrRadix_eq_some_iff.mp read
    rwa [UInt32.toNat_ofNat_of_lt' below]
  · intro numeral
    exact ⟨number.toNat,
      fromStrRadix_eq_some_iff.mpr ⟨numeral, number.toNat_lt⟩,
      UInt32.ofNat_toNat⟩

/-- A number in range is read from its numerals. -/
theorem ranged_eq_some_iff
    {low high : Nat}
    (small : high < 2 ^ 32)
    {text : Text}
    {number : UInt32} :
    ranged low high text = some number ↔
      IsNumeral text number.toNat ∧
        low ≤ number.toNat ∧ number.toNat ≤ high := by
  rw [ranged, Option.map_eq_some_iff]
  constructor
  · rintro ⟨value, read, rfl⟩
    obtain ⟨parsed, inRange⟩ := Option.filter_eq_some_iff.mp read
    obtain ⟨atLeast, atMost⟩ := of_decide_eq_true inRange
    obtain ⟨numeral, _⟩ := fromStrRadix_eq_some_iff.mp parsed
    rw [UInt32.toNat_ofNat_of_lt' (atMost.trans_lt small)]
    exact ⟨numeral, atLeast, atMost⟩
  · rintro ⟨numeral, inRange⟩
    refine ⟨number.toNat, ?_, UInt32.ofNat_toNat⟩
    have below : number.toNat < 2 ^ 63 := by
      have := number.toNat_lt
      omega
    exact Option.filter_eq_some_iff.mpr
      ⟨fromStrRadix_eq_some_iff.mpr ⟨numeral, below⟩,
        decide_eq_true inRange⟩

/-! ## The value parsers -/

/-- The bounds of a dimension. -/
theorem isDimension_iff {number : UInt32} :
    isDimension number = true ↔
      1 ≤ number.toNat ∧ number.toNat ≤ 16384 := by
  rw [isDimension, decide_eq_true_eq, UInt32.le_iff_toNat_le,
    UInt32.le_iff_toNat_le]
  rfl

/-- A resolution is two dimensions with an `x` between them. -/
theorem resolution_eq_ok_iff {value : Text} {width height : UInt32} :
    resolution value = .ok (width, height) ↔
      ∃ first second,
        value = first ++ 'x' :: second ∧
          (IsNumeral first width.toNat ∧
            IsNumeral second height.toNat) ∧
          (1 ≤ width.toNat ∧ width.toNat ≤ 16384) ∧
            1 ≤ height.toNat ∧ height.toNat ≤ 16384 := by
  have outcome :
      resolution value = .ok (width, height) ↔
        (∃ first second,
          splitOnce 'x' value = some (first, second) ∧
            parseU32 first = some width ∧
              parseU32 second = some height) ∧
          isDimension width = true ∧ isDimension height = true := by
    rw [resolution]
    simp only
    constructor
    · intro accepted
      split at accepted
      · rename_i both parsed
        cases accepted
        obtain ⟨read, inRange⟩ := Option.filter_eq_some_iff.mp parsed
        obtain ⟨⟨first, second⟩, split, read⟩ :=
          Option.bind_eq_some_iff.mp read
        obtain ⟨_, widthRead, read⟩ := Option.bind_eq_some_iff.mp read
        obtain ⟨_, heightRead, isBoth⟩ := Option.map_eq_some_iff.mp read
        cases isBoth
        exact ⟨⟨first, second, split, widthRead, heightRead⟩,
          Bool.and_eq_true_iff.mp inRange⟩
      · cases accepted
    · rintro ⟨⟨first, second, split, widthRead, heightRead⟩, wide, high⟩
      have parsed :
          Option.filter
              (fun both : UInt32 × UInt32 =>
                isDimension both.1 && isDimension both.2)
              (some (width, height)) =
            some (width, height) :=
        Option.filter_eq_some_iff.mpr ⟨rfl, by rw [wide, high]; rfl⟩
      simp only [split, Option.bind_some, widthRead, heightRead,
        Option.map_some, parsed]
  rw [outcome, isDimension_iff, isDimension_iff]
  simp only [parseU32_eq_some_iff]
  constructor
  · rintro ⟨⟨first, second, split, numerals⟩, inRange⟩
    exact ⟨first, second, (splitOnce_some split).1, numerals, inRange⟩
  · rintro ⟨first, second, rfl, numerals, inRange⟩
    refine ⟨⟨first, second, splitOnce_append ?_, numerals⟩, inRange⟩
    obtain ⟨digits, isText, _, isDigit, _⟩ := numerals.1
    intro member
    rcases isText with rfl | rfl
    · exact absurd (isDigit 'x' member) (by decide)
    · rcases List.mem_cons.mp member with isPlus | inside
      · exact absurd isPlus (by decide)
      · exact absurd (isDigit 'x' inside) (by decide)

/-- A numeral is not the word `auto`. -/
theorem not_auto_of_isNumeral
    {value : Text}
    {number : Nat}
    (numeral : IsNumeral value number) :
    eqIgnoreAsciiCase value "auto".toList = false := by
  obtain ⟨digits, isText, nonempty, isDigit, _⟩ := numeral
  rw [eqIgnoreAsciiCase, beq_eq_false_iff_ne]
  intro same
  have lowerDigit
      {c : Char}
      (digit : c.isDigit = true) :
      c.toLower = c := by
    simp only [Char.isDigit, Bool.and_eq_true, decide_eq_true_eq,
      ge_iff_le] at digit
    refine dif_neg ?_
    intro upper
    have below := UInt32.le_iff_toNat_le.mp digit.2
    have above := UInt32.le_iff_toNat_le.mp upper.1
    exact absurd (above.trans below) (by decide)
  rcases isText with rfl | rfl
  · obtain ⟨first, rest, rfl⟩ := List.exists_cons_of_ne_nil nonempty
    have digit := isDigit first List.mem_cons_self
    have isA : first.toLower = 'a' := (List.cons.inj same).1
    rw [lowerDigit digit] at isA
    rw [isA] at digit
    exact absurd digit (by decide)
  · exact absurd (List.cons.inj same).1 (by decide)

/-- A bit rate is the word `auto` or a number in range. -/
theorem bitrate_eq_ok_iff {value : Text} {mode : BitrateMode} :
    bitrate value = .ok mode ↔
      (eqIgnoreAsciiCase value "auto".toList = true ∧ mode = .auto) ∨
        ∃ bits, mode = .bitsPerSecond bits ∧
          IsNumeral value bits.toNat ∧
            1 ≤ bits.toNat ∧ bits.toNat ≤ 2147483647 := by
  have inRange (bits : UInt32) :
      (0 < bits ∧ bits ≤ 2147483647) ↔
        1 ≤ bits.toNat ∧ bits.toNat ≤ 2147483647 := by
    rw [UInt32.lt_iff_toNat_lt, UInt32.le_iff_toNat_le]
    exact .rfl
  rw [bitrate]
  constructor
  · intro accepted
    split at accepted
    · rename_i isAuto
      cases accepted
      exact .inl ⟨isAuto, rfl⟩
    · split at accepted
      · rename_i bits parsed
        cases accepted
        obtain ⟨read, bounded⟩ := Option.filter_eq_some_iff.mp parsed
        exact .inr ⟨bits, rfl, parseU32_eq_some_iff.mp read,
          (inRange bits).mp (of_decide_eq_true bounded)⟩
      · cases accepted
  · rintro (⟨isAuto, rfl⟩ | ⟨bits, rfl, numeral, bounded⟩)
    · rw [if_pos isAuto]
    · have parsed :
          (parseU32 value).filter
              (fun bits => decide (0 < bits ∧ bits ≤ 2147483647)) =
            some bits :=
        Option.filter_eq_some_iff.mpr
          ⟨parseU32_eq_some_iff.mpr numeral,
            decide_eq_true ((inRange bits).mpr bounded)⟩
      rw [not_auto_of_isNumeral numeral, if_neg Bool.false_ne_true, parsed]

/-- A path is taken as it is. -/
theorem streamPath_eq_ok_iff {value path : Text} :
    streamPath value = .ok path ↔ path = value ∧ validPath value = true := by
  rw [streamPath]
  split
  · rename_i valid
    constructor
    · rintro ⟨⟩
      exact ⟨rfl, valid⟩
    · rintro ⟨rfl, _⟩
      rfl
  · rename_i invalid
    refine iff_of_false (fun accepted => by cases accepted) ?_
    exact fun both => invalid both.2

/-! ## The whole command line -/

/-- What the camera and the server ask of the arguments. -/
structure Args.Fits (args : Args) : Prop where
  config : args.config.validate = .ok ()
  path : validPath args.path = true
  both : args.username.isSome = args.password.isSome

/-- A bit rate that is not rejected is in range. -/
theorem rejected_eq_false_iff {bits : UInt32} :
    (BitrateMode.bitsPerSecond bits).rejected = false ↔
      1 ≤ bits.toNat ∧ bits.toNat ≤ 2147483647 := by
  simp only [BitrateMode.rejected, Bool.or_eq_false_iff,
    beq_eq_false_iff_ne, decide_eq_false_iff_not, ne_eq,
    ← UInt32.toNat_inj, UInt32.lt_iff_toNat_lt, UInt32.reduceToNat]
  omega

/-- What `StreamConfig::validate` accepts. -/
theorem validate_eq_ok_iff {config : StreamConfig} :
    config.validate = .ok () ↔
      (1 ≤ config.requestedWidth.toNat ∧
        config.requestedWidth.toNat ≤ 16384) ∧
      (1 ≤ config.requestedHeight.toNat ∧
        config.requestedHeight.toNat ≤ 16384) ∧
      (1 ≤ config.requestedFps.toNat ∧
        config.requestedFps.toNat ≤ 240) ∧
      (1 ≤ config.gopSeconds.toNat ∧ config.gopSeconds.toNat ≤ 60) ∧
        config.bitrate.rejected = false := by
  rw [StreamConfig.validate]
  simp only [UInt32.le_iff_toNat_le, UInt32.reduceToNat]
  split
  · rename_i outside
    refine iff_of_false (fun accepted => by cases accepted) ?_
    rintro ⟨width, height, fps, gop, bitrate⟩
    rw [bitrate] at outside
    simp [width, height, fps, gop] at outside
  · rename_i inside
    simp only [not_or, not_not, Bool.not_eq_true] at inside
    exact iff_of_true rfl inside

/-- The values of accepted arguments have been accepted by their parsers. -/
theorem parse_eq_some_iff {words : Words} {args : Args} :
    words.parse = some args ↔
      resolution words.resolution = .ok args.resolution ∧
      ranged 1 240 words.fps = some args.fps ∧
      bitrate words.bitrate = .ok args.bitrate ∧
      ranged 1 60 words.gop = some args.gop ∧
      streamPath words.path = .ok args.path ∧
      words.username.isSome = words.password.isSome ∧
      args =
        { args with
          command := words.command
          camera := words.camera
          bind := words.bind
          transport := words.transport
          username := words.username
          password := words.password } := by
  have toOption {α : Type} (result : Except Text α) (value : α) :
      result.toOption = some value ↔ result = .ok value := by
    cases result <;> simp [Except.toOption]
  simp only [Words.parse, bind, Option.bind_eq_some_iff, toOption]
  constructor
  · rintro ⟨size, sized, fps, paced, rate, rated, gop, spaced, path,
      routed, parsed⟩
    split at parsed
    · cases parsed
    · rename_i both
      cases parsed
      exact ⟨sized, paced, rated, spaced, routed, by simpa using both, rfl⟩
  · rintro ⟨sized, paced, rated, spaced, routed, both, same⟩
    refine ⟨_, sized, _, paced, _, rated, _, spaced, _, routed, ?_⟩
    rw [both]
    simp only [bne_self_eq_false, Bool.false_eq_true, if_false]
    exact congrArg some same.symm

/-- Accepted arguments fit. -/
theorem fits_of_parse
    {words : Words}
    {args : Args}
    (parsed : words.parse = some args) :
    args.Fits := by
  obtain ⟨sized, paced, rated, spaced, routed, both, same⟩ :=
    parse_eq_some_iff.mp parsed
  obtain ⟨_, _, _, _, wide, high⟩ := resolution_eq_ok_iff.mp sized
  obtain ⟨_, fps⟩ := (ranged_eq_some_iff (by decide)).mp paced
  obtain ⟨_, gop⟩ := (ranged_eq_some_iff (by decide)).mp spaced
  obtain ⟨isPath, valid⟩ := streamPath_eq_ok_iff.mp routed
  refine ⟨validate_eq_ok_iff.mpr ⟨wide, high, fps, gop, ?_⟩,
    by rwa [isPath], by rw [same]; exact both⟩
  change args.bitrate.rejected = false
  rcases bitrate_eq_ok_iff.mp rated with ⟨_, isRate⟩ | ⟨_, isRate, _, inRange⟩
  · rw [isRate]
    rfl
  · rw [isRate]
    exact rejected_eq_false_iff.mpr inRange

/-- A bit rate as it is written. -/
def BitrateMode.text : BitrateMode → Text
  | .auto => "auto".toList
  | .bitsPerSecond bits => decimal bits.toNat

/-- The command line that says the arguments. -/
def Args.words (args : Args) : Words where
  command := args.command
  camera := args.camera
  resolution :=
    decimal args.resolution.1.toNat ++
      'x' :: decimal args.resolution.2.toNat
  fps := decimal args.fps.toNat
  bitrate := BitrateMode.text args.bitrate
  gop := decimal args.gop.toNat
  bind := args.bind
  path := args.path
  transport := args.transport
  username := args.username
  password := args.password

/-- Arguments that fit can be given. -/
theorem parse_words {args : Args} (fits : args.Fits) :
    args.words.parse = some args := by
  obtain ⟨wide, high, fps, gop, rate⟩ := validate_eq_ok_iff.mp fits.config
  refine parse_eq_some_iff.mpr ⟨?_, ?_, ?_, ?_, ?_, fits.both, rfl⟩
  · exact resolution_eq_ok_iff.mpr
      ⟨_, _, rfl, ⟨isNumeral_decimal _, isNumeral_decimal _⟩, wide, high⟩
  · exact (ranged_eq_some_iff (by decide)).mpr ⟨isNumeral_decimal _, fps⟩
  · refine bitrate_eq_ok_iff.mpr ?_
    cases isRate : args.bitrate with
    | auto =>
        refine .inl ⟨?_, rfl⟩
        simp only [Args.words, isRate]
        decide
    | bitsPerSecond bits =>
        change args.bitrate.rejected = false at rate
        rw [isRate] at rate
        refine .inr ⟨bits, rfl, ?_, rejected_eq_false_iff.mp rate⟩
        simp only [Args.words, isRate]
        exact isNumeral_decimal _
  · exact (ranged_eq_some_iff (by decide)).mpr ⟨isNumeral_decimal _, gop⟩
  · exact streamPath_eq_ok_iff.mpr ⟨rfl, fits.path⟩

/-! ## The start-up -/

/-- Why the start-up of fitting arguments fails. -/
inductive Refusal (startUp : StartUp) (args : Args) : Failure → Prop where
  | enumerate
      (message : Text)
      (failed : startUp.enumerated = .error message) :
      Refusal startUp args (.camera message)
  | notFound
      (message : Text)
      (devices : List CameraDescriptor)
      (listed : startUp.enumerated = .ok devices)
      (absent : args.chosen devices = none) :
      Refusal startUp args (.text message)
  | credentials
      (error : IoError)
      (both : Credentials)
      (given : args.credentials = some both)
      (empty : both.username = [] ∨ both.password = []) :
      Refusal startUp args (.io error)
  | listener
      (error : IoError)
      (failed : startUp.listener = .error error) :
      Refusal startUp args (.io error)
  | address
      (error : IoError)
      (failed : startUp.localAddr = .error error) :
      Refusal startUp args (.io error)

/-- The setting is what the arguments say. -/
structure Prepared
    (startUp : StartUp)
    (args : Args)
    (setting : Setting) : Prop where
  camera :
    ∃ devices, startUp.enumerated = .ok devices ∧
      args.chosen devices = some setting.camera
  config : setting.config = args.config
  source : setting.source = (Process.initial setting).system.broadcaster
  path : setting.server.path = args.path
  credentials : setting.server.credentials = args.credentials
  transport : setting.server.transportPolicy = args.transport
  address : startUp.localAddr = .ok setting.address

section StartUp

variable {crates : Crates}
variable {startUp : StartUp}
variable {args : Args}

/-- A named camera has the id, or else the number, that was given. -/
theorem chosen_eq_some_iff
    {devices : List CameraDescriptor}
    {camera : CameraDescriptor} :
    args.chosen devices = some camera ↔
      devices.find? (fun device => device.id == args.camera) =
          some camera ∨
        (∀ device ∈ devices, device.id ≠ args.camera) ∧
          ∃ index, IsNumeral args.camera index ∧
            index < usizeBound ∧ devices[index]? = some camera := by
  rw [Args.chosen, Option.or_eq_some_iff, List.find?_eq_none]
  simp only [Option.bind_eq_some_iff, fromStrRadix_eq_some_iff, and_assoc,
    beq_iff_eq, ne_eq]

/-- A server that is bound is bound as asked. -/
theorem bindWithTransport_eq_ok
    {listener : Except IoError Unit}
    {path : Text}
    {source : Broadcaster}
    {fps : UInt32}
    {credentials : Option Credentials}
    {transport : TransportPolicy}
    {server : BoundServer}
    (bound :
      bindWithTransport listener path source fps credentials transport =
        .ok server) :
    server.path = path ∧ server.source = source.setFrameRate fps 1 ∧
      server.credentials = credentials ∧ server.transport = transport := by
  rw [bindWithTransport] at bound
  split at bound
  · cases bound
  · cases listener with
    | error error =>
        cases bound
    | ok _ =>
        cases bound
        exact ⟨rfl, rfl, rfl, rfl⟩

/-- A server with a valid path fails for its credentials or its listener. -/
theorem refusal_of_bindWithTransport
    (valid : validPath args.path = true)
    {error : IoError}
    (failed :
      bindWithTransport startUp.listener args.path .initial args.fps
          args.credentials args.transport =
        .error error) :
    Refusal startUp args (.io error) := by
  rw [bindWithTransport] at failed
  split at failed
  · rename_i unacceptable
    rw [valid, Bool.not_true, Bool.false_or, Option.any_eq_true]
      at unacceptable
    obtain ⟨both, given, empty⟩ := unacceptable
    refine .credentials error both given ?_
    simpa using empty
  · cases listened : startUp.listener with
    | error error =>
        rw [listened] at failed
        cases failed
        exact .listener error listened
    | ok _ =>
        rw [listened] at failed
        cases failed

/-- A server with a valid path is bound as asked, or there is a reason. -/
theorem bindServer_outcome (valid : validPath args.path = true) :
    (∃ error, bindServer crates startUp args = .error error ∧
        Refusal startUp args (.io error)) ∨
      ∃ server address,
        bindServer crates startUp args =
            .ok (Broadcaster.initial.setFrameRate args.fps 1, server,
              address) ∧
          server.path = args.path ∧
            server.credentials = args.credentials ∧
              server.transportPolicy = args.transport ∧
                startUp.localAddr = .ok address := by
  unfold bindServer
  split
  · rename_i error failed
    exact .inl ⟨error, rfl, refusal_of_bindWithTransport valid failed⟩
  · rename_i server bound
    obtain ⟨path, source, credentials, transport⟩ :=
      bindWithTransport_eq_ok bound
    cases addressed : startUp.localAddr with
    | error error =>
        exact .inl ⟨error, rfl, .address error addressed⟩
    | ok address =>
        let config : ServerConfig := {
          crates := crates
          path := server.path
          pathValid := validPath_of_bindWithTransport bound
          credentials := server.credentials
          transportPolicy := server.transport }
        refine .inr
          ⟨config, address, ?_, path, credentials, transport, rfl⟩
        rw [Except.map, source]

/-- How the start-up of fitting arguments ends. -/
inductive Outcome (startUp : StartUp) (args : Args) :
    Except (Except Failure Unit) Setting → Prop where
  | listed
      (devices : List CameraDescriptor)
      (json : Bool)
      (enumerated : startUp.enumerated = .ok devices)
      (asked : args.command = some (.devices json)) :
      Outcome startUp args (.error (.ok ()))
  | refused
      (failure : Failure)
      (refusal : Refusal startUp args failure) :
      Outcome startUp args (.error (.error failure))
  | prepared
      (setting : Setting)
      (asked : args.command = none)
      (prepared : Prepared startUp args setting) :
      Outcome startUp args (.ok setting)

/-- The start-up of fitting arguments. -/
theorem prepare_outcome (fits : args.Fits) :
    Outcome startUp args (prepare crates startUp args) := by
  unfold prepare
  split
  · rename_i message failed
    exact .refused _ (.enumerate message failed)
  · rename_i devices enumerated
    split
    · rename_i json asked
      exact .listed devices json enumerated asked
    · rename_i asked
      split
      · rename_i absent
        exact .refused _ (.notFound _ devices enumerated absent)
      · rename_i camera named
        rw [fits.config]
        rcases bindServer_outcome fits.path with
          ⟨error, bound, refusal⟩ |
            ⟨server, address, bound, path, credentials, transport,
              addressed⟩
        · rw [bound]
          exact .refused _ refusal
        · rw [bound]
          exact .prepared _ asked
            ⟨⟨devices, enumerated, named⟩, rfl, rfl, path, credentials,
              transport, addressed⟩

end StartUp

/-- What holds of the arguments and of the start-up with them. -/
structure ArgumentRules : Prop where
  resolution :
    ∀ (value : Text) (width height : UInt32),
      resolution value = .ok (width, height) ↔
        ∃ first second,
          value = first ++ 'x' :: second ∧
            (IsNumeral first width.toNat ∧
              IsNumeral second height.toNat) ∧
            (1 ≤ width.toNat ∧ width.toNat ≤ 16384) ∧
              1 ≤ height.toNat ∧ height.toNat ≤ 16384
  bitrate :
    ∀ (value : Text) (mode : BitrateMode),
      bitrate value = .ok mode ↔
        (eqIgnoreAsciiCase value "auto".toList = true ∧ mode = .auto) ∨
          ∃ bits, mode = .bitsPerSecond bits ∧
            IsNumeral value bits.toNat ∧
              1 ≤ bits.toNat ∧ bits.toNat ≤ 2147483647
  fits :
    ∀ args : Args, (∃ words : Words, words.parse = some args) ↔ args.Fits
  written :
    ∀ args : Args, args.Fits → args.words.parse = some args
  chosen :
    ∀ (args : Args) (devices : List CameraDescriptor)
        (camera : CameraDescriptor),
      args.chosen devices = some camera ↔
        devices.find? (fun device => device.id == args.camera) =
            some camera ∨
          (∀ device ∈ devices, device.id ≠ args.camera) ∧
            ∃ index, IsNumeral args.camera index ∧
              index < usizeBound ∧ devices[index]? = some camera
  startUp :
    ∀ (crates : Crates) (startUp : StartUp) (args : Args) (words : Words),
      words.parse = some args →
        Outcome startUp args (prepare crates startUp args)

/--
The value parsers accept exactly the texts that say a value in range; the
arguments that can be given are exactly those that the camera's check and the
server's check let pass, and they can be written out and read back; so behind
the parsers the start-up fails for reasons outside, or for empty credentials.
-/
theorem arguments_of_the_program : ArgumentRules where
  resolution := fun _ _ _ => resolution_eq_ok_iff
  bitrate := fun _ _ => bitrate_eq_ok_iff
  fits := fun args =>
    ⟨fun ⟨_, parsed⟩ => fits_of_parse parsed,
      fun fits => ⟨args.words, parse_words fits⟩⟩
  written := fun _ fits => parse_words fits
  chosen := fun _ _ _ => chosen_eq_some_iff
  startUp := fun _ _ _ _ parsed => prepare_outcome (fits_of_parse parsed)

end CamRtsp.Cli
