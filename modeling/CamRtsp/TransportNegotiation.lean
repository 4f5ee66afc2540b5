import CamRtsp.PlayPause
import CamRtsp.ResponseTexts

namespace CamRtsp

open RustText

/-!
# What transport negotiation selects

A client lists alternatives in the order it prefers them.  An alternative
offers channels or ports, whatever the server can bind; it is usable when the
server can also serve it.
-/

/-! ## What an alternative offers -/

/-- The parts of an alternative, without case and surrounding whitespace. -/
def parts (alternative : Text) : List Text :=
  ((toAsciiLowercase alternative).splitOn ';').map trim

/-- The first parameter with the key has the value. -/
def HasParameter (alternative : Text) (key : String) (value : Text) : Prop :=
  ∃ earlier later,
    parts alternative =
      earlier ++ (key.toList ++ '=' :: value) :: later ∧
    ∀ part ∈ earlier, ¬ key.toList ++ ['='] <+: part

/-- No parameter has the key. -/
def LacksParameter (alternative : Text) (key : String) : Prop :=
  ∀ part ∈ parts alternative, ¬ key.toList ++ ['='] <+: part

/-- Two numerals with a hyphen between them. -/
def IsPair (value : Text) (first second : Nat) : Prop :=
  ∃ front back, value = front ++ '-' :: back ∧
    IsNumeral front first ∧ IsNumeral back second

/-- Channels of the control connection or ports of the client. -/
inductive Offer where
  | channels (rtp rtcp : UInt8)
  | ports (rtp rtcp : UInt16)
  deriving Repr, DecidableEq

/-- The alternative offers these channels or ports, and the policy allows it. -/
inductive Offers
    (policy : TransportPolicy)
    (alternative : Text) : Offer → Prop where
  | implied
      (unicast : "multicast".toList ∉ parts alternative)
      (protocol : (parts alternative).head? = some "rtp/avp/tcp".toList)
      (allowed : policy ≠ .udp)
      (absent : LacksParameter alternative "interleaved") :
      Offers policy alternative (.channels 0 1)
  | interleaved
      (unicast : "multicast".toList ∉ parts alternative)
      (protocol : (parts alternative).head? = some "rtp/avp/tcp".toList)
      (allowed : policy ≠ .udp)
      {value : Text}
      (found : HasParameter alternative "interleaved" value)
      {rtp rtcp : UInt8}
      (pair : IsPair value rtp.toNat rtcp.toNat)
      (distinct : rtp ≠ rtcp) :
      Offers policy alternative (.channels rtp rtcp)
  | clientPort
      (unicast : "multicast".toList ∉ parts alternative)
      (protocol :
        (parts alternative).head? = some "rtp/avp".toList ∨
          (parts alternative).head? = some "rtp/avp/udp".toList)
      (allowed : policy ≠ .tcp)
      {value : Text}
      (found : HasParameter alternative "client_port" value)
      {rtp rtcp : UInt16}
      (pair : IsPair value rtp.toNat rtcp.toNat)
      (nonzero : rtp ≠ 0 ∧ rtcp ≠ 0)
      (distinct : rtp ≠ rtcp) :
      Offers policy alternative (.ports rtp rtcp)

/-- The first pair of adjacent ports in the range that can both be bound. -/
structure FreePair
    (localIp : IpAddr)
    (canBind : UInt16 → Bool)
    (rtp rtcp : UdpSocket) : Prop where
  local_ip : rtp.ip = localIp ∧ rtcp.ip = localIp
  adjacent : rtcp.port = rtp.port + 1
  bindable : canBind rtp.port = true ∧ canBind rtcp.port = true
  first :
    ∃ index < 5000, rtp.port = UInt16.ofNat (50000 + 2 * index) ∧
      ∀ earlier < index,
        canBind (UInt16.ofNat (50000 + 2 * earlier)) = false ∨
          canBind (UInt16.ofNat (50000 + 2 * earlier) + 1) = false

/-- Some pair of adjacent ports in the range can be bound. -/
def PairBindable (canBind : UInt16 → Bool) : Prop :=
  ∃ index < 5000,
    canBind (UInt16.ofNat (50000 + 2 * index)) = true ∧
      canBind (UInt16.ofNat (50000 + 2 * index) + 1) = true

/-- The alternative is usable, and this is its delivery. -/
inductive Usable
    (clientIp localIp : IpAddr)
    (policy : TransportPolicy)
    (canBind : UInt16 → Bool)
    (alternative : Text) : Delivery → Prop where
  | tcp
      {rtp rtcp : UInt8}
      (offers : Offers policy alternative (.channels rtp rtcp)) :
      Usable clientIp localIp policy canBind alternative (.tcp rtp rtcp)
  | udp
      {clientRtp clientRtcp : UInt16}
      {rtp rtcp : UdpSocket}
      (offers : Offers policy alternative (.ports clientRtp clientRtcp))
      (free : FreePair localIp canBind rtp rtcp) :
      Usable clientIp localIp policy canBind alternative
        (.udp rtp rtcp (.new clientIp clientRtp) (.new clientIp clientRtcp))

/-! ## Reading an alternative -/

section Reading

variable {alternative : Text}
variable {key : String}
variable {value : Text}

theorem parameter_eq_findSome :
    parameter (toAsciiLowercase alternative) key =
      (parts alternative).findSome?
        (stripPrefix (key.toList ++ ['='])) := by
  rw [parts, List.findSome?_map]
  rfl

/-- A key is stripped from exactly the parts that begin with it. -/
theorem stripPrefix_eq_none_iff {front text : Text} :
    stripPrefix front text = none ↔ ¬ front <+: text := by
  simp [stripPrefix]

theorem parameter_eq_some_iff :
    parameter (toAsciiLowercase alternative) key = some value ↔
      HasParameter alternative key value := by
  rw [parameter_eq_findSome, List.findSome?_eq_some_iff]
  constructor
  · rintro ⟨earlier, part, later, partsEq, stripped, none⟩
    rw [stripPrefix_eq_some_iff] at stripped
    refine ⟨earlier, later, ?_, fun part member =>
      stripPrefix_eq_none_iff.mp (none part member)⟩
    rw [partsEq, stripped, List.append_assoc]
    rfl
  · rintro ⟨earlier, later, partsEq, none⟩
    refine ⟨earlier, _, later, partsEq, ?_, fun part member =>
      stripPrefix_eq_none_iff.mpr (none part member)⟩
    rw [stripPrefix_eq_some_iff, List.append_assoc]
    rfl

theorem parameter_eq_none_iff :
    parameter (toAsciiLowercase alternative) key = none ↔
      LacksParameter alternative key := by
  rw [parameter_eq_findSome, List.findSome?_eq_none_iff]
  simp only [stripPrefix_eq_none_iff]
  rfl

/-- A numeral has no hyphen. -/
theorem hyphen_not_mem_numeral
    {text : Text}
    {number : Nat}
    (numeral : IsNumeral text number) :
    '-' ∉ text := by
  obtain ⟨digits, textEq, _, isDigit, _⟩ := numeral
  have noHyphen : '-' ∉ digits :=
    fun member => absurd (isDigit '-' member) (by decide)
  rcases textEq with rfl | rfl
  · exact noHyphen
  · rw [List.mem_cons, not_or]
    exact ⟨by decide, noHyphen⟩

/-- Exactly the pairs of 16-bit numerals are read. -/
theorem parsePair_eq_some_iff {first second : UInt16} :
    parsePair value = some (first, second) ↔
      IsPair value first.toNat second.toNat := by
  unfold parsePair
  simp only [Option.bind_eq_some_iff, Option.map_eq_some_iff,
    fromStrRadix_eq_some_iff]
  constructor
  · rintro ⟨⟨front, back⟩, split, number, ⟨frontNumeral, small⟩, other,
      ⟨backNumeral, otherSmall⟩, pairEq⟩
    obtain ⟨rfl, rfl⟩ := Prod.mk.inj pairEq
    refine ⟨front, back, (splitOnce_some split).1, ?_, ?_⟩
    · rw [UInt16.toNat_ofNat_of_lt' small]
      exact frontNumeral
    · rw [UInt16.toNat_ofNat_of_lt' otherSmall]
      exact backNumeral
  · rintro ⟨front, back, rfl, frontNumeral, backNumeral⟩
    refine ⟨(front, back),
      splitOnce_append (hyphen_not_mem_numeral frontNumeral),
      first.toNat, ⟨frontNumeral, first.toNat_lt⟩,
      second.toNat, ⟨backNumeral, second.toNat_lt⟩, ?_⟩
    rw [UInt16.ofNat_toNat, UInt16.ofNat_toNat]

end Reading

/-! ## Binding the server's ports -/

section Binding

variable {localIp : IpAddr}
variable {canBind : UInt16 → Bool}

theorem bindUdpPair_eq :
    bindUdpPair localIp canBind =
      ((List.range 5000).find? fun index =>
        canBind (UInt16.ofNat (50000 + 2 * index)) &&
          canBind (UInt16.ofNat (50000 + 2 * index) + 1)).map fun index =>
        ({ ip := localIp, port := UInt16.ofNat (50000 + 2 * index) },
          { ip := localIp,
            port := UInt16.ofNat (50000 + 2 * index) + 1 }) := by
  rw [bindUdpPair, rtpPorts, List.find?_map, Option.map_map]
  rfl

/-- The sockets that are bound are the first free pair. -/
theorem bindUdpPair_eq_some_iff {rtp rtcp : UdpSocket} :
    bindUdpPair localIp canBind = some (rtp, rtcp) ↔
      FreePair localIp canBind rtp rtcp := by
  rw [bindUdpPair_eq, Option.map_eq_some_iff]
  simp only [List.find?_range_eq_some, Bool.and_eq_true, List.mem_range,
    Bool.not_eq_true', Bool.and_eq_false_iff, Prod.mk.injEq]
  constructor
  · rintro ⟨index, ⟨bindable, inside, earlier⟩, rfl, rfl⟩
    exact ⟨⟨rfl, rfl⟩, rfl, bindable, index, inside, rfl, earlier⟩
  · rintro ⟨localEq, adjacent, bindable, index, inside, portEq, earlier⟩
    obtain ⟨rtpIp, rtpPort⟩ := rtp
    obtain ⟨rtcpIp, rtcpPort⟩ := rtcp
    obtain ⟨rfl, rfl⟩ := localEq
    simp only at adjacent portEq bindable
    subst adjacent portEq
    exact ⟨index, ⟨bindable, inside, earlier⟩, rfl, rfl⟩

/-- A pair is bound exactly when some pair can be. -/
theorem exists_freePair_iff :
    (∃ rtp rtcp, FreePair localIp canBind rtp rtcp) ↔
      PairBindable canBind := by
  simp only [← bindUdpPair_eq_some_iff]
  constructor
  · rintro ⟨rtp, rtcp, bound⟩
    obtain ⟨_, adjacent, bindable, index, inside, portEq, _⟩ :=
      bindUdpPair_eq_some_iff.mp bound
    rw [adjacent, portEq] at bindable
    exact ⟨index, inside, bindable⟩
  · rintro ⟨index, inside, bindable⟩
    cases bound : bindUdpPair localIp canBind with
    | none =>
        rw [bindUdpPair_eq, Option.map_eq_none_iff, List.find?_eq_none]
          at bound
        have refused := bound index (List.mem_range.mpr inside)
        rw [bindable.1, bindable.2] at refused
        exact (refused rfl).elim
    | some pair =>
        exact ⟨pair.1, pair.2, rfl⟩

theorem bindUdpPair_eq_none_iff :
    bindUdpPair localIp canBind = none ↔ ¬ PairBindable canBind := by
  simp only [Option.eq_none_iff_forall_ne_some, ne_eq, ← not_exists,
    not_iff_not, Prod.exists, bindUdpPair_eq_some_iff]
  exact exists_freePair_iff

end Binding

/-! ## One iteration of the loop -/

/-- What the server makes of an offer. -/
def Offer.delivery
    (clientIp localIp : IpAddr)
    (canBind : UInt16 → Bool) : Offer → Option Delivery
  | .channels rtp rtcp => some (.tcp rtp rtcp)
  | .ports clientRtp clientRtcp =>
      (bindUdpPair localIp canBind).map fun (rtp, rtcp) =>
        .udp rtp rtcp (.new clientIp clientRtp) (.new clientIp clientRtcp)

section Iteration

variable {clientIp localIp : IpAddr}
variable {policy : TransportPolicy}
variable {canBind : UInt16 → Bool}
variable {alternative : Text}

/-- The tests of the loop body, in terms of the parts. -/
theorem any_multicast_iff :
    (((toAsciiLowercase alternative).splitOn ';').any fun part =>
        trim part == "multicast".toList) = true ↔
      "multicast".toList ∈ parts alternative := by
  simp [parts]

theorem protocol_iff {name : Text} :
    (parts alternative).head? = some name ↔
      trim (((toAsciiLowercase alternative).splitOn ';').headD []) =
        name := by
  rw [parts, List.head?_map]
  cases split : (toAsciiLowercase alternative).splitOn ';' with
  | nil =>
      exact (List.splitOn_ne_nil _ _ split).elim
  | cons first later =>
      simp

/-- A channel is a number up to 255. -/
theorem toUInt16_le (channel : UInt8) : channel.toUInt16 ≤ 255 := by
  rw [UInt16.le_iff_toNat_le, UInt8.toNat_toUInt16]
  exact Nat.le_of_lt_succ channel.toNat_lt

theorem toUInt16_toUInt8
    {number : UInt16}
    (small : number ≤ 255) :
    number.toUInt8.toNat = number.toNat := by
  rw [UInt16.toNat_toUInt8]
  apply Nat.mod_eq_of_lt
  exact Nat.lt_succ_of_le (UInt16.le_iff_toNat_le.mp small)

/-- The loop body serves an offer. -/
theorem negotiateAlternative_of_offers
    {offer : Offer}
    (offers : Offers policy alternative offer) :
    negotiateAlternative clientIp localIp policy canBind alternative =
      some (offer.delivery clientIp localIp canBind) := by
  unfold negotiateAlternative
  simp only
  cases offers with
  | implied unicast protocol allowed absent =>
      have named := protocol_iff.mp protocol
      rw [if_neg (any_multicast_iff.not.mpr unicast),
        if_pos ⟨named, allowed⟩, parameter_eq_none_iff.mpr absent]
      rfl
  | @interleaved unicast protocol allowed value found rtp rtcp pair
      distinct =>
      have named := protocol_iff.mp protocol
      have read :
          parsePair value = some (rtp.toUInt16, rtcp.toUInt16) := by
        rw [parsePair_eq_some_iff, UInt8.toNat_toUInt16,
          UInt8.toNat_toUInt16]
        exact pair
      have distinctNumbers : rtp.toUInt16 ≠ rtcp.toUInt16 :=
        fun same => distinct (UInt8.toUInt16_inj.mp same)
      rw [if_neg (any_multicast_iff.not.mpr unicast),
        if_pos ⟨named, allowed⟩, parameter_eq_some_iff.mpr found]
      simp only [read]
      rw [if_pos ⟨distinctNumbers, toUInt16_le rtp, toUInt16_le rtcp⟩,
        UInt8.toUInt8_toUInt16, UInt8.toUInt8_toUInt16]
      rfl
  | @clientPort unicast protocol allowed value found rtp rtcp pair nonzero
      distinct =>
      rw [protocol_iff, protocol_iff] at protocol
      have notTcp :
          trim (((toAsciiLowercase alternative).splitOn ';').headD []) ≠
            "rtp/avp/tcp".toList := by
        rcases protocol with named | named <;>
          · rw [named]
            decide
      have valid : ¬ (rtp = 0 ∨ rtcp = 0 ∨ rtp = rtcp) := by
        simp [nonzero, distinct]
      rw [if_neg (any_multicast_iff.not.mpr unicast),
        if_neg (fun both => notTcp both.1), if_pos ⟨protocol, allowed⟩,
        parameter_eq_some_iff.mpr found, Option.bind_some,
        parsePair_eq_some_iff.mpr pair]
      simp only
      rw [if_neg valid]
      rfl

/-- What the loop body does not skip is an offer. -/
theorem exists_offers_of_negotiateAlternative
    {result : Option Delivery}
    (selected :
      negotiateAlternative clientIp localIp policy canBind alternative =
        some result) :
    ∃ offer, Offers policy alternative offer ∧
      result = offer.delivery clientIp localIp canBind := by
  unfold negotiateAlternative at selected
  simp only at selected
  split at selected
  · cases selected
  rename_i unicast
  rw [any_multicast_iff] at unicast
  split at selected
  · rename_i protocol
    obtain ⟨named, allowed⟩ := protocol
    rw [← protocol_iff] at named
    split at selected
    · rename_i absent
      cases selected
      exact ⟨_, .implied unicast named allowed
        (parameter_eq_none_iff.mp absent), rfl⟩
    · rename_i found
      split at selected
      · rename_i read
        split at selected
        · rename_i valid
          obtain ⟨distinct, rtpSmall, rtcpSmall⟩ := valid
          cases selected
          refine ⟨_, .interleaved unicast named allowed
            (parameter_eq_some_iff.mp found) ?_ ?_, rfl⟩
          · rw [toUInt16_toUInt8 rtpSmall, toUInt16_toUInt8 rtcpSmall]
            exact parsePair_eq_some_iff.mp read
          · intro same
            apply distinct
            rw [← UInt16.toNat_inj, ← toUInt16_toUInt8 rtpSmall,
              ← toUInt16_toUInt8 rtcpSmall, same]
        · cases selected
      · cases selected
  split at selected
  · rename_i protocol
    obtain ⟨named, allowed⟩ := protocol
    rw [← protocol_iff, ← protocol_iff] at named
    split at selected
    · cases selected
    · rename_i read
      obtain ⟨value, found, pair⟩ := Option.bind_eq_some_iff.mp read
      split at selected
      · cases selected
      · rename_i valid
        simp only [not_or] at valid
        exact ⟨.ports _ _, .clientPort unicast named allowed
          (parameter_eq_some_iff.mp found)
          (parsePair_eq_some_iff.mp pair) ⟨valid.1, valid.2.1⟩ valid.2.2,
          (Option.some.inj selected).symm⟩
  · cases selected

/-- The loop body returns exactly the deliveries of usable alternatives. -/
theorem usable_iff {delivery : Delivery} :
    Usable clientIp localIp policy canBind alternative delivery ↔
      negotiateAlternative clientIp localIp policy canBind alternative =
        some (some delivery) := by
  constructor
  · intro usable
    cases usable with
    | tcp offers =>
        exact negotiateAlternative_of_offers offers
    | udp offers free =>
        rw [negotiateAlternative_of_offers offers, Offer.delivery,
          bindUdpPair_eq_some_iff.mpr free]
        rfl
  · intro selected
    obtain ⟨offer, offers, deliveryEq⟩ :=
      exists_offers_of_negotiateAlternative selected
    cases offer with
    | channels rtp rtcp =>
        cases deliveryEq
        exact .tcp offers
    | ports clientRtp clientRtcp =>
        rw [Offer.delivery] at deliveryEq
        obtain ⟨⟨rtp, rtcp⟩, bound, rfl⟩ :=
          Option.map_eq_some_iff.mp deliveryEq.symm
        exact .udp offers (bindUdpPair_eq_some_iff.mp bound)

/-- The loop body gives up exactly on offers that lack only a port pair. -/
theorem negotiateAlternative_eq_some_none_iff :
    negotiateAlternative clientIp localIp policy canBind alternative =
        some none ↔
      (∃ rtp rtcp, Offers policy alternative (.ports rtp rtcp)) ∧
        ¬ PairBindable canBind := by
  constructor
  · intro selected
    obtain ⟨offer, offers, deliveryEq⟩ :=
      exists_offers_of_negotiateAlternative selected
    cases offer with
    | channels rtp rtcp =>
        cases deliveryEq
    | ports rtp rtcp =>
        rw [Offer.delivery, eq_comm, Option.map_eq_none_iff,
          bindUdpPair_eq_none_iff] at deliveryEq
        exact ⟨⟨rtp, rtcp, offers⟩, deliveryEq⟩
  · rintro ⟨⟨rtp, rtcp, offers⟩, unbindable⟩
    rw [negotiateAlternative_of_offers offers, Offer.delivery,
      bindUdpPair_eq_none_iff.mpr unbindable]
    rfl

end Iteration

/-! ## The first usable alternative -/

section FirstUsable

variable (value : Text)
variable (clientIp localIp : IpAddr)
variable (policy : TransportPolicy)
variable (canBind : UInt16 → Bool)

/-- The client gets its first usable alternative. -/
structure FirstUsable : Prop where
  succeeds :
    (negotiateTransport value clientIp localIp policy canBind).isSome ↔
      ∃ alternative ∈ value.splitOn ',', ∃ delivery,
        Usable clientIp localIp policy canBind alternative delivery
  delivers :
    ∀ delivery,
      negotiateTransport value clientIp localIp policy canBind =
          some delivery →
        ∃ earlier alternative later,
          value.splitOn ',' = earlier ++ alternative :: later ∧
            Usable clientIp localIp policy canBind alternative delivery ∧
            ∀ other ∈ earlier, ∀ delivery,
              ¬ Usable clientIp localIp policy canBind other delivery

/--
An offer of ports comes before the first usable alternative, and no port pair
can be bound.
-/
structure EndsEarly
    (earlier : List Text)
    (blocked : Text)
    (later : List Text) : Prop where
  alternatives : value.splitOn ',' = earlier ++ blocked :: later
  noneUsable :
    ∀ other ∈ earlier, ∀ rtp rtcp,
      ¬ Offers policy other (.channels rtp rtcp)
  offersPorts : ∃ rtp rtcp, Offers policy blocked (.ports rtp rtcp)
  unbindable : ¬ PairBindable canBind
  usable :
    ∃ other ∈ later, ∃ rtp rtcp, Offers policy other (.channels rtp rtcp)

variable {value clientIp localIp policy canBind}

/-- Without a port pair only channels can be used. -/
theorem exists_channels_of_usable
    {alternative : Text}
    {delivery : Delivery}
    (unbindable : ¬ PairBindable canBind)
    (usable :
      Usable clientIp localIp policy canBind alternative delivery) :
    ∃ rtp rtcp, Offers policy alternative (.channels rtp rtcp) := by
  cases usable with
  | tcp offers =>
      exact ⟨_, _, offers⟩
  | udp offers free =>
      exact (unbindable (exists_freePair_iff.mp ⟨_, _, free⟩)).elim

/-- At the blocked alternative the negotiation ends. -/
theorem negotiateTransport_of_endsEarly
    {earlier later : List Text}
    {blocked : Text}
    (ends : EndsEarly value policy canBind earlier blocked later) :
    negotiateTransport value clientIp localIp policy canBind = none := by
  have givesUp :
      negotiateAlternative clientIp localIp policy canBind blocked =
        some none :=
    negotiateAlternative_eq_some_none_iff.mpr
      ⟨ends.offersPorts, ends.unbindable⟩
  have notEarlier :
      earlier.findSome?
          (negotiateAlternative clientIp localIp policy canBind) = none ∨
        earlier.findSome?
          (negotiateAlternative clientIp localIp policy canBind) =
            some none := by
    cases found : earlier.findSome?
        (negotiateAlternative clientIp localIp policy canBind) with
    | none =>
        exact .inl rfl
    | some result =>
        obtain ⟨other, member, selected⟩ :=
          List.exists_of_findSome?_eq_some found
        cases result with
        | none =>
            exact .inr rfl
        | some delivery =>
            obtain ⟨rtp, rtcp, offers⟩ :=
              exists_channels_of_usable ends.unbindable
                (usable_iff.mpr selected)
            exact (ends.noneUsable other member rtp rtcp offers).elim
  rw [negotiateTransport, ends.alternatives, List.findSome?_append,
    List.findSome?_cons, givesUp]
  rcases notEarlier with skipped | gaveUp
  · rw [skipped]
    rfl
  · rw [gaveUp]
    rfl

/-- Without a usable alternative the client gets nothing. -/
theorem firstUsable_of_none
    (nothing :
      negotiateTransport value clientIp localIp policy canBind = none)
    (noneUsable :
      ∀ alternative ∈ value.splitOn ',', ∀ delivery,
        ¬ Usable clientIp localIp policy canBind alternative delivery) :
    FirstUsable value clientIp localIp policy canBind where
  succeeds := by
    rw [nothing]
    refine iff_of_false (by decide) ?_
    rintro ⟨alternative, member, delivery, usable⟩
    exact noneUsable alternative member delivery usable
  delivers := by
    intro delivery returned
    rw [nothing] at returned
    cases returned

/-- The first alternative that is not skipped decides. -/
theorem firstUsable_of_not_endsEarly
    (goesOn :
      ∀ earlier blocked later,
        ¬ EndsEarly value policy canBind earlier blocked later) :
    FirstUsable value clientIp localIp policy canBind := by
  have returns :
      negotiateTransport value clientIp localIp policy canBind =
        ((value.splitOn ',').findSome?
          (negotiateAlternative clientIp localIp policy canBind)).join :=
    rfl
  cases found : (value.splitOn ',').findSome?
      (negotiateAlternative clientIp localIp policy canBind) with
  | none =>
      rw [found] at returns
      refine firstUsable_of_none returns ?_
      intro alternative member delivery usable
      rw [List.findSome?_eq_none_iff] at found
      rw [usable_iff, found alternative member] at usable
      cases usable
  | some result =>
      rw [found] at returns
      obtain ⟨earlier, alternative, later, alternatives, selected, skipped⟩ :=
        List.findSome?_eq_some_iff.mp found
      have noneUsable (other : Text) (member : other ∈ earlier)
          (delivery : Delivery) :
          ¬ Usable clientIp localIp policy canBind other delivery := by
        rw [usable_iff, skipped other member]
        exact fun impossible => nomatch impossible
      cases result with
      | some delivery =>
          have usable := usable_iff.mpr selected
          refine ⟨?_, ?_⟩
          · rw [returns]
            refine iff_of_true rfl ⟨alternative, ?_, delivery, usable⟩
            rw [alternatives]
            simp
          · intro other returned
            rw [returns] at returned
            cases returned
            exact ⟨earlier, alternative, later, alternatives, usable,
              noneUsable⟩
      | none =>
          refine firstUsable_of_none returns ?_
          intro other member delivery usable
          obtain ⟨offersPorts, unbindable⟩ :=
            negotiateAlternative_eq_some_none_iff.mp selected
          rw [alternatives, List.mem_append, List.mem_cons] at member
          rcases member with front | rfl | back
          · exact noneUsable other front delivery usable
          · rw [usable_iff, selected] at usable
            cases usable
          · exact goesOn earlier alternative later {
              alternatives := alternatives
              noneUsable := fun other member rtp rtcp offers =>
                noneUsable other member _ (.tcp offers)
              offersPorts := offersPorts
              unbindable := unbindable
              usable := ⟨other, back,
                exists_channels_of_usable unbindable usable⟩
            }

end FirstUsable

/--
The client gets its first usable alternative exactly when no offer of ports
without a bindable pair comes before it.
-/
theorem negotiateTransport_first_usable_iff
    (value : Text)
    (clientIp localIp : IpAddr)
    (policy : TransportPolicy)
    (canBind : UInt16 → Bool) :
    FirstUsable value clientIp localIp policy canBind ↔
      ∀ earlier blocked later,
        ¬ EndsEarly value policy canBind earlier blocked later := by
  constructor
  · intro firstUsable earlier blocked later ends
    obtain ⟨other, back, rtp, rtcp, offers⟩ := ends.usable
    have member : other ∈ value.splitOn ',' := by
      rw [ends.alternatives]
      simp [back]
    have succeeded :=
      firstUsable.succeeds.mpr ⟨other, member, _, .tcp offers⟩
    rw [negotiateTransport_of_endsEarly ends] at succeeded
    cases succeeded
  · exact firstUsable_of_not_endsEarly

/-- Channels behind an offer of ports are not reached. -/
theorem negotiateTransport_unreached_channels :
    ¬ FirstUsable
      ("RTP/AVP;unicast;client_port=5000-5001,".toList ++
        "RTP/AVP/TCP;unicast;interleaved=0-1".toList)
      (.v4 #v[192, 0, 2, 1]) (.v4 #v[192, 0, 2, 2]) .both
      (fun _ => false) := by
  intro firstUsable
  have alternatives :
      ("RTP/AVP;unicast;client_port=5000-5001,".toList ++
          "RTP/AVP/TCP;unicast;interleaved=0-1".toList).splitOn ',' =
        [] ++ "RTP/AVP;unicast;client_port=5000-5001".toList ::
          ["RTP/AVP/TCP;unicast;interleaved=0-1".toList] := by
    decide +kernel
  have ports :
      Offers .both "RTP/AVP;unicast;client_port=5000-5001".toList
        (.ports 5000 5001) := by
    have partsEq :
        parts "RTP/AVP;unicast;client_port=5000-5001".toList =
          ["rtp/avp".toList, "unicast".toList] ++
            ("client_port".toList ++ '=' :: "5000-5001".toList) :: [] := by
      decide +kernel
    refine .clientPort ?_ (.inl ?_) (by decide)
      ⟨_, _, partsEq, by simp +decide⟩
      ⟨"5000".toList, "5001".toList, rfl, isNumeral_decimal 5000,
        isNumeral_decimal 5001⟩
      (by decide) (by decide)
    · rw [partsEq]
      decide
    · rw [partsEq]
      rfl
  have channels :
      Offers .both "RTP/AVP/TCP;unicast;interleaved=0-1".toList
        (.channels 0 1) := by
    have partsEq :
        parts "RTP/AVP/TCP;unicast;interleaved=0-1".toList =
          ["rtp/avp/tcp".toList, "unicast".toList] ++
            ("interleaved".toList ++ '=' :: "0-1".toList) :: [] := by
      decide +kernel
    refine .interleaved ?_ ?_ (by decide)
      ⟨_, _, partsEq, by simp +decide⟩
      ⟨"0".toList, "1".toList, rfl, isNumeral_decimal 0,
        isNumeral_decimal 1⟩
      (by decide)
    · rw [partsEq]
      decide
    · rw [partsEq]
      rfl
  have unbindable : ¬ PairBindable fun _ => false := by
    rintro ⟨index, inside, bindable, _⟩
    cases bindable
  have ends :=
    EndsEarly.mk alternatives (fun _ member => (List.not_mem_nil member).elim)
      ⟨_, _, ports⟩ unbindable
      ⟨_, List.mem_singleton_self _, _, _, channels⟩
  have succeeded :=
    firstUsable.succeeds.mpr ⟨_, by rw [alternatives]; simp, _, .tcp channels⟩
  rw [negotiateTransport_of_endsEarly ends] at succeeded
  cases succeeded

/-! ## The header of a delivery -/

/-- The channels or the ports of the client. -/
def Delivery.offer : Delivery → Offer
  | .tcp rtp rtcp => .channels rtp rtcp
  | .udp _ _ clientRtp clientRtcp => .ports clientRtp.port clientRtcp.port

/-- The policy allows deliveries of this kind. -/
def TransportPolicy.Allows (policy : TransportPolicy) : Delivery → Prop
  | .tcp _ _ => policy ≠ .udp
  | .udp _ _ _ _ => policy ≠ .tcp

/-- The numbers of the delivery are valid. -/
def Delivery.Valid : Delivery → Prop
  | .tcp rtp rtcp => rtp ≠ rtcp
  | .udp _ _ clientRtp clientRtcp =>
      clientRtp.port ≠ 0 ∧ clientRtcp.port ≠ 0 ∧
        clientRtp.port ≠ clientRtcp.port

/-- The numbers of the delivery are those of the alternative. -/
def Delivery.Repeats (alternative : Text) : Delivery → Prop
  | .tcp rtp rtcp =>
      (LacksParameter alternative "interleaved" ∧ rtp = 0 ∧ rtcp = 1) ∨
        ∃ value, HasParameter alternative "interleaved" value ∧
          IsPair value rtp.toNat rtcp.toNat
  | .udp _ _ clientRtp clientRtcp =>
      ∃ value, HasParameter alternative "client_port" value ∧
        IsPair value clientRtp.port.toNat clientRtcp.port.toNat

/-- What is written of numbers and addresses has no uppercase letters. -/
theorem toAsciiLowercase_of_subset
    {text : Text}
    (within : text ⊆ displayAlphabet) :
    toAsciiLowercase text = text := by
  have lower : displayAlphabet.all (fun c => c.toLower == c) = true := by
    decide
  rw [List.all_eq_true] at lower
  calc
    text.map Char.toLower = text.map id :=
      List.map_congr_left fun c member => by
        simpa using lower c (within member)
    _ = text := List.map_id text

theorem toAsciiLowercase_append (front back : Text) :
    toAsciiLowercase (front ++ back) =
      toAsciiLowercase front ++ toAsciiLowercase back :=
  List.map_append

/-- Visible text has no whitespace around it. -/
theorem trim_of_visible
    {text : Text}
    (visible : ∀ c ∈ text, isWhitespace c = false) :
    trim text = text :=
  Trimmed.trim_eq {
    head := fun c member => visible c (List.mem_of_mem_head? member)
    last := fun c member => visible c (List.mem_of_mem_getLast? member)
  }

/-- Parts of a header of the server. -/
def partAlphabet : Text :=
  "rtp/avp/tcpunicastinterleaved=client_port=-server_port=source=".toList ++
    displayAlphabet

/-- Parts of such characters are found again. -/
theorem parts_eq
    {alternative : Text}
    {pieces : List Text}
    (nonempty : pieces ≠ [])
    (within : ∀ piece ∈ pieces, piece ⊆ partAlphabet)
    (joined :
      toAsciiLowercase alternative = [';'].intercalate pieces) :
    parts alternative = pieces := by
  have visible :
      partAlphabet.all (fun c => !isWhitespace c && c != ';') = true := by
    decide
  rw [List.all_eq_true] at visible
  have noSeparator : ∀ piece ∈ pieces, ';' ∉ piece := by
    intro piece member inside
    exact absurd (visible ';' (within piece member inside)) (by decide)
  rw [parts, joined, List.splitOn_intercalate _ noSeparator nonempty]
  calc
    pieces.map trim = pieces.map id := by
      apply List.map_congr_left
      intro piece member
      apply trim_of_visible
      intro c inside
      have shown := visible c (within piece member inside)
      rw [Bool.and_eq_true, Bool.not_eq_true'] at shown
      exact shown.1
    _ = pieces := List.map_id pieces

/-- Two numbers with a hyphen between them. -/
def pairText (first second : Nat) : Text :=
  decimal first ++ '-' :: decimal second

theorem isPair_pairText (first second : Nat) :
    IsPair (pairText first second) first second :=
  ⟨_, _, rfl, isNumeral_decimal first, isNumeral_decimal second⟩

theorem toAsciiLowercase_pairText (first second : Nat) :
    toAsciiLowercase (pairText first second) = pairText first second := by
  rw [pairText, toAsciiLowercase_append,
    toAsciiLowercase_of_subset (decimal_subset first)]
  have lower := toAsciiLowercase_of_subset (decimal_subset second)
  exact congrArg (fun back => decimal first ++ '-' :: back) lower

theorem pairText_subset (first second : Nat) :
    pairText first second ⊆ partAlphabet := by
  have decimals (number : Nat) : decimal number ⊆ partAlphabet :=
    List.Subset.trans (decimal_subset number)
      (List.subset_append_right _ _)
  have hyphen : '-' ∈ partAlphabet := by decide
  rw [pairText, List.append_subset, List.cons_subset]
  exact ⟨decimals first, hyphen, decimals second⟩

/-- The parts of a header with channels. -/
theorem parts_tcp (rtp rtcp : UInt8) :
    parts (Delivery.tcp rtp rtcp).transportHeader =
      ["rtp/avp/tcp".toList, "unicast".toList] ++
        ("interleaved".toList ++ '=' :: pairText rtp.toNat rtcp.toNat) ::
          [] := by
  apply parts_eq
  · simp
  · intro piece member
    rw [List.mem_append, List.mem_cons, List.mem_singleton,
      List.mem_singleton] at member
    rcases member with (rfl | rfl) | rfl
    · decide
    · decide
    · rw [List.append_subset, List.cons_subset]
      exact ⟨by decide, by decide, pairText_subset _ _⟩
  · have headerEq :
        (Delivery.tcp rtp rtcp).transportHeader =
          "RTP/AVP/TCP;unicast;interleaved=".toList ++
            pairText rtp.toNat rtcp.toNat :=
      List.append_assoc _ _ _
    have textEq :
        toAsciiLowercase "RTP/AVP/TCP;unicast;interleaved=".toList =
          "rtp/avp/tcp".toList ++ (';' :: ("unicast".toList ++
            (';' :: ("interleaved".toList ++ ['='])))) := by
      decide
    rw [headerEq, toAsciiLowercase_append, toAsciiLowercase_pairText,
      textEq]
    simp only [List.intercalate_cons_cons, List.intercalate_singleton,
      List.append_assoc, List.cons_append, List.nil_append]

/-- The parts of a header with ports. -/
theorem parts_udp
    (rtp rtcp : UdpSocket)
    (clientRtp clientRtcp : SocketAddr) :
    parts (Delivery.udp rtp rtcp clientRtp clientRtcp).transportHeader =
      ["rtp/avp".toList, "unicast".toList] ++
        ("client_port".toList ++
          '=' :: pairText clientRtp.port.toNat clientRtcp.port.toNat) ::
        ["server_port=".toList ++ pairText rtp.port.toNat rtcp.port.toNat,
          "source=".toList ++ rtp.ip.display] := by
  apply parts_eq
  · simp
  · intro piece member
    simp only [List.mem_append, List.mem_cons, List.not_mem_nil, or_false]
      at member
    rcases member with (rfl | rfl) | rfl | rfl | rfl
    · decide
    · decide
    · rw [List.append_subset, List.cons_subset]
      exact ⟨by decide, by decide, pairText_subset _ _⟩
    · rw [List.append_subset]
      exact ⟨by decide, pairText_subset _ _⟩
    · rw [List.append_subset]
      exact ⟨by decide, List.Subset.trans (ipDisplay_subset _)
        (List.subset_append_right _ _)⟩
  · have headerEq :
        (Delivery.udp rtp rtcp clientRtp clientRtcp).transportHeader =
          "RTP/AVP;unicast;client_port=".toList ++
            (pairText clientRtp.port.toNat clientRtcp.port.toNat ++
              (";server_port=".toList ++
                (pairText rtp.port.toNat rtcp.port.toNat ++
                  (";source=".toList ++ rtp.ip.display)))) := by
      unfold Delivery.transportHeader pairText
      simp only [List.append_assoc, List.cons_append]
    have firstEq :
        toAsciiLowercase "RTP/AVP;unicast;client_port=".toList =
          "rtp/avp".toList ++ (';' :: ("unicast".toList ++
            (';' :: ("client_port".toList ++ ['='])))) := by
      decide
    have serverEq :
        toAsciiLowercase ";server_port=".toList =
          ';' :: "server_port=".toList := by
      decide
    have sourceEq :
        toAsciiLowercase ";source=".toList = ';' :: "source=".toList := by
      decide
    rw [headerEq, toAsciiLowercase_append, toAsciiLowercase_append,
      toAsciiLowercase_append, toAsciiLowercase_append,
      toAsciiLowercase_append, toAsciiLowercase_pairText,
      toAsciiLowercase_pairText,
      toAsciiLowercase_of_subset (ipDisplay_subset _), firstEq, serverEq,
      sourceEq]
    simp only [List.intercalate_cons_cons, List.intercalate_singleton,
      List.append_assoc, List.cons_append, List.nil_append]

/-- The header of a delivery offers what it delivers. -/
theorem offers_transportHeader
    {policy : TransportPolicy}
    {delivery : Delivery}
    (allowed : policy.Allows delivery)
    (valid : delivery.Valid) :
    Offers policy delivery.transportHeader delivery.offer := by
  cases delivery with
  | tcp rtp rtcp =>
      have partsEq := parts_tcp rtp rtcp
      refine .interleaved ?_ ?_ allowed ⟨_, _, partsEq, ?_⟩
        (isPair_pairText _ _) valid
      · rw [partsEq]
        simp +decide
      · rw [partsEq]
        rfl
      · simp +decide
  | udp rtp rtcp clientRtp clientRtcp =>
      have partsEq := parts_udp rtp rtcp clientRtp clientRtcp
      obtain ⟨rtpNonzero, rtcpNonzero, distinct⟩ := valid
      refine .clientPort ?_ (.inl ?_) allowed ⟨_, _, partsEq, ?_⟩
        (isPair_pairText _ _) ⟨rtpNonzero, rtcpNonzero⟩ distinct
      · rw [partsEq]
        simp +decide
      · rw [partsEq]
        rfl
      · simp +decide

/-- A header of the server is one alternative. -/
theorem negotiateTransport_transportHeader
    {clientIp localIp : IpAddr}
    {policy : TransportPolicy}
    {canBind : UInt16 → Bool}
    {delivery : Delivery}
    (allowed : policy.Allows delivery)
    (valid : delivery.Valid) :
    negotiateTransport delivery.transportHeader clientIp localIp policy
        canBind =
      delivery.offer.delivery clientIp localIp canBind := by
  have noComma : ',' ∉ delivery.transportHeader := by
    intro member
    exact absurd (transportHeader_subset delivery member) (by decide)
  rw [negotiateTransport, List.splitOn_eq_singleton noComma,
    List.findSome?_cons,
    negotiateAlternative_of_offers (offers_transportHeader allowed valid)]
  rfl

/-- An offer is served with its own numbers when the ports can be bound. -/
theorem exists_delivery_of_offer
    {clientIp localIp : IpAddr}
    {canBind : UInt16 → Bool}
    (delivery : Delivery)
    (bindable : delivery.usesSockets = true → PairBindable canBind) :
    ∃ again,
      delivery.offer.delivery clientIp localIp canBind = some again ∧
        again.offer = delivery.offer := by
  cases delivery with
  | tcp rtp rtcp =>
      exact ⟨_, rfl, rfl⟩
  | udp rtp rtcp clientRtp clientRtcp =>
      obtain ⟨serverRtp, serverRtcp, free⟩ :
          ∃ rtp rtcp, FreePair localIp canBind rtp rtcp :=
        exists_freePair_iff.mpr (bindable rfl)
      refine ⟨.udp serverRtp serverRtcp (.new clientIp clientRtp.port)
        (.new clientIp clientRtcp.port), ?_, rfl⟩
      rw [Delivery.offer, Offer.delivery, bindUdpPair_eq_some_iff.mpr free]
      rfl

/-! ## What is negotiated -/

/-- A negotiated delivery is allowed, asked for, and describes itself. -/
structure NegotiationRules
    (value : Text)
    (clientIp localIp : IpAddr)
    (policy : TransportPolicy)
    (canBind : UInt16 → Bool)
    (delivery : Delivery) : Prop where
  allowed : policy.Allows delivery
  valid : delivery.Valid
  destination : delivery.LeadsTo clientIp
  origin :
    ∃ alternative ∈ value.splitOn ',',
      "multicast".toList ∉ parts alternative ∧
        delivery.Repeats alternative ∧
          Usable clientIp localIp policy canBind alternative delivery
  roundTrip :
    ∀ clientIp localIp canBind,
      (delivery.usesSockets = true → PairBindable canBind) →
        ∃ again,
          negotiateTransport delivery.transportHeader clientIp localIp policy
              canBind =
            some again ∧
          again.offer = delivery.offer

/-- What the usable alternative says of its delivery. -/
theorem Usable.spec
    {clientIp localIp : IpAddr}
    {policy : TransportPolicy}
    {canBind : UInt16 → Bool}
    {alternative : Text}
    {delivery : Delivery}
    (usable :
      Usable clientIp localIp policy canBind alternative delivery) :
    policy.Allows delivery ∧ delivery.Valid ∧
      "multicast".toList ∉ parts alternative ∧
        delivery.Repeats alternative := by
  cases usable with
  | tcp offers =>
      cases offers with
      | implied unicast protocol allowed absent =>
          have distinct : (0 : UInt8) ≠ 1 := by decide
          exact ⟨allowed, distinct, unicast, .inl ⟨absent, rfl, rfl⟩⟩
      | interleaved unicast protocol allowed found pair distinct =>
          exact ⟨allowed, distinct, unicast, .inr ⟨_, found, pair⟩⟩
  | udp offers free =>
      cases offers with
      | clientPort unicast protocol allowed found pair nonzero distinct =>
          exact ⟨allowed, ⟨nonzero.1, nonzero.2, distinct⟩, unicast,
            ⟨_, found, pair⟩⟩

/--
Every negotiated delivery is of an allowed kind, repeats the numbers of a
unicast alternative, leads to the client, and its header is negotiated to the
same channels or ports.
-/
theorem negotiated_transport_rules
    {value : Text}
    {clientIp localIp : IpAddr}
    {policy : TransportPolicy}
    {canBind : UInt16 → Bool}
    {delivery : Delivery}
    (negotiated :
      negotiateTransport value clientIp localIp policy canBind =
        some delivery) :
    NegotiationRules value clientIp localIp policy canBind delivery := by
  obtain ⟨alternative, member, selected⟩ :=
    List.exists_of_findSome?_eq_some (Option.join_eq_some_iff.mp negotiated)
  have usable := usable_iff.mpr selected
  obtain ⟨allowed, valid, unicast, repeats⟩ := usable.spec
  exact {
    allowed := allowed
    valid := valid
    destination := leadsTo_of_negotiateTransport negotiated
    origin := ⟨alternative, member, unicast, repeats, usable⟩
    roundTrip := by
      intro _ _ _ bindable
      rw [negotiateTransport_transportHeader allowed valid]
      exact exists_delivery_of_offer delivery bindable
  }

/-- Two alternatives, of which only the second can be used. -/
def twoAlternatives : Text :=
  ("RTP/AVP;multicast;client_port=4000-4001," ++
    "RTP/AVP/UDP;unicast;client_port=5000-5001").toList

/-- Behind a multicast alternative the ports of the next one are negotiated. -/
theorem negotiated_transport_rules_behind_multicast :
    NegotiationRules twoAlternatives (.v4 #v[192, 0, 2, 1])
      (.v4 #v[192, 0, 2, 2]) .both (fun _ => true)
      (.udp
        { ip := .v4 #v[192, 0, 2, 2], port := 50000 }
        { ip := .v4 #v[192, 0, 2, 2], port := 50001 }
        (.new (.v4 #v[192, 0, 2, 1]) 5000)
        (.new (.v4 #v[192, 0, 2, 1]) 5001)) := by
  have negotiated :
      negotiateTransport twoAlternatives (.v4 #v[192, 0, 2, 1])
          (.v4 #v[192, 0, 2, 2]) .both (fun _ => true) =
        some
          (.udp
            { ip := .v4 #v[192, 0, 2, 2], port := 50000 }
            { ip := .v4 #v[192, 0, 2, 2], port := 50001 }
            (.new (.v4 #v[192, 0, 2, 1]) 5000)
            (.new (.v4 #v[192, 0, 2, 1]) 5001)) := by
    decide +kernel
  exact negotiated_transport_rules negotiated

end CamRtsp
