import FrameworkFfi.AudioCard.Exchange
import FrameworkFfi.Host.Silent

/-!
# Where the version of an audio card comes from

An interface that is claimed is released before anything else is done, however
the polls end. The version that is reported is that of one read exactly when the
read that completes the first answer is long enough to hold it. A shorter one
completes the answer too, with bytes of the request or of an earlier read.
-/

namespace FrameworkFfi

open Effect

/-! ### What happens on a card -/

/-- The device is an audio card whose interface is found and claimed. -/
structure Machine.ClaimsCard (m : Machine) (w : World) (device : UsbDevice)
    (interface : UInt8) : Prop where
  descriptor : ∃ descriptor, device.deviceDescriptor = some descriptor ∧
    descriptor.vendorId = frameworkVid ∧ descriptor.productId = audioCardPid
  opened : m.answer (.usbOpen device.address) (w.asked (.usbOpen device.address)) = true
  found : ((m.answer (.usbActiveConfig device.address)
    (w.asked (.usbActiveConfig device.address))).bind fun interfaces =>
      interfaces.find? fun interface => 0x03 ∈ interface.classCodes).map UsbInterface.number =
        some interface
  claimed : m.answer (.usbClaimInterface device.address interface)
    (w.asked (.usbClaimInterface device.address interface)) = true

/-- A poll of the card makes its buffer show the reply id. -/
structure Machine.AnswersAt (m : Machine) (w : World) (device : UsbDevice) (interface : UInt8)
    (k : ℕ) (bytes : List UInt8) : Prop where
  claims : m.ClaimsCard w device interface
  delivers : m.Delivers w device interface k bytes
  ready : m.CapeReady w device interface k

/-- A read of the card delivers a genuine reply with this version: the first octets of
its three words. -/
def Machine.DeliversGenuine (m : Machine) (w : World) (device : UsbDevice)
    (version : UsbVersion) : Prop :=
  ∃ interface k bytes, m.ClaimsCard w device interface ∧
    m.Delivers w device interface k bytes ∧ GenuineReply bytes ∧
      version = ⟨bytes.getD 10 0, bytes.getD 14 0, bytes.getD 18 0⟩

/-- The requests to a device. They are those of a claimed interface, with at most
`capeMaxPolls` polls and one release behind them, or no claim went through. -/
inductive CardRequests (m : Machine) (w : World) (device : UsbDevice) : List HostRequest → Prop
  | unclaimed {requests : List HostRequest}
      (hopens : ∀ request ∈ requests, request = .usbOpen device.address ∨
        request = .usbActiveConfig device.address ∨
        ∃ interface, request = .usbClaimInterface device.address interface ∧
          m.answer (.usbClaimInterface device.address interface)
            (w.asked (.usbClaimInterface device.address interface)) = false) :
      CardRequests m w device requests
  | claimed {interface : UInt8} {polls names : List HostRequest}
      (hclaims : m.ClaimsCard w device interface)
      (hpolls : PollRequests device interface capeMaxPolls polls)
      (hnames : ∀ request ∈ names, ∃ index,
        request = .usbReadStringDescriptor device.address index) :
      CardRequests m w device
        ([.usbOpen device.address, .usbActiveConfig device.address,
            .usbClaimInterface device.address interface] ++ polls ++
          [.usbReleaseInterface device.address interface] ++ names)

section Card

variable {m : Machine} {w : World} {device : UsbDevice}

theorem Machine.AnswersAt.unique {interface interface' : UInt8} {k k' : ℕ}
    {bytes bytes' : List UInt8} (h : m.AnswersAt w device interface k bytes)
    (h' : m.AnswersAt w device interface' k' bytes') :
    interface' = interface ∧ k' = k ∧ bytes' = bytes := by
  obtain rfl : interface' = interface :=
    Option.some.inj (h'.claims.found.symm.trans h.claims.found)
  obtain ⟨rfl, rfl⟩ := h.delivers.unique h.ready h'.delivers h'.ready
  exact ⟨rfl, rfl, rfl⟩

/-- What a device returns: the version in the buffer when the card answers. -/
def CardAnswer (m : Machine) (w : World) (device : UsbDevice)
    (result : Option PeripheralVersion) : Prop :=
  ∀ version, result.map PeripheralVersion.version = some version ↔
    ∃ interface k bytes, m.AnswersAt w device interface k bytes ∧
      version = capeVersion (m.capeBuffer w device interface (k + 1))

theorem cardAnswer_none (h : ∀ interface, ¬ m.ClaimsCard w device interface) :
    CardAnswer m w device none := by
  intro version
  refine iff_of_false (by simp) ?_
  rintro ⟨interface, k, bytes, hanswers, -⟩
  exact h interface hanswers.claims

theorem returns_readProductName (m : Machine) (w : World) (device : UsbDevice)
    (descriptor : UsbDeviceDescriptor) :
    ∃ name requests, Returns (readProductName device descriptor) m w name
        (w.recordAll requests) ∧
      ∀ request ∈ requests, ∃ index,
        request = .usbReadStringDescriptor device.address index := by
  unfold readProductName
  cases descriptor.productStringIndex with
  | none => exact ⟨_, [], returns_pure_self, by simp⟩
  | some index =>
      let request : HostRequest := .usbReadStringDescriptor device.address index
      let text : Option OwnedString :=
        m.answer (.usbReadStringDescriptor device.address index) (w.asked request)
      refine ⟨text.getD (.exact ""), [request], ?_, ?_⟩
      · exact returns_bind.mpr
          ⟨text, w.record request, returns_ask_self, returns_pure_self⟩
      · intro other hother
        exact ⟨index, List.mem_singleton.mp hother⟩

theorem returns_capeExchange {interface : UInt8} {u : World}
    (hwrites : u.asked (capeWrite device interface) = w.asked (capeWrite device interface))
    (hreads : u.asked (capeRead device interface) = w.asked (capeRead device interface)) :
    ∃ result polls, Returns (capeExchange device interface) m u result
        (u.recordAll (polls ++ [.usbReleaseInterface device.address interface])) ∧
      PollRequests device interface capeMaxPolls polls ∧
      PollsAnswer m w device interface result := by
  have hstart : m.PollsTo w device interface 0 := ⟨by simp, by simp, by simp⟩
  obtain ⟨result, polls, hrun, hpolls, hanswer⟩ :=
    returns_capePoll (Nat.zero_add capeMaxPolls) hstart ⟨hwrites, hreads⟩
  refine ⟨result, polls, ?_, hpolls, hanswer⟩
  rw [World.recordAll_append]
  refine returns_bind.mpr ⟨result, _, hrun, ?_⟩
  exact returns_converted rfl

/-! ### Up to the claim -/

section Claim

/-- The interface of an opened device is found in the answer to one request. -/
theorem returns_findHidInterface (m : Machine) (w : World) (device : UsbDevice) :
    Returns (findHidInterface device) m (w.record (.usbOpen device.address))
      (((m.answer (.usbActiveConfig device.address)
        (w.asked (.usbActiveConfig device.address))).bind fun interfaces =>
          interfaces.find? fun interface => 0x03 ∈ interface.classCodes).map
            UsbInterface.number)
      ((w.record (.usbOpen device.address)).record (.usbActiveConfig device.address)) := by
  have hconfig : (w.record (.usbOpen device.address)).asked (.usbActiveConfig device.address) =
      w.asked (.usbActiveConfig device.address) := World.asked_record_of_ne w (by simp)
  rw [← hconfig]
  exact returns_bind.mpr ⟨_, _, returns_ask_self, returns_pure_self⟩

theorem returns_audioCardResponse_of_closed
    (hopened : m.answer (.usbOpen device.address) (w.asked (.usbOpen device.address)) = false) :
    Returns (audioCardResponse device) m w none (w.record (.usbOpen device.address)) :=
  returns_bind.mpr ⟨false, _, returns_ask_of_eq hopened, returns_pure_self⟩

variable (hopened : m.answer (.usbOpen device.address) (w.asked (.usbOpen device.address)) = true)
include hopened

theorem returns_audioCardResponse_of_no_interface
    (hfound : ((m.answer (.usbActiveConfig device.address)
      (w.asked (.usbActiveConfig device.address))).bind fun interfaces =>
        interfaces.find? fun interface => 0x03 ∈ interface.classCodes).map UsbInterface.number =
          none) :
    Returns (audioCardResponse device) m w none
      ((w.record (.usbOpen device.address)).record (.usbActiveConfig device.address)) := by
  have hfind := returns_findHidInterface m w device
  rw [hfound] at hfind
  refine returns_bind.mpr ⟨true, _, returns_ask_of_eq hopened, ?_⟩
  exact returns_bind.mpr ⟨none, _, hfind, returns_pure_self⟩

theorem returns_audioCardResponse_of_interface {interface : UInt8}
    {result : Option (List UInt8)} {w' : World}
    (hfound : ((m.answer (.usbActiveConfig device.address)
      (w.asked (.usbActiveConfig device.address))).bind fun interfaces =>
        interfaces.find? fun interface => 0x03 ∈ interface.classCodes).map UsbInterface.number =
          some interface)
    (hrest : Returns
      (if m.answer (.usbClaimInterface device.address interface)
          (w.asked (.usbClaimInterface device.address interface)) then
        capeExchange device interface
      else pure none) m
      (((w.record (.usbOpen device.address)).record
        (.usbActiveConfig device.address)).record (.usbClaimInterface device.address interface))
      result w') :
    Returns (audioCardResponse device) m w result w' := by
  have hfind := returns_findHidInterface m w device
  rw [hfound] at hfind
  refine returns_bind.mpr ⟨true, _, returns_ask_of_eq hopened, ?_⟩
  refine returns_bind.mpr ⟨some interface, _, hfind, ?_⟩
  refine returns_bind.mpr ⟨_, _, returns_ask_of_eq ?_, hrest⟩
  rw [World.asked_record_of_ne _ (by simp), World.asked_record_of_ne _ (by simp)]

end Claim

theorem returns_audioCardResponse_of_claims {interface : UInt8}
    (h : m.ClaimsCard w device interface) :
    ∃ result polls, Returns (audioCardResponse device) m w result
        (w.recordAll ([.usbOpen device.address, .usbActiveConfig device.address,
            .usbClaimInterface device.address interface] ++ polls ++
          [.usbReleaseInterface device.address interface])) ∧
      PollRequests device interface capeMaxPolls polls ∧
      PollsAnswer m w device interface result := by
  let w₁ := ((w.record (.usbOpen device.address)).record
    (.usbActiveConfig device.address)).record (.usbClaimInterface device.address interface)
  have hasked : ∀ request : HostRequest, request ≠ .usbOpen device.address →
      request ≠ .usbActiveConfig device.address →
      request ≠ .usbClaimInterface device.address interface → w₁.asked request =
        w.asked request := by
    intro request hopen hconfig hclaim
    rw [World.asked_record_of_ne _ hclaim, World.asked_record_of_ne _ hconfig,
      World.asked_record_of_ne _ hopen]
  have hwrites := hasked (capeWrite device interface) (by simp [capeWrite]) (by simp [capeWrite])
    (by simp [capeWrite])
  have hreads := hasked (capeRead device interface) (by simp [capeRead]) (by simp [capeRead])
    (by simp [capeRead])
  obtain ⟨result, polls, hexchange, hpolls, hanswer⟩ :
      ∃ result polls, Returns (capeExchange device interface) m w₁ result
          (w₁.recordAll (polls ++ [.usbReleaseInterface device.address interface])) ∧
        PollRequests device interface capeMaxPolls polls ∧
        PollsAnswer m w device interface result := returns_capeExchange hwrites hreads
  refine ⟨result, polls, ?_, hpolls, hanswer⟩
  rw [List.append_assoc, World.recordAll_append]
  refine returns_audioCardResponse_of_interface h.opened h.found ?_
  rw [h.claimed, if_pos rfl]
  exact hexchange

/-- A card that is not claimed is asked at most for its interface. -/
theorem returns_audioCardResponse_of_unclaimed
    (hdescriptor : ∃ descriptor, device.deviceDescriptor = some descriptor ∧
      descriptor.vendorId = frameworkVid ∧ descriptor.productId = audioCardPid)
    (h : ∀ interface, ¬ m.ClaimsCard w device interface) :
    ∃ requests, Returns (audioCardResponse device) m w none (w.recordAll requests) ∧
      CardRequests m w device requests := by
  cases hopened : m.answer (.usbOpen device.address) (w.asked (.usbOpen device.address)) with
  | false =>
      refine ⟨[.usbOpen device.address], returns_audioCardResponse_of_closed hopened,
        .unclaimed fun request hrequest => ?_⟩
      exact .inl (List.mem_singleton.mp hrequest)
  | true =>
      cases hfound : ((m.answer (.usbActiveConfig device.address)
          (w.asked (.usbActiveConfig device.address))).bind fun interfaces =>
            interfaces.find? fun interface => 0x03 ∈ interface.classCodes).map
              UsbInterface.number with
      | none =>
          refine ⟨[.usbOpen device.address, .usbActiveConfig device.address],
            returns_audioCardResponse_of_no_interface hopened hfound,
            .unclaimed fun request hrequest => ?_⟩
          rcases List.mem_cons.mp hrequest with rfl | hrest
          · exact .inl rfl
          · exact .inr (.inl (List.mem_singleton.mp hrest))
      | some interface =>
          have hrefused : m.answer (.usbClaimInterface device.address interface)
              (w.asked (.usbClaimInterface device.address interface)) = false := by
            by_contra hclaimed
            exact h interface ⟨hdescriptor, hopened, hfound, by simpa using hclaimed⟩
          refine ⟨[.usbOpen device.address, .usbActiveConfig device.address,
            .usbClaimInterface device.address interface],
            returns_audioCardResponse_of_interface hopened hfound ?_,
            .unclaimed fun request hrequest => ?_⟩
          · rw [hrefused]
            exact returns_pure_self
          · rcases List.mem_cons.mp hrequest with rfl | hrest
            · exact .inl rfl
            · rcases List.mem_cons.mp hrest with rfl | hclaim
              · exact .inr (.inl rfl)
              · exact .inr (.inr ⟨interface, List.mem_singleton.mp hclaim, hrefused⟩)

theorem returns_audioCardVersionOf_of_no_card
    (h : ¬ ∃ descriptor, device.deviceDescriptor = some descriptor ∧
      descriptor.vendorId = frameworkVid ∧ descriptor.productId = audioCardPid) :
    Returns (audioCardVersionOf device) m w none w := by
  unfold audioCardVersionOf
  cases hdescriptor : device.deviceDescriptor with
  | none => exact returns_pure_self
  | some descriptor =>
      have hids : descriptor.vendorId ≠ frameworkVid ∨ descriptor.productId ≠ audioCardPid := by
        by_contra hids
        rw [not_or, not_not, not_not] at hids
        exact h ⟨descriptor, hdescriptor, hids⟩
      show Returns (if _ then _ else _) m w none w
      rw [if_pos hids]
      exact returns_pure_self

def cardRecord (response : List UInt8) (productName : OwnedString) : PeripheralVersion :=
  { vendorId := frameworkVid
    productId := audioCardPid
    version := capeVersion response
    productName }

/-- What is done with a card, by the response to it. -/
theorem audioCardVersionOf_eq {descriptor : UsbDeviceDescriptor}
    (hdescriptor : device.deviceDescriptor = some descriptor)
    (hvendor : descriptor.vendorId = frameworkVid)
    (hproduct : descriptor.productId = audioCardPid) :
    audioCardVersionOf device =
      andThenSome (audioCardResponse device) fun response =>
        readProductName device descriptor >>= fun productName =>
          pure (some (cardRecord response productName)) := by
  have hids : ¬ (descriptor.vendorId ≠ frameworkVid ∨ descriptor.productId ≠ audioCardPid) := by
    rw [not_or, not_not, not_not]
    exact ⟨hvendor, hproduct⟩
  unfold audioCardVersionOf
  rw [hdescriptor]
  exact if_neg hids

theorem cardAnswer_none_of_polls {interface : UInt8} (hclaims : m.ClaimsCard w device interface)
    (hanswer : PollsAnswer m w device interface none) : CardAnswer m w device none := by
  intro version
  refine iff_of_false (by simp) ?_
  rintro ⟨interface', k, bytes, hanswers, -⟩
  obtain rfl : interface' = interface :=
    Option.some.inj (hanswers.claims.found.symm.trans hclaims.found)
  have hnone := (hanswer _).mpr ⟨k, bytes, hanswers.delivers, hanswers.ready, rfl⟩
  cases hnone

theorem cardAnswer_some {interface : UInt8} {k : ℕ} {bytes : List UInt8}
    (hanswers : m.AnswersAt w device interface k bytes) (productName : OwnedString) :
    CardAnswer m w device
      (some (cardRecord (m.capeBuffer w device interface (k + 1)) productName)) := by
  intro version
  constructor
  · intro hversion
    exact ⟨interface, k, bytes, hanswers, (Option.some.inj hversion).symm⟩
  · rintro ⟨interface', k', bytes', hanswers', rfl⟩
    obtain ⟨rfl, rfl, -⟩ := hanswers.unique hanswers'
    rfl

theorem returns_audioCardVersionOf_of_claims {interface : UInt8}
    (hclaims : m.ClaimsCard w device interface) :
    ∃ result requests, Returns (audioCardVersionOf device) m w result (w.recordAll requests) ∧
      CardRequests m w device requests ∧ CardAnswer m w device result := by
  obtain ⟨descriptor, hdescriptor, hvendor, hproduct⟩ := hclaims.descriptor
  rw [audioCardVersionOf_eq hdescriptor hvendor hproduct]
  obtain ⟨response, polls, hresponse, hpolls, hanswer⟩ :=
    returns_audioCardResponse_of_claims hclaims
  cases response with
  | none =>
      have hnames : ∀ request ∈ ([] : List HostRequest), ∃ index,
          request = .usbReadStringDescriptor device.address index := by simp
      refine ⟨none, _, ?_, .claimed hclaims hpolls hnames,
        cardAnswer_none_of_polls hclaims hanswer⟩
      rw [List.append_nil]
      exact returns_bind.mpr ⟨none, _, hresponse, returns_pure_self⟩
  | some response =>
      obtain ⟨k, bytes, hdelivers, hready, rfl⟩ := (hanswer response).mp rfl
      obtain ⟨name, names, hname, hnames⟩ := returns_readProductName m
        (w.recordAll ([.usbOpen device.address, .usbActiveConfig device.address,
            .usbClaimInterface device.address interface] ++ polls ++
          [.usbReleaseInterface device.address interface])) device descriptor
      refine ⟨_, _, ?_, .claimed hclaims hpolls hnames,
        cardAnswer_some ⟨hclaims, hdelivers, hready⟩ name⟩
      rw [World.recordAll_append]
      refine returns_bind.mpr ⟨some _, _, hresponse, ?_⟩
      exact returns_bind.mpr ⟨name, _, hname, returns_pure_self⟩

theorem returns_audioCardVersionOf (m : Machine) (w : World) (device : UsbDevice) :
    ∃ result requests, Returns (audioCardVersionOf device) m w result (w.recordAll requests) ∧
      CardRequests m w device requests ∧ CardAnswer m w device result := by
  by_cases hcard : ∃ descriptor, device.deviceDescriptor = some descriptor ∧
      descriptor.vendorId = frameworkVid ∧ descriptor.productId = audioCardPid
  · by_cases hclaims : ∃ interface, m.ClaimsCard w device interface
    · obtain ⟨interface, hclaims⟩ := hclaims
      exact returns_audioCardVersionOf_of_claims hclaims
    · have hclaims' : ∀ interface, ¬ m.ClaimsCard w device interface := not_exists.mp hclaims
      obtain ⟨requests, hresponse, hrequests⟩ :=
        returns_audioCardResponse_of_unclaimed hcard hclaims'
      obtain ⟨descriptor, hdescriptor, hvendor, hproduct⟩ := hcard
      rw [audioCardVersionOf_eq hdescriptor hvendor hproduct]
      exact ⟨none, requests, returns_bind.mpr ⟨none, _, hresponse, returns_pure_self⟩,
        hrequests, cardAnswer_none hclaims'⟩
  · exact ⟨none, [], returns_audioCardVersionOf_of_no_card hcard, .unclaimed (by simp),
      cardAnswer_none fun interface hclaims => hcard hclaims.descriptor⟩

end Card

/-! ### The devices one after the other -/

/-- The requests that are made to some devices, each device after the one before. -/
inductive CardRuns (m : Machine) : World → List (UsbDevice × List HostRequest) → Prop
  | nil (w : World) : CardRuns m w []
  | cons {w : World} {device : UsbDevice} {requests : List HostRequest}
      {visits : List (UsbDevice × List HostRequest)} (hdevice : CardRequests m w device requests)
      (hmore : CardRuns m (w.recordAll requests) visits) :
      CardRuns m w ((device, requests) :: visits)

namespace Machine

/-- The first device that answers delivers a genuine reply with this version. -/
def FirstGenuine (m : Machine) : World → List (UsbDevice × List HostRequest) → UsbVersion → Prop
  | _, [], _ => False
  | w, (device, requests) :: visits, version =>
      m.DeliversGenuine w device version ∨
        (∀ interface k bytes, ¬ m.AnswersAt w device interface k bytes) ∧
          m.FirstGenuine (w.recordAll requests) visits version

/-- The read that completes the answer of the first device that answers delivers
the header and the three words of the version. -/
def AnswersInFull (m : Machine) : World → List (UsbDevice × List HostRequest) → Prop
  | _, [] => True
  | w, (device, requests) :: visits =>
      (∀ interface k bytes, m.AnswersAt w device interface k bytes → 22 ≤ bytes.length) ∧
        ((∀ interface k bytes, ¬ m.AnswersAt w device interface k bytes) →
          m.AnswersInFull (w.recordAll requests) visits)

end Machine

section Devices

variable {m : Machine} {w : World} {device : UsbDevice} {requests : List HostRequest}
  {visits : List (UsbDevice × List HostRequest)}

theorem Machine.DeliversGenuine.answers {version : UsbVersion}
    (h : m.DeliversGenuine w device version) :
    ∃ interface k bytes, m.AnswersAt w device interface k bytes ∧ GenuineReply bytes := by
  obtain ⟨interface, k, bytes, hclaims, hdelivers, hgenuine, -⟩ := h
  exact ⟨interface, k, bytes, ⟨hclaims, hdelivers, hdelivers.ready_of_genuine hgenuine⟩, hgenuine⟩

/-- The version of a card that answers comes from one read exactly when the read
that completes the answer is long enough. -/
theorem firstGenuine_iff_of_answers {interface : UInt8} {k : ℕ} {bytes : List UInt8}
    (h : m.AnswersAt w device interface k bytes) :
    m.FirstGenuine w ((device, requests) :: visits)
        (capeVersion (m.capeBuffer w device interface (k + 1))) ↔
      m.AnswersInFull w ((device, requests) :: visits) := by
  constructor
  · intro hfirst
    refine ⟨fun interface' k' bytes' h' => ?_, fun hnone => absurd h (hnone _ _ _)⟩
    obtain ⟨-, -, rfl⟩ := h.unique h'
    rcases hfirst with hgenuine | ⟨hnone, -⟩
    · obtain ⟨interface₁, k₁, bytes₁, h₁, hreply⟩ := hgenuine.answers
      obtain ⟨-, -, rfl⟩ := h₁.unique h'
      exact hreply.2
    · exact absurd h (hnone _ _ _)
  · rintro ⟨hlength, -⟩
    have hlong := hlength interface k bytes h
    exact .inl ⟨interface, k, bytes, h.claims, h.delivers,
      h.delivers.genuine_of_ready h.ready hlong, h.delivers.capeVersion_buffer hlong⟩

theorem firstGenuine_cons_of_not_answers
    (h : ∀ interface k bytes, ¬ m.AnswersAt w device interface k bytes) (version : UsbVersion) :
    m.FirstGenuine w ((device, requests) :: visits) version ↔
      m.FirstGenuine (w.recordAll requests) visits version := by
  constructor
  · rintro (hgenuine | ⟨-, hrest⟩)
    · obtain ⟨interface, k, bytes, hanswers, -⟩ := hgenuine.answers
      exact absurd hanswers (h interface k bytes)
    · exact hrest
  · intro hrest
    exact .inr ⟨h, hrest⟩

theorem answersInFull_cons_of_not_answers
    (h : ∀ interface k bytes, ¬ m.AnswersAt w device interface k bytes) :
    m.AnswersInFull w ((device, requests) :: visits) ↔
      m.AnswersInFull (w.recordAll requests) visits := by
  constructor
  · rintro ⟨-, hrest⟩
    exact hrest h
  · intro hrest
    exact ⟨fun interface k bytes hanswers => absurd hanswers (h interface k bytes),
      fun _ => hrest⟩

/-- The devices are visited in order, up to one that answers. -/
structure VisitsInOrder (devices : List UsbDevice) (visits : List (UsbDevice × List HostRequest))
    (result : Option PeripheralVersion) : Prop where
  visited : visits.map Prod.fst <+: devices
  all : result = none → visits.map Prod.fst = devices

theorem returns_firstAudioCard (m : Machine) (w : World) (devices : List UsbDevice) :
    ∃ result visits, Returns (firstAudioCard devices) m w result
        (w.recordAll (visits.flatMap Prod.snd)) ∧
      VisitsInOrder devices visits result ∧ CardRuns m w visits ∧
      ((∀ version, result.map PeripheralVersion.version = some version →
          m.FirstGenuine w visits version) ↔ m.AnswersInFull w visits) := by
  induction devices generalizing w with
  | nil =>
      refine ⟨none, [], returns_pure_self, ⟨List.prefix_rfl, fun _ => rfl⟩, .nil w,
        iff_of_true ?_ trivial⟩
      intro version hversion
      cases hversion
  | cons device devices ih =>
      obtain ⟨result, requests, hdevice, hrequests, hanswer⟩ :=
        returns_audioCardVersionOf m w device
      cases result with
      | some version =>
          obtain ⟨interface, k, bytes, hanswers, hversion⟩ :=
            (hanswer version.version).mp rfl
          have hvisited : VisitsInOrder (device :: devices) [(device, requests)] (some version) :=
            ⟨List.prefix_append [device] devices, fun hnone => by cases hnone⟩
          refine ⟨some version, [(device, requests)], ?_, hvisited, .cons hrequests (.nil _), ?_⟩
          · rw [List.flatMap_singleton]
            exact returns_bind.mpr ⟨some version, _, hdevice, returns_pure_self⟩
          · rw [← firstGenuine_iff_of_answers hanswers, ← hversion]
            constructor
            · intro h
              exact h version.version rfl
            · rintro h _ ⟨⟩
              exact h
      | none =>
          have hnone : ∀ interface k bytes, ¬ m.AnswersAt w device interface k bytes := by
            intro interface k bytes hanswers
            have hsome := (hanswer _).mpr ⟨interface, k, bytes, hanswers, rfl⟩
            cases hsome
          obtain ⟨result, visits, hrest, hvisited, hruns, hiff⟩ := ih (w.recordAll requests)
          have hvisited' : VisitsInOrder (device :: devices) ((device, requests) :: visits)
              result :=
            ⟨(List.prefix_cons_inj device).mpr hvisited.visited,
              fun hresult => congrArg (device :: ·) (hvisited.all hresult)⟩
          refine ⟨result, (device, requests) :: visits, ?_, hvisited', .cons hrequests hruns, ?_⟩
          · rw [List.flatMap_cons, World.recordAll_append]
            exact returns_bind.mpr ⟨none, _, hdevice, hrest⟩
          · rw [answersInFull_cons_of_not_answers hnone, ← hiff]
            simp only [firstGenuine_cons_of_not_answers hnone]

end Devices

/-- Every device is polled at most `capeMaxPolls` times and a claimed interface is
released once before the next device. The version that is returned is that of one
genuine read, of the first device with such a read, exactly when the read that
completes the first answer delivers the whole of it. -/
theorem audioCardVersion_genuine_iff (m : Machine) (w : World) :
    ∃ result visits,
      Returns audioCardVersion m w result
        ((w.record .usbDevices).recordAll (visits.flatMap Prod.snd)) ∧
      VisitsInOrder ((m.answer .usbDevices (w.asked .usbDevices)).getD []) visits result ∧
      CardRuns m (w.record .usbDevices) visits ∧
      ((∀ version, result.map PeripheralVersion.version = some version →
          m.FirstGenuine (w.record .usbDevices) visits version) ↔
        m.AnswersInFull (w.record .usbDevices) visits) := by
  cases hdevices : m.answer .usbDevices (w.asked .usbDevices) with
  | none =>
      refine ⟨none, [], ?_, ⟨List.prefix_rfl, fun _ => rfl⟩, .nil _, iff_of_true ?_ trivial⟩
      · exact returns_bind.mpr
          ⟨none, _, returns_ask_of_eq hdevices, returns_pure_self⟩
      · intro version hversion
        cases hversion
  | some devices =>
      obtain ⟨result, visits, hrun, hvisited, hruns, hiff⟩ :=
        returns_firstAudioCard m (w.record .usbDevices) devices
      refine ⟨result, visits, ?_, hvisited, hruns, hiff⟩
      exact returns_bind.mpr ⟨some devices, _, returns_ask_of_eq hdevices, hrun⟩

/-- An audio card that answers every read with the header of a reply only. -/
def shortReplyCard : Machine :=
  { Machine.silent with
    answer := fun request _ =>
      match request with
      | .usbDevices => some [⟨1, some ⟨0x32AC, 0x0010, 1, 0, 0, none⟩, none⟩]
      | .usbOpen _ => true
      | .usbActiveConfig _ => some [⟨3, [0x03]⟩]
      | .usbClaimInterface _ _ => true
      | .usbWriteControl _ _ _ => true
      | .usbReadControl _ _ _ => some [0x01, 0x00, 0x0D, 0x00, 0x03, 0x81]
      | other => other.silence }

/-- Six bytes complete the answer of this card, and the version that is returned
has the data bytes of the request. No read was genuine. -/
theorem shortReplyCard_reports_request :
    (∃ version w', Returns audioCardVersion shortReplyCard .fresh (some version) w' ∧
        version.version = ⟨0, 0, 0⟩) ∧
      ∀ device w interface k bytes, shortReplyCard.Delivers w device interface k bytes →
        ¬ GenuineReply bytes := by
  refine ⟨⟨_, _, rfl, rfl⟩, ?_⟩
  intro device w interface k bytes hdelivers hgenuine
  obtain rfl : [0x01, 0x00, 0x0D, 0x00, 0x03, 0x81] = bytes := Option.some.inj hdelivers.read
  have hlength : 22 ≤ 6 := hgenuine.2
  omega

end FrameworkFfi
