import SoupBin.SocketLink
import SoupBin.SocketOwners

/-!
# The bytes that an owner reads and writes

Whatever its owner does, the packets that have been delivered are those that the
bytes read so far begin with, and the bytes handed to asio are those of the packets
offered, in order.
-/

namespace SoupBin.Socket
open Records Receiving

/-! ## Reading -/

/-- The bytes that a completion brings. -/
def Completion.bytes : Completion → Bytes
  | .header (.ok bytes) | .payload (.ok bytes) => bytes
  | _ => []

/-- The packet that it completes. -/
def Completion.packet? (s : Socket) : Completion → Option ReadPacket
  | .header (.ok bytes) =>
    let read := ({ s.readPacket with header := bytes } : ReadPacket).resizePayload
    if bytes.length = packetHeaderLength ∧ read.1 = .emptyPayload then some read.2 else none
  | .payload (.ok bytes) =>
    if bytes.length = s.readPacket.payloadSize then some { s.readPacket with payload := bytes }
    else none
  | _ => none

/-- The bytes begin with the packets that have been heard. -/
structure Whole (heard : List (UInt8 × Bytes)) (bytes : Bytes) : Prop where
  short : ∀ c ∈ heard, c.2.length ≤ 65534
  parsed : (heard.map encoding).flatten <+: bytes

/-- While a read is pending, what follows them is part of the packet being read. -/
def Hears (heard : List (UInt8 × Bytes)) (bytes : Bytes) (s : Socket) : Prop :=
  ∃ part, Reading s part ∧ (s.readPending = true → (heard.map encoding).flatten ++ part = bytes)

section
variable {P : WritePacket → Prop} {heard : List (UInt8 × Bytes)} {bytes part : Bytes}
  {s s' : Socket} {script : Script}

theorem whole_nil : Whole [] [] := ⟨fun _ h => absurd h List.not_mem_nil, List.nil_prefix⟩

theorem Whole.more (h : Whole heard bytes) (more : Bytes) : Whole heard (bytes ++ more) :=
  ⟨h.short, h.parsed.trans (List.prefix_append _ _)⟩

theorem Hears.same (h : Hears heard bytes s) (hs : SameReads s s') : Hears heard bytes s' := by
  obtain ⟨part, hreading, hbytes⟩ := h
  exact ⟨part, hreading.same hs, fun hp => hbytes (hs.pending ▸ hp)⟩

/-- Nothing is read any more. -/
theorem hears_unread (h : Reading s part) (hidle : s.readPending = false) : Hears heard bytes s :=
  ⟨part, h, fun hp => by rw [hidle] at hp; cases hp⟩

/-- The owner is told, and does not read on. -/
theorem hears_told (h : Reading s []) (hidle : s.readPending = false) {ops : List Operation}
    (hops : ∀ op ∈ ops, Duty P false op) :
    Hears heard bytes (ops.foldl perform s).maybeSignalClosed :=
  (hears_unread h hidle).same
    ((stays_performs hops s).toSameReads.trans (sameReads_maybeSignalClosed _))

theorem hears_readFailed (h : Reading s []) (hidle : s.readPending = false)
    (hs : script.Minds P) (ec : IoError) :
    Hears heard bytes ((scripted script).readFailed ec s).maybeSignalClosed := by
  cases ec with
  | operationAborted => exact hears_told h hidle (hs .readAborted)
  | eof => exact hears_told h hidle (hs .readEndOfFile)
  | other code => exact hears_told h hidle (hs (.readFailure (.other code)))

/-- Other completions than those of reads. -/
theorem sameReads_next {completion : Completion} (hs : script.Minds P)
    (hread : (completion.input script).isRead = false) (hconnect : completion ≠ .connect none) :
    SameReads s (system.next (completion.input script) s) := by
  match completion with
  | .connect (some .operationAborted) =>
    exact (sameReads_connectDone s).trans (sameReads_maybeSignalClosed _)
  | .connect (some .eof) =>
    exact ((sameReads_connectDone s).trans
      (stays_performs (hs (.connectFailure .eof)) _).toSameReads).trans
        (sameReads_maybeSignalClosed _)
  | .connect (some (.other code)) =>
    exact ((sameReads_connectDone s).trans
      (stays_performs (hs (.connectFailure (.other code))) _).toSameReads).trans
        (sameReads_maybeSignalClosed _)
  | .write result =>
    exact ((sameReads_writeDone s).trans (stays_packetSent hs result _).toSameReads).trans
      (sameReads_maybeSignalClosed _)
  | .closed =>
    have hnotified : SameReads s s.notified := ⟨rfl, rfl, rfl, rfl⟩
    exact hnotified.trans (stays_performs (hs .closed) _).toSameReads

theorem Reading.pending (h : Reading s part)
    (hop : .readHeader ∈ s.outstanding ∨ .readPayload ∈ s.outstanding) : s.readPending = true := by
  have hreads := h.reads
  cases hp : s.readPending with
  | true => rfl
  | false =>
    rw [hp, Bool.toNat_false, Nat.add_eq_zero_iff, List.count_eq_zero, List.count_eq_zero] at hreads
    exact hop.elim (fun h => absurd h hreads.1) fun h => absurd h hreads.2

/-- A packet is all there. -/
theorem Whole.packet (h : Whole heard bytes) {packet : ReadPacket} (hp : Complete packet)
    (hbytes : (heard.map encoding).flatten ++ bytesOf packet = bytes) :
    Whole (heard ++ [content packet]) bytes ∧
      ((heard ++ [content packet]).map encoding).flatten = bytes := by
  obtain ⟨hshort, hencoding⟩ := hp.encoding
  have hall : ((heard ++ [content packet]).map encoding).flatten = bytes := by
    rw [← hbytes, hencoding]
    simp
  refine ⟨⟨fun c hc => ?_, hall ▸ List.prefix_refl _⟩, hall⟩
  rcases List.mem_append.mp hc with hc | hc
  · exact h.short c hc
  · rw [List.mem_singleton.mp hc]
    exact hshort

theorem Hears.header {before : Bytes} (hw : Whole heard before) (h : Hears heard before s)
    (hop : .readHeader ∈ s.outstanding) (hs : script.Minds P) {bytes : Bytes}
    (hapart : ¬(Input.headerCompleted (.ok bytes) script).Makes rereads s) :
    let packets := ((Completion.header (.ok bytes)).packet? s).toList.map content
    Whole (heard ++ packets) (before ++ bytes) ∧ Hears (heard ++ packets) (before ++ bytes)
      (system.next (.headerCompleted (.ok bytes) script) s) := by
  obtain ⟨part, hreading, hbefore⟩ := h
  obtain ⟨rfl, hdone⟩ := hreading.headerDone hop
  have hbefore := hbefore (hreading.pending (Or.inl hop))
  rw [List.append_nil] at hbefore
  by_cases hl : bytes.length = packetHeaderLength
  · rcases Nat.lt_trichotomy (readBe16 bytes) packetTypeLength with hsize | hsize | hsize
    · -- the header is malformed
      have hresize : ({ s.readPacket with header := bytes } : ReadPacket).resizePayload =
          (.malformedHeader, ⟨bytes, []⟩) := ReadPacket.resizePayload_malformed hsize
      have hnone : (Completion.header (.ok bytes)).packet? s = none := by
        simp [Completion.packet?, hresize]
      simp only [hnone, Option.toList_none, List.map_nil, List.append_nil]
      have hread := (scripted script).headerReceived_malformed (w := readDone .readHeader s)
        hl hresize
      change Whole heard _ ∧ Hears heard _
        ((scripted script).headerReceived (.ok bytes) (readDone .readHeader s)).maybeSignalClosed
      rw [hread]
      exact ⟨hw.more bytes,
        hears_told (hdone.setReadPacket rfl _) rfl (hs (.readPacketFailure .malformedHeader))⟩
    · have hresize : ({ s.readPacket with header := bytes } : ReadPacket).resizePayload =
          (.emptyPayload, ⟨bytes, []⟩) := ReadPacket.resizePayload_empty hsize
      have hsome : (Completion.header (.ok bytes)).packet? s = some ⟨bytes, []⟩ := by
        simp [Completion.packet?, hl, hresize]
      have hcomplete : Complete ⟨bytes, []⟩ := ⟨hl, hsize⟩
      obtain ⟨hwhole, hall⟩ := (hw.more bytes).packet hcomplete (by simp [bytesOf, hbefore])
      have hnew := hreading.empty hop hl hsize hapart
      simp only [hsome, Option.toList_some, List.map_cons, List.map_nil]
      refine ⟨hwhole, [], hnew, fun _ => ?_⟩
      rw [hall, List.append_nil]
    · have hresize := ReadPacket.resizePayload_resized
        (p := { s.readPacket with header := bytes }) hsize
      have hnone : (Completion.header (.ok bytes)).packet? s = none := by
        simp [Completion.packet?, hresize]
      have hnew := hreading.resized hop hl hsize script
      simp only [hnone, Option.toList_none, List.map_nil, List.append_nil]
      exact ⟨hw.more bytes, bytes, hnew, fun _ => congrArg (· ++ bytes) hbefore⟩
  · have hnone : (Completion.header (.ok bytes)).packet? s = none := by
      simp [Completion.packet?, hl]
    simp only [hnone, Option.toList_none, List.map_nil, List.append_nil]
    have hread := (scripted script).headerReceived_short (w := readDone .readHeader s) hl
    change Whole heard _ ∧ Hears heard _
      ((scripted script).headerReceived (.ok bytes) (readDone .readHeader s)).maybeSignalClosed
    rw [hread]
    exact ⟨hw.more bytes, hears_told hdone rfl (hs (.readFailure .operationAborted))⟩

theorem Hears.payload {before : Bytes} (hw : Whole heard before) (h : Hears heard before s)
    (hop : .readPayload ∈ s.outstanding) (hs : script.Minds P) {bytes : Bytes}
    (hapart : ¬(Input.payloadCompleted (.ok bytes) script).Makes rereads s) :
    let packets := ((Completion.payload (.ok bytes)).packet? s).toList.map content
    Whole (heard ++ packets) (before ++ bytes) ∧ Hears (heard ++ packets) (before ++ bytes)
      (system.next (.payloadCompleted (.ok bytes) script) s) := by
  obtain ⟨part, hreading, hbefore⟩ := h
  obtain ⟨⟨hpart, hheader, hsize⟩, hdone⟩ := hreading.payloadDone hop
  have hbefore := hbefore (hreading.pending (Or.inr hop))
  by_cases hl : bytes.length = s.readPacket.payloadSize
  · have hsome : (Completion.payload (.ok bytes)).packet? s =
        some { s.readPacket with payload := bytes } := if_pos hl
    have hcomplete : Complete { s.readPacket with payload := bytes } := by
      rw [hpart] at hheader hsize
      exact ⟨hheader, hl ▸ hsize⟩
    obtain ⟨hwhole, hall⟩ := (hw.more bytes).packet hcomplete (by
      rw [← hbefore, hpart, bytesOf, List.append_assoc])
    have hnew := hreading.filled hop hl hapart
    simp only [hsome, Option.toList_some, List.map_cons, List.map_nil]
    refine ⟨hwhole, [], hnew, fun _ => ?_⟩
    rw [hall, List.append_nil]
  · have hnone : (Completion.payload (.ok bytes)).packet? s = none := if_neg hl
    simp only [hnone, Option.toList_none, List.map_nil, List.append_nil]
    have hread := (scripted script).payloadReceived_short (w := readDone .readPayload s) hl
    change Whole heard _ ∧ Hears heard _
      ((scripted script).payloadReceived (.ok bytes) (readDone .readPayload s)).maybeSignalClosed
    rw [hread]
    exact ⟨hw.more bytes, hears_told hdone rfl (hs (.readFailure .operationAborted))⟩

/-- What a completion, or nothing at all, does to what has been read. -/
theorem Hears.mirrors {completion : Option Completion} (hw : Whole heard bytes)
    (h : Hears heard bytes s) (hm : Mirrors P completion s s')
    (henabled : ∀ c, completion = some c → ∀ script, system.enabled (c.input script) s)
    (hconnect : completion ≠ some (.connect none)) :
    let packets := (completion.bind (·.packet? s)).toList.map content
    let more := (completion.map (·.bytes)).getD []
    Whole (heard ++ packets) (bytes ++ more) ∧ Hears (heard ++ packets) (bytes ++ more) s' := by
  have hquiet (hpacket : completion.bind (·.packet? s) = none)
      (hbytes : (completion.map (·.bytes)).getD [] = []) (h' : Hears heard bytes s') :
      Whole (heard ++ (completion.bind (·.packet? s)).toList.map content)
        (bytes ++ (completion.map (·.bytes)).getD []) ∧
      Hears (heard ++ (completion.bind (·.packet? s)).toList.map content)
        (bytes ++ (completion.map (·.bytes)).getD []) s' := by
    rw [hpacket, hbytes, Option.toList_none, List.map_nil, List.append_nil, List.append_nil]
    exact ⟨hw, h'⟩
  cases completion with
  | none =>
    obtain ⟨ops, hops, hs'⟩ := hm
    obtain rfl := performs_of_noticed hs'
    exact hquiet rfl rfl (h.same (stays_performs hops s).toSameReads)
  | some completion =>
    obtain ⟨script, hs, hapart, rfl⟩ := hm
    have henabled := henabled completion rfl script
    have hconnect : completion ≠ .connect none := fun heq => hconnect (congrArg some heq)
    cases completion with
    | header result =>
      cases result with
      | ok bytes => exact Hears.header hw h henabled hs hapart
      | error ec =>
        obtain ⟨part, hreading, -⟩ := h
        exact hquiet rfl rfl (hears_readFailed (hreading.headerDone henabled).2 rfl hs ec)
    | payload result =>
      cases result with
      | ok bytes => exact Hears.payload hw h henabled hs hapart
      | error ec =>
        obtain ⟨part, hreading, -⟩ := h
        exact hquiet rfl rfl (hears_readFailed (hreading.payloadDone henabled).2 rfl hs ec)
    | connect ec => exact hquiet rfl rfl (h.same (sameReads_next hs rfl hconnect))
    | write result => exact hquiet rfl rfl (h.same (sameReads_next hs rfl hconnect))
    | closed => exact hquiet rfl rfl (h.same (sameReads_next hs rfl hconnect))

/-- Any completion may come to an owner who does nothing. -/
theorem mirrors_silent (P : WritePacket → Prop) (completion : Option Completion) (s : Socket) :
    ∃ s', Mirrors P completion s s' := by
  cases completion with
  | none => exact ⟨s, .refl P false s⟩
  | some completion =>
    have hminds : Script.Minds P silent := fun _ _ hop => absurd hop List.not_mem_nil
    refine ⟨_, silent, hminds, Bool.eq_false_iff.mp ?_, rfl⟩
    have k : (Noticed.scripted rereads silent).Keeps fun w => w.made = false :=
      Noticed.keeps_silent
    cases completion with
    | connect ec => exact k.connectCompleted ec rfl
    | header result => exact k.headerCompleted result rfl
    | payload result => exact k.payloadCompleted result rfl
    | write result => exact k.writeCompleted result rfl
    | closed => rfl

/-- A socket that has just been connected has read nothing. -/
theorem Hears.connected (h : Hears heard bytes s) (hearly : s.Early)
    (hm : Mirrors P (some (.connect none)) s s') (hop : .connect ∈ s.outstanding) :
    Hears [] [] s' := by
  obtain ⟨part, hreading, -⟩ := h
  obtain ⟨-, -, hpayload⟩ := hearly.idle hop
  obtain ⟨script, -, hapart, rfl⟩ := hm
  have hpart : part = [] := (hreading.part.resolve_right fun hp => hpayload hp.1).2
  exact ⟨part, hreading.next rfl hapart, fun _ => by rw [hpart]; rfl⟩

end

/-! ## Writing -/

/-- The bytes that asio has been handed. -/
def sent (s : Socket) : Bytes := (s.writtenPackets.map WritePacket.wire).flatten

section
variable {P : WritePacket → Prop} {before : List WritePacket} {s s' : Socket}

theorem InLine.next (h : InLine P before s) {i : Input} (hi : i.Offers P) :
    ∃ before', InLine P before' (system.next i s) := by
  by_cases hdone : i.Completes s
  · obtain ⟨new, hnew, hall⟩ := popped_next hi hdone h.one_write
    refine ⟨_, h.popped hnew hall ?_⟩
    match i, hdone with
    | .writeCompleted (.ok n) script, ⟨packet, hpacket, _⟩ =>
      rintro hempty
      rw [hempty] at hpacket
      cases hpacket
  · exact ⟨before, h.queues (queuesOnly_next hi hdone)⟩

/-- Of what the owner offers, in whatever run. -/
theorem Sees.inLine {completions : List Completion} (h : InLine P before s)
    (hsees : Sees P completions s s') : ∃ before', InLine P before' s' := by
  obtain ⟨inputs, hrun, -⟩ := hsees
  apply hrun.keeps (I := fun s => ∃ before, InLine P before s) _ ⟨before, h⟩
  rintro i s hi ⟨before, h⟩
  exact h.next hi.2.1.offers

theorem inLine_fresh (isOpen : Bool) (limit : Nat) : InLine P [] (fresh isOpen limit) :=
  ⟨fun _ h => absurd h List.not_mem_nil, rfl, rfl, Nat.zero_le _⟩

theorem InLine.uses (h : InLine P before s) (huses : Uses P s s') : InLine P before s' := by
  obtain ⟨ops, hops, hs'⟩ := (huses.does : Does P false s s')
  rw [performs_of_noticed hs']
  exact h.queues (queues_performs (offer_of_duty hops) s)

theorem InLine.asyncRead (h : InLine P before s) : InLine P before s.asyncRead :=
  h.queues (.same (Watched.sameQueue_asyncRead s))

/-- Packets that have been built can be told apart on the wire. -/
theorem InLine.sent (h : InLine IsBuilt before s) :
    (∀ c ∈ s.acceptedPackets.map carried, c.2.length ≤ 65534) ∧
      s.sent <+: ((s.acceptedPackets.map carried).map encoding).flatten := by
  constructor
  · intro c hc
    obtain ⟨packet, hp, rfl⟩ := List.mem_map.mp hc
    exact (wire_of_built (h.offered packet hp)).1
  · have hwires : s.acceptedPackets.map WritePacket.wire =
        (s.acceptedPackets.map carried).map encoding := by
      rw [List.map_map]
      exact List.map_congr_left fun packet hp => (wire_of_built (h.offered packet hp)).2.1
    rw [← hwires, Socket.sent, h.written, h.accepted, List.map_append, List.map_append,
      List.flatten_append, List.flatten_append, List.prefix_append_right_inj]
    cases s.writePackets with
    | nil => exact List.nil_prefix
    | cons packet rest => simp

/-- A stream has one reading only. -/
theorem prefix_of_encodings {heard sent : List (UInt8 × Bytes)}
    (hheard : ∀ c ∈ heard, c.2.length ≤ 65534) (hsent : ∀ c ∈ sent, c.2.length ≤ 65534)
    (h : (heard.map encoding).flatten <+: (sent.map encoding).flatten) : heard <+: sent := by
  induction heard generalizing sent with
  | nil => exact List.nil_prefix
  | cons c heard ih =>
    have hc := hheard c List.mem_cons_self
    rw [List.map_cons, List.flatten_cons] at h
    obtain ⟨gs, hmap⟩ := Format.frame_of_prefix (encoding_isFrame hc) (by
      intro g hg
      obtain ⟨d, hd, rfl⟩ := List.mem_map.mp hg
      exact encoding_isFrame (hsent d hd)) h
    obtain ⟨d, sent, rfl, hd, -⟩ := List.map_eq_cons_iff.mp hmap
    obtain rfl := encoding_inj (hsent d List.mem_cons_self) hc hd
    rw [List.map_cons, List.flatten_cons, List.prefix_append_right_inj] at h
    exact (List.prefix_cons_inj d).mpr (ih (fun c hc => hheard c (List.mem_cons_of_mem _ hc))
      (fun c hc => hsent c (List.mem_cons_of_mem _ hc)) h)

/-- Of nothing, nothing has been heard. -/
theorem Whole.none {heard : List (UInt8 × Bytes)} (h : Whole heard []) : heard = [] := by
  cases heard with
  | nil => rfl
  | cons packet heard =>
    have hparsed := List.prefix_nil.mp h.parsed
    rw [List.map_cons, List.flatten_cons, List.append_eq_nil_iff] at hparsed
    exact absurd hparsed.1 (encoding_isFrame (h.short packet List.mem_cons_self)).ne_nil

/-- What one socket has sent is what the owner of another hears. -/
theorem Whole.heard {heard : List (UInt8 × Bytes)} {bytes : Bytes} (hw : Whole heard bytes)
    (h : InLine IsBuilt before s) (hbytes : bytes <+: s.sent) :
    heard <+: s.acceptedPackets.map carried := by
  obtain ⟨hshort, hsent⟩ := h.sent
  exact prefix_of_encodings hw.short hshort ((hw.parsed.trans hbytes).trans hsent)

end

end SoupBin.Socket
