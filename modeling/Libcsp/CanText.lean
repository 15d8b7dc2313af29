/-
This file says which bytes of the CAN frames the receiver stores, and which packets it makes from them.
-/
import Libcsp.Pbuf
import Libcsp.RxFrames

namespace Libcsp

open BitField KeyedList

variable {cfg : Config} {qfifoLen : Nat}

/-! ## The text of some frames -/

/-- The bytes of a packet frame in a BEGIN frame. CFP 1 sends the length behind the header, and CFP 2 sends the
start of the header in the identifier. -/
def canBeginText (cfg : Config) (frame : CanFrame) : List UInt8 :=
  if cfg.version = 1 then frame.data.take 4 ++ frame.data.drop 6 else beBytes 2 (frame.id >>> 13) ++ frame.data

/-- The bytes of a packet frame in a BEGIN frame and the frames behind it. -/
def canText (cfg : Config) : List CanFrame → List UInt8
  | [] => []
  | frame :: rest => canBeginText cfg frame ++ rest.flatMap CanFrame.data

theorem canText_snoc {frames : List CanFrame} (some' : frames ≠ []) (frame : CanFrame) :
    canText cfg (frames ++ [frame]) = canText cfg frames ++ frame.data := by
  cases frames with
  | nil => exact absurd rfl some'
  | cons head rest => simp [canText]

/-- The mask of the version separates the packets. -/
def canMask (cfg : Config) : Nat := if cfg.version = 1 then cfpIdConnMask else cfp2IdConnMask

/-- A partial packet of CFP 1 has these bytes of its frame. -/
structure Pbuf.Gathers1 (pbuf : Pbuf) (mtu : Nat) (text : List UInt8) : Prop where
  id : pbuf.frame.packet.id = id1Fields (beValue (text.take 4))
  length : 4 + pbuf.rxCount.toNat = text.length
  stored : pbuf.frame.packet.dataBytes pbuf.rxCount.toNat = text.drop 4
  mtu : pbuf.frame.packet.length.toNat ≤ mtu

/-- A partial packet of CFP 2 has these bytes of its frame. -/
structure Pbuf.Gathers2 (pbuf : Pbuf) (text : List UInt8) : Prop where
  begins : pbuf.frame.frameBegin = dataAt - id2HeaderSize
  stored : pbuf.frame.bytes = text
  header : id2HeaderSize ≤ text.length

def Pbuf.Gathers (cfg : Config) (mtu : Nat) (pbuf : Pbuf) (text : List UInt8) : Prop :=
  if cfg.version = 1 then pbuf.Gathers1 mtu text else pbuf.Gathers2 text

/-- These frames arrived in this order among the frames of the stream, and have the key. -/
structure CameFrom (mask key : Nat) (stream frames : List CanFrame) : Prop where
  nonempty : frames ≠ []
  order : frames.Sublist stream
  key : ∀ frame ∈ frames, frame.id &&& mask = key

theorem CameFrom.later {mask key : Nat} {stream frames : List CanFrame} (came : CameFrom mask key stream frames)
    (frame : CanFrame) : CameFrom mask key (stream ++ [frame]) frames :=
  ⟨came.nonempty, came.order.trans (List.sublist_append_left stream [frame]), came.key⟩

theorem CameFrom.single {mask : Nat} (stream : List CanFrame) (frame : CanFrame) :
    CameFrom mask (frame.id &&& mask) (stream ++ [frame]) [frame] :=
  ⟨List.cons_ne_nil _ _, List.sublist_append_right stream [frame], fun other member => by
    rw [List.mem_singleton.mp member]⟩

theorem CameFrom.snoc {mask : Nat} {stream frames : List CanFrame} {frame : CanFrame}
    (came : CameFrom mask (frame.id &&& mask) stream frames) :
    CameFrom mask (frame.id &&& mask) (stream ++ [frame]) (frames ++ [frame]) := by
  refine ⟨by simp, came.order.append_right [frame], fun other member => ?_⟩
  rcases List.mem_append.mp member with old | new
  · exact came.key other old
  · rw [List.mem_singleton.mp new]

/-- Each partial packet has the bytes of some frames of the stream. -/
def Can.Gathered (can : Can cfg qfifoLen) (stream : List CanFrame) : Prop :=
  ∀ pbuf ∈ can.pbufs, ∃ frames, CameFrom (canMask cfg) (pbuf.key (canMask cfg)) stream frames ∧
    pbuf.Gathers cfg can.link.mtu.toNat (canText cfg frames)

/-- CFP 1 strips the header before it stores data. -/
def canFrameLength (cfg : Config) (text : List UInt8) : Nat := if cfg.version = 1 then 4 else text.length

/-- A packet of CFP 2 for the broadcast address goes to the own one. -/
def canRewrite (cfg : Config) (addr : UInt16) (id : CspId) : CspId :=
  if cfg.version = 1 then id else if id.dst = 0x3FFF then { id with dst := addr } else id

/-! ## One frame -/

/-- The receiver has bound a frame to a partial packet, which is the first one with its key. -/
structure Can.BoundTo (can bound : Can cfg qfifoLen) (mask : Nat) (pbuf : Pbuf) : Prop where
  setup : can.SameSetup bound
  handed : bound.link.handed = can.link.handed
  removed : ∀ other ∈ remove (Pbuf.key mask) (pbuf.key mask) bound.pbufs, other ∈ can.pbufs
  stored : ∀ pbuf' : Pbuf, pbuf'.key mask = pbuf.key mask → ∀ other ∈ store (Pbuf.key mask) pbuf' bound.pbufs,
    other = pbuf' ∨ other ∈ can.pbufs

theorem pbufCleanup_mem (now : UInt32) (unlinked : Bool) (pbufs : List Pbuf) (pool : Pool cfg) :
    ∀ pbuf ∈ (pbufCleanup now unlinked pbufs pool).1, pbuf ∈ pbufs := by
  induction pbufs generalizing unlinked pool with
  | nil => exact fun pbuf member => member
  | cons head rest ih =>
      intro pbuf member
      rw [pbufCleanup] at member
      split at member
      · simp only at member
        split at member
        · rcases List.mem_cons.mp member with rfl | later
          · exact List.mem_cons_self
          · exact List.mem_cons_of_mem head (ih _ _ pbuf later)
        · exact List.mem_cons_of_mem head (ih _ _ pbuf member)
      · rcases List.mem_cons.mp member with rfl | later
        · exact List.mem_cons_self
        · exact List.mem_cons_of_mem head (ih _ _ pbuf later)

/-- The binding of a frame uses an old partial packet or, for a BEGIN frame, adds a new one. -/
theorem canBind_bound (can : Can cfg qfifoLen) (id mask : Nat) (begins : Bool) (now : UInt32) :
    (∃ err after, canBind can id mask begins now = .error (err, after) ∧ can.SameSetup after ∧
        after.link.handed = can.link.handed ∧ ∀ pbuf ∈ after.pbufs, pbuf ∈ can.pbufs) ∨
      ∃ pbuf bound, canBind can id mask begins now = .ok (pbuf, bound) ∧ can.BoundTo bound mask pbuf ∧
        pbuf.key mask = id &&& mask ∧
        (begins = false → ∃ old ∈ can.pbufs, pbuf = { old with lastUsed := now }) := by
  have cleaned := pbufCleanup_mem now false can.pbufs can.link.pool
  rcases canBind_cases can id mask begins now with ⟨old, found, binds⟩ | ⟨_, _, binds⟩ |
    ⟨_, _, _, link, binds, handed, addr, mtu⟩ | ⟨_, begin, _, link, pbuf, binds, handed, addr, mtu, cfpid, _⟩
  · right
    have key : old.key mask = id &&& mask := lookup_key found
    refine ⟨_, can, binds, ⟨.refl can, rfl, ?_, ?_⟩, key, fun _ => ⟨old, lookup_mem found, rfl⟩⟩
    · exact fun other member => (remove_sublist _).subset member
    · exact fun pbuf' _ other member => mem_store member
  · exact .inl ⟨_, _, binds, ⟨rfl, rfl⟩, rfl, fun pbuf member => member⟩
  · exact .inl ⟨_, _, binds, ⟨addr, mtu⟩, handed, cleaned⟩
  · right
    have key : pbuf.key mask = id &&& mask := by rw [Pbuf.key, cfpid]
    refine ⟨pbuf, _, binds, ⟨⟨addr, mtu⟩, handed, ?_, ?_⟩, key, fun later => ?_⟩
    · intro other member
      rw [remove, if_pos rfl] at member
      exact cleaned other member
    · intro pbuf' same other member
      rw [store, if_pos same.symm] at member
      exact (List.mem_cons.mp member).imp_right (cleaned other)
    · rw [begin] at later
      cases later

variable {can bound : Can cfg qfifoLen} {mask : Nat} {pbuf pbuf' : Pbuf}

/-- What a frame with these bytes does: it drops its partial packet, keeps it, or delivers its packet. -/
inductive Can.Outcome (can after : Can cfg qfifoLen) (key : Nat) (text : List UInt8) : Prop
  | dropped (setup : can.SameSetup after) (handed : after.link.handed = can.link.handed)
      (others : ∀ pbuf ∈ after.pbufs, pbuf ∈ can.pbufs) : Can.Outcome can after key text
  | kept (kept : Pbuf) (setup : can.SameSetup after) (handed : after.link.handed = can.link.handed)
      (place : kept.key (canMask cfg) = key) (gathers : kept.Gathers cfg can.link.mtu.toNat text)
      (others : ∀ pbuf ∈ after.pbufs, pbuf = kept ∨ pbuf ∈ can.pbufs) : Can.Outcome can after key text
  | delivered (packet : Packet) (setup : can.SameSetup after)
      (handed : after.link.handed = can.link.handed ++ [packet])
      (whole : packet.FromFrame cfg text (canFrameLength cfg text) (canRewrite cfg can.link.addr) 0)
      (others : ∀ pbuf ∈ after.pbufs, pbuf ∈ can.pbufs) : Can.Outcome can after key text

theorem Can.BoundTo.countFrame (binds : can.BoundTo bound mask pbuf) : can.BoundTo bound.countFrame mask pbuf :=
  ⟨⟨binds.setup.addr, binds.setup.mtu⟩, binds.handed, binds.removed, binds.stored⟩

theorem Can.BoundTo.free (binds : can.BoundTo bound (canMask cfg) pbuf)
    (same : pbuf'.key (canMask cfg) = pbuf.key (canMask cfg)) {key : Nat} {text : List UInt8} :
    can.Outcome (pbufFree bound (canMask cfg) pbuf') key text :=
  .dropped ⟨binds.setup.addr, binds.setup.mtu⟩ binds.handed fun other member => by
    rw [pbufFree, same] at member
    exact binds.removed other member

theorem Can.BoundTo.store (binds : can.BoundTo bound (canMask cfg) pbuf)
    (same : pbuf'.key (canMask cfg) = pbuf.key (canMask cfg)) {text : List UInt8}
    (gathers : pbuf'.Gathers cfg can.link.mtu.toNat text) :
    can.Outcome (pbufStore bound (canMask cfg) pbuf') (pbuf.key (canMask cfg)) text :=
  .kept pbuf' ⟨binds.setup.addr, binds.setup.mtu⟩ binds.handed same gathers (binds.stored pbuf' same)

theorem Can.BoundTo.deliver (binds : can.BoundTo bound (canMask cfg) pbuf)
    (same : pbuf'.key (canMask cfg) = pbuf.key (canMask cfg)) {key : Nat} {text : List UInt8} {packet : Packet}
    (whole : packet.FromFrame cfg text (canFrameLength cfg text) (canRewrite cfg can.link.addr) 0) :
    can.Outcome (pbufDeliver bound (canMask cfg) pbuf' packet) key text := by
  refine .delivered packet ?_ ?_ whole ?_
  · exact ⟨(qfifoWrite_setup bound.link packet).1.trans binds.setup.addr,
      (qfifoWrite_setup bound.link packet).2.trans binds.setup.mtu⟩
  · rw [pbufDeliver, qfifoWrite_handed, binds.handed]
  · intro other member
    rw [pbufDeliver, same] at member
    exact binds.removed other member

/-- The counters of the interface do not matter. -/
theorem Can.Outcome.countFrame {after : Can cfg qfifoLen} {key : Nat} {text : List UInt8}
    (outcome : can.Outcome after key text) : can.Outcome after.countFrame key text := by
  cases outcome with
  | dropped setup handed others => exact .dropped ⟨setup.addr, setup.mtu⟩ handed others
  | kept kept setup handed place gathers others =>
      exact .kept kept ⟨setup.addr, setup.mtu⟩ handed place gathers others
  | delivered packet setup handed whole others =>
      exact .delivered packet ⟨setup.addr, setup.mtu⟩ handed whole others

/-! ## CFP 2 -/

theorem Pbuf.Gathers2.append {text data : List UInt8} (gathers : pbuf.Gathers2 text)
    (room : text.length + data.length < 2 ^ 16) : (pbuf.append data).Gathers2 (text ++ data) where
  begins := gathers.begins
  stored := by
    have count : pbuf.frame.frameLength.toNat = text.length := by
      rw [← Frame.bytes_length, gathers.stored]
    have length : (pbuf.append data).frame.frameLength.toNat = text.length + data.length := by
      rw [Pbuf.append, UInt16.toNat_add, toNat_ofNat16 (by omega), count, Nat.mod_eq_of_lt room]
    rw [Frame.bytes, length, ← gathers.stored, Frame.bytes_length]
    exact Frame.take_write _ _ _
  header := by
    rw [List.length_append]
    exact Nat.le_add_right_of_le gathers.header

/-- The BEGIN frame stores the header. -/
theorem can2Begin_gathers (pbuf : Pbuf) {frame : CanFrame} (long : 4 ≤ frame.data.length) :
    (can2Begin pbuf frame).Gathers2 (beBytes 2 (frame.id >>> 13) ++ frame.data.take 4) := by
  have front : (frame.data.take 4).length = 4 := by
    rw [List.length_take]
    omega
  refine ⟨rfl, ?_, ?_⟩
  · have first := Frame.take_write (id2SetupRx pbuf.frame.packet) 0 (beBytes 2 (frame.id >>> 13))
    have last := Frame.take_write ((id2SetupRx pbuf.frame.packet).write 0 (beBytes 2 (frame.id >>> 13))) 2
      (frame.data.take 4)
    rw [beBytes_length] at first
    rw [front] at last
    exact last.trans (congrArg (· ++ frame.data.take 4) first)
  · rw [List.length_append, beBytes_length, front]
    rfl

/-- The packet of a complete frame comes from its bytes. -/
theorem can2Packet_fromFrame (version : cfg.version = 2) {addr : UInt16} {text : List UInt8}
    (gathers : pbuf.Gathers2 text) (fits : text.length ≤ cfg.bufferSize) :
    (can2Packet addr pbuf.frame).FromFrame cfg text (canFrameLength cfg text) (canRewrite cfg addr) 0 := by
  have second : cfg.version ≠ 1 := by omega
  have size : idHeaderSize cfg = id2HeaderSize := by rw [idHeaderSize, if_pos version]
  have strips : idStrip cfg pbuf.frame = id2Strip pbuf.frame := by rw [idStrip, if_pos version]
  have small := cfg.bufferSize_lt
  have header := gathers.header
  have count : pbuf.frame.frameLength.toNat = text.length := by rw [← Frame.bytes_length, gathers.stored]
  obtain ⟨packet, stripped⟩ : ∃ packet, id2Strip pbuf.frame = some packet := by
    rw [← strips]
    apply Option.ne_none_iff_exists'.mp
    rw [ne_eq, idStrip_isNone, size, count]
    omega
  obtain ⟨length, fields, payload⟩ := @idStrip_some cfg pbuf.frame packet (by rw [size]; exact gathers.begins)
    (strips.trans stripped)
  rw [gathers.stored] at length fields payload
  have rewritten : (can2Packet addr pbuf.frame).id = canRewrite cfg addr packet.id ∧
      (can2Packet addr pbuf.frame).length = packet.length ∧
      (can2Packet addr pbuf.frame).payload = packet.payload := by
    rw [can2Packet, stripped, Option.getD_some, can2Rewrite, canRewrite, if_neg second]
    split <;> exact ⟨rfl, rfl, rfl⟩
  obtain ⟨id, length', payload'⟩ := rewritten
  refine ⟨?_, ?_, ?_, ?_, ?_⟩
  · rw [size, canFrameLength, if_neg second]
    exact header
  · rw [id, fields]
  · rw [length', Nat.add_zero, length]
  · rw [payload', length', payload, List.take_of_length_le]
    rw [List.length_drop]
    omega
  · rw [length']
    omega

/-- The end of csp_can2_rx with these bytes. -/
theorem can2Append_gathers (version : cfg.version = 2) (room : can.link.mtu.toNat ≤ cfg.bufferSize)
    (binds : can.BoundTo bound (canMask cfg) pbuf) (same : pbuf'.key (canMask cfg) = pbuf.key (canMask cfg))
    {text : List UInt8} (gathers : pbuf'.Gathers2 text) (word : Nat) (data : List UInt8) :
    can.Outcome (can2Append bound pbuf' word data).2 (pbuf.key (canMask cfg)) (text ++ data) := by
  have second : cfg.version ≠ 1 := by omega
  have mask : cfp2IdConnMask = canMask cfg := by rw [canMask, if_neg second]
  have limit := can.link.mtu.toNat_lt
  have count : pbuf'.frame.frameLength.toNat = text.length := by rw [← Frame.bytes_length, gathers.stored]
  simp only [can2Append, mask, count, binds.setup.mtu]
  split
  · exact (Can.BoundTo.free binds same).countFrame
  · rename_i small
    have appended : (pbuf'.append data).Gathers2 (text ++ data) := gathers.append (by omega)
    split
    · apply binds.deliver (show (pbuf'.append data).key (canMask cfg) = pbuf.key (canMask cfg) from same)
      rw [← binds.setup.addr]
      apply can2Packet_fromFrame version appended
      rw [List.length_append]
      omega
    · apply binds.store (show (pbuf'.append data).key (canMask cfg) = pbuf.key (canMask cfg) from same)
      rw [Pbuf.Gathers, if_neg second]
      exact appended

/-! ## CFP 1 -/

/-- The BEGIN frame stores the header. -/
theorem can1Begin_gathers (pbuf : Pbuf) {frame : CanFrame} (long : 6 ≤ frame.data.length) {mtu : Nat}
    (fits : (can1Begin pbuf frame).frame.packet.length.toNat ≤ mtu) :
    (can1Begin pbuf frame).Gathers1 mtu (frame.data.take 4) := by
  have four : (frame.data.take 4).length = 4 := by
    rw [List.length_take]
    omega
  have stored := Frame.take_write (id1SetupRx pbuf.frame.packet) 0 (frame.data.take 4)
  rw [Nat.zero_add, four] at stored
  obtain ⟨packet, stripped, fields, _⟩ :=
    @stripHeader_of_bytes id1HeaderSize id1Fields
      { (id1SetupRx pbuf.frame.packet).write 0 (frame.data.take 4) with frameLength := 4 } (frame.data.take 4) []
      (by decide) rfl (by rw [List.append_nil]; exact stored) four
  refine ⟨?_, ?_, ?_, fits⟩
  · simp only [can1Begin, id1Strip, stripped, Option.getD_some]
    rw [List.take_take, fields]
    rfl
  · rw [four]
    rfl
  · rw [List.drop_eq_nil_of_le (by omega)]
    rfl

/-- The end of csp_can1_rx with these bytes. -/
theorem can1More_gathers (version : cfg.version = 1) (room : can.link.mtu.toNat ≤ cfg.bufferSize)
    (binds : can.BoundTo bound (canMask cfg) pbuf) (same : pbuf'.key (canMask cfg) = pbuf.key (canMask cfg))
    {text : List UInt8} (gathers : pbuf'.Gathers1 can.link.mtu.toNat text) (word : Nat) (data : List UInt8) :
    can.Outcome (can1More bound pbuf' word data) (pbuf.key (canMask cfg)) (text ++ data) := by
  have mask : cfpIdConnMask = canMask cfg := by rw [canMask, if_pos version]
  have size : idHeaderSize cfg = 4 := by
    rw [idHeaderSize, if_neg (by omega)]
    rfl
  have small := cfg.bufferSize_lt
  obtain ⟨id, length, stored, mtu⟩ := gathers
  simp only [can1More, mask]
  split
  · exact (Can.BoundTo.free binds same).countFrame
  · split
    · exact (Can.BoundTo.free binds (show ({ pbuf' with remain := pbuf'.remain - 1 } : Pbuf).key (canMask cfg) = _
        from same)).countFrame
    · rename_i fits
      have count : (pbuf'.rxCount + UInt16.ofNat data.length).toNat = pbuf'.rxCount.toNat + data.length := by
        rw [UInt16.toNat_add, toNat_ofNat16 (by omega), Nat.mod_eq_of_lt (by omega)]
      have appended : ({ pbuf'.frame.packet with
          mem := writeBytes pbuf'.frame.packet.mem (dataAt + pbuf'.rxCount.toNat) data } : Packet).dataBytes
            (pbuf'.rxCount.toNat + data.length) = (text ++ data).drop 4 := by
        rw [dataBytes_append, stored]
        exact (List.drop_append_of_le_length (by omega)).symm
      have front : (text ++ data).take 4 = text.take 4 := List.take_append_of_le_length (by omega)
      split
      · apply binds.store
        · exact same
        · rw [Pbuf.Gathers, if_pos version]
          refine ⟨?_, ?_, ?_, mtu⟩
          · rw [front]
            exact id
          · simp only [count, List.length_append]
            omega
          · simp only [count]
            exact appended
      · rename_i complete
        have whole := congrArg UInt16.toNat (not_not.mp complete)
        rw [count] at whole
        apply binds.deliver
        · exact same
        · refine ⟨?_, ?_, ?_, ?_, ?_⟩
          · rw [size, canFrameLength, if_pos version]
          · rw [canRewrite, if_pos version, idFields, if_neg (by omega), size, front]
            exact id
          · rw [size, List.length_append]
            simp only
            omega
          · rw [size, ← appended, whole]
            exact (List.take_of_length_le (Packet.payload_length _).le).symm
          · simp only
            omega

/-! ## The receiver and the stream -/

variable {stream : List CanFrame}

/-- The frame finds the bytes of the frames before it. -/
theorem Can.Gathered.old (gathered : can.Gathered stream) {frame : CanFrame} {now : UInt32}
    (key : pbuf.key (canMask cfg) = frame.id &&& canMask cfg)
    (found : ∃ old ∈ can.pbufs, pbuf = { old with lastUsed := now }) :
    ∃ frames, CameFrom (canMask cfg) (frame.id &&& canMask cfg) stream frames ∧
      pbuf.Gathers cfg can.link.mtu.toNat (canText cfg frames) := by
  obtain ⟨old, member, rfl⟩ := found
  obtain ⟨frames, came, gathers⟩ := gathered old member
  have place : old.key (canMask cfg) = frame.id &&& canMask cfg := key
  refine ⟨frames, place ▸ came, ?_⟩
  rw [Pbuf.Gathers] at gathers ⊢
  split
  · rename_i version
    rw [if_pos version] at gathers
    exact ⟨gathers.id, gathers.length, gathers.stored, gathers.mtu⟩
  · rename_i version
    rw [if_neg version] at gathers
    exact ⟨gathers.begins, gathers.stored, gathers.header⟩

theorem can1Rx_outcome (version : cfg.version = 1) (room : can.link.mtu.toNat ≤ cfg.bufferSize)
    (gathered : can.Gathered stream) (frame : CanFrame) (now : UInt32) :
    ∃ frames, CameFrom (canMask cfg) (frame.id &&& canMask cfg) (stream ++ [frame]) frames ∧
      can.Outcome (can1Rx can frame now).2 (frame.id &&& canMask cfg) (canText cfg frames) := by
  have mask : cfpIdConnMask = canMask cfg := by rw [canMask, if_pos version]
  rw [can1Rx, mask]
  rcases canBind_bound can frame.id (canMask cfg) (cfpType frame.id == cfpBegin) now with
    ⟨err, after, failed, setup, handed, others⟩ | ⟨pbuf, bound, bind, binds, key, found⟩
  · rw [failed]
    exact ⟨[frame], .single stream frame, .dropped setup handed others⟩
  · rw [bind]
    simp only
    by_cases begin : cfpType frame.id = cfpBegin
    · have same : ∀ mask, (can1Begin pbuf frame).key mask = pbuf.key mask := fun mask => by
        rw [Pbuf.key, Pbuf.key, (can1Begin_cfpid pbuf frame).1]
      refine ⟨[frame], .single stream frame, ?_⟩
      rw [if_pos begin]
      have counted := binds.countFrame
      split
      · exact counted.free rfl
      · rename_i long
        split
        · have failed : can.BoundTo { bound.countFrame with link := bound.countFrame.link.countRxError }
              (canMask cfg) pbuf :=
            ⟨⟨counted.setup.addr, counted.setup.mtu⟩, counted.handed, counted.removed, counted.stored⟩
          exact failed.free (same _)
        · rename_i small
          have fits : (can1Begin pbuf frame).frame.packet.length.toNat ≤ can.link.mtu.toNat := by
            rw [← binds.setup.mtu]
            exact UInt16.le_iff_toNat_le.mp (UInt16.not_lt.mp small)
          have text : canText cfg [frame] = frame.data.take 4 ++ frame.data.drop 6 := by
            rw [canText, canBeginText, if_pos version]
            exact List.append_nil _
          rw [text, ← key]
          exact can1More_gathers version room counted (same _) (can1Begin_gathers pbuf (by omega) fits) frame.id _
    · rw [if_neg begin]
      obtain ⟨frames, came, gathers⟩ := gathered.old key (found (beq_eq_false_iff_ne.mpr begin))
      refine ⟨frames ++ [frame], came.snoc, ?_⟩
      rw [canText_snoc came.nonempty, ← key]
      rw [Pbuf.Gathers, if_pos version] at gathers
      exact can1More_gathers version room binds rfl gathers frame.id _

theorem can2Rx_outcome (version : cfg.version = 2) (room : can.link.mtu.toNat ≤ cfg.bufferSize)
    (gathered : can.Gathered stream) (frame : CanFrame) (now : UInt32) :
    ∃ frames, CameFrom (canMask cfg) (frame.id &&& canMask cfg) (stream ++ [frame]) frames ∧
      can.Outcome (can2Rx can frame now).2 (frame.id &&& canMask cfg) (canText cfg frames) := by
  have second : cfg.version ≠ 1 := by omega
  have mask : cfp2IdConnMask = canMask cfg := by rw [canMask, if_neg second]
  rw [can2Rx, mask]
  rcases canBind_bound can frame.id (canMask cfg) (frame.id &&& cfp2Begin != 0) now with
    ⟨err, after, failed, setup, handed, others⟩ | ⟨pbuf, bound, bind, binds, key, found⟩
  · rw [failed]
    exact ⟨[frame], .single stream frame, .dropped setup handed others⟩
  · rw [bind]
    simp only
    by_cases begin : frame.id &&& cfp2Begin ≠ 0
    · refine ⟨[frame], .single stream frame, ?_⟩
      rw [if_pos begin]
      split
      · exact (Can.BoundTo.free binds rfl).countFrame
      · rename_i long
        have text : canText cfg [frame] = beBytes 2 (frame.id >>> 13) ++ frame.data.take 4 ++ frame.data.drop 4 := by
          rw [canText, canBeginText, if_neg second, List.append_assoc _ (frame.data.take 4), List.take_append_drop]
          exact List.append_nil _
        have same : (can2Begin pbuf frame).key (canMask cfg) = pbuf.key (canMask cfg) := rfl
        rw [text, ← key]
        exact can2Append_gathers version room binds.countFrame same (can2Begin_gathers pbuf (by omega)) frame.id _
    · rw [if_neg begin]
      obtain ⟨frames, came, gathers⟩ := gathered.old key (found (bne_eq_false_iff_eq.mpr (not_not.mp begin)))
      refine ⟨frames ++ [frame], came.snoc, ?_⟩
      split
      · exact (Can.BoundTo.free binds rfl).countFrame
      · rw [canText_snoc came.nonempty, ← key]
        rw [Pbuf.Gathers, if_neg second] at gathers
        have counted : { pbuf with rxCount := (pbuf.rxCount + 1) &&& UInt16.ofNat cfp2FcMask }.Gathers2
            (canText cfg frames) := ⟨gathers.begins, gathers.stored, gathers.header⟩
        have same : { pbuf with rxCount := (pbuf.rxCount + 1) &&& UInt16.ofNat cfp2FcMask }.key (canMask cfg) =
            pbuf.key (canMask cfg) := rfl
        exact can2Append_gathers version room binds same counted frame.id _

theorem canRx_outcome (version : cfg.version = 1 ∨ cfg.version = 2) (room : can.link.mtu.toNat ≤ cfg.bufferSize)
    (gathered : can.Gathered stream) (frame : CanFrame) (now : UInt32) :
    ∃ frames, CameFrom (canMask cfg) (frame.id &&& canMask cfg) (stream ++ [frame]) frames ∧
      can.Outcome (canRx can frame now).2 (frame.id &&& canMask cfg) (canText cfg frames) := by
  rw [canRx]
  rcases version with first | second
  · rw [if_pos first]
    exact can1Rx_outcome first room gathered frame now
  · rw [if_neg (by omega)]
    exact can2Rx_outcome second room gathered frame now

/-- The call of `csp_can_pbuf_cleanup` leaves no partial packet in the list whose buffer it frees. Another user
would overwrite it. -/
def Can.CleansUp (can : Can cfg qfifoLen) (now : UInt32) : Prop :=
  (pbufCleanup now false can.pbufs can.link.pool).1 =
    can.pbufs.filter fun pbuf => ¬now - pbuf.lastUsed > pbufTimeoutMs

/-- The receiver has heard these frames since `csp_can_add_interface`. Other tasks use the interface before each
frame, but not its partial packets. -/
inductive Can.Heard : List CanFrame → Can cfg qfifoLen → Prop
  | added (can : Can cfg qfifoLen) (empty : can.pbufs = []) : Can.Heard [] (canAddInterface can)
  | others {stream : List CanFrame} {can : Can cfg qfifoLen} (other : Can cfg qfifoLen) (setup : can.SameSetup other)
      (pbufs : other.pbufs = can.pbufs) (before : Can.Heard stream can) : Can.Heard stream other
  | frame {stream : List CanFrame} {can : Can cfg qfifoLen} (frame : CanFrame) (now : UInt32)
      (clean : can.partialPacket (canMask cfg) (frame.id &&& canMask cfg) = none → can.CleansUp now)
      (before : Can.Heard stream can) : Can.Heard (stream ++ [frame]) (canRx can frame now).2

theorem Can.Outcome.setup {after : Can cfg qfifoLen} {key : Nat} {text : List UInt8}
    (outcome : can.Outcome after key text) : can.SameSetup after := by
  cases outcome <;> assumption

/-- A frame keeps the bytes of the partial packets. -/
theorem Can.Outcome.gathered {after : Can cfg qfifoLen} {key : Nat} {frames : List CanFrame} {frame : CanFrame}
    (outcome : can.Outcome after key (canText cfg frames)) (gathered : can.Gathered stream)
    (came : CameFrom (canMask cfg) key (stream ++ [frame]) frames) : after.Gathered (stream ++ [frame]) := by
  have mtu := outcome.setup.mtu
  have old : ∀ pbuf ∈ can.pbufs, ∃ frames,
      CameFrom (canMask cfg) (pbuf.key (canMask cfg)) (stream ++ [frame]) frames ∧
        pbuf.Gathers cfg after.link.mtu.toNat (canText cfg frames) := by
    intro pbuf member
    obtain ⟨frames, came, gathers⟩ := gathered pbuf member
    rw [mtu]
    exact ⟨frames, came.later frame, gathers⟩
  cases outcome with
  | dropped setup handed others => exact fun pbuf member => old pbuf (others pbuf member)
  | delivered packet setup handed whole others => exact fun pbuf member => old pbuf (others pbuf member)
  | kept kept setup handed place gathers others =>
      intro pbuf member
      rcases others pbuf member with rfl | before
      · rw [mtu]
        exact ⟨frames, place ▸ came, gathers⟩
      · exact old pbuf before

theorem Can.Heard.gathered (heard : Can.Heard stream can) (version : cfg.version = 1 ∨ cfg.version = 2)
    (reserved : 8 ≤ cfg.bufferSize) : can.Gathered stream ∧ can.link.mtu.toNat ≤ cfg.bufferSize := by
  have small := cfg.bufferSize_lt
  have start : (canMtu cfg).toNat = cfg.bufferSize - 8 := by
    rw [canMtu, UInt16.toNat_sub_of_le, toNat_ofNat16 small]
    · rfl
    · rw [UInt16.le_iff_toNat_le, toNat_ofNat16 small]
      exact reserved
  induction heard with
  | added can empty =>
      refine ⟨fun pbuf member => ?_, ?_⟩
      · rw [canAddInterface, empty] at member
        cases member
      · simp only [canAddInterface, start]
        omega
  | others other setup pbufs _ ih =>
      obtain ⟨gathered, room⟩ := ih
      rw [Can.Gathered, pbufs, setup.mtu]
      exact ⟨gathered, room⟩
  | frame frame now _ _ ih =>
      obtain ⟨gathered, room⟩ := ih
      obtain ⟨frames, came, outcome⟩ := canRx_outcome version room gathered frame now
      refine ⟨outcome.gathered gathered came, ?_⟩
      rw [outcome.setup.mtu]
      exact room

/-- A packet that the receiver hands over comes from frames of the stream with one key. -/
theorem Can.Heard.hands (heard : Can.Heard stream can) (version : cfg.version = 1 ∨ cfg.version = 2)
    (reserved : 8 ≤ cfg.bufferSize) (frame : CanFrame) (now : UInt32) :
    (canRx can frame now).2.link.handed = can.link.handed ∨
      ∃ packet : Packet, (canRx can frame now).2.link.handed = can.link.handed ++ [packet] ∧
        ∃ frames, CameFrom (canMask cfg) (frame.id &&& canMask cfg) (stream ++ [frame]) frames ∧
          packet.FromFrame cfg (canText cfg frames) (canFrameLength cfg (canText cfg frames))
            (canRewrite cfg can.link.addr) 0 := by
  obtain ⟨gathered, room⟩ := heard.gathered version reserved
  obtain ⟨frames, came, outcome⟩ := canRx_outcome version room gathered frame now
  cases outcome with
  | dropped setup handed others => exact .inl handed
  | kept kept setup handed place gathers others => exact .inl handed
  | delivered packet setup handed whole others => exact .inr ⟨packet, handed, frames, came, whole⟩

end Libcsp
