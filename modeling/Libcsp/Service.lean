/-
This file models csp_service_handler.c and the replies of csp_sendto_reply.
-/
import Libcsp.Node
import Libcsp.RtableStdio

namespace Libcsp

variable {cfg : Config} {size : Nat}

/-- This is `csp_sendto_reply`. The request is NULL in the first case. -/
def cspSendtoReply (io : Io cfg) (request : Option Packet) (reply : Packet) (opts : UInt32) : Io cfg :=
  match request with
  | none => io
  | some request =>
      let reply := if hasOpt opts cspSoSame then { reply with id.flags := request.id.flags } else reply
      cspSendto io request.id.pri request.id.src request.id.sport request.id.dport opts reply

/-- This is `csp_timestamp_t`. -/
structure Timestamp where
  tvSec : UInt32
  tvNsec : UInt32
  deriving DecidableEq, Repr, Inhabited

/-- The counters of an interface in the order of the statistics message. -/
structure IfaceStats where
  tx : UInt32
  rx : UInt32
  txError : UInt32
  rxError : UInt32
  drop : UInt32
  autherr : UInt32
  frame : UInt32
  txbytes : UInt32
  rxbytes : UInt32
  irq : UInt32
  deriving DecidableEq, Repr, Inhabited

def IfaceStats.words (stats : IfaceStats) : List UInt32 :=
  [stats.tx, stats.rx, stats.txError, stats.rxError, stats.drop, stats.autherr, stats.frame, stats.txbytes,
    stats.rxbytes, stats.irq]

/-- The hooks of the platform and the strings of the build. A string has no NUL inside. -/
structure Platform where
  /-- `csp_ps_hook` returns the length of its answer, and may write to the data. -/
  psHook : Packet → UInt32 × Memory := fun packet => (0, packet.mem)
  memfreeHook : UInt32 := 0
  getS : UInt32 := 0
  clockSetTime : Timestamp → CspErr := fun _ => .none
  hostname : List UInt8 := []
  model : List UInt8 := []
  revision : List UInt8 := []
  date : List UInt8 := []
  time : List UInt8 := []

/-- What the service handler does outside of the packet. -/
inductive ServiceAction where
  | reboot
  | shutdown
  | peek (addr : UInt32) (len : UInt8)
  | poke (addr : UInt32) (bytes : List UInt8)
  | setClock (time : Timestamp)
  | setRoute (args : RouteSet)
  deriving DecidableEq, Repr

/-- The part of a node that the services use. -/
structure Host (cfg : Config) (size : Nat) where
  io : Io cfg
  name : Nat → List Char
  stats : Nat → IfaceStats
  rtable : Rtable size
  memory : UInt32 → UInt8
  clock : Timestamp
  /-- History: the actions so far. -/
  actions : List ServiceAction

namespace Host

def act (host : Host cfg size) (action : ServiceAction) : Host cfg size :=
  { host with actions := host.actions ++ [action] }

/-- The routes of the table in the form of the output path. -/
def routes (host : Host cfg size) : List Route :=
  host.rtable.entries.filterMap fun slot =>
    slot.iface.map fun iface => { address := slot.address, netmask := slot.netmask, via := slot.via, iface }

/-- This is `csp_iflist_get_by_name`. -/
def getByName (host : Host cfg size) (name : List Char) : Option Nat :=
  IfaceNames.getByName { interfaces := host.io.interfaces, name := host.name } name

/-- A call of `csp_rtable_set`. A store outside the table has no result. -/
def setRoute (host : Host cfg size) (args : RouteSet) : Option (CspErr × Host cfg size) := do
  let (ret, rtable) ← host.rtable.set cfg args.address args.netmask args.ifc args.via
  some (ret, { host.act (.setRoute args) with rtable })

def free (host : Host cfg size) (packet : Packet) : Host cfg size := { host with io := host.io.free packet }

/-- The last statement of the handler. -/
def reply (host : Host cfg size) (packet : Packet) : Host cfg size :=
  { host with io := cspSendtoReply { host.io with rtable := host.routes } (some packet) packet cspSoSame }

end Host

/-! ## The message of csp_cmp.h -/

def cmpRequest : UInt8 := 0x00
def cmpReply : UInt8 := 0xff

def cmpIdentRevLen : Nat := 20
def cmpIdentDateLen : Nat := 12
def cmpIdentTimeLen : Nat := 9
def cmpPeekMaxLen : UInt8 := 200
def cmpPokeMaxLen : UInt8 := 200
def cspHostnameLen : Nat := 20
def cspModelLen : Nat := 30

/-- The codes that `csp_cmp_handler` knows. -/
inductive CmpCode where
  | ident
  | routeSetV1
  | ifStats
  | peek
  | poke
  | clock
  | routeSetV2
  deriving DecidableEq, Repr

def CmpCode.ofByte (code : UInt8) : Option CmpCode :=
  if code = 1 then some .ident
  else if code = 2 then some .routeSetV1
  else if code = 3 then some .ifStats
  else if code = 4 then some .peek
  else if code = 5 then some .poke
  else if code = 6 then some .clock
  else if code = 7 then some .routeSetV2
  else none

/-- `CMP_SIZE` of the messages with a fixed reply. The second route message ends with one byte of padding. -/
def cmpSizeIdent : UInt16 := 93
def cmpSizeRouteSetV1 : UInt16 := 15
def cmpSizeRouteSetV2 : UInt16 := 20
def cmpSizeIfStats : UInt16 := 53

/-- The C string in the data from this offset on. A comparison of names reads ten characters of it. -/
def Packet.text (packet : Packet) (offset : Nat) : List Char :=
  ((((List.range 10).map fun index => packet.data (offset + index)).takeWhile fun c => c ≠ 0)).map
    fun c => Char.ofNat c.toNat

def Packet.be16At (packet : Packet) (offset : Nat) : UInt16 := be16 packet.mem (dataAt + offset)

def Packet.be32At (packet : Packet) (offset : Nat) : UInt32 := be32 packet.mem (dataAt + offset)

def Packet.put (packet : Packet) (offset : Nat) (bytes : List UInt8) : Packet :=
  { packet with mem := writeBytes packet.mem (dataAt + offset) bytes }

/-- The bytes of a word in network byte order. -/
def be32Bytes (value : UInt32) : List UInt8 :=
  [(value / 16777216).toUInt8, (value / 65536).toUInt8, (value / 256).toUInt8, value.toUInt8]

/-- A `strncpy` of at most `len` characters pads with NUL, and the last character becomes NUL. -/
def fixedString (len : Nat) (text : List UInt8) : List UInt8 :=
  text.take (len - 1) ++ List.replicate (len - min text.length (len - 1)) 0

/-! ## The CMP handlers -/

def doCmpIdent (platform : Platform) (packet : Packet) : Packet :=
  packet.put 2 (fixedString cspHostnameLen platform.hostname ++ fixedString cspModelLen platform.model ++
    fixedString cmpIdentRevLen platform.revision ++ fixedString cmpIdentDateLen platform.date ++
      fixedString cmpIdentTimeLen platform.time)

/-- The two route messages look up the interface, and set the route. -/
def cmpRouteSet (host : Host cfg size) (ifc : Option Nat) (address : UInt16) (netmask : Int) (via : UInt16) :
    Option (CspErr × Host cfg size) :=
  match ifc with
  | none => some (.inval, host)
  | some ifc => do
      let (ret, host) ← host.setRoute { address, netmask, ifc := some ifc, via }
      some (if ret = .none then .none else .inval, host)

def doCmpRouteSetV1 (host : Host cfg size) (packet : Packet) : Option (CspErr × Host cfg size) :=
  cmpRouteSet host (host.getByName (packet.text 4)) (packet.data 2).toUInt16 (idGetHostBits cfg)
    (packet.data 3).toUInt16

def doCmpRouteSetV2 (host : Host cfg size) (packet : Packet) : Option (CspErr × Host cfg size) :=
  cmpRouteSet host (host.getByName (packet.text 8)) (packet.be16At 2) (packet.be16At 6).toNat (packet.be16At 4)

def doCmpIfStats (host : Host cfg size) (packet : Packet) : CspErr × Packet :=
  match host.getByName (packet.text 2) with
  | none => (.inval, packet)
  | some ifc => (.none, packet.put 13 ((host.stats ifc).words.flatMap be32Bytes))

/-- The address of the message goes to host byte order in place. -/
def Packet.swapAddr (packet : Packet) : Packet := packet.put 2 (be32Bytes (packet.be32At 2)).reverse

/-- A copy of node memory goes to the data field. -/
def doCmpPeek (host : Host cfg size) (packet : Packet) : CspErr × Packet × Host cfg size :=
  let addr := packet.be32At 2
  let len := packet.data 6
  let packet := packet.swapAddr
  if len > cmpPeekMaxLen then (.inval, packet, host)
  else
    let bytes := (List.range len.toNat).map fun index => host.memory (addr + UInt32.ofNat index)
    (.none, packet.put 7 bytes, host.act (.peek addr len))

/-- A copy of the data field goes to node memory. -/
def doCmpPoke (host : Host cfg size) (packet : Packet) : CspErr × Packet × Host cfg size :=
  let addr := packet.be32At 2
  let len := packet.data 6
  let packet := packet.swapAddr
  if len > cmpPokeMaxLen then (.inval, packet, host)
  else
    let bytes := (List.range len.toNat).map fun index => packet.data (7 + index)
    let memory := fun at' => bytes.getD (at' - addr).toNat (host.memory at')
    (.none, packet, { host.act (.poke addr bytes) with memory })

/-- A time other than zero sets the clock. The reply has the time of the clock. -/
def doCmpClock (platform : Platform) (host : Host cfg size) (packet : Packet) : CspErr × Packet × Host cfg size :=
  let clock : Timestamp := { tvSec := packet.be32At 2, tvNsec := packet.be32At 6 }
  let (res, host) :=
    if clock.tvSec ≠ 0 then
      match platform.clockSetTime clock with
      | .none => (.none, { host.act (.setClock clock) with clock })
      | res => (res, host.act (.setClock clock))
    else (.none, host)
  (res, packet.put 2 (be32Bytes host.clock.tvSec ++ be32Bytes host.clock.tvNsec), host)

/-- The first half of `do_cmp_clock`. -/
def clockSet (platform : Platform) (host : Host cfg size) (clock : Timestamp) : CspErr × Host cfg size :=
  if clock.tvSec ≠ 0 then
    match platform.clockSetTime clock with
    | .none => (.none, { host.act (.setClock clock) with clock })
    | res => (res, host.act (.setClock clock))
  else (.none, host)

theorem doCmpClock_eq (platform : Platform) (host : Host cfg size) (packet : Packet) :
    doCmpClock platform host packet =
      let set := clockSet platform host ⟨packet.be32At 2, packet.be32At 6⟩
      (set.1, packet.put 2 (be32Bytes set.2.clock.tvSec ++ be32Bytes set.2.clock.tvNsec), set.2) := by
  rewrite [doCmpClock, clockSet]
  split
  rename_i computed
  rw [computed]

theorem clockSet_result (platform : Platform) (host : Host cfg size) (clock : Timestamp) :
    ((clockSet platform host clock).1 = .none ↔ clock.tvSec = 0 ∨ platform.clockSetTime clock = .none) ∧
      (clockSet platform host clock).2.io = host.io := by
  rw [clockSet]
  by_cases zero : clock.tvSec = 0
  · rw [if_neg (not_not.mpr zero)]
    exact ⟨by simp [zero], rfl⟩
  · rw [if_pos zero]
    cases platform.clockSetTime clock <;> exact ⟨by simp [zero], rfl⟩

/-- The switch of `csp_cmp_handler`. -/
def cmpSwitch (platform : Platform) (host : Host cfg size) (packet : Packet) :
    CmpCode → Option (CspErr × Packet × Host cfg size)
  | .ident => some (.none, { doCmpIdent platform packet with length := cmpSizeIdent }, host)
  | .routeSetV1 => do
      let (ret, host) ← doCmpRouteSetV1 host packet
      some (ret, { packet with length := cmpSizeRouteSetV1 }, host)
  | .routeSetV2 => do
      let (ret, host) ← doCmpRouteSetV2 host packet
      some (ret, { packet with length := cmpSizeRouteSetV2 }, host)
  | .ifStats =>
      let (ret, packet) := doCmpIfStats host packet
      some (ret, { packet with length := cmpSizeIfStats }, host)
  | .peek => some (doCmpPeek host packet)
  | .poke => some (doCmpPoke host packet)
  | .clock => some (doCmpClock platform host packet)

/-- This is `csp_cmp_handler`. -/
def cmpHandler (platform : Platform) (host : Host cfg size) (packet : Packet) :
    Option (CspErr × Packet × Host cfg size) :=
  if packet.data 0 ≠ cmpRequest then some (.inval, packet, host)
  else
    match CmpCode.ofByte (packet.data 1) with
    | none => some (.inval, packet.put 0 [cmpReply], host)
    | some code => do
        let (ret, packet, host) ← cmpSwitch platform host packet code
        some (ret, packet.put 0 [cmpReply], host)

/-! ## The service handler -/

/-- The ports of `csp_service_port_t`. -/
inductive Service where
  | cmp
  | ping
  | ps
  | memfree
  | reboot
  | bufFree
  | uptime
  deriving DecidableEq, Repr

def Service.ofPort (port : UInt8) : Option Service :=
  if port = 0 then some .cmp
  else if port = 1 then some .ping
  else if port = 2 then some .ps
  else if port = 3 then some .memfree
  else if port = 4 then some .reboot
  else if port = 5 then some .bufFree
  else if port = 6 then some .uptime
  else none

def cspRebootMagic : UInt32 := 0x80078007
def cspRebootShutdownMagic : UInt32 := 0xD1E5529A

/-- The packet has this word as its whole payload. -/
def Packet.answer (packet : Packet) (word : UInt32) : Packet :=
  { packet.put 0 (be32Bytes word) with length := 4 }

/-- The hooks that the reboot service calls. -/
def rebootActions (magicWord : UInt32) : List ServiceAction :=
  if magicWord = cspRebootMagic then [.reboot]
  else if magicWord = cspRebootShutdownMagic then [.shutdown]
  else []

/-- This is `csp_service_handler`. -/
def serviceHandler (platform : Platform) (host : Host cfg size) (packet : Packet) : Option (Host cfg size) :=
  match Service.ofPort packet.id.dport with
  | some .cmp => do
      let (ret, packet, host) ← cmpHandler platform host packet
      if ret ≠ .none then some (host.free packet) else some (host.reply packet)
  | some .ping => some (host.reply packet)
  | some .ps =>
      let (length, mem) := platform.psHook packet
      let packet := { packet with length := length.toUInt16, mem }
      -- An empty answer is freed, and then sent all the same.
      let host := if packet.length = 0 then host.free packet else host
      some (host.reply packet)
  | some .memfree => some (host.reply (packet.answer platform.memfreeHook))
  | some .reboot =>
      let host := { host with actions := host.actions ++ rebootActions (packet.be32At 0) }
      some (host.free packet)
  | some .bufFree => some (host.reply (packet.answer (UInt32.ofNat host.io.pool.remaining)))
  | some .uptime => some (host.reply (packet.answer platform.getS))
  | none => some (host.free packet)

end Libcsp
