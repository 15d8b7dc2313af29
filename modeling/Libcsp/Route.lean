/-
This file models the last part of csp_route_work, which hands a packet to its connection.
-/
import Libcsp.RdpUser

namespace Libcsp

variable {cfg : Config}

/-- An RDP packet goes to the RDP module, which may ask for the close of a new connection. -/
def routeRdp (ctx : Ctx cfg) (packet : Packet) : Ctx cfg :=
  match rdpNewPacket ctx packet with
  | (true, ctx) => cspClose ctx
  | (false, ctx) => ctx

/-- The first plain packet of a new connection posts it to its socket. -/
def routePost (ctx : Ctx cfg) : Ctx cfg :=
  match ctx.conn.destSocket with
  | none => ctx
  | some socket =>
      match ctx.stack.post socket ctx.conn.index with
      | none => cspClose ctx
      | some stack => { conn := { ctx.conn with destSocket := none }, stack }

/-- A plain packet goes to the receive queue of the connection. -/
def routePlain (ctx : Ctx cfg) (packet : Packet) : Ctx cfg :=
  match connEnqueuePacket ctx.conn (some packet) with
  | (.none, conn) => routePost { ctx with conn }
  | (_, conn) => Ctx.free { ctx with conn } packet

/-- The last part of `csp_route_work`. -/
def routeDeliver (ctx : Ctx cfg) (packet : Packet) : Ctx cfg :=
  if packet.id.has cspFRdp then routeRdp ctx packet else routePlain ctx packet

/-! ## The end of csp_connect -/

/-- A failed RDP connect closes the connection. The result `none` still waits. -/
def connectResult : Option CspErr × Ctx cfg → Ctx cfg
  | (none, ctx) => ctx
  | (some .none, ctx) => ctx
  | (some _, ctx) => cspClose ctx

end Libcsp
