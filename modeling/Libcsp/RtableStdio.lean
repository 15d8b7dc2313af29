/-
This file models the text form of the routing table in csp_rtable_stdio.c.
-/
import Libcsp.Lib.Scan
import Libcsp.RtableClear

namespace Libcsp
open Scan

/-- The interface list and the names of the interfaces. -/
structure IfaceNames where
  interfaces : List Nat
  name : Nat → List Char

/-- This is `csp_iflist_get_by_name`. It compares the first `CSP_IFLIST_NAME_MAX` characters. -/
def IfaceNames.getByName (ifaces : IfaceNames) (name : List Char) : Option Nat :=
  ifaces.interfaces.find? fun ifc => (ifaces.name ifc).take 10 == name.take 10

/-- The name `CSP_IF_LOOPBACK_NAME`. -/
def loopbackName : List Char := ['L', 'O', 'O', 'P']

/-- This is `csp_id_get_max_nodeid`. -/
def idGetMaxNodeid (cfg : Config) : Nat := 2 ^ idGetHostBits cfg - 1

/-! ## The printer -/

/-- The characters that `snprintf` stores into a buffer of the size, without the NUL. -/
def snprintf (size : Nat) (text : List Char) : List Char := text.take (size - 1)

/-- The buffer holds the text up to `len` and the text behind it. -/
structure SaveCtx where
  saved : List Char
  rest : List Char
  error : CspErr
  deriving DecidableEq, Repr

/-- The buffer `mask_str`. -/
def maskStr (cfg : Config) (slot : RouteSlot) : List Char :=
  if slot.netmask.toNat ≠ idGetHostBits cfg then snprintf 10 ('/' :: decimal slot.netmask.toNat) else []

/-- The buffer `via_str`. -/
def viaStr (slot : RouteSlot) : List Char :=
  if slot.via ≠ noViaAddress then snprintf 10 (' ' :: decimal slot.via.toNat) else []

/-- The text of one entry, without the separator. -/
def entryText (cfg : Config) (name : List Char) (slot : RouteSlot) : List Char :=
  decimal slot.address.toNat ++ maskStr cfg slot ++ ' ' :: (name ++ viaStr slot)

/-- This is `csp_rtable_save_route`. A NULL interface has no defined result. -/
def rtableSaveRoute (cfg : Config) (ifaces : IfaceNames) (maxlen : Nat) (ctx : SaveCtx) (slot : RouteSlot) :
    Option SaveCtx :=
  slot.iface.map fun ifc =>
    if ifaces.name ifc = loopbackName then ctx
    else
      let sep := if ctx.saved.length = 0 then [] else [',']
      let remain := maxlen - ctx.saved.length
      let text := sep ++ entryText cfg (ifaces.name ifc) slot
      if text.length ≥ remain then { ctx with rest := snprintf remain text, error := .nomem }
      else { ctx with saved := ctx.saved ++ text, rest := [] }

/-- `csp_rtable_iterate` ignores the result of the callback, so each entry gets its call. -/
def rtableSaveRoutes (cfg : Config) (ifaces : IfaceNames) (maxlen : Nat) :
    SaveCtx → List RouteSlot → Option SaveCtx
  | ctx, [] => some ctx
  | ctx, slot :: rest =>
      (rtableSaveRoute cfg ifaces maxlen ctx slot).bind fun ctx => rtableSaveRoutes cfg ifaces maxlen ctx rest

/-- This is `csp_rtable_save`. It returns the error and the text in the buffer. -/
def rtableSave {size : Nat} (cfg : Config) (ifaces : IfaceNames) (t : Rtable size) (maxlen : Nat) :
    Option (CspErr × List Char) := do
  let entries ← t.iterate
  let ctx ← rtableSaveRoutes cfg ifaces maxlen { saved := [], rest := [], error := .none } entries
  some (ctx.error, ctx.saved ++ ctx.rest)

/-! ## The parser -/

/-- The values of one entry. -/
structure ParsedRoute where
  address : Nat
  netmask : Int
  name : List Char
  via : Nat
  deriving DecidableEq, Repr

/-- The four formats of `csp_rtable_parse`, with and without a netmask and a via address. -/
def formatMaskVia : List Directive :=
  [.unsigned, .literal '/', .signed, .space, .word 14, .space, .unsigned]
def formatMask : List Directive := [.unsigned, .literal '/', .signed, .space, .word 14]
def formatVia : List Directive := [.unsigned, .space, .word 14, .space, .unsigned]
def formatPlain : List Directive := [.unsigned, .space, .word 14]

/-- The calls of `sscanf` for one entry. -/
def parseEntry (cfg : Config) (str : List Char) : Option ParsedRoute :=
  match scan formatMaskVia str with
  | [.number address, .number netmask, .word name, .number via] => some ⟨address.toNat, netmask, name, via.toNat⟩
  | _ =>
      match scan formatMask str with
      | [.number address, .number netmask, .word name] => some ⟨address.toNat, netmask, name, noViaAddress.toNat⟩
      | _ =>
          match scan formatVia str with
          | [.number address, .word name, .number via] =>
              some ⟨address.toNat, idGetHostBits cfg, name, via.toNat⟩
          | _ =>
              match scan formatPlain str with
              | [.number address, .word name] =>
                  some ⟨address.toNat, idGetHostBits cfg, name, noViaAddress.toNat⟩
              | _ => none

/-- The loop of `csp_rtable_parse` over the tokens. An invalid entry clears the name and leaves the
other values undefined. -/
def rtableParseTokens {size : Nat} (cfg : Config) (ifaces : IfaceNames) (dryRun : Bool) :
    List (List Char) → Nat → Rtable size → Option (Except CspErr Nat × Rtable size)
  | [], validEntries, t => some (.ok validEntries, t)
  | str :: rest, validEntries, t =>
      if str.length > 1 then
        match parseEntry cfg str with
        | none =>
            match ifaces.getByName [] with
            | none => some (.error .inval, t)
            | some _ => none
        | some route =>
            match ifaces.getByName route.name with
            | none => some (.error .inval, t)
            | some ifc =>
                if route.address > idGetMaxNodeid cfg ∨ route.netmask > idGetHostBits cfg then
                  some (.error .inval, t)
                else if dryRun then rtableParseTokens cfg ifaces dryRun rest (validEntries + 1) t
                else
                  match t.set cfg (UInt16.ofNat route.address) route.netmask (some ifc) (UInt16.ofNat route.via) with
                  | none => none
                  | some (.none, t) => rtableParseTokens cfg ifaces dryRun rest (validEntries + 1) t
                  | some (res, t) => some (.error res, t)
      else some (.ok validEntries, t)

/-- This is `csp_rtable_parse`. It parses at most 100 characters. -/
def rtableParse {size : Nat} (cfg : Config) (ifaces : IfaceNames) (rtable : List Char) (dryRun : Bool)
    (t : Rtable size) : Option (Except CspErr Nat × Rtable size) :=
  rtableParseTokens cfg ifaces dryRun (tokens ',' (rtable.take 100)) 0 t

/-- This is `csp_rtable_load`. -/
def rtableLoad {size : Nat} (cfg : Config) (ifaces : IfaceNames) (rtable : List Char) (t : Rtable size) :
    Option (Except CspErr Nat × Rtable size) := rtableParse cfg ifaces rtable false t

/-- This is `csp_rtable_check`. -/
def rtableCheck {size : Nat} (cfg : Config) (ifaces : IfaceNames) (rtable : List Char) (t : Rtable size) :
    Option (Except CspErr Nat × Rtable size) := rtableParse cfg ifaces rtable true t

end Libcsp
