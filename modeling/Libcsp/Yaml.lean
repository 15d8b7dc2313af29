/-
This file models csp_yaml.c, and states when csp_yaml_init ends without an undefined access.
-/
import Mathlib.Logic.Function.Basic
import Mathlib.Tactic.Common

namespace Libcsp

/-! ## The data of one interface -/

/-- The fields of `struct data_s`. -/
inductive YamlField where
  | name | driver | device | addr | netmask | server | isDfl | baudrate | source | destination | listenPort | remotePort
  | promisc
deriving DecidableEq

namespace YamlField

/-- The order of the fields in the structure, of the comparisons and of the frees. -/
def all : List YamlField :=
  [name, driver, device, addr, netmask, server, isDfl, baudrate, source, destination, listenPort, remotePort, promisc]

/-- The key that sets a field. -/
def key : YamlField → String
  | name => "name"
  | driver => "driver"
  | device => "device"
  | addr => "addr"
  | netmask => "netmask"
  | server => "server"
  | isDfl => "default"
  | baudrate => "baudrate"
  | source => "source"
  | destination => "destination"
  | listenPort => "listen_port"
  | remotePort => "remote_port"
  | promisc => "promisc"

theorem mem_all (field : YamlField) : field ∈ all := by
  cases field <;> decide

end YamlField

/-- A pointer of the structure is wild before its first assignment. -/
inductive YamlSlot where
  | wild
  | null
  | text (value : String)
deriving DecidableEq

abbrev YamlData := YamlField → YamlSlot

/-- This is `csp_yaml_start_if`. -/
def yamlStartIf : YamlData := fun _ => .null

/-- The fields that a chain of tests for NULL reads, and its outcome. -/
def yamlTests (data : YamlData) : List YamlField → List YamlField × Bool
  | [] => ([], true)
  | field :: rest =>
      if data field = .null then ([field], false)
      else ((field :: (yamlTests data rest).1), (yamlTests data rest).2)

/-- The fields that a driver needs, and the fields that it only reads. -/
def yamlDriverFields (zmq can : Bool) (driver : YamlSlot) : List YamlField × List YamlField :=
  if driver = .text "kiss" then ([.baudrate], [.device])
  else if driver = .text "tun" then ([.source, .destination], [])
  else if driver = .text "udp" then ([.server, .listenPort, .remotePort], [])
  else if driver = .text "zmq" ∧ zmq then ([.server], [.promisc])
  else if driver = .text "can" ∧ can then ([.device], [])
  else ([], [])

/-- The build options for the drivers, and whether the caller passes `dfl_addr`. -/
structure YamlSetup where
  zmq : Bool
  can : Bool
  dfl : Bool

/-- The calls that the drivers make to libc, libzmq and pthread while one event is handled, and whether they
succeed. The copies that `strdup` makes always do. -/
structure YamlHost where
  allocates : Bool
  zmqCtxNew : Bool
  newPublisher : Bool
  newSubscriber : Bool
  zmqConnect : String → Bool
  zmqSetsockopt : Bool
  attrInit : Bool
  attrSetdetachstate : Bool
  pthreadCreate : Bool

/-- This is `csp_zmqhub_make_endpoint`. An endpoint that the buffer has no room for becomes an empty one. -/
def zmqhubMakeEndpoint (host : String) (port bufSize : Nat) : String :=
  let endpoint := "tcp://" ++ host ++ ":" ++ toString port
  if endpoint.utf8ByteSize ≥ bufSize then "" else endpoint

/-- The assertions of `csp_zmqhub_init_filter2`. The result of the second `zmq_connect` is not looked at, and the
filters without `promisc` may fail. -/
def zmqhubInitFilter2 (calls : YamlHost) (host : String) (promisc : Bool) : Bool :=
  calls.allocates && calls.zmqCtxNew && calls.newPublisher && calls.newSubscriber &&
    calls.zmqConnect (zmqhubMakeEndpoint host 6000 100) && (!promisc || calls.zmqSetsockopt) &&
    calls.attrInit && calls.attrSetdetachstate && calls.pthreadCreate

/-- The set-up of a driver that has all its fields returns. The functions for `kiss` and `can` return every error,
`tun` and `udp` write through the results of `malloc`, and `zmq` ends the process when an assertion fails. -/
def yamlDriverReturns (setup : YamlSetup) (calls : YamlHost) (data : YamlData) : Bool :=
  if data .driver = .text "tun" ∨ data .driver = .text "udp" then calls.allocates
  else
    match data .driver, data .server with
    | .text "zmq", .text server => !setup.zmq || zmqhubInitFilter2 calls server (data .promisc = .text "true")
    | _, _ => true

/-- The fields that `csp_yaml_end_if` reads, and whether it returns. -/
def yamlEndIf (setup : YamlSetup) (calls : YamlHost) (data : YamlData) : List YamlField × Bool :=
  let sanity := yamlTests data [.name, .driver, .addr, .netmask]
  if sanity.2 then
    let fields := yamlDriverFields setup.zmq setup.can (data .driver)
    let needs := yamlTests data fields.1
    let reads := sanity.1 ++ (if setup.dfl then [.isDfl] else []) ++ needs.1
    if needs.2 then (reads ++ fields.2, yamlDriverReturns setup calls data) else (reads, true)
  else (sanity.1, true)

/-- This is `csp_yaml_key_value`. An unknown key sets nothing. -/
def yamlKeyValue (data : YamlData) (key value : String) : YamlData :=
  match YamlField.all.find? fun field => field.key = key with
  | some field => Function.update data field (.text value)
  | none => data

/-! ## The events -/

/-- The events of libyaml. -/
inductive YamlEvent where
  | noEvent
  | streamStart
  | streamEnd
  | documentStart
  | documentEnd
  | alias
  | scalar (value : String)
  | sequenceStart
  | sequenceEnd
  | mappingStart
  | mappingEnd
deriving DecidableEq

/-- The outcome of `csp_yaml_init` on the first events. -/
inductive YamlOutcome where
  /-- The function asks for another event. -/
  | reads
  /-- The value of a key is not a scalar. -/
  | misreads
  /-- `csp_yaml_end_if` reads a wild pointer. -/
  | wildRead
  /-- The set-up of a driver ends the process. -/
  | aborts
  /-- The function returns after it freed these pointers. -/
  | returns (freed : List YamlSlot)
deriving DecidableEq

/-- The loop of `csp_yaml_init`. The calls of the drivers are numbered by the events. -/
def yamlLoop (setup : YamlSetup) : (Nat → YamlHost) → List YamlEvent → YamlData → YamlOutcome
  | _, [], _ => .reads
  | calls, event :: rest, data =>
      match event with
      | .sequenceEnd => .returns (YamlField.all.map data)
      | .mappingStart => yamlLoop setup (calls <| · + 1) rest yamlStartIf
      | .mappingEnd =>
          if ∃ field ∈ (yamlEndIf setup (calls 0) data).1, data field = .wild then .wildRead
          else if (yamlEndIf setup (calls 0) data).2 then yamlLoop setup (calls <| · + 1) rest data
          else .aborts
      | .scalar key =>
          match rest with
          | [] => .reads
          | .scalar value :: rest => yamlLoop setup (calls <| · + 2) rest (yamlKeyValue data key value)
          | _ :: _ => .misreads
      | _ => yamlLoop setup (calls <| · + 1) rest data

/-- This is `csp_yaml_init` on the first events of a file. -/
def yamlInit (setup : YamlSetup) (calls : Nat → YamlHost) (opened : Bool) (events : List YamlEvent) : YamlOutcome :=
  if !opened then .returns []
  else
    match events with
    | [] => .reads
    | first :: events =>
        if first ≠ .streamStart then .returns []
        else
          match events with
          | [] => .reads
          | second :: events =>
              if second ≠ .documentStart then .returns []
              else
                match events with
                | [] => .reads
                | third :: events =>
                    if third ≠ .sequenceStart then .returns []
                    else yamlLoop setup (calls <| · + 3) events fun _ => .wild

/-! ## Readable files -/

/-- The loop reads this event alone and goes on. -/
def YamlEvent.Plain (event : YamlEvent) : Prop := event ≠ .sequenceEnd ∧ ∀ value, event ≠ .scalar value

/-- The loop reads a plain event, or a key with a scalar as its value. -/
inductive YamlEntry where
  | plain (event : YamlEvent) (isPlain : event.Plain)
  | keyValue (key value : String)

def YamlEntry.events : YamlEntry → List YamlEvent
  | .plain event _ => [event]
  | .keyValue key value => [.scalar key, .scalar value]

def YamlEntry.apply (data : YamlData) : YamlEntry → YamlData
  | .plain event _ => if event = .mappingStart then yamlStartIf else data
  | .keyValue key value => yamlKeyValue data key value

/-- The events of the entries in their order. -/
def entryEvents (entries : List YamlEntry) : List YamlEvent := entries.flatMap YamlEntry.events

/-- Each MAPPING_END belongs to an earlier MAPPING_START. -/
def NestedEvents (events : List YamlEvent) : Prop :=
  ∀ count, (events.take count).count .mappingEnd ≤ (events.take count).count .mappingStart

/-- Some entry starts a mapping. -/
def StartsMapping (entries : List YamlEntry) : Prop := YamlEvent.mappingStart ∈ entryEvents entries

/-- Some entry sets the field. -/
def SetsField (entries : List YamlEntry) (field : YamlField) : Prop :=
  ∃ value, YamlEntry.keyValue field.key value ∈ entries

/-- At each MAPPING_END the set-up of the driver returns, for the fields that the entries before it have set. -/
def DriversReturn (setup : YamlSetup) (calls : Nat → YamlHost) (entries : List YamlEntry) (data : YamlData) : Prop :=
  ∀ before ends rest, entries = before ++ .plain .mappingEnd ends :: rest →
    (yamlEndIf setup (calls (entryEvents before).length) (before.foldl YamlEntry.apply data)).2 = true

variable {setup : YamlSetup} {calls : Nat → YamlHost} {data : YamlData} {entries : List YamlEntry}

/-- No pointer of the structure is wild. -/
def YamlData.Tame (data : YamlData) : Prop := ∀ field, data field ≠ .wild

/-! ## Keys -/

theorem yamlKeyValue_key (data : YamlData) (field : YamlField) (value : String) :
    yamlKeyValue data field.key value = Function.update data field (.text value) := by
  have found : (YamlField.all.find? fun other => other.key = field.key) = some field := by
    cases field <;> decide
  rw [yamlKeyValue, found]

/-- A key sets its own field only. -/
theorem yamlKeyValue_wild (data : YamlData) (key value : String) (field : YamlField) :
    yamlKeyValue data key value field ≠ .wild ↔ data field ≠ .wild ∨ key = field.key := by
  by_cases own : key = field.key
  · rw [own, yamlKeyValue_key, Function.update_self]
    simp
  · have same : yamlKeyValue data key value field = data field := by
      unfold yamlKeyValue
      cases found : YamlField.all.find? fun other => other.key = key with
      | none => rfl
      | some other =>
          refine Function.update_of_ne (fun same => own ?_) _ _
          rw [same]
          have matched := List.find?_some found
          exact (of_decide_eq_true matched).symm
    rw [same, or_iff_left own]

/-- A pointer is not wild after a mapping has started or its key was read. -/
theorem foldl_apply_wild (entries : List YamlEntry) (data : YamlData) (field : YamlField) :
    entries.foldl YamlEntry.apply data field ≠ .wild ↔
      data field ≠ .wild ∨ StartsMapping entries ∨ SetsField entries field := by
  induction entries generalizing data with
  | nil => simp [StartsMapping, SetsField, entryEvents]
  | cons entry rest ih =>
      rw [List.foldl_cons, ih]
      cases entry with
      | plain event isPlain =>
          by_cases starts : event = .mappingStart
          · subst starts
            have tame : YamlEntry.apply data (.plain .mappingStart isPlain) field ≠ .wild := by
              simp [YamlEntry.apply, yamlStartIf]
            simp [tame, StartsMapping, entryEvents, YamlEntry.events]
          · simp [YamlEntry.apply, starts, StartsMapping, SetsField, entryEvents, YamlEntry.events, Ne.symm starts]
      | keyValue key value =>
          have same : StartsMapping (.keyValue key value :: rest) ↔ StartsMapping rest := by
            simp [StartsMapping, entryEvents, YamlEntry.events]
          have sets : SetsField (.keyValue key value :: rest) field ↔ key = field.key ∨ SetsField rest field := by
            simp only [SetsField, List.mem_cons, YamlEntry.keyValue.injEq, exists_or]
            exact or_congr_left ⟨fun ⟨_, same, _⟩ => same.symm, fun same => ⟨value, same.symm, rfl⟩⟩
          rw [YamlEntry.apply, yamlKeyValue_wild, same, sets]
          exact ⟨by tauto, by tauto⟩

/-! ## The loop -/

/-- Without wild pointers a MAPPING_END depends on the driver only. -/
theorem yamlLoop_mappingEnd (tame : data.Tame) (rest : List YamlEvent) :
    yamlLoop setup calls (.mappingEnd :: rest) data =
      if (yamlEndIf setup (calls 0) data).2 then yamlLoop setup (calls <| · + 1) rest data else .aborts := by
  have safe : ¬∃ field ∈ (yamlEndIf setup (calls 0) data).1, data field = .wild :=
    fun ⟨field, _, wild⟩ => tame field wild
  rw [yamlLoop]
  exact if_neg safe

theorem yamlLoop_plain {event : YamlEvent} (isPlain : event.Plain) (notEnd : event ≠ .mappingEnd)
    (rest : List YamlEvent) : yamlLoop setup calls (event :: rest) data =
      yamlLoop setup (calls <| · + 1) rest (if event = .mappingStart then yamlStartIf else data) := by
  cases event with
  | sequenceEnd => exact absurd rfl isPlain.1
  | scalar value => exact absurd rfl (isPlain.2 value)
  | mappingEnd => exact absurd rfl notEnd
  | _ => rfl

theorem yamlKeyValue_tame (tame : data.Tame) (key value : String) : (yamlKeyValue data key value : YamlData).Tame :=
  fun field => (yamlKeyValue_wild data key value field).mpr (.inl (tame field))

theorem NestedEvents.tail {event : YamlEvent} {rest : List YamlEvent} (nested : NestedEvents (event :: rest))
    (other : event ≠ .mappingStart) : NestedEvents rest := by
  intro count
  have whole := nested (count + 1)
  rw [List.take_succ_cons, List.count_cons, List.count_cons] at whole
  simp only [beq_iff_eq, other, if_false] at whole
  omega

/-- The drivers of the later entries, and the driver of the first one. -/
theorem DriversReturn.cons_iff (entry : YamlEntry) (rest : List YamlEntry) (data : YamlData) :
    DriversReturn setup calls (entry :: rest) data ↔
      ((∃ ends, entry = .plain .mappingEnd ends) → (yamlEndIf setup (calls 0) data).2 = true) ∧
        DriversReturn setup (calls <| · + entry.events.length) rest (entry.apply data) := by
  have shift (before : List YamlEntry) :
      (entryEvents (entry :: before)).length = (entryEvents before).length + entry.events.length := by
    rw [entryEvents, List.flatMap_cons, List.length_append, Nat.add_comm]
    rfl
  constructor
  · intro returns
    constructor
    · rintro ⟨ends, rfl⟩
      exact returns [] ends rest rfl
    · rintro before ends more rfl
      have later := returns (entry :: before) ends more rfl
      rwa [shift] at later
  · rintro ⟨first, later⟩ before ends more same
    cases before with
    | nil =>
        rw [List.nil_append, List.cons.injEq] at same
        exact first ⟨ends, same.1⟩
    | cons other before =>
        rw [List.cons_append, List.cons.injEq] at same
        obtain ⟨rfl, rfl⟩ := same
        rw [shift]
        exact later before ends more rfl

/-- The loop goes through the entries when no pointer is wild or each MAPPING_END belongs to a MAPPING_START, and
each driver returns. -/
theorem yamlLoop_entries (entries : List YamlEntry) {calls : Nat → YamlHost} {data : YamlData}
    (more : List YamlEvent) (safe : data.Tame ∨ NestedEvents (entryEvents entries))
    (returns : DriversReturn setup calls entries data) :
    yamlLoop setup calls (entryEvents entries ++ more) data =
      yamlLoop setup (calls <| · + (entryEvents entries).length) more (entries.foldl YamlEntry.apply data) := by
  induction entries generalizing data calls with
  | nil => rfl
  | cons entry rest ih =>
      rw [List.foldl_cons]
      obtain ⟨first, later⟩ := (DriversReturn.cons_iff entry rest data).mp returns
      cases entry with
      | keyValue key value =>
          change yamlLoop setup (calls <| · + 2) (entryEvents rest ++ more) (yamlKeyValue data key value) = _
          refine ih (safe.imp (fun tame => yamlKeyValue_tame tame key value) fun nested => ?_) later
          exact (nested.tail nofun).tail nofun
      | plain event isPlain =>
          change yamlLoop setup calls (event :: (entryEvents rest ++ more)) data = _
          by_cases ends : event = .mappingEnd
          · subst ends
            have tame : data.Tame := safe.resolve_right fun nested =>
              absurd (nested 1) (by simp [entryEvents, YamlEntry.events])
            rw [yamlLoop_mappingEnd tame, if_pos (first ⟨isPlain, rfl⟩)]
            exact ih (.inl tame) later
          · rw [yamlLoop_plain isPlain ends]
            refine ih ?_ later
            by_cases starts : event = .mappingStart
            · rw [if_pos starts]
              exact .inl fun _ => by simp [yamlStartIf]
            · rw [if_neg starts]
              exact safe.imp_right fun nested => nested.tail starts

/-- The events are entries up to a SEQUENCE_END, the drivers return, and the pointers that they leave are freed. -/
def ReadsEntries (setup : YamlSetup) (calls : Nat → YamlHost) (events : List YamlEvent) (data : YamlData)
    (freed : List YamlSlot) : Prop :=
  ∃ entries rest, events = entryEvents entries ++ .sequenceEnd :: rest ∧
    DriversReturn setup calls entries data ∧ freed = YamlField.all.map (entries.foldl YamlEntry.apply data)

theorem ReadsEntries.cons {rest : List YamlEvent} {freed : List YamlSlot} (entry : YamlEntry)
    (first : (∃ ends, entry = .plain .mappingEnd ends) → (yamlEndIf setup (calls 0) data).2 = true)
    (reads : ReadsEntries setup (calls <| · + entry.events.length) rest (entry.apply data) freed) :
    ReadsEntries setup calls (entry.events ++ rest) data freed := by
  obtain ⟨entries, more, rfl, later, freed⟩ := reads
  refine ⟨entry :: entries, more, (List.append_assoc _ _ _).symm, ?_, freed⟩
  exact (DriversReturn.cons_iff entry entries data).mpr ⟨first, later⟩

/-- A loop that returns went through entries to a SEQUENCE_END. -/
theorem yamlLoop_returns {events : List YamlEvent} {calls : Nat → YamlHost} {data : YamlData}
    {freed : List YamlSlot} (returned : yamlLoop setup calls events data = .returns freed) :
    ReadsEntries setup calls events data freed := by
  fun_induction yamlLoop setup calls events data with
  | case1 | case4 | case6 | case7 | case9 => cases returned
  | case2 calls rest data =>
      refine ⟨[], rest, rfl, fun before ends rest same => ?_, (YamlOutcome.returns.inj returned).symm⟩
      cases before <;> cases same
  | case3 calls rest data ih =>
      exact ReadsEntries.cons (.plain .mappingStart ⟨nofun, nofun⟩) nofun (ih returned)
  | case5 calls rest data _ ends ih =>
      exact ReadsEntries.cons (.plain .mappingEnd ⟨nofun, nofun⟩) (fun _ => ends) (ih returned)
  | case8 calls data key value rest ih => exact ReadsEntries.cons (.keyValue key value) nofun (ih returned)
  | case10 calls event rest data notEnd notStart notMappingEnd notScalar ih =>
      have reads : ReadsEntries setup (calls <| · + 1) rest
          (YamlEntry.apply data (.plain event ⟨notEnd, notScalar⟩)) freed := by
        simp only [YamlEntry.apply, if_neg notStart]
        exact ih returned
      refine reads.cons _ ?_
      rintro ⟨_, same⟩
      cases same
      exact absurd rfl notMappingEnd

/-! ## The whole function -/

/-- The first events that the parser delivers. -/
def firstEvents (stream : Nat → YamlEvent) (count : Nat) : List YamlEvent := (List.range count).map stream

/-- The function returns after finitely many events. It reads scalar values from scalars only, and it frees only
pointers that it has set. -/
def YamlEnds (setup : YamlSetup) (calls : Nat → YamlHost) (opened : Bool) (stream : Nat → YamlEvent) : Prop :=
  ∃ count freed, yamlInit setup calls opened (firstEvents stream count) = .returns freed ∧ .wild ∉ freed

/-- The items of the top-level sequence are plain events and pairs of scalars, up to the end of the sequence. They
start a mapping, or they set each field. No driver ends the process. -/
def WholeSequence (setup : YamlSetup) (calls : Nat → YamlHost) (items : Nat → YamlEvent) : Prop :=
  ∃ count entries, firstEvents items count = entryEvents entries ++ [.sequenceEnd] ∧
    DriversReturn setup calls entries (fun _ => .wild) ∧ (StartsMapping entries ∨ ∀ field, SetsField entries field)

/-- The parser ends no mapping that it has not started. -/
def NestedStream (stream : Nat → YamlEvent) : Prop :=
  ∀ count, (firstEvents stream count).count .mappingEnd ≤ (firstEvents stream count).count .mappingStart

/-- A file whose first events begin a sequence has a whole one. -/
def ReadableFile (setup : YamlSetup) (calls : Nat → YamlHost) (opened : Bool) (stream : Nat → YamlEvent) : Prop :=
  opened = true → stream 0 = .streamStart → stream 1 = .documentStart → stream 2 = .sequenceStart →
    WholeSequence setup (calls <| · + 3) (stream <| · + 3)

theorem firstEvents_succ (stream : Nat → YamlEvent) (count : Nat) :
    firstEvents stream (count + 1) = stream 0 :: firstEvents (fun index => stream (index + 1)) count := by
  simp [firstEvents, List.range_succ_eq_map, Function.comp_def]

/-- A file that begins a sequence goes to the loop. -/
theorem yamlInit_sequence {stream : Nat → YamlEvent} (count : Nat) (start : stream 0 = .streamStart)
    (document : stream 1 = .documentStart) (sequence : stream 2 = .sequenceStart) :
    yamlInit setup calls true (firstEvents stream (count + 3)) =
      yamlLoop setup (calls <| · + 3) (firstEvents (stream <| · + 3) count) fun _ => .wild := by
  simp [yamlInit, firstEvents_succ, start, document, sequence]

/-- The freed pointers are not wild exactly when a mapping has started or each field was set. -/
theorem freed_tame_iff (entries : List YamlEntry) :
    YamlSlot.wild ∉ YamlField.all.map (entries.foldl YamlEntry.apply fun _ => .wild) ↔
      StartsMapping entries ∨ ∀ field, SetsField entries field := by
  have tame : YamlSlot.wild ∉ YamlField.all.map (entries.foldl YamlEntry.apply fun _ => .wild) ↔
      ∀ field, StartsMapping entries ∨ SetsField entries field := by
    rw [List.mem_map, not_exists]
    refine forall_congr' fun field => ?_
    rw [not_and, forall_prop_of_true field.mem_all, ← ne_eq, foldl_apply_wild]
    simp
  rw [tame, forall_or_left]

theorem firstEvents_take (stream : Nat → YamlEvent) {part count : Nat} (less : part ≤ count) :
    (firstEvents stream count).take part = firstEvents stream part := by
  rw [firstEvents, firstEvents, ← List.map_take, List.take_range, Nat.min_eq_left less]

theorem NestedStream.events {stream : Nat → YamlEvent} (nested : NestedStream stream) (count : Nat) :
    NestedEvents (firstEvents stream count) := by
  intro part
  rcases Nat.le_total part count with less | more
  · rw [firstEvents_take stream less]
    exact nested part
  · rw [List.take_of_length_le (by simpa [firstEvents] using more)]
    exact nested count

theorem NestedEvents.left {first second : List YamlEvent} (nested : NestedEvents (first ++ second)) :
    NestedEvents first := by
  intro count
  have whole := nested (min count first.length)
  rwa [List.take_append_of_le_length (Nat.min_le_right _ _), ← List.take_eq_take_min] at whole

/-- The events of a returned loop end with the SEQUENCE_END. -/
theorem ReadsEntries.whole {items : Nat → YamlEvent} {count : Nat} {freed : List YamlSlot}
    (reads : ReadsEntries setup calls (firstEvents items count) (fun _ => .wild) freed) (tame : .wild ∉ freed) :
    WholeSequence setup calls items := by
  obtain ⟨entries, rest, events, returns, rfl⟩ := reads
  refine ⟨(entryEvents entries).length + 1, entries, ?_, returns, (freed_tame_iff entries).mp tame⟩
  have length := congrArg List.length events
  simp only [firstEvents, List.length_map, List.length_range, List.length_append, List.length_cons] at length
  rw [← firstEvents_take items (show (entryEvents entries).length + 1 ≤ count by omega), events,
    List.take_length_add_append]
  rfl

theorem yamlInit_returns_early {stream : Nat → YamlEvent} {opened : Bool}
    (early : ¬(opened = true ∧ stream 0 = .streamStart ∧ stream 1 = .documentStart ∧ stream 2 = .sequenceStart)) :
    yamlInit setup calls opened (firstEvents stream 3) = .returns [] := by
  have three : firstEvents stream 3 = [stream 0, stream 1, stream 2] := rfl
  rw [three]
  cases opened with
  | false => rfl
  | true =>
      by_cases start : stream 0 = .streamStart
      · by_cases document : stream 1 = .documentStart
        · by_cases sequence : stream 2 = .sequenceStart
          · exact absurd ⟨rfl, start, document, sequence⟩ early
          · simp [yamlInit, start, document, sequence]
        · simp [yamlInit, start, document]
      · simp [yamlInit, start]

/-- The function ends exactly on the files that are no sequence or whose sequence is whole. -/
theorem yamlInit_ends_iff {stream : Nat → YamlEvent} (opened : Bool) (nested : NestedStream stream) :
    YamlEnds setup calls opened stream ↔ ReadableFile setup calls opened stream := by
  by_cases begins : opened = true ∧ stream 0 = .streamStart ∧ stream 1 = .documentStart ∧ stream 2 = .sequenceStart
  · obtain ⟨rfl, start, document, sequence⟩ := begins
    constructor
    · rintro ⟨count, freed, returned, tame⟩ - - - -
      have long : 3 ≤ count := by
        by_contra short
        have few : count = 0 ∨ count = 1 ∨ count = 2 := by omega
        rcases few with rfl | rfl | rfl <;>
          simp [yamlInit, firstEvents, List.range_succ, start, document] at returned
      obtain ⟨more, rfl⟩ := Nat.exists_eq_add_of_le' long
      rw [yamlInit_sequence more start document sequence] at returned
      exact (yamlLoop_returns returned).whole tame
    · intro readable
      obtain ⟨count, entries, events, returns, whole⟩ := readable rfl start document sequence
      refine ⟨count + 3, _, ?_, (freed_tame_iff entries).mpr whole⟩
      have items : NestedEvents (entryEvents entries ++ [.sequenceEnd]) := by
        have all := nested.events (count + 3)
        rw [firstEvents_succ, firstEvents_succ, firstEvents_succ] at all
        rw [← events]
        exact ((all.tail (by simp [start])).tail (by simp [document])).tail (by simp [sequence])
      rw [yamlInit_sequence count start document sequence, events,
        yamlLoop_entries entries _ (.inr items.left) returns]
      rfl
  · refine iff_of_true ⟨3, [], yamlInit_returns_early begins, List.not_mem_nil⟩ ?_
    exact fun isOpen start document sequence => absurd ⟨isOpen, start, document, sequence⟩ begins

/-! ## Two files -/

/-- The events of a file, and nothing behind them. -/
def fileEvents (events : List YamlEvent) (index : Nat) : YamlEvent := events.getD index .noEvent

/-- A sequence with one interface. -/
def wholeFile : List YamlEvent :=
  [.streamStart, .documentStart, .sequenceStart, .mappingStart, .scalar "name", .scalar "ZMQ", .scalar "driver",
    .scalar "zmq", .scalar "addr", .scalar "1", .scalar "netmask", .scalar "8", .scalar "server", .scalar "localhost",
    .mappingEnd, .sequenceEnd, .documentEnd, .streamEnd]

/-- A file with a syntax error in its first mapping. -/
def brokenFile : List YamlEvent :=
  [.streamStart, .documentStart, .sequenceStart, .mappingStart, .scalar "name", .scalar "KISS"]

theorem firstEvents_file (events : List YamlEvent) (count : Nat) :
    firstEvents (fileEvents events) count = events.take count ++ List.replicate (count - events.length) .noEvent := by
  apply List.ext_getElem
  · simp only [firstEvents, List.length_map, List.length_range, List.length_append, List.length_take,
      List.length_replicate]
    omega
  · intro index inside _
    simp only [firstEvents, List.length_map, List.length_range] at inside
    simp only [firstEvents, List.getElem_map, List.getElem_range, fileEvents, List.getElem_append, List.length_take,
      List.getElem_take, List.getElem_replicate]
    split
    · rw [List.getD_eq_getElem?_getD, List.getElem?_eq_getElem (by omega), Option.getD_some]
    · rw [List.getD_eq_getElem?_getD, List.getElem?_eq_none (by omega), Option.getD_none]

/-- A file is nested when its events are. -/
theorem fileEvents_nested {events : List YamlEvent}
    (nested : ∀ count ≤ events.length, (events.take count).count .mappingEnd ≤ (events.take count).count .mappingStart) :
    NestedStream (fileEvents events) := by
  intro count
  rw [firstEvents_file, List.count_append, List.count_append, List.count_replicate, List.count_replicate]
  rcases Nat.le_total count events.length with less | more
  · exact nested count less
  · rw [List.take_of_length_le more, ← @List.take_length _ events]
    exact nested _ (Nat.le_refl _)

theorem yamlLoop_noEvents (calls : Nat → YamlHost) (count : Nat) (data : YamlData) :
    yamlLoop setup calls (List.replicate count .noEvent) data = .reads := by
  induction count generalizing calls with
  | zero => rfl
  | succ count ih => exact ih _

/-- Every call of a driver succeeds. -/
def workingHost : YamlHost := ⟨true, true, true, true, fun _ => true, true, true, true, true⟩

theorem workingHost_returns (setup : YamlSetup) (data : YamlData) : (yamlEndIf setup workingHost data).2 = true := by
  have hub (server : String) (promisc : Bool) : zmqhubInitFilter2 workingHost server promisc = true := by
    cases promisc <;> rfl
  have driver : yamlDriverReturns setup workingHost data = true := by
    simp only [yamlDriverReturns, hub, Bool.or_true]
    split
    · rfl
    · split <;> rfl
  simp only [yamlEndIf, driver]
  split
  · split <;> rfl
  · rfl

/-- A file with one ZMQ interface is read to its end. -/
theorem wholeFile_ends : YamlEnds ⟨true, true, false⟩ (fun _ => workingHost) true (fileEvents wholeFile) := by
  refine (yamlInit_ends_iff true (fileEvents_nested (by decide))).mpr fun _ _ _ _ => ?_
  refine ⟨13, [.plain .mappingStart ⟨nofun, nofun⟩, .keyValue "name" "ZMQ", .keyValue "driver" "zmq",
    .keyValue "addr" "1", .keyValue "netmask" "8", .keyValue "server" "localhost",
    .plain .mappingEnd ⟨nofun, nofun⟩], rfl, ?_, .inl List.mem_cons_self⟩
  exact fun _ _ _ _ => workingHost_returns _ _

/-- The loop never leaves the broken file. -/
theorem brokenFile_hangs : NestedStream (fileEvents brokenFile) ∧
    ¬YamlEnds ⟨false, false, false⟩ (fun _ => workingHost) true (fileEvents brokenFile) := by
  refine ⟨fileEvents_nested (by decide), ?_⟩
  rintro ⟨count, freed, returned, -⟩
  have cuts : ∀ count ≤ 6,
      yamlInit ⟨false, false, false⟩ (fun _ => workingHost) true (brokenFile.take count) = .reads := by decide
  rw [firstEvents_file] at returned
  rcases Nat.le_total count 6 with less | more
  · have nothing : count - brokenFile.length = 0 := Nat.sub_eq_zero_of_le less
    rw [nothing, List.replicate_zero, List.append_nil, cuts count less] at returned
    cases returned
  · rw [List.take_of_length_le more] at returned
    have hangs := @yamlLoop_noEvents ⟨false, false, false⟩ (fun _ => workingHost) (count - brokenFile.length)
      (yamlKeyValue yamlStartIf "name" "KISS")
    exact YamlOutcome.noConfusion (hangs.symm.trans returned)

end Libcsp
