import AotDrone.Backend.WsManager
import AotDrone.Link.Datagram
import AotDrone.Webapp.Envelope

/-! The text of an envelope, as `JSON.parse` and `parseWsEnvelope` of the webapp read it. -/

namespace AotDrone.Link
open AotDrone.Lib AotDrone.Lib.Double AotDrone.Lib.Decimal AotDrone.Json AotDrone.Backend AotDrone.Webapp

/-- Not one of the floats for which `json.dumps` writes a word. -/
def Sayable : Value → Prop
  | .float x => x.isFinite = true
  | _ => True

section scalars
variable [Fpu] [FloatRepr]

/-- What `JSON.parse` makes of a value with nothing inside that `json.dumps` wrote: every number is a float. -/
def ecma : Value → Value
  | .int n => .float (Fpu.round n)
  | .float (fin x) => .float (Fpu.round (value (FloatRepr.token x).render))
  | v => v

theorem ecma_float {x : Double} (double : IsDouble x) : ecma (.float x) = .float x := by
  cases x with
  | fin x => exact congrArg Value.float (FloatRepr.round_value x double)
  | nan | inf _ => rfl

theorem read_sayable {v : Value} (flat : Flat v) (sayable : Sayable v) : v.node.read Dialect.ecma = some (ecma v) := by
  cases v with
  | null => rfl
  | bool b => rfl
  | int n =>
    rw [Value.node, Node.read, read_ofInt]
    rfl
  | float x =>
    cases x with
    | fin x =>
      rw [Value.node, Node.read, read_ecma]
      rfl
    | nan | inf _ => cases sayable
  | str s =>
    rw [Value.node, Node.read, decoded_quotedOf flat]
    rfl
  | arr items => exact flat.elim
  | obj members => exact flat.elim

theorem read_unsayable {v : Value} (unsayable : ¬ Sayable v) : v.node.read Dialect.ecma = none := by
  cases v with
  | float x =>
    cases x with
    | fin x => exact absurd rfl unsayable
    | nan | inf _ => rfl
  | null | bool _ | int _ | str _ | arr _ | obj _ => exact absurd trivial unsayable

/-- The members as `JSON.parse` reads them. -/
def ecmaMembers (members : Members) : Members := members.map fun m => (m.1, ecma m.2)

theorem property_ecma {members : Members} (name : String) {v : Value} (known : members.lookup (pyStr name) = some v) :
    property (ecmaMembers members) name = some (ecma v) := by
  rw [property, ecmaMembers, lookup_map_values, known]
  rfl

theorem property_float {members : Members} (name : String) {x : Double} (double : IsDouble x)
    (known : members.lookup (pyStr name) = some (.float x)) :
    property (ecmaMembers members) name = some (.float x) := by
  rw [property_ecma name known, ecma_float double]

theorem property_int {members : Members} (name : String) {n : ℤ} (held : Fpu.round n = fin n)
    (known : members.lookup (pyStr name) = some (.int n)) :
    property (ecmaMembers members) name = some (.float (fin n)) := by
  rw [property_ecma name known, ecma, held]

end scalars

/-! ## Envelopes -/

/-- The data of an envelope: scalars under names of their own. -/
structure FlatData (data : Members) : Prop where
  flat : ∀ m ∈ data, Flat m.2
  names : ∀ m ∈ data, Printable m.1
  distinct : (data.map Prod.fst).Nodup

section envelopes
variable [Fpu] [FloatRepr]

/-- What `send_json` sends of an envelope whose strings are ASCII: beyond it nothing would be escaped. -/
def sentText (envelope : Envelope) : PyStr := codePoints (dumps (.obj envelope.members))

/-- `ecma`, one object further in. -/
def ecmaNested : Value → Value
  | .obj members => .obj (ecmaMembers members)
  | v => ecma v

variable {envelope : Envelope}

theorem jsonParse_sent (plain : FlatData envelope.data) :
    jsonParse (sentText envelope) = (Value.obj envelope.members).node.read Dialect.ecma := by
  have inner : (Value.obj envelope.data).node.depth = 1 := by
    rw [Value.node, Node.depth, fields_depth plain.flat]
  have outer : (Value.obj envelope.members).node.depth = 2 := by
    have timestamp : (Value.float envelope.timestamp).node.depth = 0 := flat_depth trivial
    rw [Value.node, Node.depth, Envelope.members]
    simp only [fieldsOf, fieldsDepth, inner, timestamp]
    rfl
  have long : 2 ≤ (sentText envelope).length := by
    rw [sentText, codePoints_length, dumps, List.length_cons, List.length_append, List.length_singleton]
    omega
  have read := read_node Dialect.ecma (Value.obj envelope.members).node (outer.trans_le long)
  rw [node_text] at read
  rw [jsonParse]
  change (Dialect.ecma.read (sentText envelope).length (codePoints (dumps (.obj envelope.members)))).toOption = _
  rw [read]
  cases (Value.obj envelope.members).node.read Dialect.ecma <;> rfl

/-- An envelope with finite numbers is parsed. -/
theorem jsonParse_sayable (plain : FlatData envelope.data) (data : ∀ m ∈ envelope.data, Sayable m.2)
    (timestamp : envelope.timestamp.isFinite = true) :
    jsonParse (sentText envelope) = some (.obj (envelope.members.map fun m => (m.1, ecmaNested m.2))) := by
  rw [jsonParse_sent plain]
  have inner := obj_read Dialect.ecma ecma (fun m member => read_sayable (plain.flat m member) (data m member))
    plain.names plain.distinct
  have event : Printable (pyStr envelope.event.name) := by cases envelope.event <;> decide
  apply obj_read Dialect.ecma ecmaNested
  · simp only [Envelope.members, List.forall_mem_cons, List.not_mem_nil, false_imp_iff, implies_true, and_true]
    exact ⟨read_sayable trivial trivial, read_sayable event trivial, inner, read_sayable trivial timestamp,
      read_sayable trivial trivial⟩
  · simp only [Envelope.members, List.forall_mem_cons, List.not_mem_nil, false_imp_iff, implies_true, and_true]
    decide
  · simp only [Envelope.members, List.map_cons, List.map_nil]
    decide

/-- One number that is not finite spoils the envelope. -/
theorem jsonParse_unsayable (plain : FlatData envelope.data)
    (unsayable : ¬ ((∀ m ∈ envelope.data, Sayable m.2) ∧ envelope.timestamp.isFinite = true)) :
    jsonParse (sentText envelope) = none := by
  rw [jsonParse_sent plain]
  by_cases timestamp : envelope.timestamp.isFinite = true
  · have some : ∃ m ∈ envelope.data, ¬ Sayable m.2 := by
      by_contra none
      push Not at none
      exact unsayable ⟨none, timestamp⟩
    obtain ⟨m, member, unsayable⟩ := some
    have data := obj_unread Dialect.ecma member (read_unsayable unsayable)
    exact obj_unread Dialect.ecma (m := (pyStr "data", .obj envelope.data)) (by simp [Envelope.members]) data
  · exact obj_unread Dialect.ecma (m := (pyStr "timestamp_s", .float envelope.timestamp)) (by simp [Envelope.members])
      (read_unsayable timestamp)

/-- An event under the name that both ends have for it. -/
def wsEventType : WsEvent → WsEventType
  | .telUpdate => .telUpdate
  | .visUpdate => .visUpdate
  | .linkStatus => .linkStatus
  | .warning => .warning

/-- What the webapp reads of an envelope with finite numbers. -/
theorem envelopeText_sayable (plain : FlatData envelope.data) (data : ∀ m ∈ envelope.data, Sayable m.2)
    (timestamp : envelope.timestamp.isFinite = true) (double : IsDouble envelope.timestamp) :
    envelopeText (sentText envelope) =
      (readSeq (some (.float (Fpu.round envelope.seq)))).map fun seq =>
        { wsVer := some 1, event := wsEventType envelope.event, data := ecmaMembers envelope.data,
          timestamp := envelope.timestamp, seq } := by
  have event : readEvent (some (.str (pyStr envelope.event.name))) = some (wsEventType envelope.event) := by
    cases envelope.event <;> decide
  have version : readNumber (some (.float (Fpu.round wsEnvelopeVersion))) = some 1 := by
    rw [Fpu.round_int wsEnvelopeVersion (by decide)]
    rfl
  have time : readNumber (some (ecma (.float envelope.timestamp))) = some envelope.timestamp := by
    rw [ecma_float double, readNumber, if_pos timestamp]
  rw [envelopeText, jsonParse_sayable plain data timestamp, Option.bind_some, parseWsEnvelope]
  change ((readEvent (some (.str (pyStr envelope.event.name)))).bind fun event =>
    (asRecord (.obj (ecmaMembers envelope.data))).bind fun data =>
      (readNumber (some (ecma (.float envelope.timestamp)))).bind fun timestamp =>
        (readSeq (some (.float (Fpu.round envelope.seq)))).bind fun seq =>
          some (WsEnvelope.mk (readNumber (some (.float (Fpu.round wsEnvelopeVersion)))) event data timestamp seq)) = _
  rw [event, time, version]
  cases readSeq (some (.float (Fpu.round envelope.seq))) <;> rfl

variable (envelope) in
/-- What the webapp takes of an envelope, if it takes it. -/
theorem envelopeText_iff (plain : FlatData envelope.data) (double : IsDouble envelope.timestamp)
    (accepts : WsEnvelope → Prop) :
    (∃ read, envelopeText (sentText envelope) = some read ∧ accepts read) ↔
      ((∀ m ∈ envelope.data, Sayable m.2) ∧ envelope.timestamp.isFinite = true) ∧
        ∃ seq, readSeq (some (.float (Fpu.round envelope.seq))) = some seq ∧
          accepts
            { wsVer := some 1, event := wsEventType envelope.event, data := ecmaMembers envelope.data,
              timestamp := envelope.timestamp, seq } := by
  by_cases sayable : (∀ m ∈ envelope.data, Sayable m.2) ∧ envelope.timestamp.isFinite = true
  · rw [envelopeText_sayable plain sayable.1 sayable.2 double, and_iff_right sayable]
    simp only [Option.map_eq_some_iff]
    constructor
    · rintro ⟨_, ⟨seq, number, rfl⟩, accepted⟩
      exact ⟨seq, number, accepted⟩
    · rintro ⟨seq, number, accepted⟩
      exact ⟨_, ⟨seq, number, rfl⟩, accepted⟩
  · rw [envelopeText, jsonParse_unsayable plain sayable]
    exact iff_of_false (by simp) fun taken => sayable taken.1

end envelopes
end AotDrone.Link
