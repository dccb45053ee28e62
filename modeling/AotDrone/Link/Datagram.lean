import AotDrone.Backend.FrameSize
import AotDrone.Backend.Ingest
import AotDrone.Json.ReadDumps

/-! A datagram that is JSON text, from its bytes to the message that is stored. -/

namespace AotDrone.Link
open AotDrone.Lib AotDrone.Lib.Double AotDrone.Lib.Decimal AotDrone.Json AotDrone.Backend

section text
variable [Fpu] {msg : Type} (kind : StreamKind msg)

/-- A text within the limits whose value the validator accepts is stored. -/
theorem processDatagram_text {v : Node} {payload : Value} {message : msg} {maxBytes recursionLimit : Nat}
    (ascii : Ascii v.text) (short : v.text.length ≤ maxBytes) (within : v.depth ≤ recursionLimit)
    (read : v.read Dialect.python = some payload) (valid : kind.validate payload = .ok message) (stream : Stream msg)
    (rxMonotonic : Double) :
    kind.processDatagram maxBytes recursionLimit stream (asciiBytes v.text) rxMonotonic =
      (stream.recordRxTotal.recordOk message (kind.seq message) (kind.timestamp message) rxMonotonic, .ok true) := by
  have fits : ¬ maxBytes < (asciiBytes v.text).length := by
    rw [asciiBytes, List.length_map]
    omega
  have loaded : loads recursionLimit (codePoints v.text) = .ok payload := by
    rw [loads, read_node Dialect.python v within, read]
    rfl
  rw [StreamKind.processDatagram, if_neg fits, decodeUtf8_ascii ascii]
  simp only [loaded, valid]

end text

/-! ## Flat objects -/

section flat
variable [Fpu] [FloatRepr]

/-- What Python reads for a value that `json.dumps` wrote. -/
def reread : Value → Value
  | .float (fin x) => Dialect.python.number (Token.read (FloatRepr.token x))
  | v => v

/-- A value with nothing inside. -/
def Flat : Value → Prop
  | .str s => Printable s
  | .arr _ | .obj _ => False
  | _ => True

theorem flat_read {v : Value} (flat : Flat v) : v.node.read Dialect.python = some (reread v) := by
  cases v with
  | null => rfl
  | bool b => rfl
  | int n =>
    rw [Value.node, Node.read, read_ofInt]
    rfl
  | float x => cases x <;> rfl
  | str s =>
    rw [Value.node, Node.read, decoded_quotedOf flat]
    rfl
  | arr items => exact flat.elim
  | obj members => exact flat.elim

omit [Fpu] [FloatRepr] in
theorem flat_depth [Fpu] [FloatRepr] {v : Value} (flat : Flat v) : v.node.depth = 0 := by
  cases v with
  | float x => cases x <;> rfl
  | null | bool _ | int _ | str _ => rfl
  | arr items => exact flat.elim
  | obj members => exact flat.elim

theorem fields_depth {members : Members} (flat : ∀ m ∈ members, Flat m.2) : fieldsDepth (fieldsOf members) = 0 := by
  induction members with
  | nil => rfl
  | cons m members ih =>
    rw [List.forall_mem_cons] at flat
    rw [fieldsOf, fieldsDepth, flat_depth flat.1, ih flat.2]
    rfl

/-- Read through `float()`, a float is what it was. -/
theorem reread_byFloat {x : Double} (double : IsDouble x) : Value.ByFloat (reread (.float x)) x := by
  cases x with
  | nan => exact .inr rfl
  | inf negative => exact .inr rfl
  | fin x =>
    have back := FloatRepr.round_value x double
    have read := read_byFloat (FloatRepr.token x) (by rw [back]; rfl)
    rwa [back] at read

omit [Fpu] [FloatRepr] in
theorem lookup_map_values (f : Value → Value) (members : Members) (name : PyStr) :
    (members.map fun m => (m.1, f m.2)).lookup name = (members.lookup name).map f := by
  induction members with
  | nil => rfl
  | cons m members ih =>
    rw [List.map_cons, List.lookup_cons, List.lookup_cons, ih]
    cases name == m.1 <;> rfl

/-- The members as they are read. -/
def rereadMembers (members : Members) : Members := members.map fun m => (m.1, reread m.2)

theorem has_reread (members : Members) (name : String) : (rereadMembers members).has name = members.has name := by
  rw [Members.has, rereadMembers, lookup_map_values, Option.isSome_map]
  rfl

theorem get_reread (members : Members) (name : String) :
    (rereadMembers members).get name = reread (members.get name) := by
  rw [Members.get, rereadMembers, lookup_map_values, Members.get]
  cases members.lookup (pyStr name) <;> rfl

theorem get_int {members : Members} {name : String} {n : ℤ} (known : members.get name = .int n) :
    (rereadMembers members).get name = .int n := by
  rw [get_reread, known]
  rfl

theorem get_float {members : Members} {name : String} {x : Double} (known : members.get name = .float x)
    (double : IsDouble x) : Value.ByFloat ((rereadMembers members).get name) x := by
  rw [get_reread, known]
  exact reread_byFloat double

theorem complete_reread {kind : String} {required : List String} {members : Members}
    (complete : Complete kind required members) : Complete kind required (rereadMembers members) := by
  obtain ⟨fields, type⟩ := complete
  refine ⟨?_, ?_⟩
  · intro field member
    rw [has_reread]
    exact fields field member
  · rw [get_reread, type]
    rfl

/-- A dumped flat object, sent as a datagram. -/
theorem processDatagram_dumps {msg : Type} (kind : StreamKind msg) {members : Members} {message : msg}
    {maxBytes recursionLimit : Nat} (flat : ∀ m ∈ members, Flat m.2) (names : ∀ m ∈ members, Printable m.1)
    (distinct : (members.map Prod.fst).Nodup) (short : (dumps (.obj members)).length ≤ maxBytes)
    (within : 1 ≤ recursionLimit) (valid : kind.validate (.obj (rereadMembers members)) = .ok message)
    (stream : Stream msg) (rxMonotonic : Double) :
    kind.processDatagram maxBytes recursionLimit stream (asciiBytes (dumps (.obj members))) rxMonotonic =
      (stream.recordRxTotal.recordOk message (kind.seq message) (kind.timestamp message) rxMonotonic, .ok true) := by
  have read := obj_read Dialect.python reread (fun m member => flat_read (flat m member)) names distinct
  have shallow : (Value.obj members).node.depth ≤ recursionLimit := by
    rw [Value.node, Node.depth, fields_depth flat]
    exact within
  rw [← node_text] at short ⊢
  apply processDatagram_text kind _ short shallow read valid
  rw [node_text]
  exact ascii_dumps _

end flat
end AotDrone.Link
