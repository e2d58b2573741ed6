import AppletGateway.Bytes
import AppletGateway.Handler
import AppletGateway.Status

/-!
# Envelopes

A request or a reply on its way between processes: fields one after another, each of a multiple of
four bytes, and beside them a table of event handlers, which travel out of band.

* An integer or a word takes four bytes, lowest first.
* A text or a blob is its length, its bytes and zeros up to the next multiple of four. An absent
  text has the length −1.
* A handler is its index in the table, or −1 if absent.

The reader checks every bound. A field that cannot be read moves it by nothing if not even four
bytes are left, past the length or the index if that was bad, and past the whole field if only its
text is not UTF-8. There is always memory for a blob that is read; the error that reports the want
of it (`Alloc`) is left out.
-/

namespace AppletGateway

/-- Why an envelope cannot be read (`CodecError`). -/
inductive EnvelopeError
  /-- The envelope ended before the field did. -/
  | truncated
  /-- A length was negative and not the mark of an absent value. -/
  | badLength (length : Int32)
  | invalidText
  /-- The first field was not the interface descriptor. -/
  | interfaceMismatch
  /-- An index named no entry of the table of handlers. -/
  | badObjectIndex (index : Int32)
  | unknownOpcode (code : UInt32)
  /-- Bytes were left over after the last field. -/
  | trailing (count : Nat)
  deriving DecidableEq

namespace EnvelopeError

/-- The wording of an error. -/
def message : EnvelopeError → String
  | truncated => "envelope truncated"
  | badLength length => "bad length prefix " ++ toString length.toInt
  | invalidText => "string is not UTF-8"
  | interfaceMismatch => "interface token mismatch"
  | badObjectIndex index => "bad object index " ++ toString index.toInt
  | unknownOpcode code => "unknown opcode " ++ toString code.toNat
  | trailing count => toString count ++ " byte(s) after the last field"

/-- The status that answers an envelope with this error. -/
def status : EnvelopeError → Status
  | unknownOpcode _ => .notImplemented
  | _ => .internalError

end EnvelopeError

/-- One serialized request or reply (`Parcel`). -/
structure Envelope where
  data : Bytes := []
  objects : List Handler := []
  deriving DecidableEq, Inhabited

/-- The length or index that stands for an absent value (`ABSENT`). -/
def absentMark : UInt32 := 0xFFFFFFFF

/-- The length of a field of `n` bytes with its padding (`padded`). -/
def padded (n : Nat) : Nat := (n + 3) / 4 * 4

namespace Envelope

/-! ## Writing -/

/-- Appends a word (`write_u32`). -/
def writeWord (w : UInt32) (e : Envelope) : Envelope := { e with data := e.data ++ Bytes.ofWord w }

/-- Appends an integer (`write_i32`). -/
def writeInt (i : Int32) (e : Envelope) : Envelope := e.writeWord i.toUInt32

/-- Appends a byte string with its length and padding (`write_blob`). -/
def writeBlob (b : Bytes) (e : Envelope) : Envelope :=
  { e with
    data := e.data ++ Bytes.ofWord (UInt32.ofNat b.length) ++ b ++
      List.replicate (padded b.length - b.length) 0 }

/-- Appends an optional text (`write_str`). -/
def writeText (s : Option String) (e : Envelope) : Envelope :=
  match s with
  | some s => e.writeBlob (Bytes.ofText s)
  | none => e.writeWord absentMark

/-- Appends an optional handler: its index, and itself to the table (`write_handler`). -/
def writeHandler (h : Option Handler) (e : Envelope) : Envelope :=
  match h with
  | some h => { e.writeWord (UInt32.ofNat e.objects.length) with objects := e.objects ++ [h] }
  | none => e.writeWord absentMark

/-! ## Reading -/

/-- What is left to read of an envelope, and its table of handlers (`ParcelReader`). -/
structure Cursor where
  rest : Bytes
  objects : List Handler
  deriving DecidableEq

/-- The cursor at the start of an envelope. -/
def cursor (e : Envelope) : Cursor := ⟨e.data, e.objects⟩

/-- A reading step. The cursor moves on even if the step fails. -/
abbrev Read := ExceptT EnvelopeError (StateM Cursor)

/-- Reads `n` bytes, or leaves the cursor where it is (`take`). -/
def readBytes (n : Nat) : Read Bytes := do
  let c ← get
  if c.rest.length < n then throw .truncated
  set { c with rest := c.rest.drop n }
  return c.rest.take n

/-- Reads a word (`read_u32`). -/
def readWord : Read UInt32 := do
  match ← readBytes 4 with
  | [a, b, c, d] => return Bytes.toWord a b c d
  | _ => throw .truncated

/-- Reads an integer (`read_i32`). -/
def readInt : Read Int32 := return (← readWord).toInt32

/-- Reads a length and as many bytes with their padding; nothing for an absent value
(`read_padded`). -/
def readPadded : Read (Option Bytes) := do
  let w ← readWord
  if w = absentMark then return none
  if w.toInt32 < 0 then throw (.badLength w.toInt32)
  if (← get).rest.length < padded w.toNat then throw .truncated
  let b ← readBytes w.toNat
  let _ ← readBytes (padded w.toNat - w.toNat)
  return some b

/-- Reads an optional text (`read_str`). -/
def readText : Read (Option String) := do
  match ← readPadded with
  | none => return none
  | some b =>
    match Bytes.toText? b with
    | some s => return some s
    | none => throw .invalidText

/-- Reads a blob; an absent one is empty (`read_blob`). -/
def readBlob : Read Bytes := return (← readPadded).getD []

/-- Reads an optional handler (`read_handler`). -/
def readHandler : Read (Option Handler) := do
  let w ← readWord
  if w = absentMark then return none
  if w.toInt32 < 0 then throw (.badObjectIndex w.toInt32)
  match (← get).objects[w.toNat]? with
  | some h => return some h
  | none => throw (.badObjectIndex w.toInt32)

/-- Reads the field in front of every request: the descriptor of the interface
(`enforce_interface`). -/
def readInterface (descriptor : String) : Read Unit := do
  match ← readText with
  | some s => if s = descriptor then return () else throw .interfaceMismatch
  | none => throw .interfaceMismatch

/-! ## Typed fields -/

/-- The kinds of fields. -/
inductive Kind
  | int
  | word
  | text
  | blob
  | handler
  deriving DecidableEq

/-- What a field of a kind holds. -/
abbrev Kind.Value : Kind → Type
  | int => Int32
  | word => UInt32
  | text => Option String
  | blob => Bytes
  | handler => Option Handler

/-- What fields of some kinds hold, in order. -/
abbrev Fields : List Kind → Type
  | [] => Unit
  | k :: ks => k.Value × Fields ks

/-- Appends a field. -/
def writeField : (k : Kind) → k.Value → Envelope → Envelope
  | .int => writeInt
  | .word => writeWord
  | .text => writeText
  | .blob => writeBlob
  | .handler => writeHandler

/-- Reads a field. -/
def readField : (k : Kind) → Read k.Value
  | .int => readInt
  | .word => readWord
  | .text => readText
  | .blob => readBlob
  | .handler => readHandler

/-- Appends fields in order. -/
def writeFields : (ks : List Kind) → Fields ks → Envelope → Envelope
  | [], _, e => e
  | k :: ks, (v, vs), e => writeFields ks vs (e.writeField k v)

/-- Reads fields in order, up to the first that cannot be read. -/
def readFields : (ks : List Kind) → Read (Fields ks)
  | [] => return ()
  | k :: ks => do
    let v ← readField k
    let vs ← readFields ks
    return (v, vs)

end Envelope

end AppletGateway
