import AppletGateway.Negotiation
import AppletGateway.Opcode

/-!
# Replies

A reply starts with its status. After success come the fields of its body, after "too small" the
lengths that the outputs need, and after any other status nothing. A reader takes what it needs
and ignores what is behind it; of the lengths it takes those that are there.
-/

namespace AppletGateway

/-- The fields of a successful reply (`ReplyBody`). -/
inductive Reply.Body
  | empty
  | handle (handle : UInt32)
  | value (value : UInt32)
  | data (data : Bytes)
  | otp (password token : Bytes)
  | instanceToken (token flags : UInt32)
  deriving DecidableEq, Inhabited

/-- The answer to a request. -/
inductive Reply
  | ok (body : Reply.Body)
  /-- A declared capacity was too small. -/
  | tooSmall (required : Lengths)
  | failed (status : Status)
  deriving DecidableEq, Inhabited

namespace Reply

/-- The shape of a body. -/
def Body.shape : Body → BodyShape
  | empty => .empty
  | handle _ => .handle
  | value _ => .value
  | data _ => .data
  | otp .. => .otp
  | instanceToken .. => .instanceToken

/-- The fields of a body, in order. -/
def Body.fields : (b : Body) → Envelope.Fields b.shape.layout
  | empty => ()
  | handle h => (h, ())
  | value v => (v, ())
  | data d => (d, ())
  | otp password token => (password, token, ())
  | instanceToken token flags => (token, flags, ())

/-- The body of a shape with given fields. -/
def Body.ofFields : (s : BodyShape) → Envelope.Fields s.layout → Body
  | .empty, () => empty
  | .handle, (h, ()) => handle h
  | .value, (v, ()) => value v
  | .data, (d, ()) => data d
  | .otp, (password, token, ()) => otp password token
  | .instanceToken, (token, flags, ()) => instanceToken token flags

/-- The status of a reply. -/
def status : Reply → Status
  | ok _ => .success
  | tooSmall _ => .insufficientBuffer
  | failed s => s

/-- The reply that reports a status (`failed`). The two statuses whose replies carry fields become
such replies without fields. -/
def ofStatus : Status → Reply
  | .success => ok .empty
  | .insufficientBuffer => tooSmall .empty
  | s => failed s

/-- The envelope of a reply (`encode`). -/
def encode (r : Reply) : Envelope :=
  let start := Envelope.writeWord r.status.code { data := [], objects := [] }
  match r with
  | ok body => start.writeFields body.shape.layout body.fields
  | tooSmall required => required.toList.foldl (fun e n => e.writeWord n) start
  | failed _ => start

/-- Reads at most `n` words, as many as there are. -/
def readLengths : (n : Nat) → Envelope.Read (List UInt32)
  | 0 => return []
  | n + 1 => fun c =>
    match Envelope.readWord.run c with
    | (.ok w, c) => (do return w :: (← readLengths n) : Envelope.Read (List UInt32)).run c
    | (.error _, c) => (.ok [], c)

/-- Reads the reply to a call. -/
def read (o : Opcode) : Envelope.Read Reply := do
  match Status.ofCode (← Envelope.readWord) with
  | .success => return ok (.ofFields o.row.body (← Envelope.readFields o.row.body.layout))
  | .insufficientBuffer => return tooSmall (.ofList (← readLengths o.row.outputs))
  | s => return failed s

/-- The reply to a call in an envelope (`decode`). -/
def decode (o : Opcode) (e : Envelope) : Except EnvelopeError Reply := ((read o).run e.cursor).1

/-- A body is made again from its shape and its fields. -/
theorem Body.ofFields_fields (b : Body) : ofFields b.shape b.fields = b := by
  cases b <;> rfl

/-- What is made for a shape has that shape. -/
theorem Body.shape_ofFields (s : BodyShape) (fields : Envelope.Fields s.layout) :
    (ofFields s fields).shape = s := by
  cases s <;> rfl

end Reply

end AppletGateway
