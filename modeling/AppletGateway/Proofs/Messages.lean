import AppletGateway.Proofs.Packing
import AppletGateway.Socket.Message

/-!
# Messages come back as they were

Requests, replies and events go to the co-processor and back, calls and events go through the
socket. Whoever takes a message from the front of what has arrived gets the message that was packed,
and what stands behind it is left for the next. Only a message of which a text, a byte string or a
list is longer than a 64-bit length can say is not read.

Of what arrives not everything was packed here. Numbers may come with more digits than they need,
but no message is read from fewer bytes than packing it takes.

Results:
* `Packed.Lawful.roundTrips`: what it takes for a type of messages.
* `Packed.roundTrips_messages`: the requests, whatever the co-processor sends, and whatever is
  exchanged on a socket.
-/

namespace AppletGateway

open Packed Packed.Measured

/-! ## Messages of the socket endpoint -/

namespace Socket

instance : Measured Message where
  longest
    | .call _ data objects => max (longest data) objects.length
    | .reply data => longest data
    | .event _ event => longest event

instance : Lawful Message where
  unpack_pack m rest := by
    cases m <;>
      · delta instPackedMessage
        dsimp only
        simp only [List.append_assoc]
        rw [bind_unpackTag _ _ (by decide)]
        simp only [bind_unpack, bind_unpackList fits_word, fits_word, if_true]
        simp only [Fits]
        delta instMeasuredMessage
        simp only [Nat.max_lt, ite_and]
        rfl
  longest_le m := by
    cases m with
    | call code data objects =>
      have := length_le_packList (fun w : UInt32 => length_write_pos 4 w.toNat) objects
      delta instPackedMessage instMeasuredMessage
      dsimp only
      simp only [List.length_append, Nat.max_le]
      exact ⟨Lawful.longest_le_of (by omega), by omega⟩
    | reply _ | event _ _ =>
      delta instPackedMessage instMeasuredMessage
      dsimp only
      simp only [List.length_append]
      exact Lawful.longest_le_of (by omega)
  consumes := by
    refine consumes_unpackTag.bind fun tag => ?_
    split <;> first
      | exact consumes_failure
      | repeat' first
          | refine consumes_unpack.bind fun _ => ?_
          | refine consumes_unpackList.bind fun _ => ?_
        refine consumes_pure ?_
        delta instPackedMessage
        dsimp only
        simp only [List.length_append]
        omega

end Socket

/-! ## All messages -/

namespace Packed

/-- The values of a type are read back from their packed form, and this is the shortest byte string
that they are read from. -/
structure RoundTrips (α : Type) [Packed α] [Measured α] : Prop where
  /-- A value is read back, whatever follows it, unless a length in it does not fit. -/
  read_back (a : α) (rest : Bytes) :
    unpack (pack a ++ rest) = if Fits a then some (a, rest) else none
  /-- What is read as a value stands in front of the rest and is no shorter than its packed form. -/
  no_shorter (b : Bytes) (a : α) (rest : Bytes) (h : unpack b = some (a, rest)) :
    ∃ used, b = used ++ rest ∧ (pack a).length ≤ used.length

theorem Lawful.roundTrips {α : Type} [Packed α] [Measured α] [Lawful α] : RoundTrips α where
  read_back := Lawful.unpack_pack
  no_shorter b a rest h := by
    obtain ⟨used, hused, hlen⟩ := Lawful.consumes b a rest h
    exact ⟨used, hused, Nat.zero_add used.length ▸ hlen⟩

/-- Messages to and from the co-processor and on a socket are read back from their packed form,
whatever follows it, and from nothing shorter. -/
theorem roundTrips_messages :
    RoundTrips Applet.Request ∧ RoundTrips Applet.Inbound ∧ RoundTrips Socket.Message :=
  ⟨Lawful.roundTrips, Lawful.roundTrips, Lawful.roundTrips⟩

/-- A number with a digit too many is read, but is not written so. -/
example : unpack [0x80, 0x00] = some ((0 : UInt32), []) ∧ pack (0 : UInt32) = [0x00] := by decide

end Packed

end AppletGateway
