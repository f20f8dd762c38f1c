import Parlando.Data.Bytes
import Mathlib.Algebra.Ring.Int.Defs
import Mathlib.Data.Rat.Defs

namespace Parlando

/-- Wire protocol version for Parlando PCM audio frames. -/
def audioProtocolVersion : UInt8 := 1

/-- Number of PCM payload bytes in one complete canonical audio frame. -/
def audioFrameBytes : Nat := 960

/-- Number of bytes preceding PCM in a binary WebSocket message. -/
def audioHeaderBytes : Nat := 13

/-- One PCM frame with sender timing metadata. -/
structure AudioFrame where
  sequence : UInt32
  timestampMs : UInt64
  pcm : List UInt8
  deriving DecidableEq, Repr

namespace AudioFrame

/-- Decodes and validates one binary WebSocket audio message. -/
def decode (bytes : List UInt8) : Except String AudioFrame :=
  if bytes.length ≠ audioHeaderBytes + audioFrameBytes then
    .error ("audio frame must contain " ++ toString (audioHeaderBytes + audioFrameBytes) ++
      " bytes")
  else if bytes.headD 0 ≠ audioProtocolVersion then
    .error ("unsupported audio protocol version " ++ toString (bytes.headD 0).toNat)
  else .ok {
    sequence := .ofNat (ofBeBytes ((bytes.drop 1).take 4))
    timestampMs := .ofNat (ofBeBytes ((bytes.drop 5).take 8))
    pcm := bytes.drop audioHeaderBytes }

/-- Encodes this frame for delivery to a browser. -/
def encode (frame : AudioFrame) : List UInt8 :=
  [audioProtocolVersion] ++ beBytes 4 frame.sequence.toNat ++ beBytes 8 frame.timestampMs.toNat ++
    frame.pcm

end AudioFrame

namespace ParlandoAudioSink

def headerBytes : Nat := 13

def pcmBytes : Nat := 960

def isInteger (number : Rat) : Bool := number.den == 1

def isSafeInteger (number : Rat) : Bool :=
  isInteger number && decide (-9007199254740991 ≤ number.num ∧ number.num ≤ 9007199254740991)

/-- The bytes a `DataView` writes for an unsigned integer, with `littleEndian` false. -/
def dataViewBytes (width : Nat) (value : Int) : List UInt8 :=
  (List.range width).map fun i =>
    .ofNat (((value % 2 ^ (8 * width)).toNat >>> (8 * (width - 1 - i))) &&& 0xff)

/-- Encodes one versioned PCM WebSocket frame. -/
def encodeFrame (sequence timestampMs : Rat) (pcm : List UInt8) : Except String (List UInt8) :=
  if pcm.length ≠ pcmBytes then
    .error ("PCM frame must contain " ++ toString pcmBytes ++ " bytes.")
  else if !isInteger sequence || sequence < 0 || sequence > 0xffffffff then
    .error "PCM frame sequence must be an unsigned 32-bit integer."
  else if !isSafeInteger timestampMs || timestampMs < 0 then
    .error "PCM frame timestamp must be a non-negative safe integer."
  else
    let frame := List.replicate (headerBytes + pcmBytes) 0
    let frame := setBytes 0 (dataViewBytes 1 1) frame
    let frame := setBytes 1 (dataViewBytes 4 sequence.num) frame
    let frame := setBytes 5 (dataViewBytes 8 timestampMs.num) frame
    .ok (setBytes headerBytes pcm frame)

/-- What the `message` listener of the socket plays of a binary message. -/
def receive (data : List UInt8) : Option (List UInt8) :=
  if data.length ≠ headerBytes + pcmBytes then none else some (data.drop headerBytes)

end ParlandoAudioSink

end Parlando
