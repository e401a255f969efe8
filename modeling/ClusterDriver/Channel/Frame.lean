import ClusterDriver.Text.Shape
/-!
# Frames

Compression of frame bodies and the limit on their length.
-/
namespace ClusterDriver

structure Compressor where
  /-- The name that is announced to the server; none when frames are sent as they are. -/
  algorithm : Option String
  compress : List UInt8 → List UInt8
  decompress : List UInt8 → List UInt8

def Compressor.none : Compressor := ⟨.none, id, id⟩

structure FrameCodec where
  compressor : Compressor
  maxLength : Nat

structure FrameTooLong where
  length : Nat
  limit : Nat
  deriving DecidableEq, Repr

def FrameTooLong.message (e : FrameTooLong) : String :=
  "frame of " ++ Text.decimalText e.length ++ " bytes exceeds the " ++ Text.decimalText e.limit ++
    " byte limit"

namespace FrameCodec

def checkLength (c : FrameCodec) (length : Nat) : Except FrameTooLong Unit :=
  if length ≤ c.maxLength then .ok () else .error ⟨length, c.maxLength⟩

def shape (c : FrameCodec) : Text.Shape :=
  .record "FrameCodec"
    [("compression", .option .text c.compressor.algorithm), ("max_frame_length", .nat c.maxLength)]
    false

end FrameCodec
end ClusterDriver
