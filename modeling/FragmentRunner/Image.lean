import FragmentRunner.IoError
import FragmentRunner.Text.Utf8

/-!
# Images of compiled units and the contents of files

A compiled unit is a file that the dynamic loader can open. Its image exports entry points, each a
function of no arguments that returns a status. What a file holds is either an image or plain bytes,
and only an image can be opened: no bytes can be passed off as one. An image can still be read as
bytes (`Content.toBytes`); they begin with a signature.

A file that cannot be read at all, or not to its end, is `damaged`. Reading it fails, and a copy of
it gets no further than what is legible.
-/

namespace FragmentRunner

/-- The entry points that a compiled unit exports, each with the status that it returns. -/
structure Image where
  exports : List (String × Int32)
deriving DecidableEq

namespace Image

/-- The bytes with which every compiled unit begins. -/
def signature : List UInt8 := [0x7F, 0x45, 0x4C, 0x46]

/-- The four bytes of a status, the highest first. -/
def statusBytes (status : Int32) : List UInt8 :=
  let word := status.toUInt32
  [(word >>> 24).toUInt8, (word >>> 16).toUInt8, (word >>> 8).toUInt8, word.toUInt8]

/-- The bytes of an image: the signature, and for every export the symbol, a zero byte and the
status. -/
def toBytes (image : Image) : List UInt8 :=
  signature ++ image.exports.flatMap fun (symbol, status) =>
    Text.Utf8.encode symbol.toList ++ 0 :: statusBytes status

/-- What the entry point `symbol` returns, if the image exports it. -/
def status? (image : Image) (symbol : String) : Option Int32 :=
  image.exports.lookup symbol

end Image

/-- What a file holds. -/
inductive Content
  | bytes (b : List UInt8)
  | image (i : Image)
  /-- Only `legible` can be read; then `cause` stops it. -/
  | damaged (legible : List UInt8) (cause : IoError)
deriving DecidableEq

namespace Content

/-- The content of a file that holds a text. -/
def text (s : String) : Content :=
  .bytes (Text.Utf8.encode s.toList)

/-- The bytes of a file, as far as they can be read. -/
def toBytes : Content → List UInt8
  | .bytes b => b
  | .image i => i.toBytes
  | .damaged legible _ => legible

/-- What keeps a file from being read to its end, if anything does. -/
def fault? : Content → Option IoError
  | .bytes _ | .image _ => none
  | .damaged _ cause => some cause

/-- What a copy of a file holds, as far as copying it gets. -/
def legible : Content → Content
  | .damaged legible _ => .bytes legible
  | content => content

/-- Whether a file begins like a compiled unit. -/
def hasSignature (content : Content) : Bool :=
  Image.signature.isPrefixOf content.toBytes

/-- The image in a file, if it holds one. -/
def image? : Content → Option Image
  | .bytes _ | .damaged .. => none
  | .image i => some i

end Content

end FragmentRunner
