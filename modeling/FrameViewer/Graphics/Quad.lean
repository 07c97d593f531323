import FrameViewer.Arithmetic.Binary
import FrameViewer.Graphics.Descriptor

/-! The one textured rectangle and its uniform block.

The vertices run top-left, bottom-left, bottom-right, top-right. Row zero of the texture is the
top of the screen, so the top vertices have the texture coordinate zero. -/

namespace FrameViewer.Quad

/-- Sizes of buffers are multiples of this unless a tier asks for more. -/
def alignment : Nat := 4

private def single (num den : Nat) : Nat :=
  Format.single.toBits (Format.single.ofRatio num den)

private def zero : Nat := single 0 1

private def one : Nat := single 1 1

private def minusOne : Nat := Format.single.toBits (Format.single.ofRatio 1 1).neg

/-- Position and texture coordinate of each corner, as words of single precision. -/
def vertices : List (List Nat × List Nat) :=
  [([minusOne, one], [zero, zero]),
   ([minusOne, minusOne], [zero, one]),
   ([one, minusOne], [one, one]),
   ([one, one], [one, zero])]

/-- A color for each corner, which the fragment stage does not read. -/
def colors : List (List Nat) :=
  [[one, zero, zero], [zero, one, zero], [zero, zero, one], [one, one, zero]]

def indices : List Nat := [0, 1, 2, 0, 2, 3]

/-- The tint of dark pixels. -/
def primary : List Nat := [single 19 100, single 19 100, single 19 100, one]

/-- The tint of lit pixels. -/
def accent : List Nat := [single 87 100, single 87 100, single 87 100, one]

def uniforms : List Nat :=
  [one, zero, zero, zero,
   zero, one, zero, zero,
   zero, zero, one, zero,
   zero, zero, zero, one] ++ primary ++ accent

/-- Words of single precision as bytes. -/
def wordBytes (words : List Nat) : Bytes :=
  (words.flatMap (littleEndian · 4)).toArray

def vertexBytes : Bytes :=
  wordBytes (vertices.flatMap fun (position, coordinate) => position ++ coordinate)

def colorBytes : Bytes :=
  wordBytes colors.flatten

def indexBytes : Bytes :=
  (indices.flatMap (littleEndian · 2)).toArray

def uniformBytes : Bytes :=
  wordBytes uniforms

/-- Positions and texture coordinates share a buffer; colors have their own. -/
def layouts : List VertexLayout :=
  [{ stride := 16, attributes := [⟨0, 0, .float2⟩, ⟨2, 8, .float2⟩] },
   { stride := 12, attributes := [⟨1, 0, .float3⟩] }]

end FrameViewer.Quad
