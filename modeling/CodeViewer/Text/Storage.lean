/-!
# Storage of characters

Characters are kept four bytes each in blocks, which come in certain sizes. A block that is
larger than needed is filled up with NUL characters.
-/

namespace CodeViewer.Text

/-- The sizes of small blocks in bytes, in ascending order. -/
def blockSizes : List Nat := [
  0, 8, 16, 24, 32, 48, 64, 80, 96, 112, 128, 144, 160, 176, 192, 208, 224, 240, 256, 288, 320,
  352, 384, 416, 448, 480, 512, 576, 640, 704, 768, 896, 1024, 1152, 1280, 1408, 1536, 1792, 2048,
  2304, 2688, 3072, 3200, 3456, 4096, 4864, 5120, 5376, 6144, 6528, 6784, 6912, 8192, 9472, 9728,
  10240, 10880, 12288, 13568, 14336, 16384, 18432, 19072, 20480, 21760, 24576, 27264, 28672, 32768]

/-- The size of large blocks is a multiple of this. -/
def pageSize : Nat := 8192

/-- The size of the block for a number of bytes. -/
def blockSize (bytes : Nat) : Nat :=
  match blockSizes.find? (bytes ≤ ·) with
  | some size => size
  | none => (bytes + pageSize - 1) / pageSize * pageSize

/-- The number of characters in the block of `count` characters. -/
def storedCount (count : Nat) : Nat := blockSize (4 * count) / 4

end CodeViewer.Text
