import TwinView.Memory.Slot

/-!
A cursor hands out ranges of a region from front to back. Nothing is given back: the ranges of one cursor
follow each other until it is reset. A range starts at a multiple of its alignment, and the bytes skipped
for that are never handed out. The same cursor may be used with several regions, so it may stand past the end
of one of them.
-/

namespace TwinView

structure Cursor where
  used : UInt64
  deriving DecidableEq

/-- A range of offsets, up to and without `finish`. -/
structure Grant where
  start : UInt64
  finish : UInt64
  deriving DecidableEq

namespace Cursor

def zero : Cursor := ⟨0⟩

/-- The next range behind `offset`, if it ends within `size` bytes. Rounding up clears the low bits of the
sum with `align - 1`, for an alignment that is a power of two. -/
def next (size len align offset : UInt64) : Option Grant := do
  let padded ← Word.add? offset (align - 1)
  let start := padded &&& ~~~(align - 1)
  let finish ← Word.add? start len
  if size < finish then none else some ⟨start, finish⟩

def left (size : UInt64) (cursor : Cursor) : UInt64 :=
  Word.monus size cursor.used

def remaining (cursor : Cursor) (slot : Slot) : UInt64 :=
  match slot.size? with
  | some size => cursor.left size
  | none => 0

/-- Whether the request could be served at all: some bytes, aligned to a power of two. -/
def checkRequest (len align : UInt64) : Except Fault Unit :=
  if len = 0 then .error (.badSize len)
  else if Word.isPowerOfTwo align then .ok ()
  else .error (.badSize align)

/-- Takes the next range and gives the executable address of its first byte. -/
def reserve (slot : Slot) (len align : UInt64) : EStateM Fault Cursor UInt64 := fun cursor =>
  match (checkRequest len align).bind fun _ => slot.owned with
  | .error fault => .error fault cursor
  | .ok region =>
      match next region.size len align cursor.used with
      | some grant => .ok (region.base .executable + grant.start) ⟨grant.finish⟩
      | none => .error (.regionFull len (cursor.left region.size)) cursor

/-- Makes the same request `count` times and keeps the addresses that were granted. -/
def reserveMany (slot : Slot) (len align : UInt64) : Nat → Cursor → List UInt64 × Cursor
  | 0, cursor => ([], cursor)
  | count + 1, cursor =>
      match (reserve slot len align).run cursor with
      | .ok address moved =>
          let (addresses, last) := reserveMany slot len align count moved
          (address :: addresses, last)
      | .error _ same => reserveMany slot len align count same

def outline (cursor : Cursor) : Text.Outline :=
  .record "BumpAllocator" [("offset", .word (Text.decimal cursor.used.toNat))]

end Cursor

end TwinView
