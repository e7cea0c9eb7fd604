/-
SHA-1: blocks of 64 bytes, a hash of 20.
-/
import LabTrust.Hash.Block

namespace LabTrust

namespace Hash.Sha1

/-- The bits turned left. -/
def turn (x : UInt32) (n : UInt32) : UInt32 := (x <<< n) ||| (x >>> (32 - n))

/-- The five numbers that a block changes. -/
structure State where
  a : UInt32
  b : UInt32
  c : UInt32
  d : UInt32
  e : UInt32

/-- The numbers of the rounds: those of the block, then each from earlier ones. -/
def schedule (block : Bytes) : Array UInt32 :=
  (List.range 64).foldl (fun (w : Array UInt32) i =>
    w.push (turn (w.getD (i + 13) 0 ^^^ w.getD (i + 8) 0 ^^^ w.getD (i + 2) 0 ^^^ w.getD i 0) 1))
    ((words 4 block).map UInt32.ofNat).toArray

/-- What a round takes from three of the numbers, and its constant. -/
def mix (i : Nat) (s : State) : UInt32 × UInt32 :=
  if i < 20 then ((s.b &&& s.c) ||| (~~~s.b &&& s.d), 0x5a827999)
  else if i < 40 then (s.b ^^^ s.c ^^^ s.d, 0x6ed9eba1)
  else if i < 60 then ((s.b &&& s.c) ||| (s.b &&& s.d) ||| (s.c &&& s.d), 0x8f1bbcdc)
  else (s.b ^^^ s.c ^^^ s.d, 0xca62c1d6)

/-- One round. -/
def round (s : State) (i : Nat) (w : UInt32) : State :=
  ⟨turn s.a 5 + (mix i s).1 + s.e + (mix i s).2 + w, s.a, turn s.b 30, s.c, s.d⟩

/-- The state after a block. -/
def compress (s : State) (block : Bytes) : State :=
  let r := ((List.range 80).zip (schedule block).toList).foldl (fun r (i, w) => round r i w) s
  ⟨s.a + r.a, s.b + r.b, s.c + r.c, s.d + r.d, s.e + r.e⟩

/-- The state before the first block. -/
def start : State := ⟨0x67452301, 0xefcdab89, 0x98badcfe, 0x10325476, 0xc3d2e1f0⟩

/-- The hash of a message. -/
def digest (message : Bytes) : Bytes :=
  let s := (blocks 64 8 message).foldl compress start
  [s.a, s.b, s.c, s.d, s.e].flatMap fun x => Bytes.ofNat 4 x.toNat

end Hash.Sha1

end LabTrust
