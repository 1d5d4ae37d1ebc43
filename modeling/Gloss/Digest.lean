/-!
# BLAKE3 digests

The 32-byte BLAKE3 digest of a text, in hexadecimal digits. The text is cut into
chunks of 1024 bytes, each hashed by compressing its blocks of 64 bytes in turn;
the chunks are the leaves of a tree whose left part is always the largest
complete one (`leftCount`).
-/

namespace Gloss.Digest

/-- A state of the compression, sixteen words. -/
abbrev Block : Type := Vector UInt32 16

/-- The words that one compression hands to the next. -/
abbrev Chain : Type := Vector UInt32 8

/-- The chain before the first block. -/
def initialChain : Chain :=
  #v[0x6a09e667, 0xbb67ae85, 0x3c6ef372, 0xa54ff53a,
    0x510e527f, 0x9b05688c, 0x1f83d9ab, 0x5be0cd19]

/-! ## Compression -/

/-- A word turned right by a number of bits. -/
def rotateRight (x n : UInt32) : UInt32 :=
  (x >>> n) ||| (x <<< (32 - n))

/-- Mixes two message words into four words of the state. -/
def mix (s : Block) (a b c d : Fin 16) (x y : UInt32) : Block :=
  let va := s[a] + s[b] + x
  let vd := rotateRight (s[d] ^^^ va) 16
  let vc := s[c] + vd
  let vb := rotateRight (s[b] ^^^ vc) 12
  let va := va + vb + y
  let vd := rotateRight (vd ^^^ va) 8
  let vc := vc + vd
  let vb := rotateRight (vb ^^^ vc) 7
  (((s.set a va).set b vb).set c vc).set d vd

/-- Mixes all message words into the state, by columns and then by diagonals. -/
def mixAll (s m : Block) : Block :=
  let s := mix s 0 4 8 12 m[0] m[1]
  let s := mix s 1 5 9 13 m[2] m[3]
  let s := mix s 2 6 10 14 m[4] m[5]
  let s := mix s 3 7 11 15 m[6] m[7]
  let s := mix s 0 5 10 15 m[8] m[9]
  let s := mix s 1 6 11 12 m[10] m[11]
  let s := mix s 2 7 8 13 m[12] m[13]
  mix s 3 4 9 14 m[14] m[15]

/-- The order of the message words in the next round. -/
def permute (m : Block) : Block :=
  #v[m[2], m[6], m[3], m[10], m[7], m[0], m[4], m[13],
    m[1], m[11], m[12], m[5], m[9], m[14], m[15], m[8]]

/-- Seven rounds of mixing. -/
def rounds (s m : Block) : Block :=
  ((List.range 7).foldl (fun (s, m) _ => (mixAll s m, permute m)) (s, m)).1

/-- A block that is ready to be compressed. -/
structure Input where
  chain : Chain
  words : Block
  counter : Nat
  length : Nat
  flags : UInt32
  deriving Repr

/-- The chain behind a block. -/
def Input.output (i : Input) : Chain :=
  let h := i.chain
  let iv := initialChain
  let low := UInt32.ofNat i.counter
  let high := UInt32.ofNat (i.counter / 0x100000000)
  let s := rounds
    #v[h[0], h[1], h[2], h[3], h[4], h[5], h[6], h[7], iv[0], iv[1], iv[2], iv[3],
      low, high, UInt32.ofNat i.length, i.flags] i.words
  #v[s[0] ^^^ s[8], s[1] ^^^ s[9], s[2] ^^^ s[10], s[3] ^^^ s[11],
    s[4] ^^^ s[12], s[5] ^^^ s[13], s[6] ^^^ s[14], s[7] ^^^ s[15]]

/-! ## Chunks and the tree -/

/-- Marks the first block of a chunk. -/
def chunkStart : UInt32 := 1

/-- Marks the last block of a chunk. -/
def chunkEnd : UInt32 := 2

/-- Marks a block that joins two parts. -/
def parent : UInt32 := 4

/-- Marks the last block of all. -/
def root : UInt32 := 8

/-- The word at a byte offset, the low byte first; bytes past the end are zero. -/
def wordAt (data : ByteArray) (offset : Nat) : UInt32 :=
  let byte := fun (i : Nat) => ((data.data[offset + i]?).getD 0).toUInt32
  byte 0 ||| (byte 1 <<< 8) ||| (byte 2 <<< 16) ||| (byte 3 <<< 24)

/-- The words of the block at a byte offset. -/
def wordsAt (data : ByteArray) (offset : Nat) : Block :=
  Vector.ofFn fun i => wordAt data (offset + 4 * i)

/-- The last block of a chunk, behind the compression of the others. -/
def chunkInput (data : ByteArray) (chunk : Nat) : Input :=
  let start := chunk * 1024
  let length := min 1024 (data.size - start)
  let last := (length - 1) / 64
  let startFlag := fun (block : Nat) => if block = 0 then chunkStart else 0
  let chain := (List.range last).foldl
    (fun chain block =>
      Input.output ⟨chain, wordsAt data (start + 64 * block), chunk, 64, startFlag block⟩)
    initialChain
  ⟨chain, wordsAt data (start + 64 * last), chunk, length - 64 * last, startFlag last ||| chunkEnd⟩

/-- The block that joins the two parts of a tree. -/
def parentInput (left right : Chain) : Input where
  chain := initialChain
  words := left ++ right
  counter := 0
  length := 64
  flags := parent

/-- How many of a number of chunks go to the left part of their tree: the largest
power of two that leaves some for the right. -/
def leftCount (count : Nat) : Nat :=
  Nat.pow 2 (Nat.log2 (count - 1))

theorem leftCount_lt {count : Nat} (h : 1 < count) : leftCount count < count := by
  have hle : Nat.pow 2 (Nat.log2 (count - 1)) ≤ count - 1 := Nat.log2_self_le (by omega)
  unfold leftCount
  omega

theorem leftCount_pos (count : Nat) : 0 < leftCount count :=
  Nat.pow_pos (by decide)

/-- The last block of the tree over some chunks. -/
def treeInput (data : ByteArray) (first count : Nat) : Input :=
  if h : 1 < count then
    have := leftCount_lt h
    have := leftCount_pos count
    parentInput (treeInput data first (leftCount count)).output
      (treeInput data (first + leftCount count) (count - leftCount count)).output
  else chunkInput data first
  termination_by count
  decreasing_by all_goals omega

/-- The digest of a text. -/
def digest (text : String) : Chain :=
  let data := text.toUTF8
  let input := treeInput data 0 ((data.size + 1023) / 1024)
  Input.output { input with counter := 0, flags := input.flags ||| root }

/-! ## Digits -/

/-- A hexadecimal digit. -/
def hexDigit (n : Nat) : Char :=
  Nat.digitChar (n % 16)

/-- The digits of a word's bytes, the low byte first. -/
def wordDigits (w : UInt32) : List Char :=
  ([0, 1, 2, 3] : List UInt32).flatMap fun i =>
    let byte := (w >>> (8 * i)).toNat % 256
    [hexDigit (byte / 16), hexDigit byte]

/-- The digest of a text in hexadecimal digits. -/
def hex (text : String) : String :=
  String.ofList ((digest text).toList.flatMap wordDigits)

end Gloss.Digest
