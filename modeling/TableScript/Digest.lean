import TableScript.Text.Numeral

/-!
# Digests

BLAKE3 over bytes, with 256 bits of output.  The input is cut into chunks of 1024 bytes and each chunk into blocks
of 64; chunks are joined pairwise as a binary tree whose left part is as large a power of two as possible.
-/

namespace TableScript.Digest

abbrev Words := Array UInt32

def initial : Words :=
  #[0x6A09E667, 0xBB67AE85, 0x3C6EF372, 0xA54FF53A, 0x510E527F, 0x9B05688C, 0x1F83D9AB, 0x5BE0CD19]

/-- The order in which a round's message words go into the next round. -/
def permutation : List Nat :=
  [2, 6, 3, 10, 7, 0, 4, 13, 1, 11, 12, 5, 9, 14, 15, 8]

def chunkStart : UInt32 := 1
def chunkEnd : UInt32 := 2
def parent : UInt32 := 4
def root : UInt32 := 8

def rotateRight (x : UInt32) (n : UInt32) : UInt32 :=
  (x >>> n) ||| (x <<< (32 - n))

/-- Mixes two message words into four words of the state. -/
def mix (state : Words) (a b c d : Nat) (mx my : UInt32) : Words :=
  let va := state[a]! + state[b]! + mx
  let vd := rotateRight (state[d]! ^^^ va) 16
  let vc := state[c]! + vd
  let vb := rotateRight (state[b]! ^^^ vc) 12
  let va := va + vb + my
  let vd := rotateRight (vd ^^^ va) 8
  let vc := vc + vd
  let vb := rotateRight (vb ^^^ vc) 7
  (((state.set! a va).set! b vb).set! c vc).set! d vd

/-- One round: the columns of the state, then its diagonals. -/
def round (state block : Words) : Words :=
  let m := fun i => block[i]!
  let state := mix state 0 4 8 12 (m 0) (m 1)
  let state := mix state 1 5 9 13 (m 2) (m 3)
  let state := mix state 2 6 10 14 (m 4) (m 5)
  let state := mix state 3 7 11 15 (m 6) (m 7)
  let state := mix state 0 5 10 15 (m 8) (m 9)
  let state := mix state 1 6 11 12 (m 10) (m 11)
  let state := mix state 2 7 8 13 (m 12) (m 13)
  mix state 3 4 9 14 (m 14) (m 15)

def permute (block : Words) : Words :=
  (permutation.map fun i => block[i]!).toArray

/-- `n` rounds, the message words permuted between them. -/
def rounds : Nat → Words → Words → Words
  | 0, state, _ => state
  | n + 1, state, block => rounds n (round state block) (permute block)

/-- Compresses a block of a given length into a chaining value. -/
def compress (chaining block : Words) (counter : UInt64) (length flags : UInt32) : Words :=
  let state := chaining ++ initial.take 4 ++
    #[counter.toUInt32, (counter >>> 32).toUInt32, length, flags]
  let state := rounds 7 state block
  ((List.range 8).map fun i => state[i]! ^^^ state[i + 8]!).toArray

/-- Four bytes as a word, the least significant first; missing bytes are zero. -/
def word (bytes : List UInt8) : UInt32 :=
  bytes.foldr (fun b n => b.toUInt32 ||| (n <<< 8)) 0

/-- Sixteen words from at most 64 bytes. -/
def blockWords (bytes : List UInt8) : Words :=
  ((List.range 16).map fun i => word ((bytes.drop (4 * i)).take 4)).toArray

/-- A last compression that has not been made yet, as it may become the root. -/
structure Node where
  chaining : Words
  block : Words
  counter : UInt64
  length : UInt32
  flags : UInt32

def Node.value (node : Node) (flags : UInt32) : Words :=
  compress node.chaining node.block node.counter node.length (node.flags ||| flags)

/-- The last node of a chunk, of which `bytes` are left. -/
def chunkFrom (counter : UInt64) (chaining : Words) (start : UInt32) (bytes : List UInt8) : Node :=
  if 64 < bytes.length then
    chunkFrom counter (compress chaining (blockWords (bytes.take 64)) counter 64 start) 0 (bytes.drop 64)
  else ⟨chaining, blockWords bytes, counter, bytes.length.toUInt32, start ||| chunkEnd⟩
termination_by bytes.length

def chunk (counter : UInt64) (bytes : List UInt8) : Node :=
  chunkFrom counter initial chunkStart bytes

/-- The node above two chaining values. -/
def join (left right : Words) : Node :=
  ⟨initial, left ++ right, 0, 64, parent⟩

/-- The number of bytes on the left of `n` bytes that fill more than one chunk: the largest power of two of
chunks that leaves something on the right. -/
def leftLength (n : Nat) : Nat :=
  1024 * Nat.pow 2 ((n - 1) / 1024).log2

/-- The node over some bytes, whose first chunk has a number; `depth` bounds the levels of the tree. -/
def tree (depth : Nat) (counter : UInt64) (bytes : List UInt8) : Node :=
  match depth with
  | 0 => chunk counter bytes
  | depth + 1 =>
    if bytes.length ≤ 1024 then chunk counter bytes
    else
      let left := leftLength bytes.length
      join ((tree depth counter (bytes.take left)).value 0)
        ((tree depth (counter + (left / 1024).toUInt64) (bytes.drop left)).value 0)

/-- The digest of some bytes. -/
def bytes (input : List UInt8) : List UInt8 :=
  ((tree (input.length.log2 + 1) 0 input).value root).toList.flatMap fun (w : UInt32) =>
    [w.toUInt8, (w >>> 8).toUInt8, (w >>> 16).toUInt8, (w >>> 24).toUInt8]

/-- The digest of a text's UTF-8 form, in lower-case hexadecimal. -/
def hex (text : String) : String :=
  String.ofList ((bytes text.toUTF8.data.toList).flatMap fun b => Text.hexByte b.toNat)

end TableScript.Digest
