/-!
# BLAKE3

The digest that tells whether a text has changed. The input is cut into chunks of 1024 bytes and
each chunk into blocks of 64; the chunks are the leaves of a binary tree whose left subtrees are
complete.
-/

namespace CrateReadme.Digest

abbrev Chain := Vector UInt32 8

/-- The words of a block, or the state of the compression. -/
abbrev Block := Vector UInt32 16

def initialChain : Chain :=
  #v[0x6A09E667, 0xBB67AE85, 0x3C6EF372, 0xA54FF53A, 0x510E527F, 0x9B05688C, 0x1F83D9AB, 0x5BE0CD19]

/-- Where each word of a block goes between two rounds. -/
def permutation : Vector (Fin 16) 16 :=
  #v[2, 6, 3, 10, 7, 0, 4, 13, 1, 11, 12, 5, 9, 14, 15, 8]

def chunkSize : Nat := 1024

def blockSize : Nat := 64

/-- A word turned to the right by fewer than 32 bits. -/
def rotate (word count : UInt32) : UInt32 :=
  (word >>> count) ||| (word <<< (32 - count))

/-- Mixes two message words into four words of the state. -/
def mix (state : Block) (a b c d : Fin 16) (x y : UInt32) : Block :=
  let va := state[a] + state[b] + x
  let vd := rotate (state[d] ^^^ va) 16
  let vc := state[c] + vd
  let vb := rotate (state[b] ^^^ vc) 12
  let va := va + vb + y
  let vd := rotate (vd ^^^ va) 8
  let vc := vc + vd
  let vb := rotate (vb ^^^ vc) 7
  (((state.set a va).set b vb).set c vc).set d vd

/-- One round: the columns, then the diagonals. -/
def round (state words : Block) : Block :=
  let state := mix state 0 4 8 12 words[0] words[1]
  let state := mix state 1 5 9 13 words[2] words[3]
  let state := mix state 2 6 10 14 words[4] words[5]
  let state := mix state 3 7 11 15 words[6] words[7]
  let state := mix state 0 5 10 15 words[8] words[9]
  let state := mix state 1 6 11 12 words[10] words[11]
  let state := mix state 2 7 8 13 words[12] words[13]
  mix state 3 4 9 14 words[14] words[15]

/-- The words of a block in the order of the next round. -/
def permute (words : Block) : Block :=
  Vector.ofFn fun i => words[permutation[i]]

def rounds : (count : Nat) → (state words : Block) → Block
  | 0, state, _ => state
  | count + 1, state, words => rounds count (round state words) (permute words)

/-- What a compression needs to know. -/
structure Node where
  chain : Chain
  words : Block
  counter : Nat
  size : Nat
  flags : UInt32

def chunkStart : UInt32 := 1

def chunkEnd : UInt32 := 2

def parentMark : UInt32 := 4

def rootMark : UInt32 := 8

/-- The first eight words that a compression gives. -/
def Node.compress (node : Node) : Chain :=
  let start : Block :=
    node.chain ++ (#v[initialChain[0], initialChain[1], initialChain[2], initialChain[3],
      node.counter.toUInt32, (node.counter / Nat.pow 2 32).toUInt32, node.size.toUInt32,
      node.flags])
  let state := rounds 7 start node.words
  Vector.ofFn fun i : Fin 8 => state[i.val] ^^^ state[i.val + 8]

/-- A word of four bytes, the lowest first. Bytes past the end count as zero. -/
def wordAt (bytes : Array UInt8) (index : Nat) : UInt32 :=
  let byte (i : Nat) : UInt32 := (bytes.getD (4 * index + i) 0).toUInt32
  byte 0 ||| (byte 1 <<< 8) ||| (byte 2 <<< 16) ||| (byte 3 <<< 24)

/-- The words of a block of at most 64 bytes. -/
def blockWords (bytes : List UInt8) : Block :=
  let bytes := bytes.toArray
  Vector.ofFn fun i => wordAt bytes i.val

/-- The last compression of a chunk, whose earlier blocks have given `chain`. -/
def chunkFrom (counter : Nat) (chain : Chain) (flags : UInt32) (bytes : List UInt8) : Node :=
  if bytes.length ≤ blockSize then
    { chain, words := blockWords bytes, counter, size := bytes.length, flags := flags ||| chunkEnd }
  else
    let node : Node :=
      { chain, words := blockWords (bytes.take blockSize), counter, size := blockSize, flags }
    chunkFrom counter node.compress 0 (bytes.drop blockSize)
termination_by bytes.length
decreasing_by
  simp only [blockSize, List.length_drop] at *
  omega

def parentNode (left right : Chain) : Node :=
  { chain := initialChain, words := left ++ right, counter := 0, size := blockSize,
    flags := parentMark }

/-- The number of bytes in the left subtree: the largest power of two chunks that leaves at least
one byte for the right. -/
def leftSize (size : Nat) : Nat :=
  Nat.pow 2 (Nat.log2 ((size - 1) / chunkSize)) * chunkSize

theorem leftSize_pos (size : Nat) : 0 < leftSize size := by
  have hpower := Nat.two_pow_pos (Nat.log2 ((size - 1) / chunkSize))
  exact Nat.mul_pos hpower (by decide)

theorem leftSize_lt {size : Nat} (h : chunkSize < size) : leftSize size < size := by
  have hne : (size - 1) / chunkSize ≠ 0 := by
    simp only [chunkSize] at h ⊢
    omega
  have hpower : leftSize size ≤ (size - 1) / chunkSize * chunkSize :=
    Nat.mul_le_mul_right chunkSize (Nat.log2_self_le hne)
  have hdiv := Nat.div_mul_le_self (size - 1) chunkSize
  omega

/-- The node of a stretch of the input that starts at the chunk `counter`. -/
def subtree (counter : Nat) (bytes : List UInt8) : Node :=
  if bytes.length ≤ chunkSize then
    chunkFrom counter initialChain chunkStart bytes
  else
    let size := leftSize bytes.length
    let left := subtree counter (bytes.take size)
    let right := subtree (counter + size / chunkSize) (bytes.drop size)
    parentNode left.compress right.compress
termination_by bytes.length
decreasing_by
  · rename_i hlong
    have := leftSize_lt (Nat.lt_of_not_le hlong)
    simp only [List.length_take]
    omega
  · rename_i hlong
    have := leftSize_pos bytes.length
    simp only [chunkSize] at hlong
    simp only [List.length_drop]
    omega

/-- The four bytes of a word, the lowest first. -/
def wordBytes (word : UInt32) : List UInt8 :=
  [word.toUInt8, (word >>> 8).toUInt8, (word >>> 16).toUInt8, (word >>> 24).toUInt8]

/-- The digest of some bytes: 32 bytes. -/
def blake3 (bytes : List UInt8) : List UInt8 :=
  let node := subtree 0 bytes
  ({ node with flags := node.flags ||| rootMark }.compress.toList).flatMap wordBytes

end CrateReadme.Digest
