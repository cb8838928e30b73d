import ZigpySpinel.Lib.Bytes

/-!
# Blocks of sixteen bytes

Byte strings cut into blocks, the last one filled up with zeros; the bytewise exclusive
or; and the chaining of blocks through a block function. A list of blocks is determined
by its bytes, so that two ways of cutting are compared on bytes.
-/

namespace ZigpySpinel.Lib

/-- A block of a 128-bit block cipher. -/
abbrev Block : Type := FixedBytes 16

/-- The block of zeros. -/
def Block.zero : Block := ⟨List.replicate 16 0, List.length_replicate ..⟩

/-- The bytes of a list of blocks. -/
def blockBytes (blocks : List Block) : List UInt8 := blocks.flatMap Subtype.val

@[simp] theorem blockBytes_nil : blockBytes [] = [] := rfl

@[simp] theorem blockBytes_cons (block : Block) (blocks : List Block) :
    blockBytes (block :: blocks) = block.val ++ blockBytes blocks := rfl

@[simp] theorem blockBytes_append (blocks blocks' : List Block) :
    blockBytes (blocks ++ blocks') = blockBytes blocks ++ blockBytes blocks' :=
  List.flatMap_append

theorem length_blockBytes (blocks : List Block) : (blockBytes blocks).length = 16 * blocks.length := by
  induction blocks with
  | nil => rfl
  | cons block blocks ih =>
    rw [blockBytes_cons, List.length_append, ih, block.property, List.length_cons]
    omega

/-- Blocks are determined by their bytes. -/
theorem blockBytes_inj {blocks blocks' : List Block} (h : blockBytes blocks = blockBytes blocks') :
    blocks = blocks' := by
  induction blocks generalizing blocks' with
  | nil =>
    have hlen := congrArg List.length h
    rw [length_blockBytes, length_blockBytes, List.length_nil] at hlen
    exact (List.length_eq_zero_iff.mp (by omega)).symm
  | cons block blocks ih =>
    cases blocks' with
    | nil =>
      have hlen := congrArg List.length h
      rw [length_blockBytes, length_blockBytes, List.length_nil, List.length_cons] at hlen
      omega
    | cons block' blocks' =>
      obtain ⟨hblock, hrest⟩ :=
        List.append_inj h (block.property.trans block'.property.symm)
      rw [Subtype.ext hblock, ih hrest]

/-! ## Cutting and padding -/

/-- The first block of a byte string, filled up with zeros. -/
def firstBlock (bytes : List UInt8) : Block :=
  ⟨bytes.take 16 ++ List.replicate (16 - bytes.length) 0, by
    simp only [List.length_append, List.length_take, List.length_replicate]
    omega⟩

/-- The first `n` blocks of a byte string. -/
def cutBlocks : Nat → List UInt8 → List Block
  | 0, _ => []
  | n + 1, bytes => firstBlock bytes :: cutBlocks n (bytes.drop 16)

/-- The byte string as blocks, the last one filled up with zeros. -/
def paddedBlocks (bytes : List UInt8) : List Block := cutBlocks ((bytes.length + 15) / 16) bytes

theorem blockBytes_cutBlocks (n : Nat) (bytes : List UInt8) (h : bytes.length ≤ 16 * n) :
    blockBytes (cutBlocks n bytes) = bytes ++ List.replicate (16 * n - bytes.length) 0 := by
  induction n generalizing bytes with
  | zero =>
    have hnil : bytes = [] := List.length_eq_zero_iff.mp (by omega)
    rw [hnil]
    rfl
  | succ n ih =>
    have hrest : (bytes.drop 16).length ≤ 16 * n := by
      rw [List.length_drop]
      omega
    rw [cutBlocks, blockBytes_cons, ih _ hrest, List.length_drop]
    by_cases hlong : 16 ≤ bytes.length
    · have hzero : 16 - bytes.length = 0 := by omega
      have hcount : 16 * n - (bytes.length - 16) = 16 * (n + 1) - bytes.length := by omega
      show bytes.take 16 ++ List.replicate (16 - bytes.length) 0 ++ _ = _
      rw [hzero, List.replicate_zero, List.append_nil, ← List.append_assoc,
        List.take_append_drop, hcount]
    · -- the bytes end within this block, and the zeros go on through the next ones
      have hcount : 16 - bytes.length + (16 * n - (bytes.length - 16)) =
          16 * (n + 1) - bytes.length := by omega
      show bytes.take 16 ++ List.replicate (16 - bytes.length) 0 ++ _ = _
      rw [List.take_of_length_le (by omega), List.drop_of_length_le (by omega), List.nil_append,
        List.append_assoc, List.replicate_append_replicate, hcount]

theorem length_cutBlocks (n : Nat) (bytes : List UInt8) : (cutBlocks n bytes).length = n := by
  induction n generalizing bytes with
  | zero => rfl
  | succ n ih => rw [cutBlocks, List.length_cons, ih]

theorem length_paddedBlocks (bytes : List UInt8) :
    (paddedBlocks bytes).length = (bytes.length + 15) / 16 :=
  length_cutBlocks _ _

theorem blockBytes_paddedBlocks (bytes : List UInt8) :
    blockBytes (paddedBlocks bytes) =
      bytes ++ List.replicate (16 * ((bytes.length + 15) / 16) - bytes.length) 0 :=
  blockBytes_cutBlocks _ _ (by omega)

/-- Byte strings of one length are told apart by their blocks. -/
theorem paddedBlocks_inj {xs ys : List UInt8} (hlen : xs.length = ys.length)
    (h : paddedBlocks xs = paddedBlocks ys) : xs = ys := by
  have hbytes := congrArg blockBytes h
  rw [blockBytes_paddedBlocks, blockBytes_paddedBlocks] at hbytes
  exact (List.append_inj hbytes hlen).1

/-! ## Exclusive or -/

/-- The bytewise exclusive or, as long as the shorter one. -/
def xorBytes (xs ys : List UInt8) : List UInt8 := List.zipWith (· ^^^ ·) xs ys

theorem length_xorBytes (xs ys : List UInt8) :
    (xorBytes xs ys).length = min xs.length ys.length :=
  List.length_zipWith

theorem xorBytes_comm (xs ys : List UInt8) : xorBytes xs ys = xorBytes ys xs :=
  List.zipWith_comm_of_comm (fun x y => UInt8.xor_comm x y)

/-- The second exclusive or with the same bytes undoes the first. -/
theorem xorBytes_xorBytes {xs ys : List UInt8} (h : xs.length ≤ ys.length) :
    xorBytes (xorBytes xs ys) ys = xs := by
  induction xs generalizing ys with
  | nil => rfl
  | cons x xs ih =>
    cases ys with
    | nil => cases h
    | cons y ys =>
      have hrest := ih (Nat.le_of_succ_le_succ h)
      show (x ^^^ y ^^^ y) :: xorBytes (xorBytes xs ys) ys = x :: xs
      rw [hrest, UInt8.xor_assoc, UInt8.xor_self, UInt8.xor_zero]

theorem xorBytes_append {xs ys xs' ys' : List UInt8} (h : xs.length = ys.length) :
    xorBytes (xs ++ xs') (ys ++ ys') = xorBytes xs ys ++ xorBytes xs' ys' :=
  List.zipWith_append h

theorem take_xorBytes (n : Nat) (xs ys : List UInt8) :
    (xorBytes xs ys).take n = xorBytes (xs.take n) (ys.take n) :=
  List.take_zipWith ..

/-- What lies beyond the shorter string does not count. -/
theorem xorBytes_take_right {xs ys : List UInt8} {n : Nat} (h : xs.length ≤ n) :
    xorBytes xs (ys.take n) = xorBytes xs ys := by
  have hcut : xorBytes xs ys = (xorBytes xs ys).take n := by
    refine (List.take_of_length_le ?_).symm
    rw [length_xorBytes]
    omega
  rw [hcut, take_xorBytes, List.take_of_length_le h]

theorem replicate_zero_xorBytes (n : Nat) (ys : List UInt8) :
    xorBytes (List.replicate n 0) ys = ys.take n := by
  induction n generalizing ys with
  | zero => rfl
  | succ n ih =>
    cases ys with
    | nil => rfl
    | cons y ys =>
      show (0 ^^^ y) :: xorBytes (List.replicate n 0) ys = y :: ys.take n
      rw [ih, UInt8.zero_xor]

/-- The exclusive or of two blocks. -/
def Block.xor (x y : Block) : Block :=
  ⟨xorBytes x.val y.val, by rw [length_xorBytes, x.property, y.property]; rfl⟩

theorem Block.xor_comm (x y : Block) : x.xor y = y.xor x :=
  Subtype.ext (xorBytes_comm x.val y.val)

theorem Block.zero_xor (x : Block) : Block.zero.xor x = x := by
  refine Subtype.ext ?_
  show xorBytes (List.replicate 16 0) x.val = x.val
  rw [replicate_zero_xorBytes, List.take_of_length_le (Nat.le_of_eq x.property)]

theorem blockBytes_zipWith_xor (xs ys : List Block) :
    blockBytes (List.zipWith Block.xor xs ys) = xorBytes (blockBytes xs) (blockBytes ys) := by
  induction xs generalizing ys with
  | nil => rfl
  | cons x xs ih =>
    cases ys with
    | nil =>
      rw [xorBytes_comm]
      rfl
    | cons y ys =>
      have hlen : x.val.length = y.val.length := x.property.trans y.property.symm
      rw [List.zipWith_cons_cons, blockBytes_cons, blockBytes_cons, blockBytes_cons, ih,
        xorBytes_append hlen]
      rfl

/-! ## Chaining -/

/-- The blocks that cipher block chaining gives out, one for each block put in. -/
def cbcChain (encrypt : Block → Block) : Block → List Block → List Block
  | _, [] => []
  | previous, block :: blocks =>
    encrypt (previous.xor block) :: cbcChain encrypt (encrypt (previous.xor block)) blocks

theorem getLast?_cbcChain (encrypt : Block → Block) (previous block : Block) (blocks : List Block) :
    (cbcChain encrypt previous (block :: blocks)).getLast? =
      some (blocks.foldl (fun x b => encrypt (x.xor b)) (encrypt (previous.xor block))) := by
  induction blocks generalizing previous block with
  | nil => rfl
  | cons next blocks ih =>
    rw [cbcChain, cbcChain, List.getLast?_cons_cons, List.foldl_cons]
    exact ih (encrypt (previous.xor block)) next

end ZigpySpinel.Lib
