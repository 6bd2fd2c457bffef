import Asio.Lib.Loop
import Asio.Transmit.Stream

/-! # Copying between buffer sequences

`buffer_copy` has a version for one buffer and for many on either side, and each of
them with and without a limit. Flattened, all of them copy a common prefix of the
cells of the target and the source.
-/

namespace Asio.Transmit

/-- `(std::numeric_limits<std::size_t>::max)()`. -/
def sizeMax : Nat := 2 ^ 64 - 1

/-- `detail::buffer_copy_1`, with the memory that `memcpy` leaves. -/
def bufferCopy1 (memory : Nat → Byte) (target source : Buffer) : Nat × (Nat → Byte) :=
  let n := if target.size < source.size then target.size else source.size
  (n, if 0 < n then Memory.copy memory target.cells source.cells n else memory)

/-- `detail::buffer_copy(one_buffer, one_buffer)`. -/
def bufferCopyOneOne (memory : Nat → Byte) (target source : Buffer) : Nat × (Nat → Byte) :=
  bufferCopy1 memory target source

/-- `detail::buffer_copy(one_buffer, one_buffer)` with a limit. -/
def bufferCopyOneOneMax (memory : Nat → Byte) (target source : Buffer) (maxBytesToCopy : Nat) :
    Nat × (Nat → Byte) :=
  bufferCopy1 memory target (buffer source maxBytesToCopy)

/-- The loop of `detail::buffer_copy(one_buffer, multiple_buffers)`. -/
def copyFromMultiple (memory : Nat → Byte) (targetBuffer : Buffer) :
    List Buffer → Nat → Nat × (Nat → Byte)
  | [], totalBytesCopied => (totalBytesCopied, memory)
  | sourceBuffer :: sources, totalBytesCopied =>
      if targetBuffer.size = 0 then (totalBytesCopied, memory)
      else
        let (bytesCopied, memory) := bufferCopy1 memory targetBuffer sourceBuffer
        copyFromMultiple memory (targetBuffer + bytesCopied) sources
          (totalBytesCopied + bytesCopied)

/-- `detail::buffer_copy(one_buffer, multiple_buffers)`. -/
def bufferCopyOneMultiple (memory : Nat → Byte) (target : Buffer) (sources : List Buffer)
    (maxBytesToCopy : Nat) : Nat × (Nat → Byte) :=
  copyFromMultiple memory (buffer target maxBytesToCopy) sources 0

/-- The loop of `detail::buffer_copy(multiple_buffers, one_buffer)`. -/
def copyToMultiple (memory : Nat → Byte) (sourceBuffer : Buffer) :
    List Buffer → Nat → Nat × (Nat → Byte)
  | [], totalBytesCopied => (totalBytesCopied, memory)
  | targetBuffer :: targets, totalBytesCopied =>
      if sourceBuffer.size = 0 then (totalBytesCopied, memory)
      else
        let (bytesCopied, memory) := bufferCopy1 memory targetBuffer sourceBuffer
        copyToMultiple memory (sourceBuffer + bytesCopied) targets
          (totalBytesCopied + bytesCopied)

/-- `detail::buffer_copy(multiple_buffers, one_buffer)`. -/
def bufferCopyMultipleOne (memory : Nat → Byte) (targets : List Buffer) (source : Buffer)
    (maxBytesToCopy : Nat) : Nat × (Nat → Byte) :=
  copyToMultiple memory (buffer source maxBytesToCopy) targets 0

/-- An iterator with the offset in the buffer it is at. -/
structure CopyCursor where
  iter : List Buffer
  bufferOffset : Nat

/-- The cursor after so many bytes of the rest of a buffer. -/
def CopyCursor.advance (cursor : CopyCursor) (rest bytesCopied : Nat) : CopyCursor :=
  if bytesCopied = rest then ⟨cursor.iter.tail, 0⟩
  else ⟨cursor.iter, cursor.bufferOffset + bytesCopied⟩

/-- The variables of `detail::buffer_copy(multiple_buffers, multiple_buffers)`. -/
structure CopyWalk where
  memory : Nat → Byte
  target : CopyCursor
  source : CopyCursor
  totalBytesCopied : Nat

/-- The source buffer of a pass, cut to what the limit leaves. -/
def limited (limit : Option Nat) (totalBytesCopied : Nat) (sourceBuffer : Buffer) : Buffer :=
  match limit with
  | none => sourceBuffer
  | some maxBytesToCopy => buffer sourceBuffer (maxBytesToCopy - totalBytesCopied)

/-- One pass of the loop, which tests the limit when there is one. -/
def copyPass (limit : Option Nat) (walk : CopyWalk) : Loop.Pass CopyWalk (Nat × (Nat → Byte)) :=
  if limit = some walk.totalBytesCopied then .leave (walk.totalBytesCopied, walk.memory)
  else
    match walk.target.iter, walk.source.iter with
    | target :: _, source :: _ =>
        let targetBuffer := target + walk.target.bufferOffset
        let sourceBuffer := source + walk.source.bufferOffset
        let (bytesCopied, memory) :=
          bufferCopy1 walk.memory targetBuffer (limited limit walk.totalBytesCopied sourceBuffer)
        .again ⟨memory, walk.target.advance targetBuffer.size bytesCopied,
          walk.source.advance sourceBuffer.size bytesCopied, walk.totalBytesCopied + bytesCopied⟩
    | _, _ => .leave (walk.totalBytesCopied, walk.memory)

/-- The loop, for as many passes as there are buffers and two. -/
def copyMultiple (limit : Option Nat) (memory : Nat → Byte) (targets sources : List Buffer) :
    Option (Nat × (Nat → Byte)) :=
  Loop.evaluate (copyPass limit) (targets.length + sources.length + 2)
    ⟨memory, ⟨targets, 0⟩, ⟨sources, 0⟩, 0⟩

/-- `detail::buffer_copy(multiple_buffers, multiple_buffers)`. -/
def bufferCopyMultipleMultiple (memory : Nat → Byte) (targets sources : List Buffer) :
    Option (Nat × (Nat → Byte)) :=
  copyMultiple none memory targets sources

/-- `detail::buffer_copy(multiple_buffers, multiple_buffers)` with a limit. -/
def bufferCopyMultipleMultipleMax (memory : Nat → Byte) (targets sources : List Buffer)
    (maxBytesToCopy : Nat) : Option (Nat × (Nat → Byte)) :=
  copyMultiple (some maxBytesToCopy) memory targets sources

/-- The overloads that `buffer_sequence_cardinality` tells apart. -/
inductive CopyOverload where
  | oneOne
  | oneMultiple
  | multipleOne
  | multipleMultiple
  deriving DecidableEq, Repr

/-- `detail::buffer_copy`, where the overload applies: a limit of its own, or the
default argument. -/
def CopyOverload.copy (memory : Nat → Byte) (targets sources : List Buffer)
    (limit : Option Nat) : CopyOverload → Option (Nat × (Nat → Byte))
  | .oneOne =>
      match targets, sources, limit with
      | [target], [source], none => some (bufferCopyOneOne memory target source)
      | [target], [source], some maxBytesToCopy =>
          some (bufferCopyOneOneMax memory target source maxBytesToCopy)
      | _, _, _ => none
  | .oneMultiple =>
      match targets with
      | [target] => some (bufferCopyOneMultiple memory target sources (limit.getD sizeMax))
      | _ => none
  | .multipleOne =>
      match sources with
      | [source] => some (bufferCopyMultipleOne memory targets source (limit.getD sizeMax))
      | _ => none
  | .multipleMultiple =>
      match limit with
      | none => bufferCopyMultipleMultiple memory targets sources
      | some maxBytesToCopy => bufferCopyMultipleMultipleMax memory targets sources maxBytesToCopy

/-- The overload has as many buffers as it is for. -/
def CopyOverload.applies (targets sources : List Buffer) : CopyOverload → Bool
  | .oneOne => decide (targets.length = 1) && decide (sources.length = 1)
  | .oneMultiple => decide (targets.length = 1)
  | .multipleOne => decide (sources.length = 1)
  | .multipleMultiple => true

/-- `buffer_sequence_cardinality` of the target and the source. -/
def BufferSequence.copyOverload : BufferSequence → BufferSequence → CopyOverload
  | .single _, .single _ => .oneOne
  | .single _, _ => .oneMultiple
  | _, .single _ => .multipleOne
  | _, _ => .multipleMultiple

/-- `buffer_copy`, with `max_bytes_to_copy` or without. -/
def bufferCopy (memory : Nat → Byte) (target source : BufferSequence) (limit : Option Nat) :
    Option (Nat × (Nat → Byte)) :=
  (target.copyOverload source).copy memory target.buffers source.buffers limit

/-! ## Cursors -/

/-- The cells from a cursor on. -/
def CopyCursor.cells (cursor : CopyCursor) : List Nat :=
  match cursor.iter with
  | [] => []
  | b :: rest => (b + cursor.bufferOffset).cells ++ flatten rest

theorem CopyCursor.cells_start (buffers : List Buffer) :
    CopyCursor.cells ⟨buffers, 0⟩ = flatten buffers := by
  cases buffers with
  | nil => rfl
  | cons b rest =>
      change (b + 0).cells ++ flatten rest = _
      rw [Buffer.cells_add, List.drop_zero, flatten_cons]

theorem CopyCursor.cells_cons {cursor : CopyCursor} {b : Buffer} {rest : List Buffer}
    (iter : cursor.iter = b :: rest) :
    cursor.cells = (b + cursor.bufferOffset).cells ++ flatten rest := by
  rw [cells, iter]

/-- A cursor moves over the bytes that were copied. -/
theorem CopyCursor.cells_advance {cursor : CopyCursor} {b : Buffer} {rest : List Buffer}
    (iter : cursor.iter = b :: rest) {copied : Nat}
    (within : copied ≤ (b + cursor.bufferOffset).size) :
    (cursor.advance (b + cursor.bufferOffset).size copied).cells = cursor.cells.drop copied := by
  rw [cells_cons iter, advance]
  split
  · next whole =>
    rw [iter, whole, List.tail_cons, cells_start, ← Buffer.length_cells, List.drop_left]
  · have moved : CopyCursor.cells ⟨cursor.iter, cursor.bufferOffset + copied⟩ =
        (b + (cursor.bufferOffset + copied)).cells ++ flatten rest := cells_cons iter
    rw [moved, List.drop_append_of_le_length (by rw [Buffer.length_cells]; exact within),
      Buffer.cells_add, Buffer.cells_add, List.drop_drop]

/-- A cursor that moved over the rest of a buffer has fewer buffers before it. -/
theorem CopyCursor.length_advance {cursor : CopyCursor} {b : Buffer} {rest : List Buffer}
    (iter : cursor.iter = b :: rest) (size copied : Nat) :
    (cursor.advance size copied).iter.length + (if copied = size then 1 else 0) =
      cursor.iter.length := by
  rw [advance]
  split
  · rw [iter, List.tail_cons, List.length_cons]
  · rfl

/-! ## What is copied -/

/-- So many cells of the target hold what the source held, and no other changed. -/
structure Copied (memory : Nat → Byte) (target source : List Nat) (count : Nat)
    (result : Nat × (Nat → Byte)) : Prop where
  returned : result.1 = count
  moved : (target.take count).map result.2 = (source.take count).map memory
  unchanged : ∀ cell ∉ target.take count, result.2 cell = memory cell

theorem copied_copy (memory : Nat → Byte) {target source : List Nat} {count : Nat}
    (distinct : target.Nodup) (room : count ≤ target.length) (held : count ≤ source.length) :
    Copied memory target source count (count, Memory.copy memory target source count) where
  returned := rfl
  moved := Memory.map_copy memory distinct room held
  unchanged _ outside := Memory.copy_of_notMem memory source count outside

theorem bufferCopy1_eq (memory : Nat → Byte) (target source : Buffer) :
    bufferCopy1 memory target source =
      (min target.size source.size,
        Memory.copy memory target.cells source.cells (min target.size source.size)) := by
  have smaller : (if target.size < source.size then target.size else source.size) =
      min target.size source.size := by
    rw [Nat.min_def]
    split <;> split <;> omega
  rw [bufferCopy1, smaller]
  by_cases some : 0 < min target.size source.size
  · simp only [some, ↓reduceIte]
  · simp only [some, ↓reduceIte]
    rw [Nat.le_zero.mp (Nat.le_of_not_lt some), Memory.copy_zero]

/-! ## One buffer on one side -/

theorem bufferSize_cons (b : Buffer) (buffers : List Buffer) :
    bufferSize (b :: buffers) = b.size + bufferSize buffers := by
  rw [bufferSize, bufferSize, List.map_cons, List.sum_cons]

/-- The cells of a buffer and those after it, where one side of a copy ended. -/
theorem drop_cells (b : Buffer) (rest : List Buffer) {count more : Nat}
    (ended : count = b.size ∨ more = 0) :
    ((b.cells ++ flatten rest).drop count).take more = (flatten rest).take more := by
  rcases ended with rfl | rfl
  · rw [← Buffer.length_cells, List.drop_left]
  · rw [List.take_zero, List.take_zero]

theorem copyFromMultiple_eq (memory : Nat → Byte) (target : Buffer) (sources : List Buffer)
    (total : Nat) (apart : ∀ cell ∈ flatten sources, cell ∉ target.cells) :
    copyFromMultiple memory target sources total =
      (total + min target.size (bufferSize sources),
        Memory.copy memory target.cells (flatten sources)
          (min target.size (bufferSize sources))) := by
  induction sources generalizing memory target total with
  | nil => rw [copyFromMultiple, bufferSize, List.map_nil, List.sum_nil, Nat.min_zero]; rfl
  | cons source sources ih =>
      rw [copyFromMultiple]
      split
      · next empty => rw [empty, Nat.zero_min]; rfl
      · have apartRest : ∀ cell ∈ flatten sources,
            cell ∉ (target + min target.size source.size).cells := by
          intro cell member inside
          rw [Buffer.cells_add] at inside
          exact apart cell (List.mem_append_right _ member) (List.mem_of_mem_drop inside)
        have sum : min target.size (source.size + bufferSize sources) =
            min target.size source.size +
              min (target.size - min target.size source.size) (bufferSize sources) := by
          omega
        have room : min target.size source.size ≤ target.cells.length := by
          rw [Buffer.length_cells]
          exact Nat.min_le_left _ _
        have held : min target.size source.size ≤ source.cells.length := by
          rw [Buffer.length_cells]
          exact Nat.min_le_right _ _
        have heldAll : min target.size source.size ≤ (flatten (source :: sources)).length := by
          rw [flatten_cons, List.length_append]
          exact Nat.le_add_right_of_le held
        rw [bufferCopy1_eq]
        dsimp only
        rw [ih _ _ _ apartRest, bufferSize_cons, sum, Buffer.size_add, Buffer.cells_add,
          Nat.add_assoc, Memory.copy_add memory apart _ room heldAll, flatten_cons,
          Memory.copy_append_source memory _ _ held]
        congr 1
        unfold Memory.copy
        rw [drop_cells]
        omega

theorem copyToMultiple_eq (memory : Nat → Byte) (source : Buffer) (targets : List Buffer)
    (total : Nat) (apart : ∀ cell ∈ source.cells, cell ∉ flatten targets) :
    copyToMultiple memory source targets total =
      (total + min (bufferSize targets) source.size,
        Memory.copy memory (flatten targets) source.cells
          (min (bufferSize targets) source.size)) := by
  induction targets generalizing memory source total with
  | nil => rw [copyToMultiple, bufferSize, List.map_nil, List.sum_nil, Nat.zero_min]; rfl
  | cons target targets ih =>
      rw [copyToMultiple]
      split
      · next empty => rw [empty, Nat.min_zero]; rfl
      · have apartRest : ∀ cell ∈ (source + min target.size source.size).cells,
            cell ∉ flatten targets := by
          intro cell member inside
          rw [Buffer.cells_add] at member
          exact apart cell (List.mem_of_mem_drop member) (List.mem_append_right _ inside)
        have sum : min (target.size + bufferSize targets) source.size =
            min target.size source.size +
              min (bufferSize targets) (source.size - min target.size source.size) := by
          omega
        have room : min target.size source.size ≤ target.cells.length := by
          rw [Buffer.length_cells]
          exact Nat.min_le_left _ _
        have roomAll : min target.size source.size ≤ (flatten (target :: targets)).length := by
          rw [flatten_cons, List.length_append]
          exact Nat.le_add_right_of_le room
        have held : min target.size source.size ≤ source.cells.length := by
          rw [Buffer.length_cells]
          exact Nat.min_le_right _ _
        rw [bufferCopy1_eq]
        dsimp only
        rw [ih _ _ _ apartRest, bufferSize_cons, sum, Buffer.size_add, Buffer.cells_add,
          Nat.add_assoc, Memory.copy_add memory apart _ roomAll held, flatten_cons,
          Memory.copy_append_target memory _ _ room]
        congr 1
        unfold Memory.copy
        rw [drop_cells]
        omega

/-! ## Many buffers on both sides -/

/-- The number of bytes to copy. -/
def copyCount (targets sources : List Buffer) (limit : Option Nat) : Nat :=
  match limit with
  | none => min (bufferSize targets) (bufferSize sources)
  | some maxBytesToCopy => min (min (bufferSize targets) (bufferSize sources)) maxBytesToCopy

theorem copyCount_le (targets sources : List Buffer) (limit : Option Nat) :
    copyCount targets sources limit ≤ bufferSize targets ∧
      copyCount targets sources limit ≤ bufferSize sources := by
  cases limit with
  | none => exact ⟨Nat.min_le_left _ _, Nat.min_le_right _ _⟩
  | some _ => exact Nat.le_min.mp (Nat.min_le_left _ _)

/-- The walk has copied a prefix, and both cursors are behind it. -/
structure CopyWalk.Walks (memory : Nat → Byte) (targets sources : List Buffer)
    (limit : Option Nat) (walk : CopyWalk) : Prop where
  copied : walk.memory =
    Memory.copy memory (flatten targets) (flatten sources) walk.totalBytesCopied
  target : walk.target.cells = (flatten targets).drop walk.totalBytesCopied
  source : walk.source.cells = (flatten sources).drop walk.totalBytesCopied
  within : walk.totalBytesCopied ≤ copyCount targets sources limit

/-- Each pass advances a cursor, or reaches the limit. -/
def CopyWalk.remaining (limit : Option Nat) (walk : CopyWalk) : Nat :=
  walk.target.iter.length + walk.source.iter.length +
    if limit = some walk.totalBytesCopied then 0 else 1

theorem size_limited (limit : Option Nat) (total : Nat) (source : Buffer) :
    (limited limit total source).size = match limit with
      | none => source.size
      | some maxBytesToCopy => min source.size (maxBytesToCopy - total) := by
  cases limit with
  | none => rfl
  | some maxBytesToCopy => exact size_buffer _ _

theorem cells_limited (limit : Option Nat) (total : Nat) (source : Buffer) :
    (limited limit total source).cells =
      source.cells.take (limited limit total source).size := by
  cases limit with
  | none =>
      rw [limited, ← Buffer.length_cells, List.take_length]
  | some maxBytesToCopy =>
      rw [limited, cells_buffer, size_buffer, ← Buffer.length_cells, List.take_eq_take_min]
      rw [Nat.min_comm]

/-- The bytes of a pass fit into both buffers, and into the limit. -/
theorem CopyWalk.Walks.within_pass {memory : Nat → Byte} {targets sources : List Buffer}
    {limit : Option Nat} {walk : CopyWalk} (walks : walk.Walks memory targets sources limit)
    {target source : Buffer} {restTargets restSources : List Buffer}
    (targetIter : walk.target.iter = target :: restTargets)
    (sourceIter : walk.source.iter = source :: restSources) :
    walk.totalBytesCopied + min (target + walk.target.bufferOffset).size
        (limited limit walk.totalBytesCopied (source + walk.source.bufferOffset)).size ≤
      copyCount targets sources limit := by
  have targetLength := congrArg List.length walks.target
  have sourceLength := congrArg List.length walks.source
  rw [CopyCursor.cells, targetIter, List.length_append, List.length_drop, Buffer.length_cells,
    length_flatten, length_flatten] at targetLength
  rw [CopyCursor.cells, sourceIter, List.length_append, List.length_drop, Buffer.length_cells,
    length_flatten, length_flatten] at sourceLength
  have within := walks.within
  have sizes := copyCount_le targets sources limit
  rw [size_limited]
  cases limit with
  | none =>
      simp only [copyCount] at within sizes ⊢
      omega
  | some maxBytesToCopy =>
      simp only [copyCount] at within sizes ⊢
      omega

theorem size_limited_le (limit : Option Nat) (total : Nat) (source : Buffer) :
    (limited limit total source).size ≤ source.size := by
  rw [size_limited]
  cases limit with
  | none => exact Nat.le_refl _
  | some _ => exact Nat.min_le_left _ _

/-- A pass copies between the parts that the cursors have before them. -/
theorem bufferCopy1_limited (memory : Nat → Byte) (target source : Buffer)
    (restTargets restSources : List Buffer) (limit : Option Nat) (total : Nat) :
    bufferCopy1 memory target (limited limit total source) =
      (min target.size (limited limit total source).size,
        Memory.copy memory (target.cells ++ flatten restTargets)
          (source.cells ++ flatten restSources)
          (min target.size (limited limit total source).size)) := by
  have room : min target.size (limited limit total source).size ≤ target.cells.length := by
    rw [Buffer.length_cells]
    exact Nat.min_le_left _ _
  have held : min target.size (limited limit total source).size ≤ source.cells.length := by
    rw [Buffer.length_cells]
    exact Nat.le_trans (Nat.min_le_right _ _) (size_limited_le _ _ _)
  rw [bufferCopy1_eq, Memory.copy_append_source memory _ _ held,
    Memory.copy_append_target memory _ _ room, cells_limited, Memory.copy, Memory.copy,
    List.take_take, Nat.min_eq_left (Nat.min_le_right _ _)]

/-- A pass advances a cursor, or reaches the limit. -/
theorem advance_or_reached {limit : Option Nat} {total : Nat} {target source : Buffer}
    (unadvanced : min target.size (limited limit total source).size ≠ target.size ∧
      min target.size (limited limit total source).size ≠ source.size)
    (before : ∀ maxBytesToCopy, limit = some maxBytesToCopy → total ≤ maxBytesToCopy) :
    limit = some (total + min target.size (limited limit total source).size) := by
  rw [size_limited] at unadvanced ⊢
  cases limit with
  | none =>
      dsimp only at unadvanced
      omega
  | some maxBytesToCopy =>
      have below := before maxBytesToCopy rfl
      dsimp only at unadvanced ⊢
      rw [Option.some.injEq]
      omega

theorem CopyWalk.remaining_lt {limit : Option Nat} {walk next : CopyWalk}
    {copied targetSize sourceSize : Nat} (unreached : limit ≠ some walk.totalBytesCopied)
    (target : next.target.iter.length + (if copied = targetSize then 1 else 0) =
      walk.target.iter.length)
    (source : next.source.iter.length + (if copied = sourceSize then 1 else 0) =
      walk.source.iter.length)
    (unadvanced : copied ≠ targetSize ∧ copied ≠ sourceSize →
      limit = some next.totalBytesCopied) :
    next.remaining limit < walk.remaining limit := by
  have last : (if limit = some next.totalBytesCopied then 0 else 1) ≤ 1 := by
    split <;> omega
  rw [remaining, remaining, if_neg unreached]
  by_cases wholeTarget : copied = targetSize
  · rw [if_pos wholeTarget] at target
    omega
  · by_cases wholeSource : copied = sourceSize
    · rw [if_pos wholeSource] at source
      omega
    · rw [if_pos (unadvanced ⟨wholeTarget, wholeSource⟩)]
      omega

theorem CopyWalk.Walks.pass {memory : Nat → Byte} {targets sources : List Buffer}
    {limit : Option Nat} (apart : ∀ cell ∈ flatten sources, cell ∉ flatten targets)
    {walk : CopyWalk} (walks : walk.Walks memory targets sources limit) :
    (copyPass limit walk = .leave (copyCount targets sources limit,
        Memory.copy memory (flatten targets) (flatten sources)
          (copyCount targets sources limit))) ∨
      ∃ next, copyPass limit walk = .again next ∧ next.Walks memory targets sources limit ∧
        next.remaining limit < walk.remaining limit := by
  have ended : copyCount targets sources limit ≤ walk.totalBytesCopied →
      (walk.totalBytesCopied, walk.memory) = (copyCount targets sources limit,
        Memory.copy memory (flatten targets) (flatten sources)
          (copyCount targets sources limit)) := by
    intro all
    rw [walks.copied, Nat.le_antisymm walks.within all]
  have sizes := copyCount_le targets sources limit
  by_cases reached : limit = some walk.totalBytesCopied
  · left
    rw [copyPass, if_pos reached, ended]
    rw [reached, copyCount]
    exact Nat.min_le_right _ _
  · rw [copyPass, if_neg reached]
    cases targetIter : walk.target.iter with
    | nil =>
        left
        have nothing := walks.target
        rw [CopyCursor.cells, targetIter] at nothing
        have all := List.drop_eq_nil_iff.mp nothing.symm
        rw [length_flatten] at all
        exact congrArg _ (ended (Nat.le_trans sizes.1 all))
    | cons target restTargets =>
        cases sourceIter : walk.source.iter with
        | nil =>
            left
            have nothing := walks.source
            rw [CopyCursor.cells, sourceIter] at nothing
            have all := List.drop_eq_nil_iff.mp nothing.symm
            rw [length_flatten] at all
            exact congrArg _ (ended (Nat.le_trans sizes.2 all))
        | cons source restSources =>
            right
            have within := walks.within_pass targetIter sourceIter
            have before : ∀ maxBytesToCopy, limit = some maxBytesToCopy →
                walk.totalBytesCopied ≤ maxBytesToCopy := by
              rintro maxBytesToCopy rfl
              exact Nat.le_trans walks.within (Nat.min_le_right _ _)
            have room : walk.totalBytesCopied ≤ (flatten targets).length := by
              rw [length_flatten]
              exact Nat.le_trans walks.within sizes.1
            have held : walk.totalBytesCopied ≤ (flatten sources).length := by
              rw [length_flatten]
              exact Nat.le_trans walks.within sizes.2
            dsimp only
            rw [bufferCopy1_limited _ _ _ restTargets restSources]
            refine ⟨_, rfl, ⟨?_, ?_, ?_, within⟩, ?_⟩
            · rw [← CopyCursor.cells_cons targetIter, ← CopyCursor.cells_cons sourceIter,
                walks.copied, walks.target, walks.source,
                Memory.copy_add memory apart _ room held]
            · rw [CopyCursor.cells_advance targetIter (Nat.min_le_left _ _), walks.target,
                List.drop_drop]
            · rw [CopyCursor.cells_advance sourceIter
                (Nat.le_trans (Nat.min_le_right _ _) (size_limited_le _ _ _)), walks.source,
                List.drop_drop]
            · exact CopyWalk.remaining_lt reached (CopyCursor.length_advance targetIter _ _)
                (CopyCursor.length_advance sourceIter _ _)
                fun unadvanced => advance_or_reached unadvanced before

theorem copyMultiple_eq (memory : Nat → Byte) (targets sources : List Buffer)
    (limit : Option Nat) (apart : ∀ cell ∈ flatten sources, cell ∉ flatten targets) :
    copyMultiple limit memory targets sources = some (copyCount targets sources limit,
      Memory.copy memory (flatten targets) (flatten sources)
        (copyCount targets sources limit)) := by
  have starts : CopyWalk.Walks memory targets sources limit
      ⟨memory, ⟨targets, 0⟩, ⟨sources, 0⟩, 0⟩ :=
    ⟨rfl, CopyCursor.cells_start targets, CopyCursor.cells_start sources, Nat.zero_le _⟩
  have enough : CopyWalk.remaining limit ⟨memory, ⟨targets, 0⟩, ⟨sources, 0⟩, 0⟩ <
      targets.length + sources.length + 2 := by
    rw [CopyWalk.remaining]
    dsimp only
    split <;> omega
  obtain ⟨result, computed, rfl⟩ := Loop.evaluate_of_variant
    (fun walk => walk.Walks memory targets sources limit) (· = _) (CopyWalk.remaining limit)
    (fun walk walks => (walks.pass apart).imp_left fun left => ⟨_, left, rfl⟩) enough starts
  exact computed

/-! ## All versions -/

theorem bufferSize_singleton (b : Buffer) : bufferSize [b] = b.size := by
  rw [bufferSize_cons, bufferSize, List.map_nil, List.sum_nil, Nat.add_zero]

theorem flatten_singleton (b : Buffer) : flatten [b] = b.cells := by
  rw [flatten_cons, flatten_nil, List.append_nil]

/-- A limit on one buffer is a limit on what is copied; the default argument is none. -/
theorem min_getD {one others : Nat} (limit : Option Nat) (fits : one ≤ sizeMax) :
    min (min one (limit.getD sizeMax)) others = match limit with
      | none => min one others
      | some maxBytesToCopy => min (min one others) maxBytesToCopy := by
  cases limit with
  | none =>
      rw [Option.getD_none]
      dsimp only
      omega
  | some maxBytesToCopy =>
      rw [Option.getD_some]
      dsimp only
      omega

theorem bufferCopyOneMultiple_eq (memory : Nat → Byte) (target : Buffer) (sources : List Buffer)
    (limit : Option Nat) (fits : target.size ≤ sizeMax)
    (apart : ∀ cell ∈ flatten sources, cell ∉ target.cells) :
    bufferCopyOneMultiple memory target sources (limit.getD sizeMax) =
      (copyCount [target] sources limit,
        Memory.copy memory target.cells (flatten sources)
          (copyCount [target] sources limit)) := by
  have count : copyCount [target] sources limit =
      min (min target.size (limit.getD sizeMax)) (bufferSize sources) := by
    unfold copyCount
    rw [min_getD limit fits, bufferSize_singleton]
  have apartPart : ∀ cell ∈ flatten sources,
      cell ∉ (buffer target (limit.getD sizeMax)).cells := by
    intro cell member inside
    rw [cells_buffer] at inside
    exact apart cell member (List.mem_of_mem_take inside)
  rw [bufferCopyOneMultiple, copyFromMultiple_eq _ _ _ _ apartPart, count, Nat.zero_add,
    size_buffer, cells_buffer, Memory.copy, Memory.copy, List.take_take,
    Nat.min_eq_left (Nat.le_trans (Nat.min_le_left _ _) (Nat.min_le_right _ _))]

theorem bufferCopyMultipleOne_eq (memory : Nat → Byte) (targets : List Buffer) (source : Buffer)
    (limit : Option Nat) (fits : source.size ≤ sizeMax)
    (apart : ∀ cell ∈ source.cells, cell ∉ flatten targets) :
    bufferCopyMultipleOne memory targets source (limit.getD sizeMax) =
      (copyCount targets [source] limit,
        Memory.copy memory (flatten targets) source.cells
          (copyCount targets [source] limit)) := by
  have count : copyCount targets [source] limit =
      min (bufferSize targets) (min source.size (limit.getD sizeMax)) := by
    unfold copyCount
    rw [Nat.min_comm (bufferSize targets) (min _ _), min_getD limit fits, bufferSize_singleton]
    cases limit with
    | none => exact Nat.min_comm _ _
    | some _ =>
        dsimp only
        rw [Nat.min_comm source.size]
  have apartPart : ∀ cell ∈ (buffer source (limit.getD sizeMax)).cells,
      cell ∉ flatten targets := by
    intro cell member
    rw [cells_buffer] at member
    exact apart cell (List.mem_of_mem_take member)
  rw [bufferCopyMultipleOne, copyToMultiple_eq _ _ _ _ apartPart, count, Nat.zero_add,
    size_buffer, cells_buffer, Memory.copy, Memory.copy, List.take_take,
    Nat.min_eq_left (Nat.le_trans (Nat.min_le_right _ _) (Nat.min_le_right _ _))]

theorem copyCount_one (target source : Buffer) (limit : Option Nat) :
    copyCount [target] [source] limit = min target.size (limited limit 0 source).size := by
  unfold copyCount
  rw [size_limited, bufferSize_singleton, bufferSize_singleton]
  cases limit with
  | none => rfl
  | some _ => exact Nat.min_assoc _ _ _

/-- Every overload copies the same, where it applies. -/
theorem CopyOverload.copy_eq (overload : CopyOverload) (memory : Nat → Byte)
    {targets sources : List Buffer} (limit : Option Nat)
    (applies : overload.applies targets sources = true)
    (fits : ∀ b ∈ targets ++ sources, b.size ≤ sizeMax)
    (apart : ∀ cell ∈ flatten sources, cell ∉ flatten targets) :
    overload.copy memory targets sources limit = some (copyCount targets sources limit,
      Memory.copy memory (flatten targets) (flatten sources)
        (copyCount targets sources limit)) := by
  cases overload with
  | oneOne =>
      rw [CopyOverload.applies, Bool.and_eq_true, decide_eq_true_eq, decide_eq_true_eq] at applies
      obtain ⟨target, rfl⟩ := List.length_eq_one_iff.mp applies.1
      obtain ⟨source, rfl⟩ := List.length_eq_one_iff.mp applies.2
      have copied := bufferCopy1_limited memory target source [] [] limit 0
      rw [← copyCount_one] at copied
      cases limit with
      | none => exact congrArg some copied
      | some _ => exact congrArg some copied
  | oneMultiple =>
      rw [CopyOverload.applies, decide_eq_true_eq] at applies
      obtain ⟨target, rfl⟩ := List.length_eq_one_iff.mp applies
      rw [flatten_singleton] at apart ⊢
      exact congrArg some (bufferCopyOneMultiple_eq memory target sources limit
        (fits target List.mem_cons_self) apart)
  | multipleOne =>
      rw [CopyOverload.applies, decide_eq_true_eq] at applies
      obtain ⟨source, rfl⟩ := List.length_eq_one_iff.mp applies
      rw [flatten_singleton] at apart ⊢
      exact congrArg some (bufferCopyMultipleOne_eq memory targets source limit
        (fits source (List.mem_append_right _ List.mem_cons_self)) apart)
  | multipleMultiple =>
      cases limit with
      | none => exact copyMultiple_eq memory targets sources none apart
      | some maxBytesToCopy =>
          exact copyMultiple_eq memory targets sources (some maxBytesToCopy) apart

theorem copyOverload_applies (target source : BufferSequence) :
    (target.copyOverload source).applies target.buffers source.buffers = true := by
  cases target <;> cases source <;> rfl

/-- **`buffer_copy` copies the common prefix**, and every overload that applies does the
same. -/
theorem buffer_copy_common_prefix (memory : Nat → Byte) (target source : BufferSequence)
    (limit : Option Nat) (fits : ∀ b ∈ target.buffers ++ source.buffers, b.size ≤ sizeMax)
    (distinct : (flatten target.buffers).Nodup)
    (apart : ∀ cell ∈ flatten source.buffers, cell ∉ flatten target.buffers) :
    ∃ result, bufferCopy memory target source limit = some result ∧
      Copied memory (flatten target.buffers) (flatten source.buffers)
        (copyCount target.buffers source.buffers limit) result ∧
      ∀ overload : CopyOverload, overload.applies target.buffers source.buffers = true →
        overload.copy memory target.buffers source.buffers limit = some result := by
  have sizes := copyCount_le target.buffers source.buffers limit
  refine ⟨_, CopyOverload.copy_eq _ memory limit (copyOverload_applies target source) fits apart,
    copied_copy memory distinct ?_ ?_,
    fun overload applies => overload.copy_eq memory limit applies fits apart⟩
  · rw [length_flatten]
    exact sizes.1
  · rw [length_flatten]
    exact sizes.2

theorem buffer_copy_common_prefix_range :
    ∃ result, bufferCopy (fun cell => UInt8.ofNat cell) (.range [⟨100, 2⟩, ⟨0, 0⟩, ⟨110, 3⟩])
        (.range [⟨7, 0⟩, ⟨20, 3⟩, ⟨30, 4⟩]) (some 4) = some result ∧
      Copied (fun cell => UInt8.ofNat cell) [100, 101, 110, 111, 112]
        [20, 21, 22, 30, 31, 32, 33] 4 result ∧
      ∀ overload : CopyOverload,
        overload.applies [⟨100, 2⟩, ⟨0, 0⟩, ⟨110, 3⟩] [⟨7, 0⟩, ⟨20, 3⟩, ⟨30, 4⟩] = true →
          overload.copy (fun cell => UInt8.ofNat cell) [⟨100, 2⟩, ⟨0, 0⟩, ⟨110, 3⟩]
            [⟨7, 0⟩, ⟨20, 3⟩, ⟨30, 4⟩] (some 4) = some result :=
  buffer_copy_common_prefix (fun cell => UInt8.ofNat cell)
    (.range [⟨100, 2⟩, ⟨0, 0⟩, ⟨110, 3⟩]) (.range [⟨7, 0⟩, ⟨20, 3⟩, ⟨30, 4⟩]) (some 4)
    (by decide) (by decide) (by decide)

end Asio.Transmit
