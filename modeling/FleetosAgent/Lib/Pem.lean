import FleetosAgent.Lib.Base64

/-! # Textual encoding

Blocks of bytes as text (PEM): a line that begins the block and names its label, lines of base64, a line that ends it. The
reader skips what stands between blocks. -/

namespace Lib.Pem

/-- Pieces of `width` elements; the last one may be shorter. -/
def chunks {α : Type} (width : Nat) (l : List α) : List (List α) :=
  if l = [] ∨ width = 0 then [] else l.take width :: chunks width (l.drop width)
termination_by l.length
decreasing_by
  next h =>
    rw [not_or] at h
    have long : 0 < l.length := List.length_pos_iff.mpr h.1
    rw [List.length_drop]
    omega

structure Block where
  label : List Char
  bytes : List UInt8
  deriving DecidableEq

def dashes : List Char := "-----".toList
def beginMark : List Char := "-----BEGIN ".toList
def endMark : List Char := "-----END ".toList

def beginLine (label : List Char) : List Char := beginMark ++ label ++ dashes
def endLine (label : List Char) : List Char := endMark ++ label ++ dashes

theorem length_beginLine (label : List Char) : (beginLine label).length = label.length + 16 := by
  have mark : beginMark.length = 11 := by decide
  have dashes : dashes.length = 5 := by decide
  rw [beginLine, List.length_append, List.length_append, mark, dashes]
  omega

theorem length_endLine (label : List Char) : (endLine label).length = label.length + 14 := by
  have mark : endMark.length = 9 := by decide
  have dashes : dashes.length = 5 := by decide
  rw [endLine, List.length_append, List.length_append, mark, dashes]
  omega

/-! ### Writing -/

def unlines (lines : List (List Char)) : List Char := lines.flatMap (· ++ ['\n'])

def Block.lines (engine : Base64.Engine) (width : Nat) (block : Block) : List (List Char) :=
  beginLine block.label :: chunks width (engine.encode block.bytes) ++ [endLine block.label]

def write (engine : Base64.Engine) (width : Nat) (blocks : List Block) : List Char :=
  unlines (blocks.flatMap (·.lines engine width))

/-! ### Reading -/

/-- The label of a line that begins a block. -/
def label? (line : List Char) : Option (List Char) :=
  let rest := line.drop beginMark.length
  if beginMark <+: line ∧ dashes <:+ rest then some (rest.take (rest.length - dashes.length)) else none

/-- `inside`: the label of the block that has begun, and its body so far. -/
def readLines (engine : Base64.Engine) : (inside : Option (List Char × List Char)) → List (List Char) → Option (List Block)
  | none, [] => some []
  | some _, [] => none
  | none, line :: lines =>
    match label? line with
    | some label => readLines engine (some (label, [])) lines
    | none => readLines engine none lines
  | some (label, body), line :: lines =>
    if line = endLine label then
      match engine.decode? body with
      | some bytes => (readLines engine none lines).map (⟨label, bytes⟩ :: ·)
      | none => none
    else readLines engine (some (label, body ++ line)) lines

def read? (engine : Base64.Engine) (text : List Char) : Option (List Block) := readLines engine none (text.splitOn '\n')

/-! ### What was written is read -/

section
variable {α : Type} {width : Nat} {l chunk : List α}

theorem flatten_chunks (h : 0 < width) (l : List α) : (chunks width l).flatten = l := by
  fun_induction chunks width l with
  | case1 l hl =>
    obtain rfl | hw := hl
    · rfl
    · omega
  | case2 l hl ih => rw [List.flatten_cons, ih, List.take_append_drop]

theorem length_le_of_mem_chunks (h : chunk ∈ chunks width l) : chunk.length ≤ width := by
  fun_induction chunks width l with
  | case1 l hl => cases h
  | case2 l hl ih =>
    rcases List.mem_cons.mp h with rfl | h
    · exact List.length_take_le _ _
    · exact ih h

theorem mem_of_mem_chunks {x : α} (hx : x ∈ chunk) (h : chunk ∈ chunks width l) : x ∈ l := by
  fun_induction chunks width l with
  | case1 l hl => cases h
  | case2 l hl ih =>
    rcases List.mem_cons.mp h with rfl | h
    · exact List.mem_of_mem_take hx
    · exact List.mem_of_mem_drop (ih h)

end

theorem splitOn_unlines {lines : List (List Char)} (h : ∀ line ∈ lines, '\n' ∉ line) :
    (unlines lines).splitOn '\n' = lines ++ [[]] := by
  induction lines with
  | nil => rfl
  | cons line lines ih =>
    obtain ⟨hline, hlines⟩ := List.forall_mem_cons.mp h
    show (line ++ ['\n'] ++ unlines lines).splitOn '\n' = _
    rw [List.append_assoc]
    exact (List.splitOn_append_cons_self_of_not_mem hline _).trans (congrArg (line :: ·) (ih hlines))

theorem label?_beginLine (label : List Char) : label? (beginLine label) = some label := by
  have rest : (beginLine label).drop beginMark.length = label ++ dashes := by
    rw [beginLine, List.append_assoc, List.drop_left]
  have front : beginMark <+: beginLine label := by
    rw [beginLine, List.append_assoc]
    exact List.prefix_append _ _
  rw [label?, rest, if_pos ⟨front, List.suffix_append _ _⟩, List.length_append, Nat.add_sub_cancel, List.take_left]

section Block
variable {engine : Base64.Engine} {width : Nat} {label body : List Char} {bytes : List UInt8}
  {pieces lines : List (List Char)} {blocks : List Block}

theorem ne_endLine {line : List Char} (h : '-' ∉ line) : line ≠ endLine label := by
  rintro rfl
  refine h (List.mem_append_right _ ?_)
  decide

/-- The lines of a body are collected up to the line that ends it. -/
theorem readLines_body (h : ∀ piece ∈ pieces, '-' ∉ piece) (hbody : engine.decode? (body ++ pieces.flatten) = some bytes) :
    readLines engine (some (label, body)) (pieces ++ endLine label :: lines) =
      (readLines engine none lines).map (⟨label, bytes⟩ :: ·) := by
  induction pieces generalizing body with
  | nil =>
    rw [List.flatten_nil, List.append_nil] at hbody
    rw [List.nil_append, readLines, if_pos rfl, hbody]
  | cons piece pieces ih =>
    obtain ⟨hpiece, hpieces⟩ := List.forall_mem_cons.mp h
    rw [List.flatten_cons, ← List.append_assoc] at hbody
    rw [List.cons_append, readLines, if_neg (ne_endLine hpiece), ih hpieces hbody]

theorem readLines_block (h : 0 < width) (block : Block) :
    readLines engine none (block.lines engine width ++ lines) = (readLines engine none lines).map (block :: ·) := by
  have body : engine.decode? ([] ++ (chunks width (engine.encode block.bytes)).flatten) = some block.bytes := by
    rw [flatten_chunks h]
    exact engine.decode?_encode _
  have plain : ∀ piece ∈ chunks width (engine.encode block.bytes), '-' ∉ piece := fun piece hpiece hdash =>
    (engine.ne_of_mem_encode (mem_of_mem_chunks hdash hpiece)).1 rfl
  rw [Block.lines, List.cons_append, List.cons_append, readLines, label?_beginLine, List.append_assoc]
  exact readLines_body plain body

theorem readLines_blocks (h : 0 < width) (blocks : List Block) :
    readLines engine none (blocks.flatMap (·.lines engine width) ++ [[]]) = some blocks := by
  induction blocks with
  | nil => rfl
  | cons block blocks ih =>
    rw [List.flatMap_cons, List.append_assoc, readLines_block h, ih]
    rfl

theorem newline_notMem_lines {block : Block} (h : '\n' ∉ block.label) : ∀ line ∈ block.lines engine width, '\n' ∉ line := by
  have marks : '\n' ∉ beginMark ∧ '\n' ∉ endMark ∧ '\n' ∉ dashes := by decide
  intro line hline
  simp only [Block.lines, List.cons_append, List.mem_cons, List.mem_append, List.not_mem_nil, or_false] at hline
  rcases hline with rfl | hline | rfl
  · simp [beginLine, h, marks]
  · exact fun hnewline => (engine.ne_of_mem_encode (mem_of_mem_chunks hnewline hline)).2 rfl
  · simp [endLine, h, marks]

theorem splitOn_write (hlabels : ∀ block ∈ blocks, '\n' ∉ block.label) :
    (write engine width blocks).splitOn '\n' = blocks.flatMap (·.lines engine width) ++ [[]] := by
  refine splitOn_unlines fun line hline => ?_
  obtain ⟨block, hblock, hline⟩ := List.mem_flatMap.mp hline
  exact newline_notMem_lines (hlabels block hblock) line hline

/-- Whatever the width of the lines, the reader finds the blocks that were written. -/
theorem read?_write (h : 0 < width) (hlabels : ∀ block ∈ blocks, '\n' ∉ block.label) :
    read? engine (write engine width blocks) = some blocks := by
  rw [read?, splitOn_write hlabels, readLines_blocks h]

/-- Where the boundary lines are not longer than the others may be, no line is. -/
theorem length_le_of_mem_write (hlabels : ∀ block ∈ blocks, '\n' ∉ block.label)
    (hshort : ∀ block ∈ blocks, block.label.length + 16 ≤ width) {line : List Char}
    (h : line ∈ (write engine width blocks).splitOn '\n') : line.length ≤ width := by
  rw [splitOn_write hlabels, List.mem_append, List.mem_flatMap, List.mem_singleton] at h
  rcases h with ⟨block, hblock, h⟩ | rfl
  · have short := hshort block hblock
    simp only [Block.lines, List.cons_append, List.mem_cons, List.mem_append, List.not_mem_nil, or_false] at h
    rcases h with rfl | h | rfl
    · rw [length_beginLine]
      exact short
    · exact length_le_of_mem_chunks h
    · rw [length_endLine]
      omega
  · exact Nat.zero_le _

end Block

end Lib.Pem
