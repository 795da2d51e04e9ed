import Mathlib.Data.List.Basic
import Mathlib.Data.List.Induction

/-!
# Managed blocks in a text

Patches that put a marked block of lines before, behind or instead of the lines that they know, and
that find the block again by its marks. A text that was patched is the lines it had and the blocks
put among them. Patches that leave each other's blocks and marks alone can be taken out in any
order: the text is always what putting in those that are left, in their order, makes of the text at
the start.
-/

namespace FlockOs.Lib

variable {Line Tool : Type*}

/-- Where a patch puts its block. -/
inductive Placement (Line : Type*) where
  | before
  | after
  /-- Instead of this one line. -/
  | instead (pristine : Line)

/-- A patch: the lines at which it puts its block, the block, and the marks by which it finds it. -/
structure ManagedPatch (Line : Type*) where
  anchors : Line → Bool
  block : List Line
  placement : Placement Line
  opens : Line → Bool
  closes : Line → Bool

/-- The text without the lines between the marks, with `restored` for each opening mark. -/
def cutBlocks (opens closes : Line → Bool) (restored : List Line) : Bool → List Line → List Line
  | _, [] => []
  | skip, line :: rest =>
    if opens line then restored ++ cutBlocks opens closes restored true rest
    else if closes line then cutBlocks opens closes restored false rest
    else if skip then cutBlocks opens closes restored true rest
    else line :: cutBlocks opens closes restored false rest

/-- A line of the text at the start, or the block of a patch. -/
inductive Piece (Line Tool : Type*) where
  | line (line : Line)
  | block (tool : Tool)

namespace ManagedPatch

variable (patch : ManagedPatch Line)

/-- The lines that are put back for the block. -/
def restored : List Line :=
  match patch.placement with
  | .before => []
  | .after => []
  | .instead pristine => [pristine]

/-- A line with the block. -/
def placed (line : Line) : List Line :=
  match patch.placement with
  | .before => patch.block ++ [line]
  | .after => line :: patch.block
  | .instead _ => patch.block

/-- The patch put in. -/
def wire (lines : List Line) : List Line :=
  lines.flatMap fun line => if patch.anchors line then patch.placed line else [line]

/-- The patch taken out. -/
def unwire (lines : List Line) : List Line :=
  cutBlocks patch.opens patch.closes patch.restored false lines

/-- The patch puts its block instead of a line. -/
def Replaces (line : Line) : Prop :=
  patch.anchors line = true ∧ ∃ pristine, patch.placement = .instead pristine

/-- A line that is no mark of the patch. -/
def Clean (line : Line) : Prop := patch.opens line = false ∧ patch.closes line = false

/-- A block between its marks. -/
structure Bounded : Prop where
  marked : ∃ first body last, patch.block = first :: (body ++ [last]) ∧ patch.opens first = true ∧
    (∀ line ∈ body, patch.Clean line) ∧ patch.opens last = false ∧ patch.closes last = true

variable {patch}

/-- Lines without marks stay. -/
theorem cut_clean {clean : List Line} (all : ∀ line ∈ clean, patch.Clean line)
    (rest : List Line) :
    cutBlocks patch.opens patch.closes patch.restored false (clean ++ rest) =
      clean ++ cutBlocks patch.opens patch.closes patch.restored false rest := by
  induction clean with
  | nil => rfl
  | cons line clean ih =>
    have here := all line List.mem_cons_self
    have later := ih fun other there => all other (List.mem_cons_of_mem _ there)
    simp [cutBlocks, here.1, here.2, later]

/-- Lines without marks are dropped inside a block. -/
theorem cut_body {body : List Line} (all : ∀ line ∈ body, patch.Clean line) (rest : List Line) :
    cutBlocks patch.opens patch.closes patch.restored true (body ++ rest) =
      cutBlocks patch.opens patch.closes patch.restored true rest := by
  induction body with
  | nil => rfl
  | cons line body ih =>
    have here := all line List.mem_cons_self
    have later := ih fun other there => all other (List.mem_cons_of_mem _ there)
    simp [cutBlocks, here.1, here.2, later]

/-- A block is replaced by what is restored for it. -/
theorem cut_block (bounded : patch.Bounded) (rest : List Line) :
    cutBlocks patch.opens patch.closes patch.restored false (patch.block ++ rest) =
      patch.restored ++ cutBlocks patch.opens patch.closes patch.restored false rest := by
  obtain ⟨first, body, last, block, opens, inside, closed, closes⟩ := bounded.marked
  have tail := cut_body inside (last :: rest)
  simp [block, cutBlocks, opens, tail, closed, closes]

end ManagedPatch

section Pieces

variable (patch : Tool → ManagedPatch Line)

/-- A line with the block of a patch, as pieces. -/
def piecesAround (tool : Tool) (line : Line) : List (Piece Line Tool) :=
  if (patch tool).anchors line then
    match (patch tool).placement with
    | .before => [.block tool, .line line]
    | .after => [.line line, .block tool]
    | .instead _ => [.block tool]
  else [.line line]

/-- What a patch put in makes of a piece. -/
def putAt (tool : Tool) : Piece Line Tool → List (Piece Line Tool)
  | .line line => piecesAround patch tool line
  | .block other => [.block other]

/-- What a patch taken out makes of a piece. -/
def takeAt [DecidableEq Tool] (tool : Tool) : Piece Line Tool → List (Piece Line Tool)
  | .line line => [.line line]
  | .block other => if other = tool then (patch tool).restored.map .line else [.block other]

/-- The lines of a piece. -/
def pieceLines : Piece Line Tool → List Line
  | .line line => [line]
  | .block tool => (patch tool).block

/-- The patch put in. -/
def put (tool : Tool) (pieces : List (Piece Line Tool)) : List (Piece Line Tool) :=
  pieces.flatMap (putAt patch tool)

/-- The patch taken out. -/
def take [DecidableEq Tool] (tool : Tool) (pieces : List (Piece Line Tool)) :
    List (Piece Line Tool) := pieces.flatMap (takeAt patch tool)

/-- The text of some pieces. -/
def textOf (pieces : List (Piece Line Tool)) : List Line := pieces.flatMap (pieceLines patch)

/-- The text at the start with some patches put in one after the other. -/
def stacked (base : List Line) (tools : List Tool) : List (Piece Line Tool) :=
  tools.foldl (fun pieces tool => put patch tool pieces) (base.map .line)

/-- Patches that leave each other and a text alone. -/
structure Apart (base : List Line) : Prop where
  bounded : ∀ tool, (patch tool).Bounded
  /-- No block has a mark of another. -/
  marks : ∀ tool other, other ≠ tool → ∀ line ∈ (patch other).block, (patch tool).Clean line
  /-- No block has a line at which another is put. -/
  anchors : ∀ tool other, ∀ line ∈ (patch other).block, (patch tool).anchors line = false
  /-- The text has no marks. -/
  clean : ∀ tool, ∀ line ∈ base, (patch tool).Clean line
  /-- Only its pristine line is replaced by a patch. -/
  pristine : ∀ tool pristine, (patch tool).placement = .instead pristine →
    ∀ line ∈ base, (patch tool).anchors line = true → line = pristine
  /-- No patch is put at the pristine line of another. -/
  apart : ∀ tool other pristine, other ≠ tool → (patch other).placement = .instead pristine →
    (patch tool).anchors pristine = false

/-- Pieces whose lines are those of a text. -/
def Over (base : List Line) (pieces : List (Piece Line Tool)) : Prop :=
  ∀ line, .line line ∈ pieces → line ∈ base

variable {patch} {base : List Line} {pieces : List (Piece Line Tool)} {tool other : Tool}

theorem textOf_cons (piece : Piece Line Tool) (rest : List (Piece Line Tool)) :
    textOf patch (piece :: rest) = pieceLines patch piece ++ textOf patch rest := rfl

theorem textOf_append (first second : List (Piece Line Tool)) :
    textOf patch (first ++ second) = textOf patch first ++ textOf patch second :=
  List.flatMap_append

/-- The lines of the pieces of a line with a block. -/
theorem textOf_piecesAround (tool : Tool) (line : Line) :
    textOf patch (piecesAround patch tool line) =
      if (patch tool).anchors line then (patch tool).placed line else [line] := by
  rw [piecesAround, ManagedPatch.placed]
  by_cases anchors : (patch tool).anchors line = true
  · rw [if_pos anchors, if_pos anchors]
    cases (patch tool).placement <;> simp [textOf, pieceLines]
  · rw [if_neg anchors, if_neg anchors]
    rfl

/-- Lines at which a patch is not put stay as they are. -/
theorem ManagedPatch.wire_idle (patch : ManagedPatch Line) {lines : List Line}
    (idle : ∀ line ∈ lines, patch.anchors line = false) : patch.wire lines = lines := by
  induction lines with
  | nil => rfl
  | cons line lines ih =>
    have here := idle line List.mem_cons_self
    have later := ih fun other there => idle other (List.mem_cons_of_mem _ there)
    rw [ManagedPatch.wire] at later ⊢
    rw [List.flatMap_cons, later]
    simp [here]

/-- A patch is put into a text as it is put among the pieces. -/
theorem wire_textOf (apart : Apart patch base) (tool : Tool) (pieces : List (Piece Line Tool)) :
    (patch tool).wire (textOf patch pieces) = textOf patch (put patch tool pieces) := by
  rw [ManagedPatch.wire, textOf, put, textOf, List.flatMap_assoc, List.flatMap_assoc]
  apply List.flatMap_congr
  intro piece _
  cases piece with
  | line line =>
    have around : (piecesAround patch tool line).flatMap (pieceLines patch) =
        if (patch tool).anchors line then (patch tool).placed line else [line] :=
      textOf_piecesAround tool line
    rw [pieceLines, List.flatMap_singleton, putAt, around]
  | block other =>
    have idle := (patch tool).wire_idle (apart.anchors tool other)
    rw [ManagedPatch.wire] at idle
    rw [pieceLines, idle, putAt, List.flatMap_singleton]
    rfl

/-- A line of the pieces of a line is that line. -/
theorem eq_of_mem_piecesAround {line found : Line}
    (there : .line found ∈ piecesAround patch tool line) : found = line := by
  rw [piecesAround] at there
  split at there
  · cases placed : (patch tool).placement <;> simp_all
  · simpa using there

/-- A block of the pieces of a line is that of the patch, at a line where it is put. -/
theorem block_mem_piecesAround {line : Line} :
    .block other ∈ piecesAround patch tool line ↔
      other = tool ∧ (patch tool).anchors line = true := by
  rw [piecesAround]
  by_cases anchors : (patch tool).anchors line = true
  · rw [if_pos anchors]
    cases (patch tool).placement <;> simp [anchors]
  · rw [if_neg anchors]
    simp [anchors]

/-- Putting a patch in brings no line. -/
theorem Over.put (within : Over base pieces) (tool : Tool) :
    Over base (put patch tool pieces) := by
  intro line there
  obtain ⟨piece, stood, made⟩ := List.mem_flatMap.mp there
  cases piece with
  | line found =>
    have same : line = found := eq_of_mem_piecesAround made
    exact same ▸ within found stood
  | block other => simp [putAt] at made

/-- The lines that stay when a patch is put in. -/
theorem line_mem_put {line : Line} :
    .line line ∈ put patch tool pieces ↔ .line line ∈ pieces ∧ ¬ (patch tool).Replaces line := by
  have stays : .line line ∈ piecesAround patch tool line ↔ ¬ (patch tool).Replaces line := by
    rw [piecesAround, ManagedPatch.Replaces]
    by_cases anchors : (patch tool).anchors line = true
    · rw [if_pos anchors]
      cases (patch tool).placement <;> simp [anchors]
    · rw [if_neg anchors]
      simp [anchors]
  rw [put, List.mem_flatMap]
  constructor
  · rintro ⟨piece, stood, made⟩
    cases piece with
    | line found =>
      have same : line = found := eq_of_mem_piecesAround made
      rw [← same] at stood made
      exact ⟨stood, stays.mp made⟩
    | block other => simp [putAt] at made
  · intro both
    exact ⟨.line line, both.1, stays.mpr both.2⟩

/-- The blocks among the pieces after a patch is put in. -/
theorem block_mem_put :
    .block other ∈ put patch tool pieces ↔ .block other ∈ pieces ∨
      other = tool ∧ ∃ line, .line line ∈ pieces ∧ (patch tool).anchors line = true := by
  rw [put, List.mem_flatMap]
  constructor
  · rintro ⟨piece, stood, made⟩
    cases piece with
    | line line =>
      have found := block_mem_piecesAround.mp made
      exact .inr ⟨found.1, line, stood, found.2⟩
    | block found =>
      have same : other = found := by simpa [putAt] using made
      exact .inl (same ▸ stood)
  · rintro (stood | ⟨same, line, stood, anchors⟩)
    · exact ⟨.block other, stood, by simp [putAt]⟩
    · exact ⟨.line line, stood, block_mem_piecesAround.mpr ⟨same, anchors⟩⟩

/-- The mark of a patch is in a text exactly when its block is. -/
theorem opened_iff (apart : Apart patch base) (within : Over base pieces) (tool : Tool) :
    (∃ line ∈ textOf patch pieces, (patch tool).opens line = true) ↔ .block tool ∈ pieces := by
  constructor
  · rintro ⟨line, there, opens⟩
    obtain ⟨piece, stood, inside⟩ := List.mem_flatMap.mp there
    cases piece with
    | line found =>
      have same : line = found := by simpa [pieceLines] using inside
      have clean := apart.clean tool found (within found stood)
      rw [same, clean.1] at opens
      cases opens
    | block other =>
      by_cases same : other = tool
      · exact same ▸ stood
      · have clean := apart.marks tool other same line inside
        rw [clean.1] at opens
        cases opens
  · intro stood
    obtain ⟨first, body, last, block, opens, _⟩ := (apart.bounded tool).marked
    have inside : first ∈ (patch tool).block := by simp [block]
    exact ⟨first, List.mem_flatMap.mpr ⟨.block tool, stood, inside⟩, opens⟩

/-- A patch finds a line of the text where it is put exactly when such a line is a piece. -/
theorem anchored_iff (apart : Apart patch base) (tool : Tool) (pieces : List (Piece Line Tool)) :
    (∃ line ∈ textOf patch pieces, (patch tool).anchors line = true) ↔
      ∃ line, .line line ∈ pieces ∧ (patch tool).anchors line = true := by
  constructor
  · rintro ⟨line, there, anchors⟩
    obtain ⟨piece, stood, inside⟩ := List.mem_flatMap.mp there
    cases piece with
    | line found =>
      have same : line = found := by simpa [pieceLines] using inside
      exact ⟨line, same ▸ stood, anchors⟩
    | block other =>
      rw [apart.anchors tool other line inside] at anchors
      cases anchors
  · rintro ⟨line, stood, anchors⟩
    exact ⟨line, List.mem_flatMap.mpr ⟨.line line, stood, by simp [pieceLines]⟩, anchors⟩

variable {tools : List Tool}

theorem stacked_concat (tools : List Tool) (tool : Tool) :
    stacked patch base (tools ++ [tool]) = put patch tool (stacked patch base tools) := by
  simp [stacked]

/-- The lines among the pieces are those of the text. -/
theorem over_stacked (tools : List Tool) : Over base (stacked patch base tools) := by
  induction tools using List.reverseRecOn with
  | nil =>
    intro line there
    simpa [stacked] using there
  | append_singleton tools tool ih =>
    rw [stacked_concat]
    exact ih.put tool

/-- The lines where a patch is put stay until it is put in. -/
theorem anchor_stacked (apart : Apart patch base) (tool : Tool) {line : Line}
    (there : line ∈ base) (anchors : (patch tool).anchors line = true) (absent : tool ∉ tools) :
    .line line ∈ stacked patch base tools := by
  induction tools using List.reverseRecOn with
  | nil => simpa [stacked] using there
  | append_singleton tools other ih =>
    rw [List.mem_append, List.mem_singleton, not_or] at absent
    rw [stacked_concat, line_mem_put]
    refine ⟨ih absent.1, ?_⟩
    rintro ⟨others, pristine, placed⟩
    have same := apart.pristine other pristine placed line there others
    have away := apart.apart tool other pristine (Ne.symm absent.2) placed
    rw [same, away] at anchors
    cases anchors

/-- The block of a patch is among the pieces exactly when it was put in and had a line to be put
at. -/
theorem block_mem_stacked (apart : Apart patch base) (once : tools.Nodup) (tool : Tool) :
    .block tool ∈ stacked patch base tools ↔
      tool ∈ tools ∧ ∃ line ∈ base, (patch tool).anchors line = true := by
  induction tools using List.reverseRecOn with
  | nil => simp [stacked]
  | append_singleton tools other ih =>
    obtain ⟨before, _, separate⟩ := List.nodup_append.mp once
    have absent : other ∉ tools := fun there =>
      separate other there other (List.mem_singleton.mpr rfl) rfl
    rw [stacked_concat, block_mem_put, ih before, List.mem_append, List.mem_singleton]
    constructor
    · rintro (⟨earlier, found⟩ | ⟨same, line, stood, anchors⟩)
      · exact ⟨.inl earlier, found⟩
      · exact ⟨.inr same, line, over_stacked tools line stood, same ▸ anchors⟩
    · rintro ⟨earlier | same, line, there, anchors⟩
      · exact .inl ⟨earlier, line, there, anchors⟩
      · rw [same] at anchors
        exact .inr ⟨same, line, anchor_stacked apart other there anchors absent, anchors⟩

variable [DecidableEq Tool]

/-- A patch is taken out of a text as it is taken from among the pieces. -/
theorem unwire_textOf (apart : Apart patch base) (within : Over base pieces) :
    (patch tool).unwire (textOf patch pieces) = textOf patch (take patch tool pieces) := by
  rw [ManagedPatch.unwire]
  induction pieces with
  | nil => rfl
  | cons piece pieces ih =>
    have later := ih fun line there => within line (List.mem_cons_of_mem _ there)
    rw [textOf_cons, take, List.flatMap_cons, textOf_append]
    cases piece with
    | line line =>
      have clean := apart.clean tool line (within line List.mem_cons_self)
      have single : ∀ other ∈ [line], (patch tool).Clean other := by simpa using clean
      rw [pieceLines, ManagedPatch.cut_clean single, later]
      rfl
    | block other =>
      by_cases same : other = tool
      · rw [same, pieceLines, ManagedPatch.cut_block (apart.bounded tool), later, takeAt,
          if_pos rfl]
        simp [textOf, take, pieceLines, List.flatMap_map]
      · rw [pieceLines, ManagedPatch.cut_clean (apart.marks tool other same), later, takeAt,
          if_neg same]
        simp [textOf, take, pieceLines]

/-- Other pieces stay when a patch is taken out. -/
theorem take_other {others : List (Piece Line Tool)} (absent : .block tool ∉ others) :
    take patch tool others = others := by
  induction others with
  | nil => rfl
  | cons piece others ih =>
    have later := ih fun there => absent (List.mem_cons_of_mem _ there)
    have here : takeAt patch tool piece = [piece] := by
      cases piece with
      | line line => rfl
      | block other =>
        have differ : other ≠ tool := fun same => absent (same ▸ List.mem_cons_self)
        rw [takeAt, if_neg differ]
    rw [take] at later ⊢
    rw [List.flatMap_cons, here, later]
    rfl

/-- A patch that was just put in is taken out without a trace. -/
theorem take_put_self (apart : Apart patch base) (within : Over base pieces)
    (absent : .block tool ∉ pieces) : take patch tool (put patch tool pieces) = pieces := by
  rw [take, put, List.flatMap_assoc]
  have each : ∀ piece ∈ pieces, (putAt patch tool piece).flatMap (takeAt patch tool) = [piece] := by
    intro piece there
    cases piece with
    | block other =>
      have differ : other ≠ tool := fun same => absent (same ▸ there)
      simp [putAt, takeAt, differ]
    | line line =>
      rw [putAt, piecesAround]
      by_cases anchors : (patch tool).anchors line = true
      · rw [if_pos anchors]
        cases placed : (patch tool).placement with
        | before => simp [takeAt, ManagedPatch.restored, placed]
        | after => simp [takeAt, ManagedPatch.restored, placed]
        | instead pristine =>
          have same := apart.pristine tool pristine placed line (within line there) anchors
          simp [takeAt, ManagedPatch.restored, placed, same]
      · rw [if_neg anchors]
        rfl
  rw [List.flatMap_congr each]
  exact List.flatMap_singleton' pieces

/-- A patch is taken out before or after another is put in. -/
theorem take_put_comm (apart : Apart patch base) (differ : tool ≠ other)
    (pieces : List (Piece Line Tool)) :
    take patch tool (put patch other pieces) = put patch other (take patch tool pieces) := by
  rw [take, put, put, take, List.flatMap_assoc, List.flatMap_assoc]
  apply List.flatMap_congr
  intro piece _
  cases piece with
  | line line =>
    have kept : take patch tool (piecesAround patch other line) = piecesAround patch other line := by
      apply take_other
      intro there
      exact differ (block_mem_piecesAround.mp there).1
    rw [take] at kept
    rw [putAt, kept]
    simp [takeAt, putAt]
  | block found =>
    by_cases same : found = tool
    · have idle : ∀ line ∈ (patch tool).restored,
          piecesAround patch other line = [.line line] := by
        intro line there
        rw [ManagedPatch.restored] at there
        cases placed : (patch tool).placement with
        | before => simp [placed] at there
        | after => simp [placed] at there
        | instead pristine =>
          have only : line = pristine := by simpa [placed] using there
          have away := apart.apart other tool pristine differ placed
          rw [piecesAround, only, away]
          rfl
      simp only [putAt, List.flatMap_singleton, takeAt, same, if_true, List.flatMap_map]
      rw [List.flatMap_congr idle]
      exact List.map_eq_flatMap
    · simp [putAt, takeAt, same]

/-- Taking out a patch gives what the others make, in whatever order they were put in. -/
theorem take_stacked (apart : Apart patch base) (once : tools.Nodup) (there : tool ∈ tools) :
    take patch tool (stacked patch base tools) = stacked patch base (tools.erase tool) := by
  induction tools using List.reverseRecOn with
  | nil => cases there
  | append_singleton tools other ih =>
    obtain ⟨before, _, separate⟩ := List.nodup_append.mp once
    have absent : other ∉ tools := fun there =>
      separate other there other (List.mem_singleton.mpr rfl) rfl
    rw [stacked_concat]
    by_cases same : tool = other
    · have gone : .block other ∉ stacked patch base tools := by
        intro stood
        exact absent ((block_mem_stacked apart before other).mp stood).1
      rw [same, take_put_self apart (over_stacked tools) gone, List.erase_append_right _ absent]
      simp
    · have earlier : tool ∈ tools := by
        cases List.mem_append.mp there with
        | inl earlier => exact earlier
        | inr last => exact absurd (List.mem_singleton.mp last) same
      rw [take_put_comm apart same, ih before earlier, List.erase_append_left _ earlier,
        stacked_concat]

end Pieces

end FlockOs.Lib
