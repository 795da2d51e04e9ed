import FlockOs.Lib.ManagedBlocks
import FlockOs.Lib.Runs
import FlockOs.RealtimeSetup

/-!
# The wirings compose

The blocks of the four wirings neither have each other's marks nor the lines at which another is put:
so after any calls of the scripts the file is what the wirings that are in make of Frappe's file, in
the order in which they were put in, a check tells whether its wiring is in, and taking all of them
out gives Frappe's file back. The hooks leave no wiring out silently.
-/

namespace FlockOs.RealtimeSetup

open Lib

/-- The block of a wiring. -/
def Wiring.block : Wiring → List String
  | .handler => handlerBlock
  | .authCache => authCacheBlock
  | .redisAdapter => redisAdapterBlock
  | .metrics => metricsBlock

/-- The lines at which the block of a wiring is put. -/
def Wiring.anchors : Wiring → String → Bool
  | .handler => contains handlerAnchor
  | .authCache => contains pristineLine
  | .redisAdapter => contains connectionAnchor
  | .metrics => fun line => line = connectionAnchor

/-- Where the block of a wiring is put. -/
def Wiring.placement : Wiring → Placement String
  | .handler => .after
  | .authCache => .instead pristineLine
  | .redisAdapter => .before
  | .metrics => .before

/-- A wiring as a patch. -/
def Wiring.patch (wiring : Wiring) : ManagedPatch String where
  anchors := wiring.anchors
  block := wiring.block
  placement := wiring.placement
  opens := contains wiring.script.markStart
  closes := contains wiring.script.markEnd

/-- A script prints what the patch makes of a line. -/
theorem print_eq (wiring : Wiring) (line : String) : wiring.script.print line =
    if wiring.patch.anchors line then wiring.patch.placed line else [line] := by
  cases wiring with
  | metrics =>
    by_cases same : line = connectionAnchor
    · simp [Wiring.script, wireMetrics, Wiring.patch, Wiring.anchors, ManagedPatch.placed,
        Wiring.placement, Wiring.block, same]
    · simp [Wiring.script, wireMetrics, Wiring.patch, Wiring.anchors, same]
  | _ => rfl

/-- A script puts its block in as the patch does. -/
theorem flatMap_print (wiring : Wiring) (lines : List String) :
    lines.flatMap wiring.script.print = wiring.patch.wire lines := by
  rw [ManagedPatch.wire, funext (print_eq wiring)]

/-- What a script restores is what the patch does. -/
theorem restore_eq (wiring : Wiring) : wiring.script.restore = wiring.patch.restored := by
  cases wiring <;> rfl

/-- A script takes its block out as the patch does. -/
theorem printOutside_eq (wiring : Wiring) (skip : Bool) (lines : List String) :
    printOutside wiring.script.markStart wiring.script.markEnd wiring.script.restore skip lines =
      cutBlocks wiring.patch.opens wiring.patch.closes wiring.patch.restored skip lines := by
  induction lines generalizing skip with
  | nil => rfl
  | cons line lines ih =>
    rw [printOutside, cutBlocks, ih, ih, restore_eq]
    rfl

/-- No line has any of some texts in it. -/
def Without (parts lines : List String) : Prop :=
  ∀ line ∈ lines, ∀ part ∈ parts, contains part line = false

/-- The lines and the texts as lists of symbols. -/
theorem without_iff {parts lines : List String} : Without parts lines ↔
    ((lines.map String.toList).all fun line =>
      (parts.map String.toList).all fun part => !occurs part line) = true := by
  simp [Without, contains]

/-- The lines at which the blocks are put. -/
def anchorTexts : List String := [handlerAnchor, pristineLine, connectionAnchor]

/-- The marks of a wiring. -/
def Wiring.marks (wiring : Wiring) : List String :=
  [wiring.script.markStart, wiring.script.markEnd]

/-- The marks of the other wirings. -/
def Wiring.foreign : Wiring → List String
  | .handler => Wiring.authCache.marks ++ Wiring.redisAdapter.marks ++ Wiring.metrics.marks
  | .authCache => Wiring.handler.marks ++ Wiring.redisAdapter.marks ++ Wiring.metrics.marks
  | .redisAdapter => Wiring.handler.marks ++ Wiring.authCache.marks ++ Wiring.metrics.marks
  | .metrics => Wiring.handler.marks ++ Wiring.authCache.marks ++ Wiring.redisAdapter.marks

/-- No block has a line at which a block is put, or a mark of another. -/
theorem without_block (wiring : Wiring) : Without (anchorTexts ++ wiring.foreign) wiring.block := by
  cases wiring
  all_goals
    simp only [without_iff, anchorTexts, Wiring.foreign, Wiring.marks, Wiring.script, wireHandler,
      wireAuthCache, wireRedisAdapter, wireMetrics, List.cons_append, List.nil_append,
      List.map_cons, List.map_nil, Wiring.block, handlerBlock, authCacheBlock, redisAdapterBlock,
      metricsBlock, startLine, handlerRel, cacheRel, adapterRel, metricsRel, handlerAnchor,
      pristineLine, connectionAnchor, handlerStart, handlerEnd, authCacheStart, authCacheEnd,
      redisAdapterStart, redisAdapterEnd, metricsStart, metricsEnd, String.toList_append]
    repeat rw [String.toList_ofList]
    decide +kernel

/-- The first line of a block opens it, the last one closes it, and between them is no mark. -/
theorem block_marked (wiring : Wiring) : ∃ first last,
    wiring.block = first :: (wiring.block.tail.dropLast ++ [last]) ∧
      contains wiring.script.markStart first = true ∧
      Without wiring.marks wiring.block.tail.dropLast ∧
      contains wiring.script.markStart last = false ∧
      contains wiring.script.markEnd last = true := by
  cases wiring
  all_goals
    refine ⟨_, _, rfl, ?_⟩
    simp only [Wiring.block, handlerBlock, authCacheBlock, redisAdapterBlock, metricsBlock,
      List.tail_cons, List.dropLast_cons_cons, List.dropLast_singleton, without_iff, Wiring.marks,
      Wiring.script, wireHandler, wireAuthCache, wireRedisAdapter, wireMetrics, contains,
      List.map_cons, List.map_nil, startLine, handlerRel, cacheRel, adapterRel, metricsRel,
      handlerStart, handlerEnd, authCacheStart, authCacheEnd, redisAdapterStart, redisAdapterEnd,
      metricsStart, metricsEnd, String.toList_append]
    repeat rw [String.toList_ofList]
    decide +kernel

/-- Symbols stand in a row among themselves. -/
theorem contains_self (text : String) : contains text text = true := by
  rw [contains]
  cases text.toList with
  | nil => rfl
  | cons char rest =>
    have itself : (char :: rest).isPrefixOf (char :: rest) = true := by simp
    rw [occurs, itself]
    rfl

/-- No block is put at the line that the auth cache replaces, but its own. -/
theorem anchors_pristineLine (wiring : Wiring) (other : wiring ≠ .authCache) :
    wiring.anchors pristineLine = false := by
  have handler : contains handlerAnchor pristineLine = false := by
    rw [contains, handlerAnchor, pristineLine]
    repeat rw [String.toList_ofList]
    decide +kernel
  have connection : contains connectionAnchor pristineLine = false := by
    rw [contains, connectionAnchor, pristineLine]
    repeat rw [String.toList_ofList]
    decide +kernel
  cases wiring with
  | handler => exact handler
  | authCache => exact absurd rfl other
  | redisAdapter => exact connection
  | metrics =>
    have differ : pristineLine ≠ connectionAnchor := by decide
    exact decide_eq_false differ

/-- A file of Frappe: it has no marks, and only the line itself has the call that the auth cache
replaces. -/
structure Pristine (base : List String) : Prop where
  unmarked : ∀ wiring : Wiring, Without wiring.marks base
  only : ∀ line ∈ base, contains pristineLine line = true → line = pristineLine

/-- A line without marks. -/
theorem clean_of_without {wiring : Wiring} {lines : List String}
    (without : Without wiring.marks lines) : ∀ line ∈ lines, wiring.patch.Clean line := by
  intro line there
  constructor
  · exact without line there _ (by simp [Wiring.marks])
  · exact without line there _ (by simp [Wiring.marks])

/-- A mark is foreign to another wiring. -/
theorem marks_foreign {wiring other : Wiring} (differ : other ≠ wiring) {mark : String}
    (there : mark ∈ wiring.marks) : mark ∈ other.foreign := by
  cases wiring <;> cases other <;> simp_all [Wiring.foreign]

/-- No line of a block is one at which a block is put. -/
theorem anchors_block (wiring other : Wiring) :
    ∀ line ∈ other.block, wiring.anchors line = false := by
  intro line there
  have without := fun part known => without_block other line there part
    (List.mem_append_left _ known)
  cases wiring with
  | handler => exact without handlerAnchor (by simp [anchorTexts])
  | authCache => exact without pristineLine (by simp [anchorTexts])
  | redisAdapter => exact without connectionAnchor (by simp [anchorTexts])
  | metrics =>
    apply decide_eq_false
    intro same
    have itself := without connectionAnchor (by simp [anchorTexts])
    rw [same, contains_self] at itself
    cases itself

/-- The wirings leave each other and a file of Frappe alone. -/
theorem patches_apart {base : List String} (pristine : Pristine base) :
    Apart Wiring.patch base where
  bounded wiring := by
    obtain ⟨first, last, block, opens, inside, closed, closes⟩ := block_marked wiring
    exact ⟨first, _, last, block, opens, clean_of_without inside, closed, closes⟩
  marks wiring other differ line there := by
    have without : ∀ mark ∈ wiring.marks, contains mark line = false := fun mark known =>
      without_block other line there mark (List.mem_append_right _ (marks_foreign differ known))
    exact ⟨without _ (by simp [Wiring.marks]), without _ (by simp [Wiring.marks])⟩
  anchors := anchors_block
  clean wiring := clean_of_without (pristine.unmarked wiring)
  pristine wiring line placed found there anchors := by
    cases wiring with
    | authCache =>
      have same : pristineLine = line := by
        have placement : (Placement.instead pristineLine : Placement String) = .instead line :=
          placed
        injection placement
      rw [← same]
      exact pristine.only found there anchors
    | _ => cases placed
  apart wiring other line differ placed := by
    cases other with
    | authCache =>
      have same : pristineLine = line := by
        have placement : (Placement.instead pristineLine : Placement String) = .instead line :=
          placed
        injection placement
      rw [← same]
      exact anchors_pristineLine wiring (Ne.symm differ)
    | _ => cases placed

section Calls

variable {base : List String} {wired : List Wiring} {wiring : Wiring}

/-- Some line of the file is one at which the block of a wiring is put. -/
def Anchored (base : List String) (wiring : Wiring) : Bool := base.any wiring.anchors

/-- The lines of the file with some wirings put in one after the other. -/
def rendered (base : List String) (wired : List Wiring) : List String :=
  textOf Wiring.patch (stacked Wiring.patch base wired)

/-- The wirings that are in after a call. -/
def wiredAfter (base : List String) (wired : List Wiring) (call : Wiring × Mode) : List Wiring :=
  match call.2 with
  | .wire => if call.1 ∈ wired ∨ Anchored base call.1 = false then wired else wired ++ [call.1]
  | .revert => wired.erase call.1
  | .check => wired
  | .checkAndRevert => wired

/-- Each wiring is in once, and only where the file has a line for it. -/
structure Fits (base : List String) (wired : List Wiring) : Prop where
  once : wired.Nodup
  anchored : ∀ wiring ∈ wired, Anchored base wiring = true

/-- A call keeps each wiring in once. -/
theorem Fits.after (fits : Fits base wired) (call : Wiring × Mode) :
    Fits base (wiredAfter base wired call) := by
  rw [wiredAfter]
  cases call.2 with
  | check => exact fits
  | checkAndRevert => exact fits
  | revert =>
    exact ⟨fits.once.erase _, fun wiring there => fits.anchored wiring (List.mem_of_mem_erase there)⟩
  | wire =>
    dsimp only
    split
    · exact fits
    · next new =>
      rw [not_or, Bool.not_eq_false] at new
      constructor
      · rw [List.nodup_append]
        refine ⟨fits.once, by simp, ?_⟩
        intro wiring there other last
        rw [List.mem_singleton] at last
        exact fun same => new.1 (last ▸ same ▸ there)
      · intro wiring there
        rw [List.mem_append, List.mem_singleton] at there
        cases there with
        | inl earlier => exact fits.anchored wiring earlier
        | inr last => exact last ▸ new.2

/-- The mark of a wiring is in the file exactly when the wiring is. -/
theorem grep_rendered (pristine : Pristine base) (fits : Fits base wired) (wiring : Wiring) :
    grep wiring.script.markStart (rendered base wired) = true ↔ wiring ∈ wired := by
  have apart := patches_apart pristine
  have within : Over base (stacked Wiring.patch base wired) := over_stacked wired
  have opened := opened_iff apart within wiring
  have stood := block_mem_stacked apart fits.once wiring
  rw [grep, List.any_eq_true]
  refine (opened.trans stood).trans ⟨fun both => both.1, fun there => ⟨there, ?_⟩⟩
  have anchored := fits.anchored wiring there
  rwa [Anchored, List.any_eq_true] at anchored

/-- A wiring that is not in has its lines in the file exactly when Frappe's file has some. -/
theorem anchored_rendered (pristine : Pristine base) (absent : wiring ∉ wired) :
    (∃ line ∈ rendered base wired, wiring.anchors line = true) ↔ Anchored base wiring = true := by
  have apart := patches_apart pristine
  have found := anchored_iff apart wiring (stacked Wiring.patch base wired)
  rw [Anchored, List.any_eq_true]
  refine found.trans ⟨?_, ?_⟩
  · rintro ⟨line, stood, anchors⟩
    exact ⟨line, over_stacked wired line stood, anchors⟩
  · rintro ⟨line, there, anchors⟩
    exact ⟨line, anchor_stacked apart wiring there anchors absent, anchors⟩

/-- What a script prints for the file is the file with its wiring. -/
theorem print_rendered (pristine : Pristine base) (wired : List Wiring) (wiring : Wiring) :
    (rendered base wired).flatMap wiring.script.print = rendered base (wired ++ [wiring]) := by
  rw [flatMap_print, rendered, rendered, stacked_concat]
  exact wire_textOf (patches_apart pristine) wiring _

/-- A script is content only with a file that has its mark. -/
theorem grep_of_landed {lines : List String} (landed : wiring.script.landed lines = true) :
    grep wiring.script.markStart lines = true := by
  cases wiring with
  | handler => exact landed
  | authCache => exact (Bool.and_eq_true_iff.mp landed).1
  | redisAdapter => exact landed
  | metrics => exact (Bool.and_eq_true_iff.mp landed).1

/-- A script looks for its anchor in vain only where the file has no line for it. -/
theorem anchorFound_of_line {lines : List String} {line : String} (there : line ∈ lines)
    (anchors : wiring.anchors line = true) : wiring.script.anchorFound lines = true := by
  cases wiring with
  | handler => rfl
  | authCache => exact List.any_eq_true.mpr ⟨line, there, anchors⟩
  | redisAdapter => rfl
  | metrics =>
    have same : line = connectionAnchor := of_decide_eq_true anchors
    exact List.any_eq_true.mpr ⟨line, there, same ▸ contains_self connectionAnchor⟩

/-- A script that put its block in is content with the file. -/
theorem landed_rendered (pristine : Pristine base) (fits : Fits base (wired ++ [wiring])) :
    wiring.script.landed (rendered base (wired ++ [wiring])) = true := by
  have apart := patches_apart pristine
  have marked := (grep_rendered pristine fits wiring).mpr (by simp)
  cases wiring with
  | handler => exact marked
  | redisAdapter => exact marked
  | authCache =>
    refine Bool.and_eq_true_iff.mpr ⟨marked, ?_⟩
    rw [Bool.not_eq_true', Bool.eq_false_iff]
    intro found
    have anchored := anchored_iff apart .authCache
      (stacked Wiring.patch base (wired ++ [.authCache]))
    obtain ⟨line, stays, anchors⟩ := anchored.mp (List.any_eq_true.mp found)
    rw [stacked_concat, line_mem_put] at stays
    exact stays.2 ⟨anchors, pristineLine, rfl⟩
  | metrics =>
    refine Bool.and_eq_true_iff.mpr ⟨marked, ?_⟩
    have anchored := fits.anchored .metrics (by simp)
    rw [Anchored, List.any_eq_true] at anchored
    obtain ⟨line, there, anchors⟩ := anchored
    have same : line = connectionAnchor := of_decide_eq_true anchors
    have absent : Wiring.metrics ∉ wired := by
      intro earlier
      have once := List.nodup_append.mp fits.once
      exact once.2.2 .metrics earlier .metrics (by simp) rfl
    have stays : .line line ∈ stacked Wiring.patch base (wired ++ [.metrics]) := by
      rw [stacked_concat, line_mem_put]
      refine ⟨anchor_stacked apart .metrics there anchors absent, ?_⟩
      rintro ⟨_, _, ⟨⟩⟩
    apply List.any_eq_true.mpr
    refine ⟨line, ?_, same ▸ contains_self connectionAnchor⟩
    exact List.mem_flatMap.mpr ⟨.line line, stays, by simp [pieceLines]⟩

/-- The exit status of a call. -/
def exitStatus (base : List String) (wired : List Wiring) (wiring : Wiring) : Mode → Nat
  | .wire => if Anchored base wiring then 0 else 1
  | .check => if wiring ∈ wired then 0 else 1
  | .revert => 0
  | .checkAndRevert => 2

/-- What a call of a script makes of the file with some wirings in: the file with those that are in
after the call, which ends in a newline if it did, and the exit status. -/
def Calls (base : List String) (wired : List Wiring) (wiring : Wiring) (mode : Mode)
    (ended : Bool) : Prop :=
  ∃ changed, wiring.script.call mode ⟨rendered base wired, ended⟩ =
    (⟨rendered base (wiredAfter base wired (wiring, mode)), changed⟩,
      exitStatus base wired wiring mode) ∧ (ended = true → changed = true)

/-- A revert takes the wiring out if it is in. -/
theorem calls_revert (pristine : Pristine base) (fits : Fits base wired) (ended : Bool) :
    Calls base wired wiring .revert ended := by
  have marked := grep_rendered pristine fits wiring
  by_cases there : wiring ∈ wired
  · have out : printOutside wiring.script.markStart wiring.script.markEnd wiring.script.restore
        false (rendered base wired) = rendered base (wired.erase wiring) := by
      have apart := patches_apart pristine
      rw [printOutside_eq, rendered, rendered, ← take_stacked apart fits.once there]
      exact unwire_textOf apart (over_stacked wired)
    refine ⟨true, ?_, fun _ => rfl⟩
    rw [Script.call]
    simp only [marked, there, if_true, awk, out]
    rfl
  · refine ⟨ended, ?_, id⟩
    rw [Script.call]
    simp only [marked, there, if_false, wiredAfter, List.erase_of_not_mem there, exitStatus]

/-- A wiring that is in is not put in again. -/
theorem calls_wire_again (pristine : Pristine base) (fits : Fits base wired)
    (there : wiring ∈ wired) (ended : Bool) : Calls base wired wiring .wire ended := by
  have marked := grep_rendered pristine fits wiring
  have anchored := fits.anchored wiring there
  refine ⟨ended, ?_, id⟩
  rw [Script.call]
  simp only [marked, there, if_true, wiredAfter, true_or, exitStatus, anchored]

/-- A wiring for which the file has a line is put in. -/
theorem calls_wire_new (pristine : Pristine base) (fits : Fits base wired)
    (absent : wiring ∉ wired) (anchored : Anchored base wiring = true) (ended : Bool) :
    Calls base wired wiring .wire ended := by
  have marked := grep_rendered pristine fits wiring
  obtain ⟨line, stands, anchors⟩ := (anchored_rendered pristine absent).mpr anchored
  have found := anchorFound_of_line stands anchors
  have after : wiredAfter base wired (wiring, .wire) = wired ++ [wiring] := by
    simp [wiredAfter, absent, anchored]
  have landed := landed_rendered pristine (after ▸ fits.after (wiring, .wire))
  refine ⟨true, ?_, fun _ => rfl⟩
  rw [Script.call, after]
  simp only [marked, absent, if_false, found, if_true, awk, print_rendered pristine, landed,
    exitStatus, anchored]

/-- A file without a line for a wiring is left as it is. -/
theorem calls_wire_vain (pristine : Pristine base) (fits : Fits base wired)
    (absent : wiring ∉ wired) (unanchored : Anchored base wiring = false) (ended : Bool) :
    Calls base wired wiring .wire ended := by
  have marked := grep_rendered pristine fits wiring
  have idle : ∀ line ∈ rendered base wired, wiring.patch.anchors line = false := by
    intro line stands
    rw [Bool.eq_false_iff]
    intro anchors
    have anchored := (anchored_rendered pristine absent).mp ⟨line, stands, anchors⟩
    rw [unanchored] at anchored
    cases anchored
  have same : (rendered base wired).flatMap wiring.script.print = rendered base wired := by
    rw [flatMap_print]
    exact wiring.patch.wire_idle idle
  have fails : ¬ wiring.script.landed (rendered base wired) = true := fun landed =>
    absent (marked.mp (grep_of_landed landed))
  refine ⟨ended, ?_, id⟩
  rw [Script.call]
  simp [marked, absent, awk, same, fails, wiredAfter, unanchored, exitStatus]

/-- What every call makes of the file. -/
theorem calls_all (pristine : Pristine base) (fits : Fits base wired) (wiring : Wiring)
    (mode : Mode) (ended : Bool) : Calls base wired wiring mode ended := by
  cases mode with
  | checkAndRevert => exact ⟨ended, rfl, id⟩
  | check =>
    refine ⟨ended, ?_, id⟩
    rw [Script.call]
    simp only [grep_rendered pristine fits wiring]
    rfl
  | revert => exact calls_revert pristine fits ended
  | wire =>
    by_cases there : wiring ∈ wired
    · exact calls_wire_again pristine fits there ended
    · cases anchored : Anchored base wiring with
      | true => exact calls_wire_new pristine fits there anchored ended
      | false => exact calls_wire_vain pristine fits there anchored ended

end Calls

/-- The wirings that are in after some calls on a file of Frappe. -/
def wiredBy (base : List String) (calls : List (Wiring × Mode)) : List Wiring :=
  runAll (wiredAfter base) [] calls

/-- After some calls on a file of Frappe each wiring is in once. -/
theorem fits_wiredBy (base : List String) (calls : List (Wiring × Mode)) :
    Fits base (wiredBy base calls) := by
  apply runAll_invariant (Fits base) fun wired call fits => fits.after call
  exact ⟨List.nodup_nil, fun wiring there => by cases there⟩

/-- The file after some calls. -/
theorem run_rendered {start : Index} (pristine : Pristine start.lines)
    (calls : List (Wiring × Mode)) :
    (runAll Index.call start calls).lines = rendered start.lines (wiredBy start.lines calls) ∧
      (start.ended = true → (runAll Index.call start calls).ended = true) := by
  refine runAll_recorded (fun (calls : List (Wiring × Mode)) (index : Index) =>
    index.lines = rendered start.lines (wiredBy start.lines calls) ∧
      (start.ended = true → index.ended = true)) ?_ ?_ calls
  · refine ⟨?_, id⟩
    simp [wiredBy, rendered, stacked, textOf, pieceLines, List.flatMap_map]
  · intro past call reached
    obtain ⟨lines, ended⟩ := reached
    have next : wiredBy start.lines (past ++ [call]) =
        wiredAfter start.lines (wiredBy start.lines past) call := by
      simp [wiredBy, runAll_append]
    obtain ⟨changed, result, newline⟩ := calls_all pristine (fits_wiredBy start.lines past) call.1
      call.2 (runAll Index.call start past).ended
    rw [← lines] at result
    rw [Index.call, result, next]
    exact ⟨rfl, fun stood => newline (ended stood)⟩

/-- A wiring that was reverted is out. -/
theorem mem_reverted {base : List String} {wiring : Wiring} (order : List Wiring) :
    ∀ {wired : List Wiring}, wired.Nodup →
      wiring ∈ runAll (wiredAfter base) wired (order.map (·, .revert)) →
        wiring ∈ wired ∧ wiring ∉ order := by
  induction order with
  | nil => simp
  | cons first order ih =>
    intro wired once there
    obtain ⟨stays, others⟩ := ih (once.erase first) there
    rw [once.mem_erase_iff] at stays
    exact ⟨stays.2, by simp [stays.1, others]⟩

/-- After any calls of the four scripts on a file of Frappe, in any order, the file is what the
wirings that are in make of it, in the order in which they were put in; a check fails exactly on
those that are not in, putting one in fails exactly where the file has no line for it, and once each
has been taken out the file has its lines back. -/
theorem scripts_compose (start : Index) (pristine : Pristine start.lines)
    (calls : List (Wiring × Mode)) :
    (runAll Index.call start calls).lines = rendered start.lines (wiredBy start.lines calls) ∧
      (start.ended = true → (runAll Index.call start calls).ended = true) ∧
      (∀ wiring mode, ((Wiring.script wiring).call mode (runAll Index.call start calls)).2 =
        exitStatus start.lines (wiredBy start.lines calls) wiring mode) ∧
      ∀ order : List Wiring, (∀ wiring, wiring ∈ order) →
        (runAll Index.call start (calls ++ order.map (·, .revert))).lines = start.lines := by
  obtain ⟨lines, ended⟩ := run_rendered pristine calls
  have fits := fits_wiredBy start.lines calls
  refine ⟨lines, ended, ?_, ?_⟩
  · intro wiring mode
    obtain ⟨changed, result, _⟩ := calls_all pristine fits wiring mode
      (runAll Index.call start calls).ended
    rw [← lines] at result
    exact congrArg Prod.snd result
  · intro order every
    have nothing : wiredBy start.lines (calls ++ order.map (·, .revert)) = [] := by
      rw [wiredBy, runAll_append]
      apply List.eq_nil_iff_forall_not_mem.mpr
      intro wiring there
      exact (mem_reverted order fits.once there).2 (every wiring)
    rw [(run_rendered pristine _).1, nothing]
    simp [rendered, stacked, textOf, pieceLines, List.flatMap_map]

/-- The lines of Frappe's file that the wirings look for. -/
def frappeIndex : Index where
  lines := ["realtime.use(authenticate);", "\tfrappe_handlers(realtime, socket);",
    "realtime.on(\"connection\", on_connection);"]

/-- That file has no marks. -/
theorem frappeIndex_pristine : Pristine frappeIndex.lines where
  unmarked wiring := by
    cases wiring
    all_goals
      simp only [without_iff, Wiring.marks, Wiring.script, wireHandler, wireAuthCache,
        wireRedisAdapter, wireMetrics, List.map_cons, List.map_nil, frappeIndex, handlerStart,
        handlerEnd, authCacheStart, authCacheEnd, redisAdapterStart, redisAdapterEnd, metricsStart,
        metricsEnd]
      repeat rw [String.toList_ofList]
      decide +kernel
  only := by
    have others : Without [pristineLine] frappeIndex.lines.tail := by
      simp only [without_iff, List.map_cons, List.map_nil, frappeIndex, List.tail_cons,
        pristineLine]
      repeat rw [String.toList_ofList]
      decide +kernel
    intro line there found
    cases List.mem_cons.mp there with
    | inl first => exact first
    | inr later =>
      rw [others line later pristineLine (by simp)] at found
      cases found

/-- The adapter and the metrics are put in around a revert, and all are taken out. -/
theorem scripts_compose_frappe : (runAll Index.call frappeIndex
    ([(.metrics, .wire), (.authCache, .wire), (.metrics, .revert), (.redisAdapter, .wire),
      (.metrics, .wire)] ++
        [.redisAdapter, .handler, .metrics, .authCache].map (·, .revert))).lines =
      frappeIndex.lines :=
  (scripts_compose frappeIndex frappeIndex_pristine _).2.2.2 _ fun wiring => by
    cases wiring <;> decide

section Hooks

variable {installation : Installation} {wiring : Wiring} {index : Index} {base : List String}

/-- The hook finds a bench, a script and a file. -/
def Installation.finds (installation : Installation) (wiring : Wiring) : Bool :=
  installation.benchRoot.isSome && (installation.script wiring).isSome && installation.indexFound

/-- A run of the hook for one wiring on a file: it returns with the mark in the file, or finds
nothing to do, or raises over a file that has no mark still. -/
theorem rewireRealtime_cases (installation : Installation) (wiring : Wiring) (index : Index) :
    rewireRealtime installation wiring index = .ok () index ∧
        (installation.finds wiring = true → grep wiring.script.markStart index.lines = true) ∨
      (installation.finds wiring = true ∧ grep wiring.script.markStart index.lines = false) ∧
        (rewireRealtime installation wiring index =
            .ok () (runScript installation wiring index) ∧
          grep wiring.script.markStart (runScript installation wiring index).lines = true ∨
        ∃ raised, raised.wiring = wiring ∧ rewireRealtime installation wiring index =
            .error raised (runScript installation wiring index) ∧
          grep wiring.script.markStart (runScript installation wiring index).lines = false) := by
  rw [rewireRealtime, Installation.finds]
  cases installation.benchRoot with
  | none => simp
  | some benchRoot =>
    cases installation.script wiring with
    | none => simp
    | some script =>
      cases installation.indexFound with
      | false => simp
      | true =>
        cases marked : grep wiring.script.markStart index.lines with
        | true =>
          refine .inl ⟨?_, fun _ => rfl⟩
          simp only [if_true, rewireIndex]
          rw [Exec.bind_run_ok (Exec.get_run index)]
          simp [marked]
        | false =>
          have run : rewireIndex installation wiring script benchRoot index =
              (if grep wiring.script.markStart (runScript installation wiring index).lines then
                pure () else throw (missing wiring script benchRoot
                  (installation.detail wiring index)) : Exec RealtimeWiringError Index Unit)
                (runScript installation wiring index) := by
            rw [rewireIndex, Exec.bind_run_ok (Exec.get_run index), if_neg (by simp [marked]),
              Exec.bind_run_ok (Exec.modify_run _ index), Exec.bind_run_ok (Exec.get_run _)]
          refine .inr ⟨⟨rfl, rfl⟩, ?_⟩
          simp only [if_true, run]
          cases grep wiring.script.markStart (runScript installation wiring index).lines with
          | true => exact .inl ⟨rfl, rfl⟩
          | false => exact .inr ⟨_, rfl, rfl, rfl⟩

/-- The hook can put a wiring into a file of Frappe. -/
def Installation.mends (installation : Installation) (base : List String) (wiring : Wiring) :
    Bool := installation.runs wiring && Anchored base wiring

/-- Of the file with some wirings in, a hook that finds its script makes the file with its own, or
raises where it can not. -/
theorem rewireRealtime_rendered {wired : List Wiring} (pristine : Pristine base)
    (fits : Fits base wired) (lines : index.lines = rendered base wired)
    (installation : Installation) (wiring : Wiring) :
    ∃ next after, next.lines = rendered base after ∧ Fits base after ∧
      (∀ other, other ∈ after ↔ other ∈ wired ∨
        other = wiring ∧ installation.finds wiring = true ∧ installation.mends base wiring = true) ∧
      (rewireRealtime installation wiring index = .ok () next ∧
          (installation.finds wiring = true → wiring ∈ after) ∨
        ∃ raised, raised.wiring = wiring ∧
          rewireRealtime installation wiring index = .error raised next ∧
          installation.finds wiring = true ∧ wiring ∉ after) := by
  have marked := grep_rendered pristine fits wiring
  rw [← lines] at marked
  cases rewireRealtime_cases installation wiring index with
  | inl idle =>
    refine ⟨index, wired, lines, fits, ?_, .inl ⟨idle.1, fun finds => marked.mp (idle.2 finds)⟩⟩
    intro other
    constructor
    · exact .inl
    · rintro (stays | ⟨same, finds, _⟩)
      · exact stays
      · exact same ▸ marked.mp (idle.2 finds)
  | inr runs =>
    obtain ⟨⟨finds, unmarked⟩, result⟩ := runs
    have absent : wiring ∉ wired := by
      intro there
      rw [marked.mpr there] at unmarked
      cases unmarked
    obtain ⟨after, ran, fitsAfter, grows⟩ : ∃ after,
        (runScript installation wiring index).lines = rendered base after ∧ Fits base after ∧
          ∀ other, other ∈ after ↔ other ∈ wired ∨
            other = wiring ∧ installation.mends base wiring = true := by
      rw [runScript, Installation.mends]
      cases installation.runs wiring with
      | false => exact ⟨wired, lines, fits, by simp⟩
      | true =>
        obtain ⟨changed, called, _⟩ := calls_all pristine fits wiring .wire index.ended
        rw [← lines] at called
        refine ⟨wiredAfter base wired (wiring, .wire), ?_, fits.after (wiring, .wire), ?_⟩
        · rw [if_pos rfl, Index.call, called]
        · intro other
          rw [wiredAfter]
          cases Anchored base wiring <;> simp [absent]
    have now := grep_rendered pristine fitsAfter wiring
    rw [← ran] at now
    refine ⟨_, after, ran, fitsAfter, ?_, ?_⟩
    · intro other
      rw [grows other, finds]
      simp
    · cases result with
      | inl returned => exact .inl ⟨returned.1, fun _ => now.mp returned.2⟩
      | inr failed =>
        obtain ⟨raised, same, error, still⟩ := failed
        refine .inr ⟨raised, same, error, finds, ?_⟩
        intro there
        rw [now.mpr there] at still
        cases still

/-- What some hooks make of the file with some wirings in. -/
theorem hooks_rendered (pristine : Pristine base) (installation : Installation)
    (hooks : List Wiring) : ∀ {wired : List Wiring} {index : Index}, Fits base wired →
      index.lines = rendered base wired →
    ∃ next after, next.lines = rendered base after ∧ Fits base after ∧
      (∀ wiring ∈ wired, wiring ∈ after) ∧
      (hooks.forM (rewireRealtime installation) index = .ok () next ∧
          (∀ wiring ∈ hooks, installation.finds wiring = true →
            wiring ∈ after ∧ (wiring ∈ wired ∨ installation.mends base wiring = true)) ∨
        ∃ raised, hooks.forM (rewireRealtime installation) index = .error raised next ∧
          raised.wiring ∈ hooks ∧ installation.finds raised.wiring = true ∧
          raised.wiring ∉ after ∧ installation.mends base raised.wiring = false) := by
  induction hooks with
  | nil =>
    intro wired index fits lines
    exact ⟨index, wired, lines, fits, fun _ there => there, .inl ⟨rfl, by simp⟩⟩
  | cons first hooks ih =>
    intro wired index fits lines
    have chain : (first :: hooks).forM (rewireRealtime installation) index =
        (rewireRealtime installation first >>= fun _ =>
          hooks.forM (rewireRealtime installation)) index := rfl
    obtain ⟨middle, between, linesMiddle, fitsMiddle, grows, result⟩ :=
      rewireRealtime_rendered pristine fits lines installation first
    cases result with
    | inr failed =>
      obtain ⟨raised, same, error, finds, absent⟩ := failed
      refine ⟨middle, between, linesMiddle, fitsMiddle, fun wiring there =>
        (grows wiring).mpr (.inl there), .inr ⟨raised, ?_, by simp [same], same ▸ finds,
          same ▸ absent, ?_⟩⟩
      · rw [chain, Exec.bind_run_error error]
      · rw [same, Bool.eq_false_iff]
        intro mends
        exact absent ((grows first).mpr (.inr ⟨rfl, finds, mends⟩))
    | inl returned =>
      obtain ⟨next, after, linesAfter, fitsAfter, keeps, rest⟩ := ih fitsMiddle linesMiddle
      refine ⟨next, after, linesAfter, fitsAfter, fun wiring there =>
        keeps wiring ((grows wiring).mpr (.inl there)), ?_⟩
      rw [chain, Exec.bind_run_ok returned.1]
      cases rest with
      | inr failed =>
        obtain ⟨raised, error, there, finds, absent, helpless⟩ := failed
        exact .inr ⟨raised, error, List.mem_cons_of_mem _ there, finds, absent, helpless⟩
      | inl others =>
        refine .inl ⟨others.1, ?_⟩
        intro wiring there finds
        cases List.mem_cons.mp there with
        | inl same =>
          rw [same] at finds ⊢
          have inside := returned.2 finds
          refine ⟨keeps first inside, ?_⟩
          cases (grows first).mp inside with
          | inl earlier => exact .inl earlier
          | inr mended => exact .inr mended.2.2
        | inr later =>
          obtain ⟨inside, earlier | mends⟩ := others.2 wiring later finds
          · cases (grows wiring).mp earlier with
            | inl stood => exact ⟨inside, .inl stood⟩
            | inr mended => exact ⟨inside, .inr (mended.1 ▸ mended.2.2)⟩
          · exact ⟨inside, .inr mends⟩

/-- Every wiring has a hook. -/
theorem mem_hooks (wiring : Wiring) : wiring ∈ hooks := by
  cases wiring <;> decide

/-- The hooks after a migration return exactly where each wiring whose script they find is in the
file or can be put in. When they return, every such wiring passes its check; when they raise, the
error names one that does not. -/
theorem migration_loud (start : Index) (pristine : Pristine start.lines)
    (calls : List (Wiring × Mode)) (installation : Installation) :
    (Exec.raises (afterMigrate installation) (runAll Index.call start calls) = false ↔
      ∀ wiring, installation.finds wiring = true →
        wiring ∈ wiredBy start.lines calls ∨ installation.mends start.lines wiring = true) ∧
    (∀ next, afterMigrate installation (runAll Index.call start calls) = .ok () next →
      ∀ wiring, installation.finds wiring = true → (wiring.script.call .check next).2 = 0) ∧
    ∀ raised next, afterMigrate installation (runAll Index.call start calls) =
        .error raised next →
      installation.finds raised.wiring = true ∧
        (raised.wiring.script.call .check next).2 = 1 := by
  have lines := (run_rendered pristine calls).1
  obtain ⟨next, after, linesAfter, fits, keeps, result⟩ := hooks_rendered pristine installation
    hooks (fits_wiredBy start.lines calls) lines
  have status (wiring : Wiring) : (wiring.script.call .check next).2 =
      if wiring ∈ after then 0 else 1 := by
    obtain ⟨changed, called, _⟩ := calls_all pristine fits wiring .check next.ended
    rw [← linesAfter] at called
    exact congrArg Prod.snd called
  have whole : afterMigrate installation (runAll Index.call start calls) =
      hooks.forM (rewireRealtime installation) (runAll Index.call start calls) := rfl
  cases result with
  | inl returned =>
    rw [← whole] at returned
    refine ⟨?_, ?_, ?_⟩
    · rw [Exec.raises, returned.1]
      simp only [true_iff]
      exact fun wiring finds => (returned.2 wiring (mem_hooks wiring) finds).2
    · intro other same wiring finds
      rw [returned.1] at same
      cases same
      rw [status, if_pos (returned.2 wiring (mem_hooks wiring) finds).1]
    · intro raised other same
      rw [returned.1] at same
      cases same
  | inr failed =>
    obtain ⟨raised, error, _, finds, absent, helpless⟩ := failed
    rw [← whole] at error
    refine ⟨?_, ?_, ?_⟩
    · rw [Exec.raises, error]
      simp only [Bool.true_eq_false, false_iff]
      intro every
      cases every raised.wiring finds with
      | inl earlier => exact absent (keeps raised.wiring earlier)
      | inr mends =>
        rw [helpless] at mends
        cases mends
    · intro other same
      rw [error] at same
      cases same
    · intro thrown other same
      rw [error] at same
      cases same
      exact ⟨finds, by rw [status, if_neg absent]⟩

/-- A bench with all four scripts. -/
def bench : Installation where
  benchRoot := some "/bench"
  script _ := some "wire.sh"
  indexFound := true
  runs _ := true
  detail _ _ := ""

/-- Frappe's file has a line for each wiring. -/
theorem anchored_frappeIndex (wiring : Wiring) : Anchored frappeIndex.lines wiring = true := by
  cases wiring
  all_goals
    simp only [Anchored, Wiring.anchors, contains, frappeIndex, List.any_cons, List.any_nil,
      handlerAnchor, pristineLine, connectionAnchor]
    repeat rw [String.toList_ofList]
    decide +kernel

/-- The hooks mend a file that lost its wirings. -/
theorem migration_loud_bench : Exec.raises (afterMigrate bench) frappeIndex = false :=
  ((migration_loud frappeIndex frappeIndex_pristine [] bench).1).mpr fun wiring _ =>
    .inr (anchored_frappeIndex wiring)

end Hooks

end FlockOs.RealtimeSetup
