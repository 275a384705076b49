import ChartText.Embedding
import ChartText.Proofs.Text.Slices
import Mathlib.Data.List.Forall2

/-! # What is copied around the blocks

Blocks of a text that stand one after the other cut it into parts: the text of each block, and the
gaps before, between and after them. `Tiles` says where the parts are, in bytes. Replacing blocks
goes through the tiles once, and whatever it does not replace it copies. Every slice of the text
that it takes is there (`Settings.replaceBlocks_laidOut`). -/

namespace ChartText.Text

/-- Gaps with parts between them, one after the other. -/
def interleave : List (List Char) → List (List Char) → List Char
  | gap :: gaps, part :: parts => gap ++ part ++ interleave gaps parts
  | gaps, _ => gaps.flatten

end ChartText.Text

namespace ChartText
open Text

/-! ### Blocks in a text -/

/-- The blocks lie within the text, on the boundaries of characters, and each of them ends before
the next one begins. -/
structure AreLaidOut (text : List Char) (blocks : List ChartBlock) : Prop where
  start_le_stop : ∀ b ∈ blocks, b.start ≤ b.stop
  start : ∀ b ∈ blocks, IsBoundary text b.start
  stop : ∀ b ∈ blocks, IsBoundary text b.stop
  apart : blocks.Pairwise fun b c => b.stop ≤ c.start

theorem AreLaidOut.sublist {text : List Char} {blocks chosen : List ChartBlock}
    (h : AreLaidOut text blocks) (hc : chosen.Sublist blocks) : AreLaidOut text chosen where
  start_le_stop b hb := h.start_le_stop b (hc.subset hb)
  start b hb := h.start b (hc.subset hb)
  stop b hb := h.stop b (hc.subset hb)
  apart := h.apart.sublist hc

/-- Where the gaps are before, between and after the blocks in the rest of a text of the given
length, from byte `position` on. -/
def gapRanges (length position : Nat) : List ChartBlock → List (Nat × Nat)
  | [] => [(position, length)]
  | b :: blocks => (position, b.start) :: gapRanges length b.stop blocks

/-- Gaps and parts that follow one another from byte `position` on, a part for every block at the
place of the block. -/
inductive Tiles : Nat → List ChartBlock → List (List Char) → List (List Char) → Prop
  | last {position : Nat} (gap : List Char) : Tiles position [] [gap] []
  | block {position : Nat} {b : ChartBlock} {blocks : List ChartBlock} {gap part : List Char}
      {gaps parts : List (List Char)} (start : b.start = position + byteLength gap)
      (stop : b.stop = b.start + byteLength part) (rest : Tiles b.stop blocks gaps parts) :
      Tiles position (b :: blocks) (gap :: gaps) (part :: parts)

theorem AreLaidOut.exists_tiles {text before rest : List Char} {blocks : List ChartBlock}
    (h : AreLaidOut text blocks) (htext : text = before ++ rest)
    (hbefore : ∀ b ∈ blocks, byteLength before ≤ b.start) :
    ∃ gaps parts, Tiles (byteLength before) blocks gaps parts ∧ rest = interleave gaps parts := by
  induction blocks generalizing before rest with
  | nil => exact ⟨[rest], [], .last rest, by simp [interleave]⟩
  | cons b blocks ih =>
    obtain ⟨front, fromStart, hstart, hfront⟩ := h.start b List.mem_cons_self
    obtain ⟨upToStop, after, hstop, hupTo⟩ := h.stop b List.mem_cons_self
    have hle := hbefore b List.mem_cons_self
    have hlength := h.start_le_stop b List.mem_cons_self
    obtain ⟨gap, rfl, rfl⟩ :=
      exists_between_of_byteLength_le (htext.symm.trans hstart) (by omega)
    obtain ⟨part, rfl, rfl⟩ :=
      exists_between_of_byteLength_le (hstart.symm.trans hstop) (by omega)
    have hlater : ∀ c ∈ blocks, byteLength (before ++ gap ++ part) ≤ c.start := fun c hc =>
      hupTo ▸ List.rel_of_pairwise_cons h.apart hc
    obtain ⟨gaps, parts, htiles, hrest⟩ :=
      ih (h.sublist (List.sublist_cons_self b blocks)) hstop hlater
    rw [byteLength_append] at hfront
    rw [byteLength_append, byteLength_append] at hupTo
    refine ⟨gap :: gaps, part :: parts, .block (by omega) (by omega) ?_, ?_⟩
    · rw [byteLength_append, byteLength_append, hupTo] at htiles
      exact htiles
    · rw [hrest, interleave, List.append_assoc]

namespace Tiles

variable {s : Settings} {position : Nat} {blocks : List ChartBlock} {gaps parts : List (List Char)}

theorem isPart {text before : List Char} (h : Tiles position blocks gaps parts)
    (htext : text = before ++ interleave gaps parts) (hbefore : byteLength before = position) :
    List.Forall₂ (fun range gap => IsPart text range.1 range.2 gap)
        (gapRanges (byteLength text) position blocks) gaps ∧
      List.Forall₂ (fun b part => IsPart text b.start b.stop part) blocks parts := by
  induction h generalizing before with
  | last gap =>
    refine ⟨.cons ⟨before, [], ?_, hbefore, ?_⟩ .nil, .nil⟩
    · simpa [interleave] using htext
    · simp [htext, interleave]
  | @block position b blocks gap part gaps parts start stop rest ih =>
    have htext' : text = before ++ gap ++ part ++ interleave gaps parts := by
      rw [htext, interleave]
      simp
    have hstart : byteLength (before ++ gap) = b.start := by
      rw [byteLength_append]
      omega
    have hstop : byteLength (before ++ gap ++ part) = b.stop := by
      rw [byteLength_append]
      omega
    obtain ⟨hgaps, hparts⟩ := ih htext' hstop
    refine ⟨.cons ⟨before, part ++ interleave gaps parts, ?_, hbefore, hstart⟩ hgaps,
      .cons ⟨before ++ gap, interleave gaps parts, htext', hstart, hstop⟩ hparts⟩
    rw [htext']
    simp

end Tiles

/-- Blocks cut their text into gaps and parts. -/
theorem AreLaidOut.exists_parts {text : List Char} {blocks : List ChartBlock}
    (h : AreLaidOut text blocks) :
    ∃ gaps parts, Tiles 0 blocks gaps parts ∧ text = interleave gaps parts ∧
      List.Forall₂ (fun range gap => IsPart text range.1 range.2 gap)
        (gapRanges (byteLength text) 0 blocks) gaps ∧
      List.Forall₂ (fun b part => IsPart text b.start b.stop part) blocks parts := by
  obtain ⟨gaps, parts, htiles, htext⟩ := h.exists_tiles (List.nil_append text).symm (by simp)
  exact ⟨gaps, parts, htiles, htext, htiles.isPart (htext.trans (List.nil_append _).symm) rfl⟩

/-! ### Replacing blocks -/

namespace Settings

variable {s : Settings}

/-- What stands in the place of a block: its picture, or what is wrong with it, and a line feed if
its text ended with one. -/
def replacement (s : Settings) (b : ChartBlock) (part : List Char) : List Char :=
  (s.blockMarkup b.source).toList ++ (if part.getLast? = some '\n' then ['\n'] else [])

/-- Blocks are replaced in the text after the first `position` bytes by slices of the whole text, if
every one of the slices is there. -/
def replaceSlices? (s : Settings) (text : List Char) (position : Nat) :
    List ChartBlock → Option (List Char)
  | [] => slice? text position (byteLength text)
  | b :: blocks => do
    let gap ← slice? text position b.start
    let part ← slice? text b.start b.stop
    let rest ← s.replaceSlices? text b.stop blocks
    return gap ++ s.replacement b part ++ rest

theorem replaceSlices?_eq {text : List Char} {position : Nat} {blocks : List ChartBlock}
    {gaps parts : List (List Char)}
    (hgaps : List.Forall₂ (fun range gap => IsPart text range.1 range.2 gap)
      (gapRanges (byteLength text) position blocks) gaps)
    (hparts : List.Forall₂ (fun b part => IsPart text b.start b.stop part) blocks parts) :
    s.replaceSlices? text position blocks =
      some (interleave gaps (List.zipWith s.replacement blocks parts)) := by
  induction blocks generalizing position gaps parts with
  | nil =>
    obtain _ | ⟨hgap, _ | _⟩ := hgaps
    simpa [replaceSlices?, interleave] using slice?_eq_some_iff.mpr hgap
  | cons b blocks ih =>
    obtain _ | ⟨hgap, hgaps⟩ := hgaps
    obtain _ | ⟨hpart, hparts⟩ := hparts
    simp [replaceSlices?, slice?_eq_some_iff.mpr hgap, slice?_eq_some_iff.mpr hpart,
      ih hgaps hparts, interleave]

theorem replaceFrom_cons {position : Nat} {b : ChartBlock} {gap part : List Char}
    (start : b.start = position + byteLength gap) (stop : b.stop = b.start + byteLength part)
    (rest : List Char) (blocks : List ChartBlock) :
    s.replaceFrom position (gap ++ part ++ rest) (b :: blocks) =
      gap ++ s.replacement b part ++ s.replaceFrom b.stop rest blocks := by
  have hgap : b.start - position = byteLength gap := by omega
  have hpart : b.stop - b.start = byteLength part := by omega
  rw [replaceFrom, hgap, hpart, List.append_assoc, cutBytes_append]
  dsimp only
  rw [cutBytes_append]
  simp [replacement, beq_iff_eq]

/-- The blocks that are marked. -/
def marked (marks : List Bool) (blocks : List ChartBlock) : List ChartBlock :=
  ((marks.zip blocks).filter (·.1)).map (·.2)

/-- The parts of a text, replaced where their blocks are marked. -/
def replaceMarked (s : Settings) (marks : List Bool) (blocks : List ChartBlock)
    (parts : List (List Char)) : List (List Char) :=
  List.zipWith (fun (mark, b) part => if mark then s.replacement b part else part)
    (marks.zip blocks) parts

/-- Of the blocks only the marked ones are replaced. `copied` is the end of what was read before:
the gap before the next marked block reaches back to the last one. -/
theorem replaceFrom_marked {position : Nat} {blocks : List ChartBlock}
    {gaps parts : List (List Char)} (h : Tiles position blocks gaps parts) {marks : List Bool}
    (hmarks : marks.length = blocks.length) (start : Nat) (copied : List Char)
    (hcopied : start + byteLength copied = position) :
    s.replaceFrom start (copied ++ interleave gaps parts) (marked marks blocks) =
      copied ++ interleave gaps (s.replaceMarked marks blocks parts) := by
  induction h generalizing marks start copied with
  | last gap => simp [marked, replaceMarked, replaceFrom]
  | @block position b blocks gap part gaps parts hstart hstop rest ih =>
    cases marks with
    | nil => simp at hmarks
    | cons mark marks =>
      have hlength : marks.length = blocks.length := by simpa using hmarks
      cases mark with
      | true =>
        have hcut : s.replaceFrom start (copied ++ gap ++ part ++ interleave gaps parts)
            (b :: marked marks blocks) =
              copied ++ gap ++ s.replacement b part ++
                s.replaceFrom b.stop (interleave gaps parts) (marked marks blocks) :=
          replaceFrom_cons (by rw [byteLength_append]; omega) hstop _ _
        have hrest : s.replaceFrom b.stop (interleave gaps parts) (marked marks blocks) =
            interleave gaps (s.replaceMarked marks blocks parts) :=
          ih hlength b.stop [] (Nat.add_zero b.stop)
        rw [hrest] at hcut
        simpa [marked, replaceMarked, interleave] using hcut
      | false =>
        have hrest := ih hlength start (copied ++ gap ++ part) (by
          rw [byteLength_append, byteLength_append]
          omega)
        simpa [marked, replaceMarked, interleave] using hrest

theorem marked_replicate (blocks : List ChartBlock) :
    marked (List.replicate blocks.length true) blocks = blocks := by
  induction blocks with
  | nil => rfl
  | cons b blocks ih => simpa [marked, List.replicate_succ] using ih

theorem replaceMarked_replicate (blocks : List ChartBlock) (parts : List (List Char)) :
    s.replaceMarked (List.replicate blocks.length true) blocks parts =
      List.zipWith s.replacement blocks parts := by
  induction blocks generalizing parts with
  | nil => rfl
  | cons b blocks ih =>
    cases parts with
    | nil => simp [replaceMarked]
    | cons part parts => simpa [replaceMarked, List.replicate_succ] using ih parts

/-- Every list of some of the blocks, in their order, is a list of marked ones. -/
theorem exists_marks {blocks chosen : List ChartBlock} (h : chosen.Sublist blocks) :
    ∃ marks : List Bool, marks.length = blocks.length ∧ marked marks blocks = chosen := by
  induction h with
  | slnil => exact ⟨[], rfl, rfl⟩
  | cons b _ ih =>
    obtain ⟨marks, hlength, hmarked⟩ := ih
    exact ⟨false :: marks, by simp [hlength], by simpa [marked] using hmarked⟩
  | cons_cons b _ ih =>
    obtain ⟨marks, hlength, hmarked⟩ := ih
    exact ⟨true :: marks, by simp [hlength], by simpa [marked] using hmarked⟩

theorem replaceBlocks_marked {markdown : String} {blocks : List ChartBlock}
    {gaps parts : List (List Char)} (h : Tiles 0 blocks gaps parts)
    (htext : markdown.toList = interleave gaps parts) {marks : List Bool}
    (hmarks : marks.length = blocks.length) :
    (s.replaceBlocks markdown (marked marks blocks)).toList =
      interleave gaps (s.replaceMarked marks blocks parts) := by
  rw [replaceBlocks, String.toList_ofList, htext]
  exact replaceFrom_marked h hmarks 0 [] rfl

theorem replaceBlocks_of_tiles {markdown : String} {blocks : List ChartBlock}
    {gaps parts : List (List Char)} (h : Tiles 0 blocks gaps parts)
    (htext : markdown.toList = interleave gaps parts) :
    (s.replaceBlocks markdown blocks).toList =
      interleave gaps (List.zipWith s.replacement blocks parts) := by
  have hall := replaceBlocks_marked (s := s) h htext (List.length_replicate (a := true))
  rwa [marked_replicate, replaceMarked_replicate] at hall

/-- Every slice that replacing the blocks takes is a part of the text. -/
theorem replaceSlices?_laidOut {markdown : String} {blocks : List ChartBlock}
    (h : AreLaidOut markdown.toList blocks) :
    s.replaceSlices? markdown.toList 0 blocks =
      some (s.replaceBlocks markdown blocks).toList := by
  obtain ⟨gaps, parts, htiles, htext, hgaps, hparts⟩ := h.exists_parts
  rw [replaceSlices?_eq hgaps hparts, replaceBlocks_of_tiles htiles htext]

/-- Blocks that are laid out in a text cut it into gaps and parts, which all lie within the text.
Replacing the blocks replaces every part once, by what stands for its block, and copies the gaps. If
only some of the blocks are replaced, the parts of the others are copied as well. No slice of the
text that is taken for it is out of range. -/
theorem replaceBlocks_laidOut (s : Settings) {markdown : String} {blocks : List ChartBlock}
    (h : AreLaidOut markdown.toList blocks) :
    ∃ gaps parts : List (List Char),
      List.Forall₂ (fun range gap => IsPart markdown.toList range.1 range.2 gap)
        (gapRanges (byteLength markdown.toList) 0 blocks) gaps ∧
      List.Forall₂ (fun b part => IsPart markdown.toList b.start b.stop part) blocks parts ∧
      markdown.toList = interleave gaps parts ∧
      (s.replaceBlocks markdown blocks).toList =
        interleave gaps (List.zipWith s.replacement blocks parts) ∧
      ∀ chosen, chosen.Sublist blocks →
        AreLaidOut markdown.toList chosen ∧
        s.replaceSlices? markdown.toList 0 chosen =
          some (s.replaceBlocks markdown chosen).toList ∧
        ∃ marks : List Bool, marks.length = blocks.length ∧ marked marks blocks = chosen ∧
          (s.replaceBlocks markdown chosen).toList =
            interleave gaps (s.replaceMarked marks blocks parts) := by
  obtain ⟨gaps, parts, htiles, htext, hgaps, hparts⟩ := h.exists_parts
  refine ⟨gaps, parts, hgaps, hparts, htext, replaceBlocks_of_tiles htiles htext,
    fun chosen hchosen => ?_⟩
  have hlaidOut := h.sublist hchosen
  obtain ⟨marks, hmarks, rfl⟩ := exists_marks hchosen
  exact ⟨hlaidOut, replaceSlices?_laidOut hlaidOut, marks, hmarks, rfl,
    replaceBlocks_marked htiles htext hmarks⟩

theorem replaceBlocks_laidOut_adjacent :
    AreLaidOut "```plainviz\n≥\n```\n```plainviz\n```\nπ\n~~~plainviz\n".toList
      [⟨0, 20, "≥\n"⟩, ⟨20, 35, ""⟩, ⟨39, 51, ""⟩] ∧
    (({} : Settings).replaceBlocks
      "```plainviz\n≥\n```\n```plainviz\n```\nπ\n~~~plainviz\n"
      [⟨0, 20, "≥\n"⟩, ⟨20, 35, ""⟩, ⟨39, 51, ""⟩]).toList =
        (({} : Settings).blockMarkup "≥\n").toList ++ ['\n'] ++
        (({} : Settings).blockMarkup "").toList ++ ['\n', 'π', '\n'] ++
        (({} : Settings).blockMarkup "").toList ++ ['\n'] := by
  have hboundary {text : List Char} (n : Nat) : IsBoundary text (byteLength (text.take n)) :=
    ⟨_, text.drop n, (List.take_append_drop n text).symm, rfl⟩
  have hpart {text part expected : List Char} {start stop : Nat}
      (h : IsPart text start stop part) (he : slice? text start stop = some expected) :
      part = expected :=
    Option.some.inj ((slice?_eq_some_iff.mpr h).symm.trans he)
  have hlaidOut : AreLaidOut "```plainviz\n≥\n```\n```plainviz\n```\nπ\n~~~plainviz\n".toList
      [⟨0, 20, "≥\n"⟩, ⟨20, 35, ""⟩, ⟨39, 51, ""⟩] := by
    refine ⟨by simp, ?_, ?_, by simp⟩
    · simpa using ⟨hboundary 0, hboundary 18, hboundary 36⟩
    · simpa using ⟨hboundary 18, hboundary 33, hboundary 48⟩
  obtain ⟨gaps, parts, hgaps, hparts, -, hreplaced, -⟩ := replaceBlocks_laidOut {} hlaidOut
  obtain _ | ⟨hgap₁, _ | ⟨hgap₂, _ | ⟨hgap₃, _ | ⟨hgap₄, _ | _⟩⟩⟩⟩ := hgaps
  obtain _ | ⟨hpart₁, _ | ⟨hpart₂, _ | ⟨hpart₃, _ | _⟩⟩⟩ := hparts
  obtain rfl : _ = [] := hpart hgap₁ (by decide)
  obtain rfl : _ = [] := hpart hgap₂ (by decide)
  obtain rfl : _ = ['\n', 'π', '\n'] := hpart hgap₃ (by decide)
  obtain rfl : _ = [] := hpart hgap₄ (by decide)
  obtain rfl : _ = "```plainviz\n≥\n```\n".toList := hpart hpart₁ (by decide)
  obtain rfl : _ = "```plainviz\n```".toList := hpart hpart₂ (by decide)
  obtain rfl : _ = "~~~plainviz\n".toList := hpart hpart₃ (by decide)
  exact ⟨hlaidOut, hreplaced.trans (by simp [interleave, replacement])⟩

end Settings
end ChartText
