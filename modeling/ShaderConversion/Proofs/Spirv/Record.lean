import ShaderConversion.Proofs.Spirv.Instruction
import ShaderConversion.Proofs.Spirv.Literal
import ShaderConversion.Spirv.Module

namespace ShaderConversion.Spirv

def restored (s : Text) : Text := ((pieces pieceRoom s).map untilNull).flatten

theorem restored_eq_iff {s : Text} : restored s = s ↔ '\x00' ∉ s := by
  constructor
  · intro whole null
    rw [← whole] at null
    obtain ⟨piece, member, null⟩ := List.mem_flatten.mp null
    obtain ⟨source, _, rfl⟩ := List.mem_map.mp member
    exact null_not_mem_untilNull source null
  · intro absent
    have whole := (cut_pieces pieceRoom s).flatten
    have kept : (pieces pieceRoom s).map untilNull = (pieces pieceRoom s).map id := by
      refine List.map_congr_left fun piece member => untilNull_of_not_mem fun null => absent ?_
      rw [← whole]
      exact List.mem_flatten_of_mem member null
    rw [restored, kept, List.map_id, whole]

theorem size_piece {s piece : Text} (member : piece ∈ pieces pieceRoom s) :
    Utf8.size piece ≤ pieceRoom :=
  (cut_pieces pieceRoom s).size (by decide) piece member

theorem size_first (s : Text) : Utf8.size ((pieces pieceRoom s).headD []) ≤ pieceRoom := by
  cases cut : pieces pieceRoom s with
  | nil => exact Nat.zero_le _
  | cons piece others => exact size_piece (cut ▸ List.mem_cons_self)

-- The room for a piece leaves as many words as a source record has in front of its text.
theorem fits_text {s : Text} (within : Utf8.size s ≤ pieceRoom) (opcode : UInt16)
    (front : List UInt32) (few : front.length ≤ 3) :
    (⟨opcode, front ++ packText s⟩ : Instruction).Fits := by
  have room : pieceRoom = 262123 := rfl
  rw [Instruction.Fits, Instruction.size, List.length_append, length_packText]
  omega

theorem sourceRecords_fit (fileName : Text) (number : Nat) (source : Text) :
    ∀ i ∈ sourceRecords fileName number source, i.Fits := by
  intro i member
  rcases List.mem_cons.mp member with rfl | member
  · exact fits_text (size_first fileName) _ [1] (by simp)
  rcases List.mem_cons.mp member with rfl | member
  · exact fits_text (size_first source) _ [glslLanguage, UInt32.ofNat number, 1] (by simp)
  · obtain ⟨piece, behind, rfl⟩ := List.mem_map.mp member
    exact fits_text (size_piece (List.mem_of_mem_drop behind)) _ [] (by simp)

theorem gather_string (fileName : Text) (read? : Option (List Text)) :
    gatherSource read? ⟨Opcode.string, 1 :: packText fileName⟩ = read? := by
  have other : Opcode.string ≠ Opcode.source ∧ Opcode.string ≠ Opcode.sourceContinued := by decide
  rw [gatherSource, if_neg (fun source => other.1 source.1), if_neg other.2]

theorem gather_source (number : UInt32) (s : Text) (read? : Option (List Text)) :
    gatherSource read? ⟨Opcode.source, glslLanguage :: number :: 1 :: packText s⟩ =
      some [untilNull s] := by
  have long : 3 < (glslLanguage :: number :: 1 :: packText s).length := by
    simp only [List.length_cons, length_packText]
    omega
  rw [gatherSource, if_pos ⟨rfl, long⟩, ← unpackText_packText]
  rfl

theorem gather_continued (s : Text) (read : List Text) :
    gatherSource (some read) ⟨Opcode.sourceContinued, packText s⟩ = some (untilNull s :: read) := by
  have other : Opcode.sourceContinued ≠ Opcode.source := by decide
  rw [gatherSource, if_neg (fun source => other source.1), if_pos rfl, Option.map_some,
    unpackText_packText]

theorem gather_continuations (texts read : List Text) :
    (texts.map fun s => ⟨Opcode.sourceContinued, packText s⟩).foldl gatherSource (some read) =
      some ((texts.map untilNull).reverse ++ read) := by
  -- Induction on the texts: each continuation adds what is read of it to what there is.
  induction texts generalizing read with
  | nil => rfl
  | cons s texts gathered =>
    rw [List.map_cons, List.foldl_cons, gather_continued, gathered]
    simp

theorem gather_sourceRecords (fileName : Text) (number : Nat) (source : Text) :
    ((sourceRecords fileName number source).foldl gatherSource none).map
      (fun read => read.reverse.flatten) = some (restored source) := by
  rw [sourceRecords, List.foldl_cons, gather_string, List.foldl_cons, gather_source,
    gather_continuations, restored]
  cases pieces pieceRoom source with
  | nil => rfl
  | cons piece others => simp

theorem embeddedSource_assemble {is : List Instruction} (fit : ∀ i ∈ is, i.Fits)
    (version : Revision) (bound : UInt32) :
    embeddedSource? (Module.assemble version bound is) =
      (is.foldl gatherSource none).map fun read => read.reverse.flatten := by
  rw [embeddedSource?, Module.assemble, Instruction.ofWords_append rfl fit]

end ShaderConversion.Spirv
