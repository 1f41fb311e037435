import ShaderConversion.Proofs.Except
import ShaderConversion.Proofs.Spirv.Walk
import ShaderConversion.Spirv.Record

namespace ShaderConversion.Spirv

namespace Instruction

structure HasText (i : Instruction) : Prop where
  opcode : i.opcode = Opcode.source
  long : 3 < i.operands.length

structure Declares (i : Instruction) (size : GroupSize) : Prop where
  opcode : i.opcode = Opcode.executionMode
  operands : ∃ entry, i.operands = [entry, localSizeMode, size.x, size.y, size.z]

structure Unrelated (i : Instruction) : Prop where
  fits : i.Fits
  source : i.opcode ≠ Opcode.source
  continued : i.opcode ≠ Opcode.sourceContinued
  mode : i.opcode ≠ Opcode.executionMode

inductive Interspersed : List Instruction → List Instruction → Prop where
  | nil : Interspersed [] []
  | kept (i : Instruction) {is is' : List Instruction} (more : Interspersed is is') :
      Interspersed (i :: is) (i :: is')
  | inserted {i : Instruction} {is is' : List Instruction} (unrelated : i.Unrelated)
      (more : Interspersed is is') : Interspersed is (i :: is')

end Instruction

def continuations (is : List Instruction) : Text :=
  is.flatMap fun i => if i.opcode = Opcode.sourceContinued then unpackText i.operands else []

-- The source that instructions embed: of the last record with a text, and of what continues it.
inductive Embeds (is : List Instruction) : Option Text → Prop where
  | nothing (absent : ∀ i ∈ is, ¬ i.HasText) : Embeds is none
  | text {front back : List Instruction} {i : Instruction} (parts : is = front ++ i :: back)
      (record : i.HasText) (last : ∀ j ∈ back, ¬ j.HasText) :
      Embeds is (some (unpackText (i.operands.drop 3) ++ continuations back))

inductive Sizes (is : List Instruction) : Option GroupSize → Prop where
  | nothing (absent : ∀ i ∈ is, ∀ size, ¬ i.Declares size) : Sizes is none
  | declared {front back : List Instruction} {i : Instruction} {size : GroupSize}
      (parts : is = front ++ i :: back) (declares : i.Declares size)
      (first : ∀ j ∈ front, ∀ size, ¬ j.Declares size) : Sizes is (some size)

open Instruction

section Source

variable {is : List Instruction}

theorem gather_text {i : Instruction} (record : i.HasText) (read? : Option (List Text)) :
    gatherSource read? i = some [unpackText (i.operands.drop 3)] := by
  rw [gatherSource, if_pos ⟨record.opcode, record.long⟩]

theorem gather_continuing (absent : ∀ i ∈ is, ¬ i.HasText) (read? : Option (List Text)) :
    (is.foldl gatherSource read?).map (fun read => read.reverse.flatten) =
      read?.map fun read => read.reverse.flatten ++ continuations is := by
  -- Induction on the instructions: where no new text begins, what continues one is added to it.
  induction is generalizing read? with
  | nil => simp [continuations]
  | cons i is gathered =>
    obtain ⟨none, others⟩ := List.forall_mem_cons.mp absent
    rw [List.foldl_cons, gathered others, gatherSource, if_neg fun text => none ⟨text.1, text.2⟩]
    split
    case isTrue continues => cases read? <;> simp [continuations, continues]
    case isFalse other => cases read? <;> simp [continuations, other]

theorem Embeds.source {words : List UInt32} {source? : Option Text}
    (embeds : Embeds (ofWords words) source?) : embeddedSource? words = source? := by
  unfold embeddedSource?
  cases embeds with
  | nothing absent => exact gather_continuing absent none
  | @text front back i parts record last =>
    rw [parts, List.foldl_append, List.foldl_cons, gather_text record, gather_continuing last]
    simp

theorem exists_embeds (is : List Instruction) : ∃ source?, Embeds is source? := by
  rcases all_or_first (fun i => ¬ i.HasText) is.reverse with
    absent | ⟨back, i, front, parts, last, record⟩
  · exact ⟨none, .nothing fun i member => absent i (List.mem_reverse.mpr member)⟩
  · have turned : is = front.reverse ++ i :: back.reverse := by
      rw [← List.reverse_reverse is, parts]
      simp
    refine ⟨_, .text turned (Classical.not_not.mp record) fun j member => ?_⟩
    exact last j (List.mem_reverse.mp member)

theorem embeddedSource_iff {words : List UInt32} {source? : Option Text} :
    embeddedSource? words = source? ↔ Embeds (ofWords words) source? :=
  eq_iff_of_total (fun _ => Embeds.source) (exists_embeds (ofWords words))

end Source

section Size

variable {is : List Instruction}

theorem groupSizeOf_iff {i : Instruction} {size : GroupSize} :
    groupSizeOf? i = some size ↔ i.Declares size := by
  constructor
  · intro read
    unfold groupSizeOf? at read
    split at read
    · rename_i entry mode x y z operands
      split at read
      case isTrue declares =>
        cases read
        exact ⟨declares.1, entry, declares.2 ▸ operands⟩
      case isFalse => cases read
    · cases read
  · rintro ⟨opcode, entry, operands⟩
    rw [groupSizeOf?, operands]
    exact if_pos ⟨opcode, rfl⟩

theorem groupSizeOf_none {i : Instruction} : groupSizeOf? i = none ↔ ∀ size, ¬ i.Declares size := by
  simp only [Option.eq_none_iff_forall_ne_some, ne_eq, groupSizeOf_iff]

theorem Sizes.size {words : List UInt32} {size? : Option GroupSize}
    (sizes : Sizes (ofWords words) size?) : groupSize? words = size? := by
  unfold groupSize?
  cases sizes with
  | nothing absent =>
    exact List.findSome?_eq_none_iff.mpr fun i member => groupSizeOf_none.mpr (absent i member)
  | declared parts declares first =>
    exact List.findSome?_eq_some_iff.mpr ⟨_, _, _, parts, groupSizeOf_iff.mpr declares,
      fun j member => groupSizeOf_none.mpr (first j member)⟩

theorem exists_sizes (is : List Instruction) : ∃ size?, Sizes is size? := by
  rcases all_or_first (fun i => ∀ size, ¬ i.Declares size) is with
    absent | ⟨front, i, back, parts, first, declares⟩
  · exact ⟨none, .nothing absent⟩
  · obtain ⟨size, declares⟩ := Classical.not_forall_not.mp declares
    exact ⟨some size, .declared parts declares first⟩

theorem groupSize_iff {words : List UInt32} {size? : Option GroupSize} :
    groupSize? words = size? ↔ Sizes (ofWords words) size? :=
  eq_iff_of_total (fun _ => Sizes.size) (exists_sizes (ofWords words))

end Size

section Insertion

variable {is is' : List Instruction}

theorem Instruction.Interspersed.fit (interspersed : Interspersed is is') (fit : ∀ i ∈ is, i.Fits) :
    ∀ i ∈ is', i.Fits := by
  induction interspersed with
  | nil => exact fit
  | kept i _ others =>
    obtain ⟨fits, rest⟩ := List.forall_mem_cons.mp fit
    exact List.forall_mem_cons.mpr ⟨fits, others rest⟩
  | inserted unrelated _ others => exact List.forall_mem_cons.mpr ⟨unrelated.fits, others fit⟩

theorem Instruction.Interspersed.gather (interspersed : Interspersed is is') (read? : Option (List Text)) :
    is'.foldl gatherSource read? = is.foldl gatherSource read? := by
  induction interspersed generalizing read? with
  | nil => rfl
  | kept i _ gathered => exact gathered _
  | inserted unrelated _ gathered =>
    rw [List.foldl_cons, gatherSource, if_neg (fun record => unrelated.source record.1),
      if_neg unrelated.continued, gathered]

theorem Instruction.Interspersed.size (interspersed : Interspersed is is') :
    is'.findSome? groupSizeOf? = is.findSome? groupSizeOf? := by
  induction interspersed with
  | nil => rfl
  | kept i _ found => rw [List.findSome?_cons, List.findSome?_cons, found]
  | @inserted i _ _ unrelated _ found =>
    have none : groupSizeOf? i = none := by
      refine Option.eq_none_iff_forall_ne_some.mpr fun size declared => ?_
      exact unrelated.mode (groupSizeOf_iff.mp declared).opcode
    rw [List.findSome?_cons, none, found]

theorem ofWords_written {header rest : List UInt32} (five : header.length = 5)
    (fit : ∀ i ∈ is, i.Fits) (stuck : Stuck rest) : ofWords (header ++ (encodeAll is ++ rest)) = is := by
  have walked : split (header ++ (encodeAll is ++ rest)) = (is, rest) :=
    split_eq_iff.mpr ⟨List.drop_left' five, fit, stuck⟩
  rw [ofWords, walked]

end Insertion

-- The source and the group size are those of the instructions in front of the first malformed word.
-- Other instructions among these have no effect on them, and nor has what follows that word, as
-- long as it is malformed.
theorem debug_records (words : List UInt32) : ∃ stop, Reads words (ofWords words) stop ∧
    (∀ source?, embeddedSource? words = source? ↔ Embeds (ofWords words) source?) ∧
    (∀ size?, groupSize? words = size? ↔ Sizes (ofWords words) size?) ∧
    ∀ is more, 5 ≤ words.length → Interspersed (ofWords words) is → Stuck (words.drop stop ++ more) →
      let words' := words.take 5 ++ (encodeAll is ++ (words.drop stop ++ more))
      embeddedSource? words' = embeddedSource? words ∧ groupSize? words' = groupSize? words := by
  obtain ⟨stop, reads, -⟩ := split_reads words
  refine ⟨stop, reads, fun _ => embeddedSource_iff, fun _ => groupSize_iff, ?_⟩
  intro is more five interspersed stuck words'
  have taken : ofWords words' = is :=
    ofWords_written (List.length_take_of_le five) (interspersed.fit reads.fit) stuck
  rw [embeddedSource?, embeddedSource?, groupSize?, groupSize?, taken]
  exact ⟨congrArg _ (interspersed.gather none), interspersed.size⟩

theorem debug_records_interspersed :
    let words : List UInt32 := [0x07230203, 0x10000, 0, 1, 0, 0x50003, 2, 450, 1, 0x61, 0]
    let words' : List UInt32 := [0x07230203, 0x10000, 0, 1, 0, 0x20011, 1, 0x50003, 2, 450, 1, 0x61, 0, 7]
    embeddedSource? words' = embeddedSource? words ∧ groupSize? words' = groupSize? words := by
  intro words words'
  obtain ⟨stop, reads, -, -, law⟩ := debug_records words
  have record : ofWords words = [⟨3, [2, 450, 1, 0x61]⟩] := by cbv
  have left : words.drop stop = [0] := by
    have written := reads.written
    rw [record] at written
    have parts : words.drop 5 = encodeAll [⟨3, [2, 450, 1, 0x61]⟩] ++ [0] := by decide
    exact (List.append_cancel_left (parts.symm.trans written)).symm
  rw [left, record] at law
  exact law [⟨17, [1]⟩, ⟨3, [2, 450, 1, 0x61]⟩] [7] (by decide)
    (.inserted ⟨show 2 < 0x10000 by decide, by decide, by decide, by decide⟩ (.kept _ .nil))
    (.uncounted (by decide))

-- A word that counts more words than there are is malformed no more when these are given.
theorem embeddedSource_completed :
    let words : List UInt32 := [0x07230203, 0x10000, 0, 1, 0, 0x50003, 2, 450, 1]
    Reads words (ofWords words) 5 ∧ words.drop 5 ≠ [] ∧ embeddedSource? words = none ∧
      embeddedSource? (words ++ [0x61]) = some ['a'] := by
  intro words
  have none : ofWords words = [] := by cbv
  have stuck : Stuck (words.drop 5) := .short (by decide)
  refine ⟨?_, by decide, ?_, ?_⟩
  · rw [none]
    exact ⟨look_stuck stuck, rfl, List.forall_mem_nil _, stuck⟩
  · rw [embeddedSource?, none]
    rfl
  · have record : ofWords (words ++ [0x61]) = [⟨3, [2, 450, 1, 0x61]⟩] := by cbv
    rw [embeddedSource?, record]
    decide

end ShaderConversion.Spirv
