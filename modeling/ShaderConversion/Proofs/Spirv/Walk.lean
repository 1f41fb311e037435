import ShaderConversion.Proofs.Spirv.Instruction

namespace ShaderConversion.Spirv.Instruction

inductive Stuck : List UInt32 → Prop where
  | ended : Stuck []
  | uncounted {first : UInt32} {rest : List UInt32} (none : countOf first = 0) : Stuck (first :: rest)
  | short {first : UInt32} {rest : List UInt32} (past : rest.length + 1 < countOf first) :
      Stuck (first :: rest)

inductive Found where
  | ended
  | malformed
  | instruction (i : Instruction) (next : Nat)

def slice? (words : List UInt32) (start stop : Nat) : Option (List UInt32) :=
  if start ≤ stop ∧ stop ≤ words.length then some ((words.take stop).drop start) else none

-- One look at words by their places. There is nothing to be found if a place is out of range.
def look? (words : List UInt32) (position : Nat) : Option Found :=
  match words[position]? with
  | none => some .ended
  | some first =>
    let next := position + countOf first
    if countOf first = 0 ∨ words.length < next then some .malformed
    else (slice? words (position + 1) next).map fun operands =>
      .instruction ⟨opcodeOf first, operands⟩ next

inductive Passes (words : List UInt32) : Nat → List Instruction → Nat → Prop where
  | ended {stop : Nat} (last : look? words stop = some .ended) : Passes words stop [] stop
  | malformed {stop : Nat} (last : look? words stop = some .malformed) : Passes words stop [] stop
  | instruction {position next stop : Nat} {i : Instruction} {is : List Instruction}
      (found : look? words position = some (.instruction i next)) (onward : position < next)
      (within : next ≤ words.length) (rest : Passes words next is stop) :
      Passes words position (i :: is) stop

structure Reads (words : List UInt32) (is : List Instruction) (stop : Nat) : Prop where
  passes : Passes words 5 is stop
  written : words.drop 5 = encodeAll is ++ words.drop stop
  fit : ∀ i ∈ is, i.Fits
  stuck : Stuck (words.drop stop)

section Look

variable {words rest : List UInt32} {position : Nat}

theorem look_end (behind : words.drop position = []) : look? words position = some .ended := by
  have none : words[position]? = none := by
    rw [← List.head?_drop, behind]
    rfl
  rw [look?, none]

theorem look_word {first : UInt32} (behind : words.drop position = first :: rest) :
    look? words position =
      if countOf first = 0 ∨ rest.length + 1 < countOf first then some .malformed
      else some (.instruction ⟨opcodeOf first, rest.take (countOf first - 1)⟩
        (position + countOf first)) := by
  have here : words[position]? = some first := by
    rw [← List.head?_drop, behind]
    rfl
  have length : words.length = position + (rest.length + 1) := by
    have shorter := congrArg List.length behind
    rw [List.length_drop, List.length_cons] at shorter
    omega
  rw [look?, here]
  dsimp only
  by_cases stuck : countOf first = 0 ∨ rest.length + 1 < countOf first
  · have past : countOf first = 0 ∨ words.length < position + countOf first := by omega
    rw [if_pos stuck, if_pos past]
  · have whole : ¬ (countOf first = 0 ∨ words.length < position + countOf first) := by omega
    have within : position + 1 ≤ position + countOf first ∧
        position + countOf first ≤ words.length := by omega
    have next : words.drop (position + 1) = rest := by
      rw [← List.tail_drop, behind]
      rfl
    have wanted : position + countOf first - (position + 1) = countOf first - 1 := by omega
    rw [if_neg stuck, if_neg whole, slice?, if_pos within, Option.map_some, List.drop_take, next, wanted]

theorem look_inRange (words : List UInt32) (position : Nat) : look? words position ≠ none := by
  cases behind : words.drop position with
  | nil =>
    rw [look_end behind]
    exact nofun
  | cons first rest =>
    rw [look_word behind]
    split <;> exact nofun

theorem look_encode {i : Instruction} (fits : i.Fits)
    (behind : words.drop position = i.encode ++ rest) :
    look? words position = some (.instruction i (position + i.size)) := by
  have size : i.size = i.operands.length + 1 := Nat.add_comm 1 _
  have whole : ¬ (i.size = 0 ∨ (i.operands ++ rest).length + 1 < i.size) := by
    rw [List.length_append]
    omega
  rw [encode_eq, List.cons_append] at behind
  rw [look_word behind, countOf_head fits, if_neg whole, opcodeOf_head fits, size,
    Nat.add_sub_cancel, List.take_left]

theorem look_stuck (stuck : Stuck (words.drop position)) : Passes words position [] position := by
  cases behind : words.drop position with
  | nil => exact .ended (look_end behind)
  | cons first rest =>
    rw [behind] at stuck
    refine .malformed ((look_word behind).trans (if_pos ?_))
    cases stuck with
    | uncounted none => exact .inl none
    | short past => exact .inr past

end Look

section Walk

variable {words rest : List UInt32}

theorem length_encode (i : Instruction) : i.encode.length = i.size := by
  rw [encode_eq, List.length_cons, size, Nat.add_comm]

theorem passes_encodeAll {is : List Instruction} (fit : ∀ i ∈ is, i.Fits) {position : Nat}
    (behind : words.drop position = encodeAll is ++ rest) (stuck : Stuck rest) :
    ∃ stop, Passes words position is stop ∧ words.drop stop = rest := by
  -- Induction on the instructions: each is found where the one before it ends.
  induction is generalizing position with
  | nil =>
    have left : words.drop position = rest := behind
    exact ⟨position, look_stuck (left ▸ stuck), left⟩
  | cons i is walk =>
    obtain ⟨fits, others⟩ := List.forall_mem_cons.mp fit
    have all : words.drop position = i.encode ++ (encodeAll is ++ rest) := by
      rw [behind, encodeAll, List.flatMap_cons, List.append_assoc]
      rfl
    have next : words.drop (position + i.size) = encodeAll is ++ rest := by
      rw [← List.drop_drop, all, List.drop_left' (length_encode i)]
    have onward : 0 < i.size := Nat.lt_add_right _ Nat.one_pos
    have within : position + i.size ≤ words.length := by
      have long := congrArg List.length all
      rw [List.length_drop, List.length_append, length_encode] at long
      omega
    obtain ⟨stop, passes, left⟩ := walk others next
    exact ⟨stop, .instruction (look_encode fits all) (Nat.lt_add_of_pos_right onward) within passes,
      left⟩

theorem takeOnto_stuck (stuck : Stuck words) (done : List Instruction) :
    takeOnto done words = (done.reverse, words) := by
  cases stuck with
  | ended => rw [takeOnto]
  | uncounted none =>
    rw [takeOnto]
    exact if_pos (.inl none)
  | @short first rest past =>
    rw [takeOnto]
    refine if_pos (.inr ?_)
    rw [List.length_take]
    omega

theorem head_of_count {first : UInt32} {operands : List UInt32}
    (count : countOf first = operands.length + 1) :
    let i : Instruction := ⟨opcodeOf first, operands⟩
    i.Fits ∧ i.head = first := by
  intro i
  have bound := first.toNat_lt
  have high : countOf first = first.toNat / 0x10000 := by
    simp [countOf, Nat.shiftRight_eq_div_pow]
  have low : i.opcode.toNat = first.toNat % 0x10000 := UInt32.toNat_toUInt16 first
  have size : i.size = first.toNat / 0x10000 := by
    rw [← high, count]
    exact Nat.add_comm 1 _
  have fits : i.Fits := by
    rw [Fits, size]
    omega
  refine ⟨fits, ?_⟩
  rw [← UInt32.toNat_inj, toNat_head fits, low, size]
  omega

theorem takeOnto_reads (done : List Instruction) (words : List UInt32) :
    ∃ is rest, takeOnto done words = (done.reverse ++ is, rest) ∧
      words = encodeAll is ++ rest ∧ (∀ i ∈ is, i.Fits) ∧ Stuck rest := by
  -- Induction along the walk: what it has taken was written in front of what it has left.
  fun_induction takeOnto done words with
  | case1 done => exact ⟨[], [], by rw [List.append_nil], rfl, List.forall_mem_nil _, .ended⟩
  | case2 done first rest wanted operands stuck =>
    refine ⟨[], first :: rest, by rw [List.append_nil], rfl, List.forall_mem_nil _, ?_⟩
    rcases stuck with none | short
    · exact .uncounted none
    · refine .short ?_
      rw [List.length_take] at short
      omega
  | case3 done first rest wanted operands whole walk =>
    obtain ⟨is, left, taken, written, fit, stuck⟩ := walk
    have count : countOf first = operands.length + 1 := by
      have length : operands.length = min wanted rest.length := List.length_take
      omega
    obtain ⟨fits, head⟩ := head_of_count count
    refine ⟨⟨opcodeOf first, operands⟩ :: is, left, ?_, ?_, List.forall_mem_cons.mpr ⟨fits, fit⟩, stuck⟩
    · rw [taken, List.reverse_cons, List.append_assoc]
      rfl
    · have all : encodeAll (⟨opcodeOf first, operands⟩ :: is) ++ left =
          first :: (operands ++ (encodeAll is ++ left)) := by
        rw [encodeAll, List.flatMap_cons, encode_eq, head, List.append_assoc]
        rfl
      rw [all, ← written, List.take_append_drop]

theorem split_eq_iff {is : List Instruction} : split words = (is, rest) ↔
    words.drop 5 = encodeAll is ++ rest ∧ (∀ i ∈ is, i.Fits) ∧ Stuck rest := by
  rw [split]
  constructor
  · intro walked
    obtain ⟨is', rest', taken, reads⟩ := takeOnto_reads [] (words.drop 5)
    cases taken.symm.trans walked
    exact reads
  · rintro ⟨written, fit, stuck⟩
    rw [written, takeOnto_encodeAll fit, takeOnto_stuck stuck, List.append_nil, List.reverse_reverse]

theorem split_reads (words : List UInt32) : ∃ stop, Reads words (ofWords words) stop ∧
    (split words).2 = words.drop stop := by
  obtain ⟨written, fit, stuck⟩ := split_eq_iff.mp (show split words = (ofWords words, _) from rfl)
  obtain ⟨stop, passes, left⟩ := passes_encodeAll fit written stuck
  rw [← left] at written stuck
  exact ⟨stop, ⟨passes, written, fit, stuck⟩, left.symm⟩

end Walk

-- Instructions that are written behind a header are read again, whatever malformed words follow
-- them; and the words of any module, however short, are read without leaving them, up to a place
-- where no instruction begins.
theorem walk_undoes_encoding :
    (∀ (header : List UInt32) (is : List Instruction) (rest : List UInt32), header.length = 5 →
      (∀ i ∈ is, i.operands.length ≤ 65534) → Stuck rest →
        ofWords (header ++ encodeAll is ++ rest) = is) ∧
    ∀ words : List UInt32, (∀ position, look? words position ≠ none) ∧
      ∃ stop, Reads words (ofWords words) stop := by
  refine ⟨?_, fun words => ⟨look_inRange words, ?_⟩⟩
  · intro header is rest five few stuck
    have fit : ∀ i ∈ is, i.Fits := by
      intro i member
      have operands := few i member
      rw [Fits, size]
      omega
    have walked : split (header ++ encodeAll is ++ rest) = (is, rest) := by
      refine split_eq_iff.mpr ⟨?_, fit, stuck⟩
      rw [List.append_assoc, List.drop_left' five]
    rw [ofWords, walked]
  · obtain ⟨stop, reads, _⟩ := split_reads words
    exact ⟨stop, reads⟩

theorem walk_undoes_encoding_short :
    let is : List Instruction := [⟨3, [2, 450, 1, 0]⟩, ⟨0xFFFF, []⟩]
    let words := [0x07230203, 0x10000, 0, 1, 0] ++ encodeAll is ++ [0x40011, 7]
    ofWords words = is ∧ ∃ stop, Reads words is stop := by
  intro is words
  have walked : ofWords words = is :=
    walk_undoes_encoding.1 _ is _ rfl (by decide) (.short (by decide))
  obtain ⟨_, stop, reads⟩ := walk_undoes_encoding.2 words
  rw [walked] at reads
  exact ⟨walked, stop, reads⟩

end ShaderConversion.Spirv.Instruction
