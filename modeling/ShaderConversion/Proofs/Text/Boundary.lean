import ShaderConversion.Proofs.Text.Utf8

namespace ShaderConversion.Utf8

-- A place between the bytes of a text that lies in no character.
def IsBoundary (s : Text) (n : Nat) : Prop := ∃ front back, s = front ++ back ∧ size front = n

def splitAt? : Nat → Text → Option (Text × Text)
  | n, [] => if n = 0 then some ([], []) else none
  | n, c :: s =>
    if n = 0 then some ([], c :: s)
    else if c.utf8Size ≤ n then
      (splitAt? (n - c.utf8Size) s).map fun (front, back) => (c :: front, back)
    else none

def slice? (s : Text) (start stop : Nat) : Option Text := do
  let (front, _) ← splitAt? stop s
  let (_, middle) ← splitAt? start front
  return middle

def offset? (mark : Text) : Text → Option Nat
  | [] => if mark.isEmpty then some 0 else none
  | c :: s => if mark.isPrefixOf (c :: s) then some 0 else (offset? mark s).map (c.utf8Size + ·)

section Size

@[simp] theorem size_nil : size [] = 0 := rfl

@[simp] theorem size_cons (c : Char) (s : Text) : size (c :: s) = c.utf8Size + size s := rfl

@[simp] theorem size_append (s t : Text) : size (s ++ t) = size s + size t := by
  induction s with
  | nil => simp
  | cons c s ih => simp [ih, Nat.add_assoc]

theorem size_pos {c : Char} {s : Text} : 0 < size (c :: s) := Nat.lt_add_right _ c.utf8Size_pos

end Size

section Split

variable {s front back middle : Text} {n start stop : Nat}

theorem splitAt_append (front back : Text) : splitAt? (size front) (front ++ back) = some (front, back) := by
  induction front with
  | nil => cases back <;> simp [splitAt?]
  | cons c front ih =>
    have some : ¬ size (c :: front) = 0 := Nat.ne_of_gt size_pos
    rw [List.cons_append, splitAt?, if_neg some, size_cons, if_pos (Nat.le_add_right _ _),
      Nat.add_sub_cancel_left, ih]
    rfl

theorem splitAt_iff : splitAt? n s = some (front, back) ↔ s = front ++ back ∧ size front = n := by
  constructor
  · intro cut
    fun_induction splitAt? n s generalizing front back with
    | case1 => cases cut; simp
    | case2 => cases cut
    | case3 c s => cases cut; simp
    | case4 n c s zero fits ih =>
      obtain ⟨⟨first, rest⟩, cut, same⟩ := Option.map_eq_some_iff.mp cut
      cases same
      obtain ⟨rfl, size⟩ := ih cut
      simp [size, Nat.add_sub_cancel' fits]
    | case5 => cases cut
  · intro ⟨whole, size⟩
    rw [whole, ← size, splitAt_append]

theorem isSome_splitAt : (splitAt? n s).isSome = true ↔ IsBoundary s n := by
  simp only [Option.isSome_iff_exists, Prod.exists, splitAt_iff, IsBoundary]

instance : Decidable (IsBoundary s n) := decidable_of_iff _ isSome_splitAt

theorem isBoundary_append (front back : Text) : IsBoundary (front ++ back) (size front) :=
  ⟨front, back, rfl, rfl⟩

theorem IsBoundary.le (boundary : IsBoundary s n) : n ≤ size s := by
  obtain ⟨front, back, rfl, rfl⟩ := boundary
  simp

theorem slice_append (front middle back : Text) :
    slice? (front ++ (middle ++ back)) (size front) (size front + size middle) = some middle := by
  have outer := splitAt_append (front ++ middle) back
  rw [List.append_assoc, size_append] at outer
  simp [slice?, outer, splitAt_append]

theorem slice_behind (front rest : Text) :
    slice? (front ++ rest) (size front) (size (front ++ rest)) = some rest := by
  have behind := slice_append front rest []
  rwa [List.append_nil, ← size_append] at behind

theorem slice_iff : slice? s start stop = some middle ↔
    ∃ front back, s = front ++ (middle ++ back) ∧ size front = start ∧ size front + size middle = stop := by
  constructor
  · intro cut
    obtain ⟨⟨first, back⟩, outer, cut⟩ := Option.bind_eq_some_iff.mp cut
    obtain ⟨⟨front, rest⟩, inner, same⟩ := Option.bind_eq_some_iff.mp cut
    cases same
    obtain ⟨rfl, last⟩ := splitAt_iff.mp outer
    obtain ⟨rfl, first⟩ := splitAt_iff.mp inner
    exact ⟨front, back, List.append_assoc _ _ _, first, by rw [← last, size_append]⟩
  · intro ⟨front, back, whole, first, last⟩
    rw [whole, ← first, ← last, slice_append]

end Split

section Ascii

variable {a : Char}

theorem head_encode (ascii : a.toNat < 0x80) (s : Text) :
    (encode s).head? = some a.toUInt8 ↔ s.head? = some a := by
  cases s with
  | nil => simp [encode]
  | cons c s =>
    have whole : encode (c :: s) = String.utf8EncodeChar c ++ encode s := rfl
    rw [whole]
    constructor
    · intro head
      cases bytes : String.utf8EncodeChar c with
      | nil =>
        have size := String.length_utf8EncodeChar c
        rw [bytes] at size
        exact absurd size (Nat.ne_of_lt c.utf8Size_pos)
      | cons b more =>
        rw [bytes] at head
        have first : b = a.toUInt8 := Option.some.inj head
        rw [ascii_mem_bytes ascii (show a.toUInt8 ∈ String.utf8EncodeChar c by simp [bytes, first])]
        rfl
    · intro head
      cases Option.some.inj head
      rw [bytes_ascii ascii]
      rfl

theorem mem_encode (ascii : a.toNat < 0x80) {s : Text} : a.toUInt8 ∈ encode s ↔ a ∈ s := by
  constructor
  · intro member
    obtain ⟨c, inside, member⟩ := List.mem_flatMap.mp member
    rwa [← ascii_mem_bytes ascii member]
  · intro member
    refine List.mem_flatMap.mpr ⟨a, member, ?_⟩
    simp [bytes_ascii ascii]

end Ascii

section Offset

variable {mark : Text}

theorem offset_none {s : Text} : offset? mark s = none ↔ ¬ mark <:+: s := by
  induction s with
  | nil => cases mark <;> simp [offset?]
  | cons c s ih =>
    rw [offset?, List.infix_cons_iff]
    split
    · rename_i starts
      simp [List.isPrefixOf_iff_prefix.mp starts]
    · rename_i later
      rw [List.isPrefixOf_iff_prefix] at later
      simp [later, ih]

theorem offset_append {front : Text} (nonempty : mark ≠ []) (first : ¬ mark <:+: front ++ mark.dropLast)
    (back : Text) : offset? mark (front ++ (mark ++ back)) = some (size front) := by
  induction front with
  | nil =>
    obtain ⟨c, more, rfl⟩ := List.exists_cons_of_ne_nil nonempty
    simp [offset?]
  | cons c front ih =>
    rw [List.cons_append, List.infix_cons_iff, not_or] at first
    have later : ¬ mark.isPrefixOf (c :: (front ++ (mark ++ back))) = true := by
      intro starts
      have positive := List.length_pos_iff.mpr nonempty
      have early : c :: (front ++ mark.dropLast) <+: c :: (front ++ (mark ++ back)) := by
        have cut := (List.dropLast_prefix mark).trans (List.prefix_append mark back)
        simpa using cut
      refine first.1 (List.prefix_of_prefix_length_le (List.isPrefixOf_iff_prefix.mp starts) early ?_)
      simp
      omega
    rw [List.cons_append, offset?, if_neg later, ih first.2]
    rfl

end Offset

end ShaderConversion.Utf8
