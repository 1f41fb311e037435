import ShaderConversion.Proofs.Spirv.Word
import ShaderConversion.Proofs.Text.Utf8
import ShaderConversion.Spirv.Literal

namespace ShaderConversion.Spirv

def untilNull (s : Text) : Text := s.takeWhile (· != '\x00')

theorem null_not_mem_untilNull (s : Text) : '\x00' ∉ untilNull s := by
  intro null
  have other := List.all_eq_true.mp List.all_takeWhile '\x00' null
  cases other

theorem untilNull_of_not_mem {s : Text} (absent : '\x00' ∉ s) : untilNull s = s := by
  rw [untilNull, ← List.append_nil s, List.takeWhile_append_of_pos (bne_of_not_mem absent),
    List.takeWhile_nil]

theorem bytes_packText (s : Text) : bytesOfWords (packText s) =
    Utf8.encode s ++ List.replicate (4 - (Utf8.encode s).length % 4) 0 := by
  refine bytesOfWords_wordsOfBytes ?_
  rw [List.length_append, List.length_replicate]
  omega

theorem length_packText (s : Text) : (packText s).length = Utf8.size s / 4 + 1 := by
  have bytes := congrArg List.length (bytes_packText s)
  rw [length_bytesOfWords, List.length_append, List.length_replicate, Utf8.length_encode] at bytes
  omega

theorem bytesOfWords_append (words more : List UInt32) :
    bytesOfWords (words ++ more) = bytesOfWords words ++ bytesOfWords more := List.flatMap_append

theorem takeWhile_zero (bytes more : List UInt8) :
    (bytes ++ 0 :: more).takeWhile (· != 0) = bytes.takeWhile (· != 0) := by
  induction bytes with
  | nil => simp
  | cons b bytes cut => simp [List.takeWhile_cons, cut]

-- There is at least one zero byte behind a text, so that no word after it is read.
theorem unpackText_append (s : Text) (more : List UInt32) : unpackText (packText s ++ more) = untilNull s := by
  obtain ⟨zeros, fill⟩ : ∃ zeros, 4 - (Utf8.encode s).length % 4 = zeros + 1 :=
    ⟨3 - (Utf8.encode s).length % 4, by omega⟩
  have cut : (Utf8.encode s).takeWhile (· != 0) = Utf8.encode (untilNull s) :=
    Utf8.takeWhile_encode (show '\x00'.toNat < 0x80 by decide) s
  rw [unpackText, bytesOfWords_append, bytes_packText, fill, List.replicate_succ, List.append_assoc,
    List.cons_append, takeWhile_zero, cut, Utf8.decode_encode]

theorem unpackText_packText (s : Text) : unpackText (packText s) = untilNull s := by
  rw [← List.append_nil (packText s), unpackText_append]

theorem packText_injective {s t : Text} (absent : '\x00' ∉ s) (absent' : '\x00' ∉ t)
    (same : packText s = packText t) : s = t := by
  rw [← untilNull_of_not_mem absent, ← untilNull_of_not_mem absent', ← unpackText_packText,
    ← unpackText_packText, same]

-- A text is packed into as many words as hold its bytes and one zero byte, the rest of the last
-- word is zero too, and it is read again up to its first null character, whatever words follow.
theorem literal_strings (s : Text) :
    (packText s).length = (Utf8.encode s).length / 4 + 1 ∧
    (∃ zeros, 1 ≤ zeros ∧ zeros ≤ 4 ∧
      bytesOfWords (packText s) = Utf8.encode s ++ List.replicate zeros 0) ∧
    (∀ more, unpackText (packText s ++ more) = s.takeWhile (· != '\x00')) ∧
    ('\x00' ∉ s → (∀ more, unpackText (packText s ++ more) = s) ∧
      ∀ t, '\x00' ∉ t → packText s = packText t → s = t) := by
  refine ⟨?_, ⟨_, ?_, ?_, bytes_packText s⟩, unpackText_append s, ?_⟩
  · rw [length_packText, Utf8.length_encode]
  · omega
  · omega
  · intro absent
    refine ⟨fun more => ?_, fun t absent' same => packText_injective absent absent' same⟩
    rw [unpackText_append, untilNull_of_not_mem absent]

theorem literal_strings_full :
    let s := "a€".toList
    let t := ['a', Char.ofNat 0x20AC]
    '\x00' ∉ s ∧ '\x00' ∉ t ∧ packText s = [0xAC82E261, 0] ∧ packText s = packText t ∧
      unpackText (packText s ++ [0x62, 0]) = s ∧ s = t := by
  intro s t
  have absent : '\x00' ∉ s := by decide
  have absent' : '\x00' ∉ t := by decide
  have same : packText s = packText t := by decide
  have law := (literal_strings s).2.2.2 absent
  exact ⟨absent, absent', by decide, same, law.1 [0x62, 0], law.2 t absent' same⟩

theorem takePiece_spec (room : Nat) (taken s : Text) :
    ∃ piece rest, takePiece room taken s = (taken.reverse ++ piece, rest) ∧ s = piece ++ rest ∧
      Utf8.size piece ≤ room ∧ ∀ c, rest.head? = some c → room < Utf8.size piece + c.utf8Size := by
  fun_induction takePiece room taken s with
  | case1 room taken => exact ⟨[], [], by simp, rfl, Nat.zero_le _, by simp⟩
  | case2 room taken c rest fits more =>
    obtain ⟨piece, tail, took, rfl, within, full⟩ := more
    have size : Utf8.size (c :: piece) = c.utf8Size + Utf8.size piece := rfl
    refine ⟨c :: piece, tail, by simp [took], rfl, by omega, fun next head => ?_⟩
    have := full next head
    omega
  | case3 room taken c rest wide =>
    refine ⟨[], c :: rest, by simp, rfl, Nat.zero_le _, ?_⟩
    rintro _ ⟨⟩
    have size : Utf8.size [] = 0 := rfl
    omega

-- A text cut into pieces that are as long as there is room. Each has its first character,
-- whether or not there is room for it.
inductive Cut (room : Nat) : Text → List Text → Prop where
  | done : Cut room [] []
  | piece {c : Char} {more rest : Text} {others : List Text}
      (within : Utf8.size more ≤ room - c.utf8Size)
      (full : ∀ d, rest.head? = some d → room - c.utf8Size < Utf8.size more + d.utf8Size)
      (cut : Cut room rest others) : Cut room (c :: more ++ rest) ((c :: more) :: others)

theorem cut_pieces (room : Nat) (s : Text) : Cut room s (pieces room s) := by
  fun_induction pieces room s with
  | case1 => exact .done
  | case2 c s cut others =>
    obtain ⟨more, rest, took, rfl, within, full⟩ := takePiece_spec (room - c.utf8Size) [c] s
    have first : cut = (c :: more, rest) := took
    rw [first] at others ⊢
    exact .piece within full others

theorem Cut.flatten {room : Nat} {s : Text} {cuts : List Text} (cut : Cut room s cuts) :
    cuts.flatten = s := by
  induction cut with
  | done => rfl
  | piece _ _ _ joined => rw [List.flatten_cons, joined]

theorem Cut.size {room : Nat} (wide : 4 ≤ room) {s : Text} {cuts : List Text}
    (cut : Cut room s cuts) : ∀ piece ∈ cuts, Utf8.size piece ≤ room := by
  induction cut with
  | done => exact nofun
  | @piece c more rest others within _ _ small =>
    intro piece member
    rcases List.mem_cons.mp member with rfl | member
    · have fits : c.utf8Size ≤ room := Nat.le_trans c.utf8Size_le_four wide
      have size : Utf8.size (c :: more) = c.utf8Size + Utf8.size more := rfl
      omega
    · exact small piece member

end ShaderConversion.Spirv
