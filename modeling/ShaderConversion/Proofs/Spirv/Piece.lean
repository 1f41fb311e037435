import ShaderConversion.Proofs.Except
import ShaderConversion.Proofs.Spirv.Literal
import ShaderConversion.Proofs.Text.Boundary

namespace ShaderConversion.Spirv

open Utf8

def stepBack (s : Text) : Nat → Nat
  | 0 => 0
  | n + 1 => if IsBoundary s (n + 1) then n + 1 else stepBack s n

inductive Drawn where
  | ended
  | piece (piece rest : Text)

def draw? (room : Nat) (rest : Text) : Option Drawn :=
  if rest.isEmpty then some .ended
  else (splitAt? (stepBack rest (min (size rest) room)) rest).map fun (piece, rest) => .piece piece rest

inductive Draws (room : Nat) : Text → List Text → Prop where
  | ended {rest : Text} (last : draw? room rest = some .ended) : Draws room rest []
  | piece {rest piece behind : Text} {cuts : List Text} (drawn : draw? room rest = some (.piece piece behind))
      (shorter : size behind < size rest) (more : Draws room behind cuts) : Draws room rest (piece :: cuts)

section Draw

variable {room : Nat} {s : Text} {cuts : List Text}

theorem stepBack_eq {n m : Nat} (boundary : IsBoundary s m) (within : m ≤ n)
    (last : ∀ k, m < k → k ≤ n → ¬ IsBoundary s k) : stepBack s n = m := by
  induction n with
  | zero => simp [stepBack, Nat.le_zero.mp within]
  | succ n ih =>
    rw [stepBack]
    rcases Nat.lt_or_eq_of_le within with earlier | rfl
    · rw [if_neg (last (n + 1) earlier (Nat.le_refl _)), ih (Nat.le_of_lt_succ earlier)]
      intro k after upTo
      exact last k after (Nat.le_succ_of_le upTo)
    · rw [if_pos boundary]

theorem boundary_behind {front rest : Text} {k : Nat} (boundary : IsBoundary (front ++ rest) k)
    (behind : size front < k) : ∃ c more, rest = c :: more ∧ size front + c.utf8Size ≤ k := by
  obtain ⟨front', back, whole, rfl⟩ := boundary
  rcases List.append_eq_append_iff.mp whole with ⟨between, rfl, rfl⟩ | ⟨between, rfl, rfl⟩
  · cases between with
    | nil => simp at behind
    | cons c between => exact ⟨c, between ++ back, rfl, by simp⟩
  · rw [size_append] at behind
    omega

theorem draw_cut {piece rest : Text} (nonempty : piece ≠ []) (within : size piece ≤ room)
    (full : ∀ d, rest.head? = some d → room < size piece + d.utf8Size) :
    draw? room (piece ++ rest) = some (.piece piece rest) := by
  have stop : stepBack (piece ++ rest) (min (size (piece ++ rest)) room) = size piece := by
    apply stepBack_eq (isBoundary_append piece rest)
    · rw [size_append]
      omega
    · intro k behind upTo boundary
      obtain ⟨c, more, rfl, fits⟩ := boundary_behind boundary behind
      have past := full c rfl
      omega
  have more : ¬ (piece ++ rest).isEmpty = true := by simp [nonempty]
  rw [draw?, if_neg more, stop, splitAt_append]
  rfl

theorem Draws.unique {cuts' : List Text} (draws : Draws room s cuts) (draws' : Draws room s cuts') :
    cuts = cuts' := by
  induction draws generalizing cuts' with
  | ended last =>
    cases draws' with
    | ended => rfl
    | piece drawn => cases last.symm.trans drawn
  | piece drawn _ _ ih =>
    cases draws' with
    | ended last => cases last.symm.trans drawn
    | piece drawn' _ more' =>
      cases drawn.symm.trans drawn'
      rw [ih more']

theorem Cut.draws (wide : 4 ≤ room) (cut : Cut room s cuts) : Draws room s cuts := by
  induction cut with
  | done => exact .ended rfl
  | @piece c more rest others within full _ ih =>
    have fits : c.utf8Size ≤ room := Nat.le_trans c.utf8Size_le_four wide
    refine .piece (draw_cut (List.cons_ne_nil c more) ?_ ?_) ?_ ih
    · rw [size_cons]
      omega
    · intro d next
      have past := full d next
      rw [size_cons]
      omega
    · have positive := c.utf8Size_pos
      simp
      omega

theorem Cut.nonempty (cut : Cut room s cuts) : ∀ piece ∈ cuts, piece ≠ [] := by
  induction cut with
  | done => simp
  | piece _ _ _ ih => simpa using ih

theorem Cut.head {first : Text} (cut : Cut room s (first :: cuts)) : ∃ c, s.head? = some c := by
  cases cut
  exact ⟨_, rfl⟩

theorem Cut.long (cut : Cut room s cuts) :
    ∀ piece ∈ cuts.dropLast, room < Utf8.size piece + 4 := by
  induction cut with
  | done => simp
  | @piece c more rest others within full cut ih =>
    cases others with
    | nil => simp
    | cons next others =>
      intro piece member
      rcases List.mem_cons.mp member with rfl | member
      · obtain ⟨d, head⟩ := cut.head
        have past := full d head
        have small := d.utf8Size_le_four
        rw [size_cons]
        omega
      · exact ih piece member

end Draw

-- The draws end, and what they yield are the pieces.
theorem pieces_drawn {room : Nat} (wide : 4 ≤ room) (s : Text) :
    (∀ cuts, Draws room s cuts ↔ cuts = pieces room s) ∧
    (pieces room s).flatten = s ∧
    (∀ piece ∈ pieces room s, piece ≠ [] ∧ (encode piece).length ≤ room) ∧
    (∀ piece ∈ (pieces room s).dropLast, room - 4 < (encode piece).length) ∧
    (∀ front back, pieces room s = front ++ back → IsBoundary s (encode front.flatten).length) ∧
    (pieces room s = [] ↔ s = []) := by
  have cut := cut_pieces room s
  refine ⟨fun cuts => ⟨fun draws => draws.unique (cut.draws wide), ?_⟩, cut.flatten, ?_, ?_, ?_, ?_⟩
  · intro same
    rw [same]
    exact cut.draws wide
  · intro piece member
    rw [length_encode]
    exact ⟨cut.nonempty piece member, cut.size wide piece member⟩
  · intro piece member
    have long := cut.long piece member
    rw [length_encode]
    omega
  · intro front back parts
    have whole := cut.flatten
    rw [parts, List.flatten_append] at whole
    rw [length_encode, ← whole]
    exact isBoundary_append _ _
  · constructor
    · intro none
      rw [← cut.flatten, none]
      rfl
    · intro none
      rw [none, pieces]

theorem pieces_drawn_wide :
    let s := "aé€b😀".toList
    4 ≤ 5 ∧ Draws 5 s ["aé".toList, "€b".toList, "😀".toList] ∧
      ∀ piece ∈ (pieces 5 s).dropLast, 5 - 4 < (encode piece).length := by
  intro s
  have wide : 4 ≤ 5 := by decide
  have law := pieces_drawn wide s
  have cuts : pieces 5 s = ["aé".toList, "€b".toList, "😀".toList] := by
    simp [s, pieces, takePiece, Char.utf8Size]
  exact ⟨wide, (law.1 _).mpr cuts.symm, law.2.2.2.1⟩

end ShaderConversion.Spirv
