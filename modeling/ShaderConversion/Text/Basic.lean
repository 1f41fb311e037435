namespace ShaderConversion

theorem bne_of_not_mem {α : Type} [BEq α] [LawfulBEq α] {mark : α} {s : List α}
    (absent : mark ∉ s) : ∀ c ∈ s, (c != mark) = true := by
  intro c member
  rw [bne_iff_ne]
  rintro rfl
  exact absent member

-- Text that the library reads (sources, names, version strings) is a list of
-- characters, so that every reader can recurse on it. What the library says
-- about it (messages, reports) is a `String`.
abbrev Text := List Char

namespace Text

def isBlank (c : Char) : Bool :=
  let n := c.toNat
  (0x09 ≤ n && n ≤ 0x0D) || n == 0x20 || n == 0x85 || n == 0xA0 || n == 0x1680 ||
    (0x2000 ≤ n && n ≤ 0x200A) || n == 0x2028 || n == 0x2029 || n == 0x202F || n == 0x205F ||
    n == 0x3000

-- The five blanks of ASCII text; the vertical tab is not one of them.
def isAsciiBlank (c : Char) : Bool :=
  c == ' ' || c == '\t' || c == '\n' || c == '\x0c' || c == '\r'

def trimStart (s : Text) : Text := s.dropWhile isBlank

theorem trimStart_eq {s rest : Text} (plain : ∀ c, rest.head? = some c → isBlank c = false) :
    trimStart s = rest ↔ ∃ blanks, (∀ c ∈ blanks, isBlank c = true) ∧ s = blanks ++ rest := by
  unfold trimStart
  constructor
  · rintro rfl
    exact ⟨s.takeWhile isBlank, List.all_eq_true.mp List.all_takeWhile, List.takeWhile_append_dropWhile.symm⟩
  · rintro ⟨blanks, blank, rfl⟩
    rw [List.dropWhile_append_of_pos blank]
    cases rest with
    | nil => rfl
    | cons c rest => exact List.dropWhile_cons_of_neg (by simp [plain c rfl])

def trimEnd (s : Text) : Text := (s.reverse.dropWhile isBlank).reverse

theorem trimEnd_plain {s : Text} {c : Char} (last : (trimEnd s).getLast? = some c) : isBlank c = false := by
  have first := List.head?_dropWhile_not isBlank s.reverse
  rw [trimEnd, List.getLast?_reverse] at last
  rw [last] at first
  exact first

theorem trimEnd_append (s : Text) : ∃ blanks, (∀ c ∈ blanks, isBlank c = true) ∧ s = trimEnd s ++ blanks := by
  refine ⟨(s.reverse.takeWhile isBlank).reverse, fun c member => ?_, ?_⟩
  · exact List.all_eq_true.mp List.all_takeWhile c (List.mem_reverse.mp member)
  · rw [trimEnd, ← List.reverse_append, List.takeWhile_append_dropWhile, List.reverse_reverse]

def words (s : Text) : List Text := (s.splitOnP isBlank).filter fun word => !word.isEmpty

theorem words_append_blank {c : Char} (blank : isBlank c = true) (before rest : Text) :
    words (before ++ c :: rest) = words before ++ words rest := by
  rw [words, List.splitOnP_append_cons before rest blank, List.filter_append]
  rfl

theorem words_word {word : Text} (some : word ≠ []) (plain : ∀ c ∈ word, isBlank c = false) :
    words word = [word] := by
  rw [words, List.splitOnP_eq_singleton plain]
  simp [some]

def cutAt (mark : Char) (s : Text) : Option (Text × Text) :=
  match s.dropWhile (· != mark) with
  | [] => none
  | _ :: rest => some (s.takeWhile (· != mark), rest)

theorem cutAt_append {mark : Char} {before : Text} (absent : mark ∉ before) (after : Text) :
    cutAt mark (before ++ mark :: after) = some (before, after) := by
  have inside := bne_of_not_mem absent
  rw [cutAt, List.takeWhile_append_of_pos inside, List.dropWhile_append_of_pos inside]
  simp

theorem cutAt_none {mark : Char} {s : Text} (absent : mark ∉ s) : cutAt mark s = none := by
  have gone : (s ++ []).dropWhile (· != mark) = [] :=
    List.dropWhile_append_of_pos (bne_of_not_mem absent)
  rw [List.append_nil] at gone
  rw [cutAt, gone]

theorem cutAt_some {mark : Char} {s before after : Text} :
    cutAt mark s = some (before, after) ↔ mark ∉ before ∧ s = before ++ mark :: after := by
  constructor
  · intro cut
    by_cases present : mark ∈ s
    · obtain ⟨front, back, rfl, absent⟩ := List.eq_append_cons_of_mem present
      cases (cutAt_append absent back).symm.trans cut
      exact ⟨absent, rfl⟩
    · cases (cutAt_none present).symm.trans cut
  · rintro ⟨absent, rfl⟩
    exact cutAt_append absent after

def dropTail (tail s : Text) : Text :=
  if tail.isSuffixOf s then s.take (s.length - tail.length) else s

def compare : Text → Text → Ordering
  | [], [] => .eq
  | [], _ :: _ => .lt
  | _ :: _, [] => .gt
  | a :: s, b :: t => (Ord.compare a.toNat b.toNat).then (compare s t)

end Text

end ShaderConversion
