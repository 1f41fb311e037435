import ShaderConversion.Spirv.Word
import ShaderConversion.Text.Utf8

namespace ShaderConversion.Spirv

def packText (s : Text) : List UInt32 :=
  let bytes := Utf8.encode s
  wordsOfBytes (bytes ++ List.replicate (4 - bytes.length % 4) 0)

def unpackText (words : List UInt32) : Text :=
  Utf8.decode ((bytesOfWords words).takeWhile (· != 0))

def takePiece (room : Nat) (taken : Text) : Text → Text × Text
  | [] => (taken.reverse, [])
  | c :: rest =>
    if c.utf8Size ≤ room then takePiece (room - c.utf8Size) (c :: taken) rest
    else (taken.reverse, c :: rest)

theorem length_takePiece (room : Nat) (taken s : Text) : (takePiece room taken s).2.length ≤ s.length := by
  fun_induction takePiece room taken s with
  | case1 => simp
  | case2 room taken c rest _ ih => exact Nat.le_succ_of_le ih
  | case3 => simp

-- Cuts a text into pieces of at most `room` bytes between characters. A character
-- that does not fit on its own makes a piece.
def pieces (room : Nat) (s : Text) : List Text :=
  match s with
  | [] => []
  | c :: rest =>
    let cut := takePiece (room - c.utf8Size) [c] rest
    cut.1 :: pieces room cut.2
termination_by s.length
decreasing_by exact Nat.lt_succ_of_le (length_takePiece (room - c.utf8Size) [c] rest)

end ShaderConversion.Spirv
