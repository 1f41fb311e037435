import ShaderConversion.Text.Basic

namespace ShaderConversion.Shader

abbrev Placed := Char × Nat

def unifyLineEndsOnto (done : Text) : Text → Text
  | [] => done.reverse
  | '\r' :: '\n' :: rest => unifyLineEndsOnto ('\n' :: done) rest
  | '\n' :: '\r' :: rest => unifyLineEndsOnto ('\n' :: done) rest
  | '\r' :: rest => unifyLineEndsOnto ('\n' :: done) rest
  | c :: rest => unifyLineEndsOnto (c :: done) rest

def joinLinesOnto (done : List Placed) (line : Nat) : Text → List Placed
  | [] => done.reverse
  | '\\' :: '\n' :: rest => joinLinesOnto done (line + 1) rest
  | '\n' :: rest => joinLinesOnto (('\n', line) :: done) (line + 1) rest
  | c :: rest => joinLinesOnto ((c, line) :: done) line rest

inductive CommentState where
  | code
  | line
  | block

-- The source with every comment replaced by a blank, after `done` in reverse. A
-- line comment leaves its line break; a block comment may have no end.
def dropCommentsOnto (done : List Placed) (state : CommentState) (s : List Placed) : List Placed :=
  match state, s with
  | _, [] => done.reverse
  | .code, ('/', _) :: ('/', _) :: rest => dropCommentsOnto done .line rest
  | .code, ('/', n) :: ('*', _) :: rest => dropCommentsOnto ((' ', n) :: done) .block rest
  | .code, c :: rest => dropCommentsOnto (c :: done) .code rest
  | .line, ('\n', n) :: rest => dropCommentsOnto (('\n', n) :: done) .code rest
  | .line, _ :: rest => dropCommentsOnto done .line rest
  | .block, ('*', _) :: ('/', _) :: rest => dropCommentsOnto done .code rest
  | .block, _ :: rest => dropCommentsOnto done .block rest

def plainCode (s : Text) : List Placed :=
  dropCommentsOnto [] .code (joinLinesOnto [] 1 (unifyLineEndsOnto [] s))

end ShaderConversion.Shader
