import ShaderConversion.Glsl.Version
import ShaderConversion.Text.Utf8

namespace ShaderConversion.Glsl

-- A source cut at its `#version` line. `before` holds blanks and comments, `line`
-- runs from the `#` to the end of the line, without the line break.
structure Directive where
  before : Text
  line : Text
  after : Text
  version? : Option Version
  deriving DecidableEq, Repr

def isLeading (c : Char) : Bool := c == ' ' || c == '\t' || c == '\r' || c == '\n'

def closeComment (passed : Text) : Text → Option (Text × Text)
  | '*' :: '/' :: rest => some ('/' :: '*' :: passed, rest)
  | c :: rest => closeComment (c :: passed) rest
  | [] => none

theorem closeComment_shorter {passed s : Text} {result : Text × Text}
    (closed : closeComment passed s = some result) : result.2.length < s.length := by
  fun_induction closeComment passed s with
  | case1 passed rest =>
    cases closed
    simp only [List.length_cons]
    omega
  | case2 passed c rest _ ih =>
    have := ih closed
    simp only [List.length_cons]
    omega
  | case3 => cases closed

def cutLine (s : Text) : Text × Text := (s.takeWhile (· != '\n'), s.dropWhile (· != '\n'))

theorem cutLine_fst_append_snd (s : Text) : (cutLine s).1 ++ (cutLine s).2 = s := by
  simp [cutLine]

-- Passes blanks and comments. The result is what was passed, in reverse, and the
-- text from the first `#` on; nothing if something else comes first.
def reachHash (passed : Text) : Text → Option (Text × Text)
  | [] => none
  | '/' :: '/' :: rest =>
    reachHash ((cutLine rest).1.reverse ++ '/' :: '/' :: passed) (cutLine rest).2
  | '/' :: '*' :: rest =>
    match _closed : closeComment ('*' :: '/' :: passed) rest with
    | none => none
    | some (passed, rest) => reachHash passed rest
  | c :: rest =>
    if isLeading c then reachHash (c :: passed) rest
    else if c = '#' then some (passed, '#' :: rest)
    else none
termination_by s => s.length
decreasing_by
  · have := congrArg List.length (cutLine_fst_append_snd rest)
    simp only [List.length_append, List.length_cons] at *
    omega
  · have := closeComment_shorter _closed
    simp only [List.length_cons] at *
    omega
  · simp

def dropReturn (line : Text) : Text := if line.getLast? = some '\r' then line.dropLast else line

def lineBody? (line : Text) : Option Text := do
  let body ← "version".toList.isPrefixOf? (Text.trimStart (line.drop 1))
  let first ← body.head?
  if Text.isAsciiBlank first then some body else none

namespace Directive

def find? (source : Text) : Option Directive := do
  let (passed, rest) ← reachHash [] source
  let line := dropReturn (cutLine rest).1
  let body ← lineBody? line
  return ⟨passed.reverse, line, rest.drop line.length, Version.ofDirective? body⟩

def start (d : Directive) : Nat := Utf8.size d.before

def stop (d : Directive) : Nat := d.start + Utf8.size d.line

def content (d : Directive) : Text := Text.trimStart (d.line.drop 1)

def lineFor (v : Version) : Text := "#version ".toList ++ v.text

end Directive

-- Makes the source declare `v`. A directive is replaced in its place; without one
-- a line is put in front, and the lines of the source keep their numbers.
def withVersion (source : Text) (directive? : Option Directive) (v : Version) : Text :=
  match directive? with
  | some d => d.before ++ Directive.lineFor v ++ d.after
  | none => Directive.lineFor v ++ "\n#line 1\n".toList ++ source

end ShaderConversion.Glsl
