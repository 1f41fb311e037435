import Mathlib.Data.List.Infix
import ShaderConversion.Proofs.Glsl.Grammar
import ShaderConversion.Proofs.Text.Boundary

namespace ShaderConversion.Glsl

open Utf8

structure Span where
  start : Nat
  stop : Nat
  version? : Option Version

def Directive.span (d : Directive) : Span := ⟨d.start, d.stop, d.version?⟩

namespace Scan

inductive Found where
  | last (span? : Option Span)
  | onward (next : Nat)

def standsAt (source : Text) (c : Char) (i : Nat) : Bool := (encode source)[i]? == some c.toUInt8

def lineStop (bytes : List UInt8) (i : Nat) : Nat :=
  if i < bytes.length ∧ bytes[i]? ≠ some '\n'.toUInt8 then lineStop bytes (i + 1) else i
termination_by bytes.length - i

-- The line that begins with a hash at a place. There is no answer if a part to be cut out of the
-- source leaves it or cuts a character.
def lookAtLine? (source : Text) (start : Nat) : Option Found := do
  let behind ← slice? source start (size source)
  let feed := ((offset? ['\n'] behind).map (start + ·)).getD (size source)
  let front ← slice? source 0 feed
  let stop := if front.getLast? = some '\r' then feed - 1 else feed
  let line ← slice? source (start + 1) stop
  return .last ((lineBody? ('#' :: line)).map fun body => ⟨start, stop, Version.ofDirective? body⟩)

def look? (source : Text) (i : Nat) : Option Found :=
  if [' ', '\t', '\r', '\n'].any fun c => standsAt source c i then some (.onward (i + 1))
  else if standsAt source '/' i && standsAt source '/' (i + 1) then
    some (.onward (lineStop (encode source) i))
  else if standsAt source '/' i && standsAt source '*' (i + 1) then do
    let behind ← slice? source (i + 2) (size source)
    return .onward (((offset? "*/".toList behind).map (i + 2 + · + 2)).getD (size source))
  else if standsAt source '#' i then lookAtLine? source i
  else some (.last none)

def lineSpan? (before rest : Text) : Option Span :=
  let line := dropReturn (cutLine rest).1
  (lineBody? line).map fun body => ⟨size before, size (before ++ line), Version.ofDirective? body⟩

-- Looks from place to place, as long as there is one to go on from. It is always a boundary and
-- lies behind the one before.
inductive Passes (source : Text) : Nat → Option Span → Prop where
  | last {i : Nat} {span? : Option Span} (found : look? source i = some (.last span?)) : Passes source i span?
  | onward {i next : Nat} {span? : Option Span} (found : look? source i = some (.onward next))
      (onward : i < next) (boundary : IsBoundary source next) (rest : Passes source next span?) :
      Passes source i span?

section Bytes

variable {a : Char}

theorem stands_here (ascii : a.toNat < 0x80) (front rest : Text) :
    standsAt (front ++ rest) a (size front) = (rest.head? == some a) := by
  rw [Bool.eq_iff_iff, standsAt, beq_iff_eq, beq_iff_eq, ← head_encode ascii, encode_append, ← length_encode,
    List.getElem?_append_right (Nat.le_refl _), Nat.sub_self, List.head?_eq_getElem?]

theorem stands_next (ascii : a.toNat < 0x80) (front rest : Text) :
    standsAt (front ++ '/' :: rest) a (size front + 1) = (rest.head? == some a) := by
  have one : '/'.utf8Size = 1 := rfl
  have behind := stands_here ascii (front ++ ['/']) rest
  simpa [one] using behind

theorem lineStop_eq (bytes : List UInt8) (i : Nat) :
    lineStop bytes i = i + ((bytes.drop i).takeWhile (· != '\n'.toUInt8)).length := by
  fun_induction lineStop bytes i with
  | case1 i inside ih =>
    obtain ⟨within, other⟩ := inside
    rw [List.getElem?_eq_getElem within] at other
    rw [ih, List.drop_eq_getElem_cons within, List.takeWhile_cons_of_pos (by simpa using other)]
    simp
    omega
  | case2 i outside =>
    cases behind : bytes.drop i with
    | nil => simp
    | cons b more =>
      have here : bytes[i]? = some b := by
        rw [← List.head?_drop, behind]
        rfl
      have within : i < bytes.length := (List.getElem?_eq_some_iff.mp here).1
      have feed := Decidable.not_not.mp fun other => outside ⟨within, other⟩
      cases here.symm.trans feed
      simp

theorem lineStop_encode (front rest : Text) :
    lineStop (encode (front ++ rest)) (size front) = size front + size (cutLine rest).1 := by
  have behind : (encode (front ++ rest)).drop (size front) = encode rest := by
    rw [encode_append, ← length_encode, List.drop_left]
  rw [lineStop_eq, behind, takeWhile_encode (show '\n'.toNat < 0x80 by decide), length_encode]
  rfl

end Bytes

section Look

theorem blank_here (front rest : Text) :
    ([' ', '\t', '\r', '\n'].any fun c => standsAt (front ++ rest) c (size front)) =
      rest.head?.any isLeading := by
  have here := fun a ascii => stands_here (a := a) ascii front rest
  cases rest with
  | nil =>
    rw [List.append_nil] at here ⊢
    simp [here]
  | cons c rest => simp [here, isLeading, Bool.or_assoc]

variable (front rest : Text)

theorem look_end : look? front (size front) = some (.last none) := by
  have here := fun a ascii => stands_here (a := a) ascii front []
  rw [List.append_nil] at here
  simp [look?, here]

theorem look_blank {c : Char} (blank : isLeading c = true) :
    look? (front ++ c :: rest) (size front) = some (.onward (size (front ++ [c]))) := by
  have one : c.utf8Size = 1 := by
    simp only [isLeading, Bool.or_eq_true, beq_iff_eq] at blank
    rcases blank with ((rfl | rfl) | rfl) | rfl <;> rfl
  rw [look?, blank_here, List.head?_cons, Option.any_some, if_pos blank]
  simp [one]

theorem look_line : look? (front ++ '/' :: '/' :: rest) (size front) =
    some (.onward (size (front ++ '/' :: '/' :: (cutLine rest).1))) := by
  have here := stands_here (show '/'.toNat < 0x80 by decide) front ('/' :: '/' :: rest)
  have next := stands_next (show '/'.toNat < 0x80 by decide) front ('/' :: rest)
  have cut : (cutLine ('/' :: '/' :: rest)).1 = '/' :: '/' :: (cutLine rest).1 := by simp [cutLine]
  rw [look?, blank_here, here, next, lineStop_encode, cut, ← size_append]
  rfl

theorem look_block : look? (front ++ '/' :: '*' :: rest) (size front) =
    some (.onward (((offset? "*/".toList rest).map (size front + 2 + · + 2)).getD
      (size (front ++ '/' :: '*' :: rest)))) := by
  have here := stands_here (show '/'.toNat < 0x80 by decide) front ('/' :: '*' :: rest)
  have line := stands_next (show '/'.toNat < 0x80 by decide) front ('*' :: rest)
  have block := stands_next (show '*'.toNat < 0x80 by decide) front ('*' :: rest)
  have behind : slice? (front ++ '/' :: '*' :: rest) (size front + 2) (size (front ++ '/' :: '*' :: rest)) =
      some rest := by
    have behind := slice_behind (front ++ ['/', '*']) rest
    rwa [List.append_assoc, size_append front ['/', '*']] at behind
  rw [look?, blank_here, here, line, block, behind]
  rfl

theorem look_closed {body : Text} (unclosed : Unclosed body) :
    look? (front ++ '/' :: '*' :: (body ++ '*' :: '/' :: rest)) (size front) =
      some (.onward (size (front ++ '/' :: '*' :: (body ++ ['*', '/'])))) := by
  have first : offset? "*/".toList (body ++ '*' :: '/' :: rest) = some (size body) :=
    offset_append (by simp) unclosed rest
  have mark : '*'.utf8Size + '/'.utf8Size = 2 := rfl
  rw [look_block, first]
  simp
  omega

theorem look_open {rest : Text} (unclosed : ¬ "*/".toList <:+: rest) :
    look? (front ++ '/' :: '*' :: rest) (size front) = some (.onward (size (front ++ '/' :: '*' :: rest))) := by
  rw [look_block, offset_none.mpr unclosed]
  rfl

theorem feed_eq : ((offset? ['\n'] rest).map (size front + ·)).getD (size (front ++ rest)) =
    size (front ++ (cutLine rest).1) := by
  have within := mt (List.singleton_infix_iff _ _).mp (not_mem_cutLine rest)
  have ends := isBreak_cutLine rest
  have whole := cutLine_fst_append_snd rest
  generalize (cutLine rest).1 = line at *
  generalize (cutLine rest).2 = after at *
  cases ends with
  | stop =>
    rw [List.append_nil] at whole
    rw [← whole, offset_none.mpr within]
    rfl
  | feed after =>
    have first : offset? ['\n'] (line ++ '\n' :: after) = some (size line) :=
      offset_append (by simp) (by simpa using within) after
    rw [← whole, first]
    simp

theorem size_dropReturn (line : Text) : size (front ++ dropReturn line) =
    if line.getLast? = some '\r' then size (front ++ line) - 1 else size (front ++ line) := by
  rw [dropReturn]
  split
  · rename_i last
    have whole := List.dropLast_append_getLast? _ last
    have one : '\r'.utf8Size = 1 := rfl
    have parts := congrArg size whole
    simp at parts
    simp
    omega
  · rfl

theorem dropReturn_hash (line : Text) : dropReturn ('#' :: line) = '#' :: dropReturn line := by
  cases line with
  | nil => decide
  | cons c line =>
    rw [dropReturn, dropReturn, List.getLast?_cons_cons]
    split <;> rfl

theorem cutLine_hash : (cutLine ('#' :: rest)).1 = '#' :: (cutLine rest).1 := by simp [cutLine]

theorem lookAtLine_eq : lookAtLine? (front ++ '#' :: rest) (size front) =
    some (.last (lineSpan? front ('#' :: rest))) := by
  have feed := feed_eq front ('#' :: rest)
  have raw := cutLine_fst_append_snd ('#' :: rest)
  have kept := cut_line ('#' :: rest)
  rw [cutLine_hash] at feed raw
  rw [cutLine_hash, dropReturn_hash] at kept
  generalize (cutLine ('#' :: rest)).2 = after at raw
  generalize ('#' :: rest).drop _ = after' at kept
  have behind := slice_behind front ('#' :: rest)
  have cut : slice? (front ++ '#' :: rest) 0 (size (front ++ '#' :: (cutLine rest).1)) =
      some (front ++ '#' :: (cutLine rest).1) :=
    slice_iff.mpr ⟨[], after, by rw [← raw]; simp, rfl, by simp⟩
  have line : slice? (front ++ '#' :: rest) (size front + 1) (size (front ++ '#' :: dropReturn (cutLine rest).1)) =
      some (dropReturn (cutLine rest).1) :=
    slice_iff.mpr ⟨front ++ ['#'], after', by rw [← kept]; simp, by simp; rfl, by simp [Nat.add_assoc]⟩
  have last : (front ++ '#' :: (cutLine rest).1).getLast? = ('#' :: (cutLine rest).1).getLast? :=
    List.getLast?_append_of_ne_nil _ (by simp)
  simp only [lookAtLine?, Option.bind_eq_bind, behind, Option.bind_some, feed, cut, last, ← size_dropReturn,
    dropReturn_hash, line, lineSpan?, cutLine_hash]
  rfl

theorem look_hash : look? (front ++ '#' :: rest) (size front) = some (.last (lineSpan? front ('#' :: rest))) := by
  have here := fun a ascii => stands_here (a := a) ascii front ('#' :: rest)
  rw [look?, blank_here, lookAtLine_eq]
  simp [here, isLeading_hash]

theorem look_other {c : Char} (line : ∀ tail, c = '/' → rest = '/' :: tail → False)
    (block : ∀ tail, c = '/' → rest = '*' :: tail → False) (visible : ¬ isLeading c = true) (hash : ¬ c = '#') :
    look? (front ++ c :: rest) (size front) = some (.last none) := by
  have here := fun a ascii => stands_here (a := a) ascii front (c :: rest)
  have next := fun a ascii => stands_next (a := a) ascii front rest
  rw [look?, blank_here]
  by_cases slash : c = '/'
  · subst slash
    have line : rest.head? ≠ some '/' := by simpa [List.head?_eq_some_iff] using line
    have block : rest.head? ≠ some '*' := by simpa [List.head?_eq_some_iff] using block
    simp [visible, here, next, line, block]
  · simp [visible, here, slash, hash]

end Look

theorem exists_look {source : Text} {i : Nat} (boundary : IsBoundary source i) :
    ∃ found, look? source i = some found := by
  obtain ⟨front, rest, rfl, rfl⟩ := boundary
  fun_cases reachHash [] rest with
  | case1 => exact ⟨_, by rw [List.append_nil]; exact look_end front⟩
  | case2 rest => exact ⟨_, look_line front rest⟩
  | case3 rest closed => exact ⟨_, look_block front rest⟩
  | case4 rest => exact ⟨_, look_block front rest⟩
  | case5 c rest _ _ blank => exact ⟨_, look_blank front rest blank⟩
  | case6 rest => exact ⟨_, look_hash front rest⟩
  | case7 c rest line block visible hash => exact ⟨_, look_other front rest line block visible hash⟩

theorem passes_onward {source front piece : Text} {span? : Option Span} (rest : Text)
    (parts : source = front ++ (piece ++ rest)) (nonempty : piece ≠ [])
    (found : look? source (size front) = some (.onward (size (front ++ piece))))
    (more : Passes (front ++ piece ++ rest) (size (front ++ piece)) span?) : Passes source (size front) span? := by
  obtain ⟨c, tail, rfl⟩ := List.exists_cons_of_ne_nil nonempty
  rw [← List.append_assoc] at parts
  subst parts
  refine .onward found ?_ (isBoundary_append _ rest) more
  have positive := c.utf8Size_pos
  simp
  omega

theorem passes_reachHash (passed rest : Text) : Passes (passed.reverse ++ rest) (size passed.reverse)
    ((reachHash passed rest).bind fun (passed, rest) => lineSpan? passed.reverse rest) := by
  -- What was passed is a text in front of the rest, and its bytes are the ones behind the scan.
  fun_induction reachHash passed rest with
  | case1 passed =>
    rw [List.append_nil]
    exact .last (look_end _)
  | case2 passed rest ih =>
    have cut := cutLine_fst_append_snd rest
    refine passes_onward (cutLine rest).2 ?_ (List.cons_ne_nil _ _) (look_line _ rest) ?_
    · simp [cut]
    · simpa using ih
  | case3 passed rest closed =>
    have unclosed := closeComment_none.mp closed
    refine passes_onward [] ?_ (List.cons_ne_nil _ _) (look_open _ unclosed) ?_
    · simp
    · rw [List.append_nil]
      exact .last (look_end _)
  | case4 passed rest front rest' closed ih =>
    obtain ⟨body, rfl, unclosed, rfl⟩ := closeComment_sound closed
    refine passes_onward rest' ?_ (List.cons_ne_nil _ _) (look_closed _ rest' unclosed) ?_
    · simp
    · simpa using ih
  | case5 passed c rest _ _ blank ih =>
    refine passes_onward rest rfl (List.cons_ne_nil c []) (look_blank _ rest blank) ?_
    simpa using ih
  | case6 passed rest => exact .last (look_hash _ rest)
  | case7 passed c rest line block visible hash => exact .last (look_other _ rest line block visible hash)

theorem Passes.unique {source : Text} {i : Nat} {span? span'? : Option Span} (passes : Passes source i span?)
    (passes' : Passes source i span'?) : span? = span'? := by
  induction passes with
  | last found =>
    cases passes' with
    | last found' =>
      cases found.symm.trans found'
      rfl
    | onward found' => cases found.symm.trans found'
  | onward found _ _ _ ih =>
    cases passes' with
    | last found' => cases found.symm.trans found'
    | onward found' _ _ rest' =>
      cases found.symm.trans found'
      exact ih rest'

theorem map_span (source : Text) : (Directive.find? source).map Directive.span =
    (reachHash [] source).bind fun (passed, rest) => lineSpan? passed.reverse rest := by
  rw [Directive.find?]
  cases reachHash [] source with
  | none => rfl
  | some result =>
    obtain ⟨passed, rest⟩ := result
    simp only [Option.bind_eq_bind, Option.bind_some, lineSpan?]
    cases lineBody? (dropReturn (cutLine rest).1) with
    | none => rfl
    | some body => simp [Directive.span, Directive.start, Directive.stop]

theorem passes_iff {source : Text} {span? : Option Span} :
    Passes source 0 span? ↔ span? = (Directive.find? source).map Directive.span := by
  have passes := passes_reachHash [] source
  rw [← map_span] at passes
  constructor
  · intro other
    exact other.unique passes
  · intro same
    rw [same]
    exact passes

end Scan

-- The bytes of a version line: they are whole characters of the source, the first is a hash, and no
-- line feed is among them.
structure Span.IsIn (span : Span) (source : Text) : Prop where
  start : IsBoundary source span.start
  stop : IsBoundary source span.stop
  inside : span.stop ≤ (encode source).length
  nonempty : span.start < span.stop
  hash : (encode source)[span.start]? = some '#'.toUInt8
  within : '\n'.toUInt8 ∉ (encode source).extract span.start span.stop

def replaced? (source : Text) (span : Span) (text : Text) : Option Text := do
  let front ← slice? source 0 span.start
  let back ← slice? source span.stop (size source)
  return front ++ text ++ back

variable {d : Directive} {source : Text}

theorem Directive.IsIn.span (isIn : d.IsIn source) : d.span.IsIn source := by
  have whole := isIn.parts
  obtain ⟨rest, line⟩ := List.head?_eq_some_iff.mp isIn.hash
  have start : IsBoundary source d.span.start := ⟨d.before, _, whole, rfl⟩
  have stop : IsBoundary source d.span.stop :=
    ⟨d.before ++ d.line, d.after, by rw [whole, List.append_assoc], size_append _ _⟩
  have first := Scan.stands_here (show '#'.toNat < 0x80 by decide) d.before (d.line ++ d.after)
  refine ⟨start, stop, ?_, ?_, ?_, ?_⟩
  · rw [length_encode]
    exact stop.le
  · show d.start < d.start + size d.line
    have positive := size_pos (c := '#') (s := rest)
    rw [line]
    omega
  · show (encode source)[size d.before]? = some '#'.toUInt8
    rw [← whole, line] at first
    simpa [Scan.standsAt] using first
  · show _ ∉ (encode source).extract d.start d.stop
    rw [isIn.extract, mem_encode (by decide)]
    exact isIn.ends.1

theorem Directive.IsIn.replaced (isIn : d.IsIn source) (text : Text) :
    replaced? source d.span text = some (d.before ++ text ++ d.after) := by
  have front : slice? source 0 d.span.start = some d.before :=
    slice_iff.mpr ⟨[], _, isIn.parts, rfl, by simp; rfl⟩
  have back : slice? source d.span.stop (size source) = some d.after := by
    refine slice_iff.mpr ⟨d.before ++ d.line, [], ?_, size_append _ _, ?_⟩
    · simp [isIn.parts]
    · simp [isIn.parts, Nat.add_assoc]
  rw [replaced?, front, Option.bind_eq_bind, Option.bind_some, back]
  rfl

theorem scan_in_range (source : Text) :
    (∀ i, IsBoundary source i → ∃ found, Scan.look? source i = some found) ∧
      (∀ span?, Scan.Passes source 0 span? ↔ span? = (Directive.find? source).map Directive.span) ∧
      ∀ d, Directive.find? source = some d → d.span.IsIn source ∧
        ∀ v, replaced? source d.span (Directive.lineFor v) = some (withVersion source (some d) v) := by
  refine ⟨fun _ => Scan.exists_look, fun _ => Scan.passes_iff, ?_⟩
  intro d found
  have isIn := find_iff.mp found
  exact ⟨isIn.span, fun v => isIn.replaced (Directive.lineFor v)⟩

theorem scan_in_range_accented :
    let source := "/*é*/#version 450\r\n".toList
    let span : Span := ⟨6, 18, some ⟨450, .core⟩⟩
    ¬ IsBoundary source 3 ∧ IsBoundary source 6 ∧ (∃ found, Scan.look? source 6 = some found) ∧
      Scan.Passes source 0 (some span) ∧ span.IsIn source ∧
      replaced? source span (Directive.lineFor ⟨330, .core⟩) = some "/*é*/#version 330 core\r\n".toList := by
  intro source span
  have unclosed : Unclosed ['é'] := by
    unfold Unclosed
    decide
  have isIn : Directive.IsIn ⟨"/*é*/".toList, "#version 450".toList, ['\r', '\n'], some ⟨450, .core⟩⟩ source :=
    ⟨rfl, .block unclosed .nil, rfl, ⟨by decide, .inr ⟨_, rfl, .feed _⟩⟩, _, rfl, by decide⟩
  have found := find_iff.mpr isIn
  have boundary : IsBoundary source 6 := by decide
  obtain ⟨looks, passes, inside⟩ := scan_in_range source
  obtain ⟨whole, replaced⟩ := inside _ found
  refine ⟨by decide, boundary, looks 6 boundary, (passes _).mpr ?_, whole, replaced ⟨330, .core⟩⟩
  rw [found]
  rfl

end ShaderConversion.Glsl
