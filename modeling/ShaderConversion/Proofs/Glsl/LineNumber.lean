import Mathlib.Data.List.Induction
import ShaderConversion.Proofs.Glsl.Comment
import ShaderConversion.Proofs.Glsl.VersionLine

namespace ShaderConversion.Glsl

def lines (s : Text) : List Text := s.splitOn '\n'

def feeds (above : List Text) : Text := (above.map (· ++ ['\n'])).flatten

-- How far behind the number that a line announces the next line is.
def Version.lag (v : Version) : Nat := if v.profile = .es ∨ 330 ≤ v.number then 0 else 1

def Place.visible (place : Place) (s : Text) : Text :=
  s.zipWith (fun c within => if within then ' ' else c) (place.marks s)

-- The number that a `#line` line announces for the line below it: a hash, the word, a blank, and a
-- word of digits. What comes behind the number is not looked at, nor are conditions around the line.
def announced? (line : Text) : Option Nat := do
  let rest ← "#".toList.isPrefixOf? (Text.trimStart line)
  let body ← "line".toList.isPrefixOf? (Text.trimStart rest)
  let first ← body.head?
  let number ← (Text.words body).head?
  if Text.isBlank first && Text.isDigits number then some (Nat.ofDigitChars 10 number 0) else none

-- What each line announces. A comment may go on from one line to the next.
def announcements : Place → List Text → List (Option Nat)
  | _, [] => []
  | place, line :: more =>
    announced? (place.visible line) :: announcements (place.after (line ++ ['\n'])) more

def following (lag number : Nat) : Option Nat → Nat
  | none => number + 1
  | some announced => announced + lag

def numbers (lag first : Nat) : List (Option Nat) → List Nat
  | [] => []
  | announced :: more => first :: numbers lag (following lag first announced) more

def lineNumbers (v : Version) (s : Text) : List Nat := numbers v.lag 1 (announcements .code (lines s))

def Unannounced (s : Text) (i : Nat) : Prop :=
  ∀ announced ∈ (announcements .code (lines s)).take i, announced = none

def Directive.row (d : Directive) : Nat := d.before.count '\n'

def addedLines (source : Text) : Nat := if (Directive.find? source).isNone then 2 else 0

def overrideShift (source : Text) (v : Version) : Nat := if (Directive.find? source).isNone then v.lag else 0

theorem added_some {source : Text} {d : Directive} (found : Directive.find? source = some d) (v : Version) :
    addedLines source = 0 ∧ overrideShift source v = 0 := by
  simp [addedLines, overrideShift, found]

theorem added_none {source : Text} (missing : Directive.find? source = none) (v : Version) :
    addedLines source = 2 ∧ overrideShift source v = v.lag := by
  simp [addedLines, overrideShift, missing]

theorem lines_plain {s : Text} (plain : '\n' ∉ s) : lines s = [s] := by
  rw [lines, List.splitOn_eq_splitOnP]
  apply List.splitOnP_eq_singleton
  intro c member
  rw [beq_eq_false_iff_ne]
  rintro rfl
  exact plain member

theorem lines_feed (s t : Text) : lines (s ++ '\n' :: t) = lines s ++ lines t := by
  rw [lines, lines, lines, List.splitOn_eq_splitOnP]
  exact List.splitOnP_append_cons s t (by decide)

theorem feeds_cons (line : Text) (above : List Text) : feeds (line :: above) = line ++ '\n' :: feeds above := by
  simp [feeds]

theorem lines_feeds {above : List Text} (plain : ∀ line ∈ above, '\n' ∉ line) (t : Text) :
    lines (feeds above ++ t) = above ++ lines t := by
  induction above with
  | nil => rfl
  | cons line above step =>
    have here := lines_plain (plain line List.mem_cons_self)
    have rest := step fun line member => plain line (List.mem_cons_of_mem _ member)
    rw [feeds_cons, List.append_assoc, List.cons_append, lines_feed, here, rest]
    rfl

theorem count_feeds {above : List Text} (plain : ∀ line ∈ above, '\n' ∉ line) :
    (feeds above).count '\n' = above.length := by
  induction above with
  | nil => rfl
  | cons line above step =>
    have here := List.count_eq_zero.mpr (plain line List.mem_cons_self)
    have rest := step fun line member => plain line (List.mem_cons_of_mem _ member)
    rw [feeds_cons, List.count_append, here, List.count_cons_self, rest, Nat.zero_add, List.length_cons]

theorem exists_feeds (s : Text) :
    ∃ above front, s = feeds above ++ front ∧ (∀ line ∈ above, '\n' ∉ line) ∧ '\n' ∉ front := by
  induction s using List.reverseRecOn with
  | nil => exact ⟨[], [], rfl, by simp, by simp⟩
  | append_singleton s c step =>
    obtain ⟨above, front, parts, plain, last⟩ := step
    by_cases feed : c = '\n'
    · refine ⟨above ++ [front], [], ?_, ?_, by simp⟩
      · rw [parts, feed]
        simp [feeds]
      · intro line member
        rcases List.mem_append.mp member with member | member
        · exact plain line member
        · rw [List.mem_singleton.mp member]
          exact last
    · refine ⟨above, front ++ [c], by rw [parts, List.append_assoc], plain, ?_⟩
      intro member
      rcases List.mem_append.mp member with member | member
      · exact last member
      · exact feed (List.mem_singleton.mp member).symm

theorem visible_append {t : Text} (slash : t.head? ≠ some '/') (star : t.head? ≠ some '*')
    (place : Place) (s : Text) :
    place.visible (s ++ t) = place.visible s ++ (place.after s).visible t := by
  have aligned : s.length = (place.marks s).length := (length_marks place s).symm
  simp only [Place.visible]
  rw [(read_append slash star place s).1, List.zipWith_append aligned]

theorem read_feed (place : Place) (s t : Text) :
    place.visible (s ++ '\n' :: t) = place.visible (s ++ ['\n']) ++ (place.after (s ++ ['\n'])).visible t ∧
      place.after (s ++ '\n' :: t) = (place.after (s ++ ['\n'])).after t := by
  have shown (t : Text) := visible_append (t := '\n' :: t) (by simp) (by simp) place s
  have reached (t : Text) := (read_append (t := '\n' :: t) (by simp) (by simp) place s).2
  rw [shown, shown, reached, reached, List.append_assoc]
  cases place.after s <;> exact ⟨rfl, rfl⟩

theorem read_feeds (place : Place) (above : List Text) (t : Text) :
    place.visible (feeds above ++ t) = place.visible (feeds above) ++ (place.after (feeds above)).visible t ∧
      place.after (feeds above ++ t) = (place.after (feeds above)).after t := by
  induction above generalizing place with
  | nil => cases place <;> exact ⟨rfl, rfl⟩
  | cons line above step =>
    obtain ⟨shown, reached⟩ := read_feed place line (feeds above)
    obtain ⟨shown', reached'⟩ := read_feed place line (feeds above ++ t)
    obtain ⟨rest, reached''⟩ := step (place.after (line ++ ['\n']))
    rw [feeds_cons, List.append_assoc, List.cons_append, shown, reached, shown', reached', rest, reached'',
      List.append_assoc]
    exact ⟨rfl, rfl⟩

theorem length_announcements (place : Place) (ls : List Text) : (announcements place ls).length = ls.length := by
  induction ls generalizing place with
  | nil => rfl
  | cons line ls step => simp [announcements, step]

theorem announcements_append (place : Place) (above below : List Text) :
    announcements place (above ++ below) =
      announcements place above ++ announcements (place.after (feeds above)) below := by
  induction above generalizing place with
  | nil => cases place <;> rfl
  | cons line above step =>
    have reached := (read_feed place line (feeds above)).2
    rw [List.cons_append, announcements, announcements, step, feeds_cons, reached, List.cons_append]

theorem visible_cons {c : Char} (other : c ≠ '/') (rest : Text) :
    Place.code.visible (c :: rest) = c :: Place.code.visible rest := by
  have marks := Place.marks.eq_5 .code c rest (fun _ _ slash _ => other slash) (fun _ _ slash _ => other slash)
    (by simp) (by simp)
  unfold Place.visible
  rw [marks, List.zipWith_cons_cons]
  rfl

theorem visible_plain {s : Text} (plain : '/' ∉ s) : Place.code.visible s = s := by
  induction s with
  | nil => rfl
  | cons c s step =>
    obtain ⟨first, plain⟩ := List.ne_and_not_mem_of_not_mem_cons plain
    rw [visible_cons first.symm, step plain]

theorem announced_blank {blanks : Text} (blank : ∀ c ∈ blanks, Text.isBlank c = true) (s : Text) :
    announced? (blanks ++ s) = announced? s := by
  have trimmed : Text.trimStart (blanks ++ s) = Text.trimStart s := List.dropWhile_append_of_pos blank
  rw [announced?, trimmed]
  rfl

theorem announced_version {blanks : Text} (blank : ∀ c ∈ blanks, Text.isBlank c = true) (s : Text) :
    announced? ('#' :: (blanks ++ "version".toList) ++ s) = none := by
  have front (rest : Text) : "#".toList.isPrefixOf? (Text.trimStart ('#' :: rest)) = some rest := rfl
  have word : Text.trimStart (blanks ++ "version".toList ++ s) = "version".toList ++ s := by
    refine (Text.trimStart_eq ?_).mpr ⟨blanks, blank, List.append_assoc _ _ _⟩
    rintro _ ⟨⟩
    decide
  rw [announced?, List.cons_append, front, Option.bind_eq_bind, Option.bind_some, word]
  rfl

theorem visible_version {blanks body : Text} (blank : ∀ c ∈ blanks, Text.isBlank c = true)
    (separated : ∃ c, body.head? = some c ∧ Text.isAsciiBlank c = true) :
    Place.code.visible ('#' :: (blanks ++ ("version".toList ++ body))) =
      '#' :: (blanks ++ "version".toList) ++ Place.code.visible body := by
  obtain ⟨c, first, separated⟩ := separated
  have slash : '/' ∉ '#' :: (blanks ++ "version".toList) := by
    have word : '/' ∉ "version".toList := by decide
    simp only [List.mem_cons, List.mem_append, not_or]
    exact ⟨by decide, fun member => absurd (blank _ member) (by decide), word⟩
  have apart (mark : Char) (plain : Text.isAsciiBlank mark = false) : body.head? ≠ some mark := by
    intro same
    cases first.symm.trans same
    cases plain.symm.trans separated
  have shown := visible_append (apart '/' (by decide)) (apart '*' (by decide)) .code
    ('#' :: (blanks ++ "version".toList))
  rw [visible_plain slash, after_plain slash] at shown
  rw [← shown, ← List.append_assoc, List.cons_append]

theorem announced_directive {line body : Text} (hash : line.head? = some '#') (read : lineBody? line = some body)
    (ending : Text) : announced? (Place.code.visible (line ++ ending)) = none := by
  obtain ⟨rest, rfl⟩ := List.head?_eq_some_iff.mp hash
  obtain ⟨blanks, blank, parts, separated⟩ := lineBody_iff.mp (lineBody_append read ending)
  have whole : rest ++ ending = blanks ++ ("version".toList ++ (body ++ ending)) := parts
  rw [List.cons_append, whole, visible_version blank separated, announced_version blank]

theorem visible_line {body : Text} (within : '\n' ∉ body) (rest : Text) :
    Place.line.visible (body ++ '\n' :: rest) =
      List.replicate body.length ' ' ++ '\n' :: Place.code.visible rest := by
  induction body with
  | nil => rfl
  | cons c body step =>
    obtain ⟨first, within⟩ := List.ne_and_not_mem_of_not_mem_cons within
    have marks := Place.marks.eq_5 .line c (body ++ '\n' :: rest) (by simp) (by simp)
      (fun _ feed => first feed.symm) (by simp)
    have behind := step within
    unfold Place.visible at behind ⊢
    rw [List.cons_append, marks, List.zipWith_cons_cons, behind, List.length_cons, List.replicate_succ]
    rfl

theorem visible_block {body : Text} (unclosed : Unclosed body) (rest : Text) :
    Place.block.visible (body ++ '*' :: '/' :: rest) =
      List.replicate (body.length + 2) ' ' ++ Place.code.visible rest := by
  induction body with
  | nil => rfl
  | cons c body step =>
    obtain ⟨unclosed, apart⟩ := unclosed_cons.mp unclosed
    have early := fun tail (_ : Place.block = .block) => unclosed_early apart rest tail
    have marks := Place.marks.eq_5 .block c (body ++ '*' :: '/' :: rest) (by simp) (by simp) (by simp) early
    have behind := step unclosed
    unfold Place.visible at behind ⊢
    rw [List.cons_append, marks, List.zipWith_cons_cons, behind, List.length_cons, Nat.succ_add, List.replicate_succ]
    rfl

theorem visible_leading {before : Text} (leading : Leading before) :
    ∀ c ∈ Place.code.visible before, Text.isBlank c = true := by
  have spaces (n : Nat) : ∀ c ∈ List.replicate n ' ', Text.isBlank c = true := by
    intro c member
    rw [List.eq_of_mem_replicate member]
    decide
  induction leading with
  | nil => nofun
  | @blank c rest blank _ step =>
    have other : c ≠ '/' := by
      rintro rfl
      exact absurd blank (by decide)
    have isBlank : Text.isBlank c = true := by
      simp only [isLeading, Bool.or_eq_true, beq_iff_eq] at blank
      rcases blank with ((rfl | rfl) | rfl) | rfl <;> decide
    rw [visible_cons other]
    exact List.forall_mem_cons.mpr ⟨isBlank, step⟩
  | @line body rest within _ step =>
    have shown : Place.code.visible ('/' :: '/' :: (body ++ '\n' :: rest)) =
        List.replicate 2 ' ' ++ Place.line.visible (body ++ '\n' :: rest) := rfl
    rw [shown, visible_line within]
    refine List.forall_mem_append.mpr ⟨spaces 2, List.forall_mem_append.mpr ⟨spaces body.length, ?_⟩⟩
    exact List.forall_mem_cons.mpr ⟨by decide, step⟩
  | @block body rest unclosed _ step =>
    have shown : Place.code.visible ('/' :: '*' :: (body ++ '*' :: '/' :: rest)) =
        List.replicate 2 ' ' ++ Place.block.visible (body ++ '*' :: '/' :: rest) := rfl
    rw [shown, visible_block unclosed]
    exact List.forall_mem_append.mpr ⟨spaces 2, List.forall_mem_append.mpr ⟨spaces (body.length + 2), step⟩⟩

structure Rows (before after : Text) where
  above : List Text
  front : Text
  ending : Text
  tail : Text
  before_eq : before = feeds above ++ front
  after_eq : after = ending ++ tail
  plain : ∀ line ∈ above, '\n' ∉ line
  front_plain : '\n' ∉ front
  ends : ending = [] ∨ ending = ['\r']
  breaks : IsBreak tail

theorem exists_rows {d : Directive} {source : Text} (isIn : d.IsIn source) : Nonempty (Rows d.before d.after) := by
  obtain ⟨above, front, parts, plain, front_plain⟩ := exists_feeds d.before
  rcases isIn.ends.2 with ⟨breaks, _⟩ | ⟨rest, returns, breaks⟩
  · exact ⟨⟨above, front, [], d.after, parts, rfl, plain, front_plain, .inl rfl, breaks⟩⟩
  · exact ⟨⟨above, front, ['\r'], rest, parts, returns, plain, front_plain, .inr rfl, breaks⟩⟩

namespace Rows

variable {before after : Text}

def below (rows : Rows before after) : List Text :=
  match rows.tail with
  | [] => []
  | _ :: rest => lines rest

theorem lines_eq (rows : Rows before after) {line : Text} (plain : '\n' ∉ line) :
    lines (before ++ (line ++ after)) = rows.above ++ (rows.front ++ (line ++ rows.ending)) :: rows.below := by
  obtain ⟨above, front, ending, tail, rfl, rfl, above_plain, front_plain, ends, breaks⟩ := rows
  have here : '\n' ∉ front ++ (line ++ ending) := by
    rcases ends with rfl | rfl <;> simp [front_plain, plain]
  have parts : feeds above ++ front ++ (line ++ (ending ++ tail)) =
      feeds above ++ (front ++ (line ++ ending) ++ tail) := by simp
  rw [parts, lines_feeds above_plain]
  cases breaks with
  | stop => rw [List.append_nil, lines_plain here]; rfl
  | feed rest => rw [lines_feed, lines_plain here]; rfl

theorem announcements_eq {d : Directive} {source : Text} (rows : Rows d.before d.after) (isIn : d.IsIn source) :
    announcements .code (lines source) =
      announcements .code rows.above ++
        none :: announcements (Place.code.after (d.line ++ ['\n'])) rows.below := by
  have parts := rows.lines_eq isIn.ends.1
  rw [← isIn.parts] at parts
  rw [parts]
  obtain ⟨above, front, ending, tail, before_eq, _, _, _, ends, _⟩ := rows
  dsimp only
  -- The text in front of the directive ends in code, and nothing of it is left on its last line.
  have split := read_feeds .code above
  have inside := after_leading isIn.leading
  have blank := visible_leading isIn.leading
  have behind := after_line_feed isIn ends
  rw [before_eq, (split _).2] at inside
  rw [before_eq, (split _).1] at blank
  rw [before_eq, List.append_assoc, List.append_assoc, (split _).2, ← List.append_assoc] at behind
  obtain ⟨body, read, _⟩ := isIn.version
  obtain ⟨rest, hash⟩ := List.head?_eq_some_iff.mp isIn.hash
  have shown := visible_append (t := d.line ++ ending) (by simp [hash]) (by simp [hash])
    (Place.code.after (feeds above)) front
  have silent := announced_directive isIn.hash read ending
  rw [inside] at shown
  rw [announcements_append, announcements, shown,
    announced_blank fun c member => blank c (List.mem_append_right _ member), silent, behind]

theorem below_eq (rows : Rows before after) : rows.below = [] ∨ rows.below = lines (cutLine after).2.tail := by
  obtain ⟨above, front, ending, tail, _, rfl, _, _, ends, breaks⟩ := rows
  have within : '\n' ∉ ending := by
    rcases ends with rfl | rfl <;> decide
  rw [cutLine_append within breaks]
  cases breaks with
  | stop => exact .inl rfl
  | feed rest => exact .inr rfl

theorem length_above (rows : Rows before after) : rows.above.length = before.count '\n' := by
  have feeds := congrArg (List.count '\n') rows.before_eq
  rw [List.count_append, count_feeds rows.plain, List.count_eq_zero.mpr rows.front_plain] at feeds
  exact feeds.symm

end Rows

theorem getElem_replaced {above below : List Text} {i : Nat} (other : i ≠ above.length) (old new : Text) :
    (above ++ new :: below)[i]? = (above ++ old :: below)[i]? := by
  rcases Nat.lt_or_gt_of_ne other with before | behind
  · rw [List.getElem?_append_left before, List.getElem?_append_left before]
  · obtain ⟨j, rfl⟩ := Nat.exists_eq_add_of_lt behind
    rw [List.getElem?_append_right (by omega), List.getElem?_append_right (by omega), Nat.add_assoc,
      Nat.add_sub_cancel_left, List.getElem?_cons_succ, List.getElem?_cons_succ]

theorem lines_replaced {source : Text} {d : Directive} (found : Directive.find? source = some d) {i : Nat}
    (other : i ≠ d.row) (v : Version) : (lines (overridden source v))[i]? = (lines source)[i]? := by
  have isIn := find_iff.mp found
  obtain ⟨rows⟩ := exists_rows isIn
  have old := rows.lines_eq isIn.ends.1
  have new := rows.lines_eq (endsLine_lineFor v isIn.ends).1
  rw [← isIn.parts] at old
  rw [← overridden_some found] at new
  rw [Directive.row, ← rows.length_above] at other
  rw [old, new, getElem_replaced other]

-- Behind its line a source is read from code again, unless a comment went on there before.
theorem announcements_replaced {source : Text} {d : Directive} (found : Directive.find? source = some d)
    (read : d.OpensComment → announcements .block (lines d.below) = announcements .code (lines d.below))
    {v : Version} (accepted : v.IsOverride) :
    announcements .code (lines (overridden source v)) = announcements .code (lines source) := by
  have isIn := find_iff.mp found
  obtain ⟨rows⟩ := exists_rows isIn
  have old := rows.announcements_eq isIn
  have new := Rows.announcements_eq (d := ⟨d.before, Directive.lineFor v, d.after, some v⟩) rows
    (find_iff.mp (find_replaced accepted found))
  rw [after_lineFor] at new
  rw [old, new]
  by_cases opens : d.OpensComment
  · have same : announcements .block rows.below = announcements .code rows.below := by
      rcases rows.below_eq with none | below
      · rw [none]
        rfl
      · rw [below]
        exact read opens
    rw [opens, same]
  · rw [code_of_not_opens opens]

theorem lines_added {source : Text} (missing : Directive.find? source = none) (v : Version) :
    lines (overridden source v) = Directive.lineFor v :: "#line 1".toList :: lines source := by
  have line : '\n' ∉ Directive.lineFor v := not_mem_lineFor v (by decide) (by decide)
  have parts : "\n#line 1\n".toList ++ source = '\n' :: ("#line 1".toList ++ '\n' :: source) := rfl
  rw [overridden_none missing, parts, lines_feed, lines_plain line, lines_feed, lines_plain (by decide)]
  rfl

theorem announcements_added {source : Text} (missing : Directive.find? source = none) (v : Version) :
    announcements .code (lines (overridden source v)) = none :: some 1 :: announcements .code (lines source) := by
  have silent := announced_directive rfl (lineBody_lineFor v) []
  have one : announced? (Place.code.visible "#line 1".toList) = some 1 := by decide
  have code : Place.code.after ("#line 1".toList ++ ['\n']) = .code := by decide
  rw [List.append_nil] at silent
  rw [lines_added missing, announcements, announcements, silent, after_lineFor, one, code]

theorem numbers_unannounced {announced : List (Option Nat)} {lag first i : Nat} (inside : i < announced.length)
    (silent : ∀ number ∈ announced.take i, number = none) :
    (numbers lag first announced)[i]? = some (first + i) := by
  induction announced generalizing first i with
  | nil => cases inside
  | cons number announced step =>
    cases i with
    | zero => rfl
    | succ i =>
      rw [List.take_succ_cons] at silent
      obtain ⟨rfl, rest⟩ := List.forall_mem_cons.mp silent
      rw [numbers, List.getElem?_cons_succ, step (Nat.lt_of_succ_lt_succ inside) rest, following]
      congr 1
      omega

-- Below a line that announces a number, it is that number and the version that count, and not where
-- the numbers began.
theorem numbers_announced {announced : List (Option Nat)} {i : Nat} (inside : i < announced.length)
    (told : ¬ ∀ number ∈ announced.take i, number = none) {lag lag' first first' : Nat} :
    (numbers lag first announced)[i]? = (numbers lag' first' announced)[i]? ↔ lag = lag' := by
  induction announced generalizing first first' i with
  | nil => cases inside
  | cons number announced step =>
    cases i with
    | zero => exact absurd (by simp) told
    | succ i =>
      have within : i < announced.length := Nat.lt_of_succ_lt_succ inside
      rw [numbers, numbers, List.getElem?_cons_succ, List.getElem?_cons_succ]
      by_cases rest : ∀ number ∈ announced.take i, number = none
      · cases number with
        | none =>
          rw [List.take_succ_cons, List.forall_mem_cons] at told
          exact absurd ⟨rfl, rest⟩ told
        | some number =>
          rw [numbers_unannounced within rest, numbers_unannounced within rest, following, following,
            Option.some_inj]
          omega
      · exact step within rest

theorem lines_overridden {source : Text} {i : Nat}
    (other : ∀ d, Directive.find? source = some d → i ≠ d.row) (v : Version) :
    (lines (overridden source v))[i + addedLines source]? = (lines source)[i]? := by
  cases scan : Directive.find? source with
  | some d =>
    rw [(added_some scan v).1]
    exact lines_replaced scan (other d scan) v
  | none =>
    rw [(added_none scan v).1, lines_added scan]
    rfl

theorem lineNumbers_overridden {source : Text} {v : Version} (accepted : v.IsOverride)
    (read : ∀ d, Directive.find? source = some d → d.OpensComment →
      announcements .block (lines d.below) = announcements .code (lines d.below)) (i : Nat) :
    (lineNumbers v (overridden source v))[i + addedLines source]? =
      (numbers v.lag (1 + overrideShift source v) (announcements .code (lines source)))[i]? := by
  rw [lineNumbers]
  cases scan : Directive.find? source with
  | some d =>
    obtain ⟨added, shift⟩ := added_some scan v
    rw [announcements_replaced scan (read d scan) accepted, added, shift]
    rfl
  | none =>
    obtain ⟨added, shift⟩ := added_none scan v
    rw [announcements_added scan, added, shift]
    rfl

-- An override keeps every line but the one of the directive. Down to the first line that announces a
-- number of its own, the lines have their numbers again, or are all off by the shift. Below that line
-- they have them if the two versions count alike. Where the line that is replaced opens a comment that
-- goes on below it, what was in the comment has to announce nothing else as code.
theorem line_numbers {source : Text} {v : Version} (accepted : v.IsOverride)
    (read : ∀ d, Directive.find? source = some d → d.OpensComment →
      announcements .block (lines d.below) = announcements .code (lines d.below))
    {i : Nat} {line : Text} (stands : (lines source)[i]? = some line)
    (other : ∀ d, Directive.find? source = some d → i ≠ d.row) (w : Version) :
    let i' := i + addedLines source
    let number? := (lineNumbers w source)[i]?
    let number?' := (lineNumbers v (overridden source v))[i']?
    (lines (overridden source v))[i']? = some line ∧
      (Unannounced source i → number? = some (i + 1) ∧ number?' = some (i + 1 + overrideShift source v)) ∧
      (¬ Unannounced source i → (number?' = number? ↔ v.lag = w.lag)) := by
  intro i' number? number?'
  have inside : i < (announcements .code (lines source)).length := by
    rw [length_announcements]
    exact (List.getElem?_eq_some_iff.mp stands).1
  have there : number?' = _ := lineNumbers_overridden accepted read i
  refine ⟨(lines_overridden other v).trans stands, fun silent => ⟨?_, ?_⟩, fun told => ?_⟩
  · rw [Nat.add_comm]
    exact numbers_unannounced inside silent
  · rw [there, numbers_unannounced inside silent]
    congr 1
    omega
  · rw [there]
    exact numbers_announced inside told

theorem line_numbers_announced :
    let source := "/* a\n */ #version 330 core // c\r\n#line 7\nvoid main(){}".toList
    let d : Directive :=
      ⟨"/* a\n */ ".toList, "#version 330 core // c".toList, "\r\n#line 7\nvoid main(){}".toList, none⟩
    Directive.find? source = some d ∧ Version.IsOverride ⟨450, .core⟩ ∧ ¬ d.OpensComment ∧ 3 ≠ d.row ∧
      (lines source)[3]? = some "void main(){}".toList ∧
      (lines (overridden source ⟨450, .core⟩))[3 + addedLines source]? = some "void main(){}".toList ∧
      (lineNumbers ⟨330, .core⟩ source)[3]? = some 7 ∧
      (lineNumbers ⟨450, .core⟩ (overridden source ⟨450, .core⟩))[3 + addedLines source]? = some 7 := by
  intro source d
  have unclosed : Unclosed " a\n ".toList := by
    unfold Unclosed
    decide
  have space : Leading [' '] := .blank (by decide) .nil
  have leading := Leading.block unclosed space
  have found : Directive.find? source = some d := by
    refine find_iff.mpr ⟨rfl, leading, rfl, ⟨by decide, .inr ⟨_, rfl, .feed _⟩⟩, ?_⟩
    exact ⟨" 330 core // c".toList, by decide, by decide⟩
  have accepted : Version.IsOverride ⟨450, .core⟩ := ⟨"450 core".toList, by decide⟩
  have closed : ¬ d.OpensComment := by
    unfold Directive.OpensComment
    decide
  have only {d' : Directive} (found' : Directive.find? source = some d') : d' = d :=
    Option.some.inj (found'.symm.trans found)
  have told : ¬ Unannounced source 3 := by
    unfold Unannounced
    decide
  have stands : (lines source)[3]? = some "void main(){}".toList := by decide
  have numbers := line_numbers accepted (fun d' found' opens => absurd (only found' ▸ opens) closed) stands
    (fun d' found' => only found' ▸ by decide) ⟨330, .core⟩
  have seven : (lineNumbers ⟨330, .core⟩ source)[3]? = some 7 := by decide
  exact ⟨found, accepted, closed, by decide, stands, numbers.1, seven, ((numbers.2.2 told).mpr rfl).trans seven⟩

-- Before 330 the line that is put in front announces the number after the one it names.
theorem line_numbers_shifted :
    let source := "void main(){}".toList
    let v : Version := ⟨140, .none⟩
    v.IsOverride ∧ Directive.find? source = none ∧ lines source = [source] ∧ lineNumbers v source = [1] ∧
      lines (overridden source v) = ["#version 140".toList, "#line 1".toList, source] ∧
      lineNumbers v (overridden source v) = [1, 2, 2] := by
  intro source v
  have missing : Directive.find? source = none :=
    missing_of_stuck .nil (.other (by decide) (by decide) (by decide))
  refine ⟨⟨"140".toList, by decide⟩, missing, by decide, by decide, ?_⟩
  rw [overridden_none missing]
  exact ⟨by decide, by decide⟩

end ShaderConversion.Glsl
