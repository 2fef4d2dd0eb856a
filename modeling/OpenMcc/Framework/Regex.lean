import OpenMcc.Framework.Text

/-!
# Regular expressions, matched by backtracking

The matcher lists every way an expression matches at a place of a text, the preferred way first,
so its head is the match a backtracking engine reports.  A repetition drops an iteration that
consumes nothing, as such engines do, which also bounds it by the characters left.

Letters of a literal match in either case, over the letters of the first 128 characters.
`replaceAll` is the replacement of every match, from left to right.
-/

namespace OpenMcc

/-- A regular expression over characters. -/
inductive Regex
  /-- The empty text. -/
  | nothing
  /-- One character of a class. -/
  | char (accepts : Char → Bool)
  | seq (first second : Regex)
  | alt (preferred other : Regex)
  /-- Any number of times, as often as possible. -/
  | star (body : Regex)
  /-- A group, recorded under its number. -/
  | group (number : Nat) (body : Regex)
  /-- The start of a line. -/
  | lineStart
  /-- The end of the text. -/
  | textEnd

namespace Regex

/-- A place in a text: the character before it, the text after it, and the groups recorded on the
way to it, the latest first. -/
structure Cursor where
  before : Option Char
  rest : Text
  groups : List (Nat × Text)
  deriving DecidableEq, Repr

/-- The first place in a text. -/
def Cursor.start (t : Text) : Cursor := ⟨none, t, []⟩

/-- What was recorded last under a number. -/
def Cursor.recorded (c : Cursor) (number : Nat) : Text := (c.groups.lookup number).getD []

/-- The places an iterated step reaches, the longest iterations first. -/
def iterate (step : Cursor → List Cursor) : Nat → Cursor → List Cursor
  | 0, c => [c]
  | fuel + 1, c =>
    ((step c).filter fun d => d.rest.length < c.rest.length).flatMap (iterate step fuel) ++ [c]

/-- The places after a match that starts at the given place, the preferred match first. -/
def run : Regex → Cursor → List Cursor
  | nothing, c => [c]
  | char accepts, c =>
    match c.rest with
    | [] => []
    | x :: rest => if accepts x then [{ c with before := some x, rest := rest }] else []
  | seq first second, c => (first.run c).flatMap second.run
  | alt preferred other, c => preferred.run c ++ other.run c
  | star body, c => iterate body.run c.rest.length c
  | group number body, c => (body.run c).map fun d =>
      { d with groups := (number, c.rest.take (c.rest.length - d.rest.length)) :: d.groups }
  | lineStart, c => if c.before.all Text.isLineTerminator then [c] else []
  | textEnd, c => if c.rest.isEmpty then [c] else []

/-- The preferred match at the start of the text, which is the only one of an expression anchored
there. -/
def execAtStart (r : Regex) (t : Text) : Option Cursor := (r.run (Cursor.start t)).head?

/-- A literal text, in either case. -/
def literal (t : Text) : Regex :=
  t.foldr (fun x r => seq (char fun y => y.toLower == x.toLower) r) nothing

/-- A character that `\S` matches. -/
def nonSpace : Regex := char fun c => !Text.isSpace c

/-- A character that `\s` matches. -/
def space : Regex := char Text.isSpace

/-- Any character but one that ends a line. -/
def dot : Regex := char fun c => !Text.isLineTerminator c

/-- One character. -/
def one (x : Char) : Regex := char (· == x)

/-- One expression after the other. -/
def chain (rs : List Regex) : Regex := rs.foldr seq nothing

/-- At least once. -/
def plus (r : Regex) : Regex := seq r (star r)

/-- At most once, and once if possible. -/
def opt (r : Regex) : Regex := alt r nothing

/-- The first of the literals that leads to a match. -/
def oneOf : List Text → Regex
  | [] => char fun _ => false
  | [t] => literal t
  | t :: ts => alt (literal t) (oneOf ts)

/-- The text with its matches replaced, from a place on. -/
def replaceFrom (r : Regex) (replacement : Cursor → Text) : Nat → Option Char → Text → Text
  | 0, _, rest => rest
  | fuel + 1, before, rest =>
    let step : Text := match rest with
      | [] => []
      | x :: tail => x :: replaceFrom r replacement fuel (some x) tail
    match r.run ⟨before, rest, []⟩ with
    | [] => step
    | found :: _ =>
      if found.rest.length < rest.length then
        replacement found ++ replaceFrom r replacement fuel found.before found.rest
      else replacement found ++ step

/-- The text with every match replaced. -/
def replaceAll (r : Regex) (replacement : Cursor → Text) (t : Text) : Text :=
  replaceFrom r replacement (t.length + 1) none t

end Regex

end OpenMcc
