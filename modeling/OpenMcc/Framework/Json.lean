import Mathlib.Data.List.Induction
import Mathlib.Data.List.TakeWhile
import OpenMcc.Framework.JsonText

/-!
# JSON

`stringify` writes a value as `JSON.stringify` does, and `parse` reads the texts that `JSON.parse`
does.  The reader goes through a text character by character: `Scan` is what it has of the current
word or string, and `Reading` what may come next and which arrays and objects are open.

What is written is read back (`parse_stringify`).  A text is read line by line (`parse_join_iff`), as
a line end stands between words.  White space at the start and at the end of a line is then of no
account (`line_trimStart`, `line_trimEnd`), and nothing else comes after the value (`line_done`).

A string that is read is a list of 16-bit units, as an escape can stand for half a character.
-/

namespace OpenMcc

/-- A value, with the strings and the numbers of its place. -/
inductive Json (σ ν : Type)
  | null
  | bool (b : Bool)
  | number (n : ν)
  | string (t : σ)
  | array (items : List (Json σ ν))
  | object (members : List (σ × Json σ ν))

namespace Json

/-! ## Strings -/

/-- A string of 16-bit units. -/
abbrev Units := List UInt16

/-- The units of a character. -/
def charUnits (c : Char) : Units :=
  if c.toNat < 0x10000 then [UInt16.ofNat c.toNat]
  else
    [UInt16.ofNat (0xd800 + (c.toNat - 0x10000) / 0x400),
      UInt16.ofNat (0xdc00 + (c.toNat - 0x10000) % 0x400)]

/-- The units of a text. -/
def units (t : Text) : Units := t.flatMap charUnits

lemma units_append (t t' : Text) : units (t ++ t') = units t ++ units t' := List.flatMap_append

lemma charUnits_ne_nil (c : Char) : charUnits c ≠ [] := by
  unfold charUnits
  split <;> simp

lemma units_eq_nil {t : Text} (h : units t = []) : t = [] := by
  cases t with
  | nil => rfl
  | cons c t =>
    rw [units, List.flatMap_cons, List.append_eq_nil_iff] at h
    exact absurd h.1 (charUnits_ne_nil c)

/-! ## Writing -/

section Writing

variable {ν : Type} (number : ν → Text)

mutual

/-- `JSON.stringify`. -/
def stringify : Json Text ν → Text
  | .null => "null".toList
  | .bool b => if b then "true".toList else "false".toList
  | .number n => number n
  | .string t => quote t
  | .array [] => "[]".toList
  | .array (v :: items) => '[' :: stringify v ++ stringifyItems items ++ [']']
  | .object [] => "{}".toList
  | .object ((key, v) :: members) =>
    '{' :: quote key ++ ':' :: stringify v ++ stringifyMembers members ++ ['}']

/-- The items after the first. -/
def stringifyItems : List (Json Text ν) → Text
  | [] => []
  | v :: items => ',' :: stringify v ++ stringifyItems items

/-- The members after the first. -/
def stringifyMembers : List (Text × Json Text ν) → Text
  | [] => []
  | (key, v) :: members => ',' :: quote key ++ ':' :: stringify v ++ stringifyMembers members

end

end Writing

/-! ## Reading -/

section Reading

variable {ν : Type}

/-- A member is set: the value of a name that is there already is replaced. -/
def setMember (key : Units) (v : Json Units ν) :
    List (Units × Json Units ν) → List (Units × Json Units ν)
  | [] => [(key, v)]
  | (key', v') :: members =>
    if key' = key then (key', v) :: members else (key', v') :: setMember key v members

/-- The value of a member. -/
def member (key : Units) (members : List (Units × Json Units ν)) : Option (Json Units ν) :=
  members.lookup key

/-- An array or an object that is not closed yet. -/
inductive Frame (ν : Type)
  | array (items : List (Json Units ν))
  | object (members : List (Units × Json Units ν)) (key : Units)

/-- What may come next, inside the open arrays and objects. -/
inductive Reading (ν : Type)
  | value (frames : List (Frame ν))
  /-- After `[`. -/
  | item (frames : List (Frame ν))
  /-- After `{`. -/
  | firstKey (frames : List (Frame ν))
  /-- After a comma in an object. -/
  | key (members : List (Units × Json Units ν)) (frames : List (Frame ν))
  | colon (members : List (Units × Json Units ν)) (key : Units) (frames : List (Frame ν))
  | afterItem (items : List (Json Units ν)) (frames : List (Frame ν))
  | afterMember (members : List (Units × Json Units ν)) (frames : List (Frame ν))
  | done (v : Json Units ν)

/-- A mark, a string, or a value without parts. -/
inductive Token (ν : Type)
  | openArray | closeArray | openObject | closeObject | comma | colon
  | string (t : Units)
  | scalar (v : Json Units ν)

/-- A value that is complete. -/
def give (v : Json Units ν) : List (Frame ν) → Reading ν
  | [] => .done v
  | .array items :: frames => .afterItem (items ++ [v]) frames
  | .object members name :: frames => .afterMember (setMember name v members) frames

/-- The first token of a value. -/
def start (frames : List (Frame ν)) : Token ν → Option (Reading ν)
  | .openArray => some (.item frames)
  | .openObject => some (.firstKey frames)
  | .string t => some (give (.string t) frames)
  | .scalar v => some (give v frames)
  | _ => none

/-- A token. -/
def Reading.step : Reading ν → Token ν → Option (Reading ν)
  | .value frames, token => start frames token
  | .item frames, .closeArray => some (give (.array []) frames)
  | .item frames, token => start (.array [] :: frames) token
  | .firstKey frames, .closeObject => some (give (.object []) frames)
  | .firstKey frames, .string t => some (.colon [] t frames)
  | .key members frames, .string t => some (.colon members t frames)
  | .colon members name frames, .colon => some (.value (.object members name :: frames))
  | .afterItem items frames, .comma => some (.value (.array items :: frames))
  | .afterItem items frames, .closeArray => some (give (.array items) frames)
  | .afterMember members frames, .comma => some (.key members frames)
  | .afterMember members frames, .closeObject => some (give (.object members) frames)
  | _, _ => none

/-- What is there of the current word or string. -/
inductive Scan
  | between
  | word (t : Text)
  | string (t : Units)
  /-- After a backslash. -/
  | escape (t : Units)
  /-- After `\u`, with so many digits left. -/
  | hex (t : Units) (value left : Nat)
  deriving DecidableEq, Repr

/-- A blank between words. -/
def isBlank (c : Char) : Bool := c == ' ' || c == '\t' || c == '\n' || c == '\r'

/-- A character of a number, of `true`, of `false` or of `null`. -/
def isWordChar (c : Char) : Bool := c.isAlphanum || c == '+' || c == '-' || c == '.'

/-- Digits, at least one of them, and what follows them. -/
def readDigits (t : Text) : Option Text :=
  match t with
  | [] => none
  | c :: _ => if Text.isDigit c then some (t.dropWhile Text.isDigit) else none

/-- The exponent of a number, if there is one. -/
def isExponent : Text → Bool
  | [] => true
  | c :: t =>
    (c == 'e' || c == 'E') &&
      readDigits (if t.head? = some '+' ∨ t.head? = some '-' then t.tail else t) == some []

/-- The fraction of a number, if there is one, and its exponent. -/
def isFraction : Text → Bool
  | '.' :: t => (readDigits t).any isExponent
  | t => isExponent t

/-- A number without a sign. -/
def isUnsigned : Text → Bool
  | '0' :: t => isFraction t
  | t => (readDigits t).any isFraction

/-- A number. -/
def isNumber (t : Text) : Bool := isUnsigned (if t.head? = some '-' then t.tail else t)

/-- The unit that a letter after a backslash stands for. -/
def escapeUnit : Char → Option UInt16
  | '"' => some 0x22
  | '\\' => some 0x5c
  | '/' => some 0x2f
  | 'b' => some 0x08
  | 'f' => some 0x0c
  | 'n' => some 0x0a
  | 'r' => some 0x0d
  | 't' => some 0x09
  | _ => none

/-- The token of a mark. -/
def mark : Char → Option (Token ν)
  | '[' => some .openArray
  | ']' => some .closeArray
  | '{' => some .openObject
  | '}' => some .closeObject
  | ',' => some .comma
  | ':' => some .colon
  | _ => none

/-- The reader. -/
structure Reader (ν : Type) where
  scan : Scan
  reading : Reading ν

/-- The reader before a text. -/
def Reader.begin : Reader ν := ⟨.between, .value []⟩

variable (toNumber : Text → ν)

/-- The token of a word. -/
def wordToken (t : Text) : Option (Token ν) :=
  if t = "null".toList then some (.scalar .null)
  else if t = "true".toList then some (.scalar (.bool true))
  else if t = "false".toList then some (.scalar (.bool false))
  else if isNumber t then some (.scalar (.number (toNumber t)))
  else none

namespace Reader

/-- A token is taken. -/
def take (r : Reader ν) (token : Token ν) : Option (Reader ν) :=
  (r.reading.step token).map fun reading => ⟨.between, reading⟩

/-- The current word ends. -/
def settle (r : Reader ν) : Option (Reader ν) :=
  match r.scan with
  | .between => some r
  | .word t => (wordToken toNumber t).bind r.take
  | _ => none

/-- A character between words. -/
def stepBetween (r : Reader ν) (c : Char) : Option (Reader ν) :=
  if isBlank c then some r
  else if c = '"' then some { r with scan := .string [] }
  else if isWordChar c then some { r with scan := .word [c] }
  else (mark c).bind r.take

/-- A character. -/
def step (r : Reader ν) (c : Char) : Option (Reader ν) :=
  match r.scan with
  | .between => r.stepBetween c
  | .word t =>
    if isWordChar c then some { r with scan := .word (t ++ [c]) }
    else (r.settle toNumber).bind fun r => r.stepBetween c
  | .string t =>
    if c = '"' then r.take (.string t)
    else if c = '\\' then some { r with scan := .escape t }
    else if c.toNat < 0x20 then none
    else some { r with scan := .string (t ++ charUnits c) }
  | .escape t =>
    if c = 'u' then some { r with scan := .hex t 0 4 }
    else (escapeUnit c).map fun unit => { r with scan := .string (t ++ [unit]) }
  | .hex t value left =>
    (Text.hexDigit c).map fun digit =>
      if left ≤ 1 then { r with scan := .string (t ++ [UInt16.ofNat (value * 16 + digit)]) }
      else { r with scan := .hex t (value * 16 + digit) (left - 1) }

/-- A text. -/
def run (r : Reader ν) (t : Text) : Option (Reader ν) := t.foldlM (step toNumber) r

/-- The end of the text. -/
def finish (r : Reader ν) : Option (Json Units ν) :=
  (r.settle toNumber).bind fun r =>
    match r.reading with
    | .done v => some v
    | _ => none

end Reader

/-- `JSON.parse`. -/
def parse (t : Text) : Option (Json Units ν) :=
  ((Reader.begin.run toNumber t).bind (Reader.finish toNumber))

mutual

/-- The value as it is read. -/
def toUnits : Json Text ν → Json Units ν
  | .null => .null
  | .bool b => .bool b
  | .number n => .number n
  | .string t => .string (units t)
  | .array items => .array (itemsUnits items)
  | .object members => .object (membersUnits [] members)

/-- The items as they are read. -/
def itemsUnits : List (Json Text ν) → List (Json Units ν)
  | [] => []
  | v :: items => toUnits v :: itemsUnits items

/-- The members as they are read after others. -/
def membersUnits (before : List (Units × Json Units ν)) :
    List (Text × Json Text ν) → List (Units × Json Units ν)
  | [] => before
  | (key, v) :: members => membersUnits (setMember (units key) (toUnits v) before) members

end

/-- The way to a part of a value. -/
inductive Place
  | member (name : String)
  | item (n : Nat)
  deriving DecidableEq, Repr

/-- The part at a place. -/
def follow : List Place → Json Units ν → Option (Json Units ν)
  | [], v => some v
  | .member name :: places, .object members =>
    (member (units name.toList) members).bind (follow places)
  | .item n :: places, .array items => items[n]?.bind (follow places)
  | _, _ => none

/-- The string that a value is. -/
def asString : Json Units ν → Option Units
  | .string t => some t
  | _ => none

end Reading

/-! ## A character -/

section Character

variable {ν : Type} {toNumber : Text → ν}

lemma run_append (r : Reader ν) (t t' : Text) :
    r.run toNumber (t ++ t') = (r.run toNumber t).bind fun r => r.run toNumber t' :=
  List.foldlM_append

lemma run_cons (r : Reader ν) (c : Char) (t : Text) :
    r.run toNumber (c :: t) = (r.step toNumber c).bind fun r => r.run toNumber t :=
  List.foldlM_cons

lemma run_nil (r : Reader ν) : r.run toNumber [] = some r := rfl

lemma settle_scan {r r' : Reader ν} (h : r.settle toNumber = some r') : r'.scan = .between := by
  unfold Reader.settle at h
  split at h
  · next heq =>
    rw [← Option.some.inj h]
    exact heq
  · obtain ⟨token, -, htake⟩ := Option.bind_eq_some_iff.mp h
    obtain ⟨reading, -, rfl⟩ := Option.map_eq_some_iff.mp htake
    rfl
  · cases h

lemma settle_settle {r r' : Reader ν} (h : r.settle toNumber = some r') :
    r'.settle toNumber = some r' := by
  rw [Reader.settle, settle_scan h]

/-- **After a word**, or between words, a character that is in no word is read alike. -/
lemma step_settled {r r' : Reader ν} (h : r.settle toNumber = some r') {c : Char}
    (hc : isWordChar c = false) : r.step toNumber c = r'.stepBetween c := by
  unfold Reader.step
  split
  · next heq =>
    rw [Reader.settle, heq, Option.some.injEq] at h
    rw [h]
  · rw [if_neg (by rw [hc]; exact Bool.false_ne_true), h]
    rfl
  · next heq => rw [Reader.settle, heq] at h; cases h
  · next heq => rw [Reader.settle, heq] at h; cases h
  · next heq => rw [Reader.settle, heq] at h; cases h

lemma stepBetween_blank {r : Reader ν} {c : Char} (h : isBlank c = true) :
    r.stepBetween c = some r := if_pos h

end Character

/-! ## What is written is read -/

section RoundTrip

variable {ν : Type} {toNumber : Text → ν}

lemma run_string (reading : Reading ν) (before : Units) (t : Text) :
    Reader.run toNumber ⟨.string before, reading⟩ (t.flatMap escape) =
      some ⟨.string (before ++ units t), reading⟩ := by
  have hescape : ∀ c before, Reader.run toNumber ⟨.string before, reading⟩ (escape c) =
      some ⟨.string (before ++ charUnits c), reading⟩ := by
    refine char_cases ?_ ?_ ?_ ?_
    · intro n hn before
      interval_cases n <;> rfl
    · intro before
      rfl
    · intro before
      rfl
    · intro c hquote hslash hlow before
      rw [escape_plain hquote hslash hlow, run_cons, Reader.step]
      simp only [if_neg hquote, if_neg hslash, if_neg hlow]
      rfl
  induction t generalizing before with
  | nil =>
    rw [units, List.flatMap_nil, List.flatMap_nil, List.append_nil]
    rfl
  | cons c t ih =>
    rw [List.flatMap_cons, run_append, hescape, Option.bind_some, ih, units, units,
      List.flatMap_cons, List.append_assoc]

lemma run_quote (reading : Reading ν) (t rest : Text) :
    Reader.run toNumber ⟨.between, reading⟩ (quote t ++ rest) =
      (Reader.take ⟨.between, reading⟩ (.string (units t))).bind fun r => r.run toNumber rest := by
  have hbegin : Reader.step toNumber ⟨.between, reading⟩ '"' = some ⟨.string [], reading⟩ := rfl
  have hend : ∀ before, Reader.step toNumber ⟨.string before, reading⟩ '"' =
      Reader.take ⟨.between, reading⟩ (.string before) := fun before => rfl
  rw [quote, List.append_assoc, List.cons_append, run_cons, hbegin, Option.bind_some, run_append,
    run_string, Option.bind_some, List.singleton_append, run_cons, hend, List.nil_append]

lemma run_word (reading : Reading ν) {t : Text} (hne : t ≠ []) (h : t.all isWordChar = true) :
    Reader.run toNumber ⟨.between, reading⟩ t = some ⟨.word t, reading⟩ := by
  have hlater : ∀ before t : Text, t.all isWordChar = true →
      Reader.run toNumber ⟨.word before, reading⟩ t = some ⟨.word (before ++ t), reading⟩ := by
    intro before t h
    induction t generalizing before with
    | nil => rw [List.append_nil]; rfl
    | cons c t ih =>
      rw [List.all_cons, Bool.and_eq_true] at h
      rw [run_cons, Reader.step]
      simp only [if_pos h.1, Option.bind_some]
      rw [ih _ h.2, List.append_assoc]
      rfl
  cases t with
  | nil => exact absurd rfl hne
  | cons c t =>
    rw [List.all_cons, Bool.and_eq_true] at h
    have hblank : isBlank c = false := eq_false_of_ne_true fun heq => by
      have hfirst := h.1
      simp only [isBlank, Bool.or_eq_true, beq_iff_eq] at heq
      rcases heq with ((rfl | rfl) | rfl) | rfl <;> exact absurd hfirst (by decide)
    have hquote : c ≠ '"' := by
      rintro rfl
      exact absurd h.1 (by decide)
    have hbegin : Reader.step toNumber ⟨.between, reading⟩ c = some ⟨.word [c], reading⟩ := by
      change Reader.stepBetween ⟨.between, reading⟩ c = _
      rw [Reader.stepBetween, if_neg (by rw [hblank]; exact Bool.false_ne_true), if_neg hquote,
        if_pos h.1]
    rw [run_cons, hbegin, Option.bind_some, hlater _ _ h.2]
    rfl

lemma readDigits_eq {t rest : Text} (h : readDigits t = some rest) :
    t.all isWordChar = rest.all isWordChar := by
  have hdigit : ∀ c, Text.isDigit c = true → isWordChar c = true := by
    intro c hc
    have halnum : c.isAlphanum = true := by
      rw [Char.isAlphanum, Bool.or_eq_true]
      right
      exact hc
    rw [isWordChar, halnum]
    rfl
  cases t with
  | nil => cases h
  | cons c t =>
    rw [readDigits] at h
    split at h
    · obtain rfl := Option.some.inj h
      have hdigits : ((c :: t).takeWhile Text.isDigit).all isWordChar = true := by
        rw [List.all_eq_true]
        intro d hd
        exact hdigit d (List.all_eq_true.mp List.all_takeWhile d hd)
      conv_lhs => rw [← List.takeWhile_append_dropWhile (p := Text.isDigit) (l := c :: t)]
      rw [List.all_append, hdigits, Bool.true_and]
    · cases h

lemma isExponent_word {t : Text} (h : isExponent t = true) : t.all isWordChar = true := by
  cases t with
  | nil => rfl
  | cons c t =>
    rw [isExponent, Bool.and_eq_true, beq_iff_eq] at h
    obtain ⟨hmark, hdigits⟩ := h
    have hc : isWordChar c = true := by
      simp only [Bool.or_eq_true, beq_iff_eq] at hmark
      rcases hmark with rfl | rfl <;> decide
    rw [List.all_cons, hc, Bool.true_and]
    have hrest := readDigits_eq hdigits
    split at hrest
    · next hsign =>
      cases t with
      | nil => rfl
      | cons d t =>
        have hd : isWordChar d = true := by
          simp only [List.head?_cons, Option.some.injEq] at hsign
          rcases hsign with rfl | rfl <;> decide
        rw [List.all_cons, hd, Bool.true_and]
        exact hrest
    · exact hrest

lemma isFraction_word {t : Text} (h : isFraction t = true) : t.all isWordChar = true := by
  unfold isFraction at h
  split at h
  · next t =>
    obtain ⟨rest, hrest, hexponent⟩ := (Option.any_eq_true ..).mp h
    rw [List.all_cons, readDigits_eq hrest, isExponent_word hexponent]
    rfl
  · exact isExponent_word h

lemma isUnsigned_word {t : Text} (h : isUnsigned t = true) : t.all isWordChar = true := by
  unfold isUnsigned at h
  split at h
  · next t =>
    rw [List.all_cons, isFraction_word h]
    rfl
  · obtain ⟨rest, hrest, hfraction⟩ := (Option.any_eq_true ..).mp h
    rw [readDigits_eq hrest]
    exact isFraction_word hfraction

lemma isNumber_word {t : Text} (h : isNumber t = true) : t.all isWordChar = true := by
  have hrest := isUnsigned_word h
  split at hrest
  · next hsign =>
    cases t with
    | nil => rfl
    | cons c t =>
      obtain rfl : c = '-' := Option.some.inj hsign
      rw [List.all_cons]
      exact hrest
  · exact hrest

/-- How numbers are written, and what a number stands for. -/
structure NumberText (ν : Type) where
  write : ν → Text
  read : Text → ν
  isNumber_write : ∀ n, isNumber (write n) = true
  read_write : ∀ n, read (write n) = n

lemma wordToken_number {t : Text} (h : isNumber t = true) :
    wordToken toNumber t = some (.scalar (.number (toNumber t))) := by
  rw [wordToken, if_neg, if_neg, if_neg, if_pos h]
  · rintro rfl; exact absurd h (by decide)
  · rintro rfl; exact absurd h (by decide)
  · rintro rfl; exact absurd h (by decide)

/-- A value may come next, inside these arrays and objects. -/
def Awaits (reading : Reading ν) (frames : List (Frame ν)) : Prop :=
  ∀ token, token ≠ .closeArray → reading.step token = start frames token

lemma awaits_value (frames : List (Frame ν)) : Awaits (.value frames) frames := by
  intro token _
  cases token <;> rfl

lemma awaits_item (frames : List (Frame ν)) : Awaits (.item frames) (.array [] :: frames) := by
  intro token hne
  cases token with
  | closeArray => exact absurd rfl hne
  | openArray | openObject | closeObject | comma | colon | string | scalar => rfl

lemma settle_word {reading : Reading ν} {frames : List (Frame ν)} (h : Awaits reading frames)
    {t : Text} (hne : t ≠ []) (hword : t.all isWordChar = true) {v : Json Units ν}
    (htoken : wordToken toNumber t = some (.scalar v)) :
    (Reader.run toNumber ⟨.between, reading⟩ t).bind (Reader.settle toNumber) =
      some ⟨.between, give v frames⟩ := by
  rw [run_word reading hne hword, Option.bind_some, Reader.settle]
  simp only [htoken, Option.bind_some, Reader.take]
  rw [h _ (by simp)]
  rfl

mutual

/-- **A value that is written is read**, wherever a value may come. -/
theorem settle_stringify (numbers : NumberText ν) (v : Json Text ν) {reading : Reading ν}
    {frames : List (Frame ν)} (h : Awaits reading frames) :
    (Reader.run numbers.read ⟨.between, reading⟩ (stringify numbers.write v)).bind
      (Reader.settle numbers.read) = some ⟨.between, give (toUnits v) frames⟩ := by
  cases v with
  | null =>
    rw [stringify, toUnits]
    exact settle_word h (by decide) (by decide) rfl
  | bool b =>
    rw [stringify, toUnits]
    cases b with
    | true => exact settle_word h (by decide) (by decide) rfl
    | false => exact settle_word h (by decide) (by decide) rfl
  | number n =>
    have hnumber := numbers.isNumber_write n
    have hne : numbers.write n ≠ [] := by
      intro heq
      rw [heq] at hnumber
      cases hnumber
    rw [stringify, toUnits]
    refine settle_word h hne (isNumber_word hnumber) ?_
    rw [wordToken_number hnumber, numbers.read_write]
  | string t =>
    rw [stringify, toUnits, ← List.append_nil (quote t), run_quote, Reader.take,
      h _ (by simp)]
    rfl
  | array items =>
    have hopen : Reader.step numbers.read ⟨.between, reading⟩ '[' =
        some ⟨.between, .item frames⟩ := by
      change (reading.step .openArray).map _ = _
      rw [h _ (by simp)]
      rfl
    cases items with
    | nil =>
      rw [stringify, toUnits]
      change (Reader.run numbers.read _ ['[', ']']).bind _ = _
      rw [run_cons, hopen]
      rfl
    | cons v items =>
      obtain ⟨r, hrun, hsettle⟩ := Option.bind_eq_some_iff.mp
        (settle_stringify numbers v (awaits_item frames))
      rw [stringify, toUnits, List.cons_append, List.cons_append, run_cons, hopen,
        Option.bind_some, List.append_assoc, run_append, hrun, Option.bind_some,
        run_items numbers items hsettle]
      rfl
  | object members =>
    have hopen : Reader.step numbers.read ⟨.between, reading⟩ '{' =
        some ⟨.between, .firstKey frames⟩ := by
      change (reading.step .openObject).map _ = _
      rw [h _ (by simp)]
      rfl
    cases members with
    | nil =>
      rw [stringify, toUnits]
      change (Reader.run numbers.read _ ['{', '}']).bind _ = _
      rw [run_cons, hopen]
      rfl
    | cons first members =>
      obtain ⟨name, v⟩ := first
      obtain ⟨r, hrun, hsettle⟩ := Option.bind_eq_some_iff.mp
        (settle_stringify numbers v (awaits_value (.object [] (units name) :: frames)))
      have hcolon : Reader.step numbers.read ⟨.between, .colon [] (units name) frames⟩ ':' =
        some ⟨.between, .value (.object [] (units name) :: frames)⟩ := rfl
      have hkey : Reader.take ⟨.between, .firstKey frames⟩ (.string (units name)) =
        some (⟨.between, .colon [] (units name) frames⟩ : Reader ν) := rfl
      simp only [stringify, toUnits, List.cons_append, List.append_assoc]
      rw [run_cons, hopen, Option.bind_some, run_quote, hkey, Option.bind_some, run_cons, hcolon,
        Option.bind_some, run_append, hrun, Option.bind_some,
        run_members numbers members hsettle]
      rfl

/-- The items after the first. -/
theorem run_items (numbers : NumberText ν) (items : List (Json Text ν)) {r : Reader ν}
    {before : List (Json Units ν)} {frames : List (Frame ν)}
    (h : r.settle numbers.read = some ⟨.between, .afterItem before frames⟩) :
    r.run numbers.read (stringifyItems numbers.write items ++ [']']) =
      some ⟨.between, give (.array (before ++ itemsUnits items)) frames⟩ := by
  cases items with
  | nil =>
    rw [stringifyItems, itemsUnits, List.append_nil, List.nil_append, run_cons,
      step_settled h (by decide)]
    rfl
  | cons v items =>
    obtain ⟨r', hrun, hsettle⟩ := Option.bind_eq_some_iff.mp
      (settle_stringify numbers v (awaits_value (.array before :: frames)))
    have hcomma : Reader.stepBetween ⟨.between, .afterItem before frames⟩ ',' =
      some (⟨.between, .value (.array before :: frames)⟩ : Reader ν) := rfl
    rw [stringifyItems, itemsUnits, List.cons_append, List.cons_append, run_cons,
      step_settled h (by decide), hcomma, Option.bind_some, List.append_assoc, run_append, hrun,
      Option.bind_some, run_items numbers items hsettle, List.append_assoc]
    rfl

/-- The members after the first. -/
theorem run_members (numbers : NumberText ν) (members : List (Text × Json Text ν)) {r : Reader ν}
    {before : List (Units × Json Units ν)} {frames : List (Frame ν)}
    (h : r.settle numbers.read = some ⟨.between, .afterMember before frames⟩) :
    r.run numbers.read (stringifyMembers numbers.write members ++ ['}']) =
      some ⟨.between, give (.object (membersUnits before members)) frames⟩ := by
  cases members with
  | nil =>
    rw [stringifyMembers, membersUnits, List.nil_append, run_cons, step_settled h (by decide)]
    rfl
  | cons first members =>
    obtain ⟨name, v⟩ := first
    obtain ⟨r', hrun, hsettle⟩ := Option.bind_eq_some_iff.mp
      (settle_stringify numbers v (awaits_value (.object before (units name) :: frames)))
    have hcomma : Reader.stepBetween ⟨.between, .afterMember before frames⟩ ',' =
      some (⟨.between, .key before frames⟩ : Reader ν) := rfl
    have hkey : Reader.take ⟨.between, .key before frames⟩ (.string (units name)) =
      some (⟨.between, .colon before (units name) frames⟩ : Reader ν) := rfl
    have hcolon : Reader.step numbers.read ⟨.between, .colon before (units name) frames⟩ ':' =
      some ⟨.between, .value (.object before (units name) :: frames)⟩ := rfl
    simp only [stringifyMembers, membersUnits, List.cons_append, List.append_assoc]
    rw [run_cons, step_settled h (by decide), hcomma, Option.bind_some, run_quote, hkey,
      Option.bind_some, run_cons, hcolon, Option.bind_some, run_append, hrun, Option.bind_some,
      run_members numbers members hsettle]

end

/-- **The round trip.** -/
theorem parse_stringify (numbers : NumberText ν) (v : Json Text ν) :
    parse numbers.read (stringify numbers.write v) = some (toUnits v) := by
  obtain ⟨r, hrun, hsettle⟩ := Option.bind_eq_some_iff.mp
    (settle_stringify numbers v (awaits_value []))
  rw [parse, Reader.begin, hrun, Option.bind_some, Reader.finish, hsettle]
  rfl

end RoundTrip

/-! ## Lines of a text that is read -/

section Lines

variable {ν : Type} (toNumber : Text → ν)

namespace Reader

/-- A line with its end. -/
def line (r : Reader ν) (t : Text) : Option (Reader ν) :=
  (r.run toNumber t).bind (settle toNumber)

/-- Lines, one after the other. -/
def lines (r : Reader ν) (texts : List Text) : Option (Reader ν) := texts.foldlM (line toNumber) r

end Reader

variable {toNumber}

lemma isWordChar_space {c : Char} (h : Text.isSpace c = true) : isWordChar c = false := by
  by_contra hne
  rw [Bool.not_eq_false, isWordChar] at hne
  simp only [Bool.or_eq_true, beq_iff_eq] at hne
  rcases hne with ((hletter | rfl) | rfl) | rfl
  · have hrange := Text.range_of_isAlphanum hletter
    simp only [Text.isSpace, Bool.or_eq_true, Bool.and_eq_true, decide_eq_true_eq, beq_iff_eq] at h
    omega
  all_goals exact absurd h (by decide)

lemma mark_space {c : Char} (h : Text.isSpace c = true) : (mark c : Option (Token ν)) = none := by
  unfold mark
  split
  case h_7 => rfl
  all_goals exact absurd h (by decide)

/-- White space between words is read over, or refused. -/
lemma stepBetween_space {r r' : Reader ν} {c : Char} (h : Text.isSpace c = true)
    (hstep : r.stepBetween c = some r') : r' = r := by
  have hquote : c ≠ '"' := by
    rintro rfl
    exact absurd h (by decide)
  have hword : ¬ isWordChar c = true := by
    rw [isWordChar_space h]
    exact Bool.false_ne_true
  unfold Reader.stepBetween at hstep
  split at hstep
  · exact (Option.some.inj hstep).symm
  · rw [mark_space h] at hstep
    cases hstep

/-- A line end stands between words. -/
lemma step_lineEnd (r : Reader ν) {c : Char} (hc : c = '\n' ∨ c = '\r') :
    r.step toNumber c = r.settle toNumber := by
  obtain ⟨scan, reading⟩ := r
  cases scan with
  | between => rcases hc with rfl | rfl <;> rfl
  | word t =>
    have hblank : ∀ r : Reader ν, r.stepBetween c = some r := by
      intro r
      rcases hc with rfl | rfl <;> rfl
    have hstep : Reader.step toNumber ⟨.word t, reading⟩ c =
        (Reader.settle toNumber ⟨.word t, reading⟩).bind fun r => r.stepBetween c := by
      rcases hc with rfl | rfl <;> rfl
    rw [hstep, funext hblank, Option.bind_fun_some]
  | string t => rcases hc with rfl | rfl <;> rfl
  | escape t => rcases hc with rfl | rfl <;> rfl
  | hex t value left => rcases hc with rfl | rfl <;> rfl

/-- White space at the end of a line does nothing to what is read. -/
lemma settle_step_space {r r₁ r₂ : Reader ν} {c : Char} (h : Text.isSpace c = true)
    (hstep : r.step toNumber c = some r₁) (hsettle : r₁.settle toNumber = some r₂) :
    r.settle toNumber = some r₂ := by
  obtain ⟨scan, reading⟩ := r
  have hne : ∀ c', Text.isSpace c' = false → c ≠ c' := by
    rintro c' hc' rfl
    rw [h] at hc'
    cases hc'
  cases scan with
  | between =>
    rw [stepBetween_space h hstep] at hsettle
    exact hsettle
  | word t =>
    have hword : ¬ isWordChar c = true := by
      rw [isWordChar_space h]
      exact Bool.false_ne_true
    rw [Reader.step] at hstep
    simp only [if_neg hword] at hstep
    obtain ⟨r', hr', hbetween⟩ := Option.bind_eq_some_iff.mp hstep
    rw [stepBetween_space h hbetween, settle_settle hr'] at hsettle
    rw [hr', hsettle]
  | string t =>
    rw [Reader.step] at hstep
    simp only [if_neg (hne '"' (by decide)), if_neg (hne '\\' (by decide))] at hstep
    split at hstep
    · cases hstep
    · rw [← Option.some.inj hstep] at hsettle
      cases hsettle
  | escape t =>
    have hunit : escapeUnit c = none := by
      unfold escapeUnit
      split
      case h_9 => rfl
      all_goals exact absurd h (by decide)
    rw [Reader.step] at hstep
    simp only [if_neg (hne 'u' (by decide)), hunit] at hstep
    cases hstep
  | hex t value left =>
    rw [Reader.step] at hstep
    obtain ⟨digit, -, rfl⟩ := Option.map_eq_some_iff.mp hstep
    split at hsettle <;> cases hsettle

/-! ### Lines -/

lemma run_singleton (r : Reader ν) (c : Char) : r.run toNumber [c] = r.step toNumber c :=
  Option.bind_fun_some _

lemma settle_bind_settle (r : Reader ν) :
    (r.settle toNumber).bind (Reader.settle toNumber) = r.settle toNumber := by
  cases hsettle : r.settle toNumber with
  | none => rfl
  | some r' => exact settle_settle hsettle

lemma line_cons (r : Reader ν) (c : Char) (t : Text) :
    r.line toNumber (c :: t) = (r.step toNumber c).bind fun r => r.line toNumber t := by
  rw [Reader.line, run_cons, Option.bind_assoc]
  rfl

lemma line_scan {r r' : Reader ν} {t : Text} (h : r.line toNumber t = some r') :
    r'.scan = .between := by
  obtain ⟨_, -, hsettle⟩ := Option.bind_eq_some_iff.mp h
  exact settle_scan hsettle

lemma line_nil {r : Reader ν} (h : r.scan = .between) : r.line toNumber [] = some r := by
  rw [Reader.line, run_nil, Option.bind_some, Reader.settle, h]

lemma lines_cons (r : Reader ν) (t : Text) (texts : List Text) :
    r.lines toNumber (t :: texts) = (r.line toNumber t).bind fun r => r.lines toNumber texts :=
  List.foldlM_cons

lemma lines_append (r : Reader ν) (texts texts' : List Text) :
    r.lines toNumber (texts ++ texts') =
      (r.lines toNumber texts).bind fun r => r.lines toNumber texts' :=
  List.foldlM_append

lemma lines_scan {texts : List Text} : ∀ {r r' : Reader ν}, r.scan = .between →
    r.lines toNumber texts = some r' → r'.scan = .between := by
  induction texts with
  | nil =>
    intro r r' hr h
    rw [← Option.some.inj h]
    exact hr
  | cons t texts ih =>
    intro r r' _ h
    rw [lines_cons] at h
    obtain ⟨r₁, hline, hlines⟩ := Option.bind_eq_some_iff.mp h
    exact ih (line_scan hline) hlines

/-- A text is read line by line. -/
lemma line_join {c : Char} (hc : c = '\n' ∨ c = '\r') {texts : List Text} (hne : texts ≠ []) :
    ∀ r : Reader ν, r.line toNumber (Text.join [c] texts) = r.lines toNumber texts := by
  induction texts with
  | nil => exact absurd rfl hne
  | cons t texts ih =>
    intro r
    cases texts with
    | nil =>
      rw [Text.join, List.intercalate_singleton, lines_cons]
      exact (Option.bind_fun_some _).symm
    | cons t' texts =>
      rw [Text.join_cons_cons, List.append_assoc, List.singleton_append, Reader.line, run_append,
        Option.bind_assoc, lines_cons, Reader.line, Option.bind_assoc]
      congr 1
      funext r'
      rw [run_cons, step_lineEnd r' hc, Option.bind_assoc]
      congr 1
      funext r'
      exact ih (List.cons_ne_nil _ _) r'

lemma parse_iff {t : Text} {v : Json Units ν} : parse toNumber t = some v ↔
    Reader.begin.line toNumber t = some ⟨.between, .done v⟩ := by
  have hfinish : parse toNumber t = (Reader.begin.line toNumber t).bind fun r =>
      match r.reading with
      | .done v => some v
      | _ => none := by
    rw [parse, Reader.line, Option.bind_assoc]
    rfl
  rw [hfinish]
  constructor
  · intro h
    obtain ⟨⟨scan, reading⟩, hline, hdone⟩ := Option.bind_eq_some_iff.mp h
    obtain rfl : scan = .between := line_scan hline
    cases reading <;> cases hdone
    exact hline
  · intro h
    rw [h]
    rfl

/-- What is parsed, line by line. -/
lemma parse_join_iff {c : Char} (hc : c = '\n' ∨ c = '\r') {texts : List Text}
    {v : Json Units ν} : parse toNumber (Text.join [c] texts) = some v ↔
      Reader.begin.lines toNumber texts = some ⟨.between, .done v⟩ := by
  rw [parse_iff]
  cases texts with
  | nil => exact Iff.rfl
  | cons t texts => rw [line_join hc (List.cons_ne_nil _ _)]

/-- White space before a line is read over, or refused. -/
lemma line_trimStart {r r' : Reader ν} (hr : r.scan = .between) {t : Text}
    (h : r.line toNumber t = some r') : r.line toNumber (Text.trimStart t) = some r' := by
  induction t with
  | nil => exact h
  | cons c t ih =>
    rw [Text.trimStart, List.dropWhile_cons]
    split
    · next hspace =>
      obtain ⟨r₁, hrun, hsettle⟩ := Option.bind_eq_some_iff.mp h
      rw [run_cons] at hrun
      obtain ⟨r₂, hstep, hrun⟩ := Option.bind_eq_some_iff.mp hrun
      have hbetween : r.stepBetween c = some r₂ := by
        rw [Reader.step, hr] at hstep
        exact hstep
      rw [stepBetween_space hspace hbetween] at hrun
      refine ih ?_
      rw [Reader.line, hrun]
      exact hsettle
    · exact h

lemma line_append_space {r r' : Reader ν} {t : Text} {c : Char} (hspace : Text.isSpace c = true)
    (h : r.line toNumber (t ++ [c]) = some r') : r.line toNumber t = some r' := by
  obtain ⟨r₁, hrun, hsettle⟩ := Option.bind_eq_some_iff.mp h
  rw [run_append] at hrun
  obtain ⟨r₂, hrun, hstep⟩ := Option.bind_eq_some_iff.mp hrun
  rw [run_singleton] at hstep
  rw [Reader.line, hrun]
  exact settle_step_space hspace hstep hsettle

/-- White space after a line is read over, or refused. -/
lemma line_trimEnd {r r' : Reader ν} {t : Text} (h : r.line toNumber t = some r') :
    r.line toNumber (Text.trimEnd t) = some r' := by
  induction t using List.reverseRecOn with
  | nil => exact h
  | append_singleton t c ih =>
    rw [Text.trimEnd, List.reverse_append, List.reverse_singleton, List.singleton_append,
      List.dropWhile_cons]
    split
    · next hspace => exact ih (line_append_space hspace h)
    · rw [List.reverse_cons, List.reverse_reverse]
      exact h

/-- A blank before a line. -/
lemma line_blank {r : Reader ν} (hr : r.scan = .between) {c : Char} (hc : isBlank c = true)
    (t : Text) : r.line toNumber (c :: t) = r.line toNumber t := by
  have hstep : r.step toNumber c = some r := by
    rw [Reader.step, hr]
    exact stepBetween_blank hc
  rw [Reader.line, run_cons, hstep]
  rfl

/-- A line end after a line. -/
lemma line_append_lineEnd (r : Reader ν) (t : Text) {c : Char} (hc : c = '\n' ∨ c = '\r') :
    r.line toNumber (t ++ [c]) = r.line toNumber t := by
  rw [Reader.line, run_append, Option.bind_assoc, Reader.line]
  congr 1
  funext r'
  rw [run_singleton, step_lineEnd r' hc, settle_bind_settle]

/-! ### Lines of white space -/

lemma isSpace_of_isBlank {c : Char} (h : isBlank c = true) : Text.isSpace c = true := by
  simp only [isBlank, Bool.or_eq_true, beq_iff_eq] at h
  rcases h with ((rfl | rfl) | rfl) | rfl <;> rfl

/-- A line of white space adds nothing. -/
lemma line_space {r r' : Reader ν} (hr : r.scan = .between) {t : Text}
    (hspace : t.all Text.isSpace = true) (h : r.line toNumber t = some r') : r' = r := by
  have htrim := line_trimStart hr h
  have hnil : Text.trimStart t = [] := by
    rw [Text.trimStart, List.dropWhile_eq_nil_iff]
    exact fun c hc => List.all_eq_true.mp hspace c hc
  rw [hnil, line_nil hr] at htrim
  exact (Option.some.inj htrim).symm

/-- What is parsed is not white space alone. -/
lemma exists_of_parse {t : Text} {v : Json Units ν} (h : parse toNumber t = some v) :
    t.all Text.isSpace = false := by
  by_contra hspace
  rw [Bool.not_eq_false] at hspace
  cases line_space rfl hspace (parse_iff.mp h)

/-! ### After the value -/

/-- After the value a word or a string never ends. -/
lemma settle_done {scan : Scan} (h : scan ≠ .between) (v : Json Units ν) :
    Reader.settle toNumber ⟨scan, .done v⟩ = none := by
  cases scan with
  | between => exact absurd rfl h
  | word t =>
    have hnone : Reader.take (⟨.word t, .done v⟩ : Reader ν) = fun _ => none := by
      funext token
      cases token <;> rfl
    rw [Reader.settle]
    simp only [hnone, Option.bind_fun_none]
  | string t => rfl
  | escape t => rfl
  | hex t value left => rfl

lemma step_done {scan : Scan} (h : scan ≠ .between) {v : Json Units ν} {c : Char} {r : Reader ν}
    (hstep : Reader.step toNumber ⟨scan, .done v⟩ c = some r) :
    ∃ scan', scan' ≠ .between ∧ r = ⟨scan', .done v⟩ := by
  cases scan with
  | between => exact absurd rfl h
  | word t =>
    rw [Reader.step] at hstep
    simp only [settle_done h] at hstep
    split at hstep
    · exact ⟨_, Scan.noConfusion, (Option.some.inj hstep).symm⟩
    · cases hstep
  | string t =>
    rw [Reader.step] at hstep
    simp only at hstep
    split at hstep
    · cases hstep
    · split at hstep
      · exact ⟨_, Scan.noConfusion, (Option.some.inj hstep).symm⟩
      · split at hstep
        · cases hstep
        · exact ⟨_, Scan.noConfusion, (Option.some.inj hstep).symm⟩
  | escape t =>
    rw [Reader.step] at hstep
    simp only at hstep
    split at hstep
    · exact ⟨_, Scan.noConfusion, (Option.some.inj hstep).symm⟩
    · obtain ⟨unit, -, rfl⟩ := Option.map_eq_some_iff.mp hstep
      exact ⟨_, Scan.noConfusion, rfl⟩
  | hex t value left =>
    rw [Reader.step] at hstep
    obtain ⟨digit, -, rfl⟩ := Option.map_eq_some_iff.mp hstep
    split
    · exact ⟨_, Scan.noConfusion, rfl⟩
    · exact ⟨_, Scan.noConfusion, rfl⟩

lemma line_done_scan {scan : Scan} (h : scan ≠ .between) (v : Json Units ν) (t : Text) :
    Reader.line toNumber ⟨scan, .done v⟩ t = none := by
  induction t generalizing scan with
  | nil => exact settle_done h v
  | cons c t ih =>
    rw [line_cons]
    cases hstep : Reader.step toNumber ⟨scan, .done v⟩ c with
    | none => rfl
    | some r =>
      obtain ⟨scan', hscan', rfl⟩ := step_done h hstep
      exact ih hscan'

/-- After the value a character is a blank, or begins a word or a string. -/
lemma stepBetween_done {v : Json Units ν} {c : Char} {r : Reader ν}
    (h : Reader.stepBetween ⟨.between, .done v⟩ c = some r) :
    (isBlank c = true ∧ r = ⟨.between, .done v⟩) ∨
      ∃ scan, scan ≠ .between ∧ r = ⟨scan, .done v⟩ := by
  unfold Reader.stepBetween at h
  split at h
  · next hblank => exact Or.inl ⟨hblank, (Option.some.inj h).symm⟩
  · split at h
    · exact Or.inr ⟨_, Scan.noConfusion, (Option.some.inj h).symm⟩
    · split at h
      · exact Or.inr ⟨_, Scan.noConfusion, (Option.some.inj h).symm⟩
      · obtain ⟨token, -, htake⟩ := Option.bind_eq_some_iff.mp h
        cases token <;> cases htake

/-- After the value there is white space only. -/
lemma line_done {v : Json Units ν} {t : Text} {r : Reader ν}
    (h : Reader.line toNumber ⟨.between, .done v⟩ t = some r) : t.all Text.isSpace = true := by
  induction t with
  | nil => rfl
  | cons c t ih =>
    rw [line_cons] at h
    obtain ⟨r₁, hstep, hline⟩ := Option.bind_eq_some_iff.mp h
    obtain ⟨hblank, rfl⟩ | ⟨scan, hscan, rfl⟩ := stepBetween_done hstep
    · rw [List.all_cons, isSpace_of_isBlank hblank, ih hline]
      rfl
    · rw [line_done_scan hscan] at hline
      cases hline

/-- A word that is no value, at the start of a line. -/
lemma line_word {t rest : Text} (hword : t.all isWordChar = true) (hne : t ≠ [])
    (hnone : wordToken toNumber t = none) (hrest : (rest.head?.any isWordChar) = false)
    {r : Reader ν} (hr : r.scan = .between) : r.line toNumber (t ++ rest) = none := by
  obtain ⟨scan, reading⟩ := r
  obtain rfl : scan = .between := hr
  have hsettle : Reader.settle toNumber ⟨.word t, reading⟩ = none := by
    rw [Reader.settle]
    simp only [hnone, Option.bind_none]
  rw [Reader.line, run_append, run_word reading hne hword, Option.bind_some]
  cases rest with
  | nil => exact hsettle
  | cons c rest =>
    have hc : isWordChar c = false := hrest
    have hstep : Reader.step toNumber ⟨.word t, reading⟩ c = none := by
      rw [Reader.step]
      simp only [hc, Bool.false_eq_true, if_false, hsettle, Option.bind_none]
    rw [run_cons, hstep]
    rfl

end Lines

/-! ## Whole numbers -/

lemma all_isDigit_toDigits (n : Nat) : (Nat.toDigits 10 n).all Text.isDigit = true := by
  rw [List.all_eq_true]
  exact fun c hc => Nat.isDigit_of_mem_toDigits (by decide) (by decide) hc

lemma digitChar_ne_zero : ∀ n < 10, 0 < n → [Nat.digitChar n].head? ≠ some '0' := by decide

lemma head_toDigits {n : Nat} (h : 0 < n) : (Nat.toDigits 10 n).head? ≠ some '0' := by
  induction n using Nat.strongRecOn with
  | ind n ih =>
    by_cases hlt : n < 10
    · rw [Nat.toDigits_of_lt_base hlt]
      exact digitChar_ne_zero n hlt h
    · rw [Nat.toDigits_of_base_le (by decide) (by omega),
        List.head?_append_of_ne_nil _ Nat.toDigits_ne_nil]
      exact ih (n / 10) (by omega) (by omega)

/-- Digits without a zero before them. -/
lemma isUnsigned_digits {t : Text} (hne : t ≠ []) (hdigits : t.all Text.isDigit = true)
    (hzero : t = ['0'] ∨ t.head? ≠ some '0') : isUnsigned t = true := by
  rcases hzero with rfl | hhead
  · rfl
  cases t with
  | nil => exact absurd rfl hne
  | cons c t =>
    have hend : ∀ t : Text, t.all Text.isDigit = true → t.dropWhile Text.isDigit = [] := by
      intro t h
      induction t with
      | nil => rfl
      | cons c t ih =>
        rw [List.all_cons, Bool.and_eq_true] at h
        rw [List.dropWhile_cons, if_pos h.1, ih h.2]
    have hread : readDigits (c :: t) = some [] := by
      rw [readDigits, if_pos (List.all_eq_true.mp hdigits c List.mem_cons_self), hend _ hdigits]
    rw [isUnsigned, hread]
    · rfl
    · rintro t' heq
      rw [heq] at hhead
      exact hhead rfl

lemma head_ne_sign (n : Nat) : (Nat.toDigits 10 n).head? ≠ some '-' := by
  intro heq
  exact absurd (List.all_eq_true.mp (all_isDigit_toDigits n) _ (List.mem_of_mem_head? heq))
    (by decide)

/-- Whole numbers in decimal digits. -/
def wholeNumbers : NumberText Int where
  write n := if n < 0 then '-' :: Nat.toDigits 10 n.natAbs else Nat.toDigits 10 n.natAbs
  read t :=
    if t.head? = some '-' then -(Nat.ofDigitChars 10 t.tail 0 : Int) else Nat.ofDigitChars 10 t 0
  isNumber_write n := by
    have hzero : Nat.toDigits 10 n.natAbs = ['0'] ∨
        (Nat.toDigits 10 n.natAbs).head? ≠ some '0' := by
      by_cases h : n.natAbs = 0
      · left
        rw [h]
        rfl
      · exact Or.inr (head_toDigits (by omega))
    have h := isUnsigned_digits Nat.toDigits_ne_nil (all_isDigit_toDigits n.natAbs) hzero
    split
    · exact h
    · rw [isNumber, if_neg (head_ne_sign _)]
      exact h
  read_write n := by
    by_cases hn : n < 0
    · simp only [if_pos hn, List.head?_cons, if_true, List.tail_cons,
        Nat.ofDigitChars_ten_toDigits]
      omega
    · rw [if_neg hn, if_neg (head_ne_sign _), Nat.ofDigitChars_ten_toDigits]
      omega

end Json

end OpenMcc
