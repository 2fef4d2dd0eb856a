import OpenMcc.Framework.Toml

/-!
# A reader of the documents' language

`readDocument` reads the statements that a text spells, line by line; a value is read from the
front of a text, together with what follows it.  `implements_readDocument`: reading a text's
statements and taking what they mean implements the language.
-/

namespace OpenMcc

namespace Toml

variable {ν : Type}

/-! ## Reading -/

/-- What a string's quotes enclose, and what follows them. -/
def readBody : Text → Option (Text × Text)
  | '"' :: rest => some ([], rest)
  | '\\' :: 'u' :: a :: b :: d :: f :: rest =>
    (Text.hexNumber 0 [a, b, d, f]).bind fun n =>
      (readBody rest).map fun read => (Char.ofNat n :: read.1, read.2)
  | '\\' :: e :: rest =>
    (escapes.lookup e).bind fun c => (readBody rest).map fun read => (c :: read.1, read.2)
  | c :: rest =>
    if isPlain c then (readBody rest).map fun read => (c :: read.1, read.2) else none
  | [] => none

/-- One item after another, with commas between them, up to a closing text. -/
def readMany {α : Type} (item : Text → Option (α × Text)) (close : Text) :
    Nat → Text → Option (List α × Text)
  | 0, _ => none
  | count + 1, t =>
    (item t).bind fun read =>
      if close.isPrefixOf read.2 then some ([read.1], read.2.drop close.length)
      else if ", ".toList.isPrefixOf read.2 then
        (readMany item close count (read.2.drop 2)).map fun more => (read.1 :: more.1, more.2)
      else none

/-- A character of a key that needs no quotes. -/
def isBareChar (c : Char) : Bool :=
  Text.isDigit c || ('a' ≤ c && c ≤ 'z') || ('A' ≤ c && c ≤ 'Z') || c == '_' || c == '-'

/-- A key, and what follows its equals sign. -/
def readKey (t : Text) : Option (Text × Text) :=
  let rest := t.dropWhile isBareChar
  if " = ".toList.isPrefixOf rest then some (t.takeWhile isBareChar, rest.drop 3) else none

/-- An assignment, its value read by the given reader. -/
def readAssignment {α : Type} (value : Text → Option (α × Text)) (t : Text) :
    Option ((Text × α) × Text) :=
  (readKey t).bind fun key => (value key.2).map fun read => ((key.1, read.1), read.2)

/-- A word that is a value by itself. -/
def readWord (round : Rat → ν) (word : Text) : Option (Value ν) :=
  if word = "true".toList then some (.boolean true)
  else if word = "false".toList then some (.boolean false)
  else if isInteger word then
    if (integer word).natAbs ≤ maxInteger then some (.number (round (integer word))) else none
  else if isFraction word then some (.number (round (fraction word)))
  else none

/-- The characters that end a word. -/
def endsWord (c : Char) : Bool := c == ',' || c == ' '

/-- A value, and what follows it. -/
def readFront (round : Rat → ν) : Nat → Text → Option (Value ν × Text)
  | 0, _ => none
  | depth + 1, t =>
    match t with
    | '"' :: rest => (readBody rest).map fun read => (.text read.1, read.2)
    | '[' :: ']' :: rest => some (.list [], rest)
    | '[' :: ' ' :: rest =>
      (readMany (readFront round depth) " ]".toList rest.length rest).map fun read =>
        (.list read.1, read.2)
    | '{' :: ' ' :: rest =>
      (readMany (readAssignment (readFront round depth)) " \x7d".toList rest.length rest).map
        fun read => (.table read.1, read.2)
    | t =>
      (readWord round (t.takeWhile fun c => !endsWord c)).map fun value =>
        (value, t.dropWhile fun c => !endsWord c)

/-- A line, and the statement it writes. -/
def readLine (round : Rat → ν) (line : Text) : Option (Option (Statement ν)) :=
  match line with
  | [] => some none
  | '[' :: rest => some (some (.header (rest.dropLast.splitOn '.')))
  | line => (readAssignment (readFront round line.length) line).map fun read =>
      some (.assign read.1.1 read.1.2)

/-- The statements of a text. -/
def readDocument (round : Rat → ν) (text : Text) : Option (List (Statement ν)) :=
  ((text.splitOn '\n').mapM (readLine round)).map fun read => read.filterMap id

/-! ## What is written is read -/

section Complete

variable {round : Rat → ν}

lemma readBody_of_body {s t : Text} (h : Body s t) (rest : Text) :
    readBody (s ++ '"' :: rest) = some (t, rest) := by
  induction h with
  | nil => rfl
  | @plain c s t hplain _ ih =>
    have hquote : c ≠ '"' := by
      rintro rfl
      exact absurd hplain (by decide)
    have hslash : c ≠ '\\' := by
      rintro rfl
      exact absurd hplain (by decide)
    rw [List.cons_append, readBody]
    · rw [if_pos hplain, ih]
      rfl
    · exact hquote
    · intro _ _ _ _ _ heq
      exact absurd heq hslash
    · intro _ _ heq
      exact absurd heq hslash
  | @escape e c s t hescape _ ih =>
    have hu : e ≠ 'u' := by
      rintro rfl
      have hnone : escapes.lookup 'u' = none := by decide
      rw [hnone] at hescape
      cases hescape
    rw [List.cons_append, List.cons_append, readBody]
    · rw [hescape, Option.bind_some, ih]
      rfl
    · intro _ _ _ _ _ heq
      exact absurd heq hu
  | @code hex s t c hlength hnumber _ ih =>
    obtain ⟨a, b, d, f, rfl⟩ : ∃ a b d f, hex = [a, b, d, f] := by
      match hex, hlength with
      | [a, b, d, f], _ => exact ⟨a, b, d, f, rfl⟩
    show (Text.hexNumber 0 [a, b, d, f]).bind (fun n =>
      (readBody (s ++ '"' :: rest)).map fun read => (Char.ofNat n :: read.1, read.2)) = _
    rw [hnumber, Option.bind_some, ih, Option.map_some, Char.ofNat_toNat]

/-- What follows a value: nothing, or a character that ends a word. -/
def Delimited (rest : Text) : Prop := ∀ c ∈ rest.head?, endsWord c = true

/-- The reader reads the value of a text from its front. -/
def Reads {α : Type} (item : Text → Option (α × Text)) (t : Text) (value : α) : Prop :=
  ∀ rest, Delimited rest → item (t ++ rest) = some (value, rest)

lemma readMany_join {α : Type} {item : Text → Option (α × Text)} (closing rest : Text) :
    ∀ (pieces : List (Text × α)) (count : Nat), pieces ≠ [] → pieces.length ≤ count →
      (∀ piece ∈ pieces, Reads item piece.1 piece.2) →
      readMany item (' ' :: closing) count
        (Text.join ", ".toList (pieces.map Prod.fst) ++ ' ' :: (closing ++ rest)) =
          some (pieces.map Prod.snd, rest)
  | [], _, hne, _, _ => absurd rfl hne
  | _, 0, hne, hcount, _ => absurd (List.length_eq_zero_iff.mp (Nat.le_zero.mp hcount)) hne
  | [piece], count + 1, _, _, hreads => by
    have hdelimited : Delimited (' ' :: (closing ++ rest)) := by
      simp [Delimited, endsWord]
    have hone : Text.join ", ".toList [piece.1] = piece.1 := List.intercalate_singleton
    have hclose : (' ' :: closing).isPrefixOf (' ' :: (closing ++ rest)) = true := by
      rw [List.isPrefixOf_iff_prefix]
      exact ⟨rest, rfl⟩
    rw [List.map_singleton, hone, readMany,
      hreads piece (List.mem_singleton_self _) _ hdelimited, Option.bind_some, if_pos hclose]
    simp
  | piece :: next :: pieces, count + 1, _, hcount, hreads => by
    have hdelimited : ∀ more, Delimited (',' :: more) := by
      simp [Delimited, endsWord]
    have hmore := readMany_join closing rest (next :: pieces) count (List.cons_ne_nil _ _)
      (Nat.le_of_succ_le_succ hcount) fun other hother =>
        hreads other (List.mem_cons_of_mem _ hother)
    rw [List.map_cons, List.map_cons, Text.join_cons_cons, ← List.map_cons, List.append_assoc,
      List.append_assoc, readMany, hreads piece List.mem_cons_self]
    · have hopen : (' ' :: closing).isPrefixOf (", ".toList ++
          (Text.join ", ".toList ((next :: pieces).map Prod.fst) ++ ' ' :: (closing ++ rest))) =
          false := rfl
      have hcomma : ", ".toList.isPrefixOf (", ".toList ++
          (Text.join ", ".toList ((next :: pieces).map Prod.fst) ++ ' ' :: (closing ++ rest))) =
          true := by
        rw [List.isPrefixOf_iff_prefix]
        exact List.prefix_append _ _
      rw [Option.bind_some]
      dsimp only
      rw [hopen, if_neg Bool.false_ne_true, if_pos hcomma]
      show (readMany item (' ' :: closing) count
        (Text.join ", ".toList ((next :: pieces).map Prod.fst) ++
          ' ' :: (closing ++ rest))).map _ = _
      rw [hmore]
      rfl
    · exact hdelimited _

/-! ## Words -/

/-- The characters that words are made of. -/
def IsWord (t : Text) : Prop := t ≠ [] ∧ ∀ c ∈ t, isBareChar c = true ∨ c = '.'

lemma not_endsWord {c : Char} (h : isBareChar c = true ∨ c = '.') : endsWord c = false := by
  by_contra hends
  rw [Bool.not_eq_false, endsWord, Bool.or_eq_true, beq_iff_eq, beq_iff_eq] at hends
  rcases hends with rfl | rfl
  · exact absurd h (by decide)
  · exact absurd h (by decide)

lemma isBareChar_of_isDigit {c : Char} (h : Text.isDigit c = true) : isBareChar c = true := by
  simp [isBareChar, h]

lemma unsigned_eq (t : Text) :
    (∃ rest, t = '-' :: rest ∧ unsigned t = (true, rest)) ∨ unsigned t = (false, t) := by
  rw [unsigned.eq_def]
  split
  · exact Or.inl ⟨_, rfl, rfl⟩
  · exact Or.inr rfl

lemma isWord_of_unsigned {t : Text} (hne : (unsigned t).2 ≠ [])
    (h : ∀ c ∈ (unsigned t).2, isBareChar c = true ∨ c = '.') : IsWord t := by
  rcases unsigned_eq t with ⟨rest, rfl, hrest⟩ | hsame
  · refine ⟨List.cons_ne_nil _ _, fun c hc => ?_⟩
    rcases List.mem_cons.mp hc with rfl | hc
    · exact Or.inl (by decide)
    · rw [hrest] at h
      exact h c hc
  · rw [hsame] at hne h
    exact ⟨hne, h⟩

lemma digits_of_isDigits {t : Text} (h : isDigits t = true) :
    t ≠ [] ∧ ∀ c ∈ t, Text.isDigit c = true := by
  rw [isDigits, Bool.and_eq_true, Bool.and_eq_true, List.all_eq_true] at h
  refine ⟨?_, h.1.1⟩
  rintro rfl
  exact absurd h.1.2 (by decide)

lemma isWord_of_isInteger {t : Text} (h : isInteger t = true) : IsWord t := by
  obtain ⟨hne, hdigits⟩ := digits_of_isDigits h
  exact isWord_of_unsigned hne fun c hc => Or.inl (isBareChar_of_isDigit (hdigits c hc))

lemma isWord_boolean (b : Bool) : IsWord (if b then "true".toList else "false".toList) := by
  have hall : ∀ t ∈ [['t', 'r', 'u', 'e'], ['f', 'a', 'l', 's', 'e']],
      t ≠ [] ∧ t.all isBareChar = true := by decide
  cases b with
  | true =>
    have h := hall _ (List.mem_cons_self ..)
    exact ⟨h.1, fun c hc => Or.inl (List.all_eq_true.mp h.2 c hc)⟩
  | false =>
    have h := hall _ (List.mem_cons_of_mem _ (List.mem_cons_self ..))
    exact ⟨h.1, fun c hc => Or.inl (List.all_eq_true.mp h.2 c hc)⟩

/-- The two parts of a fraction. -/
lemma parts_of_isFraction {t : Text} (h : isFraction t = true) :
    ∃ whole part, (unsigned t).2 = whole ++ '.' :: part ∧ isDigits whole = true ∧
      ∀ c ∈ part, Text.isDigit c = true := by
  rw [isFraction] at h
  split at h
  · rename_i whole part hsplit
    rw [Bool.and_eq_true, Bool.and_eq_true, List.all_eq_true] at h
    refine ⟨whole, part, ?_, h.1.1, h.1.2⟩
    have hjoin := congrArg (Text.join ['.']) hsplit
    have hone : Text.join ['.'] [part] = part := List.intercalate_singleton
    rw [Text.join_cons_cons, hone, Text.join, List.intercalate_splitOn, List.append_assoc] at hjoin
    exact hjoin
  · cases h

lemma isWord_of_isFraction {t : Text} (h : isFraction t = true) : IsWord t := by
  obtain ⟨whole, part, ht, hwhole, hpart⟩ := parts_of_isFraction h
  refine isWord_of_unsigned ?_ fun c hc => ?_
  · rw [ht]
    exact List.append_ne_nil_of_right_ne_nil _ (List.cons_ne_nil _ _)
  · rw [ht, List.mem_append, List.mem_cons] at hc
    rcases hc with hc | rfl | hc
    · exact Or.inl (isBareChar_of_isDigit ((digits_of_isDigits hwhole).2 c hc))
    · exact Or.inr rfl
    · exact Or.inl (isBareChar_of_isDigit (hpart c hc))

lemma not_isInteger_of_isFraction {t : Text} (h : isFraction t = true) : isInteger t = false := by
  obtain ⟨whole, part, ht, -, -⟩ := parts_of_isFraction h
  by_contra hinteger
  rw [Bool.not_eq_false] at hinteger
  have hdot : '.' ∈ (unsigned t).2 := by
    rw [ht]
    exact List.mem_append_right _ List.mem_cons_self
  exact absurd ((digits_of_isDigits hinteger).2 _ hdot) (by decide)

lemma readWord_of_integer {t : Text} (h : isInteger t = true)
    (hmax : (integer t).natAbs ≤ maxInteger) :
    readWord round t = some (.number (round (integer t))) := by
  have htrue : t ≠ "true".toList := by
    rintro rfl
    exact absurd h (by decide)
  have hfalse : t ≠ "false".toList := by
    rintro rfl
    exact absurd h (by decide)
  rw [readWord, if_neg htrue, if_neg hfalse, if_pos h, if_pos hmax]

lemma readWord_of_fraction {t : Text} (h : isFraction t = true) :
    readWord round t = some (.number (round (fraction t))) := by
  have htrue : t ≠ "true".toList := by
    rintro rfl
    exact absurd h (by decide)
  have hfalse : t ≠ "false".toList := by
    rintro rfl
    exact absurd h (by decide)
  rw [readWord, if_neg htrue, if_neg hfalse, not_isInteger_of_isFraction h,
    if_neg Bool.false_ne_true, if_pos h]

/-- A word is read as the value it is. -/
lemma reads_word {t : Text} {value : Value ν} (hword : IsWord t)
    (hread : readWord round t = some value) (depth : Nat) :
    Reads (readFront round (depth + 1)) t value := by
  intro rest hrest
  have hall : ∀ c ∈ t, (!endsWord c) = true := by
    intro c hc
    rw [not_endsWord (hword.2 c hc)]
    rfl
  have hstop : rest.takeWhile (fun c => !endsWord c) = [] ∧
      rest.dropWhile (fun c => !endsWord c) = rest := by
    cases rest with
    | nil => exact ⟨rfl, rfl⟩
    | cons c rest =>
      have hc : endsWord c = true := hrest c rfl
      simp [hc]
  have htake : (t ++ rest).takeWhile (fun c => !endsWord c) = t := by
    rw [List.takeWhile_append_of_pos hall, hstop.1, List.append_nil]
  have hdrop : (t ++ rest).dropWhile (fun c => !endsWord c) = rest := by
    rw [List.dropWhile_append_of_pos hall, hstop.2]
  obtain ⟨c, t, rfl⟩ := List.exists_cons_of_ne_nil hword.1
  have hfirst := hword.2 c List.mem_cons_self
  rw [List.cons_append] at htake hdrop ⊢
  rw [readFront]
  · rw [htake, hdrop, hread]
    rfl
  -- a word starts like no other value
  · intro more heq
    obtain rfl := (List.cons.inj heq).1
    exact absurd hfirst (by decide)
  · intro more heq
    obtain rfl := (List.cons.inj heq).1
    exact absurd hfirst (by decide)
  · intro more heq
    obtain rfl := (List.cons.inj heq).1
    exact absurd hfirst (by decide)
  · intro more heq
    obtain rfl := (List.cons.inj heq).1
    exact absurd hfirst (by decide)

/-! ## Values -/

lemma length_le_join {piece separator : Text} :
    ∀ {pieces : List Text}, piece ∈ pieces → piece.length ≤ (Text.join separator pieces).length
  | [], h => absurd h List.not_mem_nil
  | [single], h => by
    rw [List.mem_singleton.mp h, Text.join, List.intercalate_singleton]
  | first :: second :: pieces, h => by
    rw [Text.join_cons_cons, List.length_append, List.length_append]
    rcases List.mem_cons.mp h with rfl | h
    · omega
    · have hrest : piece.length ≤ (Text.join separator (second :: pieces)).length :=
        length_le_join h
      omega

lemma length_pieces_le_join {separator : Text} (hseparator : 0 < separator.length) :
    ∀ pieces : List Text, pieces.length ≤ (Text.join separator pieces).length + 1
  | [] => Nat.zero_le _
  | [_] => by simp
  | first :: second :: pieces => by
    have hrest := length_pieces_le_join hseparator (second :: pieces)
    rw [Text.join_cons_cons, List.length_append, List.length_append, List.length_cons]
    omega

/-- Pieces are read up to the text that closes them: they are no more than the characters. -/
lemma readMany_enclosed {α : Type} {item : Text → Option (α × Text)} (closing rest : Text)
    {pieces : List (Text × α)} (hne : pieces ≠ [])
    (hreads : ∀ piece ∈ pieces, Reads item piece.1 piece.2) :
    readMany item (' ' :: closing)
        (Text.join ", ".toList (pieces.map Prod.fst) ++ (' ' :: closing ++ rest)).length
        (Text.join ", ".toList (pieces.map Prod.fst) ++ (' ' :: closing ++ rest)) =
      some (pieces.map Prod.snd, rest) := by
  refine readMany_join closing rest pieces _ hne ?_ hreads
  have hpieces := length_pieces_le_join (by decide : 0 < ", ".toList.length) (pieces.map Prod.fst)
  rw [List.length_map] at hpieces
  rw [List.length_append, List.length_append, List.length_cons]
  omega

lemma reads_assignment {α : Type} {value : Text → Option (α × Text)} {key t : Text} {found : α}
    (hkey : isBareKey key = true) (hreads : Reads value t found) :
    Reads (readAssignment value) (assignment key t) (key, found) := by
  intro rest hrest
  have hall : ∀ c ∈ key, isBareChar c = true := by
    rw [isBareKey, Bool.and_eq_true, List.all_eq_true] at hkey
    exact hkey.2
  have hsplit : assignment key t ++ rest = key ++ (" = ".toList ++ (t ++ rest)) := by
    simp only [assignment, List.append_assoc]
  have htake : (assignment key t ++ rest).takeWhile isBareChar = key := by
    rw [hsplit, List.takeWhile_append_of_pos hall]
    exact List.append_nil key
  have hdrop : (assignment key t ++ rest).dropWhile isBareChar = " = ".toList ++ (t ++ rest) := by
    rw [hsplit, List.dropWhile_append_of_pos hall]
    rfl
  have hequals : " = ".toList.isPrefixOf (" = ".toList ++ (t ++ rest)) = true := by
    rw [List.isPrefixOf_iff_prefix]
    exact List.prefix_append _ _
  have hread : readKey (assignment key t ++ rest) = some (key, t ++ rest) := by
    rw [readKey, hdrop, if_pos hequals, htake]
    rfl
  rw [readAssignment, hread, Option.bind_some, hreads rest hrest]
  rfl

lemma readFront_list (depth : Nat) (inside rest : Text) :
    readFront round (depth + 1) ("[ ".toList ++ inside ++ " ]".toList ++ rest) =
      (readMany (readFront round depth) (' ' :: [']'])
        (inside ++ (' ' :: [']'] ++ rest)).length (inside ++ (' ' :: [']'] ++ rest))).map
          fun read => (.list read.1, read.2) := by
  rw [List.append_assoc, List.append_assoc]
  rfl

lemma readFront_table (depth : Nat) (inside rest : Text) :
    readFront round (depth + 1) ("\x7b ".toList ++ inside ++ " \x7d".toList ++ rest) =
      (readMany (readAssignment (readFront round depth)) (' ' :: ['}'])
        (inside ++ (' ' :: ['}'] ++ rest)).length (inside ++ (' ' :: ['}'] ++ rest))).map
          fun read => (.table read.1, read.2) := by
  rw [List.append_assoc, List.append_assoc]
  rfl

/-- **A value is read from the front of the text that writes it.** -/
lemma reads_value {t : Text} {value : Value ν} (h : SpellsValue round t value) :
    ∀ depth, t.length < depth → Reads (readFront round depth) t value := by
  induction h with
  | @text body t hbody =>
    intro depth hdepth rest _
    obtain ⟨more, rfl⟩ := Nat.exists_eq_add_of_lt hdepth
    have hread := readBody_of_body hbody rest
    show (readBody ((body ++ ['"']) ++ rest)).map _ = _
    rw [List.append_assoc, List.singleton_append, hread]
    rfl
  | boolean b =>
    intro depth hdepth
    obtain ⟨more, rfl⟩ := Nat.exists_eq_add_of_lt hdepth
    cases b with
    | true => exact reads_word (isWord_boolean true) rfl _
    | false => exact reads_word (isWord_boolean false) rfl _
  | @integer t hinteger hmax =>
    intro depth hdepth
    obtain ⟨more, rfl⟩ := Nat.exists_eq_add_of_lt hdepth
    exact reads_word (isWord_of_isInteger hinteger) (readWord_of_integer hinteger hmax) _
  | @fraction t hfraction =>
    intro depth hdepth
    obtain ⟨more, rfl⟩ := Nat.exists_eq_add_of_lt hdepth
    exact reads_word (isWord_of_isFraction hfraction) (readWord_of_fraction hfraction) _
  | nil =>
    intro depth hdepth rest _
    obtain ⟨more, rfl⟩ := Nat.exists_eq_add_of_lt hdepth
    rfl
  | @list entries hne _ ih =>
    intro depth hdepth rest _
    obtain ⟨more, rfl⟩ := Nat.exists_eq_add_of_lt hdepth
    obtain ⟨inside, hinside⟩ : ∃ inside,
        inside = Text.join ", ".toList (entries.map Prod.fst) := ⟨_, rfl⟩
    rw [← hinside, List.length_append, List.length_append]
    have hitems : ∀ entry ∈ entries, Reads (readFront round
        ("[ ".toList.length + inside.length + " ]".toList.length + more)) entry.1 entry.2 := by
      intro entry hentry
      have hlength : entry.1.length ≤ inside.length := by
        rw [hinside]
        exact length_le_join (List.mem_map_of_mem hentry)
      have hopen : 0 < "[ ".toList.length := by decide
      exact ih entry hentry _ (by omega)
    have hread := readMany_enclosed [']'] rest hne hitems
    rw [← hinside] at hread
    rw [readFront_list, hread]
    rfl
  | @inline entries hne _ hkeys _ ih =>
    intro depth hdepth rest _
    obtain ⟨more, rfl⟩ := Nat.exists_eq_add_of_lt hdepth
    obtain ⟨inside, hinside⟩ : ∃ inside, inside = Text.join ", ".toList
        (entries.map fun entry => assignment entry.1 entry.2.1) := ⟨_, rfl⟩
    obtain ⟨pieces, hpieces⟩ : ∃ pieces : List (Text × Text × Value ν),
        pieces = entries.map fun entry =>
          (assignment entry.1 entry.2.1, entry.1, entry.2.2) := ⟨_, rfl⟩
    have hfst : inside = Text.join ", ".toList (pieces.map Prod.fst) := by
      rw [hinside, hpieces, List.map_map]
      rfl
    have hsnd : entries.map (fun entry => (entry.1, entry.2.2)) = pieces.map Prod.snd := by
      rw [hpieces, List.map_map]
      rfl
    rw [← hinside, List.length_append, List.length_append]
    have hitems : ∀ piece ∈ pieces,
        Reads (readAssignment (readFront round
          ("\x7b ".toList.length + inside.length + " \x7d".toList.length + more)))
          piece.1 piece.2 := by
      intro piece hpiece
      obtain ⟨entry, hentry, rfl⟩ := List.mem_map.mp (hpieces ▸ hpiece)
      have hlength : (assignment entry.1 entry.2.1).length ≤ inside.length := by
        rw [hinside]
        exact length_le_join (List.mem_map_of_mem hentry)
      have hvalue : entry.2.1.length ≤ (assignment entry.1 entry.2.1).length := by
        rw [assignment, List.length_append]
        omega
      have hopen : 0 < "\x7b ".toList.length := by decide
      exact reads_assignment (hkeys entry hentry) (ih entry hentry _ (by omega))
    have hread := readMany_enclosed ['}'] rest (by simpa [hpieces] using hne) hitems
    rw [← hfst] at hread
    rw [readFront_table, hread, hsnd]
    rfl

/-! ## Lines -/

lemma newline_not_mem_hex : ∀ {n : Nat} {hex : Text} {found : Nat},
    Text.hexNumber n hex = some found → '\n' ∉ hex
  | _, [], _, _, hmem => absurd hmem List.not_mem_nil
  | n, c :: hex, found, h, hmem => by
    rw [Text.hexNumber, Option.bind_eq_some_iff] at h
    obtain ⟨digit, hdigit, hrest⟩ := h
    rcases List.mem_cons.mp hmem with rfl | hmem
    · have hnone : Text.hexDigit '\n' = none := by decide
      rw [hnone] at hdigit
      cases hdigit
    · exact newline_not_mem_hex hrest hmem

lemma newline_not_mem_body {s t : Text} (h : Body s t) : '\n' ∉ s := by
  induction h with
  | nil => exact List.not_mem_nil
  | @plain c s t hplain _ ih =>
    intro hmem
    rcases List.mem_cons.mp hmem with rfl | hmem
    · exact absurd hplain (by decide)
    · exact ih hmem
  | @escape e c s t hescape _ ih =>
    intro hmem
    rcases List.mem_cons.mp hmem with heq | hmem
    · exact absurd heq (by decide)
    · rcases List.mem_cons.mp hmem with rfl | hmem
      · have hnone : escapes.lookup '\n' = none := by decide
        rw [hnone] at hescape
        cases hescape
      · exact ih hmem
  | @code hex s t c _ hnumber _ ih =>
    intro hmem
    rcases List.mem_cons.mp hmem with heq | hmem
    · exact absurd heq (by decide)
    · rcases List.mem_cons.mp hmem with heq | hmem
      · exact absurd heq (by decide)
      · rcases List.mem_append.mp hmem with hmem | hmem
        · exact newline_not_mem_hex hnumber hmem
        · exact ih hmem

lemma newline_not_mem_word {t : Text} (h : IsWord t) : '\n' ∉ t := by
  intro hmem
  exact absurd (h.2 _ hmem) (by decide)

lemma newline_not_mem_key {key : Text} (h : isBareKey key = true) : '\n' ∉ key := by
  intro hmem
  rw [isBareKey, Bool.and_eq_true, List.all_eq_true] at h
  exact absurd (h.2 _ hmem) (by decide)

lemma newline_not_mem_assignment {key t : Text} (hkey : isBareKey key = true)
    (ht : '\n' ∉ t) : '\n' ∉ assignment key t := by
  rw [assignment, List.mem_append, List.mem_append]
  rintro ((hmem | hmem) | hmem)
  · exact newline_not_mem_key hkey hmem
  · exact absurd hmem (by decide)
  · exact ht hmem

/-- Pieces without line ends, enclosed. -/
lemma newline_not_mem_enclosed {opening closing : Text} {pieces : List Text}
    (hopening : '\n' ∉ opening) (hclosing : '\n' ∉ closing)
    (hpieces : ∀ piece ∈ pieces, '\n' ∉ piece) :
    '\n' ∉ opening ++ Text.join ", ".toList pieces ++ closing := by
  rw [List.mem_append, List.mem_append]
  rintro ((hmem | hmem) | hmem)
  · exact hopening hmem
  · rcases Text.mem_join hmem with hmem | ⟨piece, hpiece, hmem⟩
    · exact absurd hmem (by decide)
    · exact hpieces piece hpiece hmem
  · exact hclosing hmem

lemma newline_not_mem_value {t : Text} {value : Value ν} (h : SpellsValue round t value) :
    '\n' ∉ t := by
  induction h with
  | @text body t hbody =>
    intro hmem
    rcases List.mem_cons.mp hmem with heq | hmem
    · exact absurd heq (by decide)
    · rcases List.mem_append.mp hmem with hmem | hmem
      · exact newline_not_mem_body hbody hmem
      · exact absurd hmem (by decide)
  | boolean b => cases b <;> decide
  | integer hinteger _ => exact newline_not_mem_word (isWord_of_isInteger hinteger)
  | fraction hfraction => exact newline_not_mem_word (isWord_of_isFraction hfraction)
  | nil => decide
  | list _ _ ih =>
    refine newline_not_mem_enclosed (by decide) (by decide) fun piece hpiece => ?_
    obtain ⟨entry, hentry, rfl⟩ := List.mem_map.mp hpiece
    exact ih entry hentry
  | inline _ _ hkeys _ ih =>
    refine newline_not_mem_enclosed (by decide) (by decide) fun piece hpiece => ?_
    obtain ⟨entry, hentry, rfl⟩ := List.mem_map.mp hpiece
    exact newline_not_mem_assignment (hkeys entry hentry) (ih entry hentry)

lemma newline_not_mem_line {line : Text} {statement : Option (Statement ν)}
    (h : SpellsLine round line statement) : '\n' ∉ line := by
  cases h with
  | blank => exact List.not_mem_nil
  | @header path _ hpath =>
    intro hmem
    rcases List.mem_cons.mp hmem with heq | hmem
    · exact absurd heq (by decide)
    · rcases List.mem_append.mp hmem with hmem | hmem
      · rcases Text.mem_join hmem with hmem | ⟨key, hkey, hmem⟩
        · exact absurd hmem (by decide)
        · exact newline_not_mem_key (hpath key hkey) hmem
      · exact absurd hmem (by decide)
  | assign hkey hvalue => exact newline_not_mem_assignment hkey (newline_not_mem_value hvalue)

/-- **A line is read as the statement it writes.** -/
lemma readLine_of_spells {line : Text} {statement : Option (Statement ν)}
    (h : SpellsLine round line statement) : readLine round line = some statement := by
  cases h with
  | blank => rfl
  | @header path hne hpath =>
    have hdots : ∀ key ∈ path, '.' ∉ key := by
      intro key hkey hmem
      have hbare := hpath key hkey
      rw [isBareKey, Bool.and_eq_true, List.all_eq_true] at hbare
      exact absurd (hbare.2 _ hmem) (by decide)
    rw [readLine, List.dropLast_concat, Text.join, List.splitOn_intercalate '.' hdots hne]
  | @assign key t value hkey hvalue =>
    obtain ⟨c, rest, hcons⟩ : ∃ c rest, key = c :: rest := by
      refine List.exists_cons_of_ne_nil ?_
      rintro rfl
      exact absurd hkey (by decide)
    have hbracket : c ≠ '[' := by
      rintro rfl
      rw [hcons, isBareKey, Bool.and_eq_true, List.all_eq_true] at hkey
      exact absurd (hkey.2 _ List.mem_cons_self) (by decide)
    have hlength : t.length < (assignment key t).length := by
      rw [assignment, List.length_append, List.length_append]
      have hequals : 0 < " = ".toList.length := by decide
      omega
    have hread := reads_assignment hkey (reads_value hvalue _ hlength) [] (by simp [Delimited])
    rw [List.append_nil] at hread
    have hfront : assignment key t = c :: (rest ++ " = ".toList ++ t) := by
      rw [assignment, hcons]
      rfl
    rw [hfront] at hread ⊢
    rw [readLine, hread]
    · rfl
    · intro heq
      cases heq
    · intro more heq
      exact hbracket (List.cons.inj heq).1

/-- **The statements of a text are read.** -/
lemma readDocument_of_spells {text : Text} {statements : List (Statement ν)}
    (h : Spells round text statements) : readDocument round text = some statements := by
  obtain ⟨lines, hne, hlines, rfl, rfl⟩ := h
  have hsplit : (Text.join ['\n'] (lines.map Prod.fst)).splitOn '\n' = lines.map Prod.fst := by
    refine List.splitOn_intercalate '\n' (fun line hline => ?_) (by simpa using hne)
    obtain ⟨entry, hentry, rfl⟩ := List.mem_map.mp hline
    exact newline_not_mem_line (hlines entry hentry)
  have hread : (lines.map Prod.fst).mapM (readLine round) = some (lines.map Prod.snd) := by
    clear hsplit hne
    induction lines with
    | nil => rfl
    | cons line lines ih =>
      rw [List.map_cons, List.mapM_cons, readLine_of_spells (hlines line List.mem_cons_self),
        ih fun other hother => hlines other (List.mem_cons_of_mem _ hother)]
      rfl
  rw [readDocument, hsplit, hread, Option.map_some, List.filterMap_map]
  rfl

/-- **Reading the statements of a text implements the language.** -/
lemma implements_readDocument (round : Rat → ν) :
    Implements round fun text => (readDocument round text).map document := by
  intro text statements hspells _
  show (readDocument round text).map document = _
  rw [readDocument_of_spells hspells, Option.map_some]

end Complete

end Toml

end OpenMcc
