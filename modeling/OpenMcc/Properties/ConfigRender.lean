import OpenMcc.Properties.ConfigNames

/-!
# What a rendered document says

A document is written table by table, `DocumentTable`, each entry with its text and the value that
the text stands for.  `Written` is what makes such tables a document that can be read: each text
writes its value, and the names are known and each is written once.  Then the statements are valid,
and each key of the document leads to its value.
-/

namespace OpenMcc

variable {ν : Type}

/-! ## Tables and their entries -/

/-- An entry of a table: its name, its value as it is written, and the value. -/
abbrev DocumentEntry (ν : Type) := Text × Text × Toml.Value ν

/-- A table with its entries. -/
abbrev DocumentTable (ν : Type) := Text × List (DocumentEntry ν)

/-- The keys of tables. -/
def tableKeys (tables : List (DocumentTable ν)) : List Text :=
  tables.flatMap fun table => table.2.map fun entry => keyIn table.1 entry.1

/-- The lines of a table, with their statements, and an empty one. -/
def documentLines (table : DocumentTable ν) : List (Text × Option (Toml.Statement ν)) :=
  (tableHeader table.1, some (.header (table.1.splitOn '.'))) ::
    (table.2.map (fun entry =>
      (Toml.assignment entry.1 entry.2.1, some (.assign entry.1 entry.2.2))) ++ [([], none)])

/-- The statements of tables. -/
def tableStatements (tables : List (DocumentTable ν)) : List (Toml.Statement ν) :=
  (tables.flatMap documentLines).filterMap Prod.snd

/-- The tables are a document that can be read. -/
structure Written (round : Rat → ν) (tables : List (DocumentTable ν)) : Prop where
  tables_nodup : (tables.map Prod.fst).Nodup
  keys_nodup : (tableKeys tables).Nodup
  isTable : ∀ table ∈ tables, IsTable table.1
  isKey : ∀ key ∈ tableKeys tables, key ∈ documentKeys
  undotted : ∀ table ∈ tables, ∀ entry ∈ table.2, '.' ∉ entry.1
  spelled : ∀ table ∈ tables, ∀ entry ∈ table.2, Toml.SpellsValue round entry.2.1 entry.2.2

section Tables

variable {round : Rat → ν} {tables : List (DocumentTable ν)}

lemma mem_tableKeys {key : Text} :
    key ∈ tableKeys tables ↔ ∃ table ∈ tables, ∃ entry ∈ table.2, keyIn table.1 entry.1 = key := by
  simp only [tableKeys, List.mem_flatMap, List.mem_map]

/-- The lines of a document write its statements. -/
lemma Written.spells (h : Written round tables) (hne : tables ≠ []) :
    Toml.Spells round (Text.join ['\n'] ((tables.flatMap documentLines).map Prod.fst))
      (tableStatements tables) := by
  refine ⟨tables.flatMap documentLines, ?_, ?_, rfl, rfl⟩
  · obtain ⟨table, rest, rfl⟩ := List.exists_cons_of_ne_nil hne
    exact List.cons_ne_nil _ _
  · intro line hline
    obtain ⟨table, htable, hline⟩ := List.mem_flatMap.mp hline
    rcases List.mem_cons.mp hline with rfl | hline
    · have hheader : Toml.SpellsLine round
          ('[' :: (Text.join ['.'] (table.1.splitOn '.') ++ [']']))
          (some (.header (table.1.splitOn '.'))) :=
        .header (List.splitOn_ne_nil _ _) fun part hpart =>
          isBareKey_of_mem_splitOn (Or.inr (h.isTable table htable)) hpart
      rwa [Text.join, List.intercalate_splitOn] at hheader
    · rcases List.mem_append.mp hline with hentry | hblank
      · obtain ⟨entry, hmem, rfl⟩ := List.mem_map.mp hentry
        have hkey : keyIn table.1 entry.1 ∈ documentKeys :=
          h.isKey _ (mem_tableKeys.mpr ⟨table, htable, entry, hmem, rfl⟩)
        refine .assign (isBareKey_of_mem_splitOn (Or.inl hkey) ?_) (h.spelled table htable entry
          hmem)
        rw [splitOn_keyIn (h.undotted table htable entry hmem)]
        exact List.mem_append_right _ (List.mem_singleton_self _)
      · rw [List.mem_singleton.mp hblank]
        exact .blank

/-! ## Statements -/

lemma items_assigns (path : List Text) (entries : List (DocumentEntry ν))
    (rest : List (Toml.Statement ν)) :
    Toml.items path (entries.map (fun entry => .assign entry.1 entry.2.2) ++ rest) =
      entries.map (fun entry => (path ++ [entry.1], some entry.2.2)) ++ Toml.items path rest := by
  induction entries with
  | nil => rfl
  | cons entry entries ih =>
    rw [List.map_cons, List.cons_append, Toml.items, ih]
    rfl

/-- What the statements of tables define, table by table. -/
lemma items_tableStatements (path : List Text) (tables : List (DocumentTable ν)) :
    Toml.items path (tableStatements tables) = tables.flatMap fun table =>
      (table.1.splitOn '.', none) :: table.2.map fun entry =>
        (table.1.splitOn '.' ++ [entry.1], some entry.2.2) := by
  induction tables generalizing path with
  | nil => rfl
  | cons table tables ih =>
    have hstatements : tableStatements (table :: tables) =
        .header (table.1.splitOn '.') ::
          (table.2.map (fun entry => .assign entry.1 entry.2.2) ++ tableStatements tables) := by
      simp only [tableStatements, List.flatMap_cons, List.filterMap_append, documentLines,
        List.filterMap_cons, List.filterMap_map, List.filterMap_nil, List.append_nil,
        List.cons_append]
      congr 2
      exact congrFun List.filterMap_eq_map' table.2
    rw [hstatements, Toml.items, items_assigns, ih, List.flatMap_cons, List.cons_append]

lemma mem_items (hundotted : ∀ table ∈ tables, ∀ entry ∈ table.2, '.' ∉ entry.1)
    {item : List Text × Option (Toml.Value ν)} :
    item ∈ Toml.items [] (tableStatements tables) ↔
      (∃ table ∈ tables, item = (table.1.splitOn '.', none)) ∨
        ∃ table ∈ tables, ∃ entry ∈ table.2,
          item = ((keyIn table.1 entry.1).splitOn '.', some entry.2.2) := by
  rw [items_tableStatements, List.mem_flatMap]
  constructor
  · rintro ⟨table, htable, hitem⟩
    rcases List.mem_cons.mp hitem with hheader | hentry
    · exact Or.inl ⟨table, htable, hheader⟩
    · obtain ⟨entry, hmem, rfl⟩ := List.mem_map.mp hentry
      refine Or.inr ⟨table, htable, entry, hmem, ?_⟩
      rw [splitOn_keyIn (hundotted table htable entry hmem)]
  · rintro (⟨table, htable, rfl⟩ | ⟨table, htable, entry, hentry, rfl⟩)
    · exact ⟨table, htable, List.mem_cons_self⟩
    · refine ⟨table, htable, List.mem_cons_of_mem _ (List.mem_map.mpr ⟨entry, hentry, ?_⟩)⟩
      rw [splitOn_keyIn (hundotted table htable entry hentry)]

/-- **The statements of a document are valid.** -/
lemma Written.valid (h : Written round tables) : Toml.Valid (tableStatements tables) where
  nodup := by
    have hall : (tables.map Prod.fst ++ tableKeys tables).Nodup := by
      rw [List.nodup_append]
      refine ⟨h.tables_nodup, h.keys_nodup, ?_⟩
      rintro name htable key hkey rfl
      obtain ⟨table, hmem, rfl⟩ := List.mem_map.mp htable
      exact not_isTable_of_mem_documentKeys (h.isKey _ hkey) (h.isTable table hmem)
    have hperm := List.map_append_flatMap_perm tables Prod.fst fun table =>
      table.2.map fun entry => keyIn table.1 entry.1
    have hpaths := (hperm.nodup_iff.mp hall).map fun _ _ => splitOn_dot_inj
    convert hpaths using 1
    rw [items_tableStatements, List.map_flatMap, List.map_flatMap]
    refine List.flatMap_congr fun table htable => ?_
    rw [List.map_cons, List.map_cons, List.map_map, List.map_map]
    refine congrArg _ (List.map_congr_left fun entry hentry => ?_)
    exact (splitOn_keyIn (h.undotted table htable entry hentry)).symm
  leaf path value hmem item hitem hprefix := by
    rw [mem_items h.undotted] at hmem hitem
    rcases hmem with ⟨_, _, hnone⟩ | ⟨table, htable, entry, hentry, hkey⟩
    · exact absurd hnone (by simp)
    · obtain ⟨rfl, -⟩ := Prod.mk.inj hkey
      have hknown := h.isKey _ (mem_tableKeys.mpr ⟨table, htable, entry, hentry, rfl⟩)
      rcases hitem with ⟨other, hother, rfl⟩ | ⟨other, hother, found, hfound, rfl⟩
      · exact congrArg (List.splitOn '.')
          (eq_of_key_leads hknown (Or.inr (h.isTable other hother)) hprefix)
      · exact congrArg (List.splitOn '.') (eq_of_key_leads hknown
          (Or.inl (h.isKey _ (mem_tableKeys.mpr ⟨other, hother, found, hfound, rfl⟩))) hprefix)

/-- The keys that the statements assign to are those of the tables. -/
lemma Written.assigned (h : Written round tables) {path : List Text} :
    (∃ value, (path, some value) ∈ Toml.items [] (tableStatements tables)) ↔
      ∃ key ∈ tableKeys tables, path = key.splitOn '.' := by
  constructor
  · rintro ⟨value, hmem⟩
    rcases (mem_items h.undotted).mp hmem with ⟨_, _, hnone⟩ | ⟨table, htable, entry, hentry, hkey⟩
    · exact absurd hnone (by simp)
    · exact ⟨_, mem_tableKeys.mpr ⟨table, htable, entry, hentry, rfl⟩, (Prod.mk.inj hkey).1⟩
  · rintro ⟨key, hkey, rfl⟩
    obtain ⟨table, htable, entry, hentry, rfl⟩ := mem_tableKeys.mp hkey
    exact ⟨entry.2.2, (mem_items h.undotted).mpr (Or.inr ⟨table, htable, entry, hentry, rfl⟩)⟩

/-! ## What the document has -/

/-- **Each key of a document leads to its value.** -/
lemma Written.descend_key (h : Written round tables) {table : DocumentTable ν}
    (htable : table ∈ tables) {entry : DocumentEntry ν} (hentry : entry ∈ table.2) :
    (Toml.document (tableStatements tables)).descend ((keyIn table.1 entry.1).splitOn '.') =
      some entry.2.2 :=
  Toml.descend_document h.valid
    ((mem_items h.undotted).mpr (Or.inr ⟨table, htable, entry, hentry, rfl⟩))

/-- A value that a document has for a place on the way to a key is the key's own. -/
lemma Written.not_on_path (h : Written round tables) {path : Text}
    (hpath : path ∈ documentKeys ∨ IsTable path) (habsent : path ∉ tableKeys tables)
    {outer : List Text} {value : Toml.Value ν}
    (hmem : (outer, some value) ∈ Toml.items [] (tableStatements tables)) :
    ¬outer <+: path.splitOn '.' := by
  intro hprefix
  obtain ⟨key, hkey, rfl⟩ := h.assigned.mp ⟨value, hmem⟩
  exact habsent (eq_of_key_leads (h.isKey key hkey) hpath hprefix ▸ hkey)

/-- A key that a document does not have leads nowhere. -/
lemma Written.descend_absent (h : Written round tables) {key : Text} (hkey : key ∈ documentKeys)
    (habsent : key ∉ tableKeys tables) :
    (Toml.document (tableStatements tables)).descend (key.splitOn '.') = none := by
  refine Toml.descend_absent (List.splitOn_ne_nil _ _) (fun item hitem hprefix => ?_)
    (fun outer value hmem => h.not_on_path (Or.inl hkey) habsent hmem) _
  rcases (mem_items h.undotted).mp hitem with ⟨table, htable, rfl⟩ |
    ⟨table, htable, entry, hentry, rfl⟩
  · have heq := eq_of_key_leads hkey (Or.inr (h.isTable table htable)) hprefix
    exact not_isTable_of_mem_documentKeys hkey (heq ▸ h.isTable table htable)
  · have hmem : keyIn table.1 entry.1 ∈ tableKeys tables :=
      mem_tableKeys.mpr ⟨table, htable, entry, hentry, rfl⟩
    have heq := eq_of_key_leads hkey (Or.inl (h.isKey _ hmem)) hprefix
    exact habsent (heq ▸ hmem)

/-- The emptied tables of a document are empty. -/
lemma Written.descend_emptied (h : Written round tables) {name : Text}
    (hname : name ∈ emptiedConfigSections.map String.toList) (hmem : (name, []) ∈ tables) :
    (Toml.document (tableStatements tables)).descend (name.splitOn '.') = some (.table []) := by
  have hitem : (name.splitOn '.', none) ∈ Toml.items [] (tableStatements tables) :=
    (mem_items h.undotted).mpr (Or.inl ⟨(name, []), hmem, rfl⟩)
  have hnokey : name ∉ tableKeys tables := fun hkey =>
    not_isTable_of_mem_documentKeys (h.isKey name hkey) (h.isTable _ hmem)
  refine Toml.descend_empty hitem (fun item hother hprefix => ?_)
    (fun outer value houter => h.not_on_path (Or.inr (h.isTable _ hmem)) hnokey houter)
    (Toml.lt_depth hitem)
  have hsame : ∀ {path : Text}, (path ∈ documentKeys ∨ IsTable path) →
      name.splitOn '.' <+: path.splitOn '.' → path = name := by
    intro path hpath hprefix
    rcases eq_or_before_of_leads hprefix with heq | hbefore
    · exact heq.symm
    · exact absurd hbefore (not_mem_beforeDots (Or.inr hname) hpath)
  rcases (mem_items h.undotted).mp hother with ⟨table, htable, rfl⟩ |
    ⟨table, htable, entry, hentry, rfl⟩
  · rw [hsame (Or.inr (h.isTable table htable)) hprefix]
  · have hkey : keyIn table.1 entry.1 ∈ tableKeys tables :=
      mem_tableKeys.mpr ⟨table, htable, entry, hentry, rfl⟩
    exact absurd (hsame (Or.inl (h.isKey _ hkey)) hprefix ▸ hkey) hnokey

end Tables

/-! ## Values as they are written -/

section Values

variable {numbers : Numbers ν}

lemma hexNumber_paddedHex : ∀ n < 128, (paddedHex n).length = 4 ∧
    Text.hexNumber 0 (paddedHex n) = some n := by
  decide +kernel

lemma escaped_of_lookup : ∀ entry ∈ tomlEscapes, ∃ e,
    entry.2 = ['\\', e] ∧ Toml.escapes.lookup e = some entry.1 := by
  intro entry hentry
  have hcheck : ∀ entry ∈ tomlEscapes, entry.2 = ['\\', entry.2.getLastD ' '] ∧
      Toml.escapes.lookup (entry.2.getLastD ' ') = some entry.1 := by decide +kernel
  exact ⟨_, hcheck entry hentry⟩

/-- What `tomlString` writes for a character stands for that character. -/
lemma body_tomlCharacter (c : Char) {s t : Text} (h : Toml.Body s t) :
    Toml.Body (tomlCharacter c ++ s) (c :: t) := by
  rw [tomlCharacter]
  cases hescape : tomlEscapes.lookup c with
  | some escaped =>
    obtain ⟨before, after, hentries, -⟩ := List.lookup_eq_some_iff.mp hescape
    obtain ⟨e, hwritten, hread⟩ := escaped_of_lookup (c, escaped)
      (hentries ▸ List.mem_append_right _ List.mem_cons_self)
    rw [show escaped = ['\\', e] from hwritten]
    exact .escape hread h
  | none =>
    by_cases hcontrol : (c.toNat < 0x20 || c.toNat == 0x7f) = true
    · have hsmall : c.toNat < 128 := by
        rw [Bool.or_eq_true, decide_eq_true_eq, beq_iff_eq] at hcontrol
        omega
      obtain ⟨hlength, hnumber⟩ := hexNumber_paddedHex c.toNat hsmall
      have hcode : Toml.Body ('\\' :: 'u' :: (paddedHex c.toNat ++ s)) (c :: t) :=
        .code hlength hnumber h
      rw [if_pos hcontrol]
      exact hcode
    · have hplain : Toml.isPlain c = true := by
        rw [List.lookup_eq_none_iff] at hescape
        have hquote := hescape ('"', "\\\"".toList) (by simp [tomlEscapes])
        have hslash := hescape ('\\', "\\\\".toList) (by simp [tomlEscapes])
        rw [Bool.or_eq_true, decide_eq_true_eq, beq_iff_eq] at hcontrol
        simp only [Toml.isPlain, Bool.and_eq_true, Bool.or_eq_true, bne_iff_ne, decide_eq_true_eq]
        simp only [bne_iff_ne, ne_eq] at hquote hslash
        exact ⟨⟨⟨by simpa using hquote, by simpa using hslash⟩, Or.inl (by omega)⟩, by omega⟩
      rw [if_neg hcontrol]
      exact .plain hplain h

lemma body_tomlString : ∀ value : Text, Toml.Body (value.flatMap tomlCharacter) value
  | [] => .nil
  | c :: value => body_tomlCharacter c (body_tomlString value)

lemma integer_tomlInt (n : Int) :
    Toml.isInteger (tomlInt n) = true ∧ Toml.integer (tomlInt n) = n := by
  have hdigits := Toml.isDigits_toDigits n.natAbs
  by_cases hneg : n < 0
  · have hwritten : tomlInt n = '-' :: Nat.toDigits 10 n.natAbs := if_pos hneg
    rw [hwritten, Toml.isInteger, Toml.integer, Toml.unsigned]
    refine ⟨hdigits, ?_⟩
    rw [if_pos rfl, Toml.natural_toDigits]
    omega
  · have hwritten : tomlInt n = Nat.toDigits 10 n.natAbs := if_neg hneg
    have hunsigned : Toml.unsigned (Nat.toDigits 10 n.natAbs ++ []) = _ :=
      Toml.unsigned_of_digits (Toml.all_isDigit_toDigits n.natAbs) Nat.toDigits_ne_nil
    rw [List.append_nil] at hunsigned
    rw [hwritten, Toml.isInteger, Toml.integer, hunsigned]
    refine ⟨hdigits, ?_⟩
    rw [if_neg Bool.false_ne_true, Toml.natural_toDigits]
    omega

lemma fraction_fixedOne {n : Int} (hn : 0 ≤ n) :
    Toml.isFraction (fixedOne n) = true ∧ Toml.fraction (fixedOne n) = n := by
  have hwritten : fixedOne n = Nat.toDigits 10 n.natAbs ++ '.' :: ['0'] := by
    rw [fixedOne, tomlInt, if_neg (by omega)]
    rfl
  have hzero : (['0'] : Text).all Text.isDigit = true := by decide
  obtain ⟨hshape, hvalue⟩ := Toml.fraction_append (Toml.isDigits_toDigits n.natAbs) hzero
    (List.cons_ne_nil _ _)
  rw [hwritten]
  refine ⟨hshape, hvalue.trans ?_⟩
  have hnatural : Toml.natural (Nat.toDigits 10 n.natAbs ++ ['0']) = 10 * n.natAbs := by
    rw [Toml.natural, Nat.ofDigitChars_append, Nat.ofDigitChars_ten_toDigits]
    rfl
  have habs : (n.natAbs : Rat) = n := by
    rw [← Int.cast_natCast, Int.natAbs_of_nonneg hn]
  rw [hnatural, List.length_singleton, pow_one, Nat.cast_mul, habs]
  exact mul_div_cancel_left₀ _ (by decide)
lemma spells_tomlString (value : Text) :
    Toml.SpellsValue numbers.round (tomlString value) (.text value) :=
  .text (body_tomlString value)

lemma spells_integerShape {t : Text} (h : integerShape t = true) :
    Toml.SpellsValue numbers.round t (.number (numbers.round (Toml.integer t))) := by
  rw [integerShape, Bool.or_eq_true, beq_iff_eq] at h
  rcases h with rfl | h
  · exact .integer (by decide) (by decide)
  · simp only [Bool.and_eq_true, decide_eq_true_eq, bne_iff_ne] at h
    obtain ⟨⟨⟨hall, hone⟩, hten⟩, hhead⟩ := h
    have hdigits : Toml.isDigits (Toml.unsigned t).2 = true := by
      have hempty : (Toml.unsigned t).2.isEmpty = false := by
        rw [List.isEmpty_eq_false_iff]
        exact List.ne_nil_of_length_pos hone
      simp [Toml.isDigits, hall, hempty, hhead]
    have habs : (Toml.integer t).natAbs = Toml.natural (Toml.unsigned t).2 := by
      rw [Toml.integer]
      split <;> omega
    have hbound : Toml.natural (Toml.unsigned t).2 < 10 ^ 10 :=
      (Toml.natural_lt hall).trans_le (Nat.pow_le_pow_right (by decide) hten)
    have hmax : 10 ^ 10 ≤ Toml.maxInteger := by decide
    exact .integer hdigits (by omega)

/-- The value that the document has for a setting. -/
def settingToml (numbers : Numbers ν) : KeySchema → KeyValue → Toml.Value ν
  | .boolean, .one t => .boolean (t == "true".toList)
  | .decimal _, .one t => .number (numbers.round (Toml.fraction t))
  | .integerWithin _ _, .one t => .number (numbers.round (Toml.integer t))
  | _, .one t => .text t
  | _, .many values => .list (values.map .text)

/-- The schema's values are strings. -/
def KeySchema.isQuoted : KeySchema → Bool
  | .choice _ | .fileName | .expandedFileName => true
  | _ => false

lemma operatorKeys_nodup : (shapeKeys operatorShape).Nodup :=
  (List.nodup_append.mp documentKeys_nodup).2.1

/-- A key of a part of the shape is an entry of that part. -/
lemma mem_shapeKeys_iff {shape : List (String × KeySchema)} (hshape : shape ⊆ operatorShape)
    {entry : String × KeySchema} (hentry : entry ∈ operatorShape) :
    entry.1.toList ∈ shapeKeys shape ↔ entry ∈ shape := by
  constructor
  · intro hkey
    obtain ⟨other, hother, heq⟩ := List.mem_map.mp hkey
    rwa [← List.inj_on_of_nodup_map operatorKeys_nodup (hshape hother) hentry heq]
  · intro hmem
    exact List.mem_map_of_mem hmem

/-- The schema that a part of the shape has for the key of one of its entries. -/
lemma schemaOf_eq_some {shape : List (String × KeySchema)} (hshape : shape ⊆ operatorShape)
    {entry : String × KeySchema} (hentry : entry ∈ shape) :
    schemaOf shape entry.1.toList = some entry.2 := by
  rw [schemaOf, Option.map_eq_some_iff]
  obtain ⟨found, hfound⟩ : ∃ found,
      shape.find? (fun other => other.1.toList == entry.1.toList) = some found :=
    Option.isSome_iff_exists.mp (List.find?_isSome.mpr ⟨entry, hentry, beq_self_eq_true _⟩)
  have hfinds := List.find?_some hfound
  have hkey : found.1.toList = entry.1.toList := beq_iff_eq.mp hfinds
  have hsame := List.inj_on_of_nodup_map operatorKeys_nodup
    (hshape (List.mem_of_find?_eq_some hfound)) (hshape hentry) hkey
  exact ⟨found, hfound, congrArg Prod.snd hsame⟩

/-- A schema quotes its values where the entry is a choice or a file name. -/
lemma isQuoted_iff {entry : String × KeySchema} (hentry : entry ∈ operatorShape) :
    entry ∈ advancedEnumShape ++ storedPathShape ↔ entry.2.isQuoted = true := by
  have hquoted : ∀ entry ∈ advancedEnumShape ++ storedPathShape, entry.2.isQuoted = true := by
    decide +kernel
  have hplain : ∀ entry ∈ advancedBooleanShape ++ advancedNumberShape ++ botConfigListShape ++
      botConfigBooleanShape ++ botConfigIntegerShape ++ botConfigFloatShape ++ pinnedShape,
      entry.2.isQuoted = false := by
    decide +kernel
  refine ⟨hquoted entry, fun hschema => ?_⟩
  have hnot := mt (hplain entry) (by simp [hschema])
  simp only [operatorShape, advancedKeyShape, storedBotConfigShape, List.mem_append,
    not_or] at hentry hnot ⊢
  tauto

/-- The values of a key are a list where its schema is that of the alert words. -/
lemma alertWords_iff {entry : String × KeySchema} (hentry : entry ∈ operatorShape) :
    entry ∈ botConfigListShape ↔ entry.2 = .alertWords := by
  have hlist : ∀ entry ∈ botConfigListShape, entry.2 = .alertWords := by
    decide +kernel
  have hplain : ∀ entry ∈ advancedKeyShape ++ storedPathShape ++ botConfigBooleanShape ++
      botConfigIntegerShape ++ botConfigFloatShape ++ pinnedShape, entry.2 ≠ .alertWords := by
    decide +kernel
  refine ⟨hlist entry, fun hschema => ?_⟩
  have hnot : entry ∉ _ := fun hmem => hplain entry hmem hschema
  simp only [operatorShape, storedBotConfigShape, List.mem_append, not_or] at hentry hnot ⊢
  tauto

/-- The keys of an operator are quoted and listed as their schemas say. -/
lemma operatorShape_quoting {entry : String × KeySchema} (hentry : entry ∈ operatorShape) :
    quotedConfigNames.contains entry.1.toList = entry.2.isQuoted ∧
      listConfigNames.contains entry.1.toList = (entry.2 == .alertWords) := by
  have hquoted : advancedEnumShape ++ storedPathShape ⊆ operatorShape := by
    intro other hother
    simp only [operatorShape, advancedKeyShape, storedBotConfigShape, List.mem_append] at hother ⊢
    tauto
  have hlist : botConfigListShape ⊆ operatorShape := by
    intro other hother
    simp only [operatorShape, storedBotConfigShape, List.mem_append]
    tauto
  have hnames : quotedConfigNames = shapeKeys (advancedEnumShape ++ storedPathShape) :=
    (List.map_append).symm
  constructor
  · rw [Bool.eq_iff_iff, List.contains_iff_mem, hnames, mem_shapeKeys_iff hquoted hentry,
      isQuoted_iff hentry]
  · rw [Bool.eq_iff_iff, List.contains_iff_mem, listConfigNames, mem_shapeKeys_iff hlist hentry,
      alertWords_iff hentry, beq_iff_eq]

lemma spells_boolean {t : Text} (h : t = "true".toList ∨ t = "false".toList) :
    Toml.SpellsValue numbers.round t (.boolean (t == "true".toList)) := by
  rcases h with rfl | rfl
  · exact .boolean true
  · exact .boolean false

lemma spells_list (values : List Text) :
    Toml.SpellsValue numbers.round
      (if values.isEmpty then "[]".toList
      else "[ ".toList ++ Text.join ", ".toList (values.map tomlString) ++ " ]".toList)
      (.list (values.map .text)) := by
  by_cases hempty : values = []
  · subst hempty
    exact .nil
  · obtain ⟨entries, hentries⟩ : ∃ entries : List (Text × Toml.Value ν),
        entries = values.map fun value => (tomlString value, .text value) := ⟨_, rfl⟩
    have hne : entries ≠ [] := by simpa [hentries] using hempty
    have hspells : ∀ entry ∈ entries, Toml.SpellsValue numbers.round entry.1 entry.2 := by
      intro entry hentry
      obtain ⟨value, -, rfl⟩ := List.mem_map.mp (hentries ▸ hentry)
      exact spells_tomlString value
    have hlist := Toml.SpellsValue.list hne hspells
    rw [hentries, List.map_map, List.map_map] at hlist
    rw [if_neg (by simpa using hempty)]
    exact hlist

/-- **A setting that its schema accepts is rendered as its value.** -/
lemma spells_renderConfigValue {entry : String × KeySchema} (hentry : entry ∈ operatorShape)
    {value : KeyValue} (haccepts : entry.2.accepts numbers value = true) :
    Toml.SpellsValue numbers.round (renderConfigValue entry.1.toList value)
      (settingToml numbers entry.2 value) := by
  obtain ⟨hquoted, hlist⟩ := operatorShape_quoting hentry
  obtain ⟨key, schema⟩ := entry
  simp only [renderConfigValue, hlist, hquoted]
  cases value with
  | many values =>
    rw [KeySchema.accepts, Bool.and_eq_true] at haccepts
    obtain rfl : schema = .alertWords := by simpa using haccepts.1
    exact spells_list values
  | one t =>
    rw [KeySchema.accepts] at haccepts
    cases schema with
    | alertWords => exact absurd haccepts Bool.false_ne_true
    | boolean =>
      have htext : t = "true".toList ∨ t = "false".toList := by
        simpa [KeySchema.acceptsOne] using haccepts
      exact spells_boolean htext
    | decimal rule =>
      rw [KeySchema.acceptsOne, Bool.and_eq_true, Bool.and_eq_true] at haccepts
      exact .fraction haccepts.1.1
    | integerWithin min max =>
      rw [KeySchema.acceptsOne, Bool.and_eq_true, Bool.and_eq_true] at haccepts
      exact spells_integerShape haccepts.1.1
    | choice options => exact spells_tomlString t
    | fileName => exact spells_tomlString t
    | expandedFileName => exact spells_tomlString t

end Values

end OpenMcc
