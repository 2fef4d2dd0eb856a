import OpenMcc.Construction.ConfigRender

/-!
# The keys and the tables of the client's document

The names that a rendered document is made of are closed lists: no key is another's table, no name
needs quotes, and each key of the two lists `ALLOWED_CONFIG_KEYS` and `FIXED_CONFIG_KEYS` has its
place.  The facts about them are one check over the characters of all names, `names_checked`.
-/

namespace OpenMcc

/-! ## The names -/

/-- The tables that every document has. -/
def managedTables : List String :=
  ["Main.General", "Main.General.Account", "Main.General.Server", "Main.Advanced",
    "Main.Advanced.AccountList", "Main.Advanced.ServerList", "ChatBot.AutoRelog",
    "ChatBot.AntiAFK", "ChatBot.McpServer", "ChatBot.McpServer.Transport",
    "ChatBot.McpServer.Capabilities", "Console.General", "Logging", "ChatBot.AutoRespond",
    "ChatBot.ScriptScheduler", "ChatBot.DiscordBridge", "ChatBot.TelegramBridge"]

/-- The keys in these tables, in the order of a document. -/
def managedNames : List (String × String) :=
  [("Main.General", "AccountType"), ("Main.General", "Method"), ("Main.General.Account", "Login"),
    ("Main.General.Account", "Password"), ("Main.General.Server", "Host"),
    ("Main.General.Server", "Port"), ("Main.Advanced", "EnableSentry"),
    ("Main.Advanced", "ExitOnFailure"), ("Main.Advanced", "IgnoreInvalidPlayerName"),
    ("Main.Advanced", "InternalCmdChar"), ("Main.Advanced", "ShowGithubStarReminder"),
    ("Main.Advanced", "BotOwners"), ("Main.Advanced", "MinecraftVersion"),
    ("Main.Advanced", "AutoRespawn"), ("Main.Advanced", "TerrainAndMovements"),
    ("Main.Advanced", "InventoryHandling"), ("Main.Advanced", "EntityHandling"),
    ("ChatBot.AutoRelog", "Enabled"), ("ChatBot.AutoRelog", "Retries"),
    ("ChatBot.AutoRelog", "Delay"), ("ChatBot.AntiAFK", "Enabled"), ("ChatBot.AntiAFK", "Delay"),
    ("ChatBot.McpServer", "Enabled"), ("ChatBot.McpServer.Transport", "BindHost"),
    ("ChatBot.McpServer.Transport", "Port"), ("ChatBot.McpServer.Transport", "Route"),
    ("ChatBot.McpServer.Transport", "RequireAuthToken"),
    ("ChatBot.McpServer.Transport", "AuthTokenEnvVar"),
    ("ChatBot.McpServer.Capabilities", "SessionStatus"),
    ("ChatBot.McpServer.Capabilities", "ChatAndCommands"),
    ("ChatBot.McpServer.Capabilities", "Movement"),
    ("ChatBot.McpServer.Capabilities", "Inventory"),
    ("ChatBot.McpServer.Capabilities", "EntityWorld"), ("Console.General", "ConsoleMode"),
    ("Logging", "LogToFile"), ("ChatBot.AutoRespond", "Enabled"),
    ("ChatBot.ScriptScheduler", "Enabled"), ("ChatBot.DiscordBridge", "Enabled"),
    ("ChatBot.TelegramBridge", "Enabled")]

/-- The same keys, each as one name. -/
def managedKeys : List String :=
  ["Main.General.AccountType", "Main.General.Method", "Main.General.Account.Login",
    "Main.General.Account.Password", "Main.General.Server.Host", "Main.General.Server.Port",
    "Main.Advanced.EnableSentry", "Main.Advanced.ExitOnFailure",
    "Main.Advanced.IgnoreInvalidPlayerName", "Main.Advanced.InternalCmdChar",
    "Main.Advanced.ShowGithubStarReminder", "Main.Advanced.BotOwners",
    "Main.Advanced.MinecraftVersion", "Main.Advanced.AutoRespawn",
    "Main.Advanced.TerrainAndMovements", "Main.Advanced.InventoryHandling",
    "Main.Advanced.EntityHandling", "ChatBot.AutoRelog.Enabled", "ChatBot.AutoRelog.Retries",
    "ChatBot.AutoRelog.Delay", "ChatBot.AntiAFK.Enabled", "ChatBot.AntiAFK.Delay",
    "ChatBot.McpServer.Enabled", "ChatBot.McpServer.Transport.BindHost",
    "ChatBot.McpServer.Transport.Port", "ChatBot.McpServer.Transport.Route",
    "ChatBot.McpServer.Transport.RequireAuthToken",
    "ChatBot.McpServer.Transport.AuthTokenEnvVar",
    "ChatBot.McpServer.Capabilities.SessionStatus",
    "ChatBot.McpServer.Capabilities.ChatAndCommands", "ChatBot.McpServer.Capabilities.Movement",
    "ChatBot.McpServer.Capabilities.Inventory", "ChatBot.McpServer.Capabilities.EntityWorld",
    "Console.General.ConsoleMode", "Logging.LogToFile", "ChatBot.AutoRespond.Enabled",
    "ChatBot.ScriptScheduler.Enabled", "ChatBot.DiscordBridge.Enabled",
    "ChatBot.TelegramBridge.Enabled"]

/-- The schemas of `PINNED_BOT_CONFIG`. -/
def pinnedShape : List (String × KeySchema) :=
  ["ChatBot.Map.Send_Rendered_To_Discord", "ChatBot.Map.Send_Rendered_To_Telegram",
    "ChatBot.ChatLog.Enabled", "ChatBot.Alerts.Log_To_File",
    "ChatBot.Map.Save_To_File"].map fun key => (key, .boolean)

/-- The keys that `renderConfigTables` is given. -/
def operatorShape : List (String × KeySchema) :=
  advancedKeyShape ++ storedBotConfigShape ++ pinnedShape

/-- The key of a name in a table. -/
def keyIn (table name : Text) : Text := table ++ '.' :: name

/-- What stands in a text before one of its dots. -/
def beforeDots : Text → List Text
  | [] => []
  | c :: t => (if c == '.' then [[]] else []) ++ (beforeDots t).map (c :: ·)

/-! ## The check -/

/-- What is checked of the names of a document. -/
structure NamesCheck (tables : List Text) (names : List (Text × Text))
    (keys allowed fixed operator pinned emptied : List Text) : Prop where
  keys_eq : names.map (fun name => keyIn name.1 name.2) = keys
  known : ∀ key ∈ keys, key ∈ allowed ++ fixed
  placed : ∀ key ∈ allowed ++ fixed, key ∈ keys ++ pinned
  pinned_fixed : ∀ key ∈ pinned, key ∈ fixed
  port_allowed : ∀ port ∈ keys[5]?, port ∉ fixed
  nodup : ((keys ++ operator).map Text.number).Nodup
  tables_nodup : (tables.map Text.number).Nodup
  tables_apart : ∀ table ∈ tables, ∀ other ∈ ((operator.map tableOf).map Text.number).dedup,
    table.number ≠ other
  undotted : ∀ name ∈ names, name.2.contains '.' = false
  dotted : ∀ key ∈ operator, key.contains '.' = true
  bare : ∀ path ∈ keys ++ operator ++ tables, ∀ part ∈ path.splitOn '.',
    Toml.isBareKey part = true
  apart : ∀ before ∈ (((keys ++ operator ++ tables).flatMap beforeDots).map Text.number).dedup,
    ∀ outer ∈ keys ++ operator ++ emptied, Text.number outer ≠ before
  not_table : ∀ key ∈ keys ++ operator, ∀ table ∈ tables, Text.number key ≠ Text.number table

lemma exists_names_checked : ∃ tables outer inner keys allowed fixed operator pinned emptied,
    Text.SpelledOut managedTables tables ∧
    Text.SpelledOut (managedNames.map Prod.fst) outer ∧
    Text.SpelledOut (managedNames.map Prod.snd) inner ∧
    Text.SpelledOut managedKeys keys ∧
    Text.SpelledOut allowedConfigKeys allowed ∧
    Text.SpelledOut fixedConfigKeys fixed ∧
    Text.SpelledOut (operatorShape.map Prod.fst) operator ∧
    Text.SpelledOut (pinnedShape.map Prod.fst) pinned ∧
    Text.SpelledOut emptiedConfigSections emptied ∧
    NamesCheck tables (outer.zip inner) keys allowed fixed operator pinned emptied := by
  iterate 9 apply Exists.intro
  iterate 9
    apply And.intro
    · repeat first | exact Text.SpelledOut.nil | apply Text.SpelledOut.cons
  constructor
  all_goals decide +kernel

/-- **The names of a document pass the check.** -/
lemma names_checked :
    NamesCheck (managedTables.map String.toList)
      (managedNames.map fun name => (name.1.toList, name.2.toList))
      (managedKeys.map String.toList) (allowedConfigKeys.map String.toList)
      (fixedConfigKeys.map String.toList) (shapeKeys operatorShape) (shapeKeys pinnedShape)
      (emptiedConfigSections.map String.toList) := by
  obtain ⟨tables, outer, inner, keys, allowed, fixed, operator, pinned, emptied, htables, houter,
    hinner, hkeys, hallowed, hfixed, hoperator, hpinned, hemptied, hcheck⟩ := exists_names_checked
  have hshape : ∀ shape : List (String × KeySchema),
      shapeKeys shape = (shape.map Prod.fst).map String.toList := by
    intro shape
    rw [shapeKeys, List.map_map]
    rfl
  have hnames : managedNames.map (fun name => (name.1.toList, name.2.toList)) =
      outer.zip inner := by
    refine List.zip_of_prod ?_ ?_
    · rw [← houter.map_toList, List.map_map, List.map_map]
      rfl
    · rw [← hinner.map_toList, List.map_map, List.map_map]
      rfl
  rw [hnames, hshape, hshape, htables.map_toList, hkeys.map_toList, hallowed.map_toList,
    hfixed.map_toList, hoperator.map_toList, hpinned.map_toList, hemptied.map_toList]
  exact hcheck

/-! ## Paths -/

section Paths

variable {p q key table name : Text}

lemma mem_beforeDots : p ∈ beforeDots q ↔ ∃ rest, q = p ++ '.' :: rest := by
  induction q generalizing p with
  | nil => simp [beforeDots]
  | cons c q ih =>
    rw [beforeDots, List.mem_append, List.mem_map]
    constructor
    · rintro (hhere | ⟨before, hbefore, rfl⟩)
      · by_cases hdot : c = '.'
        · subst hdot
          obtain rfl : p = [] := by simpa using hhere
          exact ⟨q, rfl⟩
        · simp [hdot] at hhere
      · obtain ⟨rest, rfl⟩ := ih.mp hbefore
        exact ⟨rest, rfl⟩
    · rintro ⟨rest, hq⟩
      cases p with
      | nil =>
        rw [List.nil_append, List.cons.injEq] at hq
        simp [hq.1]
      | cons first p =>
        rw [List.cons_append, List.cons.injEq] at hq
        exact Or.inr ⟨p, ih.mpr ⟨rest, hq.2⟩, by rw [hq.1]⟩

lemma splitOn_keyIn (hname : '.' ∉ name) :
    (keyIn table name).splitOn '.' = table.splitOn '.' ++ [name] := by
  rw [keyIn, List.splitOn_append_cons_self, List.splitOn_eq_singleton hname]

lemma splitOn_dot_inj (h : p.splitOn '.' = q.splitOn '.') : p = q := by
  have hjoin := congrArg (Text.join ['.']) h
  rwa [Text.join, Text.join, List.intercalate_splitOn, List.intercalate_splitOn] at hjoin

/-- A path inside of another stands before one of its dots. -/
lemma eq_or_before_of_leads (h : p.splitOn '.' <+: q.splitOn '.') :
    p = q ∨ p ∈ beforeDots q := by
  obtain ⟨rest, hrest⟩ := h
  by_cases hnil : rest = []
  · rw [hnil, List.append_nil] at hrest
    exact Or.inl (splitOn_dot_inj hrest)
  · refine Or.inr (mem_beforeDots.mpr ⟨Text.join ['.'] rest, ?_⟩)
    have hjoin := Text.join_append ['.'] (List.splitOn_ne_nil '.' p) hnil
    rw [hrest, Text.join, Text.join, List.intercalate_splitOn, List.intercalate_splitOn] at hjoin
    rw [hjoin, List.append_assoc]
    rfl

/-- A key with a dot is its name in its table. -/
lemma keyIn_tableOf_nameOf (h : '.' ∈ key) :
    keyIn (tableOf key) (nameOf key) = key ∧ '.' ∉ nameOf key := by
  have hsplit := List.takeWhile_append_dropWhile (p := (· != '.')) (l := key.reverse)
  have hne : key.reverse.dropWhile (· != '.') ≠ [] := by
    intro hnil
    rw [List.dropWhile_eq_nil_iff] at hnil
    exact absurd (hnil '.' (List.mem_reverse.mpr h)) (by decide)
  obtain ⟨c, before, hbefore⟩ := List.exists_cons_of_ne_nil hne
  have hdot : c = '.' := by
    have hhead := List.head_dropWhile_not (· != '.') hne
    simpa [hbefore] using hhead
  constructor
  · rw [hbefore, hdot] at hsplit
    have hkey := congrArg List.reverse hsplit
    rw [List.reverse_append, List.reverse_cons, List.reverse_reverse] at hkey
    rw [keyIn, tableOf, nameOf, hbefore, List.tail_cons]
    simpa using hkey
  · intro hmem
    rw [nameOf, List.mem_reverse] at hmem
    exact absurd (List.mem_takeWhile_imp hmem) (by decide)

end Paths

/-! ## Keys and tables -/

/-- The keys that a document may have. -/
def documentKeys : List Text := managedKeys.map String.toList ++ shapeKeys operatorShape

/-- A table that a document may have. -/
def IsTable (table : Text) : Prop :=
  table ∈ managedTables.map String.toList ∨ ∃ key ∈ shapeKeys operatorShape, tableOf key = table

section Keys

variable {key table path : Text}

lemma documentKeys_nodup : documentKeys.Nodup := names_checked.nodup.of_map

lemma keyIn_operator (h : key ∈ shapeKeys operatorShape) :
    keyIn (tableOf key) (nameOf key) = key ∧ '.' ∉ nameOf key :=
  keyIn_tableOf_nameOf (List.contains_iff_mem.mp (names_checked.dotted key h))

/-- A table of the operator's keys stands before a dot of one of them. -/
lemma tableOf_mem_beforeDots (h : key ∈ shapeKeys operatorShape) :
    tableOf key ∈ beforeDots key :=
  mem_beforeDots.mpr ⟨nameOf key, (keyIn_operator h).1.symm⟩

lemma mem_beforeDots_trans {p q r : Text} (hpq : p ∈ beforeDots q) (hqr : q ∈ beforeDots r) :
    p ∈ beforeDots r := by
  obtain ⟨first, rfl⟩ := mem_beforeDots.mp hpq
  obtain ⟨second, rfl⟩ := mem_beforeDots.mp hqr
  refine mem_beforeDots.mpr ⟨first ++ '.' :: second, ?_⟩
  rw [List.append_assoc, List.cons_append]

/-- No key and no emptied table is on the way to a key or a table. -/
lemma not_mem_beforeDots {outer : Text}
    (houter : outer ∈ documentKeys ∨ outer ∈ emptiedConfigSections.map String.toList)
    (hpath : path ∈ documentKeys ∨ IsTable path) : outer ∉ beforeDots path := by
  have hall : outer ∈ managedKeys.map String.toList ++ shapeKeys operatorShape ++
      emptiedConfigSections.map String.toList := by
    rcases houter with houter | houter
    · exact List.mem_append_left _ houter
    · exact List.mem_append_right _ houter
  have hknown : ∀ inner, (inner ∈ documentKeys ∨ inner ∈ managedTables.map String.toList) →
      outer ∉ beforeDots inner := by
    intro inner hinner hbefore
    refine names_checked.apart (Text.number outer) (List.mem_dedup.mpr ?_) outer hall rfl
    refine List.mem_map_of_mem (List.mem_flatMap.mpr ⟨inner, ?_, hbefore⟩)
    rcases hinner with hinner | hinner
    · exact List.mem_append_left _ hinner
    · exact List.mem_append_right _ hinner
  rcases hpath with hkey | htable | ⟨key, hkey, rfl⟩
  · exact hknown path (Or.inl hkey)
  · exact hknown path (Or.inr htable)
  · intro hbefore
    exact hknown key (Or.inl (List.mem_append_right _ hkey))
      (mem_beforeDots_trans hbefore (tableOf_mem_beforeDots hkey))

lemma not_isTable_of_mem_documentKeys (hkey : key ∈ documentKeys) : ¬IsTable key := by
  rintro (htable | ⟨other, hother, rfl⟩)
  · exact names_checked.not_table key hkey key htable rfl
  · exact not_mem_beforeDots (Or.inl hkey) (Or.inl (List.mem_append_right _ hother))
      (tableOf_mem_beforeDots hother)

/-- **A key's path leads to nothing else.** -/
lemma eq_of_key_leads (hkey : key ∈ documentKeys) (hpath : path ∈ documentKeys ∨ IsTable path)
    (h : key.splitOn '.' <+: path.splitOn '.') : path = key := by
  rcases eq_or_before_of_leads h with heq | hbefore
  · exact heq.symm
  · exact absurd hbefore (not_mem_beforeDots (Or.inl hkey) hpath)

lemma isBareKey_of_mem_splitOn (hpath : path ∈ documentKeys ∨ IsTable path) {part : Text}
    (hpart : part ∈ path.splitOn '.') : Toml.isBareKey part = true := by
  have hknown : ∀ inner, (inner ∈ documentKeys ∨ inner ∈ managedTables.map String.toList) →
      part ∈ inner.splitOn '.' → Toml.isBareKey part = true := by
    intro inner hinner hmem
    refine names_checked.bare inner ?_ part hmem
    rcases hinner with hinner | hinner
    · exact List.mem_append_left _ hinner
    · exact List.mem_append_right _ hinner
  rcases hpath with hkey | htable | ⟨key, hkey, rfl⟩
  · exact hknown path (Or.inl hkey) hpart
  · exact hknown path (Or.inr htable) hpart
  · refine hknown key (Or.inl (List.mem_append_right _ hkey)) ?_
    rw [← (keyIn_operator hkey).1, splitOn_keyIn (keyIn_operator hkey).2]
    exact List.mem_append_left _ hpart

lemma mem_sortTexts {t : Text} {texts : List Text} : t ∈ sortTexts texts ↔ t ∈ texts :=
  (List.mergeSort_perm texts _).mem_iff

/-- `ALL_KEYS` are the keys a document may have. -/
lemma mem_allKeys : key ∈ allKeys ↔ key ∈ documentKeys := by
  have hshape : shapeKeys operatorShape =
      shapeKeys advancedKeyShape ++ botConfigNames ++ shapeKeys pinnedShape := by
    rw [shapeKeys, operatorShape, List.map_append, List.map_append]
    rfl
  have hknown := names_checked.known key
  have hplaced := names_checked.placed key
  have hpinned := names_checked.pinned_fixed key
  rw [allKeys, documentKeys, hshape, advancedKeyNames]
  simp only [List.mem_append, mem_sortTexts] at hknown hplaced ⊢
  constructor
  · rintro ((h | h) | h)
    · exact (hplaced h).imp_right Or.inr
    · exact Or.inr (Or.inl (Or.inl h))
    · exact Or.inr (Or.inl (Or.inr h))
  · rintro (h | (h | h) | h)
    · exact Or.inl (Or.inl (hknown h))
    · exact Or.inl (Or.inr h)
    · exact Or.inr h
    · exact Or.inl (Or.inl (Or.inr (hpinned h)))

end Keys

end OpenMcc
