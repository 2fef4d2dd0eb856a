import OpenMcc.Properties.ChatComponent

/-!
# A component that is written is shown

A server writes a component as a JSON object with the fields that it has (`toJson`).  What
`renderChatJson` makes of the text is what the component says, in the order in which it says it and
whatever its style (`renderChatJson_toJson`): the reader, the schema and the flattening lose nothing
and add nothing, and a tree that is nested too deep is not shown at all.
-/

namespace OpenMcc

namespace ChatComponents

open Json

variable {ν : Type}

/-! ## Writing a component -/

/-- A field that is written where it is there. -/
def field (name : String) (v : Option (Json Text ν)) : List (Text × Json Text ν) :=
  (v.map fun v => (name.toList, v)).toList

/-- The array of a list that is not empty. -/
def arrayOf : List (Json Text ν) → Option (Json Text ν)
  | [] => none
  | v :: items => some (.array (v :: items))

/-- The fields of the style. -/
def settingFields (setting : Setting Text) : List (Text × Json Text ν) :=
  field "color" (setting.color.map .string) ++ (field "bold" (setting.bold.map .bool) ++
    (field "italic" (setting.italic.map .bool) ++
      (field "underlined" (setting.underlined.map .bool) ++
        (field "strikethrough" (setting.strikethrough.map .bool) ++
          field "obfuscated" (setting.obfuscated.map .bool)))))

/-- The fields of a component, with its lists as they are written. -/
def fields (text translate : Option Text) (args extra : List (Json Text ν))
    (setting : Setting Text) : List (Text × Json Text ν) :=
  field "text" (text.map .string) ++ (field "translate" (translate.map .string) ++
    (field "with" (arrayOf args) ++ (field "extra" (arrayOf extra) ++ settingFields setting)))

mutual

/-- The component as a JSON value. -/
def toJson : ChatComponent Text → Json Text ν
  | .mk text translate args extra setting =>
    .object (fields text translate (toJsonEach args) (toJsonEach extra) setting)

/-- The components as JSON values. -/
def toJsonEach : List (ChatComponent Text) → List (Json Text ν)
  | [] => []
  | node :: nodes => toJson node :: toJsonEach nodes

end

/-- The setting as it is read. -/
def Setting.units (setting : Setting Text) : Setting Units where
  color := setting.color.map Json.units
  bold := setting.bold
  italic := setting.italic
  underlined := setting.underlined
  strikethrough := setting.strikethrough
  obfuscated := setting.obfuscated

mutual

/-- The component as it is read. -/
def unitsOf : ChatComponent Text → ChatComponent Units
  | .mk text translate args extra setting =>
    .mk (text.map Json.units) (translate.map Json.units) (unitsOfEach args) (unitsOfEach extra)
      setting.units

/-- The components as they are read. -/
def unitsOfEach : List (ChatComponent Text) → List (ChatComponent Units)
  | [] => []
  | node :: nodes => unitsOf node :: unitsOfEach nodes

end

mutual

/-- The colours of the component are ones that the schema has. -/
def colored : ChatComponent Text → Bool
  | .mk _ _ args extra setting =>
    setting.color.all (fun t => isColor (Json.units t)) && coloredEach args && coloredEach extra

/-- The colours of the components are ones that the schema has. -/
def coloredEach : List (ChatComponent Text) → Bool
  | [] => true
  | node :: nodes => colored node && coloredEach nodes

end

mutual

/-- What a component says, where nothing is translated. -/
def textOf : ChatComponent Text → Text
  | .mk text translate args extra _ =>
    text.getD [] ++
      (match translate with
        | none => []
        | some key => (if args.length = 0 then key else []) ++ textOfEach args) ++
      textOfEach extra

/-- What the components say, one after the other. -/
def textOfEach : List (ChatComponent Text) → Text
  | [] => []
  | node :: nodes => textOf node ++ textOfEach nodes

end

/-! ## The members of an object with other names each -/

/-- A member as it is read. -/
def memberUnits (m : Text × Json Text ν) : Units × Json Units ν := (units m.1, Json.toUnits m.2)

lemma setMember_new {key : Units} (v : Json Units ν) {members : List (Units × Json Units ν)}
    (h : key ∉ members.map Prod.fst) : setMember key v members = members ++ [(key, v)] := by
  induction members with
  | nil => rfl
  | cons m members ih =>
    obtain ⟨key', v'⟩ := m
    rw [List.map_cons, List.mem_cons, not_or] at h
    rw [setMember, if_neg (Ne.symm h.1), ih h.2, List.cons_append]

lemma membersUnits_eq {members : List (Text × Json Text ν)} :
    ∀ {before : List (Units × Json Units ν)},
      (before.map Prod.fst ++ members.map fun m => units m.1).Nodup →
        membersUnits before members = before ++ members.map memberUnits := by
  induction members with
  | nil =>
    intro before _
    rw [membersUnits, List.map_nil, List.append_nil]
  | cons m members ih =>
    obtain ⟨key, v⟩ := m
    intro before h
    have hnew : units key ∉ before.map Prod.fst := by
      intro hmem
      exact (List.nodup_append.1 h).2.2 _ hmem _ List.mem_cons_self rfl
    rw [membersUnits, setMember_new _ hnew, ih, List.append_assoc, List.map_cons]
    · rfl
    · rw [List.map_append, List.map_cons, List.map_nil, List.append_assoc, List.singleton_append]
      exact h

lemma lookup_memberLists (numberText : ν → Units) (members : List (Units × Json Units ν))
    (key : Units) :
    (memberLists numberText members).lookup key =
      (members.lookup key).map (listOf numberText) := by
  induction members with
  | nil => rfl
  | cons m members ih =>
    obtain ⟨key', v⟩ := m
    rw [memberLists, List.lookup_cons, List.lookup_cons, ih]
    cases key == key' with
    | true => rfl
    | false => rfl

/-! ## The fields -/

/-- The names of the fields. -/
def fieldNames : List String :=
  ["text", "translate", "with", "extra", "color", "bold", "italic", "underlined", "strikethrough",
    "obfuscated"]

lemma map_field (name : String) (v : Option (Json Text ν)) :
    (field name v).map memberUnits =
      (v.map fun v => (units name.toList, Json.toUnits v)).toList := by
  cases v with
  | none => rfl
  | some v => rfl

lemma lookup_field_self (name : String) (v : Option (Json Text ν)) :
    ((field name v).map memberUnits).lookup (units name.toList) = v.map Json.toUnits := by
  rw [map_field]
  cases v with
  | none => rfl
  | some v =>
    show List.lookup _ [(_, _)] = _
    rw [List.lookup_cons, beq_self_eq_true]
    rfl

lemma lookup_field_ne {name other : String}
    (h : (units other.toList == units name.toList) = false) (v : Option (Json Text ν)) :
    ((field name v).map memberUnits).lookup (units other.toList) = none := by
  rw [map_field]
  cases v with
  | none => rfl
  | some v =>
    show List.lookup _ [(_, _)] = _
    rw [List.lookup_cons, h]
    rfl

lemma names_field (name : String) (v : Option (Json Text ν)) :
    ((field name v).map fun m => units m.1).Sublist [units name.toList] := by
  cases v with
  | none => exact List.nil_sublist _
  | some v => exact List.Sublist.refl _

section Fields

variable (text translate : Option Text) (args extra : List (Json Text ν)) (setting : Setting Text)

/-- No field is written twice. -/
lemma nodup_fields :
    ((fields text translate args extra setting).map fun m => units m.1).Nodup := by
  have hsub : ((fields text translate args extra setting).map fun m => units m.1).Sublist
      (fieldNames.map fun name => units name.toList) := by
    simp only [fields, settingFields, List.map_append]
    exact (names_field _ _).append ((names_field _ _).append ((names_field _ _).append
      ((names_field _ _).append ((names_field _ _).append ((names_field _ _).append
        ((names_field _ _).append ((names_field _ _).append ((names_field _ _).append
          (names_field _ _)))))))))
  have hnames : (fieldNames.map fun name => units name.toList).Nodup := by decide
  exact hnames.sublist hsub

lemma toUnits_fields :
    membersUnits [] (fields text translate args extra setting) =
      (fields text translate args extra setting).map memberUnits :=
  membersUnits_eq (nodup_fields text translate args extra setting)

/-- The value of each field is the one that was written. -/
lemma lookup_fields :
    ∀ name v, (name, v) ∈ ([("text", text.map .string), ("translate", translate.map .string),
        ("with", arrayOf args), ("extra", arrayOf extra), ("color", setting.color.map .string),
        ("bold", setting.bold.map .bool), ("italic", setting.italic.map .bool),
        ("underlined", setting.underlined.map .bool),
        ("strikethrough", setting.strikethrough.map .bool),
        ("obfuscated", setting.obfuscated.map .bool)] : List (String × Option (Json Text ν))) →
      member (units name.toList) ((fields text translate args extra setting).map memberUnits) =
        v.map Json.toUnits := by
  intro name v hmem
  simp only [List.mem_cons, List.not_mem_nil, or_false, Prod.mk.injEq] at hmem
  obtain ⟨rfl, rfl⟩ | ⟨rfl, rfl⟩ | ⟨rfl, rfl⟩ | ⟨rfl, rfl⟩ | ⟨rfl, rfl⟩ | ⟨rfl, rfl⟩ | ⟨rfl, rfl⟩ |
    ⟨rfl, rfl⟩ | ⟨rfl, rfl⟩ | ⟨rfl, rfl⟩ := hmem
  all_goals
    simp (disch := decide) only [member, fields, settingFields, List.map_append,
      List.lookup_append, lookup_field_self, lookup_field_ne, Option.none_or, Option.or_none]

end Fields

/-! ## The schema -/

section Schema

variable (numberText : ν → Units)

lemma optional_eq {α β : Type} {read : Json Units ν → Option α} {name : String}
    {members : List (Units × Json Units ν)} {v : Option β} {w : β → Json Text ν} {f : β → α}
    (h : member (units name.toList) members = (v.map w).map Json.toUnits)
    (hread : ∀ b, v = some b → read (Json.toUnits (w b)) = some (f b)) :
    optional read name members = some (v.map f) := by
  rw [optional, h]
  cases v with
  | none => rfl
  | some b =>
    simp only [Option.map_some]
    rw [hread b rfl]
    rfl

lemma list_eq {members : List (Units × Json Units ν)} {name : String} {items : List (Json Text ν)}
    {nodes : List (ChatComponent Units)}
    (h : member (units name.toList) members = (arrayOf items).map Json.toUnits)
    (hitems : componentList numberText (itemsUnits items) = some nodes) :
    ((memberLists numberText members).lookup (units name.toList)).getD (some []) =
      some nodes := by
  rw [lookup_memberLists]
  rw [member] at h
  rw [h]
  cases items with
  | nil =>
    rw [itemsUnits, componentList] at hitems
    exact hitems
  | cons v items => exact hitems

lemma settingOf_eq {text translate : Option Text} {args extra : List (Json Text ν)}
    {setting : Setting Text}
    (hcolor : setting.color.all (fun t => isColor (Json.units t)) = true) :
    settingOf ((fields text translate args extra setting).map memberUnits) =
      some setting.units := by
  have hfields := lookup_fields text translate args extra setting
  have hbool : ∀ (name : String) (v : Option Bool),
      member (units name.toList) ((fields text translate args extra setting).map memberUnits) =
        (v.map Json.bool).map Json.toUnits →
      optional asBool name ((fields text translate args extra setting).map memberUnits) =
        some v := by
    intro name v h
    have hoptional := @optional_eq _ _ _ asBool _ _ _ _ (fun b => b) h fun b _ => by
      rw [Json.toUnits]
      rfl
    rwa [Option.map_id'] at hoptional
  have hread : ∀ t, setting.color = some t →
      asColor (Json.toUnits (ν := ν) (.string t)) = some (Json.units t) := by
    intro t ht
    rw [ht, Option.all_some] at hcolor
    rw [Json.toUnits, asColor, if_pos hcolor]
  rw [settingOf, optional_eq (hfields "color" _ (by simp)) hread, Option.bind_some,
    hbool _ _ (hfields "bold" (setting.bold.map .bool) (by simp)), Option.bind_some,
    hbool _ _ (hfields "italic" (setting.italic.map .bool) (by simp)), Option.bind_some,
    hbool _ _ (hfields "underlined" (setting.underlined.map .bool) (by simp)), Option.bind_some,
    hbool _ _ (hfields "strikethrough" (setting.strikethrough.map .bool) (by simp)),
    Option.bind_some,
    hbool _ _ (hfields "obfuscated" (setting.obfuscated.map .bool) (by simp))]
  rfl

mutual

/-- **The schema** takes a component that is written for the component. -/
lemma componentSchema_toJson (node : ChatComponent Text) (hcolor : colored node = true) :
    componentSchema numberText (Json.toUnits (toJson node)) = some (unitsOf node) := by
  obtain ⟨text, translate, args, extra, setting⟩ := node
  rw [colored, Bool.and_eq_true, Bool.and_eq_true] at hcolor
  have hfields := lookup_fields (ν := ν) text translate (toJsonEach args) (toJsonEach extra) setting
  have hargs := componentList_toJson args hcolor.1.2
  have hextra := componentList_toJson extra hcolor.2
  have hstring : ∀ v : Option Text, ∀ t, v = some t →
      asString (Json.toUnits (ν := ν) (.string t)) = some (Json.units t) := by
    intro v t _
    rw [Json.toUnits]
    rfl
  rw [toJson, Json.toUnits, toUnits_fields, componentSchema, componentObject,
    optional_eq (hfields "text" (text.map .string) (by simp)) (hstring _), Option.bind_some,
    optional_eq (hfields "translate" (translate.map .string) (by simp)) (hstring _),
    Option.bind_some,
    list_eq numberText (hfields "with" _ (by simp)) hargs, Option.bind_some,
    list_eq numberText (hfields "extra" _ (by simp)) hextra, Option.bind_some,
    settingOf_eq hcolor.1.1, Option.map_some, unitsOf]

lemma componentList_toJson (nodes : List (ChatComponent Text)) (hcolor : coloredEach nodes = true) :
    componentList numberText (itemsUnits (toJsonEach nodes)) = some (unitsOfEach nodes) := by
  cases nodes with
  | nil => rw [toJsonEach, itemsUnits, componentList, unitsOfEach]
  | cons node nodes =>
    rw [coloredEach, Bool.and_eq_true] at hcolor
    rw [toJsonEach, itemsUnits, componentList, componentSchema_toJson node hcolor.1,
      Option.bind_some, componentList_toJson nodes hcolor.2, Option.map_some, unitsOfEach]

end

end Schema

/-! ## The text of a component -/

/-- What the styled pieces say. -/
def spoken (spans : List ChatSpan) : Units := (spans.map ChatSpan.text).flatten

lemma spoken_append (spans spans' : List ChatSpan) :
    spoken (spans ++ spans') = spoken spans ++ spoken spans' := by
  rw [spoken, List.map_append, List.flatten_append]
  rfl

lemma unitsOfEach_length (nodes : List (ChatComponent Text)) :
    (unitsOfEach nodes).length = nodes.length := by
  induction nodes with
  | nil => rfl
  | cons node nodes ih => rw [unitsOfEach, List.length_cons, ih, List.length_cons]

lemma collectEach_length (lookup : Units → Option Units) (parent : ChatStyle)
    (nodes : List (ChatComponent Units)) :
    (collectEach lookup parent nodes).length = nodes.length := by
  induction nodes with
  | nil => rfl
  | cons node nodes ih => rw [collectEach, List.length_cons, ih, List.length_cons]

mutual

/-- The style has no part in what is said. -/
lemma spoken_collect (parent : ChatStyle) (node : ChatComponent Text) :
    spoken (collect (fun _ => none) parent (unitsOf node)) = units (textOf node) := by
  obtain ⟨text, translate, args, extra, setting⟩ := node
  rw [unitsOf, collect]
  have hargs := spoken_collectEach (inherit parent setting.units) args
  have hextra := spoken_collectEach (inherit parent setting.units) extra
  simp only [said, spoken_append, textOf, units_append, hextra]
  congr 1
  congr 1
  · cases text with
    | none => rfl
    | some t =>
      simp only [Option.map_some, Option.getD_some]
      split
      · exact List.append_nil _
      · rename_i hempty
        rw [List.eq_nil_of_length_eq_zero (Nat.eq_zero_of_not_pos hempty)]
        rfl
  · cases translate with
    | none => rfl
    | some key =>
      simp only [Option.map_some, spoken_append]
      rw [hargs, collectEach_length, unitsOfEach_length, units_append]
      congr 1
      split
      · exact List.append_nil _
      · rfl

lemma spoken_collectEach (parent : ChatStyle) (nodes : List (ChatComponent Text)) :
    spoken (collectEach (fun _ => none) parent (unitsOfEach nodes)).flatten =
      units (textOfEach nodes) := by
  cases nodes with
  | nil =>
    rw [unitsOfEach, collectEach, textOfEach]
    rfl
  | cons node nodes =>
    rw [unitsOfEach, collectEach, List.flatten_cons, spoken_append, spoken_collect parent node,
      spoken_collectEach parent nodes, textOfEach, units_append]

end

/-- **A component that is written is shown as what it says**, unless it is nested too deep or says
nothing. -/
theorem renderChatJson_toJson (numbers : NumberText ν) (numberText : ν → Units)
    (component : ChatComponent Text) (hcolor : colored component = true) :
    renderChatJson numberText numbers.read (some (stringify numbers.write (toJson component))) =
      if tooDeep 0 (Json.toUnits (ν := ν) (toJson component)) then none
      else if textOf component = [] then none
      else some (units (textOf component)) := by
  have hparse := parse_stringify numbers (toJson component)
  have hne : (stringify numbers.write (toJson component)).length ≠ 0 := by
    intro hzero
    rw [List.eq_nil_of_length_eq_zero hzero] at hparse
    cases hparse
  have hspoken := spoken_collect inherited component
  rw [renderChatJson]
  simp only
  rw [if_neg hne, hparse, Option.bind_some]
  split
  · rfl
  · rw [componentSchema_toJson numberText component hcolor, Option.bind_some]
    have hrendered : ((flattenChatComponent (fun _ => none) (unitsOf component)).map
        ChatSpan.text).flatten = units (textOf component) := hspoken
    rw [hrendered]
    by_cases htext : textOf component = []
    · rw [if_pos htext, htext]
      rfl
    · have hpos : 0 < (units (textOf component)).length := by
        rw [List.length_pos_iff]
        exact fun hnil => htext (units_eq_nil hnil)
      rw [if_neg htext, if_pos hpos]

/-- A red greeting, and a death with the name of a player. -/
def greeting : ChatComponent Text :=
  .mk (some "Hi ".toList) none [] [.mk none (some "death.fell".toList) [plain "Ann".toList] [] {}]
    { color := some "red".toList, bold := some true }

/-- Without translations the key is not shown where it has arguments. -/
theorem renderChatJson_greeting :
    renderChatJson (fun n => units (wholeNumbers.write n)) wholeNumbers.read
      (some (stringify wholeNumbers.write (toJson greeting))) = some (units "Hi Ann".toList) :=
  (renderChatJson_toJson wholeNumbers _ greeting (by decide)).trans (by decide)

end ChatComponents

end OpenMcc
