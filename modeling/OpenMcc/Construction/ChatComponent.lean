import OpenMcc.Framework.Json

/-!
# Chat components (`chat-component.ts`)

A line of chat is a tree: a component has a text, or a key that is translated with arguments, and
further components after it, and settings of the style that hold for all of these.
`flattenChatComponent` makes one list of styled pieces of it, and `renderChatJson` reads the tree
from a text that a server wrote and shows what it says.

A list that a component does not have and an empty one are the same to all functions here.  The
strings are those of a value that was read (`Json.Units`); `numberText` is how `String` writes a
number.
-/

namespace OpenMcc

namespace ChatComponents

open Json

/-- What a component sets of the style. -/
structure Setting (σ : Type) where
  color : Option σ := none
  bold : Option Bool := none
  italic : Option Bool := none
  underlined : Option Bool := none
  strikethrough : Option Bool := none
  obfuscated : Option Bool := none
  deriving DecidableEq, Repr

/-- `ChatComponent`, where `args` is its `with`. -/
inductive ChatComponent (σ : Type)
  | mk (text translate : Option σ) (args extra : List (ChatComponent σ)) (setting : Setting σ)

/-- `ChatStyle`. -/
structure ChatStyle where
  color : Option Units
  bold : Bool
  italic : Bool
  underlined : Bool
  strikethrough : Bool
  obfuscated : Bool
  deriving DecidableEq, Repr

/-- `ChatSpan`. -/
structure ChatSpan where
  style : ChatStyle
  text : Units
  deriving DecidableEq, Repr

/-- `INHERITED`. -/
def inherited : ChatStyle where
  color := none
  bold := false
  italic := false
  underlined := false
  strikethrough := false
  obfuscated := false

/-- `inherit`. -/
def inherit (parent : ChatStyle) (node : Setting Units) : ChatStyle where
  color := node.color.or parent.color
  bold := node.bold.getD parent.bold
  italic := node.italic.getD parent.italic
  underlined := node.underlined.getD parent.underlined
  strikethrough := node.strikethrough.getD parent.strikethrough
  obfuscated := node.obfuscated.getD parent.obfuscated

/-! ## Translations -/

/-- A piece of a template. -/
inductive Piece
  | literal (t : Units)
  /-- `%%`. -/
  | percent
  /-- `%s`. -/
  | next
  /-- `%1$s`, with the digits. -/
  | explicit (digits : Units)
  deriving DecidableEq, Repr

/-- `\d`. -/
def isDigit (u : UInt16) : Bool := 48 ≤ u && u ≤ 57

/-- The match of `ARGUMENT_PATTERN` at the start of a text, and its length. -/
def argument : Units → Option (Piece × Nat)
  | 37 :: rest =>
    if rest.head? = some 115 then some (.next, 2)
    else if rest.takeWhile isDigit ≠ [] ∧ (rest.dropWhile isDigit).take 2 = [36, 115] then
      some (.explicit (rest.takeWhile isDigit), (rest.takeWhile isDigit).length + 3)
    else if rest.head? = some 37 then some (.percent, 2)
    else none
  | _ => none

/-- The text before a match, where there is some. -/
def flushed (literal : Units) : List Piece := if literal = [] then [] else [.literal literal]

/-- The pieces of a template, where `skip` of its units are of the match before and `literal` stands
since then. -/
def piecesFrom (skip : Nat) (literal : Units) : Units → List Piece
  | [] => flushed literal
  | u :: t =>
    match skip with
    | skip + 1 => piecesFrom skip literal t
    | 0 =>
      match argument (u :: t) with
      | some (piece, count) => flushed literal ++ piece :: piecesFrom (count - 1) [] t
      | none => piecesFrom 0 (literal ++ [u]) t

/-- `template.matchAll(ARGUMENT_PATTERN)`, with what stands between the matches. -/
def pieces (template : Units) : List Piece := piecesFrom 0 [] template

/-- The number that digits write. -/
def numberOf (digits : Units) : Nat := digits.foldl (fun n u => 10 * n + (u.toNat - 48)) 0

/-- The place that `%n$s` names. -/
def placeOf (digits : Units) : Option Nat :=
  match numberOf digits with
  | 0 => none
  | n + 1 => some n

/-- The pieces with the arguments in their places: a bare `%s` takes the next one. -/
def fill {β : Type} (write : Units → β) (args : List (List β)) : Nat → List Piece → List β
  | _, [] => []
  | position, .literal t :: rest => write t :: fill write args position rest
  | position, .percent :: rest => write [37] :: fill write args position rest
  | position, .next :: rest => args[position]?.getD [] ++ fill write args (position + 1) rest
  | position, .explicit digits :: rest =>
    ((placeOf digits).bind fun place => args[place]?).getD [] ++ fill write args position rest

/-- `expandTranslation`, with what each argument comes to. -/
def expandTranslation {β : Type} (write : Units → β) (template : Units) (args : List (List β)) :
    List β :=
  fill write args 0 (pieces template)

/-- What a component says besides what follows it. -/
def said {β : Type} (write : Units → β) (lookup : Units → Option Units)
    (text translate : Option Units) (args : List (List β)) : List β :=
  (match text with
    | none => []
    | some t => if 0 < t.length then [write t] else []) ++
  match translate with
  | none => []
  | some key =>
    match lookup key with
    | none => (if args.length = 0 then [write key] else []) ++ args.flatten
    | some template => expandTranslation write template args

section Collect

variable (lookup : Units → Option Units)

mutual

/-- `collect`. -/
def collect (parent : ChatStyle) : ChatComponent Units → List ChatSpan
  | .mk text translate args extra setting =>
    let style := inherit parent setting
    said (fun t => { style := style, text := t }) lookup text translate (collectEach style args) ++
      (collectEach style extra).flatten

/-- What each of some components comes to. -/
def collectEach (parent : ChatStyle) : List (ChatComponent Units) → List (List ChatSpan)
  | [] => []
  | node :: nodes => collect parent node :: collectEach parent nodes

end

/-- `flattenChatComponent`. -/
def flattenChatComponent (component : ChatComponent Units) : List ChatSpan :=
  collect lookup inherited component

end Collect

/-! ## Reading a component -/

/-- `CHAT_COLOR_NAMES`. -/
def chatColorNames : List String :=
  ["black", "dark_blue", "dark_green", "dark_aqua", "dark_red", "dark_purple", "gold", "gray",
    "dark_gray", "blue", "green", "aqua", "red", "light_purple", "yellow", "white"]

/-- A digit of `HEX_COLOR`. -/
def isHexDigit (u : UInt16) : Bool :=
  isDigit u || (97 ≤ u && u ≤ 102) || (65 ≤ u && u ≤ 70)

/-- `colorSchema`. -/
def isColor (t : Units) : Bool :=
  chatColorNames.any (fun name => units name.toList == t) ||
    (t.head? == some 35 && t.tail.length == 6 && t.tail.all isHexDigit)

section Schema

variable {ν : Type} (numberText : ν → Units)

/-- A component that is a text alone. -/
def plain {σ : Type} (t : σ) : ChatComponent σ := .mk (some t) none [] [] {}

/-- A field that need not be there. -/
def optional {α : Type} (read : Json Units ν → Option α) (name : String)
    (members : List (Units × Json Units ν)) : Option (Option α) :=
  match member (units name.toList) members with
  | none => some none
  | some v => (read v).map some

/-- `z.boolean()`. -/
def asBool : Json Units ν → Option Bool
  | .bool b => some b
  | _ => none

/-- `colorSchema`, of a value. -/
def asColor : Json Units ν → Option Units
  | .string t => if isColor t then some t else none
  | _ => none

/-- The settings among the fields of a component. -/
def settingOf (members : List (Units × Json Units ν)) : Option (Setting Units) :=
  (optional asColor "color" members).bind fun color =>
  (optional asBool "bold" members).bind fun bold =>
  (optional asBool "italic" members).bind fun italic =>
  (optional asBool "underlined" members).bind fun underlined =>
  (optional asBool "strikethrough" members).bind fun strikethrough =>
  (optional asBool "obfuscated" members).map fun obfuscated =>
    { color := color
      bold := bold
      italic := italic
      underlined := underlined
      strikethrough := strikethrough
      obfuscated := obfuscated }

/-- `componentObject`, with what each field comes to as a list of components. -/
def componentObject (members : List (Units × Json Units ν))
    (lists : List (Units × Option (List (ChatComponent Units)))) : Option (ChatComponent Units) :=
  (optional asString "text" members).bind fun text =>
  (optional asString "translate" members).bind fun translate =>
  ((lists.lookup (units "with".toList)).getD (some [])).bind fun args =>
  ((lists.lookup (units "extra".toList)).getD (some [])).bind fun extra =>
  (settingOf members).map fun setting => .mk text translate args extra setting

mutual

/-- `componentSchema`. -/
def componentSchema : Json Units ν → Option (ChatComponent Units)
  | .null => none
  | .bool b => some (plain (units (if b then "true".toList else "false".toList)))
  | .number n => some (plain (numberText n))
  | .string t => some (plain t)
  | .array items => (componentList items).map fun parts => .mk none none [] parts {}
  | .object members => componentObject members (memberLists members)

/-- `z.array(componentSchema)`. -/
def componentList : List (Json Units ν) → Option (List (ChatComponent Units))
  | [] => some []
  | v :: items =>
    (componentSchema v).bind fun node => (componentList items).map fun nodes => node :: nodes

/-- The list of components that a value is. -/
def listOf : Json Units ν → Option (List (ChatComponent Units))
  | .array items => componentList items
  | _ => none

/-- The members as lists of components. -/
def memberLists : List (Units × Json Units ν) →
    List (Units × Option (List (ChatComponent Units)))
  | [] => []
  | (key, v) :: members => (key, listOf v) :: memberLists members

end

/-- `MAX_CHAT_COMPONENT_DEPTH`. -/
def maxChatComponentDepth : Nat := 32

mutual

/-- `tooDeep`. -/
def tooDeep (depth : Nat) : Json Units ν → Bool
  | .array items => decide (maxChatComponentDepth < depth) || anyTooDeep (depth + 1) items
  | .object members => decide (maxChatComponentDepth < depth) || memberTooDeep (depth + 1) members
  | _ => decide (maxChatComponentDepth < depth)

/-- One of the items is too deep. -/
def anyTooDeep (depth : Nat) : List (Json Units ν) → Bool
  | [] => false
  | v :: items => tooDeep depth v || anyTooDeep depth items

/-- The value of one of the members is too deep. -/
def memberTooDeep (depth : Nat) : List (Units × Json Units ν) → Bool
  | [] => false
  | (_, v) :: members => tooDeep depth v || memberTooDeep depth members

end

variable (toNumber : Text → ν)

/-- `renderChatJson`. -/
def renderChatJson (json : Option Text) : Option Units :=
  match json with
  | none => none
  | some json =>
    if json.length = 0 then none
    else
      (parse toNumber json).bind fun parsed =>
        if tooDeep 0 parsed then none
        else
          (componentSchema numberText parsed).bind fun component =>
            let rendered := ((flattenChatComponent (fun _ => none) component).map (·.text)).flatten
            if 0 < rendered.length then some rendered else none

end Schema

end ChatComponents

end OpenMcc
