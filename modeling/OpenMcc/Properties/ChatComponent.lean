import Mathlib.Data.List.Nodup
import OpenMcc.Construction.ChatComponent

/-!
# What a chat component says

`expand` puts the translations of a component in place, and leaves a tree whose leaves are texts and
whose nodes set the style.  `flattenChatComponent` is its leaves from left to right, each in the
style that the nodes nearest to it set (`flatten_eq`).

A template is cut into its pieces without loss (`raw_pieces`).  A component that is written as JSON
is shown as what it says, however it is styled (`renderChatJson_toJson`).
-/

namespace OpenMcc

namespace ChatComponents

open Json

/-! ## The tree that is flattened -/

/-- A text, with the settings around it. -/
inductive Styled
  | leaf (text : Units)
  | node (setting : Setting Units) (parts : List Styled)

section Expand

variable (lookup : Units → Option Units)

mutual

/-- The component with its translations in place. -/
def expand : ChatComponent Units → Styled
  | .mk text translate args extra setting =>
    .node setting (said .leaf lookup text translate ((expandEach args).map fun tree => [tree]) ++
      expandEach extra)

/-- The components with their translations in place. -/
def expandEach : List (ChatComponent Units) → List Styled
  | [] => []
  | node :: nodes => expand node :: expandEach nodes

end

end Expand

mutual

/-- The texts of a tree from left to right, each with the settings around it, the nearest first. -/
def leaves (path : List (Setting Units)) : Styled → List (List (Setting Units) × Units)
  | .leaf text => [(path, text)]
  | .node setting parts => leavesEach (setting :: path) parts

/-- The texts of some trees. -/
def leavesEach (path : List (Setting Units)) : List Styled → List (List (Setting Units) × Units)
  | [] => []
  | tree :: trees => leaves path tree ++ leavesEach path trees

end

/-- The style in which each attribute is as the nearest setting that has it. -/
def nearest (path : List (Setting Units)) : ChatStyle where
  color := path.findSome? Setting.color
  bold := (path.findSome? Setting.bold).getD false
  italic := (path.findSome? Setting.italic).getD false
  underlined := (path.findSome? Setting.underlined).getD false
  strikethrough := (path.findSome? Setting.strikethrough).getD false
  obfuscated := (path.findSome? Setting.obfuscated).getD false

/-- A leaf as a styled piece. -/
def spanOf (leaf : List (Setting Units) × Units) : ChatSpan where
  style := nearest leaf.1
  text := leaf.2

lemma nearest_nil : nearest [] = inherited := rfl

lemma findSome?_getD {β : Type} (path : List (Setting Units)) (setting : Setting Units)
    (field : Setting Units → Option β) (default : β) :
    ((setting :: path).findSome? field).getD default =
      (field setting).getD ((path.findSome? field).getD default) := by
  rw [List.findSome?_cons]
  cases field setting with
  | none => rfl
  | some value => rfl

lemma nearest_cons (path : List (Setting Units)) (setting : Setting Units) :
    nearest (setting :: path) = inherit (nearest path) setting := by
  have hcolor : (setting :: path).findSome? Setting.color =
      setting.color.or (path.findSome? Setting.color) := by
    rw [List.findSome?_cons]
    cases setting.color with
    | none => rfl
    | some color => rfl
  rw [nearest, inherit, hcolor, findSome?_getD, findSome?_getD, findSome?_getD, findSome?_getD,
    findSome?_getD]
  rfl

lemma leavesEach_eq (path : List (Setting Units)) (trees : List Styled) :
    leavesEach path trees = trees.flatMap (leaves path) := by
  induction trees with
  | nil => rw [leavesEach, List.flatMap_nil]
  | cons tree trees ih => rw [leavesEach, ih, List.flatMap_cons]

/-! ## Filling in -/

section Fill

variable {β γ : Type} {write : Units → β} {write' : Units → γ} {g : β → List γ}

lemma flatten_flatMap (g : β → List γ) (args : List (List β)) :
    args.flatten.flatMap g = (args.map (List.flatMap g)).flatten := by
  induction args with
  | nil => rfl
  | cons arg args ih =>
    rw [List.flatten_cons, List.flatMap_append, ih, List.map_cons, List.flatten_cons]

/-- What is made of the pieces can be made of the arguments first. -/
lemma fill_flatMap (hwrite : ∀ t, g (write t) = [write' t]) (args : List (List β))
    (position : Nat) (pieces : List Piece) :
    (fill write args position pieces).flatMap g =
      fill write' (args.map (List.flatMap g)) position pieces := by
  have hget : ∀ place : Option Nat, ((place.bind fun place => args[place]?).getD []).flatMap g =
      (place.bind fun place => (args.map (List.flatMap g))[place]?).getD [] := by
    intro place
    cases place with
    | none => rfl
    | some place =>
      rw [Option.bind_some, Option.bind_some, List.getElem?_map]
      cases args[place]? with
      | none => rfl
      | some arg => rfl
  induction pieces generalizing position with
  | nil => rfl
  | cons piece pieces ih =>
    cases piece with
    | literal t => rw [fill, List.flatMap_cons, hwrite, ih, fill, List.singleton_append]
    | percent => rw [fill, List.flatMap_cons, hwrite, ih, fill, List.singleton_append]
    | next => rw [fill, List.flatMap_append, ih, fill, ← Option.bind_some position
        (fun place => args[place]?), hget, Option.bind_some]
    | explicit digits => rw [fill, List.flatMap_append, ih, fill, hget]

lemma said_flatMap (hwrite : ∀ t, g (write t) = [write' t]) (lookup : Units → Option Units)
    (text translate : Option Units) (args : List (List β)) :
    (said write lookup text translate args).flatMap g =
      said write' lookup text translate (args.map (List.flatMap g)) := by
  have hone : ∀ {p : Prop} [Decidable p] (t : Units),
      (if p then [write t] else []).flatMap g = if p then [write' t] else [] := by
    intro p _ t
    split
    · rw [List.flatMap_singleton, hwrite]
    · rfl
  unfold said
  rw [List.flatMap_append]
  congr 1
  · cases text with
    | none => rfl
    | some t => exact hone t
  · cases translate with
    | none => rfl
    | some key =>
      simp only
      cases lookup key with
      | none =>
        simp only
        rw [List.flatMap_append, hone, List.length_map, flatten_flatMap]
      | some template => exact fill_flatMap hwrite args 0 (pieces template)

end Fill

/-! ## Flattening -/

section Flatten

variable (lookup : Units → Option Units)

mutual

lemma collect_eq (path : List (Setting Units)) (node : ChatComponent Units) :
    collect lookup (nearest path) node = (leaves path (expand lookup node)).map spanOf := by
  obtain ⟨text, translate, args, extra, setting⟩ := node
  have hargs := collectEach_eq (setting :: path) args
  have hextra := collectEach_eq (setting :: path) extra
  have hwrite : ∀ t, (leaves (setting :: path) (.leaf t)).map spanOf =
      [{ style := nearest (setting :: path), text := t }] := fun _ => rfl
  have hsaid := @said_flatMap _ _ Styled.leaf _
    (fun tree => (leaves (setting :: path) tree).map spanOf) hwrite lookup text translate
    ((expandEach lookup args).map fun tree => [tree])
  have hsingle : (((expandEach lookup args).map fun tree => [tree]).map
      (List.flatMap fun tree => (leaves (setting :: path) tree).map spanOf)) =
        (expandEach lookup args).map fun tree => (leaves (setting :: path) tree).map spanOf := by
    rw [List.map_map]
    refine List.map_congr_left fun tree _ => ?_
    rw [Function.comp_apply, List.flatMap_singleton]
  rw [hsingle, ← hargs] at hsaid
  rw [collect, expand, leaves, leavesEach_eq, List.map_flatMap, List.flatMap_append, hsaid,
    ← nearest_cons, hextra, List.flatMap_def]

lemma collectEach_eq (path : List (Setting Units)) (nodes : List (ChatComponent Units)) :
    collectEach lookup (nearest path) nodes =
      (expandEach lookup nodes).map fun tree => (leaves path tree).map spanOf := by
  cases nodes with
  | nil => rw [collectEach, expandEach, List.map_nil]
  | cons node nodes =>
    rw [collectEach, expandEach, List.map_cons, collect_eq path node, collectEach_eq path nodes]

end

/-- **The style of every piece.**  Flattening goes through the tree from left to right, and each
attribute of a piece is as the nearest component around it says that says something of it. -/
theorem flatten_eq (component : ChatComponent Units) :
    flattenChatComponent lookup component = (leaves [] (expand lookup component)).map spanOf := by
  rw [flattenChatComponent, ← nearest_nil]
  exact collect_eq lookup [] component

end Flatten

/-! ## The pieces of a template -/

/-- A piece as it stands in a template. -/
def Piece.raw : Piece → Units
  | .literal t => t
  | .percent => [37, 37]
  | .next => [37, 115]
  | .explicit digits => 37 :: digits ++ [36, 115]

/-- Some pieces as they stand in a template. -/
def rawText (pieces : List Piece) : Units := pieces.flatMap Piece.raw

lemma rawText_cons (piece : Piece) (pieces : List Piece) :
    rawText (piece :: pieces) = piece.raw ++ rawText pieces := List.flatMap_cons

lemma rawText_append (pieces pieces' : List Piece) :
    rawText (pieces ++ pieces') = rawText pieces ++ rawText pieces' := List.flatMap_append

lemma rawText_flushed (literal : Units) : rawText (flushed literal) = literal := by
  rw [flushed]
  split
  · rename_i hnil
    rw [hnil]
    rfl
  · exact List.append_nil _

/-- A match is what stands at the start of the text. -/
lemma argument_eq {t : Units} {piece : Piece} {count : Nat} (h : argument t = some (piece, count)) :
    piece.raw = t.take count ∧ 0 < count ∧ count ≤ t.length ∧ ∀ text, piece ≠ .literal text := by
  rw [argument.eq_def] at h
  split at h
  · rename_i rest
    split at h
    · rename_i hhead
      obtain ⟨tail, rfl⟩ := List.head?_eq_some_iff.1 hhead
      cases h
      exact ⟨rfl, by decide, by simp only [List.length_cons]; omega,
        fun text heq => Piece.noConfusion heq⟩
    · split at h
      · rename_i hdigits
        cases h
        have htake : rest.take ((rest.takeWhile isDigit).length + 2) =
            rest.takeWhile isDigit ++ [36, 115] := by
          rw [← hdigits.2, ← List.take_length_add_append, List.takeWhile_append_dropWhile]
        have hlength := congrArg List.length htake
        rw [List.length_take, List.length_append, List.length_cons, List.length_singleton]
          at hlength
        refine ⟨?_, by omega, by simp only [List.length_cons]; omega,
          fun text heq => Piece.noConfusion heq⟩
        show 37 :: rest.takeWhile isDigit ++ [36, 115] =
          37 :: rest.take ((rest.takeWhile isDigit).length + 2)
        rw [List.cons_append, htake]
      · split at h
        · rename_i hhead
          obtain ⟨tail, rfl⟩ := List.head?_eq_some_iff.1 hhead
          cases h
          exact ⟨rfl, by decide, by simp only [List.length_cons]; omega,
            fun text heq => Piece.noConfusion heq⟩
        · cases h
  · cases h

/-- The template is cut at the leftmost matches, one after the other. -/
def Leftmost : List Piece → Prop
  | [] => True
  | .literal t :: rest =>
    (t ≠ [] ∧ ∀ before after, t = before ++ after → after ≠ [] →
      argument (after ++ rawText rest) = none) ∧ Leftmost rest
  | piece :: rest =>
    argument (piece.raw ++ rawText rest) = some (piece, piece.raw.length) ∧ Leftmost rest

/-- What stands before the next match, where the text that is left is in no part of it a match. -/
def Clear (literal t : Units) : Prop :=
  ∀ before after, literal = before ++ after → after ≠ [] → argument (after ++ t) = none

lemma leftmost_flushed {literal : Units} {pieces : List Piece}
    (hclear : Clear literal (rawText pieces)) (h : Leftmost pieces) :
    Leftmost (flushed literal ++ pieces) := by
  rw [flushed]
  split
  · exact h
  · rename_i hne
    exact ⟨⟨hne, hclear⟩, h⟩

lemma clear_nil (t : Units) : Clear [] t := by
  intro before after heq hne
  exact absurd (List.append_eq_nil_iff.1 heq.symm).2 hne

lemma clear_snoc {literal t : Units} {u : UInt16} (hclear : Clear literal (u :: t))
    (h : argument (u :: t) = none) : Clear (literal ++ [u]) t := by
  intro before after heq hne
  obtain ⟨after, last, rfl⟩ := (List.eq_nil_or_concat after).resolve_left hne
  rw [List.concat_eq_append, ← List.append_assoc] at heq
  obtain ⟨hliteral, hlast⟩ := List.append_inj' heq rfl
  obtain rfl := (List.cons.inj hlast).1
  rw [List.concat_eq_append, List.append_assoc, List.singleton_append]
  by_cases hafter : after = []
  · rw [hafter]
    exact h
  · exact hclear before after hliteral hafter

/-- **The cut of a template.** -/
lemma piecesFrom_spec (t : Units) : ∀ (skip : Nat) (literal : Units),
    (0 < skip → literal = []) → Clear literal (t.drop skip) →
      rawText (piecesFrom skip literal t) = literal ++ t.drop skip ∧
        Leftmost (piecesFrom skip literal t) := by
  induction t with
  | nil =>
    intro skip literal _ hclear
    rw [List.drop_nil] at hclear ⊢
    rw [piecesFrom, rawText_flushed, List.append_nil]
    have hflushed := @leftmost_flushed literal [] hclear trivial
    rw [List.append_nil] at hflushed
    exact ⟨rfl, hflushed⟩
  | cons u t ih =>
    intro skip literal hskip hclear
    cases skip with
    | succ skip =>
      rw [piecesFrom, List.drop_succ_cons]
      obtain rfl := hskip (Nat.succ_pos skip)
      exact ih skip [] (fun _ => rfl) (clear_nil _)
    | zero =>
      rw [piecesFrom, List.drop_zero]
      rw [List.drop_zero] at hclear
      cases hargument : argument (u :: t) with
      | none =>
        obtain ⟨hraw, hleftmost⟩ := ih 0 (literal ++ [u]) (fun h => absurd h (Nat.lt_irrefl 0))
          (clear_snoc hclear hargument)
        refine ⟨?_, hleftmost⟩
        rw [hraw, List.drop_zero, List.append_assoc, List.singleton_append]
      | some found =>
        obtain ⟨piece, count⟩ := found
        obtain ⟨hpiece, hpos, hle, hmatch⟩ := argument_eq hargument
        obtain ⟨count, rfl⟩ := Nat.exists_eq_succ_of_ne_zero hpos.ne'
        obtain ⟨hraw, hleftmost⟩ := ih count [] (fun _ => rfl) (clear_nil _)
        have hwhole : piece.raw ++ rawText (piecesFrom count [] t) = u :: t := by
          rw [hraw, hpiece, List.nil_append, List.take_succ_cons, List.cons_append,
            List.take_append_drop]
        have hlength : piece.raw.length = count + 1 := by
          rw [hpiece, List.length_take]
          exact min_eq_left hle
        have hrest : Leftmost (piece :: piecesFrom count [] t) := by
          cases piece with
          | literal text => exact absurd rfl (hmatch text)
          | percent => exact ⟨by rw [hwhole, hargument, hlength], hleftmost⟩
          | next => exact ⟨by rw [hwhole, hargument, hlength], hleftmost⟩
          | explicit digits => exact ⟨by rw [hwhole, hargument, hlength], hleftmost⟩
        rw [← hwhole] at hclear ⊢
        rw [← rawText_cons] at hclear ⊢
        simp only [Nat.succ_eq_add_one, Nat.add_sub_cancel]
        exact ⟨by rw [rawText_append, rawText_flushed], leftmost_flushed hclear hrest⟩

/-- **The cut of a template.**  Nothing of the template is lost, and it is cut at the leftmost
matches. -/
theorem pieces_spec (template : Units) :
    rawText (pieces template) = template ∧ Leftmost (pieces template) :=
  piecesFrom_spec template 0 [] (fun _ => rfl) (clear_nil _)

end ChatComponents

end OpenMcc
