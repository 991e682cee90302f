import RowText.RowString.Join
import RowText.Proofs.Content

namespace RowText.RowString

theorem intercalate_cons {α : Type} (separator first : List α) (rest : List (List α)) :
    separator.intercalate (first :: rest) = first ++ rest.flatMap (separator ++ ·) := by
  induction rest generalizing first with
  | nil => rw [List.intercalate_singleton, List.flatMap_nil, List.append_nil]
  | cons next rest ih =>
      rw [List.intercalate_cons_cons, ih, List.flatMap_cons, List.append_assoc, List.append_assoc]

theorem appendParts_eq (separator : Option RowString) (target : List UInt8)
    (parts : List RowString) :
    appendParts separator target parts =
      target ++ (parts.map content).flatMap (((separator.map content).getD []) ++ ·) := by
  induction parts generalizing target with
  | nil => simp [appendParts]
  | cons part rest ih =>
      unfold appendParts
      rw [ih, List.map_cons, List.flatMap_cons]
      cases separator with
      | none => simp [copyInto_eq]
      | some separator => simp [copyInto_eq]

theorem join_content (separator : Option RowString) (parts : List RowString) :
    (join separator parts).content =
      ((separator.map content).getD []).intercalate (parts.map content) := by
  cases parts with
  | nil => rfl
  | cons first rest =>
      rw [join, content_ofBytes, appendParts_eq, copyInto_eq, List.nil_append, List.map_cons,
        intercalate_cons]

theorem allPresent_map {α β : Type} (f : α → β) (values : List (Option α)) :
    allPresent (values.map (Option.map f)) = (allPresent values).map (List.map f) := by
  induction values with
  | nil => rfl
  | cons value rest ih =>
      cases value with
      | none => rfl
      | some value =>
          rw [List.map_cons, Option.map_some, allPresent, allPresent, ih, Option.map_map,
            Option.map_map]
          rfl

theorem concat_content (parts : List (Option RowString)) :
    (concat parts).map content =
      (allPresent (parts.map (Option.map content))).map (List.intercalate []) := by
  rw [concat, allPresent_map, Option.map_map, Option.map_map]
  congr 1
  exact funext fun parts => join_content none parts

theorem concatWith_content (separator : Option RowString) (parts : List (Option RowString)) :
    (concatWith separator parts).map content =
      (separator.map content).map fun separator =>
        separator.intercalate ((parts.map (Option.map content)).filterMap id) := by
  rw [concatWith, Option.map_map, Option.map_map]
  congr 1
  funext separator
  rw [Function.comp_apply, join_content, List.map_filterMap, List.filterMap_map]
  rfl

end RowText.RowString
