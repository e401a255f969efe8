import ClusterDriver.Settings.Option
import ClusterDriver.Proofs.Text.Splitting
import ClusterDriver.Proofs.Text.Trimming
/-!
# The text of lists

Every text is read as a list. Its items are what stands between the commas, freed of the blanks
around it, and what is blank between two commas counts for nothing. So the items are read back in
order however they are spaced out, and texts with a comma between them give their items one after
the other.
-/
namespace ClusterDriver.OptionValue
open Text

/-- What can be an item of a list. -/
structure IsItem (cs : List Char) : Prop where
  nonempty : cs ≠ []
  uncut : ',' ∉ cs
  bare : Bare cs

/-- The pieces hold the items in order: each is one item with blanks around it, or blank. -/
inductive Holds : List (List Char) → List (List Char) → Prop
  | nil : Holds [] []
  | blank {piece pieces found} (blank : Blanks piece) (rest : Holds pieces found) :
    Holds (piece :: pieces) found
  | item {before item after pieces found} (front : Blanks before) (isItem : IsItem item)
    (back : Blanks after) (rest : Holds pieces found) :
    Holds ((before ++ item ++ after) :: pieces) (item :: found)

variable {cs before after item : List Char} {pieces found : List (List Char)}

theorem Holds.isItem (holds : Holds pieces found) : ∀ item ∈ found, IsItem item := by
  induction holds with
  | nil => exact List.forall_mem_nil _
  | blank _ _ ih => exact ih
  | item _ isItem _ _ ih => exact List.forall_mem_cons.2 ⟨isItem, ih⟩

theorem comma_not_mem (blank : Blanks cs) : ',' ∉ cs := fun among =>
  absurd (blank ',' among) (by decide)

theorem trim_of_blanks (blank : Blanks cs) : trim cs = [] := by
  have padded : trim (cs ++ [] ++ []) = [] :=
    trim_padded blank (by simp [Bare]) (by simp [Blanks])
  rwa [List.append_nil, List.append_nil] at padded

theorem items_append (front back : List Char) :
    items (front ++ ',' :: back) = items front ++ items back := by
  simp [items, parts_append]

/-- Between two commas stands one item at most. -/
theorem items_of_uncut (uncut : ',' ∉ cs) : items cs = if trim cs = [] then [] else [trim cs] := by
  rw [items, parts_eq_singleton.2 ⟨uncut, rfl⟩]
  by_cases h : trim cs = [] <;> simp [h]

theorem items_of_blanks (blank : Blanks cs) : items cs = [] := by
  rw [items_of_uncut (comma_not_mem blank), if_pos (trim_of_blanks blank)]

theorem items_padded (front : Blanks before) (isItem : IsItem item) (back : Blanks after) :
    items (before ++ item ++ after) = [item] := by
  have uncut : ',' ∉ before ++ item ++ after := by
    simp [comma_not_mem front, isItem.uncut, comma_not_mem back]
  rw [items_of_uncut uncut, trim_padded front isItem.bare back, if_neg isItem.nonempty]

theorem items_intercalate (pieces : List (List Char)) :
    items ([','].intercalate pieces) = pieces.flatMap items := by
  induction pieces with
  | nil => rfl
  | cons piece rest ih =>
    cases rest with
    | nil => simp
    | cons next rest =>
      have split : [','].intercalate (piece :: next :: rest) =
          piece ++ ',' :: [','].intercalate (next :: rest) := by
        simp [List.intercalate_cons_cons]
      rw [split, items_append, ih, ← List.flatMap_cons]

theorem items_of_holds (holds : Holds pieces found) :
    items ([','].intercalate pieces) = found := by
  rw [items_intercalate]
  induction holds with
  | nil => rfl
  | blank blank _ ih => rw [List.flatMap_cons, items_of_blanks blank, ih, List.nil_append]
  | item front isItem back _ ih =>
    rw [List.flatMap_cons, items_padded front isItem back, ih, List.singleton_append]

/-- A piece is blank, or an item with blanks around it. -/
theorem holds_items (uncut : ∀ piece ∈ pieces, ',' ∉ piece) :
    Holds pieces (pieces.flatMap items) := by
  induction pieces with
  | nil => exact .nil
  | cons piece rest ih =>
    rw [List.forall_mem_cons] at uncut
    have later := ih uncut.2
    rw [List.flatMap_cons, items_of_uncut uncut.1]
    obtain ⟨before, after, front, back, same⟩ := exists_padding piece
    by_cases empty : trim piece = []
    · rw [if_pos empty]
      have blank : Blanks piece := by
        rw [same, empty, List.append_nil]
        intro c among
        exact (List.mem_append.1 among).elim (front c) (back c)
      exact .blank blank later
    · rw [if_neg empty, List.singleton_append]
      have isItem : IsItem (trim piece) :=
        ⟨empty, fun among => uncut.1 (by rw [same]; simp [among]), bare_trim piece⟩
      have spaced := Holds.item front isItem back later
      rwa [← same] at spaced

/-- Every text is made of pieces that hold its items. -/
theorem exists_pieces (cs : List Char) :
    ∃ pieces, Holds pieces (items cs) ∧ cs = [','].intercalate pieces := by
  obtain ⟨_, uncut, whole⟩ := parts_eq_iff.1 (rfl : parts ',' cs = _)
  have held := holds_items uncut
  rw [← items_intercalate, ← whole] at held
  exact ⟨parts ',' cs, held, whole⟩

/-- Blanks at the ends are around the first and the last item, or are blank pieces themselves. -/
theorem items_blanks (front : Blanks before) (back : Blanks after) :
    items (before ++ cs ++ after) = items cs := by
  induction cs using cut_induction ',' generalizing before with
  | uncut cs uncut =>
    have uncut' : ',' ∉ before ++ cs ++ after := by
      simp [comma_not_mem front, uncut, comma_not_mem back]
    rw [items_of_uncut uncut', items_of_uncut uncut, trim_blanks front back]
  | cut first rest uncut ih =>
    have none : Blanks [] := by simp [Blanks]
    have uncut' : ',' ∉ before ++ first := by simp [comma_not_mem front, uncut]
    have alone : trim (before ++ first ++ []) = trim first := trim_blanks front none
    rw [List.append_nil] at alone
    have split : before ++ (first ++ ',' :: rest) ++ after =
        (before ++ first) ++ ',' :: ([] ++ rest ++ after) := by simp
    rw [split, items_append, items_append, ih none, items_of_uncut uncut', items_of_uncut uncut,
      alone]

theorem ofText_list (raw : String) :
    ofText? .list raw = some (.list ((items raw.toList).map String.ofList)) := by
  obtain ⟨before, after, front, back, same⟩ := exists_padding raw.toList
  have trimmed : items (trim raw.toList) = items raw.toList := by
    conv_rhs => rw [same]
    exact (items_blanks front back).symm
  simp only [ofText?, trimmed]

theorem ofText_list_eq_some {raw : String} {texts : List String} :
    ofText? .list raw = some (.list texts) ↔
      ∃ pieces, Holds pieces (texts.map String.toList) ∧
        raw.toList = [','].intercalate pieces := by
  rw [ofText_list, Option.some_inj, OptionValue.list.injEq]
  constructor
  · rintro rfl
    obtain ⟨pieces, holds, whole⟩ := exists_pieces raw.toList
    exact ⟨pieces, by simpa [Function.comp_def] using holds, whole⟩
  · rintro ⟨pieces, holds, whole⟩
    rw [whole, items_of_holds holds]
    simp [Function.comp_def]

/-- Every text is read as a list, of items that are not blank, have no comma and neither start nor
end with a blank. Which items these are is told by the pieces between the commas: whatever blanks
are put around items and whatever blank pieces between them, the same items are read in the same
order. Of two texts with a comma between them the items of the first are read, then those of the
second. -/
theorem lists_read_exactly :
    (∀ raw, ∃ texts, ofText? .list raw = some (.list texts) ∧
      ∀ text ∈ texts, IsItem text.toList) ∧
    (∀ raw texts, ofText? .list raw = some (.list texts) ↔
      ∃ pieces, Holds pieces (texts.map String.toList) ∧
        raw.toList = [','].intercalate pieces) ∧
    ∀ front back, ∃ first second, ofText? .list front = some (.list first) ∧
      ofText? .list back = some (.list second) ∧
      ofText? .list (front ++ "," ++ back) = some (.list (first ++ second)) := by
  refine ⟨fun raw => ?_, fun raw texts => ofText_list_eq_some, fun front back => ?_⟩
  · obtain ⟨pieces, holds, _⟩ := exists_pieces raw.toList
    refine ⟨_, ofText_list raw, fun text among => ?_⟩
    obtain ⟨item, found, rfl⟩ := List.mem_map.1 among
    rw [String.toList_ofList]
    exact holds.isItem item found
  · have joined : (front ++ "," ++ back).toList = front.toList ++ ',' :: back.toList := by simp
    refine ⟨_, _, ofText_list front, ofText_list back, ?_⟩
    rw [ofText_list, joined, items_append, List.map_append]

/-- With blanks around the items, blank pieces and a comma at either end. -/
theorem spaced_points_read :
    ofText? .list ", 10.0.0.1:9042\t,\u2003,::1 ," = some (.list ["10.0.0.1:9042", "::1"]) := by
  have first : IsItem "10.0.0.1:9042".toList :=
    ⟨by decide, by decide, bare_of_ends rfl rfl (by decide) (by decide)⟩
  have second : IsItem "::1".toList :=
    ⟨by decide, by decide, bare_of_ends rfl rfl (by decide) (by decide)⟩
  have holds := Holds.blank (by decide : Blanks []) <|
    .item (by decide : Blanks [' ']) first (by decide : Blanks ['\t']) <|
    .blank (by decide : Blanks ['\u2003']) <|
    .item (by decide : Blanks []) second (by decide : Blanks [' ']) <|
    .blank (by decide : Blanks []) .nil
  exact (lists_read_exactly.2.1 _ _).2 ⟨_, holds, by decide⟩

end ClusterDriver.OptionValue
