import ShardOperator.Proofs.Text.Pieces
import ShardOperator.Sql.TabSeparated

namespace ShardOperator.Sql.TabSeparated

/-- How the server writes a character of a field. -/
def escapeChar : Char → List Char
  | '\x08' => ['\\', 'b']
  | '\x0c' => ['\\', 'f']
  | '\r' => ['\\', 'r']
  | '\n' => ['\\', 'n']
  | '\t' => ['\\', 't']
  | '\x00' => ['\\', '0']
  | '\'' => ['\\', '\'']
  | '\\' => ['\\', '\\']
  | c => [c]

def escape (field : String) : List Char := field.toList.flatMap escapeChar

def rowText (row : List String) : List Char := Text.joinChars ['\t'] (row.map escape)

/-- Fields stand between tabs, and a line feed follows each row. -/
def written (rows : Rows) : String :=
  String.ofList ((rows.map rowText).flatMap (· ++ ['\n']))

/-- The characters that part fields and lines. -/
def separators : List Char := ['\t', '\n', '\r']

/-- A character stands for itself, or has a meaning behind a backslash. -/
theorem escapeChar_cases (c : Char) :
    (escapeChar c = [c] ∧ c ≠ '\\' ∧ c ∉ separators) ∨
      ∃ d, escapeChar c = ['\\', d] ∧ meaning d = c ∧ d ∉ separators := by
  unfold escapeChar
  split
  case h_9 hb hf hr hn ht h0 hq hs =>
    left
    refine ⟨rfl, hs, fun hmem => ?_⟩
    simp only [separators, List.mem_cons, List.not_mem_nil, or_false] at hmem
    rcases hmem with rfl | rfl | rfl
    · exact ht rfl
    · exact hn rfl
    · exact hr rfl
  all_goals exact .inr ⟨_, rfl, rfl, by decide⟩

theorem unescape_cons {c : Char} (h : c ≠ '\\') (rest : List Char) :
    unescape (c :: rest) = c :: unescape rest := by
  rw [unescape]
  · exact fun heq _ => h heq
  · exact fun d more heq _ => h heq

/-- What a character is written as is read as that character. -/
theorem unescape_append (c : Char) (rest : List Char) :
    unescape (escapeChar c ++ rest) = c :: unescape rest := by
  rcases escapeChar_cases c with ⟨hself, hplain, -⟩ | ⟨d, hbehind, hmeaning, -⟩
  · rw [hself, List.singleton_append, unescape_cons hplain]
  · rw [hbehind, List.cons_append, List.singleton_append, unescape, hmeaning]

theorem unescape_escape (field : String) : unescape (escape field) = field.toList := by
  unfold escape
  induction field.toList with
  | nil => rfl
  | cons c rest ih => rw [List.flatMap_cons, unescape_append, ih]

theorem not_mem_escape {sep : Char} (h : sep ∈ separators) (field : String) :
    sep ∉ escape field := by
  intro hmem
  obtain ⟨c, -, hc⟩ := List.mem_flatMap.1 hmem
  rcases escapeChar_cases c with ⟨hself, -, hplain⟩ | ⟨d, hbehind, -, hplain⟩
  · rw [hself, List.mem_singleton] at hc
    exact hplain (hc ▸ h)
  · rw [hbehind, List.mem_cons, List.mem_singleton] at hc
    rcases hc with rfl | rfl
    · revert h
      decide
    · exact hplain h

theorem escape_eq_nil_iff {field : String} : escape field = [] ↔ field = "" := by
  have hchar (c : Char) : escapeChar c ≠ [] := by
    rcases escapeChar_cases c with ⟨hself, -⟩ | ⟨d, hbehind, -⟩
    · simp [hself]
    · simp [hbehind]
  rw [escape, List.flatMap_eq_nil_iff, ← String.toList_eq_nil_iff, List.eq_nil_iff_forall_not_mem]
  exact forall₂_congr fun c _ => iff_of_false (hchar c) id

theorem not_mem_rowText {sep : Char} (h : sep ∈ separators) (htab : sep ≠ '\t')
    (row : List String) : sep ∉ rowText row := by
  intro hmem
  rcases Text.mem_joinChars hmem with hglue | ⟨piece, hpiece, hmem⟩
  · exact htab (List.mem_singleton.1 hglue)
  · obtain ⟨field, -, rfl⟩ := List.mem_map.1 hpiece
    exact not_mem_escape h field hmem

/-- Fields come back from the line that they are written in. -/
theorem parseRow_rowText {row : List String} (hrow : row ≠ []) : parseRow (rowText row) = row := by
  have hsplit : Text.splitChars '\t' (rowText row) = row.map escape := by
    refine Text.splitChars_joinChars (mt List.map_eq_nil_iff.1 hrow) ?_
    exact List.forall_mem_map.2 fun field _ => not_mem_escape (by decide) field
  have hfield (field : String) : String.ofList (unescape (escape field)) = field := by
    rw [unescape_escape, String.ofList_toList]
  rw [parseRow, hsplit, List.map_map]
  exact (List.map_congr_left fun field _ => hfield field).trans (List.map_id row)

/-- One empty field leaves nothing on its line. -/
theorem rowText_eq_nil_iff {row : List String} (hrow : row ≠ []) :
    rowText row = [] ↔ row = [""] := by
  cases row with
  | nil => exact absurd rfl hrow
  | cons first rest =>
    cases rest with
    | nil =>
      have hone : rowText [first] = escape first := rfl
      rw [hone, escape_eq_nil_iff, List.cons.injEq, and_iff_left rfl]
    | cons next more =>
      have hmany : rowText (first :: next :: more) =
          escape first ++ '\t' :: rowText (next :: more) :=
        List.append_cons .. |>.symm
      simp [hmany]

/-- What the server has written is read as the rows that it wrote, in their order and with all their
fields, but for those whose only field is empty: nothing stands on their lines. -/
theorem parse_written {rows : Rows} (hrows : ∀ row ∈ rows, row ≠ []) :
    parse (written rows) = rows.filter (· ≠ [""]) := by
  have hlines : Text.lineChars (written rows).toList = rows.map rowText := by
    rw [written, String.toList_ofList]
    refine Text.lineChars_ended (List.forall_mem_map.2 fun row _ => ?_)
      (List.forall_mem_map.2 fun row _ hlast => ?_)
    · exact not_mem_rowText (by decide) (by decide) row
    · exact not_mem_rowText (by decide) (by decide) row (List.mem_of_getLast? hlast)
  have hblank : ∀ row ∈ rows, (!(rowText row).isEmpty) = decide (row ≠ [""]) := by
    intro row hrow
    rw [decide_not, Bool.not_inj_iff, ← Bool.coe_iff_coe, List.isEmpty_iff, decide_eq_true_iff]
    exact rowText_eq_nil_iff (hrows row hrow)
  have hread : ∀ row ∈ rows.filter (· ≠ [""]), (parseRow ∘ rowText) row = row := fun row hrow =>
    parseRow_rowText (hrows row (List.mem_of_mem_filter hrow))
  calc parse (written rows)
      = ((rows.map rowText).filter (!·.isEmpty)).map parseRow := by rw [parse, hlines]
    _ = (rows.filter fun row => !(rowText row).isEmpty).map (parseRow ∘ rowText) := by
        rw [List.filter_map, List.map_map]
        rfl
    _ = (rows.filter (· ≠ [""])).map (parseRow ∘ rowText) := by rw [List.filter_congr hblank]
    _ = rows.filter (· ≠ [""]) := (List.map_congr_left hread).trans (List.map_id _)

/-- Separators and backslashes in fields, and empty fields beside others. -/
theorem parse_written_mixed :
    (∀ row ∈ [["a\tb", "", "\\"], [""], ["", "it's\r"], ["\x00\n"]], row ≠ ([] : List String)) ∧
      parse (written [["a\tb", "", "\\"], [""], ["", "it's\r"], ["\x00\n"]]) =
        [["a\tb", "", "\\"], ["", "it's\r"], ["\x00\n"]] := by
  have hrows : ∀ row ∈ [["a\tb", "", "\\"], [""], ["", "it's\r"], ["\x00\n"]],
      row ≠ ([] : List String) := by decide
  exact ⟨hrows, parse_written hrows⟩

/-- A row is lost: it has a single field, and that is empty. -/
theorem empty_row_lost :
    ∃ rows : Rows, (∀ row ∈ rows, row ≠ []) ∧ written rows = "1\n\n" ∧
      parse (written rows) ≠ rows :=
  ⟨[["1"], [""]], by decide, rfl, by decide⟩

end ShardOperator.Sql.TabSeparated
