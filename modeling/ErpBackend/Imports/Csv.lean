import ErpBackend.Common

/-!
# The CSV reader

A file is read one character at a time, with the row and the field being built and whether the
reader stands inside quotes. A doubled quote inside quotes is one quote, a quote only opens a
field at its start, and CRLF, LF and CR each end a row. The delimiter is guessed from the first
line, counting only outside quotes.
-/

namespace ErpBackend.Imports

inductive Delimiter where
  | comma
  | semicolon
  | tab
  deriving DecidableEq, Repr

def Delimiter.char : Delimiter → Char
  | .comma => ','
  | .semicolon => ';'
  | .tab => '\t'

structure CsvParseResult where
  rows : List (List String)
  delimiter : Delimiter
  deriving DecidableEq

def BOM : Char := '\uFEFF'

def lineBreak (c : Char) : Bool := c = '\r' || c = '\n'

structure Counts where
  comma : Nat
  semicolon : Nat
  tab : Nat

def Counts.tick (counts : Counts) (ch : Char) : Counts :=
  if ch = ',' then { counts with comma := counts.comma + 1 }
  else if ch = ';' then { counts with semicolon := counts.semicolon + 1 }
  else if ch = '\t' then { counts with tab := counts.tab + 1 }
  else counts

def countOutside : List Char → Bool → Counts → Counts
  | [], _, counts => counts
  | ch :: rest, inQuotes, counts =>
    if ch = '"' then countOutside rest (!inQuotes) counts
    else countOutside rest inQuotes (if inQuotes then counts else counts.tick ch)

def Counts.winner (counts : Counts) : Delimiter :=
  if counts.semicolon > counts.comma ∧ counts.semicolon ≥ counts.tab then .semicolon
  else if counts.tab > counts.comma ∧ counts.tab > counts.semicolon then .tab
  else .comma

def firstLine (text : List Char) : List Char := text.takeWhile (fun c => !lineBreak c)

def detectDelimiter (text : List Char) : Delimiter :=
  (countOutside (firstLine text) false ⟨0, 0, 0⟩).winner

structure Reader where
  rows : List (List String)
  row : List String
  field : List Char
  inQuotes : Bool

def Reader.start : Reader := ⟨[], [], [], false⟩

def Reader.endField (reader : Reader) : Reader :=
  { reader with row := reader.row ++ [String.ofList reader.field], field := [] }

def Reader.endRow (reader : Reader) : Reader :=
  let ended := reader.endField
  { ended with rows := ended.rows ++ [ended.row], row := [] }

def Reader.take (reader : Reader) (ch : Char) : Reader :=
  { reader with field := reader.field ++ [ch] }

def readText (delimiter : Char) : List Char → Reader → Reader
  | [], reader => reader
  | ch :: rest, reader =>
    if reader.inQuotes then
      if ch = '"' then
        match rest with
        | '"' :: rest => readText delimiter rest (reader.take '"')
        | rest => readText delimiter rest { reader with inQuotes := false }
      else readText delimiter rest (reader.take ch)
    else if ch = '"' ∧ reader.field = [] then
      readText delimiter rest { reader with inQuotes := true }
    else if ch = delimiter then readText delimiter rest reader.endField
    else if ch = '\r' then
      -- CRLF is one break
      match rest with
      | '\n' :: rest => readText delimiter rest reader.endRow
      | rest => readText delimiter rest reader.endRow
    else if ch = '\n' then readText delimiter rest reader.endRow
    else readText delimiter rest (reader.take ch)

def Reader.finish (reader : Reader) : Reader :=
  if reader.field ≠ [] ∨ reader.row ≠ [] then reader.endRow else reader

def blankRow (row : List String) : Bool := row.all (fun field => (trimChars field.toList).isEmpty)

def stripBom (input : List Char) : List Char :=
  match input with
  | ch :: rest => if ch = BOM then rest else input
  | [] => []

def parseCsv (input : String) (forced : Option Delimiter) : CsvParseResult :=
  let text := stripBom input.toList
  let delimiter := forced.getD (detectDelimiter text)
  let reader := (readText delimiter.char text .start).finish
  { rows := reader.rows.filter (fun row => !blankRow row), delimiter }

example : (parseCsv "imei;model\n123;\"A15; \"\"black\"\"\"" none) =
    ⟨[["imei", "model"], ["123", "A15; \"black\""]], .semicolon⟩ := by decide +kernel

inductive LineEnding where
  | crlf
  | lf
  | cr
  deriving DecidableEq

def LineEnding.chars : LineEnding → List Char
  | .crlf => ['\r', '\n']
  | .lf => ['\n']
  | .cr => ['\r']

def doubled : List Char → List Char
  | [] => []
  | ch :: rest => if ch = '"' then '"' :: '"' :: doubled rest else ch :: doubled rest

def encodeField (field : String) : List Char := '"' :: (doubled field.toList ++ ['"'])

def encodeRow (delimiter : Delimiter) : List String → List Char
  | [] => []
  | [field] => encodeField field
  | field :: rest => encodeField field ++ delimiter.char :: encodeRow delimiter rest

def encodeRows (delimiter : Delimiter) (ending : LineEnding) : List (List String) → List Char
  | [] => []
  | [row] => encodeRow delimiter row
  | row :: rest => encodeRow delimiter row ++ (ending.chars ++ encodeRows delimiter ending rest)

/-- Every field quoted, with or without a byte-order mark and a final line break. -/
def encodeCsv (delimiter : Delimiter) (ending : LineEnding) (marked closed : Bool)
    (table : List (List String)) : String :=
  String.ofList ((if marked then [BOM] else []) ++
    (encodeRows delimiter ending table ++ if closed then ending.chars else []))

def Unquoted (text : List Char) : Prop := text.head? ≠ some '"'

variable (delimiter : Delimiter)

@[simp] theorem delimiter_not_quote : delimiter.char ≠ '"' := by
  cases delimiter <;> decide

@[simp] theorem delimiter_not_return : delimiter.char ≠ '\r' := by
  cases delimiter <;> decide

@[simp] theorem delimiter_not_newline : delimiter.char ≠ '\n' := by
  cases delimiter <;> decide

theorem unquoted_delimiter (rest : List Char) :
    Unquoted (delimiter.char :: rest) := by
  simp [Unquoted]

variable (ending : LineEnding)

theorem unquoted_ending (rest : List Char) :
    Unquoted (ending.chars ++ rest) := by
  cases ending <;> simp [Unquoted, LineEnding.chars]

theorem readText_cons (delimiter ch : Char) (rest : List Char) (reader : Reader) :
    readText delimiter (ch :: rest) reader =
      if reader.inQuotes then
        if ch = '"' then
          match rest with
          | '"' :: rest => readText delimiter rest (reader.take '"')
          | rest => readText delimiter rest { reader with inQuotes := false }
        else readText delimiter rest (reader.take ch)
      else if ch = '"' ∧ reader.field = [] then
        readText delimiter rest { reader with inQuotes := true }
      else if ch = delimiter then readText delimiter rest reader.endField
      else if ch = '\r' then
        match rest with
        | '\n' :: rest => readText delimiter rest reader.endRow
        | rest => readText delimiter rest reader.endRow
      else if ch = '\n' then readText delimiter rest reader.endRow
      else readText delimiter rest (reader.take ch) :=
  readText.eq_def delimiter (ch :: rest) reader

@[simp]
theorem readText_nil (delimiter : Char) (reader : Reader) :
    readText delimiter [] reader = reader := rfl

theorem readText_opening (delimiter : Char) (rest : List Char) (rows : List (List String))
    (row : List String) :
    readText delimiter ('"' :: rest) ⟨rows, row, [], false⟩ =
      readText delimiter rest ⟨rows, row, [], true⟩ := by
  rw [readText_cons]
  simp

theorem readText_plain (delimiter : Char) (ch : Char) (rest : List Char) (reader : Reader)
    (plain : ch ≠ '"') (inside : reader.inQuotes = true) :
    readText delimiter (ch :: rest) reader = readText delimiter rest (reader.take ch) := by
  rw [readText_cons]
  simp [inside, plain]

theorem readText_pair (delimiter : Char) (rest : List Char) (reader : Reader)
    (inside : reader.inQuotes = true) :
    readText delimiter ('"' :: '"' :: rest) reader =
      readText delimiter rest (reader.take '"') := by
  rw [readText_cons]
  simp [inside]

theorem readText_closing (delimiter : Char) (rest : List Char) (reader : Reader)
    (outside : Unquoted rest) (inside : reader.inQuotes = true) :
    readText delimiter ('"' :: rest) reader =
      readText delimiter rest { reader with inQuotes := false } := by
  rw [readText_cons]
  cases rest with
  | nil => simp [inside]
  | cons ch rest =>
    have other : ch ≠ '"' := by simpa [Unquoted] using outside
    simp [inside, other]

theorem readText_doubled (delimiter : Char) (field : List Char) (rest : List Char)
    (reader : Reader) (outside : Unquoted rest) (inside : reader.inQuotes = true) :
    readText delimiter (doubled field ++ '"' :: rest) reader =
      readText delimiter rest
        { reader with field := reader.field ++ field, inQuotes := false } := by
  induction field generalizing reader with
  | nil => simpa [doubled] using readText_closing delimiter rest reader outside inside
  | cons ch field ih =>
    have next := ih (reader.take ch) inside
    by_cases quote : ch = '"'
    · subst quote
      simpa [doubled, readText_pair _ _ _ inside, Reader.take] using next
    · simpa [doubled, quote, readText_plain _ _ _ _ quote inside, Reader.take] using next

theorem readText_field (delimiter : Char) (field : String) (rest : List Char)
    (rows : List (List String)) (row : List String) (outside : Unquoted rest) :
    readText delimiter (encodeField field ++ rest) ⟨rows, row, [], false⟩ =
      readText delimiter rest ⟨rows, row, field.toList, false⟩ := by
  have inside := readText_doubled delimiter field.toList rest ⟨rows, row, [], true⟩ outside rfl
  simpa [encodeField, readText_opening] using inside

theorem readText_delimiter (rest : List Char)
    (rows : List (List String)) (row : List String) (field : List Char) :
    readText delimiter.char (delimiter.char :: rest) ⟨rows, row, field, false⟩ =
      readText delimiter.char rest ⟨rows, row ++ [String.ofList field], [], false⟩ := by
  rw [readText_cons]
  simp [Reader.endField]

theorem readText_ending (rest : List Char)
    (rows : List (List String)) (row : List String) (field : List Char)
    (outside : rest.head? ≠ some '\n') :
    readText delimiter.char (ending.chars ++ rest) ⟨rows, row, field, false⟩ =
      readText delimiter.char rest ⟨rows ++ [row ++ [String.ofList field]], [], [], false⟩ := by
  have noReturn : '\r' ≠ delimiter.char := (delimiter_not_return delimiter).symm
  have noNewline : '\n' ≠ delimiter.char := (delimiter_not_newline delimiter).symm
  cases ending with
  | crlf =>
    simp only [LineEnding.chars, List.cons_append, List.nil_append]
    rw [readText_cons]
    simp [Reader.endRow, Reader.endField, noReturn]
  | lf =>
    simp only [LineEnding.chars, List.cons_append, List.nil_append]
    rw [readText_cons]
    simp [Reader.endRow, Reader.endField, noNewline]
  | cr =>
    simp only [LineEnding.chars, List.cons_append, List.nil_append]
    rw [readText_cons]
    cases rest with
    | nil => simp [Reader.endRow, Reader.endField, noReturn]
    | cons ch rest =>
      have other : ch ≠ '\n' := by simpa using outside
      simp [Reader.endRow, Reader.endField, noReturn, other]

variable (fields : List String)

theorem readText_row (last : String)
    (rest : List Char) (rows : List (List String)) (row : List String)
    (outside : Unquoted rest) :
    readText delimiter.char (encodeRow delimiter (fields ++ [last]) ++ rest)
        ⟨rows, row, [], false⟩ =
      readText delimiter.char rest ⟨rows, row ++ fields, last.toList, false⟩ := by
  induction fields generalizing row with
  | nil => simpa [encodeRow] using readText_field delimiter.char last rest rows row outside
  | cons field fields ih =>
    have shape : encodeRow delimiter (field :: (fields ++ [last])) =
        encodeField field ++ delimiter.char :: encodeRow delimiter (fields ++ [last]) := by
      cases fields <;> rfl
    calc readText delimiter.char (encodeRow delimiter (field :: fields ++ [last]) ++ rest)
          ⟨rows, row, [], false⟩
      _ = readText delimiter.char
            (delimiter.char :: (encodeRow delimiter (fields ++ [last]) ++ rest))
            ⟨rows, row, field.toList, false⟩ := by
        rw [List.cons_append, shape, List.append_assoc, List.cons_append,
          readText_field _ _ _ _ _ (unquoted_delimiter _ _)]
      _ = readText delimiter.char (encodeRow delimiter (fields ++ [last]) ++ rest)
            ⟨rows, row ++ [field], [], false⟩ := by
        rw [readText_delimiter, String.ofList_toList]
      _ = readText delimiter.char rest ⟨rows, row ++ field :: fields, last.toList, false⟩ := by
        rw [ih (row ++ [field]), List.append_assoc, List.singleton_append]

theorem fields_of_row {row : List String} (filled : blankRow row = false) :
    ∃ fields last, row = fields ++ [last] := by
  have some_ : row ≠ [] := by
    rintro rfl
    simp [blankRow] at filled
  exact ⟨row.dropLast, row.getLast some_, (List.dropLast_concat_getLast some_).symm⟩

theorem encodeRow_head (last : String) :
    (encodeRow delimiter (fields ++ [last])).head? = some '"' := by
  cases fields with
  | nil => rfl
  | cons field fields => cases fields <;> rfl

theorem encodeRows_cons (row : List String)
    (table : List (List String)) (more : table ≠ []) :
    encodeRows delimiter ending (row :: table) =
      encodeRow delimiter row ++ (ending.chars ++ encodeRows delimiter ending table) := by
  cases table with
  | nil => exact absurd rfl more
  | cons next table => rfl

theorem encodeRows_head (table : List (List String))
    (some_ : table ≠ []) (filled : ∀ row ∈ table, blankRow row = false) :
    (encodeRows delimiter ending table).head? = some '"' := by
  obtain ⟨row, table, rfl⟩ := List.exists_cons_of_ne_nil some_
  obtain ⟨fields, last, rfl⟩ := fields_of_row (filled row List.mem_cons_self)
  have opening := encodeRow_head delimiter fields last
  cases table with
  | nil => simpa [encodeRows] using opening
  | cons next table =>
    rw [encodeRows_cons _ _ _ _ (List.cons_ne_nil _ _), List.head?_append, opening]
    rfl

/-- What is left after the last row: nothing, or the final line break. -/
def closing (ending : LineEnding) (closed : Bool) : List Char :=
  if closed then ending.chars else []

variable (closed : Bool)

theorem unquoted_closing :
    Unquoted (closing ending closed) := by
  cases closed with
  | false => simp [closing, Unquoted]
  | true => simpa [closing] using unquoted_ending ending []

theorem finish_last (rows : List (List String)) (fields : List String) (last : String)
    (filled : blankRow (fields ++ [last]) = false) :
    (readText delimiter.char (closing ending closed)
      ⟨rows, fields, last.toList, false⟩).finish.rows = rows ++ [fields ++ [last]] := by
  cases closed with
  | true =>
    have ended := readText_ending delimiter ending [] rows fields last.toList (by simp)
    rw [List.append_nil] at ended
    simp [closing, ended, Reader.finish]
  | false =>
    have started : ¬last = "" ∨ ¬fields = [] := by
      by_contra nothing
      have empty : last = "" ∧ fields = [] := by simpa using nothing
      simp [blankRow, trimChars, empty] at filled
    simp [closing, Reader.finish, started, Reader.endRow, Reader.endField]

theorem readText_rows (table : List (List String)) (rows : List (List String)) (some_ : table ≠ [])
    (filled : ∀ row ∈ table, blankRow row = false) :
    (readText delimiter.char (encodeRows delimiter ending table ++ closing ending closed)
      ⟨rows, [], [], false⟩).finish.rows = rows ++ table := by
  induction table generalizing rows with
  | nil => exact absurd rfl some_
  | cons row table ih =>
    have kept := filled row List.mem_cons_self
    obtain ⟨fields, last, rfl⟩ := fields_of_row kept
    by_cases more : table = []
    · subst more
      rw [encodeRows, readText_row _ _ _ _ _ _ (unquoted_closing ending closed), List.nil_append]
      exact finish_last delimiter ending closed rows fields last kept
    · have rest := ih (rows ++ [fields ++ [last]]) more
        (fun row member => filled row (List.mem_cons_of_mem _ member))
      have next : (encodeRows delimiter ending table ++ closing ending closed).head? ≠
          some '\n' := by
        rw [List.head?_append, encodeRows_head delimiter ending table more
          (fun row member => filled row (List.mem_cons_of_mem _ member))]
        simp
      rw [encodeRows_cons _ _ _ _ more, List.append_assoc, List.append_assoc,
        readText_row _ _ _ _ _ _ (unquoted_ending _ _), readText_ending _ _ _ _ _ _ next,
        String.ofList_toList, List.nil_append, rest, List.append_assoc, List.singleton_append]

theorem finish_empty :
    (readText delimiter.char (closing ending closed) .start).finish.rows.filter
      (fun row => !blankRow row) = [] := by
  cases closed with
  | false => simp [closing, Reader.start, Reader.finish]
  | true =>
    have ended := readText_ending delimiter ending [] [] [] [] (by simp)
    rw [List.append_nil] at ended
    simp [closing, Reader.start, ended, Reader.finish, blankRow, trimChars]

def Counts.plus (counts : Counts) (delimiter : Delimiter) (number : Nat) : Counts :=
  match delimiter with
  | .comma => { counts with comma := counts.comma + number }
  | .semicolon => { counts with semicolon := counts.semicolon + number }
  | .tab => { counts with tab := counts.tab + number }

theorem tick_delimiter (counts : Counts) (delimiter : Delimiter) :
    counts.tick delimiter.char = counts.plus delimiter 1 := by
  cases delimiter <;> rfl

theorem plus_plus (counts : Counts) (delimiter : Delimiter) (first second : Nat) :
    (counts.plus delimiter first).plus delimiter second =
      counts.plus delimiter (first + second) := by
  cases delimiter <;> simp [Counts.plus, Nat.add_assoc]

theorem winner_plus (number : Nat) :
    ((⟨0, 0, 0⟩ : Counts).plus delimiter (number + 1)).winner = delimiter := by
  cases delimiter <;> simp [Counts.plus, Counts.winner]

theorem countOutside_doubled (field : List Char) (rest : List Char) (counts : Counts) :
    countOutside (doubled field ++ rest) true counts = countOutside rest true counts := by
  induction field with
  | nil => rfl
  | cons ch field ih =>
    by_cases quote : ch = '"'
    · simp [doubled, quote, countOutside, ih]
    · simp [doubled, quote, countOutside, ih]

theorem countOutside_field (field : String) (rest : List Char) (counts : Counts) :
    countOutside (encodeField field ++ rest) false counts = countOutside rest false counts := by
  simp [encodeField, countOutside, countOutside_doubled]

theorem countOutside_row (last : String)
    (counts : Counts) :
    countOutside (encodeRow delimiter (fields ++ [last])) false counts =
      counts.plus delimiter fields.length := by
  induction fields generalizing counts with
  | nil =>
    have only := countOutside_field last [] counts
    rw [List.append_nil] at only
    cases delimiter <;> simpa [encodeRow, countOutside, Counts.plus] using only
  | cons field fields ih =>
    have shape : encodeRow delimiter (field :: (fields ++ [last])) =
        encodeField field ++ delimiter.char :: encodeRow delimiter (fields ++ [last]) := by
      cases fields <;> rfl
    calc countOutside (encodeRow delimiter (field :: fields ++ [last])) false counts
      _ = countOutside (encodeRow delimiter (fields ++ [last])) false
            (counts.plus delimiter 1) := by
        rw [List.cons_append, shape, countOutside_field]
        simp [countOutside, tick_delimiter]
      _ = counts.plus delimiter (fields.length + 1) := by
        rw [ih, plus_plus, Nat.add_comm]

abbrev noBreaks (text : List Char) : Prop := ∀ c ∈ text, lineBreak c = false

theorem noBreaks_doubled (field : List Char) (whole : noBreaks field) :
    noBreaks (doubled field) := by
  induction field with
  | nil => exact whole
  | cons ch field ih =>
    have rest := ih (fun c member => whole c (List.mem_cons_of_mem _ member))
    have first := whole ch List.mem_cons_self
    intro c member
    by_cases quote : ch = '"'
    · simp only [doubled, quote, if_true, List.mem_cons] at member
      grind
    · simp only [doubled, quote, if_false, List.mem_cons] at member
      grind

theorem noBreaks_row (row : List String)
    (whole : ∀ field ∈ row, noBreaks field.toList) : noBreaks (encodeRow delimiter row) := by
  have plain : lineBreak delimiter.char = false := by cases delimiter <;> rfl
  have quoted : ∀ field ∈ row, noBreaks (encodeField field) := by
    intro field member c inside
    have kept := noBreaks_doubled field.toList (whole field member)
    simp only [encodeField, List.mem_cons, List.mem_append, List.not_mem_nil, or_false] at inside
    grind [lineBreak]
  clear whole
  induction row with
  | nil => simp [noBreaks, encodeRow]
  | cons field row ih =>
    have rest := ih (fun other member => quoted other (List.mem_cons_of_mem _ member))
    have first := quoted field List.mem_cons_self
    cases row with
    | nil => exact first
    | cons next row =>
      intro c inside
      simp only [encodeRow, List.mem_append, List.mem_cons] at inside rest
      grind

theorem firstLine_encoded (text : List Char) (rest : List Char) (whole : noBreaks text)
    (ended : rest = [] ∨ ∃ c after, rest = c :: after ∧ lineBreak c = true) :
    firstLine (text ++ rest) = text := by
  have passed : ∀ c ∈ text, (!lineBreak c) = true := fun c member => by simp [whole c member]
  rw [firstLine, List.takeWhile_append_of_pos passed]
  obtain rfl | ⟨c, after, rfl, stop⟩ := ended
  · simp
  · simp [stop]

theorem ending_breaks (rest : List Char) :
    ∃ c after, ending.chars ++ rest = c :: after ∧ lineBreak c = true := by
  cases ending <;> exact ⟨_, _, rfl, rfl⟩

theorem firstLine_table (header : List String) (body : List (List String))
    (whole : ∀ field ∈ header, noBreaks field.toList) :
    firstLine (encodeRows delimiter ending (header :: body) ++ closing ending closed) =
      encodeRow delimiter header := by
  have written := noBreaks_row delimiter header whole
  by_cases more : body = []
  · subst more
    refine firstLine_encoded _ _ written ?_
    cases closed with
    | false => exact .inl rfl
    | true => exact .inr (by simpa [closing] using ending_breaks ending [])
  · rw [encodeRows_cons _ _ _ _ more, List.append_assoc, List.append_assoc]
    exact firstLine_encoded _ _ written (.inr (ending_breaks ending _))

theorem detectDelimiter_encoded (header : List String) (body : List (List String))
    (columns : 2 ≤ header.length)
    (whole : ∀ field ∈ header, noBreaks field.toList) :
    detectDelimiter (encodeRows delimiter ending (header :: body) ++ closing ending closed) =
      delimiter := by
  have some_ : header ≠ [] := by
    rintro rfl
    simp at columns
  have number : header.dropLast.length = header.length - 2 + 1 := by
    simp only [List.length_dropLast]
    omega
  rw [detectDelimiter, firstLine_table _ _ _ _ _ whole,
    ← List.dropLast_concat_getLast some_, countOutside_row, number, winner_plus]

theorem stripBom_encoded (marked closed : Bool)
    (table : List (List String)) (filled : ∀ row ∈ table, blankRow row = false) :
    stripBom (encodeCsv delimiter ending marked closed table).toList =
      encodeRows delimiter ending table ++ closing ending closed := by
  cases marked with
  | true => simp [encodeCsv, stripBom, closing]
  | false =>
    have opening : (encodeRows delimiter ending table ++ closing ending closed).head? ≠
        some BOM := by
      by_cases some_ : table = []
      · subst some_
        cases closed <;> cases ending <;>
          simp [encodeRows, closing, LineEnding.chars, BOM]
      · rw [List.head?_append, encodeRows_head delimiter ending table some_ filled]
        simp [BOM]
    rw [encodeCsv, String.toList_ofList]
    change stripBom ([] ++ (encodeRows delimiter ending table ++ closing ending closed)) = _
    rw [List.nil_append]
    cases text : encodeRows delimiter ending table ++ closing ending closed with
    | nil => rfl
    | cons ch rest =>
      rw [text] at opening
      have other : ch ≠ BOM := by simpa using opening
      simp [stripBom, other]

theorem rows_read_back (table : List (List String)) (filled : ∀ row ∈ table, blankRow row = false) :
    (readText delimiter.char (encodeRows delimiter ending table ++ closing ending closed)
      .start).finish.rows.filter (fun row => !blankRow row) = table := by
  by_cases some_ : table = []
  · subst some_
    exact finish_empty delimiter ending closed
  · have read := readText_rows delimiter ending closed table [] some_ filled
    rw [Reader.start, read, List.nil_append, List.filter_eq_self]
    exact fun row member => by simp [filled row member]

/-- What the reader is given with its delimiter it reads back, and of a table of two columns or
more it finds the delimiter by itself. -/
theorem parseCsv_encodeCsv (delimiter : Delimiter) (ending : LineEnding) (marked closed : Bool)
    (table : List (List String)) (filled : ∀ row ∈ table, blankRow row = false) :
    parseCsv (encodeCsv delimiter ending marked closed table) (some delimiter) =
        ⟨table, delimiter⟩ ∧
      ∀ header body, table = header :: body → 2 ≤ header.length →
        (∀ field ∈ header, noBreaks field.toList) →
        parseCsv (encodeCsv delimiter ending marked closed table) none = ⟨table, delimiter⟩ := by
  have text := stripBom_encoded delimiter ending marked closed table filled
  have read := rows_read_back delimiter ending closed table filled
  constructor
  · simp only [parseCsv, text, Option.getD_some, read]
  · intro header body shape columns whole
    have found : detectDelimiter (encodeRows delimiter ending table ++ closing ending closed) =
        delimiter := by
      rw [shape]
      exact detectDelimiter_encoded delimiter ending closed header body columns whole
    simp only [parseCsv, text, Option.getD_none, found, read]

theorem parseCsv_encodeCsv_quoted :
    parseCsv (encodeCsv .semicolon .crlf true false [["a;b", "\"c\""], ["1", "x\ny"]]) none =
      ⟨[["a;b", "\"c\""], ["1", "x\ny"]], .semicolon⟩ :=
  (parseCsv_encodeCsv .semicolon .crlf true false [["a;b", "\"c\""], ["1", "x\ny"]]
    (by simp [blankRow, trimChars, jsSpace])).2 ["a;b", "\"c\""] [["1", "x\ny"]] rfl (by simp)
    (by simp [noBreaks, lineBreak])

end ErpBackend.Imports
