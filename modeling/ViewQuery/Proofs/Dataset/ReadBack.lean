import ViewQuery.Dataset
import ViewQuery.Proofs.Json.Records
import ViewQuery.Proofs.Text.Utf8

set_option autoImplicit false

namespace ViewQuery

open Grammar Json Json.Read

namespace Example

theorem finite_toJson (e : Example) : e.toJson.Finite := by
  have optional (k : String) (o : Option String) :
      ∀ f ∈ optionalField k Json.str o, f.2.Finite := by
    cases o with
    | none => exact List.forall_mem_nil _
    | some a => exact List.forall_mem_singleton.2 (.str a)
  refine .obj ?_
  simp only [List.forall_mem_append, List.forall_mem_cons]
  exact ⟨⟨⟨optional _ _, optional _ _⟩, .str _, .str _, List.forall_mem_nil _⟩, optional _ _⟩

theorem reads (e : Example) {depth : Nat} (deep : 1 < depth) :
    Reads (record shape) depth e.toJson e := by
  have question : Fills shape (depth - 1) blank (optionalField "question" .str e.question)
      ⟨e.question, none, "", "", none⟩ :=
    Fills.optionalField (fun (e : Example) x => { e with question := x }) rfl (fun _ => rfl) rfl _
  have view : Fills shape (depth - 1) ⟨e.question, none, "", "", none⟩
      (optionalField "view" .str e.view) ⟨e.question, e.view, "", "", none⟩ :=
    Fills.optionalField (fun (e : Example) x => { e with view := x }) rfl (fun _ => rfl) rfl _
  have texts : Fills shape (depth - 1) ⟨e.question, e.view, "", "", none⟩
      [("iql_filters", .str e.filters), ("iql_actions", .str e.actions)]
      ⟨e.question, e.view, e.filters, e.actions, none⟩ :=
    .of (fun (e : Example) x => { e with filters := x }) rfl (fun _ => rfl) (.string _ e.filters)
      (.of (fun (e : Example) x => { e with actions := x }) rfl (fun _ => rfl)
        (.string _ e.actions) .nil)
  have truth : Fills shape (depth - 1) ⟨e.question, e.view, e.filters, e.actions, none⟩
      (optionalField "ground_truth" .str e.groundTruth) e :=
    Fills.optionalField (fun (e : Example) x => { e with groundTruth := x }) rfl (fun _ => rfl)
      rfl _
  have covers (seen : List String) : Covers shape seen := by
    simp [Covers, shape, Field.orDefault]
  have fills := ((question.append view).append texts).append truth
  refine .record fills deep ?_ (covers _)
  -- Each key is one of five different ones, in their order.
  have keys : ["question", "view", "iql_filters", "iql_actions", "ground_truth"].Nodup := by decide
  refine List.Sublist.nodup ?_ keys
  simp only [List.map_append]
  exact (((keys_optionalField _ _).append (keys_optionalField _ _)).append (.refl _)).append
    (keys_optionalField _ _)

end Example

namespace Dataset

open Text (encoded)

section lines

variable {cs : List Char} {octets : List UInt8}

def content (cs : List Char) : List Char := if cs.getLast? = some '\r' then cs.dropLast else cs

theorem linesFrom_append (current rest : List UInt8) (single : lineFeed ∉ octets) :
    linesFrom current (octets ++ lineFeed :: rest) =
      withoutReturn (current.reverse ++ octets) :: lines rest := by
  induction octets generalizing current with
  | nil => simp [linesFrom, lines]
  | cons b octets ih =>
    have apart : b ≠ lineFeed := fun same => single (same ▸ List.mem_cons_self)
    have others : lineFeed ∉ octets := fun member => single (List.mem_cons_of_mem b member)
    rw [List.cons_append, linesFrom, if_neg apart, ih (b :: current) others]
    simp

theorem getLast?_encoded (ds : List Char) (c : Char) :
    (encoded (ds ++ [c])).getLast? = some carriageReturn ↔ c = '\r' := by
  have nonempty : encoded [c] ≠ [] := by
    simp [encoded, String.utf8EncodeChar_ne_nil]
  rw [Text.encoded_append, List.getLast?_append_of_ne_nil _ nonempty]
  constructor
  · intro last
    have member := List.mem_of_getLast? last
    rw [Text.mem_encoded_iff (by decide) (rfl : '\r'.toNat = carriageReturn.toNat)] at member
    exact (List.mem_singleton.1 member).symm
  · rintro rfl
    rfl

theorem withoutReturn_encoded (cs : List Char) :
    withoutReturn (encoded cs) = encoded (content cs) := by
  rcases List.eq_nil_or_concat' cs with rfl | ⟨ds, c, rfl⟩
  · rfl
  · by_cases isReturn : c = '\r'
    · subst isReturn
      have octets : encoded (ds ++ ['\r']) = encoded ds ++ [carriageReturn] :=
        Text.encoded_append ds ['\r']
      rw [withoutReturn, octets, if_pos List.getLast?_concat, List.dropLast_concat, content,
        if_pos List.getLast?_concat, List.dropLast_concat]
    · have last : (ds ++ [c]).getLast? ≠ some '\r' := by simpa using isReturn
      rw [withoutReturn, if_neg (mt (getLast?_encoded ds c).1 isReturn), content, if_neg last]

theorem lines_encoded (cs : List Char) (rest : List UInt8) (single : '\n' ∉ cs) :
    lines (encoded (cs ++ ['\n']) ++ rest) = encoded (content cs) :: lines rest := by
  have octets : lineFeed ∉ encoded cs := by
    rwa [Text.mem_encoded_iff (by decide) (rfl : '\n'.toNat = lineFeed.toNat)]
  have feed : encoded (cs ++ ['\n']) ++ rest = encoded cs ++ lineFeed :: rest := by
    rw [Text.encoded_append, List.append_assoc]
    rfl
  rw [feed, lines, linesFrom_append [] rest octets, ← withoutReturn_encoded]
  rfl

end lines

section rows

-- A carriage return at the end of a row belongs to the line end.
inductive Row where
  | record (e : Example)
  | blank (cs : List Char)
  | other (cs : List Char)

namespace Row

def chars : Row → List Char
  | .record e => e.toJson.chars
  | .blank cs => cs
  | .other cs => cs

def example? : Row → Option Example
  | .record e => some e
  | _ => none

def isOther : Row → Bool
  | .other _ => true
  | _ => false

-- A row is a single line, and one that is something else is neither blank nor a record.
def Valid : Row → Prop
  | .record _ => True
  | .blank cs => '\n' ∉ cs ∧ cs.all Text.isBlank
  | .other cs => '\n' ∉ cs ∧ ¬ cs.all Text.isBlank ∧
      ∀ e, whole? (Read.record Example.shape) (content cs) ≠ .ok e

end Row

def rowsText (rows : List Row) : String :=
  String.ofList (rows.flatMap fun r => r.chars ++ ['\n'])

variable {row : Row} {rows before : List Row} {n : Nat}

theorem newline_notMem_row (valid : row.Valid) : '\n' ∉ row.chars := by
  cases row with
  | record e => exact newline_notMem_chars e.finite_toJson
  | blank cs => exact valid.1
  | other cs => exact valid.1

theorem lines_rows (valid : ∀ r ∈ rows, r.Valid) (rest : List UInt8) :
    lines (encoded (rows.flatMap fun r => r.chars ++ ['\n']) ++ rest) =
      (rows.map fun r => encoded (content r.chars)) ++ lines rest := by
  induction rows with
  | nil => rfl
  | cons row rows ih =>
    obtain ⟨first, others⟩ := List.forall_mem_cons.1 valid
    rw [List.flatMap_cons, Text.encoded_append, List.append_assoc,
      lines_encoded _ _ (newline_notMem_row first), ih others]
    rfl

theorem content_record (e : Example) : content e.toJson.chars = e.toJson.chars := by
  have last : e.toJson.chars.getLast? = some closeBrace := List.getLast?_concat
  rw [content, last, if_neg (by decide)]

theorem all_content (cs : List Char) : (content cs).all Text.isBlank = cs.all Text.isBlank := by
  rcases List.eq_nil_or_concat' cs with rfl | ⟨ds, c, rfl⟩
  · rfl
  · by_cases isReturn : c = '\r'
    · subst isReturn
      have blank : Text.isBlank '\r' := by decide
      simp [content, blank]
    · simp [content, isReturn]

theorem record?_record (e : Example) :
    record? n (encoded (content e.toJson.chars)) = .ok (some e) := by
  have visible : ¬ e.toJson.chars.all Text.isBlank := by
    have brace : Text.isBlank openBrace = false := by decide
    simp [Example.toJson, Json.chars, brace]
  have read := (e.reads (by decide : 1 < greatestDepth)).text
  rw [Read.text, compact, String.toList_ofList] at read
  rw [record?, content_record, Text.decode?_encoded]
  simp only [if_neg visible, read]

theorem record?_blank {cs : List Char} (blank : cs.all Text.isBlank) :
    record? n (encoded (content cs)) = .ok none := by
  rw [record?, Text.decode?_encoded]
  simp only [all_content, blank, if_true]

theorem record?_other {cs : List Char} (valid : (Row.other cs).Valid) :
    ∃ e, whole? (Read.record Example.shape) (content cs) = .error e ∧
      record? n (encoded (content cs)) = .error (.invalidRecord n e) := by
  obtain ⟨-, visible, noRecord⟩ := valid
  rw [record?, Text.decode?_encoded]
  simp only [all_content, if_neg visible]
  cases read : whole? (Read.record Example.shape) (content cs) with
  | ok e => exact absurd read (noRecord e)
  | error e => exact ⟨e, rfl, rfl⟩

theorem record?_row (valid : row.Valid) (readable : row.isOther = false) :
    record? n (encoded (content row.chars)) = .ok row.example? := by
  cases row with
  | record e => exact record?_record e
  | blank cs => exact record?_blank valid.2
  | other cs => cases readable

theorem records_rows (valid : ∀ r ∈ rows, r.Valid) (readable : ∀ r ∈ rows, r.isOther = false)
    (more : List (List UInt8)) :
    records n ((rows.map fun r => encoded (content r.chars)) ++ more) =
      (records (n + rows.length) more).map (rows.filterMap Row.example? ++ ·) := by
  induction rows generalizing n with
  | nil =>
    change records n more = (records n more).map id
    cases records n more <;> rfl
  | cons row rows ih =>
    obtain ⟨validFirst, validOthers⟩ := List.forall_mem_cons.1 valid
    obtain ⟨readFirst, readOthers⟩ := List.forall_mem_cons.1 readable
    rw [List.map_cons, List.cons_append, records, record?_row validFirst readFirst]
    dsimp only
    rw [ih validOthers readOthers, List.length_cons, Nat.add_assoc, Nat.add_comm 1]
    cases records (n + (rows.length + 1)) more with
    | error e => rfl
    | ok es => cases row <;> rfl

theorem toList_rowsText (rows : List Row) :
    (rowsText rows).toUTF8.toList = encoded (rows.flatMap fun r => r.chars ++ ['\n']) := by
  rw [Text.toList_toUTF8, rowsText, String.toList_ofList, encoded]

theorem read_rows (valid : ∀ r ∈ rows, r.Valid) (readable : ∀ r ∈ rows, r.isOther = false) :
    read (rowsText rows).toUTF8.toList = .ok (rows.filterMap Row.example?) := by
  have cut := lines_rows valid []
  have found := records_rows (n := 1) valid readable []
  rw [List.append_nil] at cut
  rw [toList_rowsText, read, cut]
  refine found.trans ?_
  rw [records, Except.map, List.append_nil]

theorem read_other {cs : List Char} (valid : ∀ r ∈ before, r.Valid)
    (readable : ∀ r ∈ before, r.isOther = false) (other : (Row.other cs).Valid) (after : List Row) :
    ∃ e, whole? (Read.record Example.shape) (content cs) = .error e ∧
      read (rowsText (before ++ .other cs :: after)).toUTF8.toList =
        .error (.invalidRecord (before.length + 1) e) := by
  obtain ⟨e, isError, refused⟩ := record?_other (n := before.length + 1) other
  refine ⟨e, isError, ?_⟩
  have single : '\n' ∉ cs := other.1
  rw [toList_rowsText, List.flatMap_append, Text.encoded_append, List.flatMap_cons,
    Text.encoded_append, read, lines_rows valid, Row.chars, lines_encoded cs _ single,
    records_rows valid readable, Nat.add_comm, records, refused]
  rfl

theorem text_eq_rowsText (es : List Example) : text es = rowsText (es.map Row.record) := by
  have line (e : Example) : (line e).toList = (Row.record e).chars ++ ['\n'] := by
    rw [Dataset.line, String.toList_append, compact, String.toList_ofList]
    rfl
  apply String.toList_injective
  simp only [text, rowsText, String.toList_join, String.toList_ofList, List.flatMap_map, line]

/-- What is written is read back, also with blank lines between the records, and the first line that
is neither blank nor a record is reported with its number. -/
theorem read_written (es : List Example) :
    read (text es).toUTF8.toList = .ok es ∧
      (∀ rows : List Row, (∀ r ∈ rows, r.Valid) → (∀ r ∈ rows, r.isOther = false) →
        rows.filterMap Row.example? = es → read (rowsText rows).toUTF8.toList = .ok es) ∧
      ∀ (before after : List Row) (cs : List Char), (∀ r ∈ before, r.Valid) →
        (∀ r ∈ before, r.isOther = false) → (Row.other cs).Valid →
        ∃ e, whole? (Read.record Example.shape) (content cs) = .error e ∧
          read (rowsText (before ++ .other cs :: after)).toUTF8.toList =
            .error (.invalidRecord (before.length + 1) e) := by
  refine ⟨?written, ?blank, fun before after cs valid readable other =>
    read_other valid readable other after⟩
  case written =>
    have found : (es.map Row.record).filterMap Row.example? = es := by
      rw [List.filterMap_map]
      exact List.filterMap_some
    have valid : ∀ r ∈ es.map Row.record, r.Valid := List.forall_mem_map.2 fun _ _ => trivial
    have readable : ∀ r ∈ es.map Row.record, r.isOther = false :=
      List.forall_mem_map.2 fun _ _ => rfl
    rw [text_eq_rowsText, read_rows valid readable, found]
  case blank =>
    rintro rows valid readable rfl
    exact read_rows valid readable

-- A text with line ends in it, an empty and a blank line, and a fourth line that is no JSON.
theorem read_written_lines :
    let e : Example := ⟨some "who?\r\n", none, "a('\"')", "", none⟩
    let rows : List Row := [.blank [], .record e, .blank [' ', '\u2028', '\r']]
    let broken : Row := .other "\x7bnot json\x7d".toList
    read (rowsText rows).toUTF8.toList = .ok [e] ∧
      ∃ fault, read (rowsText (rows ++ [broken, .record e])).toUTF8.toList =
        .error (.invalidRecord 4 fault) := by
  intro e rows broken
  have valid : ∀ r ∈ rows, r.Valid := by
    refine List.forall_mem_cons.2 ⟨⟨by decide, by decide⟩, List.forall_mem_cons.2 ⟨trivial, ?_⟩⟩
    exact List.forall_mem_singleton.2 ⟨by decide, by decide⟩
  have readable : ∀ r ∈ rows, r.isOther = false := by simp [rows, Row.isOther]
  have other : broken.Valid := by
    refine ⟨by decide, by decide, fun e found => ?_⟩
    have refused : (whole? (Read.record Example.shape) (content "\x7bnot json\x7d".toList)).isOk =
      false := by decide +kernel
    rw [found] at refused
    cases refused
  obtain ⟨-, blank, first⟩ := read_written [e]
  obtain ⟨fault, -, reported⟩ := first rows [.record e] _ valid readable other
  exact ⟨blank rows valid readable rfl, fault, reported⟩

end rows

end Dataset

end ViewQuery
