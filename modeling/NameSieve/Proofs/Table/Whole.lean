import NameSieve.Proofs.Table.Spelling

/-!
# Whole records

The bytes of a file up to the place where some record is looked for are *whole records*, each of
them closed by the first line end behind it.  `WholeRecords` says so without a word about the rest
of the file, and that is the point: what is behind the end of a record does not matter to it.

* `Closed.append` is that fact for a single record, and `exists_closed` cuts the record off.
* **`recordsFrom_whole`**: whole records are found, whatever follows them.
* **`exists_whole`**: in front of any record there are whole records.  `records_before` is the same
  for files, which may open with a byte order mark, and `records_whole` tells the records of a file
  that is cut off there.

The reader counts bytes and lines as it goes; `Cursor.advanceAll_eq` says what it has counted.
-/

namespace NameSieve.Format

/-! ## Places -/

namespace Cursor

variable (cursor : Cursor) (bytes more : Bytes)

lemma advanceAll_append :
    cursor.advanceAll (bytes ++ more) = (cursor.advanceAll bytes).advanceAll more :=
  List.foldl_append

/-- **What a reader has counted** behind some bytes: all of them, and the line feeds among them. -/
lemma advanceAll_eq :
    cursor.advanceAll bytes = ⟨cursor.byte + bytes.length, cursor.line + bytes.count lineFeed⟩ := by
  induction bytes generalizing cursor with
  | nil => rfl
  | cons byte bytes ih =>
      rw [advanceAll, List.foldl_cons, ← advanceAll, ih, advance, List.length_cons, List.count_cons]
      by_cases ends : byte = lineFeed
      · simp [ends]
        omega
      · simp [ends]
        omega

end Cursor

/-! ## One record -/

/-- **The record that goes on here is closed**: the last of the bytes is the one that ends it. -/
def Closed (mode : Mode) (piece : Bytes) : Prop :=
  extent mode piece + 1 = piece.length

lemma Closed.ne_nil {mode : Mode} {piece : Bytes} (closed : Closed mode piece) : piece ≠ [] := by
  rintro rfl
  cases closed

/-- **What follows a closed record does not change it.** -/
lemma Closed.append {mode : Mode} {piece : Bytes} (closed : Closed mode piece) (more : Bytes) :
    fields mode (piece ++ more) = fields mode piece ∧
      extent mode (piece ++ more) = extent mode piece := by
  induction piece generalizing mode with
  | nil => cases closed
  | cons byte piece ih =>
      rw [List.cons_append]
      cases hstep : step mode byte with
      | mk action next =>
          cases action with
          | finish => simp only [fields, extent, hstep, and_self]
          | keep | drop | separate =>
              simp only [Closed, fields, extent, hstep] at closed ⊢
              obtain ⟨sameFields, sameExtent⟩ := ih (Nat.succ.inj closed)
              simp only [sameFields, sameExtent, and_self]

/-- A record that ends before the bytes do can be cut off. -/
lemma exists_closed {mode : Mode} {bytes : Bytes} (ends : extent mode bytes < bytes.length) :
    ∃ piece more, bytes = piece ++ more ∧ Closed mode piece := by
  induction bytes generalizing mode with
  | nil => cases ends
  | cons byte bytes ih =>
      cases hstep : step mode byte with
      | mk action next =>
          cases action with
          | finish => exact ⟨[byte], bytes, rfl, by simp [Closed, extent, hstep]⟩
          | keep | drop | separate =>
              have ends' : extent next bytes < bytes.length := by
                simpa [extent, hstep] using ends
              obtain ⟨piece, more, rfl, closed⟩ := ih ends'
              rw [Closed] at closed
              exact ⟨byte :: piece, more, rfl, by simp [Closed, extent, hstep, closed]⟩

/-! ## Whole records -/

/-- **Whole records**: the bytes of some records one after the other, each behind any blank lines
and up to the byte that ends it. -/
inductive WholeRecords : List (List Bytes) → Bytes → Prop where
  | nil : WholeRecords [] []
  | cons {blank piece : Bytes} {records : List (List Bytes)} {more : Bytes}
      (blanks : ∀ byte ∈ blank, isLineEnd byte)
      (first : ∀ byte ∈ piece.head?, isLineEnd byte = false)
      (closed : Closed .start piece) (rest : WholeRecords records more) :
      WholeRecords (fields .start piece :: records) (blank ++ (piece ++ more))

/-- The record at the begin of some bytes, behind any blank lines. -/
def nextRecord? (bytes : Bytes) : Option (List Bytes) :=
  match bytes.dropWhile isLineEnd with
  | [] => none
  | visible => some (fields .start visible)

/-- The first record behind blank lines, and where the next is looked for. -/
lemma recordsFrom_piece {blank piece : Bytes} (blanks : ∀ byte ∈ blank, isLineEnd byte)
    (first : ∀ byte ∈ piece.head?, isLineEnd byte = false) (closed : Closed .start piece)
    (rest : Bytes) (place : Cursor) :
    recordsFrom place (blank ++ (piece ++ rest))
      = ⟨place, fields .start piece⟩ :: recordsFrom (place.advanceAll (blank ++ piece)) rest := by
  have visible := closed.ne_nil
  obtain ⟨sameFields, sameExtent⟩ := closed.append rest
  have first' : ∀ byte ∈ (piece ++ rest).head?, isLineEnd byte = false := by
    rwa [List.head?_append_of_ne_nil _ visible]
  rw [Closed] at closed
  rw [recordsFrom_visible blanks (List.append_ne_nil_of_left_ne_nil visible rest) first',
    sameFields, sameExtent, closed, List.take_left, List.drop_left, Cursor.advanceAll_append]

/-- **Whole records are found**, and what follows them is looked for right behind. -/
theorem recordsFrom_whole {records : List (List Bytes)} {front : Bytes}
    (whole : WholeRecords records front) (rest : Bytes) (place : Cursor) :
    ∃ found, found.map RawRecord.fields = records ∧
      recordsFrom place (front ++ rest) = found ++ recordsFrom (place.advanceAll front) rest := by
  induction whole generalizing place with
  | nil => exact ⟨[], rfl, rfl⟩
  | @cons blank piece records more blanks first closed _ ih =>
      obtain ⟨found, hfields, hfound⟩ := ih (place.advanceAll (blank ++ piece))
      refine ⟨⟨place, fields .start piece⟩ :: found, by rw [List.map_cons, hfields], ?_⟩
      rw [List.append_assoc, List.append_assoc, recordsFrom_piece blanks first closed, hfound,
        List.cons_append, ← Cursor.advanceAll_append, List.append_assoc]

/-- A record with another behind it is closed. -/
lemma exists_piece {i : Nat} {place : Cursor} {bytes : Bytes} {record : RawRecord}
    (here : (recordsFrom place bytes)[i + 1]? = some record) :
    ∃ blank piece more, bytes = blank ++ (piece ++ more) ∧ (∀ byte ∈ blank, isLineEnd byte) ∧
      (∀ byte ∈ piece.head?, isLineEnd byte = false) ∧ Closed .start piece := by
  rw [recordsFrom] at here
  split at here
  · cases here
  · next byte rest visible =>
      have behind : extent .start (byte :: rest) < (byte :: rest).length := by
        by_contra beyond
        rw [List.getElem?_cons_succ, List.drop_eq_nil_of_le (by omega),
          recordsFrom_blank (List.forall_mem_nil _)] at here
        cases here
      obtain ⟨piece, more, cut, closed⟩ := exists_closed behind
      refine ⟨bytes.takeWhile isLineEnd, piece, more, ?_, fun _ => List.mem_takeWhile_imp, ?_,
        closed⟩
      · rw [← cut, ← visible, List.takeWhile_append_dropWhile]
      · intro byte member
        have opens : (piece ++ more).head? = piece.head? :=
          List.head?_append_of_ne_nil _ closed.ne_nil
        have stopped := List.head?_dropWhile_not isLineEnd bytes
        rwa [visible, cut, opens, Option.mem_def.mp member] at stopped

/-- **In front of every record there are whole records**, and it is the next one behind them. -/
theorem exists_whole {i : Nat} {place : Cursor} {bytes : Bytes} {record : RawRecord}
    (here : (recordsFrom place bytes)[i]? = some record) :
    ∃ front rest, bytes = front ++ rest ∧ record.place = place.advanceAll front ∧
      nextRecord? rest = some record.fields ∧
      WholeRecords (((recordsFrom place bytes).take i).map RawRecord.fields) front := by
  induction i generalizing place bytes with
  | zero =>
      -- nothing stands in front of the first record, and blank lines belong to what is behind
      refine ⟨[], bytes, rfl, ?_, ?_, .nil⟩
      all_goals
        rw [recordsFrom] at here
        split at here
        · cases here
        · next visible =>
            obtain rfl := Option.some.inj here
            simp [nextRecord?, visible, Cursor.advanceAll]
  | succ i ih =>
      obtain ⟨blank, piece, more, rfl, blanks, first, closed⟩ := exists_piece here
      rw [recordsFrom_piece blanks first closed] at here ⊢
      rw [List.getElem?_cons_succ] at here
      obtain ⟨front, rest, rfl, hplace, next, whole⟩ := ih here
      refine ⟨blank ++ (piece ++ front), rest, by simp, ?_, next, ?_⟩
      · rw [hplace, ← Cursor.advanceAll_append, List.append_assoc]
      · rw [List.take_succ_cons, List.map_cons]
        exact .cons blanks first closed whole

/-! ## Whole files -/

/-- **In front of every record but the first of a file** there are whole records, behind the byte
order mark if there is one. -/
theorem records_before {i : Nat} {bytes : Bytes} {record : RawRecord}
    (here : (Format.records bytes)[i + 1]? = some record) :
    ∃ front rest, bytes = bytes.take (markSize bytes) ++ (front ++ rest) ∧
      record.place = Cursor.start.advanceAll (bytes.take (markSize bytes) ++ front) ∧
      nextRecord? rest = some record.fields ∧
      WholeRecords (((Format.records bytes).take (i + 1)).map RawRecord.fields) front := by
  rw [Format.records] at here ⊢
  split at here
  · cases here
  · next first others found =>
      have behind : (recordsFrom (Cursor.start.advanceAll (bytes.take (markSize bytes)))
          (bytes.drop (markSize bytes)))[i + 1]? = some record := by
        rw [found]
        exact here
      obtain ⟨front, rest, cut, hplace, next, whole⟩ := exists_whole behind
      rw [← Cursor.advanceAll_append] at hplace
      refine ⟨front, rest, by rw [← cut, List.take_append_drop], hplace, next, ?_⟩
      rw [found] at whole
      exact whole

lemma markSize_le (bytes : Bytes) : markSize bytes ≤ bytes.length := by
  rw [markSize]
  split_ifs with marked
  · exact (List.isPrefixOf_iff_prefix.mp marked).length_le
  · exact Nat.zero_le _

/-- The mark of a file is a mark also of its beginnings behind it. -/
lemma markSize_take_append {bytes front rest : Bytes}
    (cut : bytes = bytes.take (markSize bytes) ++ (front ++ rest)) :
    markSize (bytes.take (markSize bytes) ++ front) = markSize bytes := by
  by_cases marked : byteOrderMark <+: bytes
  · have size : markSize bytes = byteOrderMark.length := by
      rw [markSize, if_pos (List.isPrefixOf_iff_prefix.mpr marked)]
    rw [size, ← List.prefix_iff_eq_take.mp marked, markSize, if_pos (by simp)]
  · rw [markSize_of_unmarked marked] at cut ⊢
    apply markSize_of_unmarked
    rw [cut, ← List.append_assoc] at marked
    exact fun opens => marked (opens.trans (List.prefix_append _ rest))

/-- **Whole records are the records of a file** that ends with them. -/
theorem records_whole {bytes front rest : Bytes} {records : List (List Bytes)}
    (cut : bytes = bytes.take (markSize bytes) ++ (front ++ rest))
    (whole : WholeRecords records front) :
    (Format.records (bytes.take (markSize bytes) ++ front)).map RawRecord.fields = records := by
  have mark : (bytes.take (markSize bytes)).length = markSize bytes :=
    List.length_take_of_le (markSize_le bytes)
  obtain ⟨found, hfields, hfound⟩ :=
    recordsFrom_whole whole [] (Cursor.start.advanceAll (bytes.take (markSize bytes)))
  rw [recordsFrom_blank (List.forall_mem_nil _), List.append_nil, List.append_nil] at hfound
  rw [records_map_fields, markSize_take_append cut, List.take_left' mark, List.drop_left' mark,
    hfound, hfields]

end NameSieve.Format
