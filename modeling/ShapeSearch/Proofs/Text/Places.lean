import ShapeSearch.Text.Position
import Mathlib.Data.FinEnum

/-!
# Places counted in characters

`Position.ofText` reads a text as UTF-8 bytes and folds over the bytes before the offset.
The fold is the same as counting those bytes: the line is one more than the newlines among
them, and the column one more than the lead bytes after the last newline, found by searching
back from the offset (`ofBytes_eq_ofByteCounts`).

Here the same place is also described by the text's characters, each starting at a byte
offset (`charStarts`):

* the line is one more than the number of newlines that start before the offset, and the
  column one more than the number of characters that start between the line's start (the
  byte after the last such newline) and the offset (`ofText_eq_charCounts`);
* equivalently, line and column are what folding `advanceChar` over the characters that
  start before the offset reaches.

An offset inside a character counts that character: its first byte is a lead byte and the
others are continuation bytes (`encode_eq_cons`), so a cut encoding moves the column as the
whole character does.  A newline is the single byte 10, and no byte of another character is.
-/

namespace ShapeSearch
namespace Position

/-- Line and column after one more character: a newline opens the next line at column 1,
any other character moves one column on. -/
def advanceChar (lc : Nat × Nat) (c : Char) : Nat × Nat :=
  if c = '\n' then (lc.1 + 1, 1) else (lc.1, lc.2 + 1)

/-- The characters of a text, each with the byte offset it starts at, counting from
`start`. -/
def charStarts : List Char → Nat → List (Nat × Char)
  | [], _ => []
  | c :: cs, start => (start, c) :: charStarts cs (start + c.utf8Size)

/-- The characters of a text that start before byte offset `o`, with their offsets. -/
def startsBefore (text : String) (o : Nat) : List (Nat × Char) :=
  (charStarts text.toList 0).filter fun p => p.1 < o

/-- The newlines among some placed characters. -/
def newlines (ps : List (Nat × Char)) : List (Nat × Char) :=
  ps.filter fun p => p.2 = '\n'

/-- Where the line of the last of some placed characters starts: the byte after the last
newline among them, or 0 when there is none. -/
def lineStart (ps : List (Nat × Char)) : Nat :=
  (((newlines ps).getLast?).map (·.1 + 1)).getD 0

/-- Where the line of the last of some bytes starts: one past the last newline among them,
found by searching back from the end, or 0 when there is none. -/
def byteLineStart (before : List UInt8) : Nat :=
  match before.reverse.findIdx? (· == 10) with
  | some i => before.length - i
  | none => 0

/-- The place of a byte offset by counting the bytes before it: the line is one more than
the number of newlines among them, and the column one more than the number of lead bytes
from the start of the line. -/
def ofByteCounts (bytes : List UInt8) (offset : Nat) : Position :=
  let o := min offset bytes.length
  let before := bytes.take o
  { offset := o
    line := before.count 10 + 1
    column := (before.drop (byteLineStart before)).countP isLeadByte + 1 }

/-! ### The bytes of a text -/

theorem toList_loop (bs : ByteArray) (i : Nat) (r : List UInt8) :
    ByteArray.toList.loop bs i r = r.reverse ++ bs.data.toList.drop i := by
  fun_induction ByteArray.toList.loop bs i r with
  | case1 i r hi ih =>
    have hi' : i < bs.data.toList.length := by simpa using hi
    have hget : bs.get! i = bs.data.toList[i] := by
      obtain ⟨data⟩ := bs
      simp [ByteArray.get!, getElem!_pos data i (by simpa using hi')]
    rw [ih, List.drop_eq_getElem_cons hi', hget]
    simp
  | case2 i r hi =>
    have hi' : bs.data.toList.length ≤ i := by simpa using hi
    simp [List.drop_eq_nil_of_le hi']

theorem toList_toUTF8 (text : String) : text.toUTF8.toList = text.toByteArray.data.toList := by
  simp [ByteArray.toList, toList_loop]

theorem length_toList_toUTF8 (text : String) : text.toUTF8.toList.length = text.utf8ByteSize := by
  rw [toList_toUTF8]
  simp

/-- A text's bytes are its characters' encodings, one after another. -/
theorem bytes_eq (text : String) :
    text.toUTF8.toList = text.toList.flatMap String.utf8EncodeChar := by
  rw [toList_toUTF8, ← String.utf8Encode_toList, List.utf8Encode]
  simp [List.data_toByteArray]

theorem isLeadByte_continuation (x : UInt8) : isLeadByte (x &&& 0x3f ||| 0x80) = false := by
  revert x; decide +kernel

/-- A character's encoding is a lead byte, which is 10 exactly for a newline, followed by
continuation bytes. -/
theorem encode_eq_cons (c : Char) : ∃ b rest, String.utf8EncodeChar c = b :: rest ∧
    (b = 10 ↔ c = '\n') ∧ isLeadByte b = true ∧ ∀ x ∈ rest, isLeadByte x = false := by
  have hpos := c.utf8Size_pos
  have hle := c.utf8Size_le_four
  have hnl : c = '\n' → c.utf8Size = 1 := by rintro rfl; rfl
  rcases (by omega : c.utf8Size = 1 ∨ c.utf8Size = 2 ∨ c.utf8Size = 3 ∨ c.utf8Size = 4)
    with h | h | h | h
  · have hlt : c.toNat < 128 := by
      have := Char.utf8Size_eq_one_iff.mp h
      simp [UInt32.le_iff_toNat_le] at this
      omega
    have hbyte : c.val.toUInt8.toNat = c.toNat := by
      rw [UInt32.toNat_toUInt8, Char.toNat_val]; omega
    refine ⟨_, [], String.utf8EncodeChar_eq_singleton h, ?_, ?_, by simp⟩
    · rw [← UInt8.toNat_inj, hbyte, show (10 : UInt8).toNat = ('\n' : Char).toNat from rfl,
        Char.toNat_inj]
    · have hb : c.val.toUInt8 < 128 := by simp only [UInt8.lt_iff_toNat_lt, hbyte]; simpa
      revert hb
      generalize c.val.toUInt8 = b
      revert b; decide +kernel
  · refine ⟨_, _, String.utf8EncodeChar_eq_cons_cons h,
      ⟨fun hb => ?_, fun hc => by simp [hnl hc] at h⟩, ?_, by simp [isLeadByte_continuation]⟩
    · exfalso; revert hb; generalize (c.val >>> 6).toUInt8 = x; revert x; decide +kernel
    · generalize (c.val >>> 6).toUInt8 = x; revert x; decide +kernel
  · refine ⟨_, _, String.utf8EncodeChar_eq_cons_cons_cons h,
      ⟨fun hb => ?_, fun hc => by simp [hnl hc] at h⟩, ?_, by simp [isLeadByte_continuation]⟩
    · exfalso; revert hb; generalize (c.val >>> 12).toUInt8 = x; revert x; decide +kernel
    · generalize (c.val >>> 12).toUInt8 = x; revert x; decide +kernel
  · refine ⟨_, _, String.utf8EncodeChar_eq_cons_cons_cons_cons h,
      ⟨fun hb => ?_, fun hc => by simp [hnl hc] at h⟩, ?_, by simp [isLeadByte_continuation]⟩
    · exfalso; revert hb; generalize (c.val >>> 18).toUInt8 = x; revert x; decide +kernel
    · generalize (c.val >>> 18).toUInt8 = x; revert x; decide +kernel

/-! ### Counting the bytes before an offset -/

theorem byteLineStart_append_newline (xs : List UInt8) :
    byteLineStart (xs ++ [10]) = xs.length + 1 := by
  simp [byteLineStart, List.findIdx?_cons]

theorem byteLineStart_append_other (xs : List UInt8) {b : UInt8} (hb : (b == 10) = false) :
    byteLineStart (xs ++ [b]) = byteLineStart xs := by
  unfold byteLineStart
  rw [List.reverse_append, List.reverse_singleton, List.singleton_append, List.findIdx?_cons,
    if_neg (by simp [hb])]
  cases xs.reverse.findIdx? (· == 10) with
  | none => rfl
  | some i => simp

theorem byteLineStart_le (xs : List UInt8) : byteLineStart xs ≤ xs.length := by
  unfold byteLineStart
  split <;> omega

/-- Folding `advance` over some bytes reaches line one more than their newlines, and column
one more than their lead bytes from the start of the last line. -/
theorem foldl_advance_eq_counts (xs : List UInt8) :
    xs.foldl advance (1, 1) =
      (xs.count 10 + 1, (xs.drop (byteLineStart xs)).countP isLeadByte + 1) := by
  induction xs using List.reverseRecOn with
  | nil => rfl
  | append_singleton xs b ih =>
    rw [List.foldl_append, ih, List.foldl_cons, List.foldl_nil]
    by_cases hb : b = 10
    · subst hb
      simp [advance, byteLineStart_append_newline]
    · have hb' : (b == 10) = false := by simpa using hb
      rw [byteLineStart_append_other xs hb', List.drop_append_of_le_length (byteLineStart_le xs)]
      cases hl : isLeadByte b <;> simp [advance, hb', hl, List.count_append, List.count_singleton]

/-- **The place counted.**  The place of a byte offset is found by counting: the line is one
more than the number of newlines before the offset, and the column one more than the number
of lead bytes after the last of them. -/
theorem ofBytes_eq_ofByteCounts (bytes : List UInt8) (offset : Nat) :
    ofBytes bytes offset = ofByteCounts bytes offset := by
  simp only [ofBytes, ofByteCounts, foldl_advance_eq_counts]

/-! ### Folding over bytes and over characters -/

/-- Continuation bytes move neither line nor column: none is a newline, since 10 is a lead
byte. -/
theorem foldl_advance_continuation {xs : List UInt8} (h : ∀ x ∈ xs, isLeadByte x = false)
    (lc : Nat × Nat) : xs.foldl advance lc = lc := by
  induction xs with
  | nil => rfl
  | cons x xs ih =>
    have hx := h x (by simp)
    have h10 : (x == 10) = false := by
      cases hx10 : x == 10
      · rfl
      · rw [beq_iff_eq.mp hx10] at hx; cases hx
    simp only [List.foldl_cons, advance, h10, hx, Bool.false_eq_true, if_false]
    exact ih fun y hy => h y (by simp [hy])

/-- Any nonempty start of a character's encoding moves line and column as the character
does. -/
theorem foldl_advance_take_encode (c : Char) {k : Nat} (hk : 0 < k) (lc : Nat × Nat) :
    ((String.utf8EncodeChar c).take k).foldl advance lc = advanceChar lc c := by
  obtain ⟨b, rest, henc, h10, hlead, hrest⟩ := encode_eq_cons c
  obtain ⟨k, rfl⟩ := Nat.exists_eq_add_of_lt hk
  rw [henc, Nat.zero_add, List.take_succ_cons, List.foldl_cons,
    foldl_advance_continuation (fun x hx => hrest x (List.mem_of_mem_take hx))]
  by_cases hc : c = '\n'
  · simp [advance, advanceChar, hc, h10.mpr hc]
  · have hb : (b == 10) = false := by simpa using mt h10.mp hc
    simp [advance, advanceChar, hc, hb, hlead]

theorem le_of_mem_charStarts : ∀ {cs : List Char} {s : Nat} {p : Nat × Char},
    p ∈ charStarts cs s → s ≤ p.1
  | [], _, _, h => by simp [charStarts] at h
  | c :: cs, s, p, h => by
    rcases List.mem_cons.mp h with rfl | h
    · exact Nat.le_refl _
    · have := le_of_mem_charStarts h
      omega

/-- Characters start at strictly increasing offsets. -/
theorem charStarts_sorted : ∀ (cs : List Char) (s : Nat),
    (charStarts cs s).Pairwise fun p q => p.1 < q.1
  | [], _ => .nil
  | c :: cs, s => by
    refine List.pairwise_cons.mpr ⟨fun q hq => ?_, charStarts_sorted cs _⟩
    have := le_of_mem_charStarts hq
    have := c.utf8Size_pos
    simp only
    omega

/-- Folding over the first `o` bytes of some characters' encodings is folding over the
characters that start before `o`. -/
theorem foldl_take_flatMap (cs : List Char) (s o : Nat) (lc : Nat × Nat) :
    ((cs.flatMap String.utf8EncodeChar).take o).foldl advance lc =
      (((charStarts cs s).filter fun p => p.1 < s + o).map Prod.snd).foldl advanceChar lc := by
  induction cs generalizing s o lc with
  | nil => simp [charStarts]
  | cons c cs ih =>
    have hlater : ∀ p ∈ charStarts cs (s + c.utf8Size), s + c.utf8Size ≤ p.1 :=
      fun p hp => le_of_mem_charStarts hp
    rcases Nat.eq_zero_or_pos o with rfl | ho
    · have hnone : ((charStarts cs (s + c.utf8Size)).filter fun p => p.1 < s) = [] :=
        List.filter_eq_nil_iff.mpr fun p hp => by
          have := hlater p hp
          have := c.utf8Size_pos
          simp only [decide_eq_true_eq]
          omega
      simp [charStarts, hnone]
    · have hbound : ((charStarts cs (s + c.utf8Size)).filter fun p => p.1 < s + o) =
          (charStarts cs (s + c.utf8Size)).filter
            fun p => p.1 < s + c.utf8Size + (o - c.utf8Size) :=
        List.filter_congr fun p hp => by
          have := hlater p hp
          simp only [decide_eq_decide]
          omega
      rw [List.flatMap_cons, List.take_append, List.foldl_append,
        foldl_advance_take_encode c ho, String.length_utf8EncodeChar, ih (s + c.utf8Size)]
      simp [charStarts, ho, hbound]

/-! ### Counting lines and columns -/

theorem newlines_append_newline (ps : List (Nat × Char)) (s : Nat) :
    newlines (ps ++ [(s, '\n')]) = newlines ps ++ [(s, '\n')] := by
  simp [newlines]

theorem newlines_append_other (ps : List (Nat × Char)) {s : Nat} {c : Char} (hc : c ≠ '\n') :
    newlines (ps ++ [(s, c)]) = newlines ps := by
  simp [newlines, hc]

/-- The line of placed characters starts no later than a character placed after them. -/
theorem lineStart_le {ps : List (Nat × Char)} {q : Nat × Char} (hq : ∀ p ∈ ps, p.1 < q.1) :
    lineStart ps ≤ q.1 := by
  unfold lineStart
  cases hlast : (newlines ps).getLast? with
  | none => simp
  | some r =>
    have hr : r ∈ ps := (List.mem_filter.mp (List.mem_of_getLast? hlast)).1
    have := hq r hr
    simp only [Option.map_some, Option.getD_some]
    omega

/-- Over characters at increasing offsets, the fold reaches line one more than the number of
newlines, and column one more than the number of characters from the last line's start. -/
theorem foldl_advanceChar_eq (ps : List (Nat × Char)) (hs : ps.Pairwise fun p q => p.1 < q.1) :
    (ps.map Prod.snd).foldl advanceChar (1, 1) =
      (1 + (newlines ps).length, 1 + (ps.filter fun p => lineStart ps ≤ p.1).length) := by
  induction ps using List.reverseRecOn with
  | nil => rfl
  | append_singleton ps q ih =>
    have hlt : ∀ p ∈ ps, p.1 < q.1 := fun p hp => (List.pairwise_append.mp hs).2.2 p hp q (by simp)
    rw [List.map_append, List.foldl_append, ih (List.pairwise_append.mp hs).1]
    obtain ⟨s, c⟩ := q
    by_cases hc : c = '\n'
    · subst hc
      have hstart : lineStart (ps ++ [(s, '\n')]) = s + 1 := by
        simp [lineStart, newlines_append_newline]
      have hnone : ((ps ++ [(s, '\n')]).filter fun p => s + 1 ≤ p.1) = [] :=
        List.filter_eq_nil_iff.mpr fun p hp => by
          rcases List.mem_append.mp hp with hp | hp
          · have := hlt p hp
            simp only [decide_eq_true_eq]
            omega
          · simp at hp
            simp [hp]
      rw [hstart, hnone, newlines_append_newline]
      simp only [List.map_cons, List.map_nil, List.foldl_cons, List.foldl_nil, advanceChar,
        ↓reduceIte, List.length_append, List.length_cons, List.length_nil, Prod.mk.injEq,
        and_true]
      omega
    · have hstart : lineStart (ps ++ [(s, c)]) = lineStart ps := by
        simp [lineStart, newlines_append_other ps hc]
      have hkeep : lineStart ps ≤ s := lineStart_le hlt
      simp [advanceChar, hc, newlines_append_other ps hc, hstart, List.filter_append, hkeep]
      omega

/-- **Places in characters.**  The place of a byte offset in a text is that of the offset
clamped to the text's length, `o'`.  Its line is one more than the number of newlines that
start before `o'`, and its column one more than the number of characters that start from the
byte after the last of those newlines (from 0 when there is none) up to `o'`.  Equivalently,
line and column are what folding `advanceChar` over the characters that start before `o'`
reaches. -/
theorem ofText_eq_charCounts (text : String) (o : Nat) :
    ofText text o =
        { offset := min o text.utf8ByteSize
          line := 1 + (newlines (startsBefore text (min o text.utf8ByteSize))).length
          column := 1 + ((charStarts text.toList 0).filter fun p =>
            lineStart (startsBefore text (min o text.utf8ByteSize)) ≤ p.1 ∧
              p.1 < min o text.utf8ByteSize).length } ∧
      ofText text o =
        { offset := min o text.utf8ByteSize
          line := (((startsBefore text (min o text.utf8ByteSize)).map Prod.snd).foldl
            advanceChar (1, 1)).1
          column := (((startsBefore text (min o text.utf8ByteSize)).map Prod.snd).foldl
            advanceChar (1, 1)).2 } := by
  have hfold : (text.toUTF8.toList.take (min o text.utf8ByteSize)).foldl advance (1, 1) =
      ((startsBefore text (min o text.utf8ByteSize)).map Prod.snd).foldl advanceChar (1, 1) := by
    rw [bytes_eq, foldl_take_flatMap text.toList 0, Nat.zero_add]
    rfl
  have hsorted : (startsBefore text (min o text.utf8ByteSize)).Pairwise fun p q => p.1 < q.1 :=
    (charStarts_sorted text.toList 0).filter _
  have hcols : ((startsBefore text (min o text.utf8ByteSize)).filter fun p =>
        lineStart (startsBefore text (min o text.utf8ByteSize)) ≤ p.1) =
      (charStarts text.toList 0).filter fun p =>
        lineStart (startsBefore text (min o text.utf8ByteSize)) ≤ p.1 ∧
          p.1 < min o text.utf8ByteSize := by
    simp only [startsBefore, List.filter_filter]
    exact List.filter_congr fun p _ => (Bool.decide_and _ _).symm
  have hplace : ofText text o =
      { offset := min o text.utf8ByteSize
        line := (((startsBefore text (min o text.utf8ByteSize)).map Prod.snd).foldl
          advanceChar (1, 1)).1
        column := (((startsBefore text (min o text.utf8ByteSize)).map Prod.snd).foldl
          advanceChar (1, 1)).2 } := by
    simp only [ofText, ofBytes, length_toList_toUTF8, hfold]
  refine ⟨?_, hplace⟩
  rw [hplace, foldl_advanceChar_eq _ hsorted, hcols]

/-- The two bytes of `é` make one column. -/
example : ofText "(#eq? @a \"é\" x)" 14 = ⟨14, 1, 14⟩ := by decide +kernel

end Position
end ShapeSearch
