import ShapeSearch.Pattern.Lexer
import ShapeSearch.Pattern.Print
import Mathlib.Data.List.TakeWhile

/-!
# What the lexer reads

Two facts about `tokenize`, one for each direction of reading printed text back.

* Every lexeme it produces is *lexable* (`tokenize_lexable`): a name after a sigil or in a
  word is a non-empty run of the characters its kind of token allows, and a node kind is
  never `_` alone, which is the wildcard.
* Lexable tokens, written out, lex back.  `Lexes w toks` says that the text `w`, followed by
  any text that cannot continue a name (`Delimited`), lexes to `toks` and goes on after `w`.
  Each kind of token written out lexes so (`lexes_sigil`, `lexes_kind`, `lexes_quote`, ...),
  and two texts put together lex to their tokens put together (`Lexes.append`) when the
  second starts with a blank or `)`.

A string is the one token whose text is not its value: `quote` escapes quotes, backslashes
and three control characters, and the lexer undoes exactly that (`readText_escaped`).
-/

namespace ShapeSearch
namespace Pattern

/-- A name written with characters of one class: not empty, and every character in it. -/
def Spelled (p : Char → Bool) (name : String) : Prop :=
  name.toList ≠ [] ∧ ∀ c ∈ name.toList, p c = true

/-- What the lexer can produce of each kind of token: names made of the characters their
kind allows, and kinds other than `_`. -/
def Token.Lexable : Token → Prop
  | .kind name => Spelled isNameChar name ∧ name ≠ "_"
  | .field name => Spelled isNameChar name
  | .absentField name => Spelled isNameChar name
  | .capture name => Spelled isCaptureChar name
  | .predicate name => Spelled isPredicateChar name
  | .openParen | .closeParen | .wildcard | .text _ => True

/-- Every lexeme of a list is lexable. -/
def AllLexable (ls : List Lexeme) : Prop :=
  ∀ l ∈ ls, l.token.Lexable

theorem spelled_ofList {p : Char → Bool} {w : List Char} (hne : w ≠ [])
    (hall : ∀ c ∈ w, p c = true) : Spelled p (String.ofList w) := by
  rw [Spelled, String.toList_ofList]
  exact ⟨hne, hall⟩

/-! ### Character classes -/

theorem eq_of_isBlank {c : Char} (h : isBlank c = true) :
    c = ' ' ∨ c = '\t' ∨ c = '\n' ∨ c = '\r' ∨ c = Char.ofNat 12 := by
  simp only [isBlank, Bool.or_eq_true, beq_iff_eq] at h
  rcases h with (((h | h) | h) | h) | h
  · exact .inl h
  · exact .inr (.inl h)
  · exact .inr (.inr (.inl h))
  · exact .inr (.inr (.inr (.inl h)))
  · exact .inr (.inr (.inr (.inr (by rw [← h, Char.ofNat_toNat]))))

/-- Text that cannot continue a name: empty, or starting with a blank or `)`. -/
def Delimited : List Char → Prop
  | [] => True
  | c :: _ => isBlank c = true ∨ c = ')'

theorem Delimited.append {w rest : List Char} (hw : Delimited w) (hrest : Delimited rest) :
    Delimited (w ++ rest) := by
  cases w with
  | nil => exact hrest
  | cons c w => exact hw

/-- A blank or `)` is in none of the classes names are made of. -/
theorem not_nameChar_of_delimiter {c : Char} (h : isBlank c = true ∨ c = ')') :
    isNameChar c = false ∧ isCaptureChar c = false ∧ isPredicateChar c = false := by
  rcases h with h | rfl
  · rcases eq_of_isBlank h with rfl | rfl | rfl | rfl | rfl <;> decide
  · decide

/-- A name character is none of the characters the lexer reads on their own. -/
theorem isNameChar_ne {c : Char} (h : isNameChar c = true) :
    isBlank c = false ∧ c ≠ ';' ∧ c ≠ '(' ∧ c ≠ ')' ∧ c ≠ '"' ∧ c ≠ '@' ∧ c ≠ '!' ∧
      c ≠ '#' := by
  refine ⟨?blank, ?_, ?_, ?_, ?_, ?_, ?_, ?_⟩
  case blank =>
    cases hb : isBlank c
    · rfl
    · simp [(not_nameChar_of_delimiter (.inl hb)).1] at h
  all_goals
    rintro rfl
    revert h
    decide

/-- A run of characters of a class, followed by text that does not start with one, is what
`takeWhile` takes, and the text is what it leaves. -/
theorem takeWhile_append_of_stop {p : Char → Bool} {w after : List Char}
    (hw : ∀ c ∈ w, p c = true) (hstop : ∀ c r, after = c :: r → p c = false) :
    (w ++ after).takeWhile p = w ∧ (w ++ after).dropWhile p = after := by
  rw [List.takeWhile_append_of_pos hw, List.dropWhile_append_of_pos hw]
  cases after with
  | nil => simp
  | cons c more => simp [hstop c more rfl]

theorem Delimited.stop {p : Char → Bool} (hp : ∀ c, isBlank c = true ∨ c = ')' → p c = false)
    {rest : List Char} (hd : Delimited rest) : ∀ c r, rest = c :: r → p c = false := by
  rintro c r rfl
  exact hp c hd

/-! ### One step of the lexer for each kind of token -/

/-- The three sigils: `@` before a capture, `!` before an absent field and `#` before a
predicate, each with the characters its name may hold. -/
inductive Sigil : Token → Char → (Char → Bool) → String → Prop
  | capture (name : String) : Sigil (.capture name) '@' isCaptureChar name
  | absentField (name : String) : Sigil (.absentField name) '!' isNameChar name
  | predicate (name : String) : Sigil (.predicate name) '#' isPredicateChar name

namespace Sigil

variable {t : Token} {sig : Char} {allowed : Char → Bool} {name : String}

theorem lexable_iff (h : Sigil t sig allowed name) : t.Lexable ↔ Spelled allowed name := by
  cases h <;> rfl

theorem stop (h : Sigil t sig allowed name) {c : Char} (hc : isBlank c = true ∨ c = ')') :
    allowed c = false := by
  have := not_nameChar_of_delimiter hc
  cases h
  · exact this.2.1
  · exact this.1
  · exact this.2.2

end Sigil

section Steps

variable (rest : List Char) (o : Nat) (acc : Array Lexeme)

theorem lexFrom_blank {c : Char} (hc : isBlank c = true) :
    lexFrom (c :: rest) o acc = lexFrom rest (o + 1) acc := by
  rw [lexFrom.eq_def]
  simp [hc]

theorem lexFrom_openParen :
    lexFrom ('(' :: rest) o acc = lexFrom rest (o + 1) (acc.push ⟨.openParen, o⟩) := by
  rw [lexFrom.eq_def]
  simp [isBlank]

theorem lexFrom_closeParen :
    lexFrom (')' :: rest) o acc = lexFrom rest (o + 1) (acc.push ⟨.closeParen, o⟩) := by
  rw [lexFrom.eq_def]
  simp [isBlank]

/-- A `"` starts a string, read up to its closing quote. -/
theorem lexFrom_quote {s : String} {after : List Char} {o' : Nat}
    (h : (readText o rest (o + 1) []).map (fun x => (x.1, x.2.1.1, x.2.2)) = .ok (s, after, o')) :
    lexFrom ('"' :: rest) o acc = lexFrom after o' (acc.push ⟨.text s, o⟩) := by
  rw [lexFrom.eq_def]
  simp only [isBlank]
  revert h
  cases readText o rest (o + 1) [] with
  | error e => simp [Except.map]
  | ok x =>
    obtain ⟨s', r, o''⟩ := x
    simp only [Except.map, Except.ok.injEq, Prod.mk.injEq, and_imp]
    rintro rfl rfl rfl
    simp

/-- A sigil and a name of its characters, followed by text that does not continue the
name. -/
theorem lexFrom_sigil_of_stop {t : Token} {sig : Char} {allowed : Char → Bool} {name : String}
    (hs : Sigil t sig allowed name) (hname : Spelled allowed name)
    (hstop : ∀ c r, rest = c :: r → allowed c = false) :
    lexFrom (sig :: (name.toList ++ rest)) o acc =
      lexFrom rest (o + 1 + name.toList.length) (acc.push ⟨t, o⟩) := by
  obtain ⟨htake, hdrop⟩ := takeWhile_append_of_stop hname.2 hstop
  have hne : name.toList.isEmpty = false := List.isEmpty_eq_false_iff.mpr hname.1
  cases hs <;>
  · rw [lexFrom.eq_def]
    simp [isBlank, htake, hdrop, hne]

/-- A sigil and a name of its characters, followed by text that cannot continue the name. -/
theorem lexFrom_sigil {t : Token} {sig : Char} {allowed : Char → Bool} {name : String}
    (hs : Sigil t sig allowed name) (hname : Spelled allowed name) (hd : Delimited rest) :
    lexFrom (sig :: (name.toList ++ rest)) o acc =
      lexFrom rest (o + 1 + name.toList.length) (acc.push ⟨t, o⟩) :=
  lexFrom_sigil_of_stop rest o acc hs hname (hd.stop fun _ hc => hs.stop hc)

/-- A word of name characters followed by text that neither continues it nor starts with
`:`. -/
theorem lexFrom_word_of_stop {w : List Char} (hw : w ≠ []) (hchars : ∀ c ∈ w, isNameChar c = true)
    (hstop : ∀ c r, rest = c :: r → isNameChar c = false) (hcolon : ∀ r, rest ≠ ':' :: r) :
    lexFrom (w ++ rest) o acc =
      lexFrom rest (o + w.length) (acc.push ⟨wordToken (String.ofList w) false, o⟩) := by
  obtain ⟨c, word, rfl⟩ := List.exists_cons_of_ne_nil hw
  have hc := isNameChar_ne (hchars c (by simp))
  have hword : ∀ x ∈ word, isNameChar x = true := fun x hx => hchars x (List.mem_cons_of_mem c hx)
  obtain ⟨htake, hdrop⟩ := takeWhile_append_of_stop hword hstop
  rw [lexFrom.eq_def]
  simp [hc, hchars c, htake]
  split
  · rename_i more hm
    rw [hdrop] at hm
    exact absurd hm (hcolon more)
  · rw [hdrop, show o + 1 + word.length = o + (word.length + 1) by omega]

/-- A word of name characters that is not followed by `:`. -/
theorem lexFrom_word {w : List Char} (hw : w ≠ []) (hchars : ∀ c ∈ w, isNameChar c = true)
    (hd : Delimited rest) :
    lexFrom (w ++ rest) o acc =
      lexFrom rest (o + w.length) (acc.push ⟨wordToken (String.ofList w) false, o⟩) := by
  refine lexFrom_word_of_stop rest o acc hw hchars
    (hd.stop fun _ hc => (not_nameChar_of_delimiter hc).1) ?_
  rintro more rfl
  simp [Delimited, isBlank] at hd

/-- A word of name characters followed by `:` is a field name. -/
theorem lexFrom_fieldWord {w : List Char} (hw : w ≠ []) (hchars : ∀ c ∈ w, isNameChar c = true) :
    lexFrom (w ++ ':' :: rest) o acc =
      lexFrom rest (o + w.length + 1) (acc.push ⟨.field (String.ofList w), o⟩) := by
  obtain ⟨c, word, rfl⟩ := List.exists_cons_of_ne_nil hw
  have hc := isNameChar_ne (hchars c (by simp))
  have hword : ∀ x ∈ word, isNameChar x = true := fun x hx => hchars x (List.mem_cons_of_mem c hx)
  have hcolon : ∀ x r, ':' :: rest = x :: r → isNameChar x = false := by
    rintro x r ⟨rfl, -⟩
    decide
  obtain ⟨htake, hdrop⟩ := takeWhile_append_of_stop hword hcolon
  rw [lexFrom.eq_def]
  simp [hc, hchars c, htake]
  split
  · rename_i more hm
    rw [hdrop] at hm
    obtain ⟨-, rfl⟩ := List.cons.inj hm
    simp only [wordToken, if_true]
    congr 1
    omega
  · rename_i hm
    exact absurd hdrop (hm rest)

end Steps

/-! ### The lexer produces lexable tokens -/

theorem AllLexable.push {acc : Array Lexeme} (h : AllLexable acc.toList) {t : Token}
    (ht : t.Lexable) (o : Nat) : AllLexable (acc.push ⟨t, o⟩).toList := by
  intro l hl
  simp only [Array.toList_push, List.mem_append, List.mem_singleton] at hl
  rcases hl with hl | rfl
  · exact h l hl
  · exact ht

theorem wordToken_lexable {word : String} (h : Spelled isNameChar word) (colon : Bool) :
    (wordToken word colon).Lexable := by
  unfold wordToken
  split
  · exact h
  · split
    · trivial
    · next hne => exact ⟨h, by simpa using hne⟩

/-- A word starts at a name character and runs over the name characters after it. -/
theorem spelled_word {c : Char} (hc : isNameChar c = true) (rest : List Char) :
    Spelled isNameChar (String.ofList (c :: rest.takeWhile isNameChar)) :=
  spelled_ofList (List.cons_ne_nil _ _)
    (List.forall_mem_cons.mpr ⟨hc, fun _ hx => List.mem_takeWhile_imp hx⟩)

/-- Lexing keeps every lexeme lexable: each round adds at most one, and the one it adds is
cut from the text by the class of characters its kind allows. -/
theorem lexFrom_lexable {cs : List Char} {o : Nat} {acc out : Array Lexeme}
    (hacc : AllLexable acc.toList) (h : lexFrom cs o acc = .ok out) : AllLexable out.toList := by
  fun_induction lexFrom cs o acc with
  | case1 =>
    simp only [Except.ok.injEq] at h
    exact h ▸ hacc
  | case2 _ _ _ _ _ ih => exact ih hacc h
  | case3 _ _ _ _ _ _ _ _ ih => exact ih hacc h
  | case4 _ _ _ _ _ _ _ ih => exact ih (hacc.push (by trivial) _) h
  | case5 _ _ _ _ _ _ _ _ ih => exact ih (hacc.push (by trivial) _) h
  | case6 => nomatch h
  | case7 _ _ _ _ _ _ _ _ _ _ _ _ _ _ ih => exact ih (hacc.push (by trivial) _) h
  | case8 => nomatch h
  | case9 o acc c rest _ _ _ _ _ _ kind allowed hclass name hname token _ ih =>
    have hspelled : Spelled allowed (String.ofList name) :=
      spelled_ofList (by simpa using hname) fun _ hx => List.mem_takeWhile_imp hx
    refine ih (hacc.push ?_ _) h
    simp only [token]
    split at hclass
    · next hat =>
      obtain ⟨-, rfl⟩ := Prod.mk.inj hclass
      rw [dif_pos hat]
      exact hspelled
    · next hat =>
      split at hclass
      · next hbang =>
        obtain ⟨-, rfl⟩ := Prod.mk.inj hclass
        rw [dif_neg hat, dif_pos hbang]
        exact hspelled
      · next hbang =>
        obtain ⟨-, rfl⟩ := Prod.mk.inj hclass
        rw [dif_neg hat, dif_neg hbang]
        exact hspelled
  | case10 o acc c rest _ _ _ _ _ _ hc _ _ _ _ _ _ ih =>
    exact ih (hacc.push (wordToken_lexable (spelled_word hc rest) true) _) h
  | case11 o acc c rest _ _ _ _ _ _ hc _ _ _ _ _ ih =>
    exact ih (hacc.push (wordToken_lexable (spelled_word hc rest) false) _) h
  | case12 => nomatch h

theorem tokenize_lexable {text : String} {ls : Array Lexeme} (h : tokenize text = .ok ls) :
    AllLexable ls.toList :=
  lexFrom_lexable (by simp [AllLexable]) h

/-! ### Quoted text reads back -/

/-- A character is escaped as itself, when it is neither a quote nor a backslash, or as a
backslash and an escape letter that stands for it. -/
theorem escape_cases (c : Char) :
    ((escape c).toList = [c] ∧ c ≠ '"' ∧ c ≠ '\\') ∨
      ∃ e, (escape c).toList = ['\\', e] ∧ escapeChar e = some c := by
  unfold escape
  split
  · exact .inr ⟨'"', rfl, rfl⟩
  · exact .inr ⟨'\\', rfl, rfl⟩
  · exact .inr ⟨'n', rfl, rfl⟩
  · exact .inr ⟨'t', rfl, rfl⟩
  · exact .inr ⟨'r', rfl, rfl⟩
  · next hq hb _ _ _ =>
    exact .inl ⟨by simp, hq, hb⟩

section ReadText

variable {start o : Nat} {acc cs more : List Char}

/-- A quote ends a string: what was read, in order, and the text after the quote.  The text
read is part of the type of what `readText` gives, so each step is stated for text equal to
the step's shape, and the result is compared without the proof about what is left. -/
theorem readText_quote (h : cs = '"' :: more) :
    (readText start cs o acc).map (fun x => (x.1, x.2.1.1, x.2.2)) =
      .ok (String.ofList acc.reverse, more, o + 1) := by
  subst h
  rw [readText.eq_def]
  simp [Except.map]

/-- A character that is neither a quote nor a backslash is read as itself. -/
theorem readText_plain {c : Char} (hq : c ≠ '"') (hb : c ≠ '\\') (h : cs = c :: more) :
    (readText start cs o acc).map (fun x => (x.1, x.2.1.1, x.2.2)) =
      (readText start more (o + c.utf8Size) (c :: acc)).map (fun x => (x.1, x.2.1.1, x.2.2)) := by
  subst h
  rw [readText.eq_def]
  simp only [beq_iff_eq, hq, hb, if_false]
  cases readText start more (o + c.utf8Size) (c :: acc) <;> simp [Except.map]

/-- A backslash and an escape letter are read as the character the letter stands for. -/
theorem readText_escape {e x : Char} (he : escapeChar e = some x) (h : cs = '\\' :: e :: more) :
    (readText start cs o acc).map (fun x => (x.1, x.2.1.1, x.2.2)) =
      (readText start more (o + 2) (x :: acc)).map (fun x => (x.1, x.2.1.1, x.2.2)) := by
  subst h
  rw [readText.eq_def]
  simp only [he]
  cases readText start more (o + 2) (x :: acc) <;> simp [Except.map]

end ReadText

/-- Reading escaped characters up to a closing quote gives them back after those read
before, and leaves the text after the quote. -/
theorem readText_escaped (start : Nat) (s rest : List Char) (o : Nat) (acc : List Char) :
    ∃ o', (readText start ((s.flatMap fun c => (escape c).toList) ++ '"' :: rest) o acc).map
      (fun x => (x.1, x.2.1.1, x.2.2)) = .ok (String.ofList (acc.reverse ++ s), rest, o') := by
  induction s generalizing o acc with
  | nil =>
    have hcs : (([] : List Char).flatMap fun c => (escape c).toList) ++ '"' :: rest =
        '"' :: rest := by
      simp
    refine ⟨o + 1, ?_⟩
    rw [readText_quote hcs]
    simp
  | cons c s ih =>
    rcases escape_cases c with ⟨hc, hq, hb⟩ | ⟨e, hc, he⟩
    · obtain ⟨o', h⟩ := ih (o + c.utf8Size) (c :: acc)
      have hcs : ((c :: s).flatMap fun c => (escape c).toList) ++ '"' :: rest =
          c :: ((s.flatMap fun c => (escape c).toList) ++ '"' :: rest) := by
        simp [hc]
      refine ⟨o', ?_⟩
      rw [readText_plain hq hb hcs, h]
      simp
    · obtain ⟨o', h⟩ := ih (o + 2) (c :: acc)
      have hcs : ((c :: s).flatMap fun c => (escape c).toList) ++ '"' :: rest =
          '\\' :: e :: ((s.flatMap fun c => (escape c).toList) ++ '"' :: rest) := by
        simp [hc]
      refine ⟨o', ?_⟩
      rw [readText_escape he hcs, h]
      simp

theorem quote_toList (s : String) :
    (quote s).toList = '"' :: ((s.toList.flatMap fun c => (escape c).toList) ++ ['"']) := by
  simp [quote, String.toList_join, List.flatMap_map]

/-! ### Written tokens lex back -/

/-- `Lexes w toks`: the text `w`, followed by any delimited text, lexes to the tokens `toks`
and goes on with that text. -/
def Lexes (w : List Char) (toks : List Token) : Prop :=
  ∀ rest, Delimited rest → ∀ o acc, ∃ (o' : Nat) (ls : List Lexeme),
    ls.map Lexeme.token = toks ∧ lexFrom (w ++ rest) o acc = lexFrom rest o' (acc ++ ls.toArray)

namespace Lexes

theorem nil : Lexes [] [] :=
  fun _ _ o _ => ⟨o, [], rfl, by simp⟩

/-- A text that lexes to one token and moves past itself. -/
theorem single {w : List Char} {t : Token}
    (h : ∀ rest, Delimited rest → ∀ o (acc : Array Lexeme), ∃ o',
      lexFrom (w ++ rest) o acc = lexFrom rest o' (acc.push ⟨t, o⟩)) :
    Lexes w [t] := by
  intro rest hrest o acc
  obtain ⟨o', h⟩ := h rest hrest o acc
  exact ⟨o', [⟨t, o⟩], rfl, h⟩

/-- Two texts lex one after the other when the second cannot continue a name of the first. -/
theorem append {w₁ w₂ : List Char} {t₁ t₂ : List Token} (h₁ : Lexes w₁ t₁) (h₂ : Lexes w₂ t₂)
    (hd : Delimited w₂) : Lexes (w₁ ++ w₂) (t₁ ++ t₂) := by
  intro rest hrest o acc
  obtain ⟨o₁, ls₁, hls₁, h₁⟩ := h₁ (w₂ ++ rest) (hd.append hrest) o acc
  obtain ⟨o₂, ls₂, hls₂, h₂⟩ := h₂ rest hrest o₁ (acc ++ ls₁.toArray)
  refine ⟨o₂, ls₁ ++ ls₂, by simp [hls₁, hls₂], ?_⟩
  rw [List.append_assoc, h₁, h₂]
  simp

theorem blank (c : Char) {w : List Char} {t : List Token} (hc : isBlank c = true)
    (h : Lexes w t) : Lexes (c :: w) t := by
  intro rest hrest o acc
  rw [List.cons_append, lexFrom_blank _ _ _ hc]
  exact h rest hrest (o + 1) acc

/-- A `(` lexes on its own, whatever follows it. -/
theorem openParen {w : List Char} {t : List Token} (h : Lexes w t) :
    Lexes ('(' :: w) (.openParen :: t) := by
  intro rest hrest o acc
  obtain ⟨o', ls, hls, h⟩ := h rest hrest (o + 1) (acc.push ⟨.openParen, o⟩)
  refine ⟨o', ⟨.openParen, o⟩ :: ls, by simp [hls], ?_⟩
  rw [List.cons_append, lexFrom_openParen, h]
  simp

end Lexes

theorem lexes_closeParen : Lexes [')'] [.closeParen] :=
  Lexes.single fun rest _ o acc => ⟨o + 1, lexFrom_closeParen rest o acc⟩

theorem lexes_sigil {t : Token} {sig : Char} {allowed : Char → Bool} {name : String}
    (hs : Sigil t sig allowed name) (ht : t.Lexable) : Lexes (sig :: name.toList) [t] :=
  Lexes.single fun rest hrest o acc =>
    ⟨_, lexFrom_sigil rest o acc hs (hs.lexable_iff.mp ht) hrest⟩

theorem lexes_kind {name : String} (h : (Token.kind name).Lexable) :
    Lexes name.toList [.kind name] := by
  refine Lexes.single fun rest hrest o acc => ⟨o + name.toList.length, ?_⟩
  rw [lexFrom_word rest o acc h.1.1 h.1.2 hrest, String.ofList_toList]
  simp [wordToken, h.2]

theorem lexes_wildcard : Lexes ['_'] [.wildcard] := by
  refine Lexes.single fun rest hrest o acc => ⟨o + 1, ?_⟩
  rw [lexFrom_word rest o acc (List.cons_ne_nil _ _) (by simp [isNameChar]) hrest]
  rfl

theorem lexes_field {name : String} (h : (Token.field name).Lexable) :
    Lexes (name.toList ++ [':']) [.field name] := by
  refine Lexes.single fun rest _ o acc => ⟨o + name.toList.length + 1, ?_⟩
  rw [List.append_assoc, List.singleton_append, lexFrom_fieldWord rest o acc h.1 h.2,
    String.ofList_toList]

theorem lexes_quote (s : String) : Lexes (quote s).toList [.text s] := by
  refine Lexes.single fun rest _ o acc => ?_
  obtain ⟨o', h⟩ := readText_escaped o s.toList rest (o + 1) []
  rw [List.reverse_nil, List.nil_append, String.ofList_toList] at h
  refine ⟨o', ?_⟩
  rw [quote_toList, List.cons_append, List.append_assoc, List.singleton_append]
  exact lexFrom_quote _ o acc h

end Pattern
end ShapeSearch
