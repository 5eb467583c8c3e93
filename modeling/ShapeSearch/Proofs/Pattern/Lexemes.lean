import ShapeSearch.Proofs.Pattern.Lexing

/-!
# Which texts the lexer reads, and how

`Splits cs o ls` says, without the lexer, how pattern text reads: `cs` is blanks, `;`
comments and lexemes one after another, and `ls` lists the lexemes' tokens in order, each
with the byte offset where its lexeme starts (`o` being the offset of `cs` itself).  A
comment runs from `;` up to a newline or the end of the text.  A lexeme (`Spells`) is `(`
or `)`; a word of name characters, which is the wildcard when it is `_` and a node kind
otherwise; such a word and a `:`, which is a field; `@`, `!` or `#` and a non-empty name of
the characters that sigil allows; or a quoted string (`Quoted`), whose token holds the
characters its escapes stand for.  Every lexeme is maximal: the character after it, if any,
does not continue it (`Token.Continues`).

Main statement: `tokenize_eq_ok_iff`.  The lexer succeeds with `ls` exactly when the text
splits so, with lexemes `ls`.  So it skips nothing but blanks and comments, never cuts a name
short, and puts each token at the byte where its lexeme starts; and since it is a function,
a text splits in at most one way.
-/

namespace ShapeSearch
namespace Pattern

/-! ### The lexemes of pattern text -/

/-- The letters a backslash may escape in a string, each with the character it stands for. -/
def stringEscapes : List (Char × Char) :=
  [('n', '\n'), ('t', '\t'), ('r', '\r'), ('"', '"'), ('\\', '\\')]

/-- `Quoted body s`: the text `body` between the quotes of a string stands for the characters
`s`.  A backslash and an escape letter stand for the character the letter names; any other
character but a quote or a backslash stands for itself. -/
inductive Quoted : List Char → List Char → Prop
  | nil : Quoted [] []
  | plain {c : Char} {body s : List Char} (hq : c ≠ '"') (hb : c ≠ '\\') :
      Quoted body s → Quoted (c :: body) (c :: s)
  | escape {e x : Char} {body s : List Char} (he : (e, x) ∈ stringEscapes) :
      Quoted body s → Quoted ('\\' :: e :: body) (x :: s)

/-- `Spells w t`: the text `w` is one lexeme, standing for the token `t`. -/
inductive Spells : List Char → Token → Prop
  | openParen : Spells ['('] .openParen
  | closeParen : Spells [')'] .closeParen
  | wildcard : Spells ['_'] .wildcard
  | kind {w : List Char} (hw : w ≠ []) (hchars : ∀ c ∈ w, isNameChar c = true)
      (hne : w ≠ ['_']) : Spells w (.kind (String.ofList w))
  | field {w : List Char} (hw : w ≠ []) (hchars : ∀ c ∈ w, isNameChar c = true) :
      Spells (w ++ [':']) (.field (String.ofList w))
  | sigil {t : Token} {sig : Char} {allowed : Char → Bool} {name : String}
      (hs : Sigil t sig allowed name) (hname : Spelled allowed name) :
      Spells (sig :: name.toList) t
  | text {body s : List Char} (hq : Quoted body s) :
      Spells ('"' :: (body ++ ['"'])) (.text (String.ofList s))

/-- Whether a character right after the lexeme of a token would belong to it: a name goes on
as long as characters of its class follow. -/
def Token.Continues : Token → Char → Bool
  | .wildcard, c | .kind _, c | .absentField _, c => isNameChar c
  | .capture _, c => isCaptureChar c
  | .predicate _, c => isPredicateChar c
  | _, _ => false

/-- `Splits cs o ls`: the text `cs`, starting at byte `o`, is blanks, comments and maximal
lexemes, the lexemes standing for `ls` in order, each with the byte offset it starts at. -/
inductive Splits : List Char → Nat → List Lexeme → Prop
  | nil (o : Nat) : Splits [] o []
  | blank {c : Char} {rest : List Char} {o : Nat} {ls : List Lexeme} (hc : isBlank c = true) :
      Splits rest (o + 1) ls → Splits (c :: rest) o ls
  | comment {body rest : List Char} {o : Nat} {ls : List Lexeme} (hbody : '\n' ∉ body)
      (hend : ∀ c ∈ rest.head?, c = '\n') :
      Splits rest (o + 1 + byteLength body) ls → Splits (';' :: (body ++ rest)) o ls
  | lexeme {w rest : List Char} {t : Token} {o : Nat} {ls : List Lexeme} (hw : Spells w t)
      (hmax : ∀ c ∈ rest.head?, t.Continues c = false) :
      Splits rest (o + byteLength w) ls → Splits (w ++ rest) o (⟨t, o⟩ :: ls)

/-! ### Bytes -/

@[simp] theorem byteLength_nil : byteLength [] = 0 := rfl

@[simp] theorem byteLength_cons (c : Char) (cs : List Char) :
    byteLength (c :: cs) = c.utf8Size + byteLength cs := rfl

@[simp] theorem byteLength_append (a b : List Char) :
    byteLength (a ++ b) = byteLength a + byteLength b := by
  induction a with
  | nil => simp
  | cons c a ih => simp [ih, Nat.add_assoc]

/-- Text of one-byte characters takes a byte per character. -/
theorem byteLength_eq_length {w : List Char} (h : ∀ c ∈ w, c.utf8Size = 1) :
    byteLength w = w.length := by
  induction w with
  | nil => rfl
  | cons c w ih =>
    rw [byteLength_cons, h c (by simp), ih fun x hx => h x (List.mem_cons_of_mem c hx)]
    simp only [List.length_cons]
    omega

theorem utf8Size_of_isNameChar {c : Char} (h : isNameChar c = true) : c.utf8Size = 1 := by
  rw [Char.utf8Size_eq_one_iff]
  delta isNameChar Char.isAlphanum Char.isAlpha Char.isUpper Char.isLower Char.isDigit at h
  simp only [Bool.or_eq_true, decide_eq_true_eq, Bool.and_eq_true, beq_iff_eq] at h
  rcases h with ((⟨-, h⟩ | ⟨-, h⟩) | ⟨-, h⟩) | rfl
  all_goals first | decide | (rw [UInt32.le_iff_toNat_le] at *; simp at *; omega)

theorem utf8Size_of_isCaptureChar {c : Char} (h : isCaptureChar c = true) : c.utf8Size = 1 := by
  simp only [isCaptureChar, Bool.or_eq_true, beq_iff_eq] at h
  rcases h with (h | rfl) | rfl
  · exact utf8Size_of_isNameChar h
  · rfl
  · rfl

theorem utf8Size_of_isPredicateChar {c : Char} (h : isPredicateChar c = true) :
    c.utf8Size = 1 := by
  simp only [isPredicateChar, Bool.or_eq_true, beq_iff_eq] at h
  rcases h with (h | rfl) | rfl
  · exact utf8Size_of_isNameChar h
  · rfl
  · rfl

/-! ### Strings -/

theorem escapeChar_eq_some_iff {e x : Char} : escapeChar e = some x ↔ (e, x) ∈ stringEscapes := by
  constructor
  · intro h
    unfold escapeChar at h
    split at h <;> first | (cases h; simp [stringEscapes]) | cases h
  · intro h
    simp only [stringEscapes, List.mem_cons, Prod.mk.injEq, List.not_mem_nil, or_false] at h
    rcases h with ⟨rfl, rfl⟩ | ⟨rfl, rfl⟩ | ⟨rfl, rfl⟩ | ⟨rfl, rfl⟩ | ⟨rfl, rfl⟩ <;> rfl

theorem utf8Size_of_escape {e x : Char} (h : (e, x) ∈ stringEscapes) : e.utf8Size = 1 := by
  simp only [stringEscapes, List.mem_cons, Prod.mk.injEq, List.not_mem_nil, or_false] at h
  rcases h with ⟨rfl, -⟩ | ⟨rfl, -⟩ | ⟨rfl, -⟩ | ⟨rfl, -⟩ | ⟨rfl, -⟩ <;> rfl

/-- Reading a string reads its quoted text up to the closing quote, and moves past the
quote. -/
theorem readText_quoted {body s : List Char} (hq : Quoted body s) (start : Nat)
    (rest : List Char) :
    ∀ o acc, (readText start (body ++ '"' :: rest) o acc).map (fun x => (x.1, x.2.1.1, x.2.2)) =
      .ok (String.ofList (acc.reverse ++ s), rest, o + byteLength body + 1) := by
  induction hq with
  | nil =>
    intro o acc
    rw [readText_quote (List.nil_append _)]
    simp
  | @plain c body s hq hb _ ih =>
    intro o acc
    rw [readText_plain hq hb List.cons_append, ih]
    simp only [List.reverse_cons, List.append_assoc, List.cons_append, List.nil_append,
      byteLength_cons, Except.ok.injEq, Prod.mk.injEq, true_and]
    omega
  | @escape e x body s he _ ih =>
    intro o acc
    have hcs : ('\\' :: e :: body) ++ '"' :: rest = '\\' :: e :: (body ++ '"' :: rest) := rfl
    rw [readText_escape (escapeChar_eq_some_iff.mpr he) hcs, ih]
    simp only [List.reverse_cons, List.append_assoc, List.cons_append, List.nil_append,
      byteLength_cons, utf8Size_of_escape he, Except.ok.injEq, Prod.mk.injEq, true_and]
    have : ('\\' : Char).utf8Size = 1 := rfl
    omega

/-- What reading a string accepted: quoted text and the closing quote. -/
theorem readText_sound {start o o' : Nat} {cs acc : List Char} {s : String}
    {r : { r : List Char // r.length ≤ cs.length }}
    (h : readText start cs o acc = .ok (s, r, o')) :
    ∃ body dec, cs = body ++ '"' :: r.1 ∧ Quoted body dec ∧
      s = String.ofList (acc.reverse ++ dec) ∧ o' = o + byteLength body + 1 := by
  fun_induction readText start cs o acc with
  | case1 => cases h
  | case2 c rest o acc hc =>
    simp only [Except.ok.injEq, Prod.mk.injEq] at h
    obtain ⟨rfl, rfl, rfl⟩ := h
    simp only [beq_iff_eq] at hc
    exact ⟨[], [], by simp [hc], .nil, by simp, by simp⟩
  | case3 c o acc _ hb e more x hx ih =>
    cases hr : readText start more (o + 2) (x :: acc) with
    | error err => simp [hr, Except.map] at h
    | ok v =>
      obtain ⟨s', r', o''⟩ := v
      simp only [hr, Except.map, Except.ok.injEq, Prod.mk.injEq] at h
      obtain ⟨rfl, rfl, rfl⟩ := h
      obtain ⟨body, dec, hcs, hquoted, hs, ho⟩ := ih hr
      simp only [beq_iff_eq] at hb
      have hesc := escapeChar_eq_some_iff.mp hx
      refine ⟨'\\' :: e :: body, x :: dec, by simp [hb, hcs], .escape hesc hquoted,
        by simp [hs], ?_⟩
      have : ('\\' : Char).utf8Size = 1 := rfl
      rw [ho, byteLength_cons, byteLength_cons, utf8Size_of_escape hesc]
      omega
  | case4 => cases h
  | case5 => cases h
  | case6 c rest o acc hq hb ih =>
    cases hr : readText start rest (o + c.utf8Size) (c :: acc) with
    | error err => simp [hr, Except.map] at h
    | ok v =>
      obtain ⟨s', r', o''⟩ := v
      simp only [hr, Except.map, Except.ok.injEq, Prod.mk.injEq] at h
      obtain ⟨rfl, rfl, rfl⟩ := h
      obtain ⟨body, dec, hcs, hquoted, hs, ho⟩ := ih hr
      simp only [beq_iff_eq] at hq hb
      refine ⟨c :: body, c :: dec, by simp [hcs], .plain hq hb hquoted, by simp [hs], ?_⟩
      rw [ho, byteLength_cons]
      omega

/-! ### Sigils -/

namespace Sigil

variable {t : Token} {sig : Char} {allowed : Char → Bool} {name : String}

/-- A name after a sigil goes on exactly as far as the sigil's class of characters. -/
theorem continues (hs : Sigil t sig allowed name) (x : Char) : t.Continues x = allowed x := by
  cases hs <;> rfl

theorem utf8Size_of_allowed (hs : Sigil t sig allowed name) {x : Char} (h : allowed x = true) :
    x.utf8Size = 1 := by
  cases hs
  · exact utf8Size_of_isCaptureChar h
  · exact utf8Size_of_isNameChar h
  · exact utf8Size_of_isPredicateChar h

/-- A sigil and its name take a byte each character. -/
theorem byteLength (hs : Sigil t sig allowed name) (hname : Spelled allowed name) :
    Pattern.byteLength (sig :: name.toList) = 1 + name.toList.length := by
  have hsig : sig.utf8Size = 1 := by cases hs <;> rfl
  rw [byteLength_cons, hsig,
    byteLength_eq_length fun x hx => hs.utf8Size_of_allowed (hname.2 x hx)]

end Sigil

/-- The sigil the lexer sees, with the class of characters it reads after it. -/
theorem sigil_of_class {c : Char} {kind : NameKind} {allowed : Char → Bool}
    (hsig : (c == '@' || c == '!' || c == '#') = true)
    (hclass : (if c == '@' then (NameKind.capture, isCaptureChar)
      else if c == '!' then (NameKind.field, isNameChar)
      else (NameKind.predicate, isPredicateChar)) = (kind, allowed)) (name : String) :
    Sigil (if c == '@' then .capture name else if c == '!' then .absentField name
      else .predicate name) c allowed name := by
  simp only [Bool.or_eq_true, beq_iff_eq] at hsig
  rcases hsig with (rfl | rfl) | rfl
  · obtain ⟨-, rfl⟩ := Prod.mk.inj hclass
    exact .capture name
  · obtain ⟨-, rfl⟩ := Prod.mk.inj hclass
    exact .absentField name
  · obtain ⟨-, rfl⟩ := Prod.mk.inj hclass
    exact .predicate name

/-! ### The lexer, one lexeme at a time -/

section Steps

variable (rest : List Char) (o : Nat) (acc : Array Lexeme)

/-- A comment is skipped up to the newline that ends it. -/
theorem lexFrom_comment {body : List Char} (hbody : '\n' ∉ body)
    (hend : ∀ c ∈ rest.head?, c = '\n') :
    lexFrom (';' :: (body ++ rest)) o acc = lexFrom rest (o + 1 + byteLength body) acc := by
  have hin : ∀ c ∈ body, (c != '\n') = true := by
    intro c hc
    have : c ≠ '\n' := fun h => hbody (h ▸ hc)
    simpa using this
  have hstop : ∀ c r, rest = c :: r → (c != '\n') = false := by
    rintro c r rfl
    simpa using hend c rfl
  obtain ⟨htake, hdrop⟩ := takeWhile_append_of_stop hin hstop
  rw [lexFrom.eq_def]
  simp [isBlank, htake, hdrop]

/-- A lexeme moves the lexer past itself and records its token, provided the text after it
does not continue it and, after a word, does not start with `:`. -/
theorem lexFrom_spells {w : List Char} {t : Token} (hw : Spells w t)
    (hmax : ∀ c ∈ rest.head?, t.Continues c = false) (hcolon : ∀ r, rest ≠ ':' :: r) :
    lexFrom (w ++ rest) o acc = lexFrom rest (o + byteLength w) (acc.push ⟨t, o⟩) := by
  have hstop : ∀ {p : Char → Bool}, (∀ c, t.Continues c = p c) →
      ∀ c r, rest = c :: r → p c = false := by
    rintro p hp c r rfl
    rw [← hp c]
    exact hmax c rfl
  cases hw with
  | openParen => exact lexFrom_openParen rest o acc
  | closeParen => exact lexFrom_closeParen rest o acc
  | wildcard =>
    rw [lexFrom_word_of_stop rest o acc (List.cons_ne_nil _ _) (by simp [isNameChar])
      (hstop fun _ => rfl) hcolon]
    rfl
  | @kind w hne hchars hw =>
    have hword : wordToken (String.ofList w) false = .kind (String.ofList w) := by
      have : String.ofList w ≠ "_" := by
        intro h
        apply hw
        simpa using congrArg String.toList h
      simp [wordToken, this]
    rw [lexFrom_word_of_stop rest o acc hne hchars (hstop fun _ => rfl) hcolon, hword,
      byteLength_eq_length fun c hc => utf8Size_of_isNameChar (hchars c hc)]
  | @field w hne hchars =>
    rw [List.append_assoc, List.singleton_append, lexFrom_fieldWord rest o acc hne hchars,
      byteLength_append, byteLength_eq_length fun c hc => utf8Size_of_isNameChar (hchars c hc)]
    rfl
  | sigil hs hname =>
    rw [List.cons_append, lexFrom_sigil_of_stop rest o acc hs hname (hstop hs.continues),
      hs.byteLength hname, Nat.add_assoc]
  | @text body s hq =>
    have hread := readText_quoted hq o rest (o + 1) []
    rw [List.reverse_nil, List.nil_append] at hread
    have hbytes : byteLength ('"' :: (body ++ ['"'])) = 1 + byteLength body + 1 := by
      simp only [byteLength_cons, byteLength_append, byteLength_nil]
      have : ('"' : Char).utf8Size = 1 := rfl
      omega
    rw [List.cons_append, List.append_assoc, List.singleton_append,
      lexFrom_quote (body ++ '"' :: rest) o acc hread, hbytes]
    congr 1
    omega

end Steps

/-! ### Split texts lex -/

/-- No lexeme starts with `:`. -/
theorem Spells.ne_colon {w : List Char} {t : Token} (hw : Spells w t) (rest r : List Char) :
    w ++ rest ≠ ':' :: r := by
  cases hw with
  | kind hne hchars =>
    obtain ⟨c, w, rfl⟩ := List.exists_cons_of_ne_nil hne
    intro h
    have hc := hchars c (by simp)
    simp only [List.cons_append, List.cons.injEq] at h
    rw [h.1] at hc
    exact absurd hc (by decide)
  | field hne hchars =>
    obtain ⟨c, w, rfl⟩ := List.exists_cons_of_ne_nil hne
    intro h
    have hc := hchars c (by simp)
    simp only [List.cons_append, List.cons.injEq] at h
    rw [h.1] at hc
    exact absurd hc (by decide)
  | sigil hs => cases hs <;> simp
  | _ => simp

/-- Split text never starts with `:`: no blank, comment or lexeme does. -/
theorem Splits.ne_colon {cs : List Char} {o : Nat} {ls : List Lexeme} (h : Splits cs o ls)
    (r : List Char) : cs ≠ ':' :: r := by
  cases h with
  | nil => simp
  | blank hc =>
    intro he
    simp only [List.cons.injEq] at he
    rw [he.1] at hc
    exact absurd hc (by decide)
  | comment => simp
  | lexeme hw => exact hw.ne_colon _ r

/-- Split text lexes to its lexemes. -/
theorem Splits.lexFrom_eq {cs : List Char} {o : Nat} {ls : List Lexeme} (h : Splits cs o ls) :
    ∀ acc, lexFrom cs o acc = .ok (acc ++ ls.toArray) := by
  induction h with
  | nil o =>
    intro acc
    rw [lexFrom.eq_def]
    simp
  | blank hc _ ih =>
    intro acc
    rw [lexFrom_blank _ _ _ hc, ih]
  | comment hbody hend _ ih =>
    intro acc
    rw [lexFrom_comment _ _ _ hbody hend, ih]
  | lexeme hw hmax hrest ih =>
    intro acc
    rw [lexFrom_spells _ _ _ hw hmax hrest.ne_colon, ih]
    simp

/-! ### What the lexer reads splits -/

/-- The character after a run that `dropWhile` stops at does not belong to the run. -/
theorem stop_dropWhile (p : Char → Bool) (l : List Char) :
    ∀ c ∈ (l.dropWhile p).head?, p c = false := by
  intro c hc
  have h := List.head?_dropWhile_not p l
  rw [Option.mem_def] at hc
  rw [hc] at h
  exact h

/-- What the lexer reads splits into the lexemes it adds: a comment runs to the first newline,
a string to its closing quote, a sigil takes the longest run of its characters, and a word is
a field when a `:` follows it and otherwise the wildcard or a node kind. -/
theorem lexFrom_splits {cs : List Char} {o : Nat} {acc out : Array Lexeme}
    (h : lexFrom cs o acc = .ok out) : ∃ ls, out = acc ++ ls.toArray ∧ Splits cs o ls := by
  fun_induction lexFrom cs o acc with
  | case1 o acc =>
    simp only [Except.ok.injEq] at h
    exact ⟨[], by simp [h], .nil o⟩
  | case2 o acc c rest hc ih =>
    obtain ⟨ls, rfl, hs⟩ := ih h
    exact ⟨ls, rfl, .blank hc hs⟩
  | case3 o acc c rest _ hsemi comment _ ih =>
    obtain ⟨ls, rfl, hs⟩ := ih h
    simp only [beq_iff_eq] at hsemi
    subst hsemi
    have hbody : '\n' ∉ comment := by
      intro hmem
      have := List.mem_takeWhile_imp hmem
      simp at this
    have hend : ∀ c ∈ (rest.dropWhile (· != '\n')).head?, c = '\n' := by
      intro c hc
      simpa using stop_dropWhile (· != '\n') rest c hc
    have hsplit := Splits.comment hbody hend hs
    rw [List.takeWhile_append_dropWhile] at hsplit
    exact ⟨ls, rfl, hsplit⟩
  | case4 o acc c rest _ _ hopen ih =>
    obtain ⟨ls, rfl, hs⟩ := ih h
    simp only [beq_iff_eq] at hopen
    subst hopen
    exact ⟨⟨.openParen, o⟩ :: ls, by simp,
      @Splits.lexeme _ rest _ o _ .openParen (by simp [Token.Continues]) hs⟩
  | case5 o acc c rest _ _ _ hclose ih =>
    obtain ⟨ls, rfl, hs⟩ := ih h
    simp only [beq_iff_eq] at hclose
    subst hclose
    exact ⟨⟨.closeParen, o⟩ :: ls, by simp,
      @Splits.lexeme _ rest _ o _ .closeParen (by simp [Token.Continues]) hs⟩
  | case6 => cases h
  | case7 o acc c rest _ _ _ _ hquote s r o' hread _ ih =>
    obtain ⟨ls, rfl, hs⟩ := ih h
    simp only [beq_iff_eq] at hquote
    subst hquote
    obtain ⟨body, dec, hcs, hq, rfl, rfl⟩ := readText_sound hread
    simp only [List.reverse_nil, List.nil_append] at hs ⊢
    refine ⟨⟨.text (String.ofList dec), o⟩ :: ls, by simp, ?_⟩
    have hbytes : byteLength ('"' :: (body ++ ['"'])) = 1 + byteLength body + 1 := by
      simp only [byteLength_cons, byteLength_append, byteLength_nil]
      have : ('"' : Char).utf8Size = 1 := rfl
      omega
    have hsplit := @Splits.lexeme _ r.1 _ o _ (Spells.text hq)
      (by simp [Token.Continues]) (by rw [hbytes, ← Nat.add_assoc, ← Nat.add_assoc]; exact hs)
    rw [hcs]
    simpa using hsplit
  | case8 => cases h
  | case9 o acc c rest _ _ _ _ _ hsig kind allowed hclass name hname token _ ih =>
    obtain ⟨ls, rfl, hs⟩ := ih h
    simp only [dite_eq_ite] at hclass
    have hsigil : Sigil token c allowed (String.ofList name) := by
      simp only [token, dite_eq_ite]
      exact sigil_of_class hsig hclass _
    have hspelled : Spelled allowed (String.ofList name) :=
      spelled_ofList (by simpa using hname) fun _ hx => List.mem_takeWhile_imp hx
    have hsplit := @Splits.lexeme _ (rest.dropWhile allowed) _ o _ (Spells.sigil hsigil hspelled)
      (fun x hx => (hsigil.continues x).trans (stop_dropWhile allowed rest x hx))
      (by rw [hsigil.byteLength hspelled, String.toList_ofList, ← Nat.add_assoc]; exact hs)
    have htext : c :: (String.ofList name).toList ++ rest.dropWhile allowed = c :: rest := by
      simp [name]
    rw [htext] at hsplit
    exact ⟨_, by simp, hsplit⟩
  | case10 o acc c rest _ _ _ _ _ _ hc word o' _ more hm _ ih =>
    obtain ⟨ls, rfl, hs⟩ := ih h
    have hchars : ∀ x ∈ c :: word, isNameChar x = true :=
      List.forall_mem_cons.mpr ⟨hc, fun _ hx => List.mem_takeWhile_imp hx⟩
    have hbytes : byteLength ((c :: word) ++ [':']) = 1 + word.length + 1 := by
      rw [byteLength_append, byteLength_eq_length fun x hx => utf8Size_of_isNameChar (hchars x hx)]
      have : (':' : Char).utf8Size = 1 := rfl
      simp only [List.length_cons, byteLength_cons, byteLength_nil, this]
      omega
    have hsplit := @Splits.lexeme _ more _ o _ (Spells.field (List.cons_ne_nil c word) hchars)
      (by simp [Token.Continues])
      (by rw [hbytes, ← Nat.add_assoc, ← Nat.add_assoc]; exact hs)
    refine ⟨⟨.field (String.ofList (c :: word)), o⟩ :: ls, by simp [wordToken], ?_⟩
    have hrest : rest = word ++ ':' :: more := by
      rw [← hm, List.takeWhile_append_dropWhile]
    rw [hrest]
    simpa using hsplit
  | case11 o acc c rest _ _ _ _ _ _ hc word o' _ hnot _ ih =>
    obtain ⟨ls, rfl, hs⟩ := ih h
    have hchars : ∀ x ∈ c :: word, isNameChar x = true :=
      List.forall_mem_cons.mpr ⟨hc, fun _ hx => List.mem_takeWhile_imp hx⟩
    have hbytes : byteLength (c :: word) = 1 + word.length := by
      rw [byteLength_eq_length fun x hx => utf8Size_of_isNameChar (hchars x hx)]
      simp [Nat.add_comm]
    have hmax : ∀ x ∈ (rest.dropWhile isNameChar).head?,
        (wordToken (String.ofList (c :: word)) false).Continues x = false := by
      intro x hx
      have hstop := stop_dropWhile isNameChar rest x hx
      simp only [wordToken, Bool.false_eq_true, if_false]
      split <;> exact hstop
    have hspells : Spells (c :: word) (wordToken (String.ofList (c :: word)) false) := by
      by_cases hw : c :: word = ['_']
      · rw [hw]
        exact .wildcard
      · have hne : String.ofList (c :: word) ≠ "_" := by
          intro h
          apply hw
          simpa using congrArg String.toList h
        simp only [wordToken, Bool.false_eq_true, if_false, beq_iff_eq, hne]
        exact .kind (List.cons_ne_nil c word) hchars hw
    have hsplit := Splits.lexeme (o := o) hspells hmax
      (by rw [hbytes, ← Nat.add_assoc]; exact hs)
    have htext : (c :: word) ++ rest.dropWhile isNameChar = c :: rest := by
      simp [word]
    rw [htext] at hsplit
    exact ⟨_, by simp, hsplit⟩
  | case12 => cases h

/-- **The lexer reads exactly the texts that split into blanks, comments and maximal
lexemes**, and gives their tokens in order, each at the byte offset where its lexeme
starts. -/
theorem tokenize_eq_ok_iff (text : String) (ls : Array Lexeme) :
    tokenize text = .ok ls ↔ Splits text.toList 0 ls.toList := by
  constructor
  · intro h
    obtain ⟨ls', rfl, hs⟩ := lexFrom_splits h
    simpa using hs
  · intro h
    have := h.lexFrom_eq #[]
    simpa [tokenize] using this

/-- Blanks are one byte each. -/
theorem utf8Size_of_isBlank {c : Char} (h : isBlank c = true) : c.utf8Size = 1 := by
  rcases eq_of_isBlank h with rfl | rfl | rfl | rfl | rfl <;> rfl

/-- Each lexeme of a split text stands in the text at its offset: the text before it takes
exactly that many bytes. -/
theorem Splits.located {cs : List Char} {o : Nat} {ls : List Lexeme} (h : Splits cs o ls) :
    ∀ l ∈ ls, ∃ pre w post, cs = pre ++ w ++ post ∧ l.offset = o + byteLength pre ∧
      Spells w l.token := by
  induction h with
  | nil => simp
  | @blank c rest o ls hc _ ih =>
    intro l hl
    obtain ⟨pre, w, post, rfl, ho, hw⟩ := ih l hl
    refine ⟨c :: pre, w, post, by simp, ?_, hw⟩
    rw [ho, byteLength_cons, utf8Size_of_isBlank hc]
    omega
  | @comment body rest o ls _ _ _ ih =>
    intro l hl
    obtain ⟨pre, w, post, rfl, ho, hw⟩ := ih l hl
    refine ⟨';' :: (body ++ pre), w, post, by simp, ?_, hw⟩
    have : (';' : Char).utf8Size = 1 := rfl
    rw [ho, byteLength_cons, byteLength_append, this]
    omega
  | @lexeme w rest t o ls hw _ _ ih =>
    intro l hl
    rcases List.mem_cons.mp hl with rfl | hl
    · exact ⟨[], w, rest, by simp, by simp, hw⟩
    · obtain ⟨pre, w', post, rfl, ho, hw'⟩ := ih l hl
      refine ⟨w ++ pre, w', post, by simp, ?_, hw'⟩
      rw [ho, byteLength_append]
      omega

end Pattern
end ShapeSearch
