import ShapeSearch.Proofs.Pattern.Parser
import ShapeSearch.Proofs.Pattern.Lexemes
import Mathlib.Data.String.Basic

/-!
# Where compile errors point

Every error of compiling pattern text carries the place of a byte offset of that text, no
further than its end, and the errors that name something point at where the text writes it
(`compile_eq_error_pointsAt`):

* an unknown node kind at its word, an unknown string literal at its opening quote;
* an unknown field at its name, after the `!` of an absent field;
* a capture that its top-level clause does not bind, or binds a second time, at its `@`.

A second binding is the later of two bindings of its label within one top-level clause
(`LaterBinding`): the clauses before that clause are whole, and that clause, cut just
before the capture and closed with parentheses, binds the label once, and with the capture
kept, twice.

The readers are followed by one strong induction on the lexemes they are given, as in
`reads_sound`.  A reading that succeeds leaves a suffix of its lexemes and names only
capture arguments among them (`Follows`); a reading that fails does so as `Sited` says,
a duplicate capture carrying the cut piece of the reader it came from (`SecondBinding`).
-/

namespace ShapeSearch

namespace Except

variable {ε α β : Type}

theorem bind_eq_error {x : Except ε α} {f : α → Except ε β} {e : ε} :
    x >>= f = .error e ↔ x = .error e ∨ ∃ a, x = .ok a ∧ f a = .error e := by
  cases x <;> simp [bind, Except.bind]

theorem map_eq_error {x : Except ε α} {f : α → β} {e : ε} :
    x.map f = .error e ↔ x = .error e := by
  cases x <;> simp [Except.map]

end Except

/-! ### Byte offsets of a text -/

namespace Position

theorem length_toList_loop (bs : ByteArray) (i : Nat) (r : List UInt8) :
    (ByteArray.toList.loop bs i r).length = r.length + (bs.size - i) := by
  fun_induction ByteArray.toList.loop bs i r with
  | case1 i r hi ih =>
    rw [ih]
    simp only [List.length_cons]
    omega
  | case2 i r hi =>
    simp only [List.length_reverse]
    omega

theorem length_bytes (text : String) : text.toUTF8.toList.length = text.utf8ByteSize := by
  simp [ByteArray.toList, length_toList_loop]

/-- An offset past the end of a text has the place of the end. -/
theorem ofText_min (text : String) (x : Nat) :
    ofText text x = ofText text (min x text.utf8ByteSize) := by
  simp only [ofText, ofBytes, length_bytes, Nat.min_assoc, Nat.min_self]

/-- Every place is that of an offset no further than the end of the text. -/
theorem exists_ofText_eq (text : String) (x : Nat) :
    ∃ o ≤ text.utf8ByteSize, ofText text x = ofText text o :=
  ⟨min x text.utf8ByteSize, Nat.min_le_right _ _, ofText_min text x⟩

end Position

namespace Pattern

theorem byteLength_eq_utf8Len (cs : List Char) : byteLength cs = String.utf8Len cs := by
  induction cs with
  | nil => rfl
  | cons c cs ih => simp [ih, Nat.add_comm]

theorem utf8ByteSize_eq_byteLength (text : String) :
    text.utf8ByteSize = byteLength text.toList := by
  rw [byteLength_eq_utf8Len, ← String.utf8ByteSize_ofList, String.ofList_toList]

/-- The text, from byte offset `o` on, begins with the characters `w`. -/
def TextAt (text : String) (o : Nat) (w : List Char) : Prop :=
  ∃ pre post, text.toList = pre ++ w ++ post ∧ byteLength pre = o

theorem TextAt.add_le {text : String} {o : Nat} {w : List Char} (h : TextAt text o w) :
    o + byteLength w ≤ text.utf8ByteSize := by
  obtain ⟨pre, post, htext, rfl⟩ := h
  rw [utf8ByteSize_eq_byteLength, htext, byteLength_append, byteLength_append]
  omega

theorem splits_of_tokenize {text : String} {ls : Array Lexeme} (h : tokenize text = .ok ls) :
    Splits text.toList 0 ls.toList := by
  obtain ⟨ls', rfl, hs⟩ := lexFrom_splits h
  simpa using hs

/-- Each lexeme of a text stands in it at its offset. -/
theorem textAt_of_mem {text : String} {ls : Array Lexeme} (h : tokenize text = .ok ls)
    {t : Token} {o : Nat} (hl : ⟨t, o⟩ ∈ ls.toList) : ∃ w, TextAt text o w ∧ Spells w t := by
  obtain ⟨pre, w, post, htext, ho, hw⟩ := (splits_of_tokenize h).located _ hl
  exact ⟨w, ⟨pre, post, htext, by simpa using ho.symm⟩, hw⟩

/-! ### How the tokens that name things are written -/

namespace Spells

variable {w : List Char}

theorem eq_of_kind {name : String} (h : Spells w (.kind name)) : w = name.toList := by
  cases h with
  | kind => simp
  | sigil hs => cases hs

theorem eq_of_field {name : String} (h : Spells w (.field name)) : w = name.toList ++ [':'] := by
  cases h with
  | field => simp
  | sigil hs => cases hs

theorem eq_of_absentField {name : String} (h : Spells w (.absentField name)) :
    w = '!' :: name.toList := by
  cases h with
  | sigil hs => cases hs; rfl

theorem eq_of_capture {name : String} (h : Spells w (.capture name)) : w = '@' :: name.toList := by
  cases h with
  | sigil hs => cases hs; rfl

theorem eq_of_text {s : String} (h : Spells w (.text s)) :
    ∃ body, Quoted body s.toList ∧ w = '"' :: (body ++ ['"']) := by
  cases h with
  | text hq => exact ⟨_, by simpa using hq, rfl⟩
  | sigil hs => cases hs

end Spells

/-! ### A derivation reads only its own tokens -/

theorem PredicateOf.frame {ts rest : List Token} {p : Predicate} (h : PredicateOf ts p rest) :
    ∃ a, ts = a ++ rest ∧ ∀ r, PredicateOf (a ++ r) p r := by
  cases h with
  | eq negate capture operand rest =>
    exact ⟨[.openParen, .predicate (negatedName negate "eq?"), .capture capture, operand.token,
      .closeParen], rfl, fun r => .eq negate capture operand r⟩
  | regex negate capture source re rest hre =>
    exact ⟨[.openParen, .predicate (negatedName negate "match?"), .capture capture,
      .text source, .closeParen], rfl, fun r => .regex negate capture source re r hre⟩

mutual

theorem ClauseOf.frame {ts rest : List Token} {c : Clause} :
    ClauseOf ts c rest → ∃ a, ts = a ++ rest ∧ ∀ r, ClauseOf (a ++ r) c r
  | .plain node => by
    obtain ⟨a, rfl, h⟩ := node.frame
    exact ⟨a, rfl, fun r => .plain (h r)⟩
  | .captured label node => by
    obtain ⟨a, rfl, h⟩ := node.frame
    exact ⟨a ++ [.capture label], by simp, fun r => .captured label (by simpa using h (.capture label :: r))⟩

theorem NodeOf.frame {ts rest : List Token} {c : Clause} :
    NodeOf ts c rest → ∃ a, ts = a ++ rest ∧ ∀ r, NodeOf (a ++ r) c r
  | .named kind items => by
    obtain ⟨a, rfl, h⟩ := items.frame
    exact ⟨.openParen :: .kind kind :: (a ++ [.closeParen]), by simp,
      fun r => by simpa using NodeOf.named kind (h (.closeParen :: r))⟩
  | .anyNamed items => by
    obtain ⟨a, rfl, h⟩ := items.frame
    exact ⟨.openParen :: .wildcard :: (a ++ [.closeParen]), by simp,
      fun r => by simpa using NodeOf.anyNamed (h (.closeParen :: r))⟩
  | .anonymous literal rest => ⟨[.text literal], rfl, fun r => .anonymous literal r⟩
  | .any rest => ⟨[.wildcard], rfl, fun r => .any r⟩

theorem ItemsOf.frame {ts rest : List Token} {cs : List Constraint} {ps : List Predicate} :
    ItemsOf ts cs ps rest → ∃ a, ts = a ++ rest ∧ ∀ r, ItemsOf (a ++ r) cs ps r
  | .nil rest => ⟨[], rfl, fun r => .nil r⟩
  | .field name child items => by
    obtain ⟨a, rfl, hc⟩ := child.frame
    obtain ⟨b, rfl, hi⟩ := items.frame
    exact ⟨.field name :: (a ++ b), by simp,
      fun r => by simpa using ItemsOf.field name (hc (b ++ r)) (hi r)⟩
  | .absent name items => by
    obtain ⟨a, rfl, hi⟩ := items.frame
    exact ⟨.absentField name :: a, rfl, fun r => .absent name (hi r)⟩
  | .positional child items => by
    obtain ⟨a, rfl, hc⟩ := child.frame
    obtain ⟨b, rfl, hi⟩ := items.frame
    exact ⟨a ++ b, by simp, fun r => by simpa using ItemsOf.positional (hc (b ++ r)) (hi r)⟩
  | .predicate pred items => by
    obtain ⟨a, rfl, hp⟩ := pred.frame
    obtain ⟨b, rfl, hi⟩ := items.frame
    exact ⟨a ++ b, by simp, fun r => by simpa using ItemsOf.predicate (hp (b ++ r)) (hi r)⟩

end

theorem ClauseOf.reframe {a rest : List Token} {c : Clause} (h : ClauseOf (a ++ rest) c rest)
    (r : List Token) : ClauseOf (a ++ r) c r := by
  obtain ⟨a', ha, h'⟩ := h.frame
  rw [List.append_cancel_right ha]
  exact h' r

theorem NodeOf.reframe {a rest : List Token} {c : Clause} (h : NodeOf (a ++ rest) c rest)
    (r : List Token) : NodeOf (a ++ r) c r := by
  obtain ⟨a', ha, h'⟩ := h.frame
  rw [List.append_cancel_right ha]
  exact h' r

theorem PredicateOf.reframe {a rest : List Token} {p : Predicate}
    (h : PredicateOf (a ++ rest) p rest) (r : List Token) : PredicateOf (a ++ r) p r := by
  obtain ⟨a', ha, h'⟩ := h.frame
  rw [List.append_cancel_right ha]
  exact h' r

theorem Clause.constraintLabels_append (cs cs' : List Constraint) :
    Clause.constraintLabels (cs ++ cs') =
      Clause.constraintLabels cs ++ Clause.constraintLabels cs' := by
  induction cs with
  | nil => rfl
  | cons c cs ih =>
    cases c <;> simp [Clause.constraintLabels, ih]

/-! ### What readings leave, and where they fail -/

/-- What a successful reading of `ls` from scope `sc`, leaving the lexemes `rest` and the
scope `sc'`, says of the lexemes: `rest` follows the lexemes read, and the captures the
reading's predicates name are capture arguments among the lexemes. -/
structure Follows (sc : Scope) (ls : List Lexeme) (sc' : Scope) (rest : List Lexeme) : Prop where
  suffix : ∃ read, ls = read ++ rest
  referenced : ∀ x ∈ sc'.referenced, x ∈ sc.referenced ∨ (⟨.capture x.1, x.2⟩ : Lexeme) ∈ ls

namespace Follows

variable {sc sc' sc'' : Scope} {ls rest rest' : List Lexeme}

/-- Lexemes read with no predicate among them. -/
theorem drop (hsc : sc'.referenced = sc.referenced) (read rest : List Lexeme) :
    Follows sc (read ++ rest) sc' rest :=
  ⟨⟨read, rfl⟩, fun _ hx => .inl (hsc ▸ hx)⟩

theorem trans (h : Follows sc ls sc' rest) (h' : Follows sc' rest sc'' rest') :
    Follows sc ls sc'' rest' where
  suffix := by
    obtain ⟨a, rfl⟩ := h.suffix
    obtain ⟨b, rfl⟩ := h'.suffix
    exact ⟨a ++ b, by simp⟩
  referenced := by
    intro x hx
    obtain ⟨a, rfl⟩ := h.suffix
    rcases h'.referenced x hx with hx' | hmem
    · exact h.referenced x hx'
    · exact .inr (List.mem_append_right a hmem)

theorem cons (h : Follows sc ls sc' rest) (l : Lexeme) : Follows sc (l :: ls) sc' rest where
  suffix := by
    obtain ⟨a, rfl⟩ := h.suffix
    exact ⟨l :: a, rfl⟩
  referenced x hx := (h.referenced x hx).imp_right (List.mem_cons_of_mem l)

theorem subset (h : Follows sc ls sc' rest) : rest ⊆ ls := by
  obtain ⟨a, rfl⟩ := h.suffix
  exact List.subset_append_right a rest

end Follows

/-- The lexemes `ls` a reader was given hold, at offset `o`, a second binding of `name` in
the piece of clause the reader reads, `D` saying which labels a token list binds as such a
piece: cut just before the capture and closed by `k` parentheses, the piece binds `name`
once together with the scope `sc`, and with the capture kept, twice. -/
def SecondBinding (D : List Token → List String → Prop) (sc : Scope) (ls : List Lexeme)
    (name : String) (o : Nat) : Prop :=
  ∃ x y k L L', ls = x ++ ⟨.capture name, o⟩ :: y ∧
    D (x.map Lexeme.token ++ List.replicate k .closeParen) L' ∧
    D (x.map Lexeme.token ++ .capture name :: List.replicate k .closeParen) L ∧
    (sc.bound ++ L').count name = 1 ∧ (sc.bound ++ L).count name = 2

/-- The labels of the clause a token list is. -/
def ClauseBinds (ts : List Token) (L : List String) : Prop :=
  ∃ c, ClauseOf ts c [] ∧ c.labels = L

/-- The labels of the node a token list is. -/
def NodeBinds (ts : List Token) (L : List String) : Prop :=
  ∃ c, NodeOf ts c [] ∧ c.labels = L

/-- The labels of the node a token list is after a `(`. -/
def BodyBinds (ts : List Token) (L : List String) : Prop :=
  NodeBinds (.openParen :: ts) L

/-- The labels of the items a token list is, before a `)`. -/
def ItemsBinds (ts : List Token) (L : List String) : Prop :=
  ∃ cs ps, ItemsOf (ts ++ [.closeParen]) cs ps [.closeParen] ∧ Clause.constraintLabels cs = L

namespace SecondBinding

variable {D D' : List Token → List String → Prop} {sc sc' : Scope} {ls : List Lexeme}
  {name : String} {o : Nat}

theorem imp (h : SecondBinding D sc ls name o) (hD : ∀ ts L, D ts L → D' ts L) :
    SecondBinding D' sc ls name o := by
  obtain ⟨x, y, k, L, L', rfl, h', h'', hc', hc⟩ := h
  exact ⟨x, y, k, L, L', rfl, hD _ _ h', hD _ _ h'', hc', hc⟩

/-- A piece after one more lexeme, which the outer piece reads first. -/
theorem cons (h : SecondBinding D sc ls name o) (l : Lexeme)
    (hD : ∀ ts L, D ts L → D' (l.token :: ts) L) : SecondBinding D' sc (l :: ls) name o := by
  obtain ⟨x, y, k, L, L', rfl, h', h'', hc', hc⟩ := h
  exact ⟨l :: x, y, k, L, L', rfl, hD _ _ h', hD _ _ h'', hc', hc⟩

/-- The items of a node, after its `(` and the kind or `_` at `l`: the node's `)` is one
more parenthesis to close. -/
theorem body (h : SecondBinding ItemsBinds sc ls name o) (l : Lexeme) {test : NodeTest}
    (hnode : ∀ ts cs ps, ItemsOf ts cs ps [.closeParen] →
      NodeOf (.openParen :: l.token :: ts) (.mk test cs ps none) []) :
    SecondBinding BodyBinds sc (l :: ls) name o := by
  obtain ⟨x, y, k, L, L', rfl, ⟨cs', ps', h', hl'⟩, ⟨cs, ps, h'', hl⟩, hc', hc⟩ := h
  refine ⟨l :: x, y, k + 1, L, L', rfl, ⟨.mk test cs' ps' none, ?_, ?_⟩,
    ⟨.mk test cs ps none, ?_, ?_⟩, hc', hc⟩
  · simpa [List.replicate_succ'] using hnode _ _ _ h'
  · simpa [Clause.labels] using hl'
  · simpa [List.replicate_succ'] using hnode _ _ _ h''
  · simpa [Clause.labels] using hl

/-- A clause in a field, after the field's name at `l`. -/
theorem fieldChild (h : SecondBinding ClauseBinds sc ls name o) {field : String} (l : Lexeme)
    (hl : l.token = .field field) : SecondBinding ItemsBinds sc (l :: ls) name o := by
  refine h.cons l fun ts L ⟨c, hc, hlabels⟩ => ?_
  have hc' : ClauseOf (ts ++ []) c [] := by simpa using hc
  refine ⟨[.field field c], [], ?_, by simp [Clause.constraintLabels, hlabels]⟩
  rw [hl]
  exact .field field (by simpa using hc'.reframe [.closeParen]) (.nil _)

/-- A positional clause among the items. -/
theorem positionalChild (h : SecondBinding ClauseBinds sc ls name o) :
    SecondBinding ItemsBinds sc ls name o := by
  refine h.imp fun ts L ⟨c, hc, hlabels⟩ => ?_
  have hc' : ClauseOf (ts ++ []) c [] := by simpa using hc
  refine ⟨[.positional c], [], ?_, by simp [Clause.constraintLabels, hlabels]⟩
  exact .positional (by simpa using hc'.reframe [.closeParen]) (.nil _)

/-- Items after an item read from `read`, which stands for the constraints `cs₀` and the
predicates `ps₀` and adds their labels to the scope. -/
theorem afterItem (h : SecondBinding ItemsBinds sc' ls name o) {read : List Lexeme}
    {cs₀ : List Constraint} {ps₀ : List Predicate}
    (hitem : ∀ ts cs ps rest, ItemsOf ts cs ps rest →
      ItemsOf (read.map Lexeme.token ++ ts) (cs₀ ++ cs) (ps₀ ++ ps) rest)
    (hsc : sc'.bound.Perm (sc.bound ++ Clause.constraintLabels cs₀)) :
    SecondBinding ItemsBinds sc (read ++ ls) name o := by
  obtain ⟨x, y, k, L, L', rfl, ⟨cs', ps', h', hl'⟩, ⟨cs, ps, h'', hl⟩, hc', hc⟩ := h
  have hcount : ∀ L₁ : List String, (sc.bound ++ (Clause.constraintLabels cs₀ ++ L₁)).count name =
      (sc'.bound ++ L₁).count name := by
    intro L₁
    rw [← List.append_assoc]
    exact ((hsc.append_right L₁).count_eq name).symm
  refine ⟨read ++ x, y, k, Clause.constraintLabels cs₀ ++ L, Clause.constraintLabels cs₀ ++ L',
    by simp, ⟨cs₀ ++ cs', ps₀ ++ ps', ?_, ?_⟩, ⟨cs₀ ++ cs, ps₀ ++ ps, ?_, ?_⟩,
    by rw [hcount]; exact hc', by rw [hcount]; exact hc⟩
  · simpa using hitem _ _ _ _ h'
  · rw [Clause.constraintLabels_append, hl']
  · simpa using hitem _ _ _ _ h''
  · rw [Clause.constraintLabels_append, hl]

end SecondBinding

/-- Labels that reading the node in front added, with no repeat, to a scope that now holds
`name`: `name` is bound once, and a capture of it after the node would bind it twice. -/
theorem count_bound {bound bound' L : List String} {name : String}
    (hperm : bound'.Perm (bound ++ L)) (hnodup : bound'.Nodup) (hmem : name ∈ bound') :
    (bound ++ L).count name = 1 ∧ (bound ++ (name :: L)).count name = 2 := by
  have hone : (bound ++ L).count name = 1 := by
    rw [← hperm.count_eq]
    exact List.count_eq_one_of_mem hnodup hmem
  refine ⟨hone, ?_⟩
  rw [List.perm_middle.count_eq, List.count_cons_self, hone]

/-- Where an error met reading the lexemes `ls` points: at a place of the text, and for an
error that names something, at the offset of a lexeme of `ls` that writes it; `dup` says
what the offset of a duplicate capture is. -/
def Sited (cx : Context) (dup : String → Nat → Prop) (ls : List Lexeme) : PatternError → Prop
  | .unknownNodeType name pos =>
    ∃ o, pos = cx.place o ∧
      ((⟨.kind name, o⟩ : Lexeme) ∈ ls ∨ (⟨.text name, o⟩ : Lexeme) ∈ ls)
  | .unknownField name pos =>
    ∃ o, pos = cx.place o ∧ ((⟨.field name, o⟩ : Lexeme) ∈ ls ∨
      ∃ o', (⟨.absentField name, o'⟩ : Lexeme) ∈ ls ∧ o = o' + 1)
  | .duplicateCapture name pos => ∃ o, pos = cx.place o ∧ dup name o
  | .unknownCapture name pos => ∃ o, pos = cx.place o ∧ (⟨.capture name, o⟩ : Lexeme) ∈ ls
  | .invalidPredicate _ pos | .invalidRegex _ pos | .malformed _ pos => ∃ o, pos = cx.place o

/-- An error that names nothing, at a place of the text. -/
def Unnamed (cx : Context) : PatternError → Prop
  | .invalidPredicate _ pos | .invalidRegex _ pos | .malformed _ pos => ∃ o, pos = cx.place o
  | _ => False

section Sites

variable (cx : Context)

theorem Unnamed.sited {e : PatternError} (h : Unnamed cx e) (dup : String → Nat → Prop)
    (ls : List Lexeme) : Sited cx dup ls e := by
  cases e with
  | invalidPredicate => exact h
  | invalidRegex => exact h
  | malformed => exact h
  | _ => exact h.elim

theorem Sited.mono {dup dup' : String → Nat → Prop} {ls ls' : List Lexeme} {e : PatternError}
    (h : Sited cx dup ls e) (hdup : ∀ name o, dup name o → dup' name o) (hls : ls ⊆ ls') :
    Sited cx dup' ls' e := by
  cases e with
  | unknownNodeType name pos =>
    obtain ⟨o, hpos, hmem⟩ := h
    exact ⟨o, hpos, hmem.imp (fun h => hls h) (fun h => hls h)⟩
  | unknownField name pos =>
    obtain ⟨o, hpos, hmem⟩ := h
    exact ⟨o, hpos, hmem.imp (fun h => hls h) fun ⟨o', hm, ho⟩ => ⟨o', hls hm, ho⟩⟩
  | duplicateCapture name pos =>
    obtain ⟨o, hpos, hd⟩ := h
    exact ⟨o, hpos, hdup _ _ hd⟩
  | unknownCapture name pos =>
    obtain ⟨o, hpos, hm⟩ := h
    exact ⟨o, hpos, hls hm⟩
  | invalidPredicate => exact h
  | invalidRegex => exact h
  | malformed => exact h

theorem unnamed_of_syntaxError {α : Type} {o : Nat} {p : SyntaxProblem} {e : PatternError}
    (h : (cx.syntaxError o p : Except PatternError α) = .error e) : Unnamed cx e := by
  simp only [Context.syntaxError, Except.error.injEq] at h
  subst h
  exact ⟨o, rfl⟩

theorem unnamed_of_predicateError {α : Type} {o : Nat} {p : PredicateProblem}
    {e : PatternError} (h : (cx.predicateError o p : Except PatternError α) = .error e) :
    Unnamed cx e := by
  simp only [Context.predicateError, Except.error.injEq] at h
  subst h
  exact ⟨o, rfl⟩

theorem checkField_eq_error {name : String} {at_ : Nat} {e : PatternError}
    (h : cx.checkField name at_ = .error e) : e = .unknownField name (cx.place at_) := by
  unfold Context.checkField at h
  split at h
  · cases h
  · simpa using h.symm

end Sites

/-! ### Predicates -/

section Predicates

variable (cx : Context)

/-- Reading arguments leaves a suffix, and every argument is a lexeme read. -/
theorem readArgs_follows {openAt : Nat} {name : String} :
    ∀ {ts : List Lexeme} {args : List (Operand × Nat)} {r : Rest ts},
      readArgs cx openAt name ts = .ok (args, r) →
        (∃ read, ts = read ++ r.1) ∧ ∀ a ∈ args, (⟨a.1.token, a.2⟩ : Lexeme) ∈ ts
  | [], _, _, h => by simp [readArgs] at h
  | ⟨tok, at_⟩ :: rest, args, r, h => by
    cases tok
    case closeParen =>
      simp only [readArgs, Except.ok.injEq, Prod.mk.injEq] at h
      obtain ⟨rfl, rfl⟩ := h
      exact ⟨⟨[_], rfl⟩, by simp⟩
    case capture c =>
      rw [readArgs, Except.map_eq_ok] at h
      obtain ⟨⟨args', r'⟩, h', he⟩ := h
      simp only [Prod.mk.injEq] at he
      obtain ⟨rfl, rfl⟩ := he
      obtain ⟨⟨read, hread⟩, hmem⟩ := readArgs_follows h'
      refine ⟨⟨⟨.capture c, at_⟩ :: read, by simp [Rest.cons, hread]⟩, ?_⟩
      simp only [List.mem_cons, forall_eq_or_imp]
      exact ⟨.inl rfl, fun a ha => .inr (hmem a ha)⟩
    case text s =>
      rw [readArgs, Except.map_eq_ok] at h
      obtain ⟨⟨args', r'⟩, h', he⟩ := h
      simp only [Prod.mk.injEq] at he
      obtain ⟨rfl, rfl⟩ := he
      obtain ⟨⟨read, hread⟩, hmem⟩ := readArgs_follows h'
      refine ⟨⟨⟨.text s, at_⟩ :: read, by simp [Rest.cons, hread]⟩, ?_⟩
      simp only [List.mem_cons, forall_eq_or_imp]
      exact ⟨.inl rfl, fun a ha => .inr (hmem a ha)⟩
    all_goals simp [readArgs] at h

theorem readArgs_error {openAt : Nat} {name : String} :
    ∀ {ts : List Lexeme} {e : PatternError}, readArgs cx openAt name ts = .error e → Unnamed cx e
  | [], _, h => unnamed_of_syntaxError cx h
  | ⟨tok, at_⟩ :: rest, e, h => by
    cases tok
    case closeParen => simp [readArgs] at h
    case capture c =>
      rw [readArgs, Except.map_eq_error] at h
      exact readArgs_error h
    case text s =>
      rw [readArgs, Except.map_eq_error] at h
      exact readArgs_error h
    all_goals exact unnamed_of_predicateError cx h

theorem mem_argumentCaptures {args : List (Operand × Nat)} {x : String × Nat}
    (h : x ∈ argumentCaptures args) : (.capture x.1, x.2) ∈ args := by
  obtain ⟨⟨op, at_⟩, hmem, hx⟩ := List.mem_filterMap.mp h
  cases op with
  | capture c =>
    simp only [Option.some.injEq] at hx
    subst hx
    exact hmem
  | text s => cases hx

/-- A predicate read leaves a suffix, and the captures it reports are arguments read. -/
theorem readPredicate_follows {openAt nameAt : Nat} {name : String} {ts : List Lexeme}
    {p : Predicate} {refs : List (String × Nat)} {r : Rest ts}
    (h : readPredicate cx openAt name nameAt ts = .ok (p, refs, r)) :
    (∃ read, ts = read ++ r.1) ∧ ∀ x ∈ refs, (⟨.capture x.1, x.2⟩ : Lexeme) ∈ ts := by
  unfold readPredicate at h
  obtain ⟨⟨given, r'⟩, hargs, h⟩ := Except.bind_eq_ok.mp h
  obtain ⟨hsuffix, hmem⟩ := readArgs_follows cx hargs
  have hdone : refs = argumentCaptures given ∧ r = r' → (∃ read, ts = read ++ r.1) ∧
      ∀ x ∈ refs, (⟨.capture x.1, x.2⟩ : Lexeme) ∈ ts := by
    rintro ⟨rfl, rfl⟩
    exact ⟨hsuffix, fun x hx => hmem _ (mem_argumentCaptures hx)⟩
  rcases hsplit : splitNegation name with ⟨negate, base⟩
  simp only [hsplit] at h
  split at h
  · split at h
    · simp only [pure, Except.pure, Except.ok.injEq, Prod.mk.injEq] at h
      exact hdone ⟨h.2.1.symm, h.2.2.symm⟩
    · split at h
      · split at h
        · split at h
          · simp only [pure, Except.pure, Except.ok.injEq, Prod.mk.injEq] at h
            exact hdone ⟨h.2.1.symm, h.2.2.symm⟩
          · cases h
        · simp at h
      · simp at h
  · simp at h
  · simp at h

theorem readPredicate_error {openAt nameAt : Nat} {name : String} {ts : List Lexeme}
    {e : PatternError} (h : readPredicate cx openAt name nameAt ts = .error e) : Unnamed cx e := by
  unfold readPredicate at h
  rcases Except.bind_eq_error.mp h with hargs | ⟨⟨given, r'⟩, hargs, h⟩
  · exact readArgs_error cx hargs
  rcases hsplit : splitNegation name with ⟨negate, base⟩
  simp only [hsplit] at h
  split at h
  · split at h
    · simp [pure, Except.pure] at h
    · split at h
      · split at h
        · split at h
          · simp [pure, Except.pure] at h
          · simp only [Except.error.injEq] at h
            subst h
            exact ⟨_, rfl⟩
        · exact unnamed_of_predicateError cx h
      · exact unnamed_of_predicateError cx h
  · exact unnamed_of_predicateError cx h
  · exact unnamed_of_predicateError cx h

end Predicates

/-! ### The readers -/

theorem ClauseOf.of_lexemes {ls read rest : List Lexeme} {c : Clause}
    (h : ClauseOf (ls.map Lexeme.token) c (rest.map Lexeme.token)) (hls : ls = read ++ rest)
    (r : List Token) : ClauseOf (read.map Lexeme.token ++ r) c r := by
  subst hls
  have h' : ClauseOf (read.map Lexeme.token ++ rest.map Lexeme.token) c (rest.map Lexeme.token) :=
    by simpa using h
  exact h'.reframe r

theorem PredicateOf.of_lexemes {ls read rest : List Lexeme} {p : Predicate} {name : String}
    (h : PredicateOf (.openParen :: .predicate name :: ls.map Lexeme.token) p
      (rest.map Lexeme.token)) (hls : ls = read ++ rest) (r : List Token) :
    PredicateOf (.openParen :: .predicate name :: (read.map Lexeme.token ++ r)) p r := by
  subst hls
  have h' : PredicateOf ([.openParen, .predicate name] ++ read.map Lexeme.token ++
      rest.map Lexeme.token) p (rest.map Lexeme.token) := by simpa using h
  simpa using h'.reframe r

/-- What a reader leaves is shorter than the lexemes it was given after any in front. -/
theorem Rest.length_lt_cons {ts : List Lexeme} (r : Rest ts) (l : Lexeme) :
    r.1.length < (l :: ts).length :=
  Nat.lt_succ_of_lt r.2

section Readers

variable (cx : Context)

/-- The clause reader on `ls`: what it leaves when it succeeds, and where it fails. -/
def ClauseTracks (ls : List Lexeme) : Prop :=
  ∀ sc, (∀ c sc' (r : Rest ls), readClause cx sc ls = .ok (c, sc', r) → Follows sc ls sc' r.1) ∧
    ∀ e, readClause cx sc ls = .error e → sc.bound.Nodup →
      Sited cx (SecondBinding ClauseBinds sc ls) ls e

/-- The node reader on `ls`: what it leaves when it succeeds, and where it fails. -/
def NodeTracks (ls : List Lexeme) : Prop :=
  ∀ sc, (∀ c sc' (r : Rest ls), readNode cx sc ls = .ok (c, sc', r) → Follows sc ls sc' r.1) ∧
    ∀ e, readNode cx sc ls = .error e → sc.bound.Nodup →
      Sited cx (SecondBinding NodeBinds sc ls) ls e

/-- The reader of a node's body on `ls`: what it leaves when it succeeds, and where it
fails. -/
def BodyTracks (ls : List Lexeme) : Prop :=
  ∀ openAt sc, (∀ c sc' (r : Rest ls), readBody cx openAt sc ls = .ok (c, sc', r) →
      Follows sc ls sc' r.1) ∧
    ∀ e, readBody cx openAt sc ls = .error e → sc.bound.Nodup →
      Sited cx (SecondBinding BodyBinds sc ls) ls e

/-- The items reader on `ls`: what it leaves when it succeeds, and where it fails. -/
def ItemsTracks (ls : List Lexeme) : Prop :=
  ∀ openAt node children predicates sc,
    (∀ c sc' (r : Rest ls), readItems cx openAt node children predicates sc ls = .ok (c, sc', r) →
      Follows sc ls sc' r.1) ∧
    ∀ e, readItems cx openAt node children predicates sc ls = .error e → sc.bound.Nodup →
      Sited cx (SecondBinding ItemsBinds sc ls) ls e

theorem readCapture_error {ts : List Lexeme} {clause : Clause} {sc : Scope} {r : Rest ts}
    {e : PatternError} (h : readCapture cx clause sc r = .error e) :
    Unnamed cx e ∨ ∃ name capAt more, r.1 = ⟨.capture name, capAt⟩ :: more ∧
      name ∈ sc.bound ∧ e = .duplicateCapture name (cx.place capAt) := by
  unfold readCapture at h
  split at h
  · rename_i name capAt more hlt
    split at h
    · exact .inl (unnamed_of_syntaxError cx h)
    · split at h
      · rename_i hbound
        simp only [Except.error.injEq] at h
        exact .inr ⟨name, capAt, more, rfl, by simpa using hbound, h.symm⟩
      · cases h
  · cases h

/-- A capture after a node, of a label the scope after the node binds, is a second binding
of that label. -/
theorem secondBinding_capture {sc sc1 : Scope} {ls read rest more : List Lexeme}
    {clause : Clause} {name : String} {capAt : Nat} (hls : ls = read ++ rest)
    (hrest : rest = ⟨.capture name, capAt⟩ :: more)
    (hnode : NodeOf (ls.map Lexeme.token) clause (rest.map Lexeme.token))
    (hbound : sc1.bound.Perm (sc.bound ++ clause.labels)) (hnodup : sc1.bound.Nodup)
    (hmem : name ∈ sc1.bound) : SecondBinding ClauseBinds sc ls name capAt := by
  subst hls hrest
  have hnone := hnode.capture_eq_none
  have hnode' : NodeOf (read.map Lexeme.token ++ (.capture name :: more.map Lexeme.token)) clause
      (.capture name :: more.map Lexeme.token) := by simpa using hnode
  obtain ⟨hone, htwo⟩ := count_bound hbound hnodup hmem
  refine ⟨read, more, 0, name :: clause.labels, clause.labels, rfl, ⟨clause, ?_, rfl⟩,
    ⟨clause.withCapture name, ?_, Clause.labels_withCapture hnone name⟩, hone, htwo⟩
  · exact .plain (by simpa using hnode'.reframe [])
  · exact .captured name (by simpa using hnode'.reframe [.capture name])

theorem readClause_tracks {ls : List Lexeme} (hnode : NodeTracks cx ls) : ClauseTracks cx ls := by
  intro sc
  constructor
  · intro c sc' r h
    rw [readClause] at h
    obtain ⟨⟨clause, sc1, r1⟩, hread, hcap⟩ := Except.bind_eq_ok.mp h
    have hf := (hnode sc).1 clause sc1 r1 hread
    rcases readCapture_sound cx hcap with
      ⟨-, rfl, rfl, rfl⟩ | ⟨name, capAt, hr1, -, -, rfl, rfl⟩
    · exact hf
    · refine hf.trans ?_
      rw [hr1]
      exact Follows.drop (by rfl) [_] _
  · intro e h hnodup
    rw [readClause] at h
    rcases Except.bind_eq_error.mp h with hread | ⟨⟨clause, sc1, r1⟩, hread, hcap⟩
    · exact ((hnode sc).2 e hread hnodup).mono cx
        (fun name o hd => hd.imp fun ts L ⟨c, hc, hl⟩ => ⟨c, .plain hc, hl⟩) (List.Subset.refl _)
    · rcases readCapture_error cx hcap with hun | ⟨name, capAt, more, hr1, hmem, rfl⟩
      · exact hun.sited cx _ _
      · have hn := (reads_sound cx ls).2.1 sc clause sc1 r1 hread
        obtain ⟨read, hls⟩ := ((hnode sc).1 clause sc1 r1 hread).suffix
        exact ⟨capAt, rfl,
          secondBinding_capture hls hr1 hn.derives hn.adds.bound (hn.nodup hnodup) hmem⟩

theorem readNode_tracks {ls : List Lexeme}
    (hbody : ∀ rest, rest.length < ls.length → BodyTracks cx rest) : NodeTracks cx ls := by
  intro sc
  constructor
  · intro c sc' r h
    rw [readNode.eq_def] at h
    split at h
    · simp at h
    · rename_i at_ rest
      obtain ⟨⟨c1, sc1, r1⟩, hread, he⟩ := Except.map_eq_ok.mp h
      simp only [Prod.mk.injEq] at he
      obtain ⟨rfl, rfl, rfl⟩ := he
      exact ((hbody rest (by simp) at_ sc).1 c1 sc1 r1 hread).cons _
    · rename_i literal at_ rest
      split at h
      · simp only [Except.ok.injEq, Prod.mk.injEq] at h
        obtain ⟨rfl, rfl, rfl⟩ := h
        exact Follows.drop rfl [_] rest
      · cases h
    · rename_i at_ rest
      simp only [Except.ok.injEq, Prod.mk.injEq] at h
      obtain ⟨rfl, rfl, rfl⟩ := h
      exact Follows.drop rfl [_] rest
    all_goals simp at h
  · intro e h hnodup
    rw [readNode.eq_def] at h
    split at h
    · exact (unnamed_of_syntaxError cx h).sited cx _ _
    · rename_i at_ rest
      have hb := (hbody rest (by simp) at_ sc).2 e (Except.map_eq_error.mp h) hnodup
      exact hb.mono cx (fun name o hd => hd.cons _ fun ts L h => h) (List.subset_cons_self _ _)
    · rename_i literal at_ rest
      split at h
      · cases h
      · simp only [Except.error.injEq] at h
        subst h
        exact ⟨at_, rfl, .inr List.mem_cons_self⟩
    · simp at h
    all_goals exact (unnamed_of_syntaxError cx h).sited cx _ _

theorem readBody_tracks {ls : List Lexeme}
    (hitems : ∀ rest, rest.length < ls.length → ItemsTracks cx rest) : BodyTracks cx ls := by
  intro openAt sc
  constructor
  · intro c sc' r h
    rw [readBody.eq_def] at h
    split at h
    · simp at h
    · rename_i at_ rest
      obtain ⟨⟨c1, sc1, r1⟩, hread, he⟩ := Except.map_eq_ok.mp h
      simp only [Prod.mk.injEq] at he
      obtain ⟨rfl, rfl, rfl⟩ := he
      exact ((hitems rest (by simp) openAt .anyNamed [] [] sc).1 c1 sc1 r1 hread).cons _
    · rename_i k at_ rest
      split at h
      · obtain ⟨⟨c1, sc1, r1⟩, hread, he⟩ := Except.map_eq_ok.mp h
        simp only [Prod.mk.injEq] at he
        obtain ⟨rfl, rfl, rfl⟩ := he
        exact ((hitems rest (by simp) openAt (.named k) [] [] sc).1 c1 sc1 r1 hread).cons _
      · cases h
    · simp at h
  · intro e h hnodup
    rw [readBody.eq_def] at h
    split at h
    · exact (unnamed_of_syntaxError cx h).sited cx _ _
    · rename_i at_ rest
      have hi := (hitems rest (by simp) openAt .anyNamed [] [] sc).2 e
        (Except.map_eq_error.mp h) hnodup
      exact hi.mono cx (fun name o hd => hd.body _ fun ts cs ps h => .anyNamed h)
        (List.subset_cons_self _ _)
    · rename_i k at_ rest
      split at h
      · have hi := (hitems rest (by simp) openAt (.named k) [] [] sc).2 e
          (Except.map_eq_error.mp h) hnodup
        exact hi.mono cx (fun name o hd => hd.body _ fun ts cs ps h => .named k h)
          (List.subset_cons_self _ _)
      · simp only [Except.error.injEq] at h
        subst h
        exact ⟨at_, rfl, .inl List.mem_cons_self⟩
    · exact (unnamed_of_syntaxError cx h).sited cx _ _

theorem readItems_tracks {ls : List Lexeme} (hclause : ClauseTracks cx ls)
    (hshort : ∀ ls', ls'.length < ls.length → ClauseTracks cx ls' ∧ ItemsTracks cx ls') :
    ItemsTracks cx ls := by
  intro openAt node children predicates sc
  constructor
  · intro c sc' r h
    rw [readItems.eq_def] at h
    split at h
    · simp at h
    · rename_i o rest
      simp only [Except.ok.injEq, Prod.mk.injEq] at h
      obtain ⟨rfl, rfl, rfl⟩ := h
      exact Follows.drop rfl [_] rest
    · rename_i name at_ rest
      obtain ⟨u, -, h⟩ := Except.bind_eq_ok.mp h
      obtain ⟨⟨child, sc1, r1⟩, hread, h⟩ := Except.bind_eq_ok.mp h
      obtain ⟨⟨c2, sc2, r2⟩, hread2, h⟩ := Except.bind_eq_ok.mp h
      simp only [pure, Except.pure, Except.ok.injEq, Prod.mk.injEq] at h
      obtain ⟨rfl, rfl, rfl⟩ := h
      have hc := ((hshort rest (by simp)).1 sc).1 child sc1 r1 hread
      have hi := ((hshort r1.1 (r1.length_lt_cons _)).2 openAt node _ predicates sc1).1 c2 sc2 r2 hread2
      exact (hc.trans hi).cons _
    · rename_i name at_ rest
      obtain ⟨u, -, h⟩ := Except.bind_eq_ok.mp h
      obtain ⟨⟨c2, sc2, r2⟩, hread2, h⟩ := Except.bind_eq_ok.mp h
      simp only [pure, Except.pure, Except.ok.injEq, Prod.mk.injEq] at h
      obtain ⟨rfl, rfl, rfl⟩ := h
      exact (((hshort rest (by simp)).2 openAt node _ predicates sc).1 c2 sc2 r2 hread2).cons _
    · rename_i predAt name nameAt rest
      obtain ⟨⟨p, refs, r1⟩, hread, h⟩ := Except.bind_eq_ok.mp h
      obtain ⟨⟨c2, sc2, r2⟩, hread2, h⟩ := Except.bind_eq_ok.mp h
      simp only [pure, Except.pure, Except.ok.injEq, Prod.mk.injEq] at h
      obtain ⟨rfl, rfl, rfl⟩ := h
      obtain ⟨⟨read, hrest⟩, hrefs⟩ := readPredicate_follows cx hread
      have hi := ((hshort r1.1 (Nat.lt_succ_of_lt (r1.length_lt_cons _))).2 openAt node children _ _).1 c2 sc2 r2 hread2
      have hp : Follows sc rest { sc with referenced := sc.referenced ++ refs } r1.1 := by
        refine ⟨⟨read, hrest⟩, fun x hx => ?_⟩
        rcases List.mem_append.mp hx with hx | hx
        · exact .inl hx
        · exact .inr (hrefs x hx)
      exact ((hp.trans hi).cons _).cons _
    · obtain ⟨⟨child, sc1, r1⟩, hread, h⟩ := Except.bind_eq_ok.mp h
      obtain ⟨⟨c2, sc2, r2⟩, hread2, h⟩ := Except.bind_eq_ok.mp h
      simp only [pure, Except.pure, Except.ok.injEq, Prod.mk.injEq] at h
      obtain ⟨rfl, rfl, rfl⟩ := h
      have hc := (hclause sc).1 child sc1 r1 hread
      have hi := ((hshort r1.1 r1.2).2 openAt node _ predicates sc1).1 c2 sc2 r2 hread2
      exact hc.trans hi
  · intro e h hnodup
    rw [readItems.eq_def] at h
    split at h
    · exact (unnamed_of_syntaxError cx h).sited cx _ _
    · simp at h
    · rename_i name at_ rest
      rcases Except.bind_eq_error.mp h with hfield | ⟨u, -, h⟩
      · rw [checkField_eq_error cx hfield]
        exact ⟨at_, rfl, .inl List.mem_cons_self⟩
      rcases Except.bind_eq_error.mp h with hread | ⟨⟨child, sc1, r1⟩, hread, h⟩
      · have hc := ((hshort rest (by simp)).1 sc).2 e hread hnodup
        exact hc.mono cx (fun name' o hd => hd.fieldChild _ rfl) (List.subset_cons_self _ _)
      rcases Except.bind_eq_error.mp h with hread2 | ⟨⟨c2, sc2, r2⟩, hread2, h⟩
      · have hn := (reads_sound cx rest).1 sc child sc1 r1 hread
        have hf := ((hshort rest (by simp)).1 sc).1 child sc1 r1 hread
        obtain ⟨read, hrest⟩ := hf.suffix
        have hi := ((hshort r1.1 (r1.length_lt_cons _)).2 openAt node _ predicates sc1).2 e hread2 (hn.nodup hnodup)
        refine hi.mono cx (fun name' o hd => ?_) fun x hx => List.mem_cons_of_mem _ (hf.subset hx)
        have hitem : ∀ ts cs ps rest', ItemsOf ts cs ps rest' →
            ItemsOf ((⟨.field name, at_⟩ :: read).map Lexeme.token ++ ts)
              ([.field name child] ++ cs) ([] ++ ps) rest' :=
          fun ts cs ps rest' h => .field name (ClauseOf.of_lexemes hn.derives hrest ts) h
        have hdup := hd.afterItem hitem (by simpa [Clause.constraintLabels] using hn.adds.bound)
        rwa [List.cons_append, ← hrest] at hdup
      · simp [pure, Except.pure] at h
    · rename_i name at_ rest
      rcases Except.bind_eq_error.mp h with hfield | ⟨u, -, h⟩
      · rw [checkField_eq_error cx hfield]
        exact ⟨at_ + 1, rfl, .inr ⟨at_, List.mem_cons_self, rfl⟩⟩
      rcases Except.bind_eq_error.mp h with hread2 | ⟨⟨c2, sc2, r2⟩, hread2, h⟩
      · have hi := ((hshort rest (by simp)).2 openAt node _ predicates sc).2 e hread2 hnodup
        refine hi.mono cx (fun name' o hd => ?_) (List.subset_cons_self _ _)
        have hitem : ∀ ts cs ps rest', ItemsOf ts cs ps rest' →
            ItemsOf ([⟨.absentField name, at_⟩].map Lexeme.token ++ ts)
              ([.absent name] ++ cs) ([] ++ ps) rest' :=
          fun ts cs ps rest' h => .absent name h
        exact hd.afterItem hitem (by simp [Clause.constraintLabels])
      · simp [pure, Except.pure] at h
    · rename_i predAt name nameAt rest
      rcases Except.bind_eq_error.mp h with hread | ⟨⟨p, refs, r1⟩, hread, h⟩
      · exact (readPredicate_error cx hread).sited cx _ _
      rcases Except.bind_eq_error.mp h with hread2 | ⟨⟨c2, sc2, r2⟩, hread2, h⟩
      · obtain ⟨⟨read, hrest⟩, -⟩ := readPredicate_follows cx hread
        have hp := (readPredicate_sound cx hread).1
        have hi := ((hshort r1.1 (Nat.lt_succ_of_lt (r1.length_lt_cons _))).2 openAt node children _ _).2 e hread2 hnodup
        have hsub : r1.1 ⊆ ⟨.openParen, predAt⟩ :: ⟨.predicate name, nameAt⟩ :: rest := by
          intro x hx
          rw [hrest]
          exact List.mem_cons_of_mem _ (List.mem_cons_of_mem _ (List.mem_append_right _ hx))
        refine hi.mono cx (fun name' o hd => ?_) hsub
        have hitem : ∀ ts cs ps rest', ItemsOf ts cs ps rest' →
            ItemsOf ((⟨.openParen, predAt⟩ :: ⟨.predicate name, nameAt⟩ :: read).map Lexeme.token
              ++ ts) ([] ++ cs) ([p] ++ ps) rest' :=
          fun ts cs ps rest' h => .predicate (PredicateOf.of_lexemes hp hrest ts) h
        have hdup : SecondBinding ItemsBinds sc
            ((⟨.openParen, predAt⟩ :: ⟨.predicate name, nameAt⟩ :: read) ++ r1.1) name' o :=
          hd.afterItem hitem (by simp [Clause.constraintLabels])
        rwa [List.cons_append, List.cons_append, ← hrest] at hdup
      · simp [pure, Except.pure] at h
    · rcases Except.bind_eq_error.mp h with hread | ⟨⟨child, sc1, r1⟩, hread, h⟩
      · exact ((hclause sc).2 e hread hnodup).mono cx (fun name' o hd => hd.positionalChild)
          (List.Subset.refl _)
      rcases Except.bind_eq_error.mp h with hread2 | ⟨⟨c2, sc2, r2⟩, hread2, h⟩
      · have hn := (reads_sound cx ls).1 sc child sc1 r1 hread
        have hf := (hclause sc).1 child sc1 r1 hread
        obtain ⟨read, hls⟩ := hf.suffix
        have hi := ((hshort r1.1 r1.2).2 openAt node _ predicates sc1).2 e hread2 (hn.nodup hnodup)
        refine hi.mono cx (fun name' o hd => ?_) hf.subset
        have hitem : ∀ ts cs ps rest', ItemsOf ts cs ps rest' →
            ItemsOf (read.map Lexeme.token ++ ts) ([.positional child] ++ cs) ([] ++ ps) rest' :=
          fun ts cs ps rest' h => .positional (ClauseOf.of_lexemes hn.derives hls ts) h
        have hdup := hd.afterItem hitem (by simpa [Clause.constraintLabels] using hn.adds.bound)
        rwa [← hls] at hdup
      · simp [pure, Except.pure] at h

/-- Every reader, on every lexeme list, leaves a suffix of it and fails as `Sited` says: by
strong induction on its length, the items of a node being read, on the same lexemes, after
the clause reader. -/
theorem reads_track (ls : List Lexeme) :
    ClauseTracks cx ls ∧ NodeTracks cx ls ∧ BodyTracks cx ls ∧ ItemsTracks cx ls := by
  induction hn : ls.length using Nat.strongRecOn generalizing ls with
  | _ n ih =>
    have hshort : ∀ ls' : List Lexeme, ls'.length < ls.length →
        ClauseTracks cx ls' ∧ NodeTracks cx ls' ∧ BodyTracks cx ls' ∧ ItemsTracks cx ls' :=
      fun ls' hlt => ih ls'.length (hn ▸ hlt) ls' rfl
    have hbody := readBody_tracks cx fun rest hlt => (hshort rest hlt).2.2.2
    have hnode := readNode_tracks cx fun rest hlt => (hshort rest hlt).2.2.1
    have hclause := readClause_tracks cx hnode
    exact ⟨hclause, hnode, hbody,
      readItems_tracks cx hclause fun ls' hlt => ⟨(hshort ls' hlt).1, (hshort ls' hlt).2.2.2⟩⟩

end Readers

/-! ### Whole patterns -/

/-- The capture at offset `o` of the lexemes `ls` of a pattern is the later of two bindings
of `name` within its top-level clause: the clauses before that clause are whole, and that
clause, cut just before the capture and closed by `k` parentheses, binds `name` once, and
with the capture kept, twice. -/
def LaterBinding (ls : List Lexeme) (name : String) (o : Nat) : Prop :=
  ∃ pre x y k c c', ls = pre ++ x ++ ⟨.capture name, o⟩ :: y ∧
    (pre = [] ∨ ∃ cs, PatternOf (pre.map Lexeme.token) cs) ∧
    ClauseOf (x.map Lexeme.token ++ List.replicate k .closeParen) c' [] ∧
    ClauseOf (x.map Lexeme.token ++ .capture name :: List.replicate k .closeParen) c [] ∧
    c'.labels.count name = 1 ∧ c.labels.count name = 2

namespace LaterBinding

variable {ls : List Lexeme} {name : String} {o : Nat}

/-- A second binding in the first top-level clause. -/
theorem of_first (h : SecondBinding ClauseBinds ⟨[], []⟩ ls name o) : LaterBinding ls name o := by
  obtain ⟨x, y, k, L, L', rfl, ⟨c', hc', rfl⟩, ⟨c, hc, rfl⟩, hone, htwo⟩ := h
  exact ⟨[], x, y, k, c, c', by simp, .inl rfl, hc', hc, by simpa using hone, by simpa using htwo⟩

/-- A later binding after one more whole clause in front. -/
theorem prepend {read : List Lexeme} {clause : Clause}
    (hc : ∀ r, ClauseOf (read.map Lexeme.token ++ r) clause r) (h : LaterBinding ls name o) :
    LaterBinding (read ++ ls) name o := by
  obtain ⟨pre, x, y, k, c, c', rfl, hpre, hc', hc'', hone, htwo⟩ := h
  refine ⟨read ++ pre, x, y, k, c, c', by simp, .inr ?_, hc', hc'', hone, htwo⟩
  rcases hpre with rfl | ⟨cs, hcs⟩
  · exact ⟨[clause], .last (by simpa using hc [])⟩
  · exact ⟨clause :: cs, .cons (by simpa using hc _) hcs⟩

end LaterBinding

section Whole

variable (cx : Context)

theorem checkReferences_eq_error {sc : Scope} {e : PatternError}
    (h : checkReferences cx sc = .error e) :
    ∃ name at_, (name, at_) ∈ sc.referenced ∧ e = .unknownCapture name (cx.place at_) := by
  unfold checkReferences at h
  split at h
  · rename_i name at_ hfind
    simp only [Except.error.injEq] at h
    exact ⟨name, at_, List.mem_of_find?_eq_some hfind, h.symm⟩
  · cases h

/-- Reading whole patterns fails as `Sited` says, a duplicate capture being a later binding
within its top-level clause. -/
theorem readPattern_error (ls : List Lexeme) {e : PatternError}
    (h : readPattern cx ls = .error e) : Sited cx (LaterBinding ls) ls e := by
  induction hn : ls.length using Nat.strongRecOn generalizing ls with
  | _ n ih =>
    rw [readPattern.eq_def] at h
    split at h
    · simp at h
    · exact (unnamed_of_syntaxError cx h).sited cx _ _
    · rcases Except.bind_eq_error.mp h with hread | ⟨⟨c, sc, r⟩, hread, h⟩
      · exact (((reads_track cx ls).1 ⟨[], []⟩).2 e hread List.nodup_nil).mono cx
          (fun name o hd => LaterBinding.of_first hd) (List.Subset.refl _)
      have hf := ((reads_track cx ls).1 ⟨[], []⟩).1 c sc r hread
      rcases Except.bind_eq_error.mp h with hcheck | ⟨u, -, h⟩
      · obtain ⟨name, at_, hmem, rfl⟩ := checkReferences_eq_error cx hcheck
        rcases hf.referenced _ hmem with hnil | hlex
        · exact absurd hnil List.not_mem_nil
        · exact ⟨at_, rfl, hlex⟩
      rcases Except.bind_eq_error.mp h with hrest | ⟨cs, -, h⟩
      · obtain ⟨read, hls⟩ := hf.suffix
        have hc := (reads_sound cx ls).1 _ c sc r hread
        refine (ih r.1.length (hn ▸ r.2) r.1 hrest rfl).mono cx (fun name o hd => ?_) hf.subset
        have hlater := hd.prepend (ClauseOf.of_lexemes hc.derives hls)
        rwa [← hls] at hlater
      · simp [pure, Except.pure] at h

end Whole

/-! ### Compile errors in the text -/

/-- What an error of compiling `text` says of the text at the byte offset `o` it points at:
an unknown kind is written there, or an unknown string literal opens there; an unknown field
is written there before its `:`, or there after a `!`; a capture is written there with its
`@`, and a duplicate one is the later of two bindings within its top-level clause. -/
def PatternError.PointsAt (text : String) (o : Nat) : PatternError → Prop
  | .unknownNodeType name _ =>
    TextAt text o name.toList ∨
      ∃ body, Quoted body name.toList ∧ TextAt text o ('"' :: (body ++ ['"']))
  | .unknownField name _ =>
    TextAt text o (name.toList ++ [':']) ∨ ∃ o', o = o' + 1 ∧ TextAt text o' ('!' :: name.toList)
  | .duplicateCapture name _ =>
    TextAt text o ('@' :: name.toList) ∧ ∃ ls, tokenize text = .ok ls ∧ LaterBinding ls.toList name o
  | .unknownCapture name _ => TextAt text o ('@' :: name.toList)
  | .invalidPredicate .. | .invalidRegex .. | .malformed .. => True

/-- A lexeme that names something stands in the text at its offset, written as its token
says. -/
theorem pointsAt_of_sited {text : String} {V : Vocabulary} {ls : Array Lexeme}
    (htok : tokenize text = .ok ls) {e : PatternError}
    (h : Sited ⟨text, V⟩ (LaterBinding ls.toList) ls.toList e) :
    ∃ o ≤ text.utf8ByteSize, e.position = Position.ofText text o ∧ e.PointsAt text o := by
  cases e with
  | unknownNodeType name pos =>
    obtain ⟨o, rfl, hmem | hmem⟩ := h
    · obtain ⟨w, hat, hw⟩ := textAt_of_mem htok hmem
      rw [hw.eq_of_kind] at hat
      exact ⟨o, by have := hat.add_le; omega, rfl, .inl hat⟩
    · obtain ⟨w, hat, hw⟩ := textAt_of_mem htok hmem
      obtain ⟨body, hq, rfl⟩ := hw.eq_of_text
      exact ⟨o, by have := hat.add_le; omega, rfl, .inr ⟨body, hq, hat⟩⟩
  | unknownField name pos =>
    obtain ⟨o, rfl, hmem | ⟨o', hmem, rfl⟩⟩ := h
    · obtain ⟨w, hat, hw⟩ := textAt_of_mem htok hmem
      rw [hw.eq_of_field] at hat
      exact ⟨o, by have := hat.add_le; omega, rfl, .inl hat⟩
    · obtain ⟨w, hat, hw⟩ := textAt_of_mem htok hmem
      rw [hw.eq_of_absentField] at hat
      have hle := hat.add_le
      have hbang : ('!' : Char).utf8Size = 1 := rfl
      rw [byteLength_cons, hbang] at hle
      exact ⟨o' + 1, by omega, rfl, .inr ⟨o', rfl, hat⟩⟩
  | duplicateCapture name pos =>
    obtain ⟨o, rfl, hlater⟩ := h
    have hmem : (⟨.capture name, o⟩ : Lexeme) ∈ ls.toList := by
      obtain ⟨pre, x, y, k, c, c', hls, -⟩ := hlater
      rw [hls]
      simp
    obtain ⟨w, hat, hw⟩ := textAt_of_mem htok hmem
    rw [hw.eq_of_capture] at hat
    exact ⟨o, by have := hat.add_le; omega, rfl, hat, ls, htok, hlater⟩
  | unknownCapture name pos =>
    obtain ⟨o, rfl, hmem⟩ := h
    obtain ⟨w, hat, hw⟩ := textAt_of_mem htok hmem
    rw [hw.eq_of_capture] at hat
    exact ⟨o, by have := hat.add_le; omega, rfl, hat⟩
  | invalidPredicate p pos =>
    obtain ⟨x, rfl⟩ := h
    obtain ⟨o, ho, hplace⟩ := Position.exists_ofText_eq text x
    exact ⟨o, ho, hplace, trivial⟩
  | invalidRegex f pos =>
    obtain ⟨x, rfl⟩ := h
    obtain ⟨o, ho, hplace⟩ := Position.exists_ofText_eq text x
    exact ⟨o, ho, hplace, trivial⟩
  | malformed p pos =>
    obtain ⟨x, rfl⟩ := h
    obtain ⟨o, ho, hplace⟩ := Position.exists_ofText_eq text x
    exact ⟨o, ho, hplace, trivial⟩

/-- **Where compile errors point.**  When compiling pattern text fails, the error's place
is that of a byte offset `o` no further than the end of the text, and an error that names
something points at it: an unknown kind at its word, an unknown string literal at its
opening quote, an unknown field at its name (before its `:`, or after the `!` of an absent
field), and a capture at its `@`, a duplicate one being the later of two bindings of its
label within its top-level clause. -/
theorem compile_eq_error_pointsAt {text language : String} {V : Vocabulary} {e : PatternError}
    (h : compile text language V = .error e) :
    ∃ o ≤ text.utf8ByteSize, e.position = Position.ofText text o ∧ e.PointsAt text o := by
  cases htok : tokenize text with
  | error err =>
    obtain ⟨p, at_⟩ := err
    simp only [compile, htok] at h
    simp only [throw, throwThe, MonadExceptOf.throw, bind, Except.bind, Except.error.injEq] at h
    subst h
    obtain ⟨o, ho, hplace⟩ := Position.exists_ofText_eq text at_
    exact ⟨o, ho, hplace, trivial⟩
  | ok ls =>
    rw [compile_of_tokenize htok] at h
    rcases Except.bind_eq_error.mp h with hread | ⟨cs, -, h⟩
    · exact pointsAt_of_sited htok (readPattern_error ⟨text, V⟩ ls.toList hread)
    · split at h
      · simp only [Except.error.injEq] at h
        subst h
        exact ⟨0, Nat.zero_le _, rfl, trivial⟩
      · cases h

/-- A label bound twice in one clause is reported at its second binding, byte 14. -/
theorem compile_eq_error_pointsAt_duplicate :
    compile "(a (b) @x (c) @x)" "toy" ⟨["a", "b", "c"], [], []⟩ =
        .error (.duplicateCapture "x" (Position.ofText "(a (b) @x (c) @x)" 14)) ∧
      ∃ o ≤ "(a (b) @x (c) @x)".utf8ByteSize,
        (PatternError.duplicateCapture "x" (Position.ofText "(a (b) @x (c) @x)" 14)).position =
            Position.ofText "(a (b) @x (c) @x)" o ∧
          (PatternError.duplicateCapture "x"
            (Position.ofText "(a (b) @x (c) @x)" 14)).PointsAt "(a (b) @x (c) @x)" o := by
  have htok : tokenize "(a (b) @x (c) @x)" = .ok #[⟨.openParen, 0⟩, ⟨.kind "a", 1⟩,
      ⟨.openParen, 3⟩, ⟨.kind "b", 4⟩, ⟨.closeParen, 5⟩, ⟨.capture "x", 7⟩, ⟨.openParen, 10⟩,
      ⟨.kind "c", 11⟩, ⟨.closeParen, 12⟩, ⟨.capture "x", 14⟩, ⟨.closeParen, 16⟩] := by
    simp [tokenize, lexFrom, isBlank, isNameChar, isCaptureChar, wordToken]
  have hcompile : compile "(a (b) @x (c) @x)" "toy" ⟨["a", "b", "c"], [], []⟩ =
      .error (.duplicateCapture "x" (Position.ofText "(a (b) @x (c) @x)" 14)) := by
    rw [compile_of_tokenize htok]
    simp [readPattern, readClause, readNode, readBody, readItems, readCapture, Context.place,
      Vocabulary.hasNamed, bind, Except.bind, Except.map, Rest.cons]
  exact ⟨hcompile, compile_eq_error_pointsAt hcompile⟩

end Pattern

end ShapeSearch
