import ShapeSearch.Proofs.Pattern.Parser
import ShapeSearch.Proofs.Pattern.Lexing

/-!
# Canonical text reads back

The canonical text of a compiled pattern (`Compiled.render`) compiles, for the same language
and vocabulary, to the same pattern (`compile_render`).

The argument goes through the tokens that canonical text is made of (`Clause.tokens`): a
node, the tokens of its child constraints in written order, then those of its predicates,
then its capture.

* Whatever tokens a clause was read from, its canonical tokens are read as the same clause,
  and each of them is one of the tokens read (`ClauseOf.canonical`).  A predicate written
  between two children is read the same after them, since a clause keeps its children and
  its predicates in two lists.
* The canonical text of a clause lexes to its canonical tokens when each of them is lexable
  (`lexes_render`); the tokens of any text that compiles are (`tokenize_lexable`).
-/

namespace ShapeSearch
namespace Pattern

/-- The tokens of a predicate's canonical text. -/
def Predicate.tokens : Predicate → List Token
  | .eq capture operand negate =>
    [.openParen, .predicate (negatedName negate "eq?"), .capture capture, operand.token,
      .closeParen]
  | .regex capture re negate =>
    [.openParen, .predicate (negatedName negate "match?"), .capture capture, .text re.source,
      .closeParen]

mutual

/-- The tokens of a clause's canonical text: its node, with the tokens of its child
constraints and then of its predicates, and its capture. -/
def Clause.tokens : Clause → List Token
  | .mk node children predicates capture =>
    (match node with
      | .anonymous literal => [.text literal]
      | .any => [.wildcard]
      | .named kind =>
        .openParen :: .kind kind ::
          (Constraint.tokensAll children ++ predicates.flatMap Predicate.tokens ++ [.closeParen])
      | .anyNamed =>
        .openParen :: .wildcard ::
          (Constraint.tokensAll children ++ predicates.flatMap Predicate.tokens ++
            [.closeParen])) ++
      capture.toList.map Token.capture

/-- The tokens of child constraints, in order. -/
def Constraint.tokensAll : List Constraint → List Token
  | [] => []
  | .field name c :: rest => .field name :: (c.tokens ++ Constraint.tokensAll rest)
  | .positional c :: rest => c.tokens ++ Constraint.tokensAll rest
  | .absent name :: rest => .absentField name :: Constraint.tokensAll rest

end

theorem Clause.tokens_withCapture {c : Clause} (h : c.capture = none) (label : String) :
    (c.withCapture label).tokens = c.tokens ++ [.capture label] := by
  cases c with
  | mk node children predicates capture =>
    simp only [Clause.capture] at h
    subst h
    simp [Clause.withCapture, Clause.tokens, Clause.node, Clause.children, Clause.predicates]

/-! ### Compiled regular expressions are read back from their text -/

theorem TextRegex.ofSource_source (re : TextRegex) : TextRegex.ofSource re.source = .ok re := by
  unfold TextRegex.ofSource
  split
  · next program h => exact congrArg Except.ok (TextRegex.ext_source rfl)
  · next e h => exact absurd (h.symm.trans re.compiled) (by simp)

theorem TextRegex.source_of_ofSource {source : String} {re : TextRegex}
    (h : TextRegex.ofSource source = .ok re) : re.source = source := by
  unfold TextRegex.ofSource at h
  split at h
  · cases h
    rfl
  · cases h

/-! ### Canonical tokens are read as the same clause -/

theorem PredicateOf.canonical {ts rest : List Token} {p : Predicate} (h : PredicateOf ts p rest) :
    (∀ rest', PredicateOf (p.tokens ++ rest') p rest') ∧ p.tokens ++ rest ⊆ ts := by
  cases h with
  | eq negate capture operand rest =>
    exact ⟨fun rest' => .eq negate capture operand rest', fun t ht => by
      simpa [Predicate.tokens] using ht⟩
  | regex negate capture source re rest hre =>
    have hsource := TextRegex.source_of_ofSource hre
    refine ⟨fun rest' => ?_, fun t ht => ?_⟩
    · exact .regex negate capture re.source re rest' (TextRegex.ofSource_source re)
    · simpa [Predicate.tokens, hsource] using ht

/-- The tokens of a node in parentheses, then `rest`, come from those of its items followed
by `)` and `rest`. -/
theorem parenthesized_subset (t : Token) {cs : List Constraint} {ps : List Predicate}
    {rest ts : List Token}
    (h : Constraint.tokensAll cs ++ ps.flatMap Predicate.tokens ++ .closeParen :: rest ⊆ ts) :
    .openParen :: t :: (Constraint.tokensAll cs ++ ps.flatMap Predicate.tokens ++ [.closeParen])
      ++ rest ⊆ .openParen :: t :: ts := by
  simp only [List.cons_append, List.append_assoc] at h ⊢
  exact List.cons_subset_cons _ (List.cons_subset_cons _ h)

mutual

/-- The canonical tokens of a clause, followed by anything, are read as that clause; they and
what followed the clause are among the tokens it was read from. -/
theorem ClauseOf.canonical {ts rest : List Token} {c : Clause} :
    ClauseOf ts c rest →
      (∀ rest', ClauseOf (c.tokens ++ rest') c rest') ∧ c.tokens ++ rest ⊆ ts
  | .plain node => by
    obtain ⟨hread, hsub⟩ := node.canonical
    exact ⟨fun rest' => .plain (hread rest'), hsub⟩
  | .captured label node => by
    obtain ⟨hread, hsub⟩ := node.canonical
    simp only [Clause.tokens_withCapture node.capture_eq_none, List.append_assoc,
      List.singleton_append]
    exact ⟨fun rest' => .captured label (hread (.capture label :: rest')), hsub⟩

theorem NodeOf.canonical {ts rest : List Token} {c : Clause} :
    NodeOf ts c rest →
      (∀ rest', NodeOf (c.tokens ++ rest') c rest') ∧ c.tokens ++ rest ⊆ ts
  | .named kind items => by
    obtain ⟨hchildren, hpredicates, hsub⟩ := items.canonical
    refine ⟨fun rest' => ?_, ?_⟩
    · have h := NodeOf.named kind (hchildren _ _ _ (hpredicates (.closeParen :: rest')))
      simpa [Clause.tokens] using h
    · simpa only [Clause.tokens, Option.toList_none, List.map_nil, List.append_nil]
        using parenthesized_subset _ hsub
  | .anyNamed items => by
    obtain ⟨hchildren, hpredicates, hsub⟩ := items.canonical
    refine ⟨fun rest' => ?_, ?_⟩
    · have h := NodeOf.anyNamed (hchildren _ _ _ (hpredicates (.closeParen :: rest')))
      simpa [Clause.tokens] using h
    · simpa only [Clause.tokens, Option.toList_none, List.map_nil, List.append_nil]
        using parenthesized_subset _ hsub
  | .anonymous literal rest => ⟨fun rest' => .anonymous literal rest', List.Subset.refl _⟩
  | .any rest => ⟨fun rest' => .any rest', List.Subset.refl _⟩

/-- Items are read with their children first and their predicates after, whatever order
they were written in: the children before any items without children, and the predicates
on their own. -/
theorem ItemsOf.canonical {ts rest : List Token} {cs : List Constraint} {ps : List Predicate} :
    ItemsOf ts cs ps rest →
      (∀ ps' mid rest', ItemsOf mid [] ps' rest' →
        ItemsOf (Constraint.tokensAll cs ++ mid) cs ps' rest') ∧
      (∀ rest', ItemsOf (ps.flatMap Predicate.tokens ++ rest') [] ps rest') ∧
      Constraint.tokensAll cs ++ ps.flatMap Predicate.tokens ++ rest ⊆ ts
  | .nil rest => ⟨fun _ _ _ h => h, fun rest' => .nil rest', by simp [Constraint.tokensAll]⟩
  | .field name child items => by
    obtain ⟨hread, hsub⟩ := child.canonical
    obtain ⟨hchildren, hpredicates, hsub'⟩ := items.canonical
    refine ⟨fun ps' mid rest' hmid => ?_, hpredicates, ?_⟩
    · have h := ItemsOf.field name (hread _) (hchildren ps' mid rest' hmid)
      simpa [Constraint.tokensAll] using h
    · obtain ⟨hc, hmid⟩ := List.append_subset.mp hsub
      simp only [Constraint.tokensAll, List.cons_append, List.append_assoc]
      exact List.cons_subset_cons _
        (List.append_subset.mpr ⟨hc, by simpa only [List.append_assoc] using List.Subset.trans hsub' hmid⟩)
  | .absent name items => by
    obtain ⟨hchildren, hpredicates, hsub⟩ := items.canonical
    refine ⟨fun ps' mid rest' hmid => ?_, hpredicates, ?_⟩
    · have h := ItemsOf.absent name (hchildren ps' mid rest' hmid)
      simpa [Constraint.tokensAll] using h
    · simp only [Constraint.tokensAll, List.cons_append, List.append_assoc]
      exact List.cons_subset_cons _ (by simpa only [List.append_assoc] using hsub)
  | .positional child items => by
    obtain ⟨hread, hsub⟩ := child.canonical
    obtain ⟨hchildren, hpredicates, hsub'⟩ := items.canonical
    refine ⟨fun ps' mid rest' hmid => ?_, hpredicates, ?_⟩
    · have h := ItemsOf.positional (hread _) (hchildren ps' mid rest' hmid)
      simpa [Constraint.tokensAll] using h
    · obtain ⟨hc, hmid⟩ := List.append_subset.mp hsub
      simp only [Constraint.tokensAll, List.append_assoc]
      exact List.append_subset.mpr ⟨hc, by simpa only [List.append_assoc] using List.Subset.trans hsub' hmid⟩
  | .predicate pred items => by
    obtain ⟨hread, hsub⟩ := pred.canonical
    obtain ⟨hchildren, hpredicates, hsub'⟩ := items.canonical
    refine ⟨hchildren, fun rest' => ?_, ?_⟩
    · rw [List.flatMap_cons, List.append_assoc]
      exact .predicate (hread _) (hpredicates rest')
    · obtain ⟨hp, hmid⟩ := List.append_subset.mp hsub
      intro t ht
      simp only [List.flatMap_cons, List.mem_append] at ht
      rcases ht with ((hcs | hpt | hps) | hrest)
      · exact hmid (hsub' (by simp [hcs]))
      · exact hp hpt
      · exact hmid (hsub' (by simp [hps]))
      · exact hmid (hsub' (by simp [hrest]))

end

theorem PatternOf.canonical {ts : List Token} {cs : List Clause} (h : PatternOf ts cs) :
    PatternOf (cs.flatMap Clause.tokens) cs ∧ cs.flatMap Clause.tokens ⊆ ts := by
  induction h with
  | last clause =>
    obtain ⟨hread, hsub⟩ := clause.canonical
    exact ⟨.last (by simpa using hread []), by simpa using hsub⟩
  | cons clause more ih =>
    obtain ⟨hread, hsub⟩ := clause.canonical
    obtain ⟨hmore, hsub'⟩ := ih
    obtain ⟨hc, hrest⟩ := List.append_subset.mp hsub
    exact ⟨.cons (hread _) hmore, by simpa using List.append_subset.mpr ⟨hc, List.Subset.trans hsub' hrest⟩⟩

/-! ### Canonical text lexes to the canonical tokens -/

theorem Delimited.space (w : List Char) : Delimited (' ' :: w) := .inl rfl

/-- The text of a predicate, once its name, capture and operand are written out. -/
theorem lexes_predicateText {name capture : String} {w : List Char} {t : Token}
    (hname : (Token.predicate name).Lexable) (hcapture : (Token.capture capture).Lexable)
    (hoperand : Lexes w [t]) :
    Lexes ('(' :: '#' :: (name.toList ++ ' ' :: '@' :: (capture.toList ++ ' ' :: (w ++ [')']))))
      [.openParen, .predicate name, .capture capture, t, .closeParen] :=
  Lexes.openParen <|
    Lexes.append (lexes_sigil (.predicate name) hname)
      (Lexes.blank ' ' rfl <| Lexes.append (lexes_sigil (.capture capture) hcapture)
        (Lexes.blank ' ' rfl <| Lexes.append hoperand lexes_closeParen (.inr rfl))
        (Delimited.space _))
      (Delimited.space _)

theorem lexes_predicate (p : Predicate) (h : ∀ t ∈ p.tokens, t.Lexable) :
    Lexes p.render.toList p.tokens := by
  cases p with
  | eq capture operand negate =>
    have hname : (Token.predicate (negatedName negate "eq?")).Lexable := h _ (by simp [Predicate.tokens])
    have hcapture : (Token.capture capture).Lexable := h _ (by simp [Predicate.tokens])
    cases operand with
    | capture other =>
      have hother : (Token.capture other).Lexable := h _ (by simp [Predicate.tokens, Operand.token])
      have := lexes_predicateText hname hcapture (lexes_sigil (.capture other) hother)
      cases negate <;> simpa [Predicate.render, Predicate.tokens, negatedName, Operand.token] using this
    | text value =>
      have := lexes_predicateText hname hcapture (lexes_quote value)
      cases negate <;> simpa [Predicate.render, Predicate.tokens, negatedName, Operand.token] using this
  | regex capture re negate =>
    have hname : (Token.predicate (negatedName negate "match?")).Lexable := h _ (by simp [Predicate.tokens])
    have hcapture : (Token.capture capture).Lexable := h _ (by simp [Predicate.tokens])
    have := lexes_predicateText hname hcapture (lexes_quote re.source)
    cases negate <;> simpa [Predicate.render, Predicate.tokens, negatedName] using this

/-- The text of predicates, each after a space. -/
theorem lexes_predicates (ps : List Predicate) (h : ∀ t ∈ ps.flatMap Predicate.tokens, t.Lexable) :
    Lexes (String.join (ps.map fun p => " " ++ p.render)).toList (ps.flatMap Predicate.tokens) ∧
      Delimited (String.join (ps.map fun p => " " ++ p.render)).toList := by
  induction ps with
  | nil => exact ⟨by simpa using Lexes.nil, by simp [Delimited]⟩
  | cons p ps ih =>
    have hp : ∀ t ∈ p.tokens, t.Lexable := fun t ht => h t (by simp [ht])
    obtain ⟨hps, hd⟩ := ih fun t ht => h t (by simp [ht])
    have := Lexes.blank ' ' rfl (Lexes.append (lexes_predicate p hp) hps hd)
    exact ⟨by simpa using this, by simp [Delimited.space]⟩

/-- A clause's text and tokens are those of its node, then those of its capture. -/
theorem Clause.render_mk (node : NodeTest) (children : List Constraint)
    (predicates : List Predicate) (capture : Option String) :
    (Clause.mk node children predicates capture).render =
      (Clause.mk node children predicates none).render ++ capture.elim "" (" @" ++ ·) := by
  cases capture <;> simp [Clause.render]

theorem Clause.tokens_mk (node : NodeTest) (children : List Constraint)
    (predicates : List Predicate) (capture : Option String) :
    (Clause.mk node children predicates capture).tokens =
      (Clause.mk node children predicates none).tokens ++ capture.toList.map Token.capture := by
  simp [Clause.tokens]

/-- The text a capture label adds after its node. -/
theorem lexes_label (capture : Option String)
    (h : ∀ t ∈ capture.toList.map Token.capture, t.Lexable) :
    Lexes (capture.elim "" (" @" ++ ·)).toList (capture.toList.map Token.capture) ∧
      Delimited (capture.elim "" (" @" ++ ·)).toList := by
  cases capture with
  | none => exact ⟨Lexes.nil, trivial⟩
  | some label =>
    have hlabel : (Token.capture label).Lexable := h _ (by simp)
    exact ⟨by simpa using Lexes.blank ' ' rfl (lexes_sigil (.capture label) hlabel),
      by simp [Delimited.space]⟩

theorem delimited_renderAll (cs : List Constraint) : Delimited (Constraint.renderAll cs).toList := by
  cases cs with
  | nil => simp [Constraint.renderAll, Delimited]
  | cons c cs => cases c <;> simp [Constraint.renderAll, Delimited.space]

/-- A node in parentheses lexes to `(`, its head, the tokens of its children, then those of
its predicates, and `)`. -/
theorem lexes_parenthesized {w : List Char} {t : Token} {children : List Constraint}
    (predicates : List Predicate) (hhead : Lexes w [t])
    (hchildren : Lexes (Constraint.renderAll children).toList (Constraint.tokensAll children))
    (hpredicates : ∀ t ∈ predicates.flatMap Predicate.tokens, t.Lexable) :
    Lexes ('(' :: (w ++ ((Constraint.renderAll children).toList ++
        ((String.join (predicates.map fun p => " " ++ p.render)).toList ++ [')']))))
      (.openParen :: t :: (Constraint.tokensAll children ++
        (predicates.flatMap Predicate.tokens ++ [.closeParen]))) := by
  obtain ⟨hps, hdp⟩ := lexes_predicates predicates hpredicates
  have hitems := Lexes.append hchildren (Lexes.append hps lexes_closeParen (.inr rfl))
    (hdp.append (.inr rfl))
  exact Lexes.openParen (Lexes.append hhead hitems
    ((delimited_renderAll _).append (hdp.append (.inr rfl))))

mutual

/-- The canonical text of a clause lexes to its canonical tokens, when they are lexable. -/
theorem lexes_render : (c : Clause) → (∀ t ∈ c.tokens, t.Lexable) → Lexes c.render.toList c.tokens
  | .mk node children predicates capture, h => by
    rw [Clause.tokens_mk] at h
    rw [Clause.render_mk, Clause.tokens_mk, String.toList_append]
    obtain ⟨hlabel, hd⟩ := lexes_label capture fun t ht => h t (List.mem_append_right _ ht)
    refine Lexes.append ?_ hlabel hd
    have hnode : ∀ t ∈ (Clause.mk node children predicates none).tokens, t.Lexable :=
      fun t ht => h t (List.mem_append_left _ ht)
    cases node with
    | named kind =>
      have hkind : (Token.kind kind).Lexable := hnode _ (by simp [Clause.tokens])
      have hchildren := lexes_renderAll children fun t ht => hnode t (by simp [Clause.tokens, ht])
      have := lexes_parenthesized predicates (lexes_kind hkind) hchildren fun t ht =>
        hnode t (by simp [Clause.tokens, ht])
      simpa [Clause.render, Clause.tokens] using this
    | anyNamed =>
      have hchildren := lexes_renderAll children fun t ht => hnode t (by simp [Clause.tokens, ht])
      have := lexes_parenthesized predicates lexes_wildcard hchildren fun t ht =>
        hnode t (by simp [Clause.tokens, ht])
      simpa [Clause.render, Clause.tokens] using this
    | anonymous literal => simpa [Clause.render, Clause.tokens] using lexes_quote literal
    | any => simpa [Clause.render, Clause.tokens] using lexes_wildcard

theorem lexes_renderAll : (cs : List Constraint) → (∀ t ∈ Constraint.tokensAll cs, t.Lexable) →
    Lexes (Constraint.renderAll cs).toList (Constraint.tokensAll cs)
  | [], _ => by simpa [Constraint.renderAll, Constraint.tokensAll] using Lexes.nil
  | .field name c :: rest, h => by
    have hname : (Token.field name).Lexable := h _ (by simp [Constraint.tokensAll])
    have hc := lexes_render c fun t ht => h t (by simp [Constraint.tokensAll, ht])
    have hrest := lexes_renderAll rest fun t ht => h t (by simp [Constraint.tokensAll, ht])
    have := Lexes.blank ' ' rfl (Lexes.append (lexes_field hname)
      (Lexes.blank ' ' rfl (Lexes.append hc hrest (delimited_renderAll rest))) (Delimited.space _))
    simpa [Constraint.renderAll, Constraint.tokensAll] using this
  | .positional c :: rest, h => by
    have hc := lexes_render c fun t ht => h t (by simp [Constraint.tokensAll, ht])
    have hrest := lexes_renderAll rest fun t ht => h t (by simp [Constraint.tokensAll, ht])
    have := Lexes.blank ' ' rfl (Lexes.append hc hrest (delimited_renderAll rest))
    simpa [Constraint.renderAll, Constraint.tokensAll] using this
  | .absent name :: rest, h => by
    have hname : (Token.absentField name).Lexable := h _ (by simp [Constraint.tokensAll])
    have hrest := lexes_renderAll rest fun t ht => h t (by simp [Constraint.tokensAll, ht])
    have := Lexes.blank ' ' rfl
      (Lexes.append (lexes_sigil (.absentField name) hname) hrest (delimited_renderAll rest))
    simpa [Constraint.renderAll, Constraint.tokensAll] using this

end

/-- Clauses on lines of their own lex to their canonical tokens one after the other. -/
theorem lexes_clauses (cs : List Clause) (h : ∀ t ∈ cs.flatMap Clause.tokens, t.Lexable) :
    Lexes ("\n".intercalate (cs.map Clause.render)).toList (cs.flatMap Clause.tokens) := by
  induction cs with
  | nil => simpa using Lexes.nil
  | cons c cs ih =>
    have hc := lexes_render c fun t ht => h t (by simp [ht])
    have hcs := ih fun t ht => h t (List.mem_append_right _ ht)
    cases cs with
    | nil => simpa using hc
    | cons d ds =>
      have := Lexes.append hc (Lexes.blank '\n' rfl hcs) (.inl rfl)
      simpa using this

/-- The canonical text of clauses with lexable tokens tokenizes to exactly their tokens. -/
theorem tokenize_render (p : Compiled) (h : ∀ t ∈ p.clauses.flatMap Clause.tokens, t.Lexable) :
    ∃ ls, tokenize p.render = .ok ls ∧ ls.toList.map Lexeme.token = p.clauses.flatMap Clause.tokens := by
  obtain ⟨o, ls, hls, hlex⟩ := lexes_clauses p.clauses h [] trivial 0 #[]
  refine ⟨#[] ++ ls.toArray, ?_, by simpa using hls⟩
  rw [tokenize, Compiled.render, ← List.append_nil ("\n".intercalate _).toList, hlex, lexFrom]

/-- **Canonical text compiles back.**  Compiling the canonical text of a compiled pattern,
for the language and vocabulary it was compiled with, gives the same pattern: the same
clauses, with their predicates, regular expressions and captures, the same capture names and
the same mode, and so the same canonical text. -/
theorem compile_render {text language : String} {V : Vocabulary} {p : Compiled}
    (h : compile text language V = .ok p) : compile p.render language V = .ok p := by
  obtain ⟨ls, htok⟩ := tokenize_eq_ok_of_compile h
  obtain ⟨cs, hpattern, hvalid, rfl⟩ := pattern_of_compile_eq_ok htok h
  obtain ⟨hcanonical, hsub⟩ := hpattern.canonical
  have hlexable : ∀ t ∈ cs.flatMap Clause.tokens, t.Lexable := by
    intro t ht
    obtain ⟨l, hl, rfl⟩ := List.mem_map.mp (hsub ht)
    exact tokenize_lexable htok l hl
  obtain ⟨ls', htok', hls'⟩ :=
    tokenize_render { language, clauses := cs, captureNames := captureNamesOf cs, mode := .all }
      hlexable
  exact compile_eq_ok_of_pattern htok' (hls' ▸ hcanonical) hvalid

/-- A pattern written with its predicate before the children, an escaped quote, an absent
field and a comment compiles, and its canonical text compiles back to it. -/
theorem compile_render_call :
    ∃ p, compile "(call (#not-eq? @f \"a\\\"b\")  (identifier) @f !arguments) @c ; calls" "toy"
        ⟨["call", "identifier"], [], ["arguments"]⟩ = .ok p ∧
      compile p.render "toy" ⟨["call", "identifier"], [], ["arguments"]⟩ = .ok p := by
  have htok : tokenize "(call (#not-eq? @f \"a\\\"b\")  (identifier) @f !arguments) @c ; calls" =
      .ok #[⟨.openParen, 0⟩, ⟨.kind "call", 1⟩, ⟨.openParen, 6⟩, ⟨.predicate "not-eq?", 7⟩,
        ⟨.capture "f", 16⟩, ⟨.text "a\"b", 19⟩, ⟨.closeParen, 25⟩, ⟨.openParen, 28⟩,
        ⟨.kind "identifier", 29⟩, ⟨.closeParen, 39⟩, ⟨.capture "f", 41⟩,
        ⟨.absentField "arguments", 44⟩, ⟨.closeParen, 54⟩, ⟨.capture "c", 56⟩] := by
    simp [tokenize, lexFrom, isBlank, isNameChar, isCaptureChar, isPredicateChar, wordToken,
      readText, escapeChar, Except.map, byteLength, Char.utf8Size]
  have hpattern := PatternOf.last <| ClauseOf.captured "c" <| NodeOf.named "call" <|
    ItemsOf.predicate (PredicateOf.eq true "f" (.text "a\"b") _) <|
    ItemsOf.positional (ClauseOf.captured "f" (NodeOf.named "identifier" (ItemsOf.nil _))) <|
    ItemsOf.absent "arguments" (ItemsOf.nil _)
  have hok : compile "(call (#not-eq? @f \"a\\\"b\")  (identifier) @f !arguments) @c ; calls" "toy"
      ⟨["call", "identifier"], [], ["arguments"]⟩ = .ok _ :=
    compile_eq_ok_of_pattern htok (by simpa [negatedName, Operand.token] using hpattern) (by
      intro c hc
      simp only [List.mem_singleton] at hc
      subst hc
      refine ⟨?known, ?distinct, ?bound⟩
      case known =>
        simp [Clause.withCapture, Clause.KnownIn, Clause.ConstraintsKnownIn, NodeTest.KnownIn,
          Clause.node, Clause.children, Vocabulary.hasNamed, Vocabulary.hasField]
      case distinct =>
        simp [Clause.withCapture, Clause.labels, Clause.constraintLabels, Clause.node,
          Clause.children, Clause.predicates]
      case bound =>
        simp [Clause.withCapture, Clause.labels, Clause.constraintLabels, Clause.predicateCaptures,
          Clause.constraintPredicateCaptures, Predicate.captures, Clause.node, Clause.children,
          Clause.predicates])
  exact ⟨_, hok, compile_render hok⟩

end Pattern
end ShapeSearch
