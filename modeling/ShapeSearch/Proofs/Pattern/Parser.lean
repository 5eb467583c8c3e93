import ShapeSearch.Proofs.Pattern.Grammar
import Mathlib.Data.List.Nodup

/-!
# The pattern parser reads exactly the grammar

Each reader of `Pattern.compile` is shown sound (what it reads is a derivation of the
grammar, and it reports the labels and references of what it read) and complete (on a
derivation whose names the vocabulary knows and whose labels are new, it reads exactly
that derivation).  Soundness goes by strong induction on the number of tokens, which is
what the readers' recursion decreases; completeness by induction on the derivation.

The scope a reader carries is tracked up to order (`Scope.Adds`): captures are bound
after the children they follow, and predicates are interleaved with children, so only
the sets of labels and of references are determined by the clause.

Main statement: `compile_eq_ok_iff`.  For text that tokenizes, compiling succeeds with
`p` exactly when the tokens are a pattern of the grammar, standing for clauses that pass
the vocabulary's checks, and `p` holds those clauses, their capture names and mode `all`.
-/

namespace ShapeSearch

namespace Except

variable {ε α β : Type}

theorem bind_eq_ok {x : Except ε α} {f : α → Except ε β} {b : β} :
    x >>= f = .ok b ↔ ∃ a, x = .ok a ∧ f a = .ok b := by
  cases x <;> simp [bind, Except.bind]

theorem map_eq_ok {x : Except ε α} {f : α → β} {b : β} :
    x.map f = .ok b ↔ ∃ a, x = .ok a ∧ f a = b := by
  cases x <;> simp [Except.map]

end Except

namespace Pattern

theorem map_token_eq_cons {ls : List Lexeme} {t : Token} {toks : List Token}
    (h : ls.map Lexeme.token = t :: toks) :
    ∃ o rest, ls = ⟨t, o⟩ :: rest ∧ rest.map Lexeme.token = toks := by
  cases ls with
  | nil => cases h
  | cons l rest =>
    obtain ⟨tok, o⟩ := l
    simp only [List.map_cons, List.cons.injEq] at h
    obtain ⟨rfl, hrest⟩ := h
    exact ⟨o, rest, rfl, hrest⟩

theorem splitNegation_eq {name : String} {negate : Bool} {base : String}
    (h : splitNegation name = (negate, base)) : name = negatedName negate base := by
  unfold splitNegation at h
  split at h
  · rename_i chars hname
    simp only [Prod.mk.injEq] at h
    obtain ⟨rfl, rfl⟩ := h
    apply String.ext
    rw [hname, negatedName, String.toList_append]
    simp
  · simp only [Prod.mk.injEq] at h
    obtain ⟨rfl, rfl⟩ := h
    rfl

theorem splitNegation_negatedName (negate : Bool) {base : String}
    (hbase : base = "eq?" ∨ base = "match?") :
    splitNegation (negatedName negate base) = (negate, base) := by
  cases negate with
  | false => rcases hbase with rfl | rfl <;> decide
  | true =>
    have hchars : (negatedName true base).toList = 'n' :: 'o' :: 't' :: '-' :: base.toList := by
      rw [negatedName, String.toList_append]
      rfl
    rw [splitNegation, hchars]
    simp

theorem startsWithCapture_map {ls : List Lexeme} :
    startsWithCapture (ls.map Lexeme.token) = true ↔
      ∃ name o rest, ls = ⟨.capture name, o⟩ :: rest := by
  cases ls with
  | nil => simp [startsWithCapture]
  | cons l rest =>
    obtain ⟨tok, o⟩ := l
    cases tok <;> simp [startsWithCapture]

namespace Context

variable (cx : Context)

@[simp] theorem syntaxError_ne_ok {α : Type} (o : Nat) (p : SyntaxProblem) (a : α) :
    cx.syntaxError o p ≠ .ok a := by
  simp [syntaxError]

@[simp] theorem predicateError_ne_ok {α : Type} (o : Nat) (p : PredicateProblem) (a : α) :
    cx.predicateError o p ≠ .ok a := by
  simp [predicateError]

theorem checkField_eq_ok {name : String} {at_ : Nat} {u : Unit} :
    cx.checkField name at_ = .ok u ↔ cx.vocabulary.hasField name = true := by
  unfold checkField
  split <;> simp_all

end Context

section Predicates

variable (cx : Context)

/-- A predicate's arguments are read up to the first `)`, one lexeme each. -/
theorem readArgs_sound {openAt : Nat} {name : String} :
    ∀ {ts : List Lexeme} {args : List (Operand × Nat)} {r : Rest ts},
      readArgs cx openAt name ts = .ok (args, r) →
        ts.map Lexeme.token = args.map (fun a => a.1.token) ++ .closeParen :: r.1.map Lexeme.token
  | [], _, _, h => by simp [readArgs] at h
  | ⟨tok, at_⟩ :: rest, args, r, h => by
    cases tok
    case closeParen =>
      simp only [readArgs, Except.ok.injEq, Prod.mk.injEq] at h
      obtain ⟨rfl, rfl⟩ := h
      rfl
    case capture c =>
      rw [readArgs, Except.map_eq_ok] at h
      obtain ⟨⟨args', r'⟩, h', he⟩ := h
      simp only [Prod.mk.injEq] at he
      obtain ⟨rfl, rfl⟩ := he
      simp [readArgs_sound h', Rest.cons, Operand.token]
    case text s =>
      rw [readArgs, Except.map_eq_ok] at h
      obtain ⟨⟨args', r'⟩, h', he⟩ := h
      simp only [Prod.mk.injEq] at he
      obtain ⟨rfl, rfl⟩ := he
      simp [readArgs_sound h', Rest.cons, Operand.token]
    all_goals simp [readArgs] at h

theorem readArgs_complete {openAt : Nat} {name : String} :
    ∀ (ops : List Operand) {ts : List Lexeme} {rest : List Token},
      ts.map Lexeme.token = ops.map Operand.token ++ .closeParen :: rest →
        ∃ args r, readArgs cx openAt name ts = .ok (args, r) ∧ args.map Prod.fst = ops ∧
          r.1.map Lexeme.token = rest
  | [], ts, rest, h => by
    obtain ⟨o, ts', rfl, hts'⟩ := map_token_eq_cons h
    exact ⟨[], ⟨ts', by simp⟩, by simp [readArgs], rfl, hts'⟩
  | op :: ops, ts, rest, h => by
    rw [List.map_cons, List.cons_append] at h
    obtain ⟨o, ts', rfl, hts'⟩ := map_token_eq_cons h
    obtain ⟨args, r, hread, hargs, hr⟩ := @readArgs_complete openAt name ops _ _ hts'
    refine ⟨(op, o) :: args, r.cons _, ?_, by simp [hargs], hr⟩
    cases op with
    | capture c => simp [Operand.token, readArgs, hread, Except.map]
    | text s => simp [Operand.token, readArgs, hread, Except.map]

theorem captures_argumentCaptures (capture : String) (first : Nat) (second : Operand × Nat)
    (negate : Bool) :
    (argumentCaptures [(.capture capture, first), second]).map Prod.fst =
      (Predicate.eq capture second.1 negate).captures := by
  obtain ⟨op, at_⟩ := second
  cases op <;> rfl

/-- A predicate that reads is one the grammar admits, and it names the captures it reports. -/
theorem readPredicate_sound {openAt nameAt : Nat} {name : String} {ts : List Lexeme}
    {p : Predicate} {refs : List (String × Nat)} {r : Rest ts}
    (h : readPredicate cx openAt name nameAt ts = .ok (p, refs, r)) :
    PredicateOf (.openParen :: .predicate name :: ts.map Lexeme.token) p (r.1.map Lexeme.token) ∧
      refs.map Prod.fst = p.captures := by
  unfold readPredicate at h
  obtain ⟨⟨given, r'⟩, hargs, h⟩ := Except.bind_eq_ok.mp h
  have hts := readArgs_sound cx hargs
  rcases hsplit : splitNegation name with ⟨negate, base⟩
  have hname := splitNegation_eq hsplit
  simp only [hsplit] at h
  split at h
  · rename_i capture first second secondAt
    split at h
    · rename_i hbase
      simp only [pure, Except.pure, Except.ok.injEq, Prod.mk.injEq] at h
      obtain ⟨rfl, rfl, rfl⟩ := h
      rw [beq_iff_eq] at hbase
      subst hbase hname
      simp only [List.map_cons, List.map_nil, List.cons_append, List.nil_append] at hts
      refine ⟨?_, captures_argumentCaptures capture first (second, secondAt) negate⟩
      rw [hts]
      exact PredicateOf.eq negate capture second _
    · split at h
      · rename_i hbase
        split at h
        · rename_i source
          split at h
          · rename_i re hre
            simp only [pure, Except.pure, Except.ok.injEq, Prod.mk.injEq] at h
            obtain ⟨rfl, rfl, rfl⟩ := h
            rw [beq_iff_eq] at hbase
            subst hbase hname
            simp only [List.map_cons, List.map_nil, List.cons_append, List.nil_append,
              Operand.token] at hts
            refine ⟨?_, rfl⟩
            rw [hts]
            exact PredicateOf.regex negate capture source re _ hre
          · cases h
        · simp at h
      · simp at h
  · simp at h
  · simp at h

theorem readPredicate_complete {openAt nameAt : Nat} {name : String} {ts : List Lexeme}
    {toks rest : List Token} {p : Predicate}
    (h : PredicateOf (.openParen :: .predicate name :: toks) p rest)
    (hts : ts.map Lexeme.token = toks) :
    ∃ refs r, readPredicate cx openAt name nameAt ts = .ok (p, refs, r) ∧
      r.1.map Lexeme.token = rest ∧ refs.map Prod.fst = p.captures := by
  cases h with
  | eq negate capture operand rest =>
    obtain ⟨args, r, hargs, hfst, hr⟩ :=
      readArgs_complete cx [.capture capture, operand] (by simpa [Operand.token] using hts)
    rcases args with _ | ⟨⟨o1, a1⟩, _ | ⟨⟨o2, a2⟩, _ | ⟨x, xs⟩⟩⟩ <;> simp at hfst
    obtain ⟨rfl, rfl⟩ := hfst
    refine ⟨_, r, ?_, hr, captures_argumentCaptures capture a1 (o2, a2) negate⟩
    rw [readPredicate, hargs]
    simp [bind, Except.bind, splitNegation_negatedName negate (.inl rfl), pure, Except.pure]
  | regex negate capture source re rest hre =>
    obtain ⟨args, r, hargs, hfst, hr⟩ :=
      readArgs_complete cx [.capture capture, .text source] (by simpa [Operand.token] using hts)
    rcases args with _ | ⟨⟨o1, a1⟩, _ | ⟨⟨o2, a2⟩, _ | ⟨x, xs⟩⟩⟩ <;> simp at hfst
    obtain ⟨rfl, rfl⟩ := hfst
    refine ⟨argumentCaptures [(.capture capture, a1), (.text source, a2)], r, ?_, hr, rfl⟩
    rw [readPredicate, hargs]
    simp [bind, Except.bind, splitNegation_negatedName negate (.inr rfl), pure, Except.pure, hre]

end Predicates

/-! ### The scope -/

namespace Scope

/-- What reading a piece of a clause adds to the scope: the labels it binds and the
captures its predicates name, each up to order. -/
structure Adds (sc sc' : Scope) (labels refs : List String) : Prop where
  bound : sc'.bound.Perm (sc.bound ++ labels)
  referenced : (sc'.referenced.map Prod.fst).Perm (sc.referenced.map Prod.fst ++ refs)

namespace Adds

variable {sc sc' sc'' : Scope} {labels refs labels' refs' : List String}

theorem refl (sc : Scope) : sc.Adds sc [] [] :=
  ⟨by simp, by simp⟩

theorem trans (h : sc.Adds sc' labels refs) (h' : sc'.Adds sc'' labels' refs') :
    sc.Adds sc'' (labels ++ labels') (refs ++ refs') where
  bound := by
    rw [← List.append_assoc]
    exact h'.bound.trans (h.bound.append_right labels')
  referenced := by
    rw [← List.append_assoc]
    exact h'.referenced.trans (h.referenced.append_right refs')

theorem perm (h : sc.Adds sc' labels refs) (hl : labels.Perm labels') (hr : refs.Perm refs') :
    sc.Adds sc' labels' refs' where
  bound := h.bound.trans (hl.append_left sc.bound)
  referenced := h.referenced.trans (hr.append_left _)

theorem bind (sc : Scope) (name : String) :
    sc.Adds { sc with bound := sc.bound ++ [name] } [name] [] :=
  ⟨List.Perm.refl _, by simp⟩

theorem refer (sc : Scope) (refs : List (String × Nat)) :
    sc.Adds { sc with referenced := sc.referenced ++ refs } [] (refs.map Prod.fst) :=
  ⟨by simp, by simp⟩

/-- Labels new to a scope, together with what a reading adds to it, are new to the scope
after the reading. -/
theorem nodup (h : sc.Adds sc' labels refs) {more : List String}
    (hn : (sc.bound ++ labels ++ more).Nodup) : (sc'.bound ++ more).Nodup :=
  ((h.bound.append_right more).nodup_iff).mpr hn

end Adds

end Scope

/-! ### The capture after a node -/

section Capture

variable (cx : Context)

theorem readCapture_sound {ts : List Lexeme} {clause c : Clause} {sc sc' : Scope}
    {r r' : Rest ts} (h : readCapture cx clause sc r = .ok (c, sc', r')) :
    (startsWithCapture (r.1.map Lexeme.token) = false ∧ c = clause ∧ sc' = sc ∧ r' = r) ∨
      ∃ name capAt, r.1 = ⟨.capture name, capAt⟩ :: r'.1 ∧
        startsWithCapture (r'.1.map Lexeme.token) = false ∧ name ∉ sc.bound ∧
        c = clause.withCapture name ∧ sc' = { sc with bound := sc.bound ++ [name] } := by
  unfold readCapture at h
  split at h
  · rename_i name capAt more hlt
    split at h
    · simp at h
    · rename_i hnext
      split at h
      · cases h
      · rename_i hfresh
        simp only [Except.ok.injEq, Prod.mk.injEq] at h
        obtain ⟨rfl, rfl, rfl⟩ := h
        refine .inr ⟨name, capAt, rfl, ?_, by simpa using hfresh, rfl, rfl⟩
        refine Bool.eq_false_iff.mpr fun hc => ?_
        obtain ⟨other, o, more', rfl⟩ := startsWithCapture_map.mp hc
        exact hnext other o rfl
  · rename_i hnot
    simp only [Except.ok.injEq, Prod.mk.injEq] at h
    obtain ⟨rfl, rfl, rfl⟩ := h
    refine .inl ⟨?_, rfl, rfl, rfl⟩
    refine Bool.eq_false_iff.mpr fun hc => ?_
    obtain ⟨name, o, more, hr⟩ := startsWithCapture_map.mp hc
    exact hnot name o more (hr ▸ r.2) (Subtype.ext hr)

theorem readCapture_plain {ts : List Lexeme} {clause : Clause} {sc : Scope} {r : Rest ts}
    (hr : startsWithCapture (r.1.map Lexeme.token) = false) :
    readCapture cx clause sc r = .ok (clause, sc, r) := by
  unfold readCapture
  split
  · rename_i name capAt more hlt
    simp [startsWithCapture] at hr
  · rfl

theorem readCapture_captured {ts : List Lexeme} (clause : Clause) {sc : Scope} {r : Rest ts}
    {name : String} {capAt : Nat} {more : List Lexeme}
    (hr : r.1 = ⟨.capture name, capAt⟩ :: more)
    (hmore : startsWithCapture (more.map Lexeme.token) = false) (hfresh : name ∉ sc.bound) :
    ∃ r' : Rest ts, r'.1 = more ∧
      readCapture cx clause sc r =
        .ok (clause.withCapture name, { sc with bound := sc.bound ++ [name] }, r') := by
  obtain ⟨rl, hrl⟩ := r
  simp only at hr
  subst hr
  refine ⟨⟨more, Nat.lt_of_succ_lt hrl⟩, rfl, ?_⟩
  have hhead : ∀ other o, more.head? ≠ some ⟨.capture other, o⟩ := by
    intro other o hm
    cases more with
    | nil => cases hm
    | cons l more' =>
      simp only [List.head?_cons, Option.some.injEq] at hm
      subst hm
      simp [startsWithCapture] at hmore
  unfold readCapture
  cases hm : more.head? with
  | none => simp [hfresh]
  | some l =>
    obtain ⟨tok, o⟩ := l
    cases tok
    case capture other => exact absurd hm (hhead other o)
    all_goals simp [hfresh]

end Capture

/-! ### Soundness -/

/-- What a successful reading of `ls` from scope `sc`, giving `c`, the scope `sc'` and the
tokens `rest`, guarantees; `D` is the grammar relation the reader answers to. -/
structure Reads (D : List Token → Clause → List Token → Prop) (V : Vocabulary) (sc : Scope)
    (ls : List Lexeme) (c : Clause) (sc' : Scope) (rest : List Lexeme) : Prop where
  derives : D (ls.map Lexeme.token) c (rest.map Lexeme.token)
  known : c.KnownIn V
  adds : sc.Adds sc' c.labels c.predicateCaptures
  nodup : sc.bound.Nodup → sc'.bound.Nodup

/-- What a successful reading of the items of a node guarantees: they stand for the child
constraints `cs` and the predicates `ps`, and the node's `)` follows them. -/
structure ReadsItems (V : Vocabulary) (sc : Scope) (ls : List Lexeme) (cs : List Constraint)
    (ps : List Predicate) (sc' : Scope) (rest : List Lexeme) : Prop where
  derives : ItemsOf (ls.map Lexeme.token) cs ps (.closeParen :: rest.map Lexeme.token)
  known : Clause.ConstraintsKnownIn V cs
  adds : sc.Adds sc' (Clause.constraintLabels cs)
    (ps.flatMap Predicate.captures ++ Clause.constraintPredicateCaptures cs)
  nodup : sc.bound.Nodup → sc'.bound.Nodup

section Soundness

variable (cx : Context)

/-- The clause reader is sound on `ls`. -/
def ClauseSound (ls : List Lexeme) : Prop :=
  ∀ sc c sc' (r : Rest ls), readClause cx sc ls = .ok (c, sc', r) →
    Reads ClauseOf cx.vocabulary sc ls c sc' r.1

/-- The node reader is sound on `ls`. -/
def NodeSound (ls : List Lexeme) : Prop :=
  ∀ sc c sc' (r : Rest ls), readNode cx sc ls = .ok (c, sc', r) →
    Reads NodeOf cx.vocabulary sc ls c sc' r.1

/-- The reader of a node's body, after its `(`, is sound on `ls`. -/
def BodySound (ls : List Lexeme) : Prop :=
  ∀ openAt sc c sc' (r : Rest ls), readBody cx openAt sc ls = .ok (c, sc', r) →
    Reads (fun ts => NodeOf (.openParen :: ts)) cx.vocabulary sc ls c sc' r.1

/-- The items reader is sound on `ls`: what it read extends the constraints and predicates
it was given. -/
def ItemsSound (ls : List Lexeme) : Prop :=
  ∀ openAt node children predicates sc c sc' (r : Rest ls),
    readItems cx openAt node children predicates sc ls = .ok (c, sc', r) →
      ∃ cs ps, c = .mk node (children ++ cs) (predicates ++ ps) none ∧
        ReadsItems cx.vocabulary sc ls cs ps sc' r.1

theorem readClause_sound {ls : List Lexeme} (hnode : NodeSound cx ls) : ClauseSound cx ls := by
  intro sc c sc' r h
  rw [readClause] at h
  obtain ⟨⟨clause, sc1, r1⟩, hread, hcap⟩ := Except.bind_eq_ok.mp h
  dsimp only at hcap
  have hn := hnode sc clause sc1 r1 hread
  rcases readCapture_sound cx hcap with
    ⟨-, rfl, rfl, rfl⟩ | ⟨name, capAt, hr1, -, hfresh, rfl, rfl⟩
  · exact ⟨.plain hn.derives, hn.known, hn.adds, hn.nodup⟩
  · have hnone := hn.derives.capture_eq_none
    refine ⟨?_, (Clause.knownIn_withCapture clause name).mpr hn.known, ?_, ?_⟩
    · have hd := hn.derives
      rw [hr1] at hd
      exact .captured name hd
    · rw [Clause.labels_withCapture hnone, Clause.predicateCaptures_withCapture]
      exact (hn.adds.trans (Scope.Adds.bind sc1 name)).perm (List.perm_append_singleton _ _)
        (by simp)
    · intro hsc
      simp only [List.nodup_append, List.nodup_cons, List.not_mem_nil, List.nodup_nil]
      simpa using ⟨hn.nodup hsc, fun a ha (hna : a = name) => hfresh (hna ▸ ha)⟩

theorem readNode_sound {ls : List Lexeme}
    (hbody : ∀ rest, rest.length < ls.length → BodySound cx rest) : NodeSound cx ls := by
  intro sc c sc' r h
  rw [readNode.eq_def] at h
  split at h
  · simp at h
  · rename_i at_ rest
    obtain ⟨⟨c1, sc1, r1⟩, hread, he⟩ := Except.map_eq_ok.mp h
    simp only [Prod.mk.injEq] at he
    obtain ⟨rfl, rfl, rfl⟩ := he
    have hb := hbody rest (by simp) at_ sc c1 sc1 r1 hread
    exact ⟨hb.derives, hb.known, hb.adds, hb.nodup⟩
  · rename_i literal at_ rest
    split at h
    · rename_i hknown
      simp only [Except.ok.injEq, Prod.mk.injEq] at h
      obtain ⟨rfl, rfl, rfl⟩ := h
      exact ⟨.anonymous literal _, ⟨hknown, trivial⟩, Scope.Adds.refl sc, id⟩
    · cases h
  · rename_i at_ rest
    simp only [Except.ok.injEq, Prod.mk.injEq] at h
    obtain ⟨rfl, rfl, rfl⟩ := h
    exact ⟨.any _, ⟨trivial, trivial⟩, Scope.Adds.refl sc, id⟩
  all_goals simp at h

theorem readBody_sound {ls : List Lexeme}
    (hitems : ∀ rest, rest.length < ls.length → ItemsSound cx rest) : BodySound cx ls := by
  intro openAt sc c sc' r h
  rw [readBody.eq_def] at h
  split at h
  · simp at h
  · rename_i at_ rest
    obtain ⟨⟨c1, sc1, r1⟩, hread, he⟩ := Except.map_eq_ok.mp h
    simp only [Prod.mk.injEq] at he
    obtain ⟨rfl, rfl, rfl⟩ := he
    obtain ⟨cs, ps, rfl, hi⟩ := hitems rest (by simp) openAt .anyNamed [] [] sc c1 sc1 r1 hread
    exact ⟨.anyNamed hi.derives, ⟨trivial, hi.known⟩, hi.adds, hi.nodup⟩
  · rename_i k at_ rest
    split at h
    · rename_i hknown
      obtain ⟨⟨c1, sc1, r1⟩, hread, he⟩ := Except.map_eq_ok.mp h
      simp only [Prod.mk.injEq] at he
      obtain ⟨rfl, rfl, rfl⟩ := he
      obtain ⟨cs, ps, rfl, hi⟩ :=
        hitems rest (by simp) openAt (.named k) [] [] sc c1 sc1 r1 hread
      exact ⟨.named k hi.derives, ⟨hknown, hi.known⟩, hi.adds, hi.nodup⟩
    · cases h
  · simp at h

theorem readItems_sound {ls : List Lexeme} (hclause : ClauseSound cx ls)
    (hshort : ∀ ls', ls'.length < ls.length → ClauseSound cx ls' ∧ ItemsSound cx ls') :
    ItemsSound cx ls := by
  intro openAt node children predicates sc c sc' r h
  rw [readItems.eq_def] at h
  split at h
  · simp at h
  · rename_i o rest
    simp only [Except.ok.injEq, Prod.mk.injEq] at h
    obtain ⟨rfl, rfl, rfl⟩ := h
    exact ⟨[], [], by simp, .nil _, trivial, Scope.Adds.refl sc, id⟩
  · rename_i name at_ rest
    obtain ⟨u, hfield, h⟩ := Except.bind_eq_ok.mp h
    obtain ⟨⟨child, sc1, r1⟩, hread, h⟩ := Except.bind_eq_ok.mp h
    obtain ⟨⟨c2, sc2, r2⟩, hread2, h⟩ := Except.bind_eq_ok.mp h
    simp only [pure, Except.pure, Except.ok.injEq, Prod.mk.injEq] at h
    obtain ⟨rfl, rfl, rfl⟩ := h
    have hc := (hshort rest (by simp)).1 sc child sc1 r1 hread
    have hlt : r1.1.length < (⟨.field name, at_⟩ :: rest).length := by
      have := r1.2
      simp only [List.length_cons]
      omega
    obtain ⟨cs, ps, rfl, hi⟩ := (hshort r1.1 hlt).2 openAt node _ predicates sc1 c2 sc2 r2 hread2
    refine ⟨.field name child :: cs, ps, by simp, .field name hc.derives hi.derives,
      ⟨(cx.checkField_eq_ok).mp hfield, hc.known, hi.known⟩, ?_, fun h => hi.nodup (hc.nodup h)⟩
    refine (hc.adds.trans hi.adds).perm (List.Perm.refl _) ?_
    exact List.perm_append_comm_assoc _ _ _
  · rename_i name at_ rest
    obtain ⟨u, hfield, h⟩ := Except.bind_eq_ok.mp h
    obtain ⟨⟨c2, sc2, r2⟩, hread2, h⟩ := Except.bind_eq_ok.mp h
    simp only [pure, Except.pure, Except.ok.injEq, Prod.mk.injEq] at h
    obtain ⟨rfl, rfl, rfl⟩ := h
    obtain ⟨cs, ps, rfl, hi⟩ :=
      (hshort rest (by simp)).2 openAt node _ predicates sc c2 sc2 r2 hread2
    exact ⟨.absent name :: cs, ps, by simp, .absent name hi.derives,
      ⟨(cx.checkField_eq_ok).mp hfield, hi.known⟩, hi.adds, hi.nodup⟩
  · rename_i predAt name nameAt rest
    obtain ⟨⟨p, refs, r1⟩, hread, h⟩ := Except.bind_eq_ok.mp h
    obtain ⟨⟨c2, sc2, r2⟩, hread2, h⟩ := Except.bind_eq_ok.mp h
    simp only [pure, Except.pure, Except.ok.injEq, Prod.mk.injEq] at h
    obtain ⟨rfl, rfl, rfl⟩ := h
    obtain ⟨hp, hrefs⟩ := readPredicate_sound cx hread
    have hlt : r1.1.length < (⟨.openParen, predAt⟩ :: ⟨.predicate name, nameAt⟩ :: rest).length := by
      have := r1.2
      simp only [List.length_cons]
      omega
    obtain ⟨cs, ps, rfl, hi⟩ := (hshort r1.1 hlt).2 openAt node children _ _ c2 sc2 r2 hread2
    refine ⟨cs, p :: ps, by simp, .predicate hp hi.derives, hi.known, ?_, hi.nodup⟩
    refine ((Scope.Adds.refer sc refs).trans hi.adds).perm (by simp) ?_
    simp [hrefs]
  · obtain ⟨⟨child, sc1, r1⟩, hread, h⟩ := Except.bind_eq_ok.mp h
    obtain ⟨⟨c2, sc2, r2⟩, hread2, h⟩ := Except.bind_eq_ok.mp h
    simp only [pure, Except.pure, Except.ok.injEq, Prod.mk.injEq] at h
    obtain ⟨rfl, rfl, rfl⟩ := h
    have hc := hclause sc child sc1 r1 hread
    obtain ⟨cs, ps, rfl, hi⟩ := (hshort r1.1 r1.2).2 openAt node _ predicates sc1 c2 sc2 r2 hread2
    refine ⟨.positional child :: cs, ps, by simp, .positional hc.derives hi.derives,
      ⟨hc.known, hi.known⟩, ?_, fun h => hi.nodup (hc.nodup h)⟩
    refine (hc.adds.trans hi.adds).perm (List.Perm.refl _) ?_
    exact List.perm_append_comm_assoc _ _ _

/-- Every reader is sound, on every token list: by strong induction on its length, the
items of a node being read, on the same tokens, after the clause reader. -/
theorem reads_sound (ls : List Lexeme) :
    ClauseSound cx ls ∧ NodeSound cx ls ∧ BodySound cx ls ∧ ItemsSound cx ls := by
  induction hn : ls.length using Nat.strongRecOn generalizing ls with
  | _ n ih =>
    have hshort : ∀ ls' : List Lexeme, ls'.length < ls.length →
        ClauseSound cx ls' ∧ NodeSound cx ls' ∧ BodySound cx ls' ∧ ItemsSound cx ls' :=
      fun ls' hlt => ih ls'.length (hn ▸ hlt) ls' rfl
    have hbody := readBody_sound cx fun rest hlt => (hshort rest hlt).2.2.2
    have hnode := readNode_sound cx fun rest hlt => (hshort rest hlt).2.2.1
    have hclause := readClause_sound cx hnode
    exact ⟨hclause, hnode, hbody,
      readItems_sound cx hclause fun ls' hlt => ⟨(hshort ls' hlt).1, (hshort ls' hlt).2.2.2⟩⟩

end Soundness

/-! ### Completeness -/

section Completeness

variable (cx : Context)

theorem startsWithCapture_of_head {toks : List Token} (h : toks.head? = some .closeParen) :
    startsWithCapture toks = false := by
  cases toks with
  | nil => cases h
  | cons t more =>
    simp only [List.head?_cons, Option.some.injEq] at h
    subst h
    rfl

/-- The items reader hands tokens that start a clause to the clause reader. -/
theorem readItems_of_clause {openAt : Nat} {node : NodeTest} {children : List Constraint}
    {predicates : List Predicate} {sc : Scope} {ls : List Lexeme} {toks mid : List Token}
    {c : Clause} (hls : ls.map Lexeme.token = toks) (hc : ClauseOf toks c mid) :
    readItems cx openAt node children predicates sc ls = (do
      let (child, sc, r) ← readClause cx sc ls
      let (c, sc, r') ← readItems cx openAt node (children ++ [.positional child]) predicates sc r.1
      pure (c, sc, r.trans r')) := by
  obtain ⟨t, more, rfl, hclose, hfield, habsent⟩ := hc.head
  obtain ⟨o, ls', rfl, hls'⟩ := map_token_eq_cons hls
  rw [readItems.eq_6]
  · simp
  · intro o' rest h
    simp only [List.cons.injEq, Lexeme.mk.injEq] at h
    exact hclose h.1.1
  · intro name at_ rest h
    simp only [List.cons.injEq, Lexeme.mk.injEq] at h
    exact hfield name h.1.1
  · intro name at_ rest h
    simp only [List.cons.injEq, Lexeme.mk.injEq] at h
    exact habsent name h.1.1
  · intro predAt name nameAt rest h
    simp only [List.cons.injEq, Lexeme.mk.injEq] at h
    obtain ⟨⟨rfl, -⟩, rfl⟩ := h
    exact hc.not_predicate_start (by simp at hls'; rw [← hls'])

mutual

/-- On a clause whose names the vocabulary knows and whose labels are new, the clause reader
reads exactly that clause, provided no capture follows it. -/
theorem readClause_complete {toks rest : List Token} {c : Clause} :
    ClauseOf toks c rest → ∀ (sc : Scope) (ls : List Lexeme), ls.map Lexeme.token = toks →
      startsWithCapture rest = false → c.KnownIn cx.vocabulary →
      (sc.bound ++ c.labels).Nodup →
      ∃ sc' r, readClause cx sc ls = .ok (c, sc', r) ∧ r.1.map Lexeme.token = rest ∧
        sc.Adds sc' c.labels c.predicateCaptures
  | .plain node, sc, ls, hls, hrest, hknown, hnodup => by
    obtain ⟨sc', r, hread, hr, hadds⟩ := readNode_complete node sc ls hls hknown hnodup
    refine ⟨sc', r, ?_, hr, hadds⟩
    rw [readClause, hread]
    exact readCapture_plain cx (by rw [hr]; exact hrest)
  | @ClauseOf.captured _ c _ label node, sc, ls, hls, hrest, hknown, hnodup => by
    have hnone := node.capture_eq_none
    rw [Clause.labels_withCapture hnone] at hnodup ⊢
    rw [Clause.knownIn_withCapture] at hknown
    rw [Clause.predicateCaptures_withCapture]
    obtain ⟨hfresh, hnodup'⟩ := List.nodup_cons.mp (List.nodup_middle.mp hnodup)
    obtain ⟨sc1, r1, hread, hr1, hadds⟩ := readNode_complete node sc ls hls hknown hnodup'
    obtain ⟨o, more, hr1', hmore⟩ := map_token_eq_cons hr1
    have hfresh1 : label ∉ sc1.bound := fun hmem => hfresh (hadds.bound.mem_iff.mp hmem)
    obtain ⟨r', hr', hcap⟩ :=
      readCapture_captured cx c hr1' (by rw [hmore]; exact hrest) hfresh1
    refine ⟨{ sc1 with bound := sc1.bound ++ [label] }, r', ?_, by rw [hr', hmore], ?_⟩
    · rw [readClause, hread]
      exact hcap
    · exact (hadds.trans (Scope.Adds.bind sc1 label)).perm (List.perm_append_singleton _ _)
        (by simp)

/-- On a node whose names the vocabulary knows and whose labels are new, the node reader
reads exactly that node. -/
theorem readNode_complete {toks rest : List Token} {c : Clause} :
    NodeOf toks c rest → ∀ (sc : Scope) (ls : List Lexeme), ls.map Lexeme.token = toks →
      c.KnownIn cx.vocabulary → (sc.bound ++ c.labels).Nodup →
      ∃ sc' r, readNode cx sc ls = .ok (c, sc', r) ∧ r.1.map Lexeme.token = rest ∧
        sc.Adds sc' c.labels c.predicateCaptures
  | .named kind items, sc, ls, hls, hknown, hnodup => by
    obtain ⟨o1, ls1, rfl, hls1⟩ := map_token_eq_cons hls
    obtain ⟨o2, ls2, rfl, hls2⟩ := map_token_eq_cons hls1
    obtain ⟨hkind, hcs⟩ := hknown
    have hkind' : cx.vocabulary.hasNamed kind = true := hkind
    obtain ⟨sc', r, hread, hr, hadds⟩ :=
      readItems_complete items o1 (.named kind) [] [] sc ls2 hls2 rfl hcs hnodup
    refine ⟨sc', (r.cons _).cons _, ?_, by simpa [Rest.cons] using hr, hadds⟩
    rw [readNode, readBody, if_pos hkind', hread]
    simp [Except.map]
  | .anyNamed items, sc, ls, hls, hknown, hnodup => by
    obtain ⟨o1, ls1, rfl, hls1⟩ := map_token_eq_cons hls
    obtain ⟨o2, ls2, rfl, hls2⟩ := map_token_eq_cons hls1
    obtain ⟨sc', r, hread, hr, hadds⟩ :=
      readItems_complete items o1 .anyNamed [] [] sc ls2 hls2 rfl hknown.2 hnodup
    refine ⟨sc', (r.cons _).cons _, ?_, by simpa [Rest.cons] using hr, hadds⟩
    rw [readNode, readBody, hread]
    simp [Except.map]
  | .anonymous literal rest, sc, ls, hls, hknown, _ => by
    obtain ⟨o, ls', rfl, hls'⟩ := map_token_eq_cons hls
    have hliteral : cx.vocabulary.hasAnonymous literal = true := hknown.1
    refine ⟨sc, ⟨ls', by simp⟩, ?_, hls', Scope.Adds.refl sc⟩
    rw [readNode, if_pos hliteral]
  | .any rest, sc, ls, hls, _, _ => by
    obtain ⟨o, ls', rfl, hls'⟩ := map_token_eq_cons hls
    exact ⟨sc, ⟨ls', by simp⟩, by rw [readNode], hls', Scope.Adds.refl sc⟩

/-- On items followed by `)`, whose names the vocabulary knows and whose labels are new,
the items reader reads exactly those items and the `)`. -/
theorem readItems_complete {toks rest : List Token} {cs : List Constraint}
    {ps : List Predicate} :
    ItemsOf toks cs ps rest → ∀ (openAt : Nat) (node : NodeTest) (children : List Constraint)
      (predicates : List Predicate) (sc : Scope) (ls : List Lexeme),
      ls.map Lexeme.token = toks → rest.head? = some .closeParen →
      Clause.ConstraintsKnownIn cx.vocabulary cs → (sc.bound ++ Clause.constraintLabels cs).Nodup →
      ∃ sc' r, readItems cx openAt node children predicates sc ls =
          .ok (.mk node (children ++ cs) (predicates ++ ps) none, sc', r) ∧
        .closeParen :: r.1.map Lexeme.token = rest ∧
        sc.Adds sc' (Clause.constraintLabels cs)
          (ps.flatMap Predicate.captures ++ Clause.constraintPredicateCaptures cs)
  | .nil rest, openAt, node, children, predicates, sc, ls, hls, hhead, _, _ => by
    obtain ⟨rest', rfl⟩ : ∃ rest', rest = .closeParen :: rest' := by
      cases rest with
      | nil => cases hhead
      | cons t rest' =>
        simp only [List.head?_cons, Option.some.injEq] at hhead
        exact ⟨rest', by rw [hhead]⟩
    obtain ⟨o, ls', rfl, hls'⟩ := map_token_eq_cons hls
    refine ⟨sc, ⟨ls', by simp⟩, ?_, by rw [hls'], Scope.Adds.refl sc⟩
    rw [readItems]
    simp
  | @ItemsOf.field _ _ _ c _ _ name child items, openAt, node, children, predicates, sc, ls, hls, hhead, hknown,
      hnodup => by
    obtain ⟨o, ls1, rfl, hls1⟩ := map_token_eq_cons hls
    obtain ⟨hfield, hkc, hkcs⟩ := hknown
    have hmid := items.not_startsWithCapture (startsWithCapture_of_head hhead)
    have hnodup1 := hnodup.sublist
      ((List.sublist_append_left _ _).append_left sc.bound)
    obtain ⟨sc1, r1, hread1, hr1, hadds1⟩ :=
      readClause_complete child sc ls1 hls1 hmid hkc hnodup1
    obtain ⟨sc2, r2, hread2, hr2, hadds2⟩ :=
      readItems_complete items openAt node (children ++ [.field name c]) predicates sc1 r1.1
        hr1 hhead hkcs
        (hadds1.nodup (by simpa [Clause.constraintLabels, List.append_assoc] using hnodup))
    refine ⟨sc2, (r1.cons _).trans r2, ?_, hr2, ?_⟩
    · rw [readItems]
      simp [Context.checkField, hfield, hread1, hread2, bind, Except.bind, pure, Except.pure,
        Rest.trans]
    · exact (hadds1.trans hadds2).perm (List.Perm.refl _) (List.perm_append_comm_assoc _ _ _)
  | .absent name items, openAt, node, children, predicates, sc, ls, hls, hhead, hknown,
      hnodup => by
    obtain ⟨o, ls1, rfl, hls1⟩ := map_token_eq_cons hls
    obtain ⟨hfield, hkcs⟩ := hknown
    obtain ⟨sc2, r2, hread2, hr2, hadds2⟩ :=
      readItems_complete items openAt node (children ++ [.absent name]) predicates sc ls1
        hls1 hhead hkcs hnodup
    refine ⟨sc2, r2.cons _, ?_, hr2, hadds2⟩
    rw [readItems]
    simp [Context.checkField, hfield, hread2, bind, Except.bind, pure, Except.pure, Rest.cons]
  | @ItemsOf.positional _ _ _ c _ _ child items, openAt, node, children, predicates, sc, ls, hls, hhead, hknown,
      hnodup => by
    obtain ⟨hkc, hkcs⟩ := hknown
    have hmid := items.not_startsWithCapture (startsWithCapture_of_head hhead)
    have hnodup1 := hnodup.sublist
      ((List.sublist_append_left _ _).append_left sc.bound)
    obtain ⟨sc1, r1, hread1, hr1, hadds1⟩ :=
      readClause_complete child sc ls hls hmid hkc hnodup1
    obtain ⟨sc2, r2, hread2, hr2, hadds2⟩ :=
      readItems_complete items openAt node (children ++ [.positional c]) predicates sc1 r1.1
        hr1 hhead hkcs
        (hadds1.nodup (by simpa [Clause.constraintLabels, List.append_assoc] using hnodup))
    refine ⟨sc2, r1.trans r2, ?_, hr2, ?_⟩
    · rw [readItems_of_clause cx hls child]
      simp [hread1, hread2, bind, Except.bind, pure, Except.pure]
    · exact (hadds1.trans hadds2).perm (List.Perm.refl _) (List.perm_append_comm_assoc _ _ _)
  | @ItemsOf.predicate _ _ _ p _ _ pred items, openAt, node, children, predicates, sc, ls, hls, hhead, hknown,
      hnodup => by
    obtain ⟨pname, more, rfl⟩ := pred.head
    obtain ⟨o1, ls1, rfl, hls1⟩ := map_token_eq_cons hls
    obtain ⟨o2, ls2, rfl, hls2⟩ := map_token_eq_cons hls1
    obtain ⟨refs, r1, hread1, hr1, hrefs⟩ := @readPredicate_complete cx o1 o2 pname ls2 _ _ _ pred hls2
    obtain ⟨sc2, r2, hread2, hr2, hadds2⟩ :=
      readItems_complete items openAt node children (predicates ++ [p])
        { sc with referenced := sc.referenced ++ refs } r1.1 hr1 hhead hknown hnodup
    refine ⟨sc2, ((r1.cons _).cons _).trans r2, ?_, hr2, ?_⟩
    · rw [readItems]
      simp [hread1, hread2, bind, Except.bind, pure, Except.pure]
    · refine ((Scope.Adds.refer sc refs).trans hadds2).perm (by simp) ?_
      simp [hrefs]

end

end Completeness

/-! ### Whole patterns -/

section Whole

variable (cx : Context)

theorem checkReferences_eq_ok {sc : Scope} {u : Unit} :
    checkReferences cx sc = .ok u ↔ ∀ ref ∈ sc.referenced, ref.1 ∈ sc.bound := by
  unfold checkReferences
  split
  · rename_i name at_ hfind
    have hmem := List.mem_of_find?_eq_some hfind
    have hnot := List.find?_some hfind
    refine ⟨(fun h => nomatch h), fun hall => absurd (hall _ hmem) ?_⟩
    simpa using hnot
  · rename_i hfind
    refine ⟨fun _ ref hmem => ?_, fun _ => rfl⟩
    have := List.find?_eq_none.mp hfind ref hmem
    simpa using this

/-- A top-level clause read from the empty scope, whose references end up bound, passes the
checks compiling makes. -/
theorem validIn_of_reads {ls rest : List Lexeme} {c : Clause} {sc : Scope}
    (hc : Reads ClauseOf cx.vocabulary ⟨[], []⟩ ls c sc rest)
    (href : ∀ ref ∈ sc.referenced, ref.1 ∈ sc.bound) : c.ValidIn cx.vocabulary where
  known := hc.known
  distinct := by
    have h := hc.adds.bound.nodup_iff.mp (hc.nodup List.nodup_nil)
    simpa using h
  bound := by
    intro name hname
    have hmem : name ∈ sc.referenced.map Prod.fst :=
      hc.adds.referenced.mem_iff.mpr (by simpa using hname)
    obtain ⟨ref, href', rfl⟩ := List.mem_map.mp hmem
    have := hc.adds.bound.mem_iff.mp (href ref href')
    simpa using this

/-- Once a clause whose predicates name only its labels is read, its references are bound. -/
theorem references_bound {c : Clause} {sc : Scope}
    (hadds : Scope.Adds ⟨[], []⟩ sc c.labels c.predicateCaptures)
    (hbound : ∀ name ∈ c.predicateCaptures, name ∈ c.labels) :
    ∀ ref ∈ sc.referenced, ref.1 ∈ sc.bound := by
  intro ref href
  have h1 : ref.1 ∈ sc.referenced.map Prod.fst := List.mem_map_of_mem href
  have h2 := hadds.referenced.mem_iff.mp h1
  simp only [List.map_nil, List.nil_append] at h2
  exact hadds.bound.mem_iff.mpr (by simpa using hbound _ h2)

theorem readPattern_sound (ls : List Lexeme) {cs : List Clause}
    (h : readPattern cx ls = .ok cs) :
    (ls = [] ∧ cs = []) ∨
      (PatternOf (ls.map Lexeme.token) cs ∧ ∀ c ∈ cs, c.ValidIn cx.vocabulary) := by
  induction hn : ls.length using Nat.strongRecOn generalizing ls cs with
  | _ n ih =>
    rw [readPattern.eq_def] at h
    split at h
    · simp only [Except.ok.injEq] at h
      exact .inl ⟨rfl, h.symm⟩
    · simp at h
    · obtain ⟨⟨c, sc, r⟩, hread, h⟩ := Except.bind_eq_ok.mp h
      obtain ⟨u, hcheck, h⟩ := Except.bind_eq_ok.mp h
      obtain ⟨cs', hrest, h⟩ := Except.bind_eq_ok.mp h
      simp only [pure, Except.pure, Except.ok.injEq] at h
      subst h
      have hc := (reads_sound cx ls).1 _ c sc r hread
      have hvalid := validIn_of_reads cx hc ((checkReferences_eq_ok cx).mp hcheck)
      refine .inr ?_
      rcases ih r.1.length (hn ▸ r.2) r.1 hrest rfl with ⟨hr, rfl⟩ | ⟨hp, hv⟩
      · have hd := hc.derives
        rw [hr] at hd
        exact ⟨.last hd, by simpa using hvalid⟩
      · exact ⟨.cons hc.derives hp, List.forall_mem_cons.mpr ⟨hvalid, hv⟩⟩

/-- The pattern reader hands tokens that start a clause to the clause reader. -/
theorem readPattern_of_clause {ls : List Lexeme} {toks rest : List Token} {c : Clause}
    (hls : ls.map Lexeme.token = toks) (hc : ClauseOf toks c rest) :
    readPattern cx ls = (do
      let (clause, sc, r) ← readClause cx ⟨[], []⟩ ls
      checkReferences cx sc
      let clauses ← readPattern cx r.1
      pure (clause :: clauses)) := by
  obtain ⟨t, more, rfl, -, -, -⟩ := hc.head
  obtain ⟨o, ls', rfl, hls'⟩ := map_token_eq_cons hls
  rw [readPattern.eq_3]
  · simp
  · intro at_ name o' rest' h
    simp only [List.cons.injEq, Lexeme.mk.injEq] at h
    obtain ⟨⟨rfl, -⟩, rfl⟩ := h
    exact hc.not_predicate_start (by simp at hls'; rw [← hls'])

theorem readPattern_complete {toks : List Token} {cs : List Clause} (h : PatternOf toks cs) :
    ∀ ls : List Lexeme, ls.map Lexeme.token = toks → (∀ c ∈ cs, c.ValidIn cx.vocabulary) →
      readPattern cx ls = .ok cs := by
  induction h with
  | @last ts c clause =>
    intro ls hls hvalid
    have hv : c.ValidIn cx.vocabulary := hvalid c (List.mem_singleton_self c)
    obtain ⟨sc, r, hread, hr, hadds⟩ :=
      readClause_complete cx clause ⟨[], []⟩ ls hls rfl hv.known (by simpa using hv.distinct)
    have hcheck : checkReferences cx sc = .ok () :=
      (checkReferences_eq_ok cx).mpr (references_bound hadds hv.bound)
    have hnil : r.1 = [] := List.map_eq_nil_iff.mp hr
    rw [readPattern_of_clause cx hls clause, hread]
    simp [bind, Except.bind, hcheck, hnil, readPattern, pure, Except.pure]
  | @cons ts rest c cs clause more ih =>
    intro ls hls hvalid
    have hv : c.ValidIn cx.vocabulary := hvalid c (List.mem_cons_self ..)
    obtain ⟨sc, r, hread, hr, hadds⟩ := readClause_complete cx clause ⟨[], []⟩ ls hls
      more.not_startsWithCapture hv.known (by simpa using hv.distinct)
    have hcheck : checkReferences cx sc = .ok () :=
      (checkReferences_eq_ok cx).mpr (references_bound hadds hv.bound)
    have hmore := ih r.1 hr fun c' hc' => hvalid c' (List.mem_cons_of_mem _ hc')
    rw [readPattern_of_clause cx hls clause, hread]
    simp [bind, Except.bind, hcheck, hmore, pure, Except.pure]

end Whole

theorem PatternOf.ne_nil {toks : List Token} {cs : List Clause} (h : PatternOf toks cs) :
    cs ≠ [] := by
  cases h <;> simp

section Compile

variable {text language : String} {V : Vocabulary} {ls : Array Lexeme}

/-- Compiling text fails where tokenizing it fails. -/
theorem tokenize_eq_ok_of_compile {p : Compiled} (h : compile text language V = .ok p) :
    ∃ ls, tokenize text = .ok ls := by
  cases htok : tokenize text with
  | ok ls => exact ⟨ls, rfl⟩
  | error e =>
    simp only [compile, htok] at h
    nomatch h

/-- Compiling text that tokenizes reads its tokens as a pattern, then refuses no clauses. -/
theorem compile_of_tokenize (h : tokenize text = .ok ls) :
    compile text language V =
      (readPattern ⟨text, V⟩ ls.toList >>= fun clauses =>
        if clauses.isEmpty then .error (.malformed .emptyPattern (Position.ofText text 0))
        else .ok { language, clauses, captureNames := captureNamesOf clauses, mode := .all }) := by
  simp only [compile, h]
  rfl

/-- What compiling accepts is a pattern of the grammar whose clauses pass the checks. -/
theorem pattern_of_compile_eq_ok (h : tokenize text = .ok ls) {p : Compiled}
    (hok : compile text language V = .ok p) :
    ∃ cs, PatternOf (ls.toList.map Lexeme.token) cs ∧ (∀ c ∈ cs, c.ValidIn V) ∧
      p = { language, clauses := cs, captureNames := captureNamesOf cs, mode := .all } := by
  rw [compile_of_tokenize h] at hok
  obtain ⟨cs, hread, hif⟩ := Except.bind_eq_ok.mp hok
  split at hif
  · cases hif
  · rename_i hne
    simp only [Except.ok.injEq] at hif
    rcases readPattern_sound ⟨text, V⟩ ls.toList hread with ⟨-, rfl⟩ | ⟨hp, hv⟩
    · simp at hne
    · exact ⟨cs, hp, hv, hif.symm⟩

/-- A pattern of the grammar whose clauses pass the checks compiles to those clauses. -/
theorem compile_eq_ok_of_pattern (h : tokenize text = .ok ls) {cs : List Clause}
    (hp : PatternOf (ls.toList.map Lexeme.token) cs) (hv : ∀ c ∈ cs, c.ValidIn V) :
    compile text language V =
      .ok { language, clauses := cs, captureNames := captureNamesOf cs, mode := .all } := by
  rw [compile_of_tokenize h, readPattern_complete ⟨text, V⟩ hp ls.toList rfl hv]
  simp [bind, Except.bind, hp.ne_nil]

end Compile

/-- **Compiling reads exactly the grammar.**  For text that tokenizes, compiling succeeds with
`p` exactly when the tokens are a pattern of the grammar standing for clauses that pass the
vocabulary's checks; `p` then holds those clauses, their capture names in order of first
appearance, and mode `all`. -/
theorem compile_eq_ok_iff {text : String} {ls : Array Lexeme} (h : tokenize text = .ok ls)
    (language : String) (V : Vocabulary) (p : Compiled) :
    compile text language V = .ok p ↔
      ∃ cs, PatternOf (ls.toList.map Lexeme.token) cs ∧ (∀ c ∈ cs, c.ValidIn V) ∧
        p = { language, clauses := cs, captureNames := captureNamesOf cs, mode := .all } := by
  constructor
  · exact pattern_of_compile_eq_ok h
  · rintro ⟨cs, hp, hv, rfl⟩
    exact compile_eq_ok_of_pattern h hp hv

theorem compile_eq_ok_iff_identifier :
    ∃ ls, tokenize "(identifier) @id" = .ok ls ∧ ∀ p,
      (compile "(identifier) @id" "toy" ⟨["identifier"], [], []⟩ = .ok p ↔
        ∃ cs, PatternOf (ls.toList.map Lexeme.token) cs ∧
          (∀ c ∈ cs, c.ValidIn ⟨["identifier"], [], []⟩) ∧
          p = { language := "toy", clauses := cs, captureNames := captureNamesOf cs,
                mode := .all }) := by
  have htok : tokenize "(identifier) @id" =
      .ok #[⟨.openParen, 0⟩, ⟨.kind "identifier", 1⟩, ⟨.closeParen, 11⟩, ⟨.capture "id", 13⟩] := by
    simp [tokenize, lexFrom, isBlank, isNameChar, isCaptureChar, wordToken]
  exact ⟨_, htok, compile_eq_ok_iff htok "toy" ⟨["identifier"], [], []⟩⟩

end Pattern
end ShapeSearch
