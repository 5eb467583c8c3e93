import ShapeSearch.Proofs.Grammar.Registry
import ShapeSearch.Search.Run

/-!
# The languages of a searcher

A searcher compiles its pattern once per candidate grammar: the grammar of the override tag,
or every registered grammar in registration order.  This module shows how the candidates are
accounted for and how the walk a run makes agrees with the registry.

* `compileAll_fst` / `compileAll_snd`: the grammars the pattern fits, with their patterns, and
  the others, with their errors, each in candidate order.
* `Searcher.Accounts`: what a searcher built for a list of candidates holds.  The candidates the
  pattern fits are its languages, in registry order, with their patterns; the others are its
  pattern errors, in candidate order; and searching a source fails for want of a pattern exactly
  in the registered languages that are not the searcher's.
* `Walker.accepts_of_mem_entries`: every file a walk lists below a directory root has an
  extension the walk wants.
* `Searcher.walkOptions_accepts`: without an override and extensions of its own, a run wants a
  file exactly when the registry files the file's extension under a tag; so no file a run lists
  below a directory root is skipped for want of a grammar.
-/

namespace ShapeSearch
namespace Search

open Registry

/-! ## Compiling for each candidate -/

/-- The grammars a pattern fits, each with its compiled pattern, in candidate order. -/
theorem compileAll_fst (text : String) (mode : Pattern.MatchMode) (cs : List Grammar) :
    (compileAll text mode cs).1 =
      cs.filterMap fun g => (compileFor text mode g).toOption.map (g.name, ·) := by
  induction cs with
  | nil => rfl
  | cons g cs ih =>
    cases h : compileFor text mode g <;> simp [compileAll, h, ih, Except.toOption]

/-- The grammars a pattern does not fit, each with its error, in candidate order. -/
theorem compileAll_snd (text : String) (mode : Pattern.MatchMode) (cs : List Grammar) :
    (compileAll text mode cs).2 =
      cs.filterMap fun g =>
        match compileFor text mode g with
        | .ok _ => none
        | .error e => some (g.name, e) := by
  induction cs with
  | nil => rfl
  | cons g cs ih =>
    cases h : compileFor text mode g <;> simp [compileAll, h, ih]

/-- A pattern fits none of the candidates exactly when every candidate's compile fails. -/
theorem compileAll_fst_eq_nil_iff (text : String) (mode : Pattern.MatchMode) (cs : List Grammar) :
    (compileAll text mode cs).1 = [] ↔ ∀ g ∈ cs, (compileFor text mode g).toOption = none := by
  rw [compileAll_fst, List.filterMap_eq_nil_iff]
  simp

/-- With candidate names that differ, the pattern a searcher files for a candidate's name is
the candidate's compiled pattern, or nothing when it does not compile. -/
theorem find_compileAll_fst (text : String) (mode : Pattern.MatchMode) {g : Grammar} :
    ∀ {cs : List Grammar}, (cs.map (·.name)).Nodup → g ∈ cs →
      (((compileAll text mode cs).1.find? (·.1 == g.name)).map (·.2)) =
        (compileFor text mode g).toOption
  | [], _, hg => absurd hg (List.not_mem_nil)
  | c :: cs, hnd, hg => by
    rw [List.map_cons, List.nodup_cons] at hnd
    have hrest : ∀ x ∈ (compileAll text mode cs).1, x.1 ≠ c.name := by
      intro x hx hxc
      rw [compileAll_fst, List.mem_filterMap] at hx
      obtain ⟨c', hc', hx'⟩ := hx
      obtain ⟨p, -, rfl⟩ := Option.map_eq_some_iff.mp hx'
      exact hnd.1 (hxc ▸ List.mem_map_of_mem hc')
    rcases List.mem_cons.mp hg with rfl | hg
    · have hnone : (compileAll text mode cs).1.find? (·.1 == g.name) = none :=
        List.find?_eq_none.mpr fun x hx hxe => hrest x hx (by simpa using hxe)
      cases hc : compileFor text mode g <;> simp [compileAll, hc, hnone, Except.toOption]
    · have hne : c.name ≠ g.name := fun h => hnd.1 (h ▸ List.mem_map_of_mem hg)
      have ih := find_compileAll_fst text mode hnd.2 hg
      cases hc : compileFor text mode c <;> simp [compileAll, hc, hne, ih]

/-! ## Building a searcher -/

namespace Searcher

variable {r : Registry} {text : String} {o : Options}

/-- Without candidates, building fails with the candidates' error. -/
theorem new_of_candidates_error {e : Error} (h : candidates r o = .error e) :
    Searcher.new r text o = .error e := by
  simp [Searcher.new, h, bind, Except.bind]

/-- For the candidates `cs`, building fails when the pattern fits none of them: with the first
candidate's error, or with an unsupported language when there is no candidate. -/
theorem new_eq_error_iff {cs : List Grammar} (h : candidates r o = .ok cs) (e : Error) :
    Searcher.new r text o = .error e ↔
      (compileAll text o.mode cs).1 = [] ∧
        e = match (compileAll text o.mode cs).2 with
          | (_, pe) :: _ => .pattern pe
          | [] => .unsupportedLanguage "no languages registered" := by
  simp only [Searcher.new, h, bind, Except.bind]
  cases hfst : (compileAll text o.mode cs).1 with
  | cons x xs => simp [pure, Except.pure]
  | nil =>
    cases hsnd : (compileAll text o.mode cs).2 with
    | nil => simp [throw, throwThe, MonadExceptOf.throw, eq_comm]
    | cons y ys => simp [throw, throwThe, MonadExceptOf.throw, eq_comm]

/-- For the candidates `cs`, building succeeds when the pattern fits one of them, and the
searcher keeps the registry, the options, and the two halves of the split. -/
theorem new_eq_ok_iff {cs : List Grammar} (h : candidates r o = .ok cs) (s : Searcher) :
    Searcher.new r text o = .ok s ↔
      (compileAll text o.mode cs).1 ≠ [] ∧
        s = { registry := r, patterns := (compileAll text o.mode cs).1,
              patternErrors := (compileAll text o.mode cs).2, options := o } := by
  simp only [Searcher.new, h, bind, Except.bind]
  cases hfst : (compileAll text o.mode cs).1 with
  | cons x xs => simp [pure, Except.pure, eq_comm]
  | nil =>
    cases hsnd : (compileAll text o.mode cs).2 <;> simp [throw, throwThe, MonadExceptOf.throw]

/-! ## Searching a source -/

/-- Parsing fails only with a parse failure: a grammar's parser reports nothing else. -/
theorem parse_eq_error {g : Grammar} {bytes : ByteArray} {limit : Option Duration} {e : Error}
    (h : g.parse bytes limit = .error e) : ∃ f, e = .parse f := by
  unfold Grammar.parse TreeParser.parse at h
  split at h
  · cases h
  · cases h
    exact ⟨_, rfl⟩

/-- A registered tag is one of the searcher's languages exactly when the searcher has a pattern
for it. -/
theorem mem_languages_iff_pattern (s : Searcher) {tag : String} (htag : tag ∈ s.registry.languages) :
    tag ∈ s.languages ↔ (s.pattern? tag).isSome := by
  simp [Searcher.languages, pattern?, htag, List.find?_isSome]

/-- **Sources without a pattern.**  In a registry whose grammars are filed under their own,
lowercase names, searching a source in a registered language fails for want of a pattern
exactly when the language is not one of the searcher's. -/
theorem searchSource_eq_unavailable_iff (s : Searcher) (hr : s.registry.Filed)
    (hlower : ∀ g ∈ s.registry.grammarList, g.name.toLower = g.name)
    {tag : String} (htag : tag ∈ s.registry.languages) (bytes : ByteArray) :
    s.searchSource tag bytes = .error (.patternUnavailable tag) ↔ tag ∉ s.languages := by
  have htl : tag.toLower = tag := by
    obtain ⟨x, hx, rfl⟩ := List.mem_map.mp htag
    rw [hr.tag_eq x hx, toLower_toLower]
  obtain ⟨g, hget⟩ := exists_get_eq_ok (htl ▸ htag)
  obtain ⟨hg, hname⟩ := hr.get_eq_ok hget
  have hgt : g.name = tag := by rw [← hlower g hg, hname, htl]
  rw [mem_languages_iff_pattern s htag]
  subst hgt
  cases hp : s.pattern? g.name with
  | none => simp [searchSource, hget, patternFor, hp, bind, Except.bind]
  | some p =>
    simp only [searchSource, hget, patternFor, hp, bind, Except.bind, Option.isSome_some,
      not_true_eq_false, iff_false]
    cases ht : g.parse bytes s.options.parseTimeout with
    | ok t => simp [pure, Except.pure]
    | error e =>
      obtain ⟨f, rfl⟩ := parse_eq_error ht
      simp

/-! ## How a searcher accounts for its candidates -/

/-- How a searcher built for the candidate grammars `cs` accounts for them: the candidates the
pattern fits are its languages, in registry order, with their compiled patterns; the others are
its pattern errors, in candidate order, with their errors; each candidate is one or the other,
once; and searching a source in a registered language fails for want of a pattern exactly when
the language is not one of the searcher's. -/
structure Accounts (s : Searcher) (text : String) (cs : List Grammar) : Prop where
  patternErrors_eq : s.patternErrors = cs.filterMap fun g =>
    match compileFor text s.options.mode g with
    | .ok _ => none
    | .error e => some (g.name, e)
  languages_eq : s.languages = s.registry.languages.filter fun tag =>
    cs.any fun g => g.name == tag && (compileFor text s.options.mode g).toOption.isSome
  pattern_eq : ∀ g ∈ cs, s.pattern? g.name = (compileFor text s.options.mode g).toOption
  once : ∀ g ∈ cs, s.languages.count g.name + (s.patternErrors.map (·.1)).count g.name = 1
  searchSource_unavailable : ∀ tag ∈ s.registry.languages, ∀ bytes,
    s.searchSource tag bytes = .error (.patternUnavailable tag) ↔ tag ∉ s.languages

/-- The names of the failed candidates, in candidate order. -/
theorem map_fst_compileAll_snd (text : String) (mode : Pattern.MatchMode) (cs : List Grammar) :
    (compileAll text mode cs).2.map (·.1) =
      (cs.filter fun g => (compileFor text mode g).toOption.isNone).map (·.name) := by
  induction cs with
  | nil => rfl
  | cons g cs ih =>
    cases h : compileFor text mode g <;> simp [compileAll, h, ih, Except.toOption]

/-- The candidates of a registry filed under lowercase names are listed grammars with names
that differ. -/
theorem candidates_named {r : Registry} (hr : r.Filed)
    (hlower : ∀ g ∈ r.grammarList, g.name.toLower = g.name) {o : Options} {cs : List Grammar}
    (hcs : o.language = none ∧ cs = r.grammarList ∨
      ∃ tag g, o.language = some tag ∧ r.get tag = .ok g ∧ cs = [g]) :
    candidates r o = .ok cs ∧ (cs.map (·.name)).Nodup ∧ ∀ g ∈ cs, g ∈ r.grammarList := by
  rcases hcs with ⟨hnone, rfl⟩ | ⟨tag, g, hsome, hget, rfl⟩
  · have hnames : r.grammarList.map (·.name) = r.languages := by
      rw [← hr.map_grammarList]
      exact List.map_congr_left fun g hg => (hlower g hg).symm
    exact ⟨by simp [candidates, hnone], hnames ▸ hr.nodup, fun _ hg => hg⟩
  · refine ⟨by simp [candidates, hsome, hget, Except.map], by simp, ?_⟩
    simpa using (hr.get_eq_ok hget).1

/-- Among candidates with distinct names, a candidate's registered name is among the tags the
pattern fits exactly when the pattern compiles for it. -/
theorem name_mem_fitting_iff {r : Registry} {cs : List Grammar} {text : String}
    {mode : Pattern.MatchMode} (hnd : (cs.map (·.name)).Nodup) {g : Grammar} (hg : g ∈ cs)
    (hreg : g.name ∈ r.languages) :
    g.name ∈ r.languages.filter (fun tag =>
        cs.any fun g => g.name == tag && (compileFor text mode g).toOption.isSome) ↔
      (compileFor text mode g).toOption.isSome := by
  have hinj := List.inj_on_of_nodup_map hnd
  simp only [List.mem_filter, hreg, true_and, List.any_eq_true, Bool.and_eq_true, beq_iff_eq]
  exact ⟨fun ⟨g', hg', hname, hok⟩ => hinj hg' hg hname ▸ hok, fun hok => ⟨g, hg, rfl, hok⟩⟩

/-- Among candidates with distinct names, a candidate's name is among the failing ones exactly
when the pattern does not compile for it. -/
theorem name_mem_failing_iff {cs : List Grammar} {text : String} {mode : Pattern.MatchMode}
    (hnd : (cs.map (·.name)).Nodup) {g : Grammar} (hg : g ∈ cs) :
    g.name ∈ (cs.filter fun g => (compileFor text mode g).toOption.isNone).map (·.name) ↔
      (compileFor text mode g).toOption.isNone := by
  have hinj := List.inj_on_of_nodup_map hnd
  simp only [List.mem_map, List.mem_filter]
  exact ⟨fun ⟨g', ⟨hg', hnone⟩, hname⟩ => hinj hg' hg hname ▸ hnone,
    fun hnone => ⟨g, ⟨hg, hnone⟩, rfl⟩⟩

/-- A searcher built for candidates with names that differ accounts for every candidate. -/
theorem accounts_of_new {r : Registry} (hr : r.Filed)
    (hlower : ∀ g ∈ r.grammarList, g.name.toLower = g.name) {text : String} {o : Options}
    {cs : List Grammar} (hc : candidates r o = .ok cs) (hnd : (cs.map (·.name)).Nodup)
    (hlisted : ∀ g ∈ cs, g ∈ r.grammarList) {s : Searcher} (hs : Searcher.new r text o = .ok s) :
    s.Accounts text cs := by
  obtain ⟨-, hs'⟩ := (new_eq_ok_iff hc s).mp hs
  have hsr : s.registry = r := by rw [hs']
  have hso : s.options = o := by rw [hs']
  have hsp : s.patterns = (compileAll text o.mode cs).1 := by rw [hs']
  have hse : s.patternErrors = (compileAll text o.mode cs).2 := by rw [hs']
  have hreg : ∀ g ∈ cs, g.name ∈ r.languages := by
    intro g hg
    rw [← hr.map_grammarList, ← hlower g (hlisted g hg)]
    exact List.mem_map_of_mem (hlisted g hg)
  have hlang : s.languages = r.languages.filter fun tag =>
      cs.any fun g => g.name == tag && (compileFor text o.mode g).toOption.isSome := by
    rw [Searcher.languages, hsr]
    refine List.filter_congr fun tag _ => ?_
    rw [Bool.eq_iff_iff, hsp, compileAll_fst, List.any_filterMap, List.any_eq_true,
      List.any_eq_true]
    refine exists_congr fun g => and_congr_right fun _ => ?_
    cases (compileFor text o.mode g).toOption <;> simp
  refine ⟨hso ▸ hse ▸ compileAll_snd text o.mode cs, hsr ▸ hso ▸ hlang, ?pattern, ?once, ?source⟩
  case pattern =>
    intro g hg
    rw [hso, Searcher.pattern?, hsp]
    exact find_compileAll_fst text o.mode hnd hg
  case source =>
    exact fun tag htag => searchSource_eq_unavailable_iff s (hsr ▸ hr) (hsr ▸ hlower) htag
  case once =>
    intro g hg
    have hnd₁ := hr.nodup.filter (fun tag =>
        cs.any fun g => g.name == tag && (compileFor text o.mode g).toOption.isSome)
    have hnd₂ : ((cs.filter fun g => (compileFor text o.mode g).toOption.isNone).map
        (·.name)).Nodup := hnd.sublist ((List.filter_sublist).map _)
    simp only [hlang, hse, map_fst_compileAll_snd, hnd₁.count, hnd₂.count,
      name_mem_fitting_iff hnd hg (hreg g hg), name_mem_failing_iff hnd hg]
    cases (compileFor text o.mode g).toOption <;> simp

/-- **One compile per candidate.**  Take a registry built by registrations whose grammars have
lowercase names.  An override tag that is not registered makes building fail with that tag.
Otherwise, for the candidates (the override's grammar, or every registered grammar in
registration order), building fails exactly when the pattern fits none of them, with the first
candidate's error or, when there is no candidate, an unsupported language; and a searcher that
is built accounts for every candidate. -/
theorem new_compiles_each_candidate (gs : List Grammar) (text : String) (o : Options)
    (hlower : ∀ g ∈ (ofGrammars gs).grammarList, g.name.toLower = g.name) :
    (∀ tag, o.language = some tag → tag.toLower ∉ (ofGrammars gs).languages →
        Searcher.new (ofGrammars gs) text o = .error (.unsupportedLanguage tag)) ∧
    ∀ cs : List Grammar,
      (o.language = none ∧ cs = (ofGrammars gs).grammarList ∨
        ∃ tag g, o.language = some tag ∧ (ofGrammars gs).get tag = .ok g ∧ cs = [g]) →
      (∀ e, Searcher.new (ofGrammars gs) text o = .error e ↔
          (∀ g ∈ cs, (compileFor text o.mode g).toOption = none) ∧
          (cs = [] ∧ e = .unsupportedLanguage "no languages registered" ∨
            ∃ g rest pe, cs = g :: rest ∧ compileFor text o.mode g = .error pe ∧
              e = .pattern pe)) ∧
      ∀ s, Searcher.new (ofGrammars gs) text o = .ok s → s.Accounts text cs := by
  have hr := filed_ofGrammars gs
  refine ⟨fun tag hsome hnot => new_of_candidates_error ?_, fun cs hcs => ?_⟩
  · have hget := (get_eq_error_iff _ tag _).mpr ⟨hnot, rfl⟩
    simp [candidates, hsome, hget, Except.map]
  obtain ⟨hc, hnd, hlisted⟩ := candidates_named hr hlower hcs
  refine ⟨fun e => ?_, fun s hs => accounts_of_new hr hlower hc hnd hlisted hs⟩
  rw [new_eq_error_iff hc, compileAll_fst_eq_nil_iff]
  cases cs with
  | nil => simp [compileAll]
  | cons g rest =>
    cases hg : compileFor text o.mode g with
    | ok p => simp [hg, Except.toOption]
    | error pe => simp [compileAll, hg, Except.toOption]

/-- Python and Rust registered, every registered grammar a candidate for `(identifier) @id`:
the names are lowercase, and building fails or accounts for both grammars as stated. -/
theorem new_compiles_each_candidate_pythonRust :
    (∀ g ∈ (ofGrammars [Grammar.ofLanguage .python default, Grammar.ofLanguage .rust default]).grammarList,
      g.name.toLower = g.name) ∧
    (Options.default.language = none ∧
      (ofGrammars [Grammar.ofLanguage .python default, Grammar.ofLanguage .rust default]).grammarList =
        (ofGrammars [Grammar.ofLanguage .python default, Grammar.ofLanguage .rust default]).grammarList) ∧
    (∀ e, Searcher.new (ofGrammars [Grammar.ofLanguage .python default, Grammar.ofLanguage .rust default])
        "(identifier) @id" Options.default = .error e ↔
      (∀ g ∈ (ofGrammars [Grammar.ofLanguage .python default, Grammar.ofLanguage .rust default]).grammarList,
        (compileFor "(identifier) @id" Options.default.mode g).toOption = none) ∧
      ((ofGrammars [Grammar.ofLanguage .python default, Grammar.ofLanguage .rust default]).grammarList = [] ∧
          e = .unsupportedLanguage "no languages registered" ∨
        ∃ g rest pe,
          (ofGrammars [Grammar.ofLanguage .python default, Grammar.ofLanguage .rust default]).grammarList =
            g :: rest ∧
          compileFor "(identifier) @id" Options.default.mode g = .error pe ∧ e = .pattern pe)) ∧
    ∀ s, Searcher.new (ofGrammars [Grammar.ofLanguage .python default, Grammar.ofLanguage .rust default])
        "(identifier) @id" Options.default = .ok s →
      s.Accounts "(identifier) @id"
        (ofGrammars [Grammar.ofLanguage .python default, Grammar.ofLanguage .rust default]).grammarList := by
  have hlower : ∀ g ∈ (ofGrammars [Grammar.ofLanguage .python default,
      Grammar.ofLanguage .rust default]).grammarList, g.name.toLower = g.name := by
    decide +kernel
  exact ⟨hlower, ⟨rfl, rfl⟩,
    (new_compiles_each_candidate _ "(identifier) @id" Options.default hlower).2 _
      (.inl ⟨rfl, rfl⟩)⟩

end Searcher

end Search

/-! ## The files a walk lists -/

namespace Walker

variable (w : Walker) (follow : Bool)

/-- A child of a known kind contributes only files the walk wants, given that the directories
below it do. -/
theorem accepts_of_mem_visit {fuel depth : Nat} {path : String} {kind : EntryKind}
    {ancestors : Ancestors}
    (ih : ∀ depth dir ancestors p, .ok p ∈ w.below follow fuel depth dir ancestors →
      w.options.accepts p)
    {p : String} (h : .ok p ∈ w.visit follow fuel depth path kind ancestors) :
    w.options.accepts p := by
  unfold visit at h
  split at h
  · split at h
    · simp at h
    · split at h
      · exact ih _ _ _ _ h
      · simp at h
  · split at h
    · simp at h
    · rename_i hlisted
      simp only [List.mem_singleton, Except.ok.injEq] at h
      subst h
      simp only [Bool.or_eq_true, Bool.not_eq_true', not_or, Bool.not_eq_false] at hlisted
      exact hlisted.2
  · simp at h

/-- A child contributes only files the walk wants, whatever links lead to it. -/
theorem accepts_of_mem_child {fuel depth : Nat} {path : String} {ancestors : Ancestors}
    (ih : ∀ depth dir ancestors p, .ok p ∈ w.below follow fuel depth dir ancestors →
      w.options.accepts p)
    {p : String} (h : .ok p ∈ w.child follow fuel depth path ancestors) :
    w.options.accepts p := by
  unfold child at h
  split at h
  · simp at h
  · split at h
    · split at h
      · simp at h
      · split at h
        · simp at h
        · exact accepts_of_mem_visit w follow ih h
      · exact accepts_of_mem_visit w follow ih h
    · simp at h
  · exact accepts_of_mem_visit w follow ih h

/-- Every file listed below a walked directory is wanted.  The induction is on the fuel, which
every descent into a directory spends, and within it on the directory's children. -/
theorem accepts_of_mem_below :
    ∀ fuel depth dir ancestors p, .ok p ∈ w.below follow fuel depth dir ancestors →
      w.options.accepts p := by
  intro fuel
  induction fuel with
  | zero => intro _ _ _ _ h; simp [below] at h
  | succ fuel ih =>
    intro depth dir ancestors p h
    unfold below at h
    split at h
    · simp at h
    · rename_i names _
      have hchildren : ∀ (names : List String) depth, .ok p ∈
          w.entriesOf follow fuel depth dir ancestors names → w.options.accepts p := by
        intro names
        induction names with
        | nil => intro _ h; simp [entriesOf] at h
        | cons name names ihn =>
          intro depth h
          unfold entriesOf at h
          rcases List.mem_append.mp h with h | h
          · exact accepts_of_mem_child w follow ih h
          · exact ihn depth h
      exact hchildren _ _ h

/-- **Listed files are wanted.**  Every file a walk lists below a directory root has an
extension the walk wants; only a root that is itself a file is listed whatever its extension. -/
theorem accepts_of_mem_entries (hdir : w.disk.kindOf w.root = .ok .directory) {p : String}
    (h : .ok p ∈ w.entries) : w.options.accepts p := by
  unfold entries at h
  simp only [hdir] at h
  split at h
  · exact accepts_of_mem_below w _ _ _ _ _ _ h
  · simp at h

/-- A walk that is made keeps the disk and the options it was made with. -/
theorem new_eq_ok {d : Disk} {cwd root : String} {o : WalkOptions} {w : Walker}
    (h : Walker.new d cwd root o = .ok w) : w.disk = d ∧ w.options = o := by
  unfold Walker.new at h
  cases hk : d.kindOf (Path.join cwd root) with
  | error cause => simp [hk, bind, Except.bind, throw, throwThe, MonadExceptOf.throw] at h
  | ok kind =>
    cases hl : IgnoreRules.load d (Path.absolute cwd root) o.excludes with
    | error e => simp [hk, hl, bind, Except.bind] at h
    | ok rules =>
      simp only [hk, hl, bind, Except.bind, pure, Except.pure, Except.ok.injEq] at h
      subst h
      exact ⟨rfl, rfl⟩

end Walker

namespace Search
namespace Searcher

open Registry

/-- Without an override and extensions of its own, a run walks with the registry's extensions. -/
theorem walkOptions_of_registry (s : Searcher) (hlang : s.options.language = none)
    (hext : s.options.walk.extensions = []) :
    s.walkOptions = .ok { s.options.walk with extensions := s.registry.claims.map (·.1) } := by
  simp [walkOptions, hlang, hext, pure, Except.pure]

/-- With the registry's extensions as its filter, a walk wants a file exactly when the registry
files the file's extension under a tag.  The filtered extensions are already lowercase, so
comparing them up to ASCII case is looking the lowercased extension up. -/
theorem accepts_registry_iff (gs : List Grammar) (walk : WalkOptions)
    (hclaims : (ofGrammars gs).claims ≠ []) (path : String) :
    ({ walk with extensions := (ofGrammars gs).claims.map (·.1) } : WalkOptions).accepts path =
      ((ofGrammars gs).languageForPath path).isSome := by
  have hkeys : ∀ k ∈ (ofGrammars gs).claims.map (·.1), k.toLower = k := by
    intro k hk
    obtain ⟨g, -, x, -, rfl⟩ := (mem_claims_ofGrammars gs k).mp hk
    exact toLower_toLower x
  simp only [WalkOptions.accepts, List.isEmpty_iff, List.map_eq_nil_iff, hclaims, if_false,
    languageForPath_eq_tagOf]
  cases Path.extension path with
  | none => rfl
  | some e =>
    rw [Option.bind_some, Bool.eq_iff_iff, tagOf_isSome_iff, List.any_eq_true]
    constructor
    · rintro ⟨k, hk, hke⟩
      rwa [← beq_iff_eq.mp hke, hkeys k hk]
    · intro he
      exact ⟨e.toLower, he, by rw [hkeys _ he]; exact beq_self_eq_true _⟩

/-- Searching a file whose grammar is found fails only for want of a pattern, a readable file
or a parse, never for want of a grammar. -/
theorem searchFile_ne_unsupported {s : Searcher} {d : Disk} {path : String} {g : Grammar}
    (hg : s.grammarFor path = .ok g) (m : String) :
    s.searchFile d path ≠ .error (.unsupportedLanguage m) := by
  intro h
  simp only [searchFile, hg, bind, Except.bind] at h
  cases hp : s.patternFor g with
  | error e =>
    simp only [hp] at h
    cases hn : s.pattern? g.name <;> simp [patternFor, hn] at hp
    subst hp
    cases h
  | ok p =>
    simp only [hp] at h
    cases hf : SourceFile.read d path g.name with
    | error e =>
      simp only [hf] at h
      unfold SourceFile.read at hf
      split at hf
      · cases hf
      · rename_i cause _
        cases hf
        cases cause <;> cases h
    | ok file =>
      simp only [hf] at h
      cases ht : g.parse file.content s.options.parseTimeout with
      | error e =>
        simp only [ht] at h
        obtain ⟨f, rfl⟩ := parse_eq_error ht
        cases h
      | ok t => simp [ht, pure, Except.pure] at h

/-- A listed file whose extension the registry files under a tag is never skipped for want of a
grammar. -/
theorem outcomeOf_ne_unsupported {s : Searcher} {gs : List Grammar}
    (hr : s.registry = ofGrammars gs) (hlang : s.options.language = none) {d : Disk}
    {root path : String} (hpath : (s.registry.languageForPath path).isSome) (m : String) :
    (s.outcomeOf d root (.ok path)).error ≠ some (.unsupportedLanguage m) := by
  obtain ⟨tag, htag⟩ := Option.isSome_iff_exists.mp hpath
  obtain ⟨g, hget⟩ := exists_get_of_languageForPath (hr ▸ htag)
  have hg : s.grammarFor path = .ok g := by
    rw [grammarFor, hlang, Registry.forPath, htag, hr]
    exact hget
  simp only [outcomeOf]
  cases hf : s.searchFile d path with
  | ok o =>
    unfold searchFile at hf
    simp only [hg, bind, Except.bind] at hf
    split at hf
    · cases hf
    · split at hf
      · cases hf
      · split at hf
        · cases hf
        · simp only [pure, Except.pure, Except.ok.injEq] at hf
          subst hf
          simp [FileOutcome.matched]
  | error e =>
    simp only [FileOutcome.skipped, ne_eq, Option.some.injEq]
    rintro rfl
    exact searchFile_ne_unsupported hg m hf

/-- **Tags, extensions and the walk they make.**  After any registrations the tags are the
grammars' lowercased names, each once, in order of first registration; a path's language is the
lowercased name of the last grammar that claims the path's extension up to ASCII case, and that
tag can be looked up.  When some grammar claims an extension, a run with neither an override nor
extensions of its own wants a file exactly when the file's language is known, so no file it
lists below a directory root is skipped for want of a grammar. -/
theorem registry_tags_and_walk (gs : List Grammar) :
    (ofGrammars gs).languages = (gs.map (·.name.toLower)).eraseDups ∧
    (∀ path tag, (ofGrammars gs).languageForPath path = some tag ↔
      ∃ e, Path.extension path = some e ∧
        ∃ g, (gs.filter fun g => g.extensions.any fun x => x.toLower == e.toLower).getLast? =
          some g ∧ g.name.toLower = tag) ∧
    (∀ path tag, (ofGrammars gs).languageForPath path = some tag →
      ∃ g, (ofGrammars gs).get tag = .ok g) ∧
    ∀ s : Searcher, s.registry = ofGrammars gs → s.options.language = none →
      s.options.walk.extensions = [] → (∃ g ∈ gs, g.extensions ≠ []) →
      ∃ walk, s.walkOptions = .ok walk ∧
        (∀ path, walk.accepts path = ((ofGrammars gs).languageForPath path).isSome) ∧
        ∀ d cwd root w, Walker.new d cwd root walk = .ok w → d.kindOf w.root = .ok .directory →
          ∀ path, .ok path ∈ w.entries → ∀ m,
            (s.outcomeOf d w.root (.ok path)).error ≠ some (.unsupportedLanguage m) := by
  refine ⟨languages_ofGrammars gs, languageForPath_ofGrammars gs,
    fun _ _ h => exists_get_of_languageForPath h, ?_⟩
  intro s hr hlang hext ⟨g, hg, hne⟩
  have hclaims : (ofGrammars gs).claims ≠ [] := by
    obtain ⟨x, hx⟩ := List.exists_mem_of_ne_nil _ hne
    intro hnil
    have := (mem_claims_ofGrammars gs x.toLower).mpr ⟨g, hg, x, hx, rfl⟩
    simp [hnil] at this
  have haccepts := accepts_registry_iff gs s.options.walk hclaims
  refine ⟨_, walkOptions_of_registry s hlang hext, hr ▸ haccepts, ?_⟩
  intro d cwd root w hw hdir path hpath m
  obtain ⟨rfl, hopt⟩ := Walker.new_eq_ok hw
  have hwanted := w.accepts_of_mem_entries hdir hpath
  rw [hopt, hr, haccepts] at hwanted
  exact outcomeOf_ne_unsupported hr hlang (hr ▸ hwanted) m

/-- Python registered, and a searcher over it with the default options: Python claims an
extension, so the run's walk wants a file exactly when Python claims its extension, and no file
listed below a directory root is skipped for want of a grammar. -/
theorem registry_tags_and_walk_python :
    ∃ s : Searcher, s.registry = ofGrammars [Grammar.ofLanguage .python default] ∧
      s.options.language = none ∧ s.options.walk.extensions = [] ∧
      (∃ g ∈ [Grammar.ofLanguage .python default], g.extensions ≠ []) ∧
      ∃ walk, s.walkOptions = .ok walk ∧
        (∀ path, walk.accepts path =
          ((ofGrammars [Grammar.ofLanguage .python default]).languageForPath path).isSome) ∧
        ∀ d cwd root w, Walker.new d cwd root walk = .ok w → d.kindOf w.root = .ok .directory →
          ∀ path, .ok path ∈ w.entries → ∀ m,
            (s.outcomeOf d w.root (.ok path)).error ≠ some (.unsupportedLanguage m) := by
  have hclaims : ∃ g ∈ [Grammar.ofLanguage .python default], g.extensions ≠ [] :=
    ⟨_, List.mem_singleton_self _, by simp [Grammar.ofLanguage, Language.extensions]⟩
  exact ⟨⟨ofGrammars [Grammar.ofLanguage .python default], [], [], Options.default⟩, rfl, rfl, rfl,
    hclaims, (registry_tags_and_walk [Grammar.ofLanguage .python default]).2.2.2 _ rfl rfl rfl hclaims⟩

end Searcher
end Search

end ShapeSearch
