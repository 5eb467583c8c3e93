import Mathlib
import ShapeSearch.Grammar.Registry

/-!
# What a registry built by registrations holds

A registry only ever comes from registering grammars one after another, starting from the
empty one.  This module reads such a registry back in terms of the grammars registered.

* `languages_ofGrammars`: the tags are the grammars' lowercased names, each listed once, in the
  order in which they were first registered.
* `tagOf_ofGrammars`: an extension is filed under the tag of the last grammar that claims it,
  whatever the case the grammars wrote it in.
* `languageForPath_ofGrammars`: so a path's language is the lowercased name of the last grammar
  claiming its extension up to ASCII case, and that tag is registered.
* `Filed`: every grammar is filed under its lowercased name and no tag is filed twice, which is
  what lookups by tag rely on.
-/

namespace ShapeSearch

/-- ASCII lowercasing leaves a lowercased text as it is. -/
@[simp] theorem toLower_toLower (s : String) : s.toLower.toLower = s.toLower := by
  simp only [String.toLower, String.map_map]
  congr 1
  funext c
  exact Char.toLower_toLower_eq_toLower c

namespace Registry

/-- The registry made by registering grammars in order, starting from the empty one. -/
def ofGrammars (gs : List Grammar) : Registry :=
  gs.foldl register empty

@[simp] theorem ofGrammars_nil : ofGrammars [] = empty := rfl

@[simp] theorem ofGrammars_append_singleton (gs : List Grammar) (g : Grammar) :
    ofGrammars (gs ++ [g]) = (ofGrammars gs).register g := by
  simp [ofGrammars]

/-- The tag an extension is filed under, if any. -/
def tagOf (claims : List (String × String)) (ext : String) : Option String :=
  (claims.find? (·.1 == ext)).map (·.2)

theorem languageForPath_eq_tagOf (r : Registry) (path : String) :
    r.languageForPath path = (Path.extension path).bind fun e => tagOf r.claims e.toLower :=
  rfl

/-- An extension is filed exactly when it is one of the claims' extensions. -/
theorem tagOf_isSome_iff (claims : List (String × String)) (ext : String) :
    (tagOf claims ext).isSome ↔ ext ∈ claims.map (·.1) := by
  simp [tagOf, List.find?_isSome]

/-! ## Claims: the last claim of an extension wins -/

/-- Claiming an extension files it under the new tag and leaves every other extension: a
claimed extension is retagged where it stands, and a new one is filed at the end. -/
theorem tagOf_claim (cs : List (String × String)) (ext tag e : String) :
    tagOf (claim cs ext tag) e = if e = ext then some tag else tagOf cs e := by
  unfold claim
  split
  · rename_i hany
    have hfst : ((fun x : String × String => x.1 == e) ∘
        fun x : String × String => if x.1 == ext then (x.1, tag) else (x.1, x.2)) =
        fun x => x.1 == e := by
      funext x
      by_cases hx : x.1 = ext <;> simp [hx]
    simp only [tagOf, List.find?_map, hfst, Option.map_map]
    by_cases he : e = ext
    · subst he
      obtain ⟨x, hx, hfound⟩ : ∃ x, cs.find? (·.1 == e) = some x ∧ x.1 = e := by
        obtain ⟨y, hy, hye⟩ := List.any_eq_true.mp hany
        have hsome : (cs.find? (·.1 == e)).isSome := List.find?_isSome.mpr ⟨y, hy, hye⟩
        obtain ⟨x, hx⟩ := Option.isSome_iff_exists.mp hsome
        exact ⟨x, hx, by simpa using List.find?_some hx⟩
      simp [hx, hfound]
    · cases hx : cs.find? (·.1 == e) with
      | none => simp [he]
      | some x =>
        have hxe : x.1 = e := by simpa using List.find?_some hx
        simp [he, hxe]
  · rename_i hany
    have hnone : cs.find? (·.1 == ext) = none :=
      List.find?_eq_none.mpr fun x hx hxe => hany (List.any_eq_true.mpr ⟨x, hx, hxe⟩)
    by_cases he : e = ext
    · subst he
      simp [tagOf, List.find?_append, hnone]
    · simp [tagOf, List.find?_append, he, Ne.symm he]

/-- Claiming several extensions for one tag. -/
theorem tagOf_foldl_claim (exts : List String) (cs : List (String × String)) (tag e : String) :
    tagOf (exts.foldl (fun cs x => claim cs x.toLower tag) cs) e =
      if exts.any (·.toLower == e) then some tag else tagOf cs e := by
  induction exts generalizing cs with
  | nil => simp
  | cons x xs ih =>
    rw [List.foldl_cons, ih, tagOf_claim]
    by_cases hx : e = x.toLower
    · simp [hx]
    · by_cases hxs : xs.any (·.toLower == e) <;> simp [hxs, hx, Ne.symm hx]

/-- Registering a grammar files each of its lowercased extensions under its tag. -/
theorem tagOf_register (r : Registry) (g : Grammar) (e : String) :
    tagOf (r.register g).claims e =
      if g.extensions.any (·.toLower == e) then some g.name.toLower else tagOf r.claims e :=
  tagOf_foldl_claim g.extensions r.claims g.name.toLower e

/-- **Last claim wins.**  After a history of registrations, an extension is filed under the
lowercased name of the last grammar that lists it in any case, and nothing else is filed. -/
theorem tagOf_ofGrammars (gs : List Grammar) (e : String) :
    tagOf (ofGrammars gs).claims e =
      ((gs.filter fun g => g.extensions.any (·.toLower == e)).getLast?).map (·.name.toLower) := by
  induction gs using List.reverseRecOn with
  | nil => rfl
  | append_singleton gs g ih =>
    rw [ofGrammars_append_singleton, tagOf_register, ih, List.filter_append]
    by_cases h : g.extensions.any (·.toLower == e) <;> simp [h]

/-- The extensions a registry files are the lowercased extensions of its grammars. -/
theorem mem_claims_ofGrammars (gs : List Grammar) (e : String) :
    e ∈ (ofGrammars gs).claims.map (·.1) ↔ ∃ g ∈ gs, ∃ x ∈ g.extensions, x.toLower = e := by
  rw [← tagOf_isSome_iff, tagOf_ofGrammars, Option.isSome_map, List.getLast?_isSome,
    ne_eq, List.filter_eq_nil_iff]
  simp

/-- A path's language is the lowercased name of the last grammar that claims the path's
extension, extensions compared up to ASCII case. -/
theorem languageForPath_ofGrammars (gs : List Grammar) (path tag : String) :
    (ofGrammars gs).languageForPath path = some tag ↔
      ∃ e, Path.extension path = some e ∧
        ∃ g, (gs.filter fun g => g.extensions.any fun x => x.toLower == e.toLower).getLast? =
          some g ∧ g.name.toLower = tag := by
  simp only [languageForPath_eq_tagOf, tagOf_ofGrammars, Option.bind_eq_some_iff,
    Option.map_eq_some_iff]

/-! ## Tags: registered once, in order of first registration -/

theorem mem_languages_iff (r : Registry) (tag : String) :
    tag ∈ r.languages ↔ r.grammars.any (·.1 == tag) := by
  simp [languages]

/-- Registering a grammar adds its tag at the end unless the tag is already there, where it
keeps its place and only the grammar filed under it changes. -/
theorem languages_register (r : Registry) (g : Grammar) :
    (r.register g).languages =
      if g.name.toLower ∈ r.languages then r.languages else r.languages ++ [g.name.toLower] := by
  by_cases h : r.grammars.any (·.1 == g.name.toLower)
  · rw [if_pos ((mem_languages_iff r _).mpr h)]
    simp only [register, h, if_true, languages, List.map_map]
    refine List.map_congr_left fun x _ => ?_
    by_cases hx : x.1 = g.name.toLower <;> simp [hx]
  · rw [if_neg fun hm => h ((mem_languages_iff r _).mp hm)]
    simp [register, languages, h]

/-- **Tags in order of first registration.**  The tags of a registry are the lowercased names of
the grammars registered, with every repetition after the first left out. -/
theorem languages_ofGrammars (gs : List Grammar) :
    (ofGrammars gs).languages = (gs.map (·.name.toLower)).eraseDups := by
  induction gs using List.reverseRecOn with
  | nil => rfl
  | append_singleton gs g ih =>
    rw [ofGrammars_append_singleton, languages_register, ih, List.map_append,
      List.eraseDups_append]
    by_cases h : ∃ a ∈ gs, a.name.toLower = g.name.toLower
    · rw [if_pos (List.mem_eraseDups.mpr (List.mem_map.mpr h))]
      simp [List.removeAll, h]
    · rw [if_neg fun hm => h (List.mem_map.mp (List.mem_eraseDups.mp hm))]
      simp [List.removeAll, h, List.eraseDups_cons]

/-- A tag is registered exactly when some grammar's lowercased name is that tag. -/
theorem mem_languages_ofGrammars (gs : List Grammar) (tag : String) :
    tag ∈ (ofGrammars gs).languages ↔ ∃ g ∈ gs, g.name.toLower = tag := by
  simp [languages_ofGrammars, List.mem_eraseDups]

/-- Every tag a registry files an extension under is registered. -/
theorem mem_languages_of_tagOf {gs : List Grammar} {e tag : String}
    (h : tagOf (ofGrammars gs).claims e = some tag) : tag ∈ (ofGrammars gs).languages := by
  rw [tagOf_ofGrammars, Option.map_eq_some_iff] at h
  obtain ⟨g, hg, rfl⟩ := h
  have hmem : g ∈ gs := (List.mem_filter.mp (List.mem_of_getLast? hg)).1
  exact (mem_languages_ofGrammars gs _).mpr ⟨g, hmem, rfl⟩

/-! ## Lookup by tag -/

/-- A lookup by tag succeeds exactly when the lowercased tag is registered; otherwise it names
the tag as asked. -/
theorem get_eq_error_iff (r : Registry) (tag : String) (e : Error) :
    r.get tag = .error e ↔ tag.toLower ∉ r.languages ∧ e = .unsupportedLanguage tag := by
  unfold get
  cases h : r.grammars.find? (·.1 == tag.toLower) with
  | none =>
    have hnot : tag.toLower ∉ r.languages := by
      intro hm
      obtain ⟨x, hx, hxe⟩ := List.mem_map.mp hm
      have := List.find?_eq_none.mp h x hx
      simp [hxe] at this
    simp [hnot, eq_comm]
  | some x =>
    have hmem : tag.toLower ∈ r.languages := by
      have := List.find?_some h
      exact List.mem_map.mpr ⟨x, List.mem_of_find?_eq_some h, by simpa using this⟩
    simp [hmem]

theorem exists_get_eq_ok {r : Registry} {tag : String} (h : tag.toLower ∈ r.languages) :
    ∃ g, r.get tag = .ok g := by
  cases hget : r.get tag with
  | ok g => exact ⟨g, rfl⟩
  | error e => exact absurd h ((get_eq_error_iff r tag e).mp hget).1

/-- The tag a path's extension is filed under can be looked up: it is a lowercased name, and
so its own lowercase form. -/
theorem exists_get_of_languageForPath {gs : List Grammar} {path tag : String}
    (h : (ofGrammars gs).languageForPath path = some tag) :
    ∃ g, (ofGrammars gs).get tag = .ok g := by
  have hreg : tag ∈ (ofGrammars gs).languages := by
    rw [languageForPath_eq_tagOf, Option.bind_eq_some_iff] at h
    obtain ⟨e, -, he⟩ := h
    exact mem_languages_of_tagOf he
  obtain ⟨g, -, hg⟩ := (mem_languages_ofGrammars gs tag).mp hreg
  exact exists_get_eq_ok (by rw [← hg, toLower_toLower, hg]; exact hreg)

/-! ## Filing: every grammar under its lowercased name, no tag twice -/

/-- How registration files grammars: each under its lowercased name, and no tag twice. -/
structure Filed (r : Registry) : Prop where
  tag_eq : ∀ x ∈ r.grammars, x.1 = x.2.name.toLower
  nodup : r.languages.Nodup

theorem Filed.empty : Filed empty :=
  ⟨by simp [Registry.empty], by simp [Registry.empty, languages]⟩

theorem Filed.register {r : Registry} (hr : r.Filed) (g : Grammar) : (r.register g).Filed := by
  refine ⟨?tag, ?nodup⟩
  case nodup =>
    rw [languages_register]
    split
    · exact hr.nodup
    · rename_i hnot
      refine List.nodup_append.mpr ⟨hr.nodup, List.nodup_singleton _, fun a ha b hb hab => ?_⟩
      rw [List.mem_singleton] at hb
      subst hb hab
      exact hnot ha
  case tag =>
    intro x hx
    by_cases h : r.grammars.any (·.1 == g.name.toLower)
    · simp only [Registry.register, h, if_true, List.mem_map] at hx
      obtain ⟨y, hy, rfl⟩ := hx
      by_cases hyt : y.1 = g.name.toLower
      · simp [hyt]
      · simpa [hyt] using hr.tag_eq y hy
    · simp only [Registry.register, h, Bool.false_eq_true, if_false, List.mem_append,
        List.mem_singleton] at hx
      rcases hx with hx | rfl
      · exact hr.tag_eq x hx
      · rfl

theorem filed_ofGrammars (gs : List Grammar) : (ofGrammars gs).Filed := by
  induction gs using List.reverseRecOn with
  | nil => exact Filed.empty
  | append_singleton gs g ih =>
    rw [ofGrammars_append_singleton]
    exact ih.register g

/-- In a filed registry the tags are the lowercased names of the grammars listed. -/
theorem Filed.map_grammarList {r : Registry} (hr : r.Filed) :
    r.grammarList.map (·.name.toLower) = r.languages := by
  simp only [grammarList, languages, List.map_map]
  exact List.map_congr_left fun x hx => (hr.tag_eq x hx).symm

/-- A lookup by tag in a filed registry finds a listed grammar whose name is the tag up to
ASCII case. -/
theorem Filed.get_eq_ok {r : Registry} (hr : r.Filed) {tag : String} {g : Grammar}
    (h : r.get tag = .ok g) : g ∈ r.grammarList ∧ g.name.toLower = tag.toLower := by
  unfold get at h
  cases hx : r.grammars.find? (·.1 == tag.toLower) with
  | none => simp [hx] at h
  | some x =>
    simp only [hx, Except.ok.injEq] at h
    subst h
    have hkey : x.1 = tag.toLower := by simpa using List.find?_some hx
    have hmem := List.mem_of_find?_eq_some hx
    exact ⟨List.mem_map.mpr ⟨x, hmem, rfl⟩, (hr.tag_eq x hmem).symm.trans hkey⟩

end Registry

end ShapeSearch
