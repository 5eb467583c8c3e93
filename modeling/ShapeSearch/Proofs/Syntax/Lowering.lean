import ShapeSearch.Proofs.Syntax.Replay

/-!
# Lowering through a cursor is a pre-order replay

The cursor walk of `ParseTree.lower` interleaves opening and closing with moves down,
across and up.  Read recursively, it replays the tree in pre-order: open the node, mark it
missing if it is, replay the children, close it (`ParseTree.replay`).  `visit_eq` and
`climb_eq` say so, by induction on the tree and on the siblings still to come: visiting a
node replays its subtree and then climbs from it, and climbing from a node replays its
later siblings, closes the parent and climbs from there.

With what replaying builds (`replay_new`), `lower_eq_ok_iff_preorder` says what lowering
gives: the tree exactly when every span fits, with the nodes in pre-order and the error
sites in pre-order, which is document order.
-/

namespace ShapeSearch

namespace ParseTree

namespace Cursor

/-- The cursor on the parent is the same from every child: the children before the cursor's
node, reversed back, the node, and those after it. -/
theorem gotoNextSibling_gotoParent {c c' p : Cursor} (hs : c.gotoNextSibling = some c')
    (hp : c.gotoParent = some p) : c'.gotoParent = some p := by
  unfold gotoNextSibling at hs
  unfold gotoParent at hp
  split at hs
  · rename_i fr up hpath
    rw [hpath] at hp
    split at hs
    · rename_i f x more ha
      cases hs
      cases hp
      simp [gotoParent, ha]
    · cases hs
  · cases hs

end Cursor

mutual

/-- **Visiting a node replays its subtree**, then climbs from it. -/
theorem visit_eq : ∀ (t : ParseTree) (b : Builder) (c : Cursor), c.node = t →
    visit b c = t.replay b c.field >>= fun b' => climb b' c
  | node k n s m cs, b, c, hc => by
    rw [visit]
    simp only [replay, hc, Cursor.fieldName, kind, named, span, missing, bind_assoc]
    congr 1
    funext b1
    congr 1
    funext b2
    cases cs with
    | nil =>
        have hnone : c.gotoFirstChild = none := by simp [Cursor.gotoFirstChild, hc]
        split
        · rename_i c' h
          rw [hnone] at h
          cases h
        · simp [replayAll]
    | cons a rest =>
        obtain ⟨f, x⟩ := a
        have hsome : c.gotoFirstChild =
            some ⟨x, f, ⟨k, n, s, m, c.field, [], rest⟩ :: c.path⟩ := by
          simp [Cursor.gotoFirstChild, hc]
        have hup : Cursor.gotoParent ⟨x, f, ⟨k, n, s, m, c.field, [], rest⟩ :: c.path⟩ =
            some c := by
          cases c
          simp only at hc
          simp [Cursor.gotoParent, hc]
        split
        · rename_i c' h
          rw [hsome] at h
          cases h
          rw [visit_eq x b2 _ rfl, replayAll_cons, bind_assoc]
          congr 1
          funext b3
          rw [climb_eq rest b3 _ c ⟨_, _, rfl, rfl⟩ hup]
        · rename_i h
          rw [hsome] at h
          cases h

/-- **Climbing from a node replays its later siblings**, closes the parent and climbs from
the parent. -/
theorem climb_eq : ∀ (rs : List (Option String × ParseTree)) (b : Builder) (c p : Cursor),
    (∃ fr up, c.path = fr :: up ∧ fr.after = rs) → c.gotoParent = some p →
    climb b c = replayAll b rs >>= fun b' => Builder.result b'.close >>= fun b'' => climb b'' p
  | [], b, c, p, ⟨fr, up, hpath, ha⟩, hp => by
    have hnone : c.gotoNextSibling = none := by simp [Cursor.gotoNextSibling, hpath, ha]
    rw [climb]
    split
    · rename_i c' h
      rw [hnone] at h
      cases h
    · split
      · rename_i h
        rw [hp] at h
        cases h
      · rename_i p' h
        rw [hp] at h
        cases h
        simp [replayAll]
  | (f, x) :: rest, b, c, p, ⟨fr, up, hpath, ha⟩, hp => by
    have hsome : c.gotoNextSibling = some ⟨x, f,
        { fr with before := (c.field, c.node) :: fr.before, after := rest } :: up⟩ := by
      simp [Cursor.gotoNextSibling, hpath, ha]
    have hp' := Cursor.gotoNextSibling_gotoParent hsome hp
    rw [climb]
    split
    · rename_i c' h
      rw [hsome] at h
      cases h
      rw [visit_eq x b _ rfl, replayAll_cons, bind_assoc]
      congr 1
      funext b1
      rw [climb_eq rest b1 _ p ⟨_, _, rfl, rfl⟩ hp']
    · rename_i h
      rw [hsome] at h
      cases h

end

/-- Lowering replays the tree from an empty builder and finishes: at the root there is
neither a sibling nor a parent to climb to. -/
theorem lower_eq_replay (t : ParseTree) (language : String) (source : ByteArray) :
    t.lower language source = t.replay (Builder.new language source) none >>= fun b => b.finish := by
  rw [lower, visit_eq t _ _ rfl]
  congr 1
  funext b
  rw [climb]
  rfl

/-- The builder a fitting tree is replayed to finishes: no node is left open, and the tree
has at least its root. -/
theorem finish_replayed (t : ParseTree) (language : String) (source : ByteArray) :
    ({ Builder.new language source with
        nodes := (t.arena none none 0).toArray, errors := (t.sites 0).toArray } : Builder).finish =
      .ok (t.arenaTree language source) := by
  have hne : (t.arena none none 0).toArray.isEmpty = false := by
    have := size_pos t
    simp only [List.isEmpty_toArray, List.isEmpty_eq_false_iff_exists_mem]
    exact List.exists_mem_of_length_pos (by rw [length_arena]; exact this)
  simp [Builder.finish, Builder.new, hne, arenaTree]

section DocumentOrder

/-- Document order between two error sites: an earlier node's first, and a node's error
site before its missing site. -/
def SiteBefore (s s' : ErrorSite) : Prop :=
  s.node < s'.node ∨ (s.node = s'.node ∧ s.kind = .error ∧ s'.kind = .missing)

theorem ownSites_node {id : Nat} {k : String} {n : Bool} {sp : Span} {m : Bool} {s : ErrorSite}
    (hs : s ∈ ownSites id k n sp m) : s.node = id := by
  unfold ownSites at hs
  split_ifs at hs <;> simp at hs <;> rcases hs with rfl | rfl <;> rfl

theorem ownSites_pairwise (id : Nat) (k : String) (n : Bool) (sp : Span) (m : Bool) :
    (ownSites id k n sp m).Pairwise SiteBefore := by
  unfold ownSites
  split_ifs <;> simp [SiteBefore]

mutual

/-- The sites of a subtree name nodes of its range of ids. -/
theorem sites_node_mem : ∀ (t : ParseTree) (id : Nat) (s : ErrorSite), s ∈ t.sites id →
    id ≤ s.node ∧ s.node < id + t.size
  | node k n sp m cs, id, s, hs => by
    simp only [sites, List.mem_append] at hs
    rcases hs with hown | hkids
    · have := ownSites_node hown
      simp only [size_node]
      omega
    · have := sitesOf_node_mem cs (id + 1) s hkids
      simp only [size_node]
      omega

theorem sitesOf_node_mem : ∀ (cs : List (Option String × ParseTree)) (id : Nat) (s : ErrorSite),
    s ∈ sitesOf id cs → id ≤ s.node ∧ s.node < id + listSize cs
  | [], id, s, hs => by simp [sitesOf] at hs
  | (f, c) :: rest, id, s, hs => by
    simp only [sitesOf, List.mem_append] at hs
    rcases hs with hc | hrest
    · have := sites_node_mem c id s hc
      simp only [listSize_cons]
      omega
    · have := sitesOf_node_mem rest (id + c.size) s hrest
      simp only [listSize_cons]
      omega

end

mutual

/-- **A subtree's sites are in document order**: its top node's own sites, then those of
its children's subtrees, which lie after it and after one another. -/
theorem sites_pairwise : ∀ (t : ParseTree) (id : Nat), (t.sites id).Pairwise SiteBefore
  | node k n sp m cs, id => by
    rw [sites, List.pairwise_append]
    refine ⟨ownSites_pairwise id k n sp m, sitesOf_pairwise cs (id + 1), ?_⟩
    intro s hs s' hs'
    have h := ownSites_node hs
    have h' := sitesOf_node_mem cs (id + 1) s' hs'
    left
    omega

theorem sitesOf_pairwise : ∀ (cs : List (Option String × ParseTree)) (id : Nat),
    (sitesOf id cs).Pairwise SiteBefore
  | [], id => by simp [sitesOf]
  | (f, c) :: rest, id => by
    rw [sitesOf, List.pairwise_append]
    refine ⟨sites_pairwise c id, sitesOf_pairwise rest (id + c.size), ?_⟩
    intro s hs s' hs'
    have h := sites_node_mem c id s hs
    have h' := sitesOf_node_mem rest (id + c.size) s' hs'
    left
    omega

end

end DocumentOrder

/-- **Lowering a parse tree.**  The cursor walk gives a tree exactly when every node's span
passes the checks of opening it (ordered and within the source, within the parent's span,
after the previous sibling's end); the tree then holds the nodes in pre-order, each with
its kind, name flag, field, span and missing flag, its parent and its children, and the
error sites in pre-order, an error site for each named `ERROR` node and then a missing site
for each missing node, which is document order. -/
theorem lower_eq_ok_iff_preorder (T : ParseTree) (language : String) (source : ByteArray)
    (t : SyntaxTree) :
    (T.lower language source = .ok t ↔
      T.fits source.size = true ∧ t = T.arenaTree language source) ∧
    (T.arenaTree language source).errors.toList.Pairwise SiteBefore := by
  refine ⟨?_, by simpa [arenaTree] using sites_pairwise T 0⟩
  have hreplay := Builder.replay_new T language source
  rw [lower_eq_replay]
  cases hfit : T.fits source.size with
  | false =>
      rw [hfit, if_neg Bool.false_ne_true] at hreplay
      obtain ⟨e, he⟩ := Builder.exists_error_of_toOption hreplay
      simp [he, Builder.error_bind]
  | true =>
      rw [hfit, if_pos rfl] at hreplay
      rw [Builder.eq_ok_of_toOption hreplay, Builder.ok_bind, finish_replayed]
      constructor
      · intro h
        cases h
        exact ⟨rfl, rfl⟩
      · rintro ⟨-, rfl⟩
        rfl

end ParseTree

end ShapeSearch
