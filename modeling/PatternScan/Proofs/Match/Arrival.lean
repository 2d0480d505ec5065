import Mathlib.Data.Prod.Lex
import Mathlib.Order.OrderDual
import PatternScan.Proofs.Match.Traversal

/-!
# Matches in any order of arrival

Sorting by a key puts the same keys at the same places, in whatever order the list arrives. The
key of scan order tells the span and the group of a match and leaves out its text only. So the
trees of two arrangements of the same matches are alike: they differ at most in the texts of
matches with equal span and group.
-/

namespace PatternScan

namespace Match

/-- Two sorted arrangements of one list agree in everything that the sort key determines. -/
theorem map_mergeSort_eq_of_perm {α β κ : Type} [LinearOrder κ] {key : α → κ}
    {le : α → α → Bool} {f : α → β} {as bs : List α}
    (hle : ∀ a b, le a b = true ↔ key a ≤ key b)
    (hf : ∀ a ∈ as, ∀ b ∈ as, key a = key b → f a = f b) (h : as.Perm bs) :
    (as.mergeSort le).map f = (bs.mergeSort le).map f := by
  have hsorted (l : List α) : ((l.mergeSort le).map key).Pairwise (· ≤ ·) := by
    refine List.pairwise_map.2 ?_
    refine (List.pairwise_mergeSort (fun a b c hab hbc => ?_) (fun a b => ?_) l).imp (hle _ _).1
    · exact (hle a c).2 (((hle a b).1 hab).trans ((hle b c).1 hbc))
    · rw [Bool.or_eq_true, hle, hle]
      exact le_total _ _
  have hperm : (as.mergeSort le).Perm (bs.mergeSort le) :=
    (List.mergeSort_perm as le).trans (h.trans (List.mergeSort_perm bs le).symm)
  have hkeys : (as.mergeSort le).map key = (bs.mergeSort le).map key :=
    (hperm.map key).eq_of_pairwise (fun _ _ _ _ => le_antisymm) (hsorted as) (hsorted bs)
  refine List.ext_getElem (by simp [h.length_eq]) fun i ha hb => ?_
  rw [List.getElem_map, List.getElem_map]
  refine hf _ ?_ _ ?_ ?_
  · exact List.mem_mergeSort.1 (List.getElem_mem _)
  · exact h.mem_iff.2 (List.mem_mergeSort.1 (List.getElem_mem _))
  · have hkey := List.getElem_of_eq hkeys (List.length_map key ▸ List.length_map f ▸ ha)
    rwa [List.getElem_map, List.getElem_map] at hkey

/-- Where a match lies and which group took it: all of it but the text. -/
def site (m : Match) : Span × Nat := (m.span, m.group)

/-- The key of scan order: by first offset, from the outside in, by group. -/
def scanKey (m : Match) : Nat ×ₗ Natᵒᵈ ×ₗ Nat :=
  toLex (m.span.first, toLex (OrderDual.toDual m.span.last, m.group))

theorem precedes_iff_scanKey_le (m n : Match) :
    m.precedes n = true ↔ m.scanKey ≤ n.scanKey := by
  simp [precedes_iff, scanKey, Prod.Lex.toLex_le_toLex]

theorem scanKey_eq_iff {m n : Match} : m.scanKey = n.scanKey ↔ m.site = n.site := by
  obtain ⟨-, ⟨a, b⟩, k⟩ := m
  obtain ⟨-, ⟨c, d⟩, l⟩ := n
  simp [scanKey, site, and_assoc]

/-- Matches of equal span and group have equal texts. -/
def TextsAgree (ms : List Match) : Prop := ∀ m ∈ ms, ∀ n ∈ ms, m.site = n.site → m.text = n.text

instance (ms : List Match) : Decidable (TextsAgree ms) :=
  inferInstanceAs (Decidable (∀ m ∈ ms, ∀ n ∈ ms, _))

section

variable {ms ns : List Match}

theorem map_site_scanOrder (h : ms.Perm ns) :
    (scanOrder ms).map site = (scanOrder ns).map site :=
  map_mergeSort_eq_of_perm precedes_iff_scanKey_le (fun _ _ _ _ => scanKey_eq_iff.1) h

/-- Where span and group tell the text, scan order has no ties left. -/
theorem scanOrder_eq_of_perm (htexts : TextsAgree ms) (h : ms.Perm ns) :
    scanOrder ms = scanOrder ns := by
  have hequal : ∀ m ∈ ms, ∀ n ∈ ms, m.scanKey = n.scanKey → id m = id n := by
    intro m hm n hn hkey
    have hsite := scanKey_eq_iff.1 hkey
    have htext := htexts m hm n hn hsite
    cases m
    cases n
    simp_all [site]
  have hsorted := map_mergeSort_eq_of_perm precedes_iff_scanKey_le hequal h
  rwa [List.map_id, List.map_id] at hsorted

/-- The matches put in an order in which each precedes the next ones are in scan order. -/
theorem scanOrder_eq_of_ordered (htexts : TextsAgree ms) (h : ms.Perm ns)
    (hordered : ns.Pairwise fun m n => m.precedes n = true) : scanOrder ms = ns :=
  (scanOrder_eq_of_perm htexts h).trans (List.mergeSort_of_pairwise hordered)

end

end Match

namespace MatchTree

/-- Trees of one shape whose nodes carry matches of the same span and group. -/
structure Alike (t u : MatchTree) : Prop where
  sites : t.items.map Match.site = u.items.map Match.site
  parents : t.parents = u.parents

/-- Parents depend on the spans of the matches only. -/
theorem parentsFrom_congr {ms ns : List Match} (h : ms.map Match.site = ns.map Match.site)
    (stack : List OpenMatch) (id : Nat) : parentsFrom stack id ms = parentsFrom stack id ns := by
  induction ms generalizing ns stack id with
  | nil =>
      rw [List.map_nil, eq_comm, List.map_eq_nil_iff] at h
      rw [h]
  | cons m ms ih =>
      rw [List.map_cons, eq_comm, List.map_eq_cons_iff] at h
      obtain ⟨n, ns, rfl, hsite, hrest⟩ := h
      have hspan : n.span = m.span := congrArg Prod.fst hsite
      simp only [parentsFrom, hspan, ih hrest.symm]

/-- The trees of two arrangements of the same matches are alike. -/
theorem alike_build {ms ns : List Match} (h : ms.Perm ns) : (build ms).Alike (build ns) where
  sites := Match.map_site_scanOrder h
  parents := parentsFrom_congr (Match.map_site_scanOrder h) [] 1

theorem build_eq_of_perm {ms ns : List Match} (htexts : Match.TextsAgree ms) (h : ms.Perm ns) :
    build ms = build ns := by
  rw [build, build, Match.scanOrder_eq_of_perm htexts h]

namespace Alike

variable {t u : MatchTree}

theorem matchCount_eq (h : t.Alike u) : t.matchCount = u.matchCount := by
  simpa [matchCount] using congrArg List.length h.sites

theorem parent?_eq (h : t.Alike u) (p : Nat) : t.parent? p = u.parent? p := by
  cases p with
  | zero => rfl
  | succ k => rw [parent?, parent?, h.parents]

theorem children_eq (h : t.Alike u) (p : Nat) : t.children p = u.children p := by
  simp only [children, h.matchCount_eq, h.parent?_eq]

theorem site_item? (h : t.Alike u) (p : Nat) :
    (t.item? p).map Match.site = (u.item? p).map Match.site := by
  cases p with
  | zero => rfl
  | succ k => rw [item?, item?, ← List.getElem?_map, h.sites, List.getElem?_map]

/-- What is read off a node without its text is the same in both trees. -/
theorem bind_item? {γ : Type} (h : t.Alike u) (f : Span × Nat → Option γ) (p : Nat) :
    ((t.item? p).bind fun m => f m.site) = (u.item? p).bind fun m => f m.site :=
  calc ((t.item? p).bind fun m => f m.site)
    _ = ((t.item? p).map Match.site).bind f := Option.bind_map.symm
    _ = ((u.item? p).map Match.site).bind f := by rw [h.site_item?]
    _ = (u.item? p).bind fun m => f m.site := Option.bind_map

theorem postOrderFrom_eq (h : t.Alike u) (p : Nat) : t.postOrderFrom p = u.postOrderFrom p := by
  induction p using postOrderFrom.induct t with
  | case1 p ih =>
      rw [MatchTree.postOrderFrom_eq, MatchTree.postOrderFrom_eq, ← h.children_eq]
      refine congrArg (· ++ [p]) ?_
      exact List.flatMap_congr fun c hc => ih ⟨c, hc⟩

theorem postOrder_eq (h : t.Alike u) : t.postOrder = u.postOrder := h.postOrderFrom_eq root

end Alike

end MatchTree

end PatternScan
